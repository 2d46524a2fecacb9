/-
**A search for a method, round by round.**

A search goes from a class to its superclass until a class has the method or there is no class to go to.
Nothing in a round says that this comes to an end. It does because superclasses are older than their
classes: the numbers of the classes go down.

* `OlderAbove`: superclasses are older;
* `searchIn_eq`: then the search through the list of classes is a walk up the classes;
* `round`, `loop`: one round of the walk, and rounds in turn;
* `loop_eq_searchIn`: the rounds end with the answer of the search, whichever class is asked. There are
  at most as many of them as there are classes up to that one.
-/

import TypeLattice.ClassTable

namespace TypeLattice.ClassTable

variable {μ : Type}

/-! ### The list of classes -/

theorem entryIn_eq_none_iff {classes : List (ClassEntry μ)} {number : Nat} :
    entryIn classes number = none ↔ classes.length ≤ number := by
  induction classes with
  | nil => simp [entryIn]
  | cons entry older ih =>
      rw [entryIn, List.length_cons]
      split
      · simp only [reduceCtorEq, false_iff]
        omega
      · rw [ih]
        omega

theorem lt_of_entryIn {classes : List (ClassEntry μ)} {number : Nat} {entry : ClassEntry μ}
    (found : entryIn classes number = some entry) : number < classes.length := by
  rw [← Nat.not_le, ← entryIn_eq_none_iff, found]
  simp

/-- Each superclass is older than its class. -/
def OlderAbove (classes : List (ClassEntry μ)) : Prop :=
  ∀ number entry parent, entryIn classes number = some entry → entry.superclass = some parent →
    parent.val.toNat < number

/-- **A search is a walk up the classes.** It goes on in the older classes only, and that is where the
superclass is. -/
theorem searchIn_eq (select : ClassEntry μ → List (Atom × μ)) (member : Atom)
    {classes : List (ClassEntry μ)} (ordered : OlderAbove classes) (number : Nat) :
    searchIn select member classes number = (entryIn classes number).bind fun entry =>
      ((select entry).lookup member).or
        (entry.superclass.bind fun parent => searchIn select member classes parent.val.toNat) := by
  induction classes generalizing number with
  | nil => rfl
  | cons newest older ih =>
      have skip (other : Nat) (isOlder : other < older.length) :
          searchIn select member (newest :: older) other = searchIn select member older other := by
        rw [searchIn, if_neg (by omega)]
      have inOlder (other : Nat) (isOlder : other ≠ older.length) :
          entryIn (newest :: older) other = entryIn older other := by
        rw [entryIn, if_neg isOlder]
      by_cases here : number = older.length
      · have found : entryIn (newest :: older) number = some newest := by rw [entryIn, if_pos here]
        rw [found, searchIn, if_pos here, Option.bind_some]
        cases (select newest).lookup member with
        | some method => rfl
        | none =>
            cases above : newest.superclass with
            | none => rfl
            | some parent =>
                -- The search goes on without the newest class, which the superclass is not.
                have isOlder := ordered number newest parent found above
                simp only [Option.none_or, Option.bind_some]
                rw [skip _ (by omega)]
      · have orderedOlder : OlderAbove older := by
          intro other entry parent found above
          refine ordered other entry parent ?_ above
          rwa [inOlder other (Nat.ne_of_lt (lt_of_entryIn found))]
        rw [searchIn, if_neg here, inOlder number here, ih orderedOlder]
        refine Option.bind_congr fun entry found => ?_
        congr 1
        refine Option.bind_congr fun parent above => ?_
        rw [skip _ (Nat.lt_trans (orderedOlder _ _ _ found above) (lt_of_entryIn found))]

/-! ### Rounds -/

/-- What a round of a search comes to. -/
inductive Round (μ : Type) where
  /-- The search ends with an answer. -/
  | ends (answer : Option μ)
  /-- The search goes on at a class. -/
  | goesOn (cls : ClassId)

section Rounds

variable (table : ClassTable μ) (select : ClassEntry μ → List (Atom × μ)) (member : Atom)

/-- One round of a search, at the class `cls`. -/
def round (cls : ClassId) : Round μ :=
  match table.entry? cls with
  | none => .ends none
  | some entry =>
    match (select entry).lookup member with
    | some method => .ends (some method)
    | none =>
      match entry.superclass with
      | none => .ends none
      | some parent => .goesOn parent

/-- The answer of a search that ends within the given number of rounds. -/
def loop : Nat → ClassId → Option (Option μ)
  | 0, _ => none
  | rounds + 1, cls =>
    match table.round select member cls with
    | .ends answer => some answer
    | .goesOn parent => loop rounds parent

variable {table}

/-- **The rounds of a search come to an end**, with the answer of the walk through the list of classes.
The induction is on the rounds: each of them that does not end the search goes on at an older class. -/
theorem loop_eq_searchIn (ordered : OlderAbove table.classes) {rounds : Nat} {cls : ClassId}
    (enough : cls.val.toNat < rounds) :
    table.loop select member rounds cls =
      some (searchIn select member table.classes cls.val.toNat) := by
  induction rounds generalizing cls with
  | zero => exact absurd enough (Nat.not_lt_zero _)
  | succ rounds ih =>
      rw [searchIn_eq select member ordered, loop, round, entry?]
      cases found : entryIn table.classes cls.val.toNat with
      | none => rfl
      | some entry =>
          rw [Option.bind_some]
          cases own : (select entry).lookup member with
          | some method => simp only [own, Option.some_or]
          | none =>
              cases above : entry.superclass with
              | none => simp only [own, above, Option.none_or, Option.bind_none]
              | some parent =>
                  have older := ordered _ entry parent found above
                  simp only [own, above, Option.none_or, Option.bind_some]
                  exact ih (by omega)

end Rounds

end TypeLattice.ClassTable
