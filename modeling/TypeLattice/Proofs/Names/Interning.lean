/-
**An interner numbers strings one to one.**

An interner keeps two tables, the number of each string and the string of each number, and changes them
one after the other. They are inverse to each other after any calls, as long as every number fits into
a word.

* `index_intern`: the table of numbers after one call;
* `Paired`: the two tables are inverse to each other, and the empty string has number 0;
* `Paired.intern`, `Paired.internAll`: one string, and strings in turn, keep the tables paired;
* `Call`, `serveAll`: calls in turn, with the numbers that they gave out;
* `numbers_strings_one_to_one`: what this says about any calls on a new interner.
-/

import Mathlib.Data.Finset.Card
import Mathlib.Data.Finset.Dedup
import TypeLattice.Interner

namespace TypeLattice.Interner

variable {pool : Interner} {text : String} {atom : Atom}

/-! ### One string -/

/-- A string that has a number keeps it, and nothing changes. -/
theorem intern_of_known (known : pool.index[text]? = some atom) : pool.intern text = (atom, pool) := by
  unfold intern
  rw [known]

/-- A new string gets the next free number. -/
theorem intern_of_new (new : pool.index[text]? = none) :
    pool.intern text = (⟨pool.size.toUInt32⟩,
      ⟨pool.index.insert text ⟨pool.size.toUInt32⟩, pool.strings.push text⟩) := by
  unfold intern
  rw [new]
  rfl

/-- One call gives a number to one string, and leaves the numbers of all others. -/
theorem index_intern (pool : Interner) (text other : String) :
    (pool.intern text).2.index[other]? =
      if other = text then some (pool.intern text).1 else pool.index[other]? := by
  cases found : pool.index[text]? with
  | some atom =>
      rw [intern_of_known found]
      split
      · rename_i same
        rw [same, found]
      · rfl
  | none =>
      simp only [intern_of_new found, Std.HashMap.getElem?_insert, beq_iff_eq, @eq_comm _ text]

/-- A string keeps its number. -/
theorem index_intern_of_known (known : pool.index[text]? = some atom) (other : String) :
    (pool.intern other).2.index[text]? = some atom := by
  rw [index_intern]
  split
  · rename_i same
    rw [← same, intern_of_known known]
  · exact known

theorem size_le_intern (pool : Interner) (text : String) : pool.size ≤ (pool.intern text).2.size := by
  cases found : pool.index[text]? with
  | some atom => rw [intern_of_known found]
  | none => simp [intern_of_new found, size]

theorem size_intern_le (pool : Interner) (text : String) : (pool.intern text).2.size ≤ pool.size + 1 := by
  cases found : pool.index[text]? with
  | some atom => simp [intern_of_known found]
  | none => simp [intern_of_new found, size]

/-- The two tables are inverse to each other, and the empty string has number 0. -/
structure Paired (pool : Interner) : Prop where
  inverse : ∀ (text : String) (atom : Atom),
    pool.index[text]? = some atom ↔ pool.strings[atom.val.toNat]? = some text
  first : pool.index[""]? = some ⟨0⟩

theorem paired_empty : empty.Paired := by
  refine ⟨fun text atom => ?_, by simp [empty]⟩
  simp only [empty, Std.HashMap.getElem?_insert, beq_iff_eq, Std.HashMap.getElem?_empty]
  constructor
  · intro found
    split at found
    · rename_i isEmpty
      cases found
      rw [← isEmpty]
      rfl
    · cases found
  · intro found
    obtain ⟨inside, same⟩ := Array.getElem?_eq_some_iff.mp found
    have isZero : atom.val.toNat = 0 := by simpa using inside
    have isEmpty : "" = text := by simpa [isZero] using same
    rw [if_pos isEmpty, ← UInt32.toNat_inj.mp (isZero.trans UInt32.toNat_zero.symm)]

/-- **One call keeps the tables paired**, if the number that it gives fits into a word. -/
theorem Paired.intern (paired : pool.Paired) (text : String)
    (fits : (pool.intern text).2.size ≤ 4294967296) : (pool.intern text).2.Paired := by
  cases found : pool.index[text]? with
  | some atom => rwa [intern_of_known found]
  | none =>
      refine ⟨fun other atom => ?_, index_intern_of_known paired.first text⟩
      rw [index_intern]
      rw [intern_of_new found] at fits ⊢
      have room : pool.size < 4294967296 := by
        simp only [size, Array.size_push] at fits
        exact fits
      have number : pool.size.toUInt32.toNat = pool.size := toNat_toUInt32 room
      simp only [Array.getElem?_push]
      by_cases isNew : atom.val.toNat = pool.strings.size
      · -- The number lies beyond the strings there were, so no other string has it.
        have same : (⟨pool.size.toUInt32⟩ : Atom) = atom :=
          congrArg Atom.mk (UInt32.toNat_inj.mp (number.trans isNew.symm))
        have free : pool.index[other]? ≠ some atom := by
          rw [ne_eq, paired.inverse, isNew]
          simp
        rw [if_pos isNew]
        by_cases here : other = text
        · simp [here, same]
        · simp [here, free, Ne.symm here]
      · have different : (⟨pool.size.toUInt32⟩ : Atom) ≠ atom := by
          rintro rfl
          exact isNew number
        rw [if_neg isNew, ← paired.inverse]
        by_cases here : other = text
        · simp [here, different, found]
        · rw [if_neg here]

/-! ### Strings in turn -/

theorem internAll_cons (pool : Interner) (text : String) (rest : List String) :
    pool.internAll (text :: rest) = (pool.intern text).2.internAll rest :=
  rfl

theorem internAll_append (pool : Interner) (texts later : List String) :
    pool.internAll (texts ++ later) = (pool.internAll texts).internAll later :=
  List.foldl_append

theorem size_le_internAll (texts : List String) (pool : Interner) :
    pool.size ≤ (pool.internAll texts).size := by
  induction texts generalizing pool with
  | nil => exact Nat.le_refl _
  | cons text rest ih => exact Nat.le_trans (size_le_intern pool text) (ih _)

theorem size_internAll_le (texts : List String) (pool : Interner) :
    (pool.internAll texts).size ≤ pool.size + texts.length := by
  induction texts generalizing pool with
  | nil => exact Nat.le_refl _
  | cons text rest ih =>
      have one := size_intern_le pool text
      have others := ih (pool.intern text).2
      rw [internAll_cons, List.length_cons]
      omega

/-- **What one call keeps, strings in turn keep.** -/
theorem Paired.internAll {texts : List String} (paired : pool.Paired)
    (fits : (pool.internAll texts).size ≤ 4294967296) : (pool.internAll texts).Paired := by
  induction texts generalizing pool with
  | nil => exact paired
  | cons text rest ih =>
      exact ih (paired.intern text (Nat.le_trans (size_le_internAll rest _) fits)) fits

theorem index_internAll_of_known {texts : List String} (known : pool.index[text]? = some atom) :
    (pool.internAll texts).index[text]? = some atom := by
  induction texts generalizing pool with
  | nil => exact known
  | cons other rest ih => exact ih (index_intern_of_known known other)

/-- Strings that all have numbers change nothing. -/
theorem internAll_of_known {texts : List String}
    (known : ∀ text ∈ texts, (pool.index[text]?).isSome) : pool.internAll texts = pool := by
  induction texts with
  | nil => rfl
  | cons text rest ih =>
      obtain ⟨here, later⟩ := List.forall_mem_cons.mp known
      obtain ⟨atom, found⟩ := Option.isSome_iff_exists.mp here
      rw [internAll_cons, intern_of_known found]
      exact ih later

/-- The numbers that strings get when they are interned in turn. -/
def issued (pool : Interner) : List String → List (String × Atom)
  | [] => []
  | text :: rest => (text, (pool.intern text).1) :: (pool.intern text).2.issued rest

theorem issued_append (texts later : List String) :
    pool.issued (texts ++ later) = pool.issued texts ++ (pool.internAll texts).issued later := by
  induction texts generalizing pool with
  | nil => rfl
  | cons text rest ih =>
      rw [List.cons_append, issued, issued, ih, List.cons_append, internAll_cons]

/-- The numbers are given to the strings, one to each. -/
theorem map_fst_issued (texts : List String) : (pool.issued texts).map Prod.fst = texts := by
  induction texts generalizing pool with
  | nil => rfl
  | cons text rest ih => rw [issued, List.map_cons, ih]

/-- A number that was given out is in the table. -/
theorem index_of_mem_issued {texts : List String} (given : (text, atom) ∈ pool.issued texts) :
    (pool.internAll texts).index[text]? = some atom := by
  induction texts generalizing pool with
  | nil => cases given
  | cons other rest ih =>
      rcases List.mem_cons.mp given with here | later
      · cases here
        have known : (pool.intern text).2.index[text]? = some (pool.intern text).1 := by
          rw [index_intern, if_pos rfl]
        rw [internAll_cons]
        exact index_internAll_of_known known
      · exact ih later

/-- Nothing else was put into the table. -/
theorem mem_issued_of_index {texts : List String}
    (known : (pool.internAll texts).index[text]? = some atom) :
    pool.index[text]? = some atom ∨ (text, atom) ∈ pool.issued texts := by
  induction texts generalizing pool with
  | nil => exact .inl known
  | cons other rest ih =>
      rcases ih known with early | later
      · rw [index_intern] at early
        split at early
        · rename_i same
          cases early
          rw [same]
          exact .inr List.mem_cons_self
        · exact .inl early
      · exact .inr (List.mem_cons_of_mem _ later)

/-- In a table that was new, there is what was given out and the empty string. -/
theorem index_internAll_empty_iff {texts : List String} :
    (empty.internAll texts).index[text]? = some atom ↔
      (text, atom) ∈ ("", ⟨0⟩) :: empty.issued texts := by
  rw [List.mem_cons]
  constructor
  · intro known
    refine (mem_issued_of_index known).imp_left fun found => ?_
    simp only [empty, Std.HashMap.getElem?_insert, beq_iff_eq, Std.HashMap.getElem?_empty] at found
    split at found
    · rename_i isEmpty
      cases found
      rw [isEmpty]
    · cases found
  · rintro (isFirst | given)
    · cases isFirst
      exact index_internAll_of_known paired_empty.first
    · exact index_of_mem_issued given

/-! ### What paired tables say -/

namespace Paired

theorem resolve_of_index (paired : pool.Paired) (known : pool.index[text]? = some atom) :
    pool.resolve atom = text := by
  simp [resolve, (paired.inverse text atom).mp known]

/-- Two strings with one number are the same. -/
theorem eq_of_index (paired : pool.Paired) {other : String} (known : pool.index[text]? = some atom)
    (known' : pool.index[other]? = some atom) : text = other := by
  rw [← paired.resolve_of_index known, paired.resolve_of_index known']

/-- The numbers in use are those below the number of strings. -/
theorem exists_index_iff (paired : pool.Paired) (atom : Atom) :
    (∃ text : String, pool.index[text]? = some atom) ↔ atom.val.toNat < pool.size := by
  simp only [paired.inverse, size]
  constructor
  · rintro ⟨text, found⟩
    exact (Array.getElem?_eq_some_iff.mp found).1
  · exact fun inside => ⟨_, Array.getElem?_eq_getElem inside⟩

/-- A number that is not in use stands for the empty string. -/
theorem resolve_of_unused (paired : pool.Paired) (unused : ∀ text : String, pool.index[text]? ≠ some atom) :
    pool.resolve atom = "" := by
  have beyond : ¬ atom.val.toNat < pool.size := by
    rw [← paired.exists_index_iff]
    rintro ⟨text, known⟩
    exact unused text known
  simp [resolve, Array.getElem?_eq_none (Nat.le_of_not_lt beyond)]

/-- The string at a position has that position for its number. -/
theorem index_of_position (paired : pool.Paired) (fits : pool.size ≤ 4294967296) {position : Nat}
    (found : pool.strings[position]? = some text) :
    pool.index[text]? = some ⟨position.toUInt32⟩ := by
  have inside : position < pool.strings.size := (Array.getElem?_eq_some_iff.mp found).1
  rw [paired.inverse, toNat_toUInt32 (Nat.lt_of_lt_of_le inside fits), found]

/-- No string stands at two positions. -/
theorem nodup_strings (paired : pool.Paired) (fits : pool.size ≤ 4294967296) :
    pool.strings.toList.Nodup := by
  rw [List.nodup_iff_getElem?_ne_getElem?]
  intro first second before inside same
  simp only [Array.getElem?_toList, Array.length_toList] at same inside
  have found := Array.getElem?_eq_getElem inside
  have number := paired.index_of_position fits found
  rw [paired.index_of_position fits (same.trans found), Option.some.injEq, Atom.mk.injEq,
    ← UInt32.toNat_inj] at number
  have second_lt : second < 4294967296 := Nat.lt_of_lt_of_le inside fits
  rw [toNat_toUInt32 second_lt, toNat_toUInt32 (Nat.lt_trans before second_lt)] at number
  omega

/-- There are as many numbers in use as strings that have one. -/
theorem size_eq_card (paired : pool.Paired) (fits : pool.size ≤ 4294967296) {texts : List String}
    (exact : ∀ text, text ∈ texts ↔ (pool.index[text]?).isSome) :
    pool.size = texts.toFinset.card := by
  have same : pool.strings.toList.toFinset = texts.toFinset := by
    ext text
    simp only [List.mem_toFinset, exact, Option.isSome_iff_exists, Array.mem_toList_iff,
      Array.mem_iff_getElem?]
    constructor
    · rintro ⟨position, found⟩
      exact ⟨_, paired.index_of_position fits found⟩
    · rintro ⟨atom, known⟩
      exact ⟨_, (paired.inverse text atom).mp known⟩
  rw [← same, List.toFinset_card_of_nodup (paired.nodup_strings fits)]
  simp [size]

end Paired

/-! ### Calls -/

/-- A call to an interner. -/
inductive Call where
  /-- Ask for the number of a string. -/
  | intern (text : String)
  /-- Give numbers to the common member names. -/
  | internCommon
deriving DecidableEq

/-- The strings that a call interns. -/
def Call.texts : Call → List String
  | intern text => [text]
  | internCommon => commonNames

/-- Serve a call, and note the number of each string that it interns. -/
def serve (pool : Interner) : Call → List (String × Atom) × Interner
  | .intern text =>
    let (atom, next) := pool.intern text
    ([(text, atom)], next)
  | .internCommon => (pool.issued commonNames, pool.internCommon)

/-- Serve calls in turn. -/
def serveAll (pool : Interner) : List Call → List (String × Atom) × Interner
  | [] => ([], pool)
  | call :: rest =>
    let (given, next) := pool.serve call
    let (others, last) := next.serveAll rest
    (given ++ others, last)

/-- To serve calls in turn is to intern their strings in turn. -/
theorem serveAll_eq (pool : Interner) (calls : List Call) :
    pool.serveAll calls =
      (pool.issued (calls.flatMap Call.texts), pool.internAll (calls.flatMap Call.texts)) := by
  induction calls generalizing pool with
  | nil => rfl
  | cons call rest ih =>
      have one : pool.serve call = (pool.issued call.texts, pool.internAll call.texts) := by
        cases call <;> rfl
      simp only [serveAll, one, ih, List.flatMap_cons, issued_append, internAll_append]

/-- **An interner numbers strings one to one.** Make any calls on a new interner, such that it holds
fewer than 2 ^ 32 strings. Then

* its two tables are inverse to each other;
* a string that is interned now is found under its number at once, and every number ever given out
  still stands for its string;
* two strings got the same number exactly when they are the same;
* the empty string has number 0;
* the numbers given out are those below the size, and the size is the number of different strings, the
  empty one included;
* to intern a string again gives its number and changes nothing, and so do the common names;
* a number that was not given out stands for the empty string. -/
theorem numbers_strings_one_to_one (calls : List Call) (small : (empty.serveAll calls).2.size < 4294967296) :
    let pool := (empty.serveAll calls).2
    let given := ("", (⟨0⟩ : Atom)) :: (empty.serveAll calls).1
    (∀ (text : String) (atom : Atom),
      pool.index[text]? = some atom ↔ pool.strings[atom.val.toNat]? = some text) ∧
    (∀ text, (pool.intern text).2.resolve (pool.intern text).1 = text) ∧
    (∀ one ∈ given, pool.resolve one.2 = one.1) ∧
    (∀ one ∈ given, ∀ other ∈ given, one.2 = other.2 ↔ one.1 = other.1) ∧
    pool.intern "" = (⟨0⟩, pool) ∧
    (∀ atom, (∃ one ∈ given, one.2 = atom) ↔ atom.val.toNat < pool.size) ∧
    pool.size = (given.map Prod.fst).toFinset.card ∧
    (∀ one ∈ given, pool.intern one.1 = (one.2, pool)) ∧
    (.internCommon ∈ calls → pool.internCommon = pool) ∧
    ∀ atom, (∀ one ∈ given, one.2 ≠ atom) → pool.resolve atom = "" := by
  intro pool given
  have run : empty.serveAll calls = _ := serveAll_eq empty calls
  have fits : pool.size ≤ 4294967296 := Nat.le_of_lt small
  have paired : pool.Paired := by
    simp only [pool, run] at fits ⊢
    exact paired_empty.internAll fits
  have known (text : String) (atom : Atom) : pool.index[text]? = some atom ↔ (text, atom) ∈ given := by
    simp only [pool, given, run]
    exact index_internAll_empty_iff
  have isKnown (one : String × Atom) (member : one ∈ given) : pool.index[one.1]? = some one.2 :=
    (known one.1 one.2).mpr member
  refine ⟨paired.inverse, fun text => ?_, fun one member => paired.resolve_of_index (isKnown one member),
    fun one member other member' => ⟨fun same => ?_, fun same => ?_⟩, intern_of_known paired.first,
    fun atom => ?_, paired.size_eq_card fits fun text => ?_,
    fun one member => intern_of_known (isKnown one member), fun called => ?_, fun atom unused => ?_⟩
  · -- The string may be new: there is room for one more.
    refine (paired.intern text ?_).resolve_of_index (by rw [index_intern, if_pos rfl])
    exact Nat.le_trans (size_intern_le pool text) small
  · exact paired.eq_of_index (isKnown one member) (same ▸ isKnown other member')
  · have found := isKnown one member
    rw [same, isKnown other member'] at found
    exact (Option.some.inj found).symm
  · rw [← paired.exists_index_iff]
    simp only [known, Prod.exists]
    exact ⟨fun ⟨text, _, member, same⟩ => ⟨text, same ▸ member⟩,
      fun ⟨text, member⟩ => ⟨text, atom, member, rfl⟩⟩
  · simp only [List.mem_map, Option.isSome_iff_exists, known, Prod.exists]
    exact ⟨fun ⟨_, atom, member, same⟩ => ⟨atom, same ▸ member⟩,
      fun ⟨atom, member⟩ => ⟨text, atom, member, rfl⟩⟩
  · refine internAll_of_known fun text member => ?_
    have interned : text ∈ calls.flatMap Call.texts := List.mem_flatMap.mpr ⟨_, called, member⟩
    rw [← map_fst_issued (calls.flatMap Call.texts)] at interned
    obtain ⟨one, inIssued, rfl⟩ := List.mem_map.mp interned
    rw [isKnown one]
    · rfl
    · simp only [given, run]
      exact List.mem_cons_of_mem _ inIssued
  · exact paired.resolve_of_unused fun text found => unused (text, atom) ((known text atom).mp found) rfl

/-- A common name and another string come first, and get the numbers 1 and 2. -/
def earlyNames : List Call := [.intern "size", .intern "total", .internCommon, .intern "total"]

/-- The number 2 stands for the other string, and to intern the common names again changes nothing. -/
theorem numbers_strings_one_to_one_earlyNames :
    (empty.serveAll earlyNames).2.size < 4294967296 ∧
      (empty.serveAll earlyNames).2.resolve ⟨2⟩ = "total" ∧
      (empty.serveAll earlyNames).2.internCommon = (empty.serveAll earlyNames).2 := by
  have small : (empty.serveAll earlyNames).2.size < 4294967296 := by
    have bound := size_internAll_le (earlyNames.flatMap Call.texts) empty
    have length : (earlyNames.flatMap Call.texts).length = 27 := rfl
    have start : empty.size = 1 := rfl
    simp only [serveAll_eq]
    omega
  have second : ("total", (⟨2⟩ : Atom)) ∈ (empty.serveAll earlyNames).1 := by
    simp [earlyNames, serveAll, serve, intern, empty]
  obtain ⟨-, -, resolved, -, -, -, -, -, again, -⟩ := numbers_strings_one_to_one earlyNames small
  exact ⟨small, resolved _ (List.mem_cons_of_mem _ second), again (by decide)⟩

end TypeLattice.Interner
