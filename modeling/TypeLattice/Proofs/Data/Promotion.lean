/-
**Promotion takes a datum leaf by leaf.**

An array has a type exactly when all data in it have one, arrays in arrays included. So the leaves alone
decide: they are asked from left to right, and the first that is refused speaks for the whole.

* `leaves`: the data of a nested array that are no arrays, from left to right;
* `refusal?`: why a leaf is refused, if it is;
* `refused_promote`: a datum is refused as the first of its leaves that is refused;
* `Mirrors`: how a type mirrors a datum; `promote_eq_ok_iff`: a type is given exactly when it does;
* `isContextFree_of_promote`: a promoted type holds no local array;
* `promotion_reports_first_offender`: these together.
-/

import Mathlib.Data.List.Forall2
import TypeLattice.ClassTable
import TypeLattice.Datum
import TypeLattice.Ty.Closed

namespace TypeLattice.Datum

variable {core : CoreClasses}

/-! ### Leaves -/

mutual

/-- The data that are reached through arrays and are none themselves, from left to right. -/
def leaves : Datum → List Datum
  | .array elems => leavesAll elems
  | .constant value => [.constant value]
  | .nil => [.nil]
  | .classObject cls => [.classObject cls]
  | .float value => [.float value]
  | .hash entries => [.hash entries]
termination_by structural datum => datum

/-- The leaves of data that stand side by side. -/
def leavesAll : List Datum → List Datum
  | [] => []
  | datum :: rest => datum.leaves ++ leavesAll rest
termination_by structural data => data

end

mutual

/-- A leaf is its only leaf. -/
theorem leaves_of_mem_leaves (datum : Datum) {leaf : Datum} (reached : leaf ∈ datum.leaves) :
    leaf.leaves = [leaf] := by
  cases datum with
  | array elems => exact leaves_of_mem_leavesAll elems reached
  | constant | nil | classObject | float | hash =>
      rw [List.mem_singleton.mp reached]
      rfl

theorem leaves_of_mem_leavesAll (data : List Datum) {leaf : Datum} (reached : leaf ∈ leavesAll data) :
    leaf.leaves = [leaf] := by
  cases data with
  | nil => cases reached
  | cons datum rest =>
      rcases List.mem_append.mp reached with here | later
      · exact leaves_of_mem_leaves datum here
      · exact leaves_of_mem_leavesAll rest later

end

/-! ### Refusals -/

/-- Why a datum is refused for its own sake, whatever it may hold: floats, hashes, and class objects
other than the root class. -/
def refusal? (core : CoreClasses) : Datum → Option Refusal
  | .float _ => some (.unsupportedKind "float")
  | .hash _ => some (.unsupportedKind "hash")
  | .classObject cls => if cls = core.object.id then none else some (.unsupportedClass cls)
  | .constant _ | .nil | .array _ => none

/-- The refusal that an answer consists of, if it is one. -/
def refused {α : Type} : Except Refusal α → Option Refusal
  | .ok _ => none
  | .error refusal => some refusal

section Answers

variable {α : Type} {answer : Except Refusal α}

theorem refused_eq_some_iff {refusal : Refusal} :
    refused answer = some refusal ↔ answer = .error refusal := by
  cases answer <;> simp [refused]

theorem refused_eq_none_iff : refused answer = none ↔ ∃ value, answer = .ok value := by
  cases answer <;> simp [refused]

end Answers

theorem refused_promote_array (elems : List Datum) :
    refused (promote core (.array elems)) = refused (promoteAll core elems) := by
  rw [promote]
  cases promoteAll core elems <;> rfl

theorem refused_promoteAll_cons (datum : Datum) (rest : List Datum) :
    refused (promoteAll core (datum :: rest)) =
      (refused (promote core datum)).or (refused (promoteAll core rest)) := by
  rw [promoteAll]
  cases promote core datum with
  | error refusal => rfl
  | ok ty => cases promoteAll core rest <;> rfl

mutual

/-- **A datum is refused as the first of its leaves that is refused.** -/
theorem refused_promote (core : CoreClasses) (datum : Datum) :
    refused (promote core datum) = datum.leaves.findSome? (refusal? core) := by
  cases datum with
  | array elems => exact (refused_promote_array elems).trans (refused_promoteAll core elems)
  | classObject cls =>
      by_cases isRoot : cls = core.object.id <;>
        simp [promote, leaves, refusal?, refused, isRoot]
  | constant | nil | float | hash => rfl

theorem refused_promoteAll (core : CoreClasses) (data : List Datum) :
    refused (promoteAll core data) = (leavesAll data).findSome? (refusal? core) := by
  cases data with
  | nil => rfl
  | cons datum rest =>
      rw [refused_promoteAll_cons, leavesAll, List.findSome?_append, refused_promote core datum,
        refused_promoteAll core rest]

end

/-- A leaf is refused for its own sake only. -/
theorem refused_promote_of_mem_leaves {datum leaf : Datum} (reached : leaf ∈ datum.leaves) :
    refused (promote core leaf) = leaf.refusal? core := by
  rw [refused_promote, leaves_of_mem_leaves datum reached, List.findSome?_singleton]

theorem refusal?_eq_none_iff {datum : Datum} :
    datum.refusal? core = none ↔
      (∀ value, datum ≠ .float value) ∧ (∀ entries, datum ≠ .hash entries) ∧
        ∀ cls, datum = .classObject cls → cls = core.object.id := by
  cases datum <;> simp [refusal?]

/-- **A datum has a type exactly when no leaf is refused.** -/
theorem exists_promote_eq_ok_iff {datum : Datum} :
    (∃ ty, promote core datum = .ok ty) ↔
      (∀ value, .float value ∉ datum.leaves) ∧ (∀ entries, .hash entries ∉ datum.leaves) ∧
        ∀ cls, .classObject cls ∈ datum.leaves → cls = core.object.id := by
  rw [← refused_eq_none_iff, refused_promote, List.findSome?_eq_none_iff]
  simp only [refusal?_eq_none_iff]
  constructor
  · intro supported
    refine ⟨fun value reached => ?_, fun entries reached => ?_, fun cls reached => ?_⟩
    · exact (supported _ reached).1 value rfl
    · exact (supported _ reached).2.1 entries rfl
    · exact (supported _ reached).2.2 cls rfl
  · rintro ⟨noFloat, noHash, onlyRoot⟩ leaf reached
    refine ⟨?_, ?_, ?_⟩
    · rintro value rfl
      exact noFloat value reached
    · rintro entries rfl
      exact noHash entries reached
    · rintro cls rfl
      exact onlyRoot cls reached

/-- **What comes after the first offender is never asked.** -/
theorem promote_eq_error_iff {datum : Datum} {refusal : Refusal} :
    promote core datum = .error refusal ↔
      ∃ before leaf after, datum.leaves = before ++ leaf :: after ∧
        (∀ earlier ∈ before, ∃ ty, promote core earlier = .ok ty) ∧
        promote core leaf = .error refusal ∧ leaf.refusal? core = some refusal := by
  rw [← refused_eq_some_iff, refused_promote, List.findSome?_eq_some_iff]
  refine exists_congr fun before => exists_congr fun leaf => exists_congr fun after => ?_
  refine and_congr_right fun split => ?_
  have alone : ∀ other ∈ before ++ leaf :: after,
      refused (promote core other) = other.refusal? core :=
    fun other reached => refused_promote_of_mem_leaves (split ▸ reached)
  have accepted : (∀ earlier ∈ before, ∃ ty, promote core earlier = .ok ty) ↔
      ∀ earlier ∈ before, earlier.refusal? core = none := by
    refine forall_congr' fun earlier => imp_congr_right fun listed => ?_
    rw [← refused_eq_none_iff, alone earlier (List.mem_append_left _ listed)]
  have reported : promote core leaf = .error refusal ↔ leaf.refusal? core = some refusal := by
    rw [← refused_eq_some_iff, alone leaf List.mem_append_cons_self]
  rw [accepted, reported, and_self, and_comm]

/-! ### The type of a datum -/

/-- A type that mirrors a datum: constants become literals over their classes, nil and the root class
instances, and an array a tuple with one member at each position. -/
inductive Mirrors (core : CoreClasses) : Datum → Ty → Prop
  | constant (value : Constant) :
      Mirrors core (.constant value) (.literal value (.ofClass (core.classOf value)))
  | nil : Mirrors core .nil (.ofClass core.nil)
  | array {elems : List Datum} {types : List Ty} : List.Forall₂ (Mirrors core) elems types →
      Mirrors core (.array elems) (.array (.tuple (types.map .singleton)) (.ofClass core.array))
  | root : Mirrors core (.classObject core.object.id) (.ofClass core.object)

theorem promote_array_eq_ok_iff {elems : List Datum} {ty : Ty} :
    promote core (.array elems) = .ok ty ↔
      ∃ unions, promoteAll core elems = .ok unions ∧ ty = .array (.tuple unions) core.arrayType := by
  rw [promote]
  cases promoteAll core elems with
  | error refusal => exact ⟨nofun, nofun⟩
  | ok unions =>
      constructor
      · rintro ⟨⟩
        exact ⟨unions, rfl, rfl⟩
      · rintro ⟨_, ⟨⟩, rfl⟩
        rfl

theorem promoteAll_cons_eq_ok_iff {datum : Datum} {rest : List Datum} {unions : List TyUnion} :
    promoteAll core (datum :: rest) = .ok unions ↔
      ∃ ty others, promote core datum = .ok ty ∧ promoteAll core rest = .ok others ∧
        unions = .singleton ty :: others := by
  rw [promoteAll]
  cases promote core datum with
  | error refusal => exact ⟨nofun, nofun⟩
  | ok ty =>
      cases promoteAll core rest with
      | error refusal => exact ⟨nofun, nofun⟩
      | ok others =>
          constructor
          · rintro ⟨⟩
            exact ⟨ty, others, rfl, rfl, rfl⟩
          · rintro ⟨_, _, ⟨⟩, ⟨⟩, rfl⟩
            rfl

mutual

/-- **The type that is given is the one that mirrors the datum.** -/
theorem promote_eq_ok_iff (datum : Datum) {ty : Ty} :
    promote core datum = .ok ty ↔ Mirrors core datum ty := by
  cases datum with
  | constant value =>
      rw [promote]
      constructor
      · rintro ⟨⟩
        exact .constant value
      · rintro ⟨⟩
        rfl
  | nil =>
      rw [promote]
      constructor
      · rintro ⟨⟩
        exact .nil
      · rintro ⟨⟩
        rfl
  | array elems =>
      rw [promote_array_eq_ok_iff]
      constructor
      · rintro ⟨unions, promoted, rfl⟩
        obtain ⟨types, mirrored, rfl⟩ := (promoteAll_eq_ok_iff elems).mp promoted
        exact .array mirrored
      · intro mirrors
        cases mirrors with
        | array mirrored => exact ⟨_, (promoteAll_eq_ok_iff elems).mpr ⟨_, mirrored, rfl⟩, rfl⟩
  | classObject cls =>
      rw [promote]
      by_cases isRoot : cls = core.object.id
      · subst isRoot
        rw [if_pos rfl]
        constructor
        · rintro ⟨⟩
          exact .root
        · rintro ⟨⟩
          rfl
      · rw [if_neg isRoot]
        constructor
        · rintro ⟨⟩
        · rintro ⟨⟩
          exact absurd rfl isRoot
  | float | hash =>
      rw [promote]
      constructor <;> rintro ⟨⟩

theorem promoteAll_eq_ok_iff (data : List Datum) {unions : List TyUnion} :
    promoteAll core data = .ok unions ↔
      ∃ types, List.Forall₂ (Mirrors core) data types ∧ unions = types.map .singleton := by
  cases data with
  | nil => simp [promoteAll, eq_comm]
  | cons datum rest =>
      rw [promoteAll_cons_eq_ok_iff]
      constructor
      · rintro ⟨ty, others, here, later, rfl⟩
        obtain ⟨types, mirrored, rfl⟩ := (promoteAll_eq_ok_iff rest).mp later
        exact ⟨ty :: types, .cons ((promote_eq_ok_iff datum).mp here) mirrored, rfl⟩
      · rintro ⟨_, mirrors, rfl⟩
        cases mirrors with
        | cons here later =>
            exact ⟨_, _, (promote_eq_ok_iff datum).mpr here,
              (promoteAll_eq_ok_iff rest).mpr ⟨_, later, rfl⟩, rfl⟩

end

mutual

/-- **A promoted type holds no local array.** -/
theorem isContextFree_of_promote (datum : Datum) {ty : Ty} (promoted : promote core datum = .ok ty) :
    ty.isContextFree = true := by
  cases datum with
  | constant | nil =>
      cases promoted
      rfl
  | array elems =>
      obtain ⟨unions, promotedAll, rfl⟩ := promote_array_eq_ok_iff.mp promoted
      rw [Ty.isContextFree, Shape.isContextFree, allContextFree_of_promoteAll elems promotedAll]
      rfl
  | classObject cls =>
      rw [promote] at promoted
      split at promoted
      · cases promoted
        rfl
      · cases promoted
  | float | hash => cases promoted

theorem allContextFree_of_promoteAll (data : List Datum) {unions : List TyUnion}
    (promoted : promoteAll core data = .ok unions) : TyUnion.allContextFree unions = true := by
  cases data with
  | nil =>
      cases promoted
      rfl
  | cons datum rest =>
      obtain ⟨ty, others, here, later, rfl⟩ := promoteAll_cons_eq_ok_iff.mp promoted
      rw [TyUnion.allContextFree, TyUnion.singleton, TyUnion.isContextFree, Ty.allContextFree,
        isContextFree_of_promote datum here, allContextFree_of_promoteAll rest later]
      rfl

end

/-- **Promotion accepts exactly the supported data, and reports the first offender.** Arrays may be
nested to any depth.

* A datum has a type exactly when no float, no hash and no class object but the root class is reached
  through arrays;
* the type then mirrors the datum, with one member at each position of an array, and holds no local
  array;
* otherwise the refusal is that of a leaf, by its class or its kind, which the leaf would get alone. All
  leaves to the left of it have types, and those to the right have no say. -/
theorem promotion_reports_first_offender (core : CoreClasses) (datum : Datum) :
    ((∃ ty, promote core datum = .ok ty) ↔
      (∀ value, .float value ∉ datum.leaves) ∧ (∀ entries, .hash entries ∉ datum.leaves) ∧
        ∀ cls, .classObject cls ∈ datum.leaves → cls = core.object.id) ∧
    (∀ ty, promote core datum = .ok ty ↔ Mirrors core datum ty) ∧
    (∀ ty, promote core datum = .ok ty → ty.isContextFree = true) ∧
    ∀ refusal, promote core datum = .error refusal ↔
      ∃ before leaf after, datum.leaves = before ++ leaf :: after ∧
        (∀ earlier ∈ before, ∃ ty, promote core earlier = .ok ty) ∧
        promote core leaf = .error refusal ∧ leaf.refusal? core = some refusal :=
  ⟨exists_promote_eq_ok_iff, fun _ => promote_eq_ok_iff datum, fun _ => isContextFree_of_promote datum,
    fun _ => promote_eq_error_iff⟩

/-- A class object in an inner array is reported before the hash beside it and the float that follows.
Without the three there is a type. -/
theorem promotion_reports_first_offender_nested :
    let core := CoreClasses.standard
    let one := Constant.integer 1
    let refused := array [.constant one, .array [.nil, .classObject ⟨70⟩, .hash []], .float 2.5]
    let accepted := array [.constant one, .array [.nil]]
    let inner := Ty.array (.tuple [core.nilUnion]) core.arrayType
    let outer := Ty.array (.tuple [.singleton (.literal one (.ofClass core.integer)), .singleton inner])
      core.arrayType
    promote core refused = .error (.unsupportedClass ⟨70⟩) ∧
      promote core accepted = .ok outer ∧ Mirrors core accepted outer ∧ outer.isContextFree = true := by
  intro core one refused accepted inner outer
  have promoted : promote core accepted = .ok outer := rfl
  have ⟨_, mirrored, contextFree, _⟩ := promotion_reports_first_offender core accepted
  have ⟨_, _, _, reported⟩ := promotion_reports_first_offender core refused
  refine ⟨(reported _).mpr ⟨[.constant one, .nil], .classObject ⟨70⟩, [.hash [], .float 2.5], rfl, ?_, rfl,
    rfl⟩, promoted, (mirrored outer).mp promoted, contextFree outer promoted⟩
  exact List.forall_mem_cons.mpr ⟨⟨_, rfl⟩, List.forall_mem_cons.mpr ⟨⟨_, rfl⟩, List.forall_mem_nil _⟩⟩

end TypeLattice.Datum
