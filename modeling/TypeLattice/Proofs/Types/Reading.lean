/-
**What a read may give after a shape is widened.**

A sequence is read in the same way at every index, so it has no answer for an element that is not there.
A tuple has one: nil. Joined with a shape of another length, or written at an index that is not known or
beyond its end, a tuple becomes a sequence, and this answer may get lost. Nothing else does.

* `Shape.contains_elements_of_contains_read`: a read gives the type of an element, or nil beyond the end;
* `Shape.contains_read_join_of_length?_eq`: shapes of one length are joined answer by answer;
* `Shape.join_of_length?_ne`, `Shape.write_of_isWidenedBy`: otherwise the elements are gathered;
* `Shape.widening_loses_nil_alone`: exactly which answers get lost;
* `Shape.widening_loses_nil`: a join and a write that lose the answer nil.
-/

import Mathlib.Data.List.GetD
import TypeLattice.ClassTable
import TypeLattice.Proofs.Types.Equivalence

namespace TypeLattice.Shape

variable {core : CoreClasses} {shape first second : Shape} {index : Option Nat} {ty written : Ty}

/-! ### The answers of a read -/

/-- Whether `index` is known and lies beyond the end of a tuple. -/
def isBeyond (shape : Shape) (index : Option Nat) : Bool :=
  match shape, index with
  | .tuple elems, some position => elems.length ≤ position
  | _, _ => false

theorem read_of_isBeyond (beyond : shape.isBeyond index = true) :
    shape.read core index = core.nilUnion := by
  match shape, index with
  | .tuple elems, some position => exact List.getD_eq_default _ _ (of_decide_eq_true beyond)

/-- **A read gives the type of an element, or nil beyond the end.** -/
theorem contains_elements_of_contains_read (held : (shape.read core index).contains ty = true) :
    shape.elements.contains ty = true ∨ shape.isBeyond index = true ∧ ty.equal core.nilType = true := by
  match shape, index with
  | .seq _, _ => exact .inl held
  | .tuple _, none => exact .inl held
  | .tuple elems, some position =>
      by_cases inside : position < elems.length
      · rw [read, List.getD_eq_getElem _ _ inside] at held
        exact .inl (contains_elements_tuple.mpr ⟨_, List.getElem_mem inside, held⟩)
      · have beyond : elems.length ≤ position := Nat.le_of_not_lt inside
        rw [read, List.getD_eq_default _ _ beyond] at held
        exact .inr ⟨decide_eq_true beyond, TyUnion.contains_singleton.mp held⟩

/-- `ty` is nil, read for want of an element, and is neither an element nor one of `others`. -/
structure IsAbsence (core : CoreClasses) (shape : Shape) (index : Option Nat) (others : TyUnion)
    (ty : Ty) : Prop where
  beyond : shape.isBeyond index = true
  nil : ty.equal core.nilType = true
  noElement : shape.elements.contains ty = false
  noOther : others.contains ty = false

/-- An answer that is no longer there once the elements and `others` are gathered is an absence. -/
theorem isAbsence_iff {others : TyUnion} :
    (shape.read core index).contains ty = true ∧
        ¬ (shape.elements.contains ty = true ∨ others.contains ty = true) ↔
      shape.IsAbsence core index others ty := by
  constructor
  · rintro ⟨held, gone⟩
    rw [not_or, Bool.not_eq_true, Bool.not_eq_true] at gone
    rcases contains_elements_of_contains_read held with kept | ⟨beyond, nil⟩
    · rw [gone.1] at kept
      cases kept
    · exact ⟨beyond, nil, gone.1, gone.2⟩
  · intro absence
    rw [read_of_isBeyond absence.beyond, absence.noElement, absence.noOther]
    exact ⟨TyUnion.contains_singleton.mpr absence.nil, by simp⟩

/-! ### Joins -/

/-- Some element of a tuple joined position by position may have a type that an element of one of the
two tuples may have. -/
theorem contains_elements_zipWith {elems elems' : List TyUnion} (same : elems.length = elems'.length) :
    (elements (.tuple (List.zipWith TyUnion.join elems elems'))).contains ty = true ↔
      (elements (.tuple elems)).contains ty = true ∨ (elements (.tuple elems')).contains ty = true := by
  simp only [contains_elements_tuple]
  induction elems generalizing elems' with
  | nil =>
      obtain rfl := List.eq_nil_of_length_eq_zero same.symm
      simp
  | cons union rest ih =>
      match elems' with
      | union' :: rest' =>
          simp only [List.zipWith_cons_cons, List.exists_mem_cons_iff, TyUnion.contains_join,
            ih (Nat.succ.inj same)]
          exact or_or_or_comm

/-- **Shapes of one length are joined answer by answer.** -/
theorem contains_read_join_of_length?_eq (same : first.length? = second.length?) :
    ((first.join second).read core index).contains ty = true ↔
      (first.read core index).contains ty = true ∨ (second.read core index).contains ty = true := by
  match first, second with
  | .seq _, .seq _ => exact TyUnion.contains_join
  | .tuple elems, .tuple elems' =>
      have length : elems.length = elems'.length := Option.some.inj same
      rw [join, if_pos length]
      cases index with
      | none => exact contains_elements_zipWith length
      | some position =>
          simp only [read]
          by_cases inside : position < elems.length
          · have joined : position < (List.zipWith TyUnion.join elems elems').length := by
              simp only [List.length_zipWith]
              omega
            rw [List.getD_eq_getElem _ _ joined, List.getElem_zipWith, TyUnion.contains_join,
              List.getD_eq_getElem _ _ inside, List.getD_eq_getElem _ _ (length ▸ inside)]
          · have beyond : elems.length ≤ position := Nat.le_of_not_lt inside
            rw [List.getD_eq_default _ _ (by rw [List.length_zipWith]; omega),
              List.getD_eq_default _ _ beyond, List.getD_eq_default _ _ (length ▸ beyond), or_self]

/-- Shapes of different lengths are joined as sequences. -/
theorem join_of_length?_ne (different : first.length? ≠ second.length?) :
    first.join second = .seq (first.elements.join second.elements) := by
  match first, second with
  | .seq _, .seq _ => rfl
  | .seq _, .tuple _ => rfl
  | .tuple _, .seq _ => rfl
  | .tuple elems, .tuple elems' =>
      rw [join, if_neg fun length => different (congrArg some length)]

theorem contains_read_join_of_length?_ne (different : first.length? ≠ second.length?) :
    ((first.join second).read core index).contains ty = true ↔
      first.elements.contains ty = true ∨ second.elements.contains ty = true := by
  rw [join_of_length?_ne different]
  exact TyUnion.contains_join

/-- For what may be read the two sides of a join are alike. -/
theorem contains_read_join_comm :
    ((first.join second).read core index).contains ty =
      ((second.join first).read core index).contains ty := by
  rw [Bool.eq_iff_iff]
  by_cases same : first.length? = second.length?
  · rw [contains_read_join_of_length?_eq same, contains_read_join_of_length?_eq same.symm, or_comm]
  · rw [contains_read_join_of_length?_ne same, contains_read_join_of_length?_ne (Ne.symm same), or_comm]

/-- An answer of one side gets lost in a join when the lengths differ and it is an absence. -/
theorem lost_by_join_iff :
    (first.read core index).contains ty = true ∧
        ((first.join second).read core index).contains ty = false ↔
      first.length? ≠ second.length? ∧ first.IsAbsence core index second.elements ty := by
  rw [← Bool.not_eq_true]
  by_cases same : first.length? = second.length?
  · rw [contains_read_join_of_length?_eq same]
    simp only [ne_eq, same, not_true_eq_false, false_and, iff_false]
    exact fun lost => lost.2 (.inl lost.1)
  · rw [contains_read_join_of_length?_ne same, isAbsence_iff]
    exact ⟨fun absence => ⟨same, absence⟩, And.right⟩

/-! ### Writes -/

/-- A write that is not at a position of a tuple gathers the type after the elements. -/
theorem write_of_isWidenedBy {target : Option Nat}
    (outside : shape.isTuple = true → shape.isWidenedBy target = true) :
    shape.write target written = .seq (shape.elements.insert written) := by
  match shape, target with
  | .seq _, _ => rfl
  | .tuple _, none => rfl
  | .tuple elems, some position =>
      have beyond : elems.length ≤ position := of_decide_eq_true (outside rfl)
      rw [write, if_neg (Nat.not_lt.mpr beyond)]

/-- An answer gets lost in such a write when it is an absence. -/
theorem lost_by_write_iff {target : Option Nat}
    (outside : shape.isTuple = true → shape.isWidenedBy target = true) :
    (shape.read core index).contains ty = true ∧
        ((shape.write target written).read core index).contains ty = false ↔
      shape.IsAbsence core index (.singleton written) ty := by
  rw [← Bool.not_eq_true, write_of_isWidenedBy outside, read, TyUnion.contains_insert, ← isAbsence_iff,
    TyUnion.contains_singleton]

/-- What was written may be read at the same index. -/
theorem contains_read_write (shape : Shape) (target : Option Nat) :
    ((shape.write target written).read core target).contains written = true := by
  match shape, target with
  | .seq elem, _ => exact TyUnion.contains_insert_self elem written
  | .tuple elems, none => exact TyUnion.contains_insert_self _ written
  | .tuple elems, some position =>
      rw [write]
      split
      · rename_i inside
        have kept : position < (elems.set position (.singleton written)).length := by
          rwa [List.length_set]
        rw [read, List.getD_eq_getElem _ _ kept, List.getElem_set_self]
        exact TyUnion.contains_singleton.mpr written.equal_self
      · exact TyUnion.contains_insert_self _ written

/-- **Widening loses no possible read but nil beyond the end of a tuple.** Let `ty` be among the answers
of a read at `index`. It is among the answers of the same read of a join, on either side, unless it is
nil, read beyond the end of a tuple, the other shape is not a tuple of that length, and nil is an
element of neither. It is among the answers after a write that is not at a position of a tuple, unless
it is nil, read beyond the end of a tuple, and neither an element nor what was written. A read at the
index of a write may give what was written. -/
theorem widening_loses_nil_alone (core : CoreClasses) (index : Option Nat) (ty : Ty) :
    (∀ first second : Shape,
      ((first.read core index).contains ty = true ∧
          ((first.join second).read core index).contains ty = false ↔
        first.length? ≠ second.length? ∧ first.IsAbsence core index second.elements ty) ∧
      ((second.read core index).contains ty = true ∧
          ((first.join second).read core index).contains ty = false ↔
        first.length? ≠ second.length? ∧ second.IsAbsence core index first.elements ty)) ∧
    ∀ (shape : Shape) (target : Option Nat) (written : Ty),
      ((shape.isTuple = true → shape.isWidenedBy target = true) →
        ((shape.read core index).contains ty = true ∧
            ((shape.write target written).read core index).contains ty = false ↔
          shape.IsAbsence core index (.singleton written) ty)) ∧
      ((shape.write target written).read core target).contains written = true := by
  refine ⟨fun first second => ⟨lost_by_join_iff, ?_⟩, fun shape target written => ?_⟩
  · rw [contains_read_join_comm, ne_comm]
    exact lost_by_join_iff
  · exact ⟨lost_by_write_iff, contains_read_write shape target⟩

/-- The answer nil beyond the end of the tuple of an integer is an absence: it gets lost when a string is
written at an index that is not known. -/
theorem widening_loses_nil_alone_unknown :
    let core := CoreClasses.standard
    let one := tuple [.singleton (.ofClass core.integer)]
    one.isWidenedBy none = true ∧
      one.IsAbsence core (some 1) (.singleton (.ofClass core.string)) core.nilType := by
  intro core one
  have lost := ((widening_loses_nil_alone core (some 1) core.nilType).2 one none (.ofClass core.string)).1
  exact ⟨rfl, (lost fun _ => rfl).mp (by decide)⟩

/-- Beyond the end of the tuple of an integer the answer is nil; not so after a join with a pair, nor
after a write at an index that is not known. -/
theorem widening_loses_nil :
    let core := CoreClasses.standard
    let one := tuple [.singleton (.ofClass core.integer)]
    let pair := tuple [.singleton (.ofClass core.string), .singleton (.ofClass core.symbol)]
    (one.read core (some 1)).contains core.nilType = true ∧
      ((one.join pair).read core (some 1)).contains core.nilType = false ∧
      ((one.write none (.ofClass core.integer)).read core (some 1)).contains core.nilType = false := by
  decide

end TypeLattice.Shape
