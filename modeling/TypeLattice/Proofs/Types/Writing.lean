/-
**Writing keeps shapes in order.**

A shape lies within another when a join with it adds nothing. A write at a position of a tuple replaces
what was there, while a write to a sequence is added to what is there, and a write anywhere else turns a
tuple into a sequence. So two shapes in this order may be written in different ways. They stay in order,
since a replacement takes away from the smaller shape and puts in no more than what was written.

* `Shape.IsWithin`: the order, told by the elements and the positions;
* `Shape.join_equal_iff`: it is the order in which joins add nothing;
* `Shape.contains_elements_write`: a write adds nothing to the elements but what is written;
* `Shape.IsWithin.write`, `Shape.IsWithin.writeAll`: one write, and a run of writes;
* `Shape.writes_are_monotone`: so writing is monotone.
-/

import TypeLattice.Proofs.Types.Interchange
import TypeLattice.Proofs.Types.Members

namespace TypeLattice

/-- A type that is written to an array, and where; `none` stands for an index that is not known. -/
structure Write where
  index : Option Nat
  ty : Ty

/-! ### The order of unions -/

namespace TyUnion

variable {first second : TyUnion}

theorem isWithin_insert (within : first.isWithin second = true) (ty : Ty) :
    (first.insert ty).isWithin (second.insert ty) = true := by
  rw [isWithin_iff] at within ⊢
  intro other held
  rw [contains_insert] at held ⊢
  exact held.imp_left (within other)

/-- **A join adds nothing exactly when one union lies within the other.** -/
theorem join_equal_iff (tidy : first.isTidy = true) (tidy' : second.isTidy = true) :
    (first.join second).equal second = true ↔ first.isWithin second = true := by
  rw [equal_iff_contains (isTidy_join tidy tidy') tidy', isWithin_iff]
  apply forall_congr'
  intro ty
  rw [contains_join]
  exact or_iff_right_iff_imp

/-- The same, position by position. -/
theorem forall₂_zipWith_join {elems elems' : List TyUnion} (same : elems.length = elems'.length)
    (tidy : allTidy elems = true) (tidy' : allTidy elems' = true) :
    List.Forall₂ (fun union other => union.equal other = true) (List.zipWith join elems elems') elems' ↔
      List.Forall₂ (fun union other => union.isWithin other = true) elems elems' := by
  induction elems generalizing elems' with
  | nil =>
      obtain rfl := List.eq_nil_of_length_eq_zero same.symm
      simp
  | cons union rest ih =>
      match elems' with
      | other :: others =>
          rw [allTidy, Bool.and_eq_true] at tidy tidy'
          rw [List.zipWith_cons_cons, List.forall₂_cons, List.forall₂_cons,
            join_equal_iff tidy.1 tidy'.1, ih (Nat.succ.inj same) tidy.2 tidy'.2]

end TyUnion

/-! ### The order of shapes -/

namespace Shape

variable {shape lower upper : Shape} {index : Option Nat} {ty written : Ty}

/-- `lower` lies within `upper`: a sequence has all the elements of `lower`, and a tuple is as long as
`lower` and has at each position what `lower` has there. -/
def IsWithin : Shape → Shape → Prop
  | lower, .seq elem => lower.elements.isWithin elem = true
  | .tuple elems, .tuple elems' =>
    List.Forall₂ (fun union other => union.isWithin other = true) elems elems'
  | .seq _, .tuple _ => False

/-- **A join adds nothing exactly when one shape lies within the other.** -/
theorem join_equal_iff (built : lower.Constructed) (built' : upper.Constructed) :
    (lower.join upper).equal upper = true ↔ lower.IsWithin upper := by
  have tidy := built.isTidy
  have tidy' := built'.isTidy
  cases upper with
  | seq elem' =>
      cases lower with
      | seq elem => exact TyUnion.join_equal_iff tidy tidy'
      | tuple elems => exact TyUnion.join_equal_iff (isTidy_elements tidy) tidy'
  | tuple elems' =>
      cases lower with
      | seq elem => exact iff_of_false Bool.false_ne_true id
      | tuple elems =>
          by_cases same : elems.length = elems'.length
          · rw [join, if_pos same]
            show TyUnion.equalAll _ elems' = true ↔ _
            rw [TyUnion.equalAll_iff_forall₂]
            exact TyUnion.forall₂_zipWith_join same tidy tidy'
          · rw [join, if_neg same]
            exact iff_of_false Bool.false_ne_true fun within => same within.length_eq

/-- Whatever an element of the smaller shape may be, an element of the larger one may be. -/
theorem IsWithin.elements (within : lower.IsWithin upper) :
    lower.elements.isWithin upper.elements = true := by
  match lower, upper with
  | _, .seq elem' => exact within
  | .tuple elems, .tuple elems' =>
      rw [TyUnion.isWithin_iff]
      intro ty held
      rw [contains_elements_tuple] at held ⊢
      obtain ⟨union, inElems, inUnion⟩ := held
      obtain ⟨other, inElems', here⟩ := exists_of_mem_matching within.flip union inElems
      exact ⟨other, inElems', TyUnion.isWithin_iff.mp here ty inUnion⟩

theorem contains_elements_iff :
    shape.elements.contains ty = true ↔ ∃ other ∈ shape.types, ty.equal other = true := by
  cases shape with
  | seq elem => exact TyUnion.contains_iff
  | tuple elems => exact TyUnion.contains_ofList_iff

/-- **A write adds nothing to the elements but what is written.** -/
theorem contains_elements_write (held : (shape.write index written).elements.contains ty = true) :
    (shape.elements.insert written).contains ty = true := by
  rw [contains_elements_iff] at held
  obtain ⟨other, member, same⟩ := held
  rw [TyUnion.contains_insert, contains_elements_iff]
  rcases mem_types_write member with before | rfl
  · exact .inl ⟨other, before, same⟩
  · exact .inr same

/-! ### Writing in order -/

/-- A write that gathers the elements of both shapes keeps them in order. -/
theorem IsWithin.gathered (within : lower.IsWithin upper) (ty : Ty) :
    (Shape.seq (lower.elements.insert ty)).IsWithin (.seq (upper.elements.insert ty)) :=
  TyUnion.isWithin_insert within.elements ty

/-- **Writing to two shapes keeps them in order.** -/
theorem IsWithin.write (within : lower.IsWithin upper) (index : Option Nat) (ty : Ty) :
    (lower.write index ty).IsWithin (upper.write index ty) := by
  match lower, upper with
  | lower, .seq elem' =>
      -- The smaller shape may have a position replaced, while the sequence gathers the type.
      show (lower.write index ty).elements.isWithin (elem'.insert ty) = true
      rw [TyUnion.isWithin_iff]
      intro other held
      exact TyUnion.isWithin_iff.mp (TyUnion.isWithin_insert within ty) other (contains_elements_write held)
  | .tuple elems, .tuple elems' =>
      have same : elems.length = elems'.length := within.length_eq
      cases index with
      | none => exact within.gathered ty
      | some position =>
          rw [Shape.write, Shape.write]
          by_cases inside : position < elems.length
          · rw [if_pos inside, if_pos (same ▸ inside)]
            exact forall₂_set within (TyUnion.isWithin_self (.singleton ty)) position
          · rw [if_neg inside, if_neg (same ▸ inside)]
            exact within.gathered ty

/-- The shape after a run of writes. -/
def writeAll (shape : Shape) (writes : List Write) : Shape :=
  writes.foldl (fun current write => current.write write.index write.ty) shape

/-- What one write keeps, a run of writes keeps. -/
theorem IsWithin.writeAll (within : lower.IsWithin upper) (writes : List Write) :
    (lower.writeAll writes).IsWithin (upper.writeAll writes) := by
  induction writes generalizing lower upper with
  | nil => exact within
  | cons write rest ih => exact ih (within.write write.index write.ty)

theorem constructed_writeAll {shape : Shape} {writes : List Write} (built : shape.Constructed)
    (builtTypes : ∀ write ∈ writes, write.ty.Constructed) : (shape.writeAll writes).Constructed := by
  induction writes generalizing shape with
  | nil => exact built
  | cons write rest ih =>
      obtain ⟨builtHere, builtLater⟩ := List.forall_mem_cons.mp builtTypes
      exact ih (.write write.index built builtHere) builtLater

/-- **Writing is monotone.** Let a join with the shape `lower` add nothing to `upper`. Then it adds
nothing after a type was written to both shapes at one index, known or not, although one of them may
have had a position replaced and the other have gathered the type; nor does it after any run of
writes to both. -/
theorem writes_are_monotone (built : lower.Constructed) (built' : upper.Constructed)
    (below : (lower.join upper == upper) = true) :
    (∀ (index : Option Nat) (ty : Ty), ty.Constructed →
      ((lower.write index ty).join (upper.write index ty) == upper.write index ty) = true) ∧
    ∀ writes : List Write, (∀ write ∈ writes, write.ty.Constructed) →
      ((lower.writeAll writes).join (upper.writeAll writes) == upper.writeAll writes) = true := by
  have within := (join_equal_iff built built').mp below
  constructor
  · intro index ty builtTy
    exact (join_equal_iff (.write index built builtTy) (.write index built' builtTy)).mpr
      (within.write index ty)
  · intro writes builtTypes
    exact (join_equal_iff (constructed_writeAll built builtTypes)
      (constructed_writeAll built' builtTypes)).mpr (within.writeAll writes)

/-- A pair below a sequence: a symbol replaces the integer of the pair, and is added to the sequence. -/
theorem writes_are_monotone_pair :
    let core := CoreClasses.standard
    let pair := tuple [.singleton (.ofClass core.integer), .singleton (.ofClass core.string)]
    let row := seq ⟨[.ofClass core.string, .ofClass core.integer]⟩
    pair.Constructed ∧ row.Constructed ∧ (pair.join row == row) = true ∧
      ((pair.write (some 0) (.ofClass core.symbol)).join (row.write (some 0) (.ofClass core.symbol)) ==
        row.write (some 0) (.ofClass core.symbol)) = true := by
  intro core pair row
  have builtPair : pair.Constructed := constructed_iff.mpr rfl
  have builtRow : row.Constructed := constructed_iff.mpr rfl
  refine ⟨builtPair, builtRow, by decide, ?_⟩
  exact (writes_are_monotone builtPair builtRow (by decide)).1 (some 0) _ (Ty.constructed_iff.mpr rfl)

end Shape

end TypeLattice
