/-
**The types that occur in unions and shapes.**

Operations on unions and shapes make up no types: whatever is a member afterwards was a member before, or
was handed in.

* `Shape.types`: the types that stand in a shape, position by position;
* `TyUnion.mem_of_mem_join`, `Shape.mem_types_join`: joins;
* `Shape.mem_types_elements`, `Shape.mem_types_read`, `Shape.mem_types_write`: reading and writing.
-/

import TypeLattice.Shape
import TypeLattice.Proofs.Types.Equality

namespace TypeLattice

theorem TyUnion.mem_of_mem_join {first second : TyUnion} {ty : Ty}
    (member : ty ∈ (first.join second).members) : ty ∈ first.members ∨ ty ∈ second.members := by
  unfold join at member
  split at member
  · exact .inl member
  · split at member
    · exact .inr member
    · exact List.mem_append.mp (mem_of_mem_ofList member)

namespace Shape

/-- The types that stand in a shape. -/
def types : Shape → List Ty
  | .seq elem => elem.members
  | .tuple elems => elems.flatMap TyUnion.members

variable {shape : Shape} {ty : Ty}

theorem mem_types_elements (member : ty ∈ shape.elements.members) : ty ∈ shape.types := by
  cases shape with
  | seq elem => exact member
  | tuple elems => exact TyUnion.mem_of_mem_ofList member

/-- Only nil, read beyond the end, is not in the shape. -/
theorem mem_types_read {core : CoreClasses} {index : Option Nat}
    (member : ty ∈ (shape.read core index).members) : ty ∈ shape.types ∨ ty = core.nilType := by
  match shape, index with
  | .seq elem, _ => exact .inl member
  | .tuple elems, none => exact .inl (mem_types_elements member)
  | .tuple elems, some position =>
      rw [read, List.getD_eq_getElem?_getD] at member
      cases found : elems[position]? with
      | none =>
          rw [found] at member
          exact .inr (List.mem_singleton.mp member)
      | some union =>
          rw [found] at member
          exact .inl (List.mem_flatMap.mpr ⟨union, List.mem_of_getElem? found, member⟩)

/-- A sequence that gathers the elements of a shape and one more type. -/
theorem mem_types_gathered {written : Ty} (member : ty ∈ (shape.elements.insert written).members) :
    ty ∈ shape.types ∨ ty = written :=
  (TyUnion.mem_of_mem_insert member).imp_left mem_types_elements

theorem mem_types_write {index : Option Nat} {written : Ty}
    (member : ty ∈ (shape.write index written).types) : ty ∈ shape.types ∨ ty = written := by
  match shape, index with
  | .seq elem, _ => exact TyUnion.mem_of_mem_insert member
  | .tuple elems, none => exact mem_types_gathered member
  | .tuple elems, some position =>
      rw [write] at member
      split at member
      · obtain ⟨union, inElems, inUnion⟩ := List.mem_flatMap.mp member
        rcases List.mem_or_eq_of_mem_set inElems with kept | rfl
        · exact .inl (List.mem_flatMap.mpr ⟨union, kept, inUnion⟩)
        · exact .inr (List.mem_singleton.mp inUnion)
      · exact mem_types_gathered member

theorem mem_types_join {first second : Shape} (member : ty ∈ (first.join second).types) :
    ty ∈ first.types ∨ ty ∈ second.types := by
  have gathered (member : ty ∈ (first.elements.join second.elements).members) :
      ty ∈ first.types ∨ ty ∈ second.types :=
    (TyUnion.mem_of_mem_join member).imp mem_types_elements mem_types_elements
  match first, second with
  | .seq _, .seq _ => exact gathered member
  | .seq _, .tuple _ => exact gathered member
  | .tuple _, .seq _ => exact gathered member
  | .tuple elems, .tuple elems' =>
      rw [join] at member
      split at member
      · obtain ⟨union, inZip, inUnion⟩ := List.mem_flatMap.mp member
        rw [← List.map_uncurry_zip_eq_zipWith] at inZip
        obtain ⟨⟨left, right⟩, paired, rfl⟩ := List.mem_map.mp inZip
        obtain ⟨inElems, inElems'⟩ := List.of_mem_zip paired
        rcases TyUnion.mem_of_mem_join inUnion with inLeft | inRight
        · exact .inl (List.mem_flatMap.mpr ⟨left, inElems, inLeft⟩)
        · exact .inr (List.mem_flatMap.mpr ⟨right, inElems', inRight⟩)
      · exact gathered member

end Shape

end TypeLattice
