/-
**The local arrays that a value mentions.**

A resolution meets the local arrays outside the bases of literals and arrays (`handles`). A value may
mention more of them, since a base can hold local arrays too:

* `mentions`: all local arrays that occur in a value, wherever they stand;
* `Item.handles_subset_mentions`: what a resolution meets is mentioned;
* `TyUnion.mem_mentions_ofList`, `Shape.mem_mentions_write`: collecting types and writing elements
  mentions no array that was not mentioned before.
-/

import TypeLattice.Proofs.Resolution.Traversal
import TypeLattice.Proofs.Types.Members

namespace TypeLattice

mutual

/-- The local arrays that occur in a type. -/
def Ty.mentions : Ty → List ArrayId
  | .any | .classObject _ | .code _ => []
  | .localArray id base => id :: base.mentions
  | .literal _ base => base.mentions
  | .array shape base => shape.mentions ++ base.mentions
  | .instanceOf cls => cls.mentions
  | .closure _ _ underlying => underlying.mentions
  | .typedClosure params result underlying =>
    TyUnion.mentionsOfAll params ++ (result.mentions ++ underlying.mentions)
termination_by structural ty => ty

/-- The local arrays that occur in a union. -/
def TyUnion.mentions : TyUnion → List ArrayId
  | ⟨members⟩ => Ty.mentionsOfAll members
termination_by structural union => union

/-- The local arrays that occur in a shape. -/
def Shape.mentions : Shape → List ArrayId
  | .seq elem => elem.mentions
  | .tuple elems => TyUnion.mentionsOfAll elems
termination_by structural shape => shape

/-- The local arrays that occur in one of the types. -/
def Ty.mentionsOfAll : List Ty → List ArrayId
  | [] => []
  | ty :: rest => ty.mentions ++ Ty.mentionsOfAll rest
termination_by structural types => types

/-- The local arrays that occur in one of the unions. -/
def TyUnion.mentionsOfAll : List TyUnion → List ArrayId
  | [] => []
  | union :: rest => union.mentions ++ TyUnion.mentionsOfAll rest
termination_by structural unions => unions

end

/-- The local arrays that occur in an item. -/
def Item.mentions : Item → List ArrayId
  | .ty value => value.mentions
  | .union value => value.mentions
  | .shape value => value.mentions

/-! ### Arrays that are met are mentioned -/

theorem append_subset_append {α : Type} {first second larger larger' : List α} (left : first ⊆ larger)
    (right : second ⊆ larger') : first ++ second ⊆ larger ++ larger' :=
  List.append_subset.mpr
    ⟨List.Subset.trans left (List.subset_append_left _ _),
      List.Subset.trans right (List.subset_append_right _ _)⟩

mutual

theorem Ty.handles_subset_mentions (ty : Ty) : ty.handles ⊆ ty.mentions := by
  cases ty with
  | any | classObject | code | literal => exact List.nil_subset _
  | localArray id base => exact List.cons_subset_cons id (List.nil_subset _)
  | array shape base =>
      exact List.Subset.trans (Shape.handles_subset_mentions shape) (List.subset_append_left _ _)
  | instanceOf cls => exact Ty.handles_subset_mentions cls
  | closure code frame underlying => exact Ty.handles_subset_mentions underlying
  | typedClosure params result underlying =>
      have forParams := TyUnion.handlesOfAll_subset_mentions params
      have forResult := TyUnion.handles_subset_mentions result
      have forUnderlying := Ty.handles_subset_mentions underlying
      exact append_subset_append forParams (append_subset_append forResult forUnderlying)

theorem TyUnion.handles_subset_mentions (union : TyUnion) : union.handles ⊆ union.mentions := by
  obtain ⟨members⟩ := union
  exact Ty.handlesOfAll_subset_mentions members

theorem Shape.handles_subset_mentions (shape : Shape) : shape.handles ⊆ shape.mentions := by
  cases shape with
  | seq elem => exact TyUnion.handles_subset_mentions elem
  | tuple elems => exact TyUnion.handlesOfAll_subset_mentions elems

theorem Ty.handlesOfAll_subset_mentions (types : List Ty) :
    Ty.handlesOfAll types ⊆ Ty.mentionsOfAll types := by
  cases types with
  | nil => exact List.nil_subset _
  | cons ty rest =>
      exact append_subset_append (Ty.handles_subset_mentions ty)
        (Ty.handlesOfAll_subset_mentions rest)

theorem TyUnion.handlesOfAll_subset_mentions (unions : List TyUnion) :
    TyUnion.handlesOfAll unions ⊆ TyUnion.mentionsOfAll unions := by
  cases unions with
  | nil => exact List.nil_subset _
  | cons union rest =>
      exact append_subset_append (TyUnion.handles_subset_mentions union)
        (TyUnion.handlesOfAll_subset_mentions rest)

end

/-- **What a resolution meets is mentioned.** -/
theorem Item.handles_subset_mentions (item : Item) : item.handles ⊆ item.mentions := by
  cases item with
  | ty value => exact Ty.handles_subset_mentions value
  | union value => exact TyUnion.handles_subset_mentions value
  | shape value => exact Shape.handles_subset_mentions value

/-! ### Unions and shapes that are built from others -/

theorem Ty.mem_mentionsOfAll {types : List Ty} {id : ArrayId} :
    id ∈ Ty.mentionsOfAll types ↔ ∃ ty ∈ types, id ∈ ty.mentions := by
  induction types with
  | nil => simp [Ty.mentionsOfAll]
  | cons ty rest ih => simp [Ty.mentionsOfAll, ih]

theorem TyUnion.mem_mentionsOfAll {unions : List TyUnion} {id : ArrayId} :
    id ∈ TyUnion.mentionsOfAll unions ↔ ∃ union ∈ unions, id ∈ union.mentions := by
  induction unions with
  | nil => simp [TyUnion.mentionsOfAll]
  | cons union rest ih => simp [TyUnion.mentionsOfAll, ih]

theorem TyUnion.mem_mentions {union : TyUnion} {id : ArrayId} :
    id ∈ union.mentions ↔ ∃ ty ∈ union.members, id ∈ ty.mentions := by
  obtain ⟨members⟩ := union
  exact Ty.mem_mentionsOfAll

theorem Shape.mem_mentions {shape : Shape} {id : ArrayId} :
    id ∈ shape.mentions ↔ ∃ ty ∈ shape.types, id ∈ ty.mentions := by
  cases shape with
  | seq elem => exact TyUnion.mem_mentions
  | tuple elems =>
      rw [Shape.mentions, TyUnion.mem_mentionsOfAll]
      simp only [TyUnion.mem_mentions, Shape.types, List.mem_flatMap]
      grind

/-- A union made from types mentions what they mention. -/
theorem TyUnion.mem_mentions_ofList {types : List Ty} {id : ArrayId}
    (mentioned : id ∈ (ofList types).mentions) : id ∈ Ty.mentionsOfAll types := by
  obtain ⟨ty, member, inTy⟩ := mem_mentions.mp mentioned
  exact Ty.mem_mentionsOfAll.mpr ⟨ty, mem_of_mem_ofList member, inTy⟩

/-- **A shape that was written mentions what it mentioned before and what was written.** -/
theorem Shape.mem_mentions_write {shape : Shape} {index : Option Nat} {ty : Ty} {id : ArrayId}
    (mentioned : id ∈ (shape.write index ty).mentions) : id ∈ shape.mentions ∨ id ∈ ty.mentions := by
  obtain ⟨found, member, inFound⟩ := mem_mentions.mp mentioned
  rcases mem_types_write member with before | rfl
  · exact .inl (mem_mentions.mpr ⟨found, before, inFound⟩)
  · exact .inr inFound

end TypeLattice
