/-
**Resolving early or late.**

The operations on unions and shapes merge equal members, and so does resolution, which makes more of them
equal. On arrays that do not refer back to themselves it makes no difference which comes first: the
parts can be resolved and then combined, or combined and then resolved.

* `Item.Grounded`: a tidy value whose arrays all have slots and do not refer back to themselves;
* `Item.Early`, `Item.Late`: a part that was resolved first, and a whole that is resolved afterwards;
* `Item.early_or_late`: joins, insertions, reads and writes of what was resolved early are equal to what
  is resolved late.
-/

import TypeLattice.ClassTable
import TypeLattice.Proofs.Resolution.OrderFree
import TypeLattice.Proofs.Types.Members

namespace TypeLattice

/-! ### The arrays met in a combination -/

theorem TyUnion.mem_handles {union : TyUnion} {id : ArrayId} :
    id ∈ union.handles ↔ ∃ ty ∈ union.members, id ∈ ty.handles := by
  obtain ⟨members⟩ := union
  exact Ty.mem_handlesOfAll

theorem Shape.mem_handles {shape : Shape} {id : ArrayId} :
    id ∈ shape.handles ↔ ∃ ty ∈ shape.types, id ∈ ty.handles := by
  cases shape with
  | seq elem => exact TyUnion.mem_handles
  | tuple elems =>
      rw [Shape.handles, TyUnion.mem_handlesOfAll]
      simp only [TyUnion.mem_handles, Shape.types, List.mem_flatMap]
      grind

namespace Item

open Resolver

/-- The types that an item is made of. -/
def types : Item → List Ty
  | ty value => [value]
  | union value => value.members
  | shape value => value.types

theorem mem_handles {item : Item} {id : ArrayId} :
    id ∈ item.handles ↔ ∃ ty ∈ item.types, id ∈ ty.handles := by
  cases item with
  | ty value => simp [handles, types]
  | union value => exact TyUnion.mem_handles
  | shape value => exact Shape.mem_handles

/-! ### Grounded items -/

/-- A tidy item whose arrays all have slots and do not refer back to themselves. -/
structure Grounded (slots : ArrayId → Option Shape) (item : Item) : Prop where
  tidy : item.isTidy = true
  allocated : ∀ id ∈ reached slots [item], (slots id).isSome
  noCycle : ∀ id ∈ reached slots [item], ¬ Relation.TransGen (Refers slots) id id

variable {slots : ArrayId → Option Shape} {limits : Limits}

/-- The resolution of a grounded item returns. -/
theorem Grounded.exists_run_eq_ok {item : Item} (grounded : item.Grounded slots) (limits : Limits) :
    ∃ result log, run limits (item.resolve slots) = (.ok result, log) := by
  obtain ⟨result, after, resolved⟩ := exists_resolve_eq_ok (allocated_reached grounded.allocated)
    (atRest_start limits) fun id isHandle => ⟨item, List.mem_cons_self, id, isHandle, .refl⟩
  exact ⟨result, after.log, run_eq_ok resolved⟩

/-- Within its limits it fills the item by id. -/
theorem Grounded.eq_fillBy {item result : Item} (grounded : item.Grounded slots)
    (tidySlots : ∀ id content, slots id = some content → content.isTidy = true)
    (resolves : item.ResolvesWithin slots limits result) : result = item.fillBy (settled slots) := by
  have untangled : Untangled slots (reached slots [item]) := fun id isReached other there back =>
    absurd (there.trans back) (grounded.noCycle id isReached)
  exact resolve_eq_fillBy tidySlots untangled List.mem_cons_self grounded.tidy resolves

/-- **A tidy item made of the types of two grounded items is grounded**, whatever types without arrays
are added. -/
theorem Grounded.of_two {item first second : Item} (grounded : first.Grounded slots)
    (grounded' : second.Grounded slots) (tidy : item.isTidy = true)
    (made : ∀ ty ∈ item.types, ty.handles = [] ∨ ty ∈ first.types ∨ ty ∈ second.types) :
    item.Grounded slots := by
  have inPart : ∀ id ∈ reached slots [item], id ∈ reached slots [first] ∨ id ∈ reached slots [second] := by
    rintro id ⟨found, isItem, root, isRoot, path⟩
    rw [List.mem_singleton.mp isItem] at isRoot
    obtain ⟨ty, member, inTy⟩ := mem_handles.mp isRoot
    rcases made ty member with closed | inFirst | inSecond
    · rw [closed] at inTy
      cases inTy
    · exact .inl ⟨first, List.mem_cons_self, root, mem_handles.mpr ⟨ty, inFirst, inTy⟩, path⟩
    · exact .inr ⟨second, List.mem_cons_self, root, mem_handles.mpr ⟨ty, inSecond, inTy⟩, path⟩
  refine ⟨tidy, fun id isReached => ?_, fun id isReached => ?_⟩
  · exact (inPart id isReached).elim (grounded.allocated id) (grounded'.allocated id)
  · exact (inPart id isReached).elim (grounded.noCycle id) (grounded'.noCycle id)

/-! ### Early and late -/

/-- A grounded item, with what a fresh resolver gives for it within its limits. -/
structure Early (slots : ArrayId → Option Shape) (limits : Limits) (item result : Item) : Prop where
  grounded : item.Grounded slots
  resolves : item.ResolvesWithin slots limits result

/-- A grounded item for which a fresh resolver gives an equal of `wanted`, if it stays within its
limits. -/
structure Late (slots : ArrayId → Option Shape) (limits : Limits) (item wanted : Item) : Prop where
  grounded : item.Grounded slots
  agrees : ∀ result, item.ResolvesWithin slots limits result → (result == wanted) = true

section Operations

variable (tidySlots : ∀ id content, slots id = some content → content.isTidy = true)

include tidySlots

theorem Early.eq_fillBy {item result : Item} (early : Early slots limits item result) :
    result = item.fillBy (settled slots) :=
  early.grounded.eq_fillBy tidySlots early.resolves

/-- A whole is resolved late to an equal of `wanted` if it is one when filled by id. -/
theorem Grounded.late {item wanted : Item} (grounded : item.Grounded slots)
    (same : (item.fillBy (settled slots) == wanted) = true) : Late slots limits item wanted := by
  refine ⟨grounded, fun result resolves => ?_⟩
  rw [grounded.eq_fillBy tidySlots resolves]
  exact same

variable {first second first' second' : TyUnion} {ty ty' : Ty} {shape other shape' other' : Shape}

theorem late_union_join (early : Early slots limits (.union first) (.union first'))
    (early' : Early slots limits (.union second) (.union second')) :
    Late slots limits (.union (first.join second)) (.union (first'.join second')) := by
  obtain rfl := Item.union.inj (early.eq_fillBy tidySlots)
  obtain rfl := Item.union.inj (early'.eq_fillBy tidySlots)
  have tidy := early.grounded.tidy
  have tidy' := early'.grounded.tidy
  refine Grounded.late tidySlots (early.grounded.of_two early'.grounded (TyUnion.isTidy_join tidy tidy')
    fun _ member => .inr (TyUnion.mem_of_mem_join member)) ?_
  exact TyUnion.fillBy_join (tidyAnswers_settled tidySlots) tidy tidy'

theorem late_union_insert (early : Early slots limits (.union first) (.union first'))
    (early' : Early slots limits (.ty ty) (.ty ty')) :
    Late slots limits (.union (first.insert ty)) (.union (first'.insert ty')) := by
  obtain rfl := Item.union.inj (early.eq_fillBy tidySlots)
  obtain rfl := Item.ty.inj (early'.eq_fillBy tidySlots)
  have tidy := early.grounded.tidy
  have tidy' := early'.grounded.tidy
  refine Grounded.late tidySlots (early.grounded.of_two early'.grounded (TyUnion.isTidy_insert tidy tidy')
    fun _ member => .inr ((TyUnion.mem_of_mem_insert member).imp_right List.mem_singleton.mpr)) ?_
  exact TyUnion.fillBy_insert (tidyAnswers_settled tidySlots) tidy tidy'

theorem late_shape_join (early : Early slots limits (.shape shape) (.shape shape'))
    (early' : Early slots limits (.shape other) (.shape other')) :
    Late slots limits (.shape (shape.join other)) (.shape (shape'.join other')) := by
  obtain rfl := Item.shape.inj (early.eq_fillBy tidySlots)
  obtain rfl := Item.shape.inj (early'.eq_fillBy tidySlots)
  have tidy := early.grounded.tidy
  have tidy' := early'.grounded.tidy
  refine Grounded.late tidySlots (early.grounded.of_two early'.grounded (Shape.isTidy_join tidy tidy')
    fun _ member => .inr (Shape.mem_types_join member)) ?_
  exact Shape.fillBy_join (tidyAnswers_settled tidySlots) tidy tidy'

theorem late_elements (early : Early slots limits (.shape shape) (.shape shape')) :
    Late slots limits (.union shape.elements) (.union shape'.elements) := by
  obtain rfl := Item.shape.inj (early.eq_fillBy tidySlots)
  have tidy := early.grounded.tidy
  refine Grounded.late tidySlots (early.grounded.of_two early.grounded (Shape.isTidy_elements tidy)
    fun _ member => .inr (.inl (Shape.mem_types_elements member))) ?_
  exact Shape.fillBy_elements (tidyAnswers_settled tidySlots) tidy

theorem late_read (early : Early slots limits (.shape shape) (.shape shape')) (core : CoreClasses)
    (index : Option Nat) :
    Late slots limits (.union (shape.read core index)) (.union (shape'.read core index)) := by
  obtain rfl := Item.shape.inj (early.eq_fillBy tidySlots)
  have tidy := early.grounded.tidy
  refine Grounded.late tidySlots (early.grounded.of_two early.grounded (Shape.isTidy_read tidy core index)
    fun ty member => ?_) ?_
  · rcases Shape.mem_types_read member with inShape | rfl
    · exact .inr (.inl inShape)
    · exact .inl rfl
  · exact Shape.fillBy_read (tidyAnswers_settled tidySlots) tidy core index

theorem late_write (early : Early slots limits (.shape shape) (.shape shape'))
    (early' : Early slots limits (.ty ty) (.ty ty')) (index : Option Nat) :
    Late slots limits (.shape (shape.write index ty)) (.shape (shape'.write index ty')) := by
  obtain rfl := Item.shape.inj (early.eq_fillBy tidySlots)
  obtain rfl := Item.ty.inj (early'.eq_fillBy tidySlots)
  have tidy := early.grounded.tidy
  have tidy' := early'.grounded.tidy
  refine Grounded.late tidySlots (early.grounded.of_two early'.grounded (Shape.isTidy_write tidy tidy' index)
    fun _ member => .inr ((Shape.mem_types_write member).imp_right List.mem_singleton.mpr)) ?_
  exact Shape.fillBy_write (tidyAnswers_settled tidySlots) tidy tidy' index

/-- **Resolving early or late makes no difference.** Let the slots be tidy. Then the resolution of every
grounded item returns. And let unions, types and shapes be grounded and resolved within the limits. Then
whatever is made of them by a join, an insertion, a read or a write is grounded too, and if it is
resolved within the limits, the result is equal to the same join, insertion, read or write of what
was resolved before. -/
theorem early_or_late :
    (∀ item : Item, item.Grounded slots →
      ∃ result log, run limits (item.resolve slots) = (.ok result, log)) ∧
    (∀ {first second first' second' : TyUnion},
      Early slots limits (.union first) (.union first') →
      Early slots limits (.union second) (.union second') →
      Late slots limits (.union (first.join second)) (.union (first'.join second'))) ∧
    (∀ {union union' : TyUnion} {ty ty' : Ty},
      Early slots limits (.union union) (.union union') → Early slots limits (.ty ty) (.ty ty') →
      Late slots limits (.union (union.insert ty)) (.union (union'.insert ty'))) ∧
    (∀ {first second first' second' : Shape},
      Early slots limits (.shape first) (.shape first') →
      Early slots limits (.shape second) (.shape second') →
      Late slots limits (.shape (first.join second)) (.shape (first'.join second'))) ∧
    (∀ {shape shape' : Shape}, Early slots limits (.shape shape) (.shape shape') →
      Late slots limits (.union shape.elements) (.union shape'.elements) ∧
      ∀ core index,
        Late slots limits (.union (shape.read core index)) (.union (shape'.read core index))) ∧
    (∀ {shape shape' : Shape} {ty ty' : Ty},
      Early slots limits (.shape shape) (.shape shape') → Early slots limits (.ty ty) (.ty ty') →
      ∀ index, Late slots limits (.shape (shape.write index ty)) (.shape (shape'.write index ty'))) :=
  ⟨fun _ grounded => grounded.exists_run_eq_ok limits, late_union_join tidySlots,
    late_union_insert tidySlots, late_shape_join tidySlots,
    fun early => ⟨late_elements tidySlots early, late_read tidySlots early⟩, late_write tidySlots⟩

end Operations

/-! ### Two arrays of numbers -/

/-- The integers, and the arrays of integers. -/
def integer : Ty := .ofClass CoreClasses.standard.integer

def integers : Ty := .array (.seq ⟨[integer]⟩) .any

/-- Two arrays that hold a number each. -/
def numberSlots (id : ArrayId) : Option Shape :=
  if id = ⟨0⟩ then some (.seq ⟨[.literal (.integer 1) integer]⟩)
  else if id = ⟨1⟩ then some (.seq ⟨[.literal (.integer 2) integer]⟩)
  else none

theorem tidy_numberSlots (id : ArrayId) (content : Shape) (held : numberSlots id = some content) :
    content.isTidy = true ∧ content.handles = [] := by
  unfold numberSlots at held
  split_ifs at held
  · obtain rfl := Option.some.inj held
    exact ⟨rfl, rfl⟩
  · obtain rfl := Option.some.inj held
    exact ⟨rfl, rfl⟩

/-- A tidy item with these arrays is grounded, since they refer to no array. -/
theorem grounded_numberSlots {item : Item} (tidy : item.isTidy = true)
    (allocated : ∀ id ∈ item.handles, (numberSlots id).isSome) : item.Grounded numberSlots := by
  have refersNone : ∀ holder id, ¬ Refers numberSlots holder id := by
    rintro holder id ⟨content, held, inContent⟩
    rw [(tidy_numberSlots holder content held).2] at inContent
    cases inContent
  refine ⟨tidy, ?_, fun id _ cycle => ?_⟩
  · rintro id ⟨found, isItem, root, isRoot, path⟩
    rw [List.mem_singleton.mp isItem] at isRoot
    rcases Relation.ReflTransGen.cases_tail path with rfl | ⟨holder, -, refers⟩
    · exact allocated id isRoot
    · exact absurd refers (refersNone holder id)
  · obtain ⟨next, refers, -⟩ := Relation.TransGen.head'_iff.mp cycle
    exact refersNone id next refers

/-- A number, and an array that holds one. -/
def numbers (value : Int) (id : ArrayId) : TyUnion :=
  ⟨[.literal (.integer value) integer, .localArray id .any]⟩

theorem early_numbers_first :
    Early numberSlots .resolution (.union (numbers 1 ⟨0⟩)) (.union ⟨[integer, integers]⟩) :=
  ⟨grounded_numberSlots rfl (by decide), _, rfl, rfl⟩

theorem early_numbers_second :
    Early numberSlots .resolution (.union (numbers 2 ⟨1⟩)) (.union ⟨[integer, integers]⟩) :=
  ⟨grounded_numberSlots rfl (by decide), _, rfl, rfl⟩

/-- Four members that are resolved to two: joined first, they are merged by the resolution, and resolved
first, they are merged by the join. -/
theorem early_or_late_numbers :
    ∃ result, ResolvesWithin numberSlots .resolution
        (.union ((numbers 1 ⟨0⟩).join (numbers 2 ⟨1⟩))) result ∧
      (result == .union (TyUnion.join ⟨[integer, integers]⟩ ⟨[integer, integers]⟩)) = true := by
  have tidySlots id content held := (tidy_numberSlots id content held).1
  have late := (early_or_late tidySlots).2.1 early_numbers_first early_numbers_second
  exact ⟨_, ⟨_, rfl, rfl⟩, late.agrees _ ⟨_, rfl, rfl⟩⟩

end Item

end TypeLattice
