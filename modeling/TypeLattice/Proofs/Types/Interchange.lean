/-
**Equal operands are interchangeable.**

Whoever holds one of two equal values cannot find out which: every query gives the same answer for both,
and every operation gives equal values. The two may be in different order and carry different class
names, so an operation may well take different ways, and a join keep one side or the other.

* `Interchangeable`: two constructed values that are equal; `Ty.Same`, `TyUnion.Same`, `Shape.Same` and
  `Signature.Same` for the four kinds of value;
* `Ty.Alike.isContextFree_eq`, `Ty.Alike.method?_eq`: queries that look at neither names nor order;
* `TyUnion.Same.insert`, `TyUnion.Same.join`, `Shape.Same.elements`, `Shape.Same.read`,
  `Shape.Same.write`, `Shape.Same.join`: each operation keeps values the same;
* `equal_operands_interchange`: all queries and operations.
-/

import TypeLattice.Proofs.Types.ScreenName
import TypeLattice.Proofs.Types.Structural

namespace TypeLattice

/-- Two constructed values that are equal. -/
structure Interchangeable {α : Type} [BEq α] (constructed : α → Prop) (first second : α) : Prop where
  left : constructed first
  right : constructed second
  equal : (first == second) = true

abbrev Ty.Same : Ty → Ty → Prop := Interchangeable Ty.Constructed

abbrev TyUnion.Same : TyUnion → TyUnion → Prop := Interchangeable TyUnion.Constructed

abbrev Shape.Same : Shape → Shape → Prop := Interchangeable Shape.Constructed

abbrev Signature.Same : Signature → Signature → Prop := Interchangeable Signature.Constructed

/-! ### What does not depend on names and order -/

theorem Ty.allContextFree_eq_of_perm {first second : List Ty} (reordered : first.Perm second) :
    Ty.allContextFree first = Ty.allContextFree second := by
  rw [Bool.eq_iff_iff, Ty.allContextFree_iff, Ty.allContextFree_iff]
  simp only [reordered.mem_iff]

mutual

/-- **Types that are alike hold local arrays both or neither.** -/
theorem Ty.Alike.isContextFree_eq {first second : Ty} (alike : Ty.Alike first second) :
    first.isContextFree = second.isContextFree := by
  cases alike with
  | any | classObject | code | localArray => rfl
  | instanceOf inner => exact inner.isContextFree_eq
  | closure block frame inner => exact inner.isContextFree_eq
  | typedClosure params result inner =>
      rw [Ty.isContextFree, Ty.isContextFree, params.allContextFree_eq, result.isContextFree_eq,
        inner.isContextFree_eq]
  | literal value inner => exact inner.isContextFree_eq
  | array shape inner =>
      rw [Ty.isContextFree, Ty.isContextFree, shape.isContextFree_eq, inner.isContextFree_eq]

theorem TyUnion.Alike.isContextFree_eq {first second : TyUnion} (alike : TyUnion.Alike first second) :
    first.isContextFree = second.isContextFree := by
  cases alike with
  | reordered all reordering =>
      exact all.allContextFree_eq.trans (Ty.allContextFree_eq_of_perm reordering)

theorem Shape.Alike.isContextFree_eq {first second : Shape} (alike : Shape.Alike first second) :
    first.isContextFree = second.isContextFree := by
  cases alike with
  | seq elem => exact elem.isContextFree_eq
  | tuple elems => exact elems.allContextFree_eq

theorem Ty.AllAlike.allContextFree_eq {first second : List Ty} (alike : Ty.AllAlike first second) :
    Ty.allContextFree first = Ty.allContextFree second := by
  cases alike with
  | nil => rfl
  | cons here later =>
      rw [Ty.allContextFree, Ty.allContextFree, here.isContextFree_eq, later.allContextFree_eq]

theorem TyUnion.AllAlike.allContextFree_eq {first second : List TyUnion}
    (alike : TyUnion.AllAlike first second) :
    TyUnion.allContextFree first = TyUnion.allContextFree second := by
  cases alike with
  | nil => rfl
  | cons here later =>
      rw [TyUnion.allContextFree, TyUnion.allContextFree, here.isContextFree_eq, later.allContextFree_eq]

end

theorem Ty.Alike.isAny_eq {first second : Ty} (alike : Ty.Alike first second) :
    first.isAny = second.isAny := by
  cases alike <;> rfl

section Dispatch

variable {μ : Type} (table : ClassTable μ) (member : Atom)

theorem Ty.Alike.methodOfType?_eq {first second : Ty} (alike : Ty.Alike first second) :
    table.methodOfType? first member = table.methodOfType? second member := by
  cases alike with
  | classObject ids =>
      simp only [ClassTable.methodOfType?, ClassTable.method?, ids]
  | any | instanceOf | code | closure | typedClosure | literal | localArray | array => rfl

/-- **Types that are alike have the same methods**, or cannot be asked, both of them. -/
theorem Ty.Alike.method?_eq {first second : Ty} (alike : Ty.Alike first second) :
    first.method? table member = second.method? table member := by
  cases alike with
  | any | code | array => rfl
  | classObject ids => simp only [Ty.method?, ClassTable.singletonMethod?, ids]
  | instanceOf inner => exact congrArg Except.ok (inner.methodOfType?_eq table member)
  | closure block frame inner => exact inner.method?_eq
  | typedClosure params result inner => exact inner.method?_eq
  | literal value inner => exact inner.method?_eq
  | localArray id inner => exact inner.method?_eq

/-- An array answers through its base in a signature. -/
theorem Signature.Alike.method?_eq {first second : Signature} (alike : first.Alike second) :
    first.method? table = second.method? table := by
  obtain ⟨receiver, isSingleton, member, args, block⟩ := first
  obtain ⟨receiver', isSingleton', member', args', block'⟩ := second
  obtain rfl : member = member' := alike.member
  have sameReceiver : receiver.Alike receiver' := alike.receiver
  have asked := sameReceiver.method?_eq table member
  cases sameReceiver with
  | array shape inner => exact inner.method?_eq table member
  | any | classObject | instanceOf | code | closure | typedClosure | literal | localArray => exact asked

end Dispatch

/-! ### Types -/

section Types

variable {ty ty' other other' : Ty}

theorem Ty.Same.alike (same : ty.Same ty') : ty.Alike ty' :=
  (Ty.equal_iff_alike same.left same.right).mp same.equal

theorem Ty.Same.symm (same : ty.Same ty') : ty'.Same ty :=
  ⟨same.right, same.left, ty.equal_symm same.left.isTidy same.right.isTidy same.equal⟩

theorem Ty.Same.beq_eq (same : ty.Same ty') (same' : other.Same other') :
    (ty == other) = (ty' == other') := by
  rw [Bool.eq_iff_iff]
  constructor
  · intro here
    exact ty'.equal_trans same.symm.equal (ty.equal_trans here same'.equal)
  · intro here
    exact ty.equal_trans same.equal (ty'.equal_trans here same'.symm.equal)

theorem Ty.Same.isConsistentWith_eq (same : ty.Same ty') (same' : other.Same other') :
    ty.isConsistentWith other = ty'.isConsistentWith other' := by
  unfold Ty.isConsistentWith
  rw [same.alike.isAny_eq, same'.alike.isAny_eq, same.beq_eq same']

/-- The types behind two such types are the same, or there are none. -/
theorem Ty.Same.base? (same : ty.Same ty') : Option.Rel Ty.Same ty.base? ty'.base? := by
  have tidy := same.left.isTidy
  have tidy' := same.right.isTidy
  have behind {base base' : Ty} (inner : base.Alike base') (tidyBase : base.isTidy = true)
      (tidyBase' : base'.isTidy = true) : base.Same base' :=
    ⟨Ty.constructed_iff.mpr tidyBase, Ty.constructed_iff.mpr tidyBase', inner.equal⟩
  cases same.alike with
  | any | classObject | instanceOf | code => exact .none
  | closure block frame inner => exact .some (behind inner tidy tidy')
  | literal value inner => exact .some (behind inner tidy tidy')
  | localArray id inner => exact .some (behind inner tidy tidy')
  | typedClosure params result inner =>
      rw [Ty.isTidy, Bool.and_eq_true] at tidy tidy'
      exact .some (behind inner tidy.2 tidy'.2)
  | array shape inner =>
      rw [Ty.isTidy, Bool.and_eq_true] at tidy tidy'
      exact .some (behind inner tidy.2 tidy'.2)

end Types

/-! ### Unions -/

section Unions

variable {union union' other other' : TyUnion} {ty ty' : Ty}

theorem TyUnion.Same.alike (same : union.Same union') : union.Alike union' :=
  (TyUnion.equal_iff_alike same.left same.right).mp same.equal

theorem TyUnion.Same.contains_iff (same : union.Same union') (ty : Ty) :
    union.contains ty = true ↔ union'.contains ty = true :=
  (TyUnion.equal_iff_contains same.left.isTidy same.right.isTidy).mp same.equal ty

/-- Unions that contain the same types are the same. -/
theorem TyUnion.same_of_contains_iff (built : union.Constructed) (built' : union'.Constructed)
    (agree : ∀ ty, union.contains ty = true ↔ union'.contains ty = true) : union.Same union' :=
  ⟨built, built', (TyUnion.equal_iff_contains built.isTidy built'.isTidy).mpr agree⟩

theorem TyUnion.Same.size_eq (same : union.Same union') : union.size = union'.size :=
  (TyUnion.equal_iff.mp same.equal).1

theorem TyUnion.Same.contains_eq (same : union.Same union') (sameTy : ty.Same ty') :
    union.contains ty = union'.contains ty' := by
  rw [Bool.eq_iff_iff]
  constructor
  · intro held
    exact (same.contains_iff ty').mp (TyUnion.contains_of_equal sameTy.symm.equal held)
  · intro held
    exact (same.contains_iff ty).mpr (TyUnion.contains_of_equal sameTy.equal held)

theorem TyUnion.same_singleton (same : ty.Same ty') :
    (TyUnion.singleton ty).Same (TyUnion.singleton ty') := by
  refine TyUnion.same_of_contains_iff (.singleton same.left) (.singleton same.right) fun found => ?_
  rw [TyUnion.contains_singleton, TyUnion.contains_singleton]
  exact ⟨fun here => found.equal_trans here same.equal, fun here => found.equal_trans here same.symm.equal⟩

theorem TyUnion.Same.insert (same : union.Same union') (sameTy : ty.Same ty') :
    (union.insert ty).Same (union'.insert ty') := by
  refine ⟨.insert same.left sameTy.left, .insert same.right sameTy.right, ?_⟩
  exact TyUnion.insert_equal same.left.isTidy same.right.isTidy sameTy.left.isTidy sameTy.right.isTidy
    same.equal sameTy.equal

theorem TyUnion.Same.join (same : union.Same union') (same' : other.Same other') :
    (union.join other).Same (union'.join other') := by
  refine ⟨.join same.left same'.left, .join same.right same'.right, ?_⟩
  exact TyUnion.join_equal same.left.isTidy same.right.isTidy same'.left.isTidy same'.right.isTidy
    same.equal same'.equal

end Unions

/-! ### Lists that are related position by position -/

section Positions

variable {α : Type} {holds : α → α → Prop} {first second : List α}

theorem forall₂_getD {a b : α} (all : List.Forall₂ holds first second) (beyond : holds a b)
    (position : Nat) : holds (first.getD position a) (second.getD position b) := by
  induction all generalizing position with
  | nil => exact beyond
  | cons here _ ih =>
      cases position with
      | zero => exact here
      | succ position => exact ih position

theorem forall₂_set {a b : α} (all : List.Forall₂ holds first second) (here : holds a b)
    (position : Nat) : List.Forall₂ holds (first.set position a) (second.set position b) := by
  induction all generalizing position with
  | nil => exact .nil
  | cons there later ih =>
      cases position with
      | zero => exact .cons here later
      | succ position => exact .cons there (ih position)

theorem forall₂_zipWith {combine : α → α → α} {third fourth : List α}
    (keeps : ∀ {a b c d}, holds a b → holds c d → holds (combine a c) (combine b d))
    (all : List.Forall₂ holds first second) (all' : List.Forall₂ holds third fourth) :
    List.Forall₂ holds (List.zipWith combine first third) (List.zipWith combine second fourth) := by
  induction all generalizing third fourth with
  | nil => exact .nil
  | cons here _ ih =>
      cases all' with
      | nil => exact .nil
      | cons there later => exact .cons (keeps here there) (ih later)

end Positions

/-! ### Shapes -/

section Shapes

variable {shape shape' other other' : Shape}

theorem Shape.Same.alike (same : shape.Same shape') : shape.Alike shape' :=
  (Shape.equal_iff_alike same.left same.right).mp same.equal

theorem Shape.same_seq_iff {elem elem' : TyUnion} :
    Shape.Same (.seq elem) (.seq elem') ↔ elem.Same elem' := by
  constructor
  · intro same
    exact ⟨TyUnion.constructed_iff.mpr same.left.isTidy, TyUnion.constructed_iff.mpr same.right.isTidy,
      same.equal⟩
  · exact fun same => ⟨.seq same.left, .seq same.right, same.equal⟩

theorem Shape.same_tuple_iff {elems elems' : List TyUnion} :
    Shape.Same (.tuple elems) (.tuple elems') ↔ List.Forall₂ TyUnion.Same elems elems' := by
  constructor
  · intro same
    have built := TyUnion.constructed_of_allTidy elems same.left.isTidy
    have built' := TyUnion.constructed_of_allTidy elems' same.right.isTidy
    refine forall₂_congr (fun elem inElems elem' inElems' equal => ?_)
      (TyUnion.equalAll_iff_forall₂.mp same.equal)
    exact ⟨built elem inElems, built' elem' inElems', equal⟩
  · intro all
    refine ⟨.tuple fun elem inElems => ?_, .tuple fun elem' inElems' => ?_,
      TyUnion.equalAll_iff_forall₂.mpr (all.imp fun _ _ same => same.equal)⟩
    · obtain ⟨_, -, same⟩ := exists_of_mem_matching all.flip elem inElems
      exact same.left
    · obtain ⟨_, -, same⟩ := exists_of_mem_matching all elem' inElems'
      exact same.right

/-- Two such shapes are sequences of one union, or tuples that agree position by position. -/
theorem Shape.Same.cases (same : shape.Same shape') :
    (∃ elem elem', shape = .seq elem ∧ shape' = .seq elem' ∧ elem.Same elem') ∨
      ∃ elems elems', shape = .tuple elems ∧ shape' = .tuple elems' ∧
        List.Forall₂ TyUnion.Same elems elems' := by
  cases same.alike with
  | seq elem => exact .inl ⟨_, _, rfl, rfl, Shape.same_seq_iff.mp same⟩
  | tuple elems => exact .inr ⟨_, _, rfl, rfl, Shape.same_tuple_iff.mp same⟩

theorem Shape.Same.length?_eq (same : shape.Same shape') : shape.length? = shape'.length? := by
  obtain ⟨_, _, rfl, rfl, -⟩ | ⟨_, _, rfl, rfl, all⟩ := same.cases
  · rfl
  · exact congrArg some all.length_eq

theorem Shape.Same.elements (same : shape.Same shape') : shape.elements.Same shape'.elements := by
  have built : shape.elements.Constructed := .elements same.left
  have built' : shape'.elements.Constructed := .elements same.right
  obtain ⟨_, _, rfl, rfl, sameElem⟩ | ⟨_, _, rfl, rfl, all⟩ := same.cases
  · exact sameElem
  · refine TyUnion.same_of_contains_iff built built' fun ty => ?_
    rw [Shape.contains_elements_tuple, Shape.contains_elements_tuple]
    constructor
    · rintro ⟨union, inElems, held⟩
      obtain ⟨partner, inElems', here⟩ := exists_of_mem_matching all.flip union inElems
      exact ⟨partner, inElems', (TyUnion.Same.contains_iff here ty).mp held⟩
    · rintro ⟨union, inElems', held⟩
      obtain ⟨partner, inElems, here⟩ := exists_of_mem_matching all union inElems'
      exact ⟨partner, inElems, (TyUnion.Same.contains_iff here ty).mpr held⟩

/-- Reads of the same shapes, where the class of nil may go by another name. -/
theorem Shape.Same.read {core core' : CoreClasses} (same : shape.Same shape')
    (sameNil : (core.nil == core'.nil) = true) (index : Option Nat) :
    (shape.read core index).Same (shape'.read core' index) := by
  have elements := same.elements
  obtain ⟨_, _, rfl, rfl, sameElem⟩ | ⟨elems, elems', rfl, rfl, all⟩ := same.cases
  · exact sameElem
  · cases index with
    | none => exact elements
    | some position =>
        have beyond : core.nilUnion.Same core'.nilUnion :=
          TyUnion.same_singleton ⟨.instanceOf (.classObject _), .instanceOf (.classObject _), sameNil⟩
        exact forall₂_getD all beyond position

theorem Shape.Same.write {ty ty' : Ty} (same : shape.Same shape') (sameTy : ty.Same ty')
    (index : Option Nat) : (shape.write index ty).Same (shape'.write index ty') := by
  have gathered := Shape.same_seq_iff.mpr (same.elements.insert sameTy)
  obtain ⟨_, _, rfl, rfl, -⟩ | ⟨elems, elems', rfl, rfl, all⟩ := same.cases
  · exact gathered
  · cases index with
    | none => exact gathered
    | some position =>
        simp only [Shape.write, all.length_eq]
        split
        · exact Shape.same_tuple_iff.mpr (forall₂_set all (TyUnion.same_singleton sameTy) position)
        · exact gathered

theorem Shape.Same.join (same : shape.Same shape') (same' : other.Same other') :
    (shape.join other).Same (shape'.join other') := by
  have gathered := Shape.same_seq_iff.mpr (same.elements.join same'.elements)
  obtain ⟨_, _, rfl, rfl, -⟩ | ⟨elems, elems', rfl, rfl, all⟩ := same.cases
  · obtain ⟨_, _, rfl, rfl, -⟩ | ⟨_, _, rfl, rfl, -⟩ := same'.cases
    · exact gathered
    · exact gathered
  · obtain ⟨_, _, rfl, rfl, -⟩ | ⟨others, others', rfl, rfl, all'⟩ := same'.cases
    · exact gathered
    · simp only [Shape.join, all.length_eq, all'.length_eq]
      split
      · exact Shape.same_tuple_iff.mpr (forall₂_zipWith TyUnion.Same.join all all')
      · exact gathered

end Shapes

/-- **Equal operands are interchangeable.** Take types, unions, shapes and signatures made by the
constructors and operations, and replace each by an equal one. Then every query gives the same answer,
dispatch included, whether it answers or reports a violation; and every operation gives the same value
up to equality, again made by the operations. -/
theorem equal_operands_interchange :
    (∀ {ty ty' : Ty}, ty.Same ty' →
      ty.isContextFree = ty'.isContextFree ∧
      Option.Rel Ty.Same ty.base? ty'.base? ∧
      (∀ {other other' : Ty}, other.Same other' →
        ty.isConsistentWith other = ty'.isConsistentWith other') ∧
      ∀ {μ : Type} (table : ClassTable μ) (member : Atom),
        ty.method? table member = ty'.method? table member) ∧
    (∀ {union union' : TyUnion}, union.Same union' →
      union.size = union'.size ∧
      union.isContextFree = union'.isContextFree ∧
      (∀ {ty ty' : Ty}, ty.Same ty' →
        union.contains ty = union'.contains ty' ∧ (union.insert ty).Same (union'.insert ty')) ∧
      ∀ {other other' : TyUnion}, other.Same other' → (union.join other).Same (union'.join other')) ∧
    (∀ {shape shape' : Shape}, shape.Same shape' →
      shape.length? = shape'.length? ∧
      shape.isContextFree = shape'.isContextFree ∧
      shape.elements.Same shape'.elements ∧
      (∀ {core core' : CoreClasses} (index : Option Nat), (core.nil == core'.nil) = true →
        (shape.read core index).Same (shape'.read core' index)) ∧
      (∀ {ty ty' : Ty} (index : Option Nat), ty.Same ty' →
        (shape.write index ty).Same (shape'.write index ty')) ∧
      ∀ {other other' : Shape}, other.Same other' → (shape.join other).Same (shape'.join other')) ∧
    ∀ {signature signature' : Signature}, signature.Same signature' →
      ∀ {μ : Type} (table : ClassTable μ), signature.method? table = signature'.method? table := by
  refine ⟨fun same => ?_, fun same => ?_, fun same => ?_, fun same _ table => ?_⟩
  · exact ⟨same.alike.isContextFree_eq, same.base?, same.isConsistentWith_eq,
      fun table member => same.alike.method?_eq table member⟩
  · exact ⟨same.size_eq, same.alike.isContextFree_eq,
      fun sameTy => ⟨same.contains_eq sameTy, same.insert sameTy⟩, same.join⟩
  · exact ⟨same.length?_eq, same.alike.isContextFree_eq, same.elements,
      fun index sameNil => same.read sameNil index, fun index sameTy => same.write sameTy index, same.join⟩
  · exact ((Signature.beq_iff_alike same.left same.right).mp same.equal).method?_eq table

/-- Integers and anything else, in either order and under either name of the class. -/
theorem equal_operands_interchange_renamed :
    let integer := Ty.ofClass ⟨⟨3⟩, some "Integer"⟩
    let number := Ty.ofClass ⟨⟨3⟩, some "Number"⟩
    TyUnion.Same ⟨[integer, .any]⟩ ⟨[.any, number]⟩ ∧
      ((TyUnion.singleton number).join ⟨[integer, .any]⟩).Same
        ((TyUnion.singleton integer).join ⟨[.any, number]⟩) := by
  intro integer number
  have same : TyUnion.Same ⟨[integer, .any]⟩ ⟨[.any, number]⟩ :=
    ⟨TyUnion.constructed_iff.mpr rfl, TyUnion.constructed_iff.mpr rfl, rfl⟩
  have renamed : (TyUnion.singleton number).Same (TyUnion.singleton integer) :=
    ⟨TyUnion.constructed_iff.mpr rfl, TyUnion.constructed_iff.mpr rfl, rfl⟩
  exact ⟨same, (equal_operands_interchange.2.1 renamed).2.2.2 same⟩

end TypeLattice
