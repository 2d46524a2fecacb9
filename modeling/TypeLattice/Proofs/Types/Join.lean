/-
**The join of shapes depends only on which shapes are joined.**

A join of two tuples of one length goes position by position, any other widens to a sequence. So three
shapes, bracketed differently, may be joined by position first and widened later, or the other way
round. The outcome is the same: it is told by the lengths and by what each read may give, and both can
be read off the shapes that are joined.

* `length?_join_eq_some_iff`, `contains_elements_join`: the length and the elements of a join;
* `same_of_reads`: shapes of one length whose reads give the same are equal;
* `JoinTree`: shapes to be joined in some order and bracketing;
* `length?_joined_eq_some_iff`, `contains_read_joined`: the length of the outcome, and what it gives;
* `same_joined`: the outcome depends on the set of shapes only;
* `join_is_semilattice`: the laws that follow.
-/

import TypeLattice.Proofs.Types.Interchange
import TypeLattice.Proofs.Types.Reading

namespace TypeLattice.Shape

variable {core : CoreClasses} {first second : Shape} {index : Option Nat} {ty : Ty}

/-! ### Two shapes -/

theorem isTuple_iff_length? {shape : Shape} :
    shape.isTuple = true ↔ ∃ length, shape.length? = some length := by
  cases shape <;> simp [isTuple, length?]

/-- A join is a tuple exactly when both sides are tuples of its length. -/
theorem length?_join_eq_some_iff {length : Nat} :
    (first.join second).length? = some length ↔
      first.length? = some length ∧ second.length? = some length := by
  match first, second with
  | .seq _, .seq _ => simp [join, length?]
  | .seq _, .tuple _ => simp [join, length?]
  | .tuple _, .seq _ => simp [join, length?]
  | .tuple elems, .tuple elems' =>
      by_cases same : elems.length = elems'.length
      · simp [join, length?, same]
      · simp only [join, if_neg same, length?, Option.some.injEq, reduceCtorEq, false_iff]
        omega

/-- **The elements of a join are those of both sides.** -/
theorem contains_elements_join :
    (first.join second).elements.contains ty = true ↔
      first.elements.contains ty = true ∨ second.elements.contains ty = true := by
  by_cases same : first.length? = second.length?
  · match first, second with
    | .seq _, .seq _ => exact TyUnion.contains_join
    | .tuple elems, .tuple elems' =>
        have length : elems.length = elems'.length := Option.some.inj same
        rw [join, if_pos length]
        exact contains_elements_zipWith length
  · rw [join_of_length?_ne same]
    exact TyUnion.contains_join

/-- A sequence is read in the same way at every index. -/
theorem read_of_length?_eq_none {shape : Shape} (widened : shape.length? = none) :
    shape.read core index = shape.elements := by
  cases shape with
  | seq elem => rfl
  | tuple elems => cases widened

/-- **Shapes of one length whose reads may give the same types are equal.** -/
theorem same_of_reads (core : CoreClasses) (built : first.Constructed) (built' : second.Constructed)
    (sameLength : first.length? = second.length?)
    (agree : ∀ index ty, (first.read core index).contains ty = true ↔
      (second.read core index).contains ty = true) : first.Same second := by
  match first, second with
  | .seq elem, .seq elem' =>
      refine same_seq_iff.mpr (TyUnion.same_of_contains_iff ?_ ?_ (agree none))
      · exact TyUnion.constructed_iff.mpr built.isTidy
      · exact TyUnion.constructed_iff.mpr built'.isTidy
  | .tuple elems, .tuple elems' =>
      have length : elems.length = elems'.length := Option.some.inj sameLength
      have each := TyUnion.constructed_of_allTidy elems built.isTidy
      have each' := TyUnion.constructed_of_allTidy elems' built'.isTidy
      refine same_tuple_iff.mpr (List.forall₂_iff_get.mpr ⟨length, fun position inside inside' => ?_⟩)
      refine TyUnion.same_of_contains_iff (each _ (List.get_mem _ _)) (each' _ (List.get_mem _ _)) ?_
      intro ty
      have here := agree (some position) ty
      rwa [read, read, List.getD_eq_getElem _ _ inside, List.getD_eq_getElem _ _ inside'] at here

/-! ### Any number of shapes -/

/-- Shapes that are to be joined, in some order and bracketing. -/
inductive JoinTree where
  | leaf (shape : Shape)
  | node (left right : JoinTree)

namespace JoinTree

/-- The shapes that are joined, from left to right. -/
def leaves : JoinTree → List Shape
  | leaf shape => [shape]
  | node left right => left.leaves ++ right.leaves

/-- The outcome. -/
def joined : JoinTree → Shape
  | leaf shape => shape
  | node left right => left.joined.join right.joined

/-- **The outcome is a tuple exactly when all shapes are tuples of its length.** -/
theorem length?_joined_eq_some_iff (tree : JoinTree) {length : Nat} :
    tree.joined.length? = some length ↔ ∀ shape ∈ tree.leaves, shape.length? = some length := by
  induction tree with
  | leaf shape => simp [joined, leaves]
  | node left right ihLeft ihRight =>
      rw [joined, leaves, length?_join_eq_some_iff, ihLeft, ihRight, List.forall_mem_append]

theorem contains_elements_joined (tree : JoinTree) :
    tree.joined.elements.contains ty = true ↔
      ∃ shape ∈ tree.leaves, shape.elements.contains ty = true := by
  induction tree with
  | leaf shape => simp [joined, leaves]
  | node left right ihLeft ihRight =>
      rw [joined, leaves, contains_elements_join, ihLeft, ihRight]
      simp only [List.mem_append, or_and_right, exists_or]

/-- Tuples of one length are joined answer by answer, whatever the brackets. -/
theorem contains_read_joined (tree : JoinTree) {length : Nat}
    (tuple : tree.joined.length? = some length) :
    (tree.joined.read core index).contains ty = true ↔
      ∃ shape ∈ tree.leaves, (shape.read core index).contains ty = true := by
  induction tree with
  | leaf shape => simp [joined, leaves]
  | node left right ihLeft ihRight =>
      obtain ⟨tupleLeft, tupleRight⟩ := length?_join_eq_some_iff.mp tuple
      rw [joined, leaves, contains_read_join_of_length?_eq (tupleLeft.trans tupleRight.symm),
        ihLeft tupleLeft, ihRight tupleRight]
      simp only [List.mem_append, or_and_right, exists_or]

theorem constructed_joined (tree : JoinTree) (built : ∀ shape ∈ tree.leaves, shape.Constructed) :
    tree.joined.Constructed := by
  induction tree with
  | leaf shape => exact built shape List.mem_cons_self
  | node left right ihLeft ihRight =>
      obtain ⟨builtLeft, builtRight⟩ := List.forall_mem_append.mp built
      exact constructed_iff.mpr (isTidy_join (ihLeft builtLeft).isTidy (ihRight builtRight).isTidy)

/-- **The outcome depends only on the set of the shapes that are joined.** -/
theorem same_joined {tree tree' : JoinTree} (built : ∀ shape ∈ tree.leaves, shape.Constructed)
    (agree : ∀ shape, shape ∈ tree.leaves ↔ shape ∈ tree'.leaves) :
    tree.joined.Same tree'.joined := by
  have built' : ∀ shape ∈ tree'.leaves, shape.Constructed :=
    fun shape member => built shape ((agree shape).mpr member)
  have sameLength : tree.joined.length? = tree'.joined.length? := by
    apply Option.ext
    intro length
    simp only [length?_joined_eq_some_iff, agree]
  refine same_of_reads .standard (tree.constructed_joined built) (tree'.constructed_joined built')
    sameLength fun index ty => ?_
  -- Either all are tuples of one length, or both outcomes have been widened.
  cases length : tree.joined.length? with
  | none =>
      have length' : tree'.joined.length? = none := sameLength ▸ length
      rw [read_of_length?_eq_none length, read_of_length?_eq_none length', contains_elements_joined,
        contains_elements_joined]
      simp only [agree]
  | some count =>
      have length' : tree'.joined.length? = some count := sameLength ▸ length
      rw [contains_read_joined tree length, contains_read_joined tree' length']
      simp only [agree]

end JoinTree

/-- **The join of shapes is a join.** On shapes made by the constructors and operations

* it is idempotent, commutative and associative up to equality;
* the elements of a join are the join of the elements;
* shapes joined in any order and bracketing give a tuple exactly when all of them are tuples of one
  length, and any other order and bracketing gives the same. -/
theorem join_is_semilattice :
    (∀ first : Shape, first.Constructed → (first.join first).Same first) ∧
    (∀ first second : Shape, first.Constructed → second.Constructed →
      (first.join second).Same (second.join first) ∧
      (first.join second).elements.Same (first.elements.join second.elements)) ∧
    (∀ first second third : Shape, first.Constructed → second.Constructed → third.Constructed →
      ((first.join second).join third).Same (first.join (second.join third))) ∧
    ∀ (shapes : List Shape) (tree : JoinTree), tree.leaves.Perm shapes →
      (tree.joined.isTuple = true ↔ ∃ length, ∀ shape ∈ shapes, shape.length? = some length) ∧
      ∀ tree' : JoinTree, tree'.leaves.Perm shapes → (∀ shape ∈ shapes, shape.Constructed) →
        tree.joined.Same tree'.joined := by
  refine ⟨fun first built => ?_, fun first second built built' => ⟨?_, ?_⟩,
    fun first second third built built' built'' => ?_, fun shapes tree listed => ⟨?_, ?_⟩⟩
  · show (JoinTree.node (.leaf first) (.leaf first)).joined.Same (JoinTree.leaf first).joined
    exact JoinTree.same_joined (by simpa [JoinTree.leaves] using built) (by simp [JoinTree.leaves])
  · show (JoinTree.node (.leaf first) (.leaf second)).joined.Same
      (JoinTree.node (.leaf second) (.leaf first)).joined
    exact JoinTree.same_joined (by simp [JoinTree.leaves, built, built'])
      (by simp [JoinTree.leaves, or_comm])
  · have tidy := isTidy_elements (isTidy_join built.isTidy built'.isTidy)
    have tidy' := TyUnion.isTidy_join (isTidy_elements built.isTidy) (isTidy_elements built'.isTidy)
    refine TyUnion.same_of_contains_iff (TyUnion.constructed_iff.mpr tidy)
      (TyUnion.constructed_iff.mpr tidy') fun ty => ?_
    rw [contains_elements_join, TyUnion.contains_join]
  · show (JoinTree.node (.node (.leaf first) (.leaf second)) (.leaf third)).joined.Same
      (JoinTree.node (.leaf first) (.node (.leaf second) (.leaf third))).joined
    exact JoinTree.same_joined (by simp [JoinTree.leaves, built, built', built''])
      (by simp [JoinTree.leaves])
  · simp only [isTuple_iff_length?, tree.length?_joined_eq_some_iff, listed.mem_iff]
  · intro tree' listed' built
    refine JoinTree.same_joined (fun shape member => built shape (listed.mem_iff.mp member)) ?_
    exact fun shape => listed.mem_iff.trans listed'.mem_iff.symm

/-- A sequence between two tuples of one element, bracketed either way. The tuples without it make a
tuple. -/
theorem join_is_semilattice_mixed :
    let core := CoreClasses.standard
    let one := tuple [.singleton (.ofClass core.integer)]
    let other := tuple [.singleton (.ofClass core.string)]
    let row := seq (.singleton (.ofClass core.symbol))
    one.Constructed ∧ row.Constructed ∧ other.Constructed ∧
      ((one.join row).join other).Same (one.join (row.join other)) ∧
      ((one.join other).isTuple = true ↔ ∃ length, ∀ shape ∈ [other, one], shape.length? = some length) := by
  intro core one other row
  have builtOne : one.Constructed := constructed_iff.mpr rfl
  have builtOther : other.Constructed := constructed_iff.mpr rfl
  have builtRow : row.Constructed := constructed_iff.mpr rfl
  obtain ⟨-, -, assoc, anyOrder⟩ := join_is_semilattice
  refine ⟨builtOne, builtRow, builtOther, assoc one row other builtOne builtRow builtOther, ?_⟩
  exact (anyOrder [other, one] (.node (.leaf one) (.leaf other)) (List.Perm.swap _ _ _)).1

end TypeLattice.Shape
