/-
**Values that resolution leaves as they are.**

A tidy value without handles, and without literals outside the bases of literals and arrays, has nothing
to resolve: its unions are collected again from the members they have.

* `Item.IsFinal`: an item of this kind;
* `Item.IsFinal.fill_eq`: it is its own resolution;
* `Ty.fill_array`: so an array that is kept as it stands is what it would be if its shape were
  resolved.
-/

import TypeLattice.Proofs.Resolution.Traversal
import TypeLattice.Proofs.Types.Equality

namespace TypeLattice

mutual

theorem Ty.fill_self (ty : Ty) (answers : List (Option Shape)) (noHandles : ty.handles = [])
    (plain : ty.hasLiteral = false) (tidy : ty.isTidy = true) : ty.fill answers = ty := by
  cases ty with
  | any => rfl
  | classObject cls => rfl
  | code id => rfl
  | literal value base => simp [Ty.hasLiteral] at plain
  | localArray id base => simp [Ty.handles] at noHandles
  | instanceOf cls => rw [Ty.fill, Ty.fill_self cls answers noHandles plain tidy]
  | closure code frame underlying => rw [Ty.fill, Ty.fill_self underlying answers noHandles plain tidy]
  | array shape base =>
      rw [Ty.isTidy, Bool.and_eq_true] at tidy
      rw [Ty.fill]
      split
      · rfl
      · rw [Shape.fill_self shape answers noHandles plain tidy.1]
  | typedClosure params result underlying =>
      simp only [Ty.handles, List.append_eq_nil_iff] at noHandles
      simp only [Ty.hasLiteral, Bool.or_eq_false_iff] at plain
      simp only [Ty.isTidy, Bool.and_eq_true] at tidy
      rw [Ty.fill, TyUnion.fillAll_self params _ noHandles.1 plain.1.1 tidy.1.1,
        TyUnion.fill_self result _ noHandles.2.1 plain.1.2 tidy.1.2,
        Ty.fill_self underlying _ noHandles.2.2 plain.2 tidy.2]

theorem TyUnion.fill_self (union : TyUnion) (answers : List (Option Shape))
    (noHandles : union.handles = []) (plain : union.hasLiteral = false)
    (tidy : union.isTidy = true) : union.fill answers = union := by
  obtain ⟨members⟩ := union
  simp only [TyUnion.isTidy, Bool.and_eq_true] at tidy
  rw [TyUnion.fill, Ty.fillAll_self members answers noHandles plain tidy.2]
  exact TyUnion.ofList_of_areApart tidy.1

theorem Shape.fill_self (shape : Shape) (answers : List (Option Shape))
    (noHandles : shape.handles = []) (plain : shape.hasLiteral = false)
    (tidy : shape.isTidy = true) : shape.fill answers = shape := by
  cases shape with
  | seq elem => rw [Shape.fill, TyUnion.fill_self elem answers noHandles plain tidy]
  | tuple elems => rw [Shape.fill, TyUnion.fillAll_self elems answers noHandles plain tidy]

theorem Ty.fillAll_self (types : List Ty) (answers : List (Option Shape))
    (noHandles : Ty.handlesOfAll types = []) (plain : Ty.anyHasLiteral types = false)
    (tidy : Ty.allTidy types = true) : Ty.fillAll types answers = types := by
  cases types with
  | nil => rfl
  | cons ty rest =>
      simp only [Ty.handlesOfAll, List.append_eq_nil_iff] at noHandles
      simp only [Ty.anyHasLiteral, Bool.or_eq_false_iff] at plain
      simp only [Ty.allTidy, Bool.and_eq_true] at tidy
      rw [Ty.fillAll, Ty.fill_self ty _ noHandles.1 plain.1 tidy.1,
        Ty.fillAll_self rest _ noHandles.2 plain.2 tidy.2]

theorem TyUnion.fillAll_self (unions : List TyUnion) (answers : List (Option Shape))
    (noHandles : TyUnion.handlesOfAll unions = []) (plain : TyUnion.anyHasLiteral unions = false)
    (tidy : TyUnion.allTidy unions = true) : TyUnion.fillAll unions answers = unions := by
  cases unions with
  | nil => rfl
  | cons union rest =>
      simp only [TyUnion.handlesOfAll, List.append_eq_nil_iff] at noHandles
      simp only [TyUnion.anyHasLiteral, Bool.or_eq_false_iff] at plain
      simp only [TyUnion.allTidy, Bool.and_eq_true] at tidy
      rw [TyUnion.fillAll, TyUnion.fill_self union _ noHandles.1 plain.1 tidy.1,
        TyUnion.fillAll_self rest _ noHandles.2 plain.2 tidy.2]

end

/-- **The shape of a tidy array is always filled**, also where the array is kept as it stands. -/
theorem Ty.fill_array {shape : Shape} (tidy : shape.isTidy = true) (base : Ty)
    (answers : List (Option Shape)) :
    (Ty.array shape base).fill answers = .array (shape.fill answers) base := by
  rw [Ty.fill]
  split
  · rename_i kept
    simp only [Bool.and_eq_true, Bool.not_eq_true'] at kept
    rw [Shape.fill_self shape answers (shape.handles_eq_nil kept.1) kept.2 tidy]
  · rfl

namespace Item

/-- No union in an item holds two equal members. -/
def isTidy : Item → Bool
  | ty value => value.isTidy
  | union value => value.isTidy
  | shape value => value.isTidy

def hasLiteral : Item → Bool
  | ty value => value.hasLiteral
  | union value => value.hasLiteral
  | shape value => value.hasLiteral

/-- Nothing is left to resolve in an item: there is no local array and no literal where resolution
looks, and no union has two equal members. -/
structure IsFinal (item : Item) : Prop where
  noHandles : item.handles = []
  noLiteral : item.hasLiteral = false
  tidy : item.isTidy = true

/-- **A final item is its own resolution.** -/
theorem IsFinal.fill_eq {item : Item} (final : item.IsFinal) (answers : List (Option Shape)) :
    item.fill answers = item := by
  obtain ⟨noHandles, noLiteral, tidy⟩ := final
  cases item with
  | ty value => exact congrArg Item.ty (value.fill_self answers noHandles noLiteral tidy)
  | union value => exact congrArg Item.union (value.fill_self answers noHandles noLiteral tidy)
  | shape value => exact congrArg Item.shape (value.fill_self answers noHandles noLiteral tidy)

theorem handles_eq_nil (item : Item) (closed : item.isContextFree = true) : item.handles = [] := by
  cases item with
  | ty value => exact value.handles_eq_nil closed
  | union value => exact value.handles_eq_nil closed
  | shape value => exact value.handles_eq_nil closed

theorem fill_self (item : Item) (answers : List (Option Shape)) (closed : item.isContextFree = true)
    (plain : item.hasLiteral = false) (tidy : item.isTidy = true) : item.fill answers = item :=
  IsFinal.fill_eq ⟨item.handles_eq_nil closed, plain, tidy⟩ answers

end Item

end TypeLattice
