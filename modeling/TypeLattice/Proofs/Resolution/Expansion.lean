/-
**The plain expansion of values.**

To expand a value is to make every local array an array with the content of its slot expanded, and
every literal its base. The expansion keeps no record of what it has met and has no limits, so a value
has one only if its arrays have slots and do not refer back to themselves.

* `Ty.Expands`, `TyUnion.Expands`, `Shape.Expands`, `Item.Expands`: a value and its expansion;
* `Item.Expands.unique`: a value has no more than one expansion;
* `Item.expands_fill`: a tidy item filled with the expansions of its arrays is its expansion.
-/

import TypeLattice.Proofs.Resolution.Unchanged

namespace TypeLattice

/-! ### Expansions -/

mutual

/-- A type and its expansion. -/
inductive Ty.Expands (slots : ArrayId → Option Shape) : Ty → Ty → Prop
  | any : Ty.Expands slots .any .any
  | classObject (cls : ClassRef) : Ty.Expands slots (.classObject cls) (.classObject cls)
  | code (id : CodeId) : Ty.Expands slots (.code id) (.code id)
  | literal (value : Constant) (base : Ty) : Ty.Expands slots (.literal value base) base
  | localArray {id : ArrayId} {base : Ty} {content shape : Shape} :
      slots id = some content → Shape.Expands slots content shape →
      Ty.Expands slots (.localArray id base) (.array shape base)
  | array {shape result : Shape} {base : Ty} :
      Shape.Expands slots shape result → Ty.Expands slots (.array shape base) (.array result base)
  | instanceOf {cls result : Ty} :
      Ty.Expands slots cls result → Ty.Expands slots (.instanceOf cls) (.instanceOf result)
  | closure {underlying result : Ty} (code : CodeId) (frame : FrameId) :
      Ty.Expands slots underlying result →
      Ty.Expands slots (.closure code frame underlying) (.closure code frame result)
  | typedClosure {params params' : List TyUnion} {result result' : TyUnion}
      {underlying underlying' : Ty} :
      TyUnion.AllExpand slots params params' → TyUnion.Expands slots result result' →
      Ty.Expands slots underlying underlying' →
      Ty.Expands slots (.typedClosure params result underlying)
        (.typedClosure params' result' underlying')

/-- A union and its expansion; members that become equal are merged. -/
inductive TyUnion.Expands (slots : ArrayId → Option Shape) : TyUnion → TyUnion → Prop
  | members {members results : List Ty} :
      Ty.AllExpand slots members results → TyUnion.Expands slots ⟨members⟩ (.ofList results)

/-- A shape and its expansion, position by position. -/
inductive Shape.Expands (slots : ArrayId → Option Shape) : Shape → Shape → Prop
  | seq {elem result : TyUnion} :
      TyUnion.Expands slots elem result → Shape.Expands slots (.seq elem) (.seq result)
  | tuple {elems results : List TyUnion} :
      TyUnion.AllExpand slots elems results → Shape.Expands slots (.tuple elems) (.tuple results)

/-- Types and their expansions. -/
inductive Ty.AllExpand (slots : ArrayId → Option Shape) : List Ty → List Ty → Prop
  | nil : Ty.AllExpand slots [] []
  | cons {ty result : Ty} {rest results : List Ty} :
      Ty.Expands slots ty result → Ty.AllExpand slots rest results →
      Ty.AllExpand slots (ty :: rest) (result :: results)

/-- Unions and their expansions. -/
inductive TyUnion.AllExpand (slots : ArrayId → Option Shape) : List TyUnion → List TyUnion → Prop
  | nil : TyUnion.AllExpand slots [] []
  | cons {union result : TyUnion} {rest results : List TyUnion} :
      TyUnion.Expands slots union result → TyUnion.AllExpand slots rest results →
      TyUnion.AllExpand slots (union :: rest) (result :: results)

end

/-- An item and its expansion. -/
inductive Item.Expands (slots : ArrayId → Option Shape) : Item → Item → Prop
  | ty {value result : Ty} : Ty.Expands slots value result → Item.Expands slots (.ty value) (.ty result)
  | union {value result : TyUnion} :
      TyUnion.Expands slots value result → Item.Expands slots (.union value) (.union result)
  | shape {value result : Shape} :
      Shape.Expands slots value result → Item.Expands slots (.shape value) (.shape result)

section Unique

variable {slots : ArrayId → Option Shape}

mutual

theorem Ty.Expands.unique : ∀ {ty first second : Ty}, Ty.Expands slots ty first →
    Ty.Expands slots ty second → first = second
  | _, _, _, .any, .any => rfl
  | _, _, _, .classObject _, .classObject _ => rfl
  | _, _, _, .code _, .code _ => rfl
  | _, _, _, .literal _ _, .literal _ _ => rfl
  | _, _, _, .localArray held inner, .localArray held' inner' => by
      rw [Option.some.inj (held'.symm.trans held)] at inner'
      rw [inner.unique inner']
  | _, _, _, .array inner, .array inner' => by rw [inner.unique inner']
  | _, _, _, .instanceOf inner, .instanceOf inner' => by rw [inner.unique inner']
  | _, _, _, .closure _ _ inner, .closure _ _ inner' => by rw [inner.unique inner']
  | _, _, _, .typedClosure params result underlying, .typedClosure params' result' underlying' => by
      rw [params.unique params', result.unique result', underlying.unique underlying']
termination_by structural _ _ _ expansion => expansion

theorem TyUnion.Expands.unique : ∀ {union first second : TyUnion}, TyUnion.Expands slots union first →
    TyUnion.Expands slots union second → first = second
  | _, _, _, .members all, .members all' => by rw [all.unique all']
termination_by structural _ _ _ expansion => expansion

theorem Shape.Expands.unique : ∀ {shape first second : Shape}, Shape.Expands slots shape first →
    Shape.Expands slots shape second → first = second
  | _, _, _, .seq inner, .seq inner' => by rw [inner.unique inner']
  | _, _, _, .tuple all, .tuple all' => by rw [all.unique all']
termination_by structural _ _ _ expansion => expansion

theorem Ty.AllExpand.unique : ∀ {types first second : List Ty}, Ty.AllExpand slots types first →
    Ty.AllExpand slots types second → first = second
  | _, _, _, .nil, .nil => rfl
  | _, _, _, .cons here later, .cons here' later' => by rw [here.unique here', later.unique later']
termination_by structural _ _ _ expansion => expansion

theorem TyUnion.AllExpand.unique : ∀ {unions first second : List TyUnion},
    TyUnion.AllExpand slots unions first → TyUnion.AllExpand slots unions second → first = second
  | _, _, _, .nil, .nil => rfl
  | _, _, _, .cons here later, .cons here' later' => by rw [here.unique here', later.unique later']
termination_by structural _ _ _ expansion => expansion

end

/-- **An item has no more than one expansion.** -/
theorem Item.Expands.unique {item first second : Item} (expands : item.Expands slots first)
    (expands' : item.Expands slots second) : first = second := by
  cases expands with
  | ty inner =>
      cases expands' with
      | ty inner' => rw [inner.unique inner']
  | union inner =>
      cases expands' with
      | union inner' => rw [inner.unique inner']
  | shape inner =>
      cases expands' with
      | shape inner' => rw [inner.unique inner']

end Unique

/-! ### Filling with expansions -/

/-- The answer for a local array is its slot expanded. -/
def ExpandedAnswer (slots : ArrayId → Option Shape) (id : ArrayId) (answer : Option Shape) : Prop :=
  ∃ content shape, slots id = some content ∧ content.Expands slots shape ∧ answer = some shape

section Filling

variable {slots : ArrayId → Option Shape}

mutual

/-- **A tidy type filled with the expansions of its arrays is its expansion.** -/
theorem Ty.expands_fill (ty : Ty) (tidy : ty.isTidy = true) {answers : List (Option Shape)}
    (expanded : List.Forall₂ (ExpandedAnswer slots) ty.handles answers) :
    ty.Expands slots (ty.fill answers) := by
  cases ty with
  | any => exact .any
  | classObject cls => exact .classObject cls
  | code id => exact .code id
  | literal value base => exact .literal value base
  | localArray id base =>
      obtain ⟨answer, rest, here, -, rfl⟩ := List.forall₂_cons_left_iff.mp expanded
      obtain ⟨content, shape, held, expands, rfl⟩ := here
      exact .localArray held expands
  | array shape base =>
      rw [Ty.isTidy, Bool.and_eq_true] at tidy
      rw [Ty.fill_array tidy.1]
      exact .array (Shape.expands_fill shape tidy.1 expanded)
  | instanceOf cls => exact .instanceOf (Ty.expands_fill cls tidy expanded)
  | closure code frame underlying =>
      exact .closure code frame (Ty.expands_fill underlying tidy expanded)
  | typedClosure params result underlying =>
      rw [Ty.isTidy, Bool.and_eq_true, Bool.and_eq_true] at tidy
      obtain ⟨forParams, rest⟩ := forall₂_append expanded
      obtain ⟨forResult, forUnderlying⟩ := forall₂_append rest
      exact .typedClosure (TyUnion.allExpand_fillAll params tidy.1.1 forParams)
        (TyUnion.expands_fill result tidy.1.2 forResult)
        (Ty.expands_fill underlying tidy.2 forUnderlying)

theorem TyUnion.expands_fill (union : TyUnion) (tidy : union.isTidy = true)
    {answers : List (Option Shape)}
    (expanded : List.Forall₂ (ExpandedAnswer slots) union.handles answers) :
    union.Expands slots (union.fill answers) := by
  obtain ⟨members⟩ := union
  rw [TyUnion.isTidy, Bool.and_eq_true] at tidy
  exact .members (Ty.allExpand_fillAll members tidy.2 expanded)

theorem Shape.expands_fill (shape : Shape) (tidy : shape.isTidy = true)
    {answers : List (Option Shape)}
    (expanded : List.Forall₂ (ExpandedAnswer slots) shape.handles answers) :
    shape.Expands slots (shape.fill answers) := by
  cases shape with
  | seq elem => exact .seq (TyUnion.expands_fill elem tidy expanded)
  | tuple elems => exact .tuple (TyUnion.allExpand_fillAll elems tidy expanded)

theorem Ty.allExpand_fillAll (types : List Ty) (tidy : Ty.allTidy types = true)
    {answers : List (Option Shape)}
    (expanded : List.Forall₂ (ExpandedAnswer slots) (Ty.handlesOfAll types) answers) :
    Ty.AllExpand slots types (Ty.fillAll types answers) := by
  cases types with
  | nil => exact .nil
  | cons ty rest =>
      rw [Ty.allTidy, Bool.and_eq_true] at tidy
      obtain ⟨here, later⟩ := forall₂_append expanded
      exact .cons (Ty.expands_fill ty tidy.1 here) (Ty.allExpand_fillAll rest tidy.2 later)

theorem TyUnion.allExpand_fillAll (unions : List TyUnion) (tidy : TyUnion.allTidy unions = true)
    {answers : List (Option Shape)}
    (expanded : List.Forall₂ (ExpandedAnswer slots) (TyUnion.handlesOfAll unions) answers) :
    TyUnion.AllExpand slots unions (TyUnion.fillAll unions answers) := by
  cases unions with
  | nil => exact .nil
  | cons union rest =>
      rw [TyUnion.allTidy, Bool.and_eq_true] at tidy
      obtain ⟨here, later⟩ := forall₂_append expanded
      exact .cons (TyUnion.expands_fill union tidy.1 here) (TyUnion.allExpand_fillAll rest tidy.2 later)

end

theorem Item.expands_fill (item : Item) (tidy : item.isTidy = true) {answers : List (Option Shape)}
    (expanded : List.Forall₂ (ExpandedAnswer slots) item.handles answers) :
    item.Expands slots (item.fill answers) := by
  cases item with
  | ty value => exact .ty (Ty.expands_fill value tidy expanded)
  | union value => exact .union (TyUnion.expands_fill value tidy expanded)
  | shape value => exact .shape (Shape.expands_fill value tidy expanded)

end Filling

end TypeLattice
