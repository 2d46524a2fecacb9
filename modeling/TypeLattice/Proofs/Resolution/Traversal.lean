/-
**Resolution as a traversal.**

A resolution meets the *handles* of a value from left to right: the local arrays that stand outside
the bases of literals and arrays. It asks for the shape of each, and the answers alone decide what
becomes of the value:

* `handles`: the local arrays in the order in which they are met;
* `fill`: the value built from one answer for each handle;
* `Item.resolve_eq_map`: to resolve a value is to visit its handles, and then to fill the answers in.

So what a resolution does to its resolver is done by a list of visits, and what it does to the value
is a function of the answers. Statements about the first are proved by induction on the visits
(`Visits`), statements about the second by induction on the value, and none needs both at once.
-/

import TypeLattice.Resolver
import TypeLattice.TyUnion
import Mathlib.Data.List.Forall2

namespace TypeLattice

/-! ### Handles -/

mutual

/-- The local arrays met in a type, from left to right. -/
def Ty.handles : Ty → List ArrayId
  | .localArray id _ => [id]
  | .any | .classObject _ | .code _ | .literal _ _ => []
  | .array shape _ => shape.handles
  | .instanceOf cls => cls.handles
  | .closure _ _ underlying => underlying.handles
  | .typedClosure params result underlying =>
    TyUnion.handlesOfAll params ++ (result.handles ++ underlying.handles)
termination_by structural ty => ty

/-- The local arrays met in a union. -/
def TyUnion.handles : TyUnion → List ArrayId
  | ⟨members⟩ => Ty.handlesOfAll members
termination_by structural union => union

/-- The local arrays met in a shape. -/
def Shape.handles : Shape → List ArrayId
  | .seq elem => elem.handles
  | .tuple elems => TyUnion.handlesOfAll elems
termination_by structural shape => shape

/-- The local arrays met in types, one after the other. -/
def Ty.handlesOfAll : List Ty → List ArrayId
  | [] => []
  | ty :: rest => ty.handles ++ Ty.handlesOfAll rest
termination_by structural types => types

/-- The local arrays met in unions, one after the other. -/
def TyUnion.handlesOfAll : List TyUnion → List ArrayId
  | [] => []
  | union :: rest => union.handles ++ TyUnion.handlesOfAll rest
termination_by structural unions => unions

end

theorem Ty.handlesOfAll_eq_flatMap (types : List Ty) :
    Ty.handlesOfAll types = types.flatMap Ty.handles := by
  induction types with
  | nil => rfl
  | cons ty rest ih => rw [Ty.handlesOfAll, ih, List.flatMap_cons]

theorem TyUnion.handlesOfAll_eq_flatMap (unions : List TyUnion) :
    TyUnion.handlesOfAll unions = unions.flatMap TyUnion.handles := by
  induction unions with
  | nil => rfl
  | cons union rest ih => rw [TyUnion.handlesOfAll, ih, List.flatMap_cons]

theorem Ty.mem_handlesOfAll {types : List Ty} {id : ArrayId} :
    id ∈ Ty.handlesOfAll types ↔ ∃ ty ∈ types, id ∈ ty.handles := by
  rw [Ty.handlesOfAll_eq_flatMap, List.mem_flatMap]

theorem TyUnion.mem_handlesOfAll {unions : List TyUnion} {id : ArrayId} :
    id ∈ TyUnion.handlesOfAll unions ↔ ∃ union ∈ unions, id ∈ union.handles := by
  rw [TyUnion.handlesOfAll_eq_flatMap, List.mem_flatMap]

mutual

/-- A type without local arrays has no handles. -/
theorem Ty.handles_eq_nil (ty : Ty) (closed : ty.isContextFree = true) : ty.handles = [] := by
  cases ty with
  | any | classObject | code | literal => rfl
  | localArray id base => simp [Ty.isContextFree] at closed
  | instanceOf cls => exact Ty.handles_eq_nil cls closed
  | closure code frame underlying => exact Ty.handles_eq_nil underlying closed
  | array shape base =>
      simp only [Ty.isContextFree, Bool.and_eq_true] at closed
      exact Shape.handles_eq_nil shape closed.1
  | typedClosure params result underlying =>
      simp only [Ty.isContextFree, Bool.and_eq_true] at closed
      rw [Ty.handles, TyUnion.handlesOfAll_eq_nil params closed.1.1,
        TyUnion.handles_eq_nil result closed.1.2, Ty.handles_eq_nil underlying closed.2]
      rfl

/-- A union without local arrays has no handles. -/
theorem TyUnion.handles_eq_nil (union : TyUnion) (closed : union.isContextFree = true) :
    union.handles = [] := by
  obtain ⟨members⟩ := union
  exact Ty.handlesOfAll_eq_nil members closed

/-- A shape without local arrays has no handles. -/
theorem Shape.handles_eq_nil (shape : Shape) (closed : shape.isContextFree = true) :
    shape.handles = [] := by
  cases shape with
  | seq elem => exact TyUnion.handles_eq_nil elem closed
  | tuple elems => exact TyUnion.handlesOfAll_eq_nil elems closed

/-- Types without local arrays have no handles. -/
theorem Ty.handlesOfAll_eq_nil (types : List Ty) (closed : Ty.allContextFree types = true) :
    Ty.handlesOfAll types = [] := by
  cases types with
  | nil => rfl
  | cons ty rest =>
      simp only [Ty.allContextFree, Bool.and_eq_true] at closed
      rw [Ty.handlesOfAll, Ty.handles_eq_nil ty closed.1, Ty.handlesOfAll_eq_nil rest closed.2]
      rfl

/-- Unions without local arrays have no handles. -/
theorem TyUnion.handlesOfAll_eq_nil (unions : List TyUnion)
    (closed : TyUnion.allContextFree unions = true) : TyUnion.handlesOfAll unions = [] := by
  cases unions with
  | nil => rfl
  | cons union rest =>
      simp only [TyUnion.allContextFree, Bool.and_eq_true] at closed
      rw [TyUnion.handlesOfAll, TyUnion.handles_eq_nil union closed.1,
        TyUnion.handlesOfAll_eq_nil rest closed.2]
      rfl

end

/-! ### Filling the answers in -/

mutual

/-- The type with an answer for each of its handles: a shape, or `none` for an array that is cut.
Answers beyond the handles are of no account. -/
def Ty.fill : Ty → List (Option Shape) → Ty
  | .localArray _ base, answers => answers.head?.join.elim .any (fun shape => .array shape base)
  | .literal _ base, _ => base
  | .array shape base, answers =>
    if shape.isContextFree && !shape.hasLiteral then .array shape base
    else .array (shape.fill answers) base
  | .instanceOf cls, answers => .instanceOf (cls.fill answers)
  | .closure code frame underlying, answers => .closure code frame (underlying.fill answers)
  | .typedClosure params result underlying, answers =>
    let rest := answers.drop (TyUnion.handlesOfAll params).length
    .typedClosure (TyUnion.fillAll params (answers.take (TyUnion.handlesOfAll params).length))
      (result.fill (rest.take result.handles.length))
      (underlying.fill (rest.drop result.handles.length))
  | .any, _ => .any
  | .classObject cls, _ => .classObject cls
  | .code id, _ => .code id
termination_by structural ty => ty

/-- The union with an answer for each of its handles; members that become equal are merged. -/
def TyUnion.fill : TyUnion → List (Option Shape) → TyUnion
  | ⟨members⟩, answers => .ofList (Ty.fillAll members answers)
termination_by structural union => union

/-- The shape with an answer for each of its handles. -/
def Shape.fill : Shape → List (Option Shape) → Shape
  | .seq elem, answers => .seq (elem.fill answers)
  | .tuple elems, answers => .tuple (TyUnion.fillAll elems answers)
termination_by structural shape => shape

/-- The types with an answer for each of their handles. -/
def Ty.fillAll : List Ty → List (Option Shape) → List Ty
  | [], _ => []
  | ty :: rest, answers =>
    ty.fill (answers.take ty.handles.length) :: Ty.fillAll rest (answers.drop ty.handles.length)
termination_by structural types => types

/-- The unions with an answer for each of their handles. -/
def TyUnion.fillAll : List TyUnion → List (Option Shape) → List TyUnion
  | [], _ => []
  | union :: rest, answers =>
    union.fill (answers.take union.handles.length) ::
      TyUnion.fillAll rest (answers.drop union.handles.length)
termination_by structural unions => unions

end

/-- The answers to two lists of handles, taken apart. -/
theorem forall₂_append {α β : Type} {holds : α → β → Prop} {first second : List α} {answers : List β}
    (all : List.Forall₂ holds (first ++ second) answers) :
    List.Forall₂ holds first (answers.take first.length) ∧
      List.Forall₂ holds second (answers.drop first.length) := by
  have taken := List.forall₂_take first.length all
  have dropped := List.forall₂_drop first.length all
  rw [List.take_left] at taken
  rw [List.drop_left] at dropped
  exact ⟨taken, dropped⟩

/-- Something holds of every shape among the answers. -/
def AllAnswers (holds : Shape → Prop) (answers : List (Option Shape)) : Prop :=
  ∀ shape, some shape ∈ answers → holds shape

section Answers

variable {holds : Shape → Prop} {answers : List (Option Shape)}

theorem AllAnswers.take (all : AllAnswers holds answers) (count : Nat) :
    AllAnswers holds (answers.take count) :=
  fun shape member => all shape (List.mem_of_mem_take member)

theorem AllAnswers.drop (all : AllAnswers holds answers) (count : Nat) :
    AllAnswers holds (answers.drop count) :=
  fun shape member => all shape (List.mem_of_mem_drop member)

theorem AllAnswers.some {shape : Shape} (here : holds shape) (later : AllAnswers holds answers) :
    AllAnswers holds (some shape :: answers) := by
  intro other member
  rcases List.mem_cons.mp member with same | inRest
  · rwa [Option.some.inj same]
  · exact later other inRest

theorem AllAnswers.none (later : AllAnswers holds answers) : AllAnswers holds (none :: answers) :=
  fun shape member => later shape ((List.mem_cons.mp member).resolve_left nofun)

end Answers

/-! ### Visiting handles in order -/

/-- Visit local arrays one after the other. -/
def Resolver.visitAll (visit : ArrayId → ResolveM (Option Shape)) :
    List ArrayId → ResolveM (List (Option Shape))
  | [] => return []
  | id :: rest => do
    let answer ← visit id
    let others ← visitAll visit rest
    return answer :: others

namespace Resolver

variable {visit : ArrayId → ResolveM (Option Shape)}

/-- Every handle gets an answer. -/
theorem length_visitAll {ids : List ArrayId} {answers : List (Option Shape)} {before after : Resolver}
    (visited : visitAll visit ids before = .ok answers after) : answers.length = ids.length := by
  induction ids generalizing answers before after with
  | nil =>
      cases visited
      rfl
  | cons id rest ih =>
      obtain ⟨answer, middle, _, remaining⟩ := bind_eq_ok_iff.mp visited
      obtain ⟨others, last, visitedRest, returned⟩ := bind_eq_ok_iff.mp remaining
      obtain ⟨rfl, -⟩ := pure_eq_ok_iff.mp returned
      rw [List.length_cons, ih visitedRest, List.length_cons]

/-- What follows a list of visits may count on an answer for each handle. -/
theorem visitAll_bind_congr {α : Type} {ids : List ArrayId}
    {first second : List (Option Shape) → ResolveM α}
    (agree : ∀ answers, answers.length = ids.length → first answers = second answers) :
    visitAll visit ids >>= first = visitAll visit ids >>= second := by
  funext resolver
  show EStateM.bind _ _ _ = EStateM.bind _ _ _
  unfold EStateM.bind
  cases visited : visitAll visit ids resolver with
  | error violation stopped => rfl
  | ok answers after => exact congrFun (agree answers (length_visitAll visited)) after

/-- Visits to two lists of handles are visits to the first, then to the second. -/
theorem visitAll_append (first second : List ArrayId) :
    visitAll visit (first ++ second) = do
      let answers ← visitAll visit first
      let others ← visitAll visit second
      return answers ++ others := by
  induction first with
  | nil => simp [visitAll]
  | cons id rest ih => simp [visitAll, ih]

end Resolver

section Resolving

variable (visit : ArrayId → ResolveM (Option Shape))

open Resolver (visitAll visitAll_append visitAll_bind_congr)

mutual

/-- To resolve a type is to visit its handles and to fill the answers in. -/
theorem Ty.resolveWith_eq_map (ty : Ty) :
    ty.resolveWith visit = ty.fill <$> visitAll visit ty.handles := by
  cases ty with
  | any => rfl
  | classObject cls => rfl
  | code id => rfl
  | literal value base => rfl
  | localArray id base =>
      simp only [Ty.resolveWith, Ty.handles, visitAll, map_eq_pure_bind, bind_assoc, pure_bind]
      congr 1
      funext answer
      cases answer <;> rfl
  | array shape base =>
      simp only [Ty.resolveWith, Ty.handles, Ty.fill]
      by_cases keeps : (shape.isContextFree && !shape.hasLiteral) = true
      · simp only [keeps, if_true]
        rw [Bool.and_eq_true] at keeps
        rw [Shape.handles_eq_nil shape keeps.1]
        rfl
      · simp only [keeps, Shape.resolveWith_eq_map shape, map_eq_pure_bind, bind_assoc, pure_bind]
        rfl
  | instanceOf cls =>
      simp only [Ty.resolveWith, Ty.handles, Ty.fill, Ty.resolveWith_eq_map cls, map_eq_pure_bind,
        bind_assoc, pure_bind]
  | closure code frame underlying =>
      simp only [Ty.resolveWith, Ty.handles, Ty.fill, Ty.resolveWith_eq_map underlying,
        map_eq_pure_bind, bind_assoc, pure_bind]
  | typedClosure params result underlying =>
      simp only [Ty.resolveWith, Ty.handles, Ty.fill, TyUnion.resolveAllWith_eq_map params,
        TyUnion.resolveWith_eq_map result, Ty.resolveWith_eq_map underlying, map_eq_pure_bind,
        bind_assoc, pure_bind, visitAll_append]
      refine visitAll_bind_congr fun forParams paramsLength => ?_
      refine visitAll_bind_congr fun forResult resultLength => ?_
      simp [← paramsLength, ← resultLength]

theorem TyUnion.resolveWith_eq_map (union : TyUnion) :
    union.resolveWith visit = union.fill <$> visitAll visit union.handles := by
  obtain ⟨members⟩ := union
  simp only [TyUnion.resolveWith, TyUnion.handles, TyUnion.fill, Ty.resolveAllWith_eq_map members,
    map_eq_pure_bind, bind_assoc, pure_bind]

theorem Shape.resolveWith_eq_map (shape : Shape) :
    shape.resolveWith visit = shape.fill <$> visitAll visit shape.handles := by
  cases shape with
  | seq elem =>
      simp only [Shape.resolveWith, Shape.handles, Shape.fill, TyUnion.resolveWith_eq_map elem,
        map_eq_pure_bind, bind_assoc, pure_bind]
  | tuple elems =>
      simp only [Shape.resolveWith, Shape.handles, Shape.fill, TyUnion.resolveAllWith_eq_map elems,
        map_eq_pure_bind, bind_assoc, pure_bind]

theorem Ty.resolveAllWith_eq_map (types : List Ty) :
    Ty.resolveAllWith visit types = Ty.fillAll types <$> visitAll visit (Ty.handlesOfAll types) := by
  cases types with
  | nil => rfl
  | cons ty rest =>
      simp only [Ty.resolveAllWith, Ty.handlesOfAll, Ty.fillAll, Ty.resolveWith_eq_map ty,
        Ty.resolveAllWith_eq_map rest, visitAll_append, map_eq_pure_bind, bind_assoc, pure_bind]
      refine visitAll_bind_congr fun answers length => ?_
      simp [← length]

theorem TyUnion.resolveAllWith_eq_map (unions : List TyUnion) :
    TyUnion.resolveAllWith visit unions =
      TyUnion.fillAll unions <$> visitAll visit (TyUnion.handlesOfAll unions) := by
  cases unions with
  | nil => rfl
  | cons union rest =>
      simp only [TyUnion.resolveAllWith, TyUnion.handlesOfAll, TyUnion.fillAll,
        TyUnion.resolveWith_eq_map union, TyUnion.resolveAllWith_eq_map rest, visitAll_append,
        map_eq_pure_bind, bind_assoc, pure_bind]
      refine visitAll_bind_congr fun answers length => ?_
      simp [← length]

end

end Resolving

/-! ### Types, unions and shapes alike -/

/-- A value that can be resolved. -/
inductive Item where
  | ty (ty : Ty)
  | union (union : TyUnion)
  | shape (shape : Shape)

namespace Item

/-- Whether no local array occurs in an item. -/
def isContextFree : Item → Bool
  | ty value => value.isContextFree
  | union value => value.isContextFree
  | shape value => value.isContextFree

/-- The local arrays met in an item. -/
def handles : Item → List ArrayId
  | ty value => value.handles
  | union value => value.handles
  | shape value => value.handles

/-- The item with an answer for each of its handles. -/
def fill : Item → List (Option Shape) → Item
  | ty value, answers => ty (value.fill answers)
  | union value, answers => union (value.fill answers)
  | shape value, answers => shape (value.fill answers)

/-- Resolve an item, where `visit` gives the resolved shape of a local array, or `none` if it is cut. -/
def resolveWith (visit : ArrayId → ResolveM (Option Shape)) : Item → ResolveM Item
  | ty value => ty <$> value.resolveWith visit
  | union value => union <$> value.resolveWith visit
  | shape value => shape <$> value.resolveWith visit

/-- **To resolve an item is to visit its handles and to fill the answers in.** -/
theorem resolveWith_eq_map (visit : ArrayId → ResolveM (Option Shape)) (item : Item) :
    item.resolveWith visit = item.fill <$> Resolver.visitAll visit item.handles := by
  cases item with
  | ty value =>
      rw [resolveWith, Ty.resolveWith_eq_map, ← comp_map]
      rfl
  | union value =>
      rw [resolveWith, TyUnion.resolveWith_eq_map, ← comp_map]
      rfl
  | shape value =>
      rw [resolveWith, Shape.resolveWith_eq_map, ← comp_map]
      rfl

variable (slots : ArrayId → Option Shape)

/-- Resolve an item, with the slots found by `slots`. -/
def resolve : Item → ResolveM Item
  | ty value => ty <$> value.resolve slots
  | union value => union <$> value.resolve slots
  | shape value => shape <$> value.resolve slots

/-- Resolve items one after the other with one resolver. -/
def resolveAll : List Item → ResolveM (List Item)
  | [] => return []
  | item :: rest => do
    let first ← item.resolve slots
    let others ← resolveAll rest
    return first :: others

/-- A resolution of an item visits local arrays with the room that the resolver has at its start. -/
theorem resolve_eq_resolveWith (item : Item) (resolver : Resolver) :
    item.resolve slots resolver = item.resolveWith (Resolver.visit slots resolver.room) resolver := by
  cases item <;> rfl

/-- A resolution of an item visits its handles and fills the answers in. -/
theorem resolve_eq_map (item : Item) (resolver : Resolver) :
    item.resolve slots resolver =
      (item.fill <$> Resolver.visitAll (Resolver.visit slots resolver.room) item.handles) resolver := by
  rw [resolve_eq_resolveWith, resolveWith_eq_map]

end Item

end TypeLattice
