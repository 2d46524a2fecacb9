/-
**Resolution with and without sharing.**

An array whose shape has no local array and no literal in it is kept as it stands; any other is built anew
from its resolved shape. Two scans decide this beforehand, and they have to look wherever resolution
would go. That they need not look at the same places is seen at the base of an array: local arrays are
looked for there, literals are not, and resolution leaves it alone.

* `Shape.resolveWith_eq_pure`: to resolve the shape of an array that is kept gives the shape and does
  nothing else;
* `Ty.resolveAnewWith` and the like, `Resolver.visitAnew`, `Item.resolveAnew`: resolution that keeps no
  array, neither in a value nor in the slots;
* `Item.resolveAnew_eq`: it is the same as resolution.
-/

import TypeLattice.Proofs.Resolution.Unchanged

namespace TypeLattice

/-! ### Arrays that are kept -/

section Resolving

variable (visit : ArrayId → ResolveM (Option Shape))

/-- **A shape with nothing to resolve is resolved to itself**, with no array visited. -/
theorem Shape.resolveWith_eq_pure {shape : Shape} (closed : shape.isContextFree = true)
    (plain : shape.hasLiteral = false) (tidy : shape.isTidy = true) :
    shape.resolveWith visit = pure shape := by
  have noHandles := shape.handles_eq_nil closed
  rw [Shape.resolveWith_eq_map, noHandles, Resolver.visitAll, map_pure,
    shape.fill_self [] noHandles plain tidy]

/-- An array is what becomes of its shape, also where it is kept. -/
theorem Ty.resolveWith_array {shape : Shape} (tidy : shape.isTidy = true) (base : Ty) :
    (Ty.array shape base).resolveWith visit = do
      let resolved ← shape.resolveWith visit
      return .array resolved base := by
  rw [Ty.resolveWith]
  split
  · rename_i kept
    -- Nothing is visited, so it makes no difference what a visit would do.
    rw [Bool.and_eq_true, Bool.not_eq_true'] at kept
    rw [Shape.resolveWith_eq_pure visit kept.1 kept.2 tidy, pure_bind]
  · rfl

mutual

/-- Resolve a type, with every array in it built anew. -/
def Ty.resolveAnewWith : Ty → ResolveM Ty
  | .any => return .any
  | .classObject cls => return .classObject cls
  | .code id => return .code id
  | .literal _ base => return base
  | .localArray id base => do
    match ← visit id with
    | some shape => return .array shape base
    | none => return .any
  | .array shape base => do
    let resolved ← shape.resolveAnewWith
    return .array resolved base
  | .instanceOf cls => do
    let resolved ← cls.resolveAnewWith
    return .instanceOf resolved
  | .closure code frame underlying => do
    let resolved ← underlying.resolveAnewWith
    return .closure code frame resolved
  | .typedClosure params result underlying => do
    let params ← TyUnion.resolveAllAnewWith params
    let result ← result.resolveAnewWith
    let underlying ← underlying.resolveAnewWith
    return .typedClosure params result underlying
termination_by structural ty => ty

def TyUnion.resolveAnewWith : TyUnion → ResolveM TyUnion
  | ⟨members⟩ => do
    let resolved ← Ty.resolveAllAnewWith members
    return .ofList resolved
termination_by structural union => union

def Shape.resolveAnewWith : Shape → ResolveM Shape
  | .seq elem => do
    let resolved ← elem.resolveAnewWith
    return .seq resolved
  | .tuple elems => do
    let resolved ← TyUnion.resolveAllAnewWith elems
    return .tuple resolved
termination_by structural shape => shape

def Ty.resolveAllAnewWith : List Ty → ResolveM (List Ty)
  | [] => return []
  | ty :: rest => do
    let first ← ty.resolveAnewWith
    let others ← Ty.resolveAllAnewWith rest
    return first :: others
termination_by structural types => types

def TyUnion.resolveAllAnewWith : List TyUnion → ResolveM (List TyUnion)
  | [] => return []
  | union :: rest => do
    let first ← union.resolveAnewWith
    let others ← TyUnion.resolveAllAnewWith rest
    return first :: others
termination_by structural unions => unions

end

mutual

/-- **To build every array anew makes no difference.** -/
theorem Ty.resolveAnewWith_eq (ty : Ty) (tidy : ty.isTidy = true) :
    ty.resolveAnewWith visit = ty.resolveWith visit := by
  cases ty with
  | any | classObject | code | literal | localArray => rfl
  | array shape base =>
      rw [Ty.isTidy, Bool.and_eq_true] at tidy
      rw [Ty.resolveAnewWith, Shape.resolveAnewWith_eq shape tidy.1, Ty.resolveWith_array visit tidy.1]
  | instanceOf cls =>
      rw [Ty.isTidy] at tidy
      rw [Ty.resolveAnewWith, Ty.resolveAnewWith_eq cls tidy, Ty.resolveWith]
  | closure code frame underlying =>
      rw [Ty.isTidy] at tidy
      rw [Ty.resolveAnewWith, Ty.resolveAnewWith_eq underlying tidy, Ty.resolveWith]
  | typedClosure params result underlying =>
      rw [Ty.isTidy, Bool.and_eq_true, Bool.and_eq_true] at tidy
      rw [Ty.resolveAnewWith, TyUnion.resolveAllAnewWith_eq params tidy.1.1,
        TyUnion.resolveAnewWith_eq result tidy.1.2, Ty.resolveAnewWith_eq underlying tidy.2, Ty.resolveWith]

theorem TyUnion.resolveAnewWith_eq (union : TyUnion) (tidy : union.isTidy = true) :
    union.resolveAnewWith visit = union.resolveWith visit := by
  obtain ⟨members⟩ := union
  rw [TyUnion.isTidy, Bool.and_eq_true] at tidy
  rw [TyUnion.resolveAnewWith, Ty.resolveAllAnewWith_eq members tidy.2, TyUnion.resolveWith]

theorem Shape.resolveAnewWith_eq (shape : Shape) (tidy : shape.isTidy = true) :
    shape.resolveAnewWith visit = shape.resolveWith visit := by
  cases shape with
  | seq elem => rw [Shape.resolveAnewWith, TyUnion.resolveAnewWith_eq elem tidy, Shape.resolveWith]
  | tuple elems => rw [Shape.resolveAnewWith, TyUnion.resolveAllAnewWith_eq elems tidy, Shape.resolveWith]

theorem Ty.resolveAllAnewWith_eq (types : List Ty) (tidy : Ty.allTidy types = true) :
    Ty.resolveAllAnewWith visit types = Ty.resolveAllWith visit types := by
  cases types with
  | nil => rfl
  | cons ty rest =>
      rw [Ty.allTidy, Bool.and_eq_true] at tidy
      rw [Ty.resolveAllAnewWith, Ty.resolveAnewWith_eq ty tidy.1, Ty.resolveAllAnewWith_eq rest tidy.2,
        Ty.resolveAllWith]

theorem TyUnion.resolveAllAnewWith_eq (unions : List TyUnion) (tidy : TyUnion.allTidy unions = true) :
    TyUnion.resolveAllAnewWith visit unions = TyUnion.resolveAllWith visit unions := by
  cases unions with
  | nil => rfl
  | cons union rest =>
      rw [TyUnion.allTidy, Bool.and_eq_true] at tidy
      rw [TyUnion.resolveAllAnewWith, TyUnion.resolveAnewWith_eq union tidy.1,
        TyUnion.resolveAllAnewWith_eq rest tidy.2, TyUnion.resolveAllWith]

end

end Resolving

/-! ### Resolution that keeps no array -/

namespace Resolver

variable (slots : ArrayId → Option Shape)

/-- The resolved shape of a local array, where `resolveContent` resolves what is in its slot; `none` if it
is cut. -/
def visitBy (resolveContent : Shape → ResolveM Shape) (id : ArrayId) : ResolveM (Option Shape) :=
  fun resolver =>
    match resolver.resolved.lookup id with
    | some shape => .ok (some shape) resolver
    | none =>
      match resolver.enter id with
      | (.entered, entered) =>
        match slots id with
        | none => .error (.unallocatedArray id) entered.openArray
        | some content =>
          match resolveContent content entered.openArray with
          | .error violation stopped => .error violation stopped
          | .ok shape finished =>
            match finished.leave id with
            | (.error fault, left) => .error (.brokenPath fault) left
            | (.ok _, left) =>
              .ok (some shape) (left.closeArray id (entered.guard.stack.length - 1) entered.floor shape)
      | (.cycle, stopped) => .ok none (stopped.cutCycle id)
      | (.depthExceeded, stopped) => .ok none (stopped.giveUp id)
      | (.iterationsExceeded, stopped) => .ok none (stopped.giveUp id)

/-- The resolved shape of a local array, with every array in its slot and beneath it built anew. -/
def visitAnew : Nat → ArrayId → ResolveM (Option Shape)
  | 0 => visit slots 0
  | room + 1 => visitBy slots (Shape.resolveAnewWith (visitAnew room))

theorem visit_succ (room : Nat) :
    visit slots (room + 1) = visitBy slots (Shape.resolveWith (visit slots room)) := rfl

variable {slots}

/-- Only what is in the slots is resolved. -/
theorem visitBy_congr {first second : Shape → ResolveM Shape}
    (agree : ∀ id content, slots id = some content → first content = second content) :
    visitBy slots first = visitBy slots second := by
  funext id resolver
  cases held : slots id with
  | none => simp only [visitBy, held]
  | some content => simp only [visitBy, held, agree id content held]

theorem visitAnew_eq (tidySlots : ∀ id content, slots id = some content → content.isTidy = true)
    (room : Nat) : visitAnew slots room = visit slots room := by
  induction room with
  | zero => rfl
  | succ room ih =>
      -- The arrays beneath are visited with less room, and there the two visits agree already.
      rw [visit_succ, visitAnew, ih]
      exact visitBy_congr fun id content held => content.resolveAnewWith_eq _ (tidySlots id content held)

end Resolver

namespace Item

def resolveAnewWith (visit : ArrayId → ResolveM (Option Shape)) : Item → ResolveM Item
  | ty value => ty <$> value.resolveAnewWith visit
  | union value => union <$> value.resolveAnewWith visit
  | shape value => shape <$> value.resolveAnewWith visit

/-- Resolve an item, with every array built anew, in the item and in the slots. -/
def resolveAnew (slots : ArrayId → Option Shape) (item : Item) : ResolveM Item := fun resolver =>
  item.resolveAnewWith (Resolver.visitAnew slots resolver.room) resolver

/-- **Resolution that keeps no array is resolution.** -/
theorem resolveAnew_eq {slots : ArrayId → Option Shape}
    (tidySlots : ∀ id content, slots id = some content → content.isTidy = true) (item : Item)
    (tidy : item.isTidy = true) : item.resolveAnew slots = item.resolve slots := by
  funext resolver
  rw [resolve_eq_resolveWith, resolveAnew, Resolver.visitAnew_eq tidySlots]
  cases item with
  | ty value => rw [resolveAnewWith, resolveWith, value.resolveAnewWith_eq _ tidy]
  | union value => rw [resolveAnewWith, resolveWith, value.resolveAnewWith_eq _ tidy]
  | shape value => rw [resolveAnewWith, resolveWith, value.resolveAnewWith_eq _ tidy]

end Item

end TypeLattice
