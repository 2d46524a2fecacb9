/-
**Resolving local arrays.**

Resolution turns a value that refers to the slots of an array store into one that stands on its own:
a literal becomes its base, and a local array becomes an array with the resolved shape of its slot.
Arrays may contain themselves through their slots, so a resolver keeps

* a path guard with the ids of the arrays it is resolving: an array met again on the path, or over a
  limit, becomes a value of any type;
* the shapes resolved so far, so that an array met twice is resolved once;
* the floor of the array being resolved: the outermost place on the path to which a cycle has reached
  back. A shape is remembered only if no such place lies outside the array itself and no limit was
  ever hit, since otherwise it depends on where the array was met.

One resolver can serve several values in turn; `Resolver.run` gives a resolution a fresh one.
-/

import TypeLattice.ArrayStore
import TypeLattice.PathGuard
import TypeLattice.Ty.Closed
import TypeLattice.Violation

namespace TypeLattice

/-- A resolution under way. -/
structure Resolver where
  /-- The arrays being resolved. -/
  guard : PathGuard ArrayId
  /-- The arrays resolved for good, newest first. -/
  resolved : List (ArrayId × Shape)
  /-- The outermost place on the path that a cycle has reached, if any. -/
  floor : Option Nat
  log : Array Event

/-- A step of a resolution. -/
abbrev ResolveM := EStateM Violation Resolver

namespace Resolver

/-- A resolver that has not met any array. -/
def start (limits : Limits) : Resolver := ⟨.start limits, [], none, #[]⟩

/-- The lower of a floor and a place on the path. -/
def lowered (floor : Option Nat) (place : Nat) : Option Nat :=
  match floor with
  | none => some place
  | some lowest => some (min lowest place)

section Steps

variable (resolver : Resolver) (id : ArrayId)

/-- Ask the guard to enter an array. -/
def enter : Entry × Resolver :=
  let (entry, guard) := resolver.guard.enter id
  (entry, { resolver with guard })

/-- Start on the array just entered: no cycle has reached back from it yet. -/
def openArray : Resolver := { resolver with floor := none }

/-- Leave an array. -/
def leave : Except (PathGuard.Fault ArrayId) Unit × Resolver :=
  let (outcome, guard) := resolver.guard.leave id
  (outcome, { resolver with guard })

/-- Keep the resolved shape of an array for good, unless a limit was hit. -/
def remember (shape : Shape) : Resolver :=
  if resolver.guard.exceeded then resolver
  else { resolver with resolved := (id, shape) :: resolver.resolved }

/-- Finish the array that stood at `place`, with its resolved shape. The floor of the array around
it, `outer`, is back in force, lowered if a cycle reached outside this array; if none did, the shape
is kept. -/
def closeArray (place : Nat) (outer : Option Nat) (shape : Shape) : Resolver :=
  match resolver.floor.filter (fun lowest => lowest < place) with
  | some lowest => { resolver with floor := lowered outer lowest }
  | none => remember { resolver with floor := outer } id shape

/-- Cut the cycle that led back to an array on the path. -/
def cutCycle : Resolver :=
  let floor := match resolver.guard.position? id with
    | some place => lowered resolver.floor place
    | none => resolver.floor
  { resolver with floor, log := resolver.log.push (.cycleCut id resolver.guard.path) }

/-- Report that a limit was hit at an array. -/
def giveUp : Resolver :=
  let event := .budgetExceeded id resolver.guard.depth.toNat resolver.guard.iterations
  { resolver with log := resolver.log.push event }

end Steps

end Resolver

mutual

/-- Resolve a type, where `visit` gives the resolved shape of a local array, or `none` if it is cut. -/
def Ty.resolveWith (visit : ArrayId → ResolveM (Option Shape)) : Ty → ResolveM Ty
  | .any => return .any
  | .classObject cls => return .classObject cls
  | .code id => return .code id
  | .literal _ base => return base
  | .localArray id base => do
    match ← visit id with
    | some shape => return .array shape base
    | none => return .any
  | .array shape base =>
    if shape.isContextFree && !shape.hasLiteral then return .array shape base
    else do
      let resolved ← shape.resolveWith visit
      return .array resolved base
  | .instanceOf cls => do
    let resolved ← cls.resolveWith visit
    return .instanceOf resolved
  | .closure code frame underlying => do
    let resolved ← underlying.resolveWith visit
    return .closure code frame resolved
  | .typedClosure params result underlying => do
    let params ← TyUnion.resolveAllWith visit params
    let result ← result.resolveWith visit
    let underlying ← underlying.resolveWith visit
    return .typedClosure params result underlying
termination_by structural ty => ty

/-- Resolve the members of a union in order; those that become equal are merged. -/
def TyUnion.resolveWith (visit : ArrayId → ResolveM (Option Shape)) : TyUnion → ResolveM TyUnion
  | ⟨members⟩ => do
    let resolved ← Ty.resolveAllWith visit members
    return .ofList resolved
termination_by structural union => union

/-- Resolve the unions of a shape in order. -/
def Shape.resolveWith (visit : ArrayId → ResolveM (Option Shape)) : Shape → ResolveM Shape
  | .seq elem => do
    let resolved ← elem.resolveWith visit
    return .seq resolved
  | .tuple elems => do
    let resolved ← TyUnion.resolveAllWith visit elems
    return .tuple resolved
termination_by structural shape => shape

/-- Resolve types one after the other. -/
def Ty.resolveAllWith (visit : ArrayId → ResolveM (Option Shape)) : List Ty → ResolveM (List Ty)
  | [] => return []
  | ty :: rest => do
    let first ← ty.resolveWith visit
    let others ← Ty.resolveAllWith visit rest
    return first :: others
termination_by structural types => types

/-- Resolve unions one after the other. -/
def TyUnion.resolveAllWith (visit : ArrayId → ResolveM (Option Shape)) :
    List TyUnion → ResolveM (List TyUnion)
  | [] => return []
  | union :: rest => do
    let first ← union.resolveWith visit
    let others ← TyUnion.resolveAllWith visit rest
    return first :: others
termination_by structural unions => unions

end

namespace Resolver

/-- The resolved shape of a local array, whose slot is found by `slots`; `none` if it is cut. The
number `room` bounds how many more arrays can be entered inside one another. It starts at one more
than the depth limit, so that the guard always stops first; a path that went on without room would be
reported as one that was never left. -/
def visit (slots : ArrayId → Option Shape) : Nat → ArrayId → ResolveM (Option Shape)
  | 0, _ => fun resolver => .error (.brokenPath (.abandoned resolver.guard.path)) resolver
  | room + 1, id => fun resolver =>
    match resolver.resolved.lookup id with
    | some shape => .ok (some shape) resolver
    | none =>
      match resolver.enter id with
      | (.entered, entered) =>
        match slots id with
        | none => .error (.unallocatedArray id) entered.openArray
        | some content =>
          match content.resolveWith (visit slots room) entered.openArray with
          | .error violation stopped => .error violation stopped
          | .ok shape finished =>
            match finished.leave id with
            | (.error fault, left) => .error (.brokenPath fault) left
            | (.ok _, left) =>
              .ok (some shape) (left.closeArray id (entered.guard.stack.length - 1) entered.floor shape)
      | (.cycle, stopped) => .ok none (stopped.cutCycle id)
      | (.depthExceeded, stopped) => .ok none (stopped.giveUp id)
      | (.iterationsExceeded, stopped) => .ok none (stopped.giveUp id)

/-- The room for a resolution that starts outside all arrays. -/
def room (resolver : Resolver) : Nat := resolver.guard.limits.depth.toNat + 1

/-- Run a resolution from start to end, and give its log as well. Its path has to be empty then. -/
def run {α : Type} (limits : Limits) (action : ResolveM α) : Except Violation α × Array Event :=
  match action (start limits) with
  | .error violation resolver => (.error violation, resolver.log)
  | .ok result resolver =>
    match resolver.guard.finish with
    | .ok _ => (.ok result, resolver.log)
    | .error fault => (.error (.brokenPath fault), resolver.log)

end Resolver

section Resolving

variable (slots : ArrayId → Option Shape)

/-- Resolve a type, with the slots found by `slots`. -/
def Ty.resolve (ty : Ty) : ResolveM Ty := fun resolver =>
  ty.resolveWith (Resolver.visit slots resolver.room) resolver

/-- Resolve a union, with the slots found by `slots`. -/
def TyUnion.resolve (union : TyUnion) : ResolveM TyUnion := fun resolver =>
  union.resolveWith (Resolver.visit slots resolver.room) resolver

/-- Resolve a shape, with the slots found by `slots`. -/
def Shape.resolve (shape : Shape) : ResolveM Shape := fun resolver =>
  shape.resolveWith (Resolver.visit slots resolver.room) resolver

end Resolving

end TypeLattice
