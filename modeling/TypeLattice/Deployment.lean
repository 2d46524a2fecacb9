/-
**Moving arrays into a store.**

Deployment puts every array of a type that is reached from its top through array shapes into a slot
of its own, and leaves in its place a local array that refers to the slot. The arrays inside an array
are put in before it, from left to right, so the ids a type receives depend on the first free id and
on nothing else. When the store refuses an id the deployment stops, and what was put in stays.
-/

import TypeLattice.ArrayStore

namespace TypeLattice

/-- A deployment under way: the store, the id for the next array, and the log. -/
structure Deployment (σ : Type) where
  store : σ
  next : ArrayId
  log : Array Event

/-- A step of a deployment, which may be refused. -/
abbrev DeployM (σ : Type) := EStateM Refusal (Deployment σ)

variable {σ : Type}

/-- Start to deploy into `store`, with `next` for the first array. -/
def Deployment.start (store : σ) (next : ArrayId) : Deployment σ := ⟨store, next, #[]⟩

section Deploying

variable [ArraySpace σ]

/-- Put one array into the slot of the next id, and move on to the id after it. -/
def Deployment.place (shape : Shape) : DeployM σ ArrayId := fun before =>
  let id := before.next
  let announced := { before with log := before.log.push (.deploying id) }
  match ArraySpace.install before.store id shape with
  | .error refusal store => .error refusal { announced with store }
  | .ok _ store =>
    let placed :=
      { announced with store, log := announced.log ++ (ArraySpace.installEvents σ id shape).toArray }
    match id.next? with
    | none => .error (.idsExhausted id) placed
    | some next => .ok id { placed with next }

mutual

/-- Deploy a type. Only an array of a known shape changes. -/
def Ty.deploy : Ty → DeployM σ Ty
  | .array shape base => do
    let deployed ← shape.deploy
    let id ← Deployment.place deployed
    return .localArray id base
  | ty => return ty
termination_by structural ty => ty

/-- Deploy the members of a union in order. A union with no array among its members stays as it is. -/
def TyUnion.deploy : TyUnion → DeployM σ TyUnion
  | ⟨members⟩ =>
    if members.any Ty.isArray then do
      let deployed ← Ty.deployAll members
      return .ofList deployed
    else return ⟨members⟩
termination_by structural union => union

/-- Deploy the unions of a shape in order. -/
def Shape.deploy : Shape → DeployM σ Shape
  | .seq elem => do
    let deployed ← elem.deploy
    return .seq deployed
  | .tuple elems => do
    let deployed ← TyUnion.deployAll elems
    return .tuple deployed
termination_by structural shape => shape

/-- Deploy types one after the other. -/
def Ty.deployAll : List Ty → DeployM σ (List Ty)
  | [] => return []
  | ty :: rest => do
    let first ← ty.deploy
    let others ← Ty.deployAll rest
    return first :: others
termination_by structural types => types

/-- Deploy unions one after the other. -/
def TyUnion.deployAll : List TyUnion → DeployM σ (List TyUnion)
  | [] => return []
  | union :: rest => do
    let first ← union.deploy
    let others ← TyUnion.deployAll rest
    return first :: others
termination_by structural unions => unions

end

end Deploying

end TypeLattice
