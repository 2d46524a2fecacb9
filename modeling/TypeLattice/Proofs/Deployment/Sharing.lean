/-
**Sharing is not seen.**

Two steps hand a value on as it stands instead of building it anew: resolution keeps arrays that have
nothing to resolve, and deployment keeps unions with no array among their members. Whoever holds the result
cannot tell, and neither can the resolver, the store or the counter of ids.

* `Ty.deployAll_eq_pure`: to deploy types without an array among them gives the types and does nothing
  else;
* `TyUnion.deploy_eq_ofList`: so a union is always what is collected from its deployed members;
* `Ty.deployAnew` and the like: deployment that keeps no union; `Ty.deployAnew_eq`: it is the same as
  deployment;
* `sharing_is_unobservable`: resolution and deployment together.
-/

import TypeLattice.Deployment
import TypeLattice.Proofs.Resolution.Sharing

namespace TypeLattice

/-! ### Deployment that keeps no union -/

section Deploying

variable {σ : Type} [ArraySpace σ]

/-- A type that is no array is deployed to itself. -/
theorem Ty.deploy_eq_pure {ty : Ty} (noArray : ty.isArray = false) :
    (ty.deploy : DeployM σ Ty) = pure ty := by
  cases ty with
  | array shape base => cases noArray
  | any | classObject | instanceOf | code | closure | typedClosure | literal | localArray => rfl

/-- **Types without an array among them are deployed to themselves**, and nothing is placed. -/
theorem Ty.deployAll_eq_pure {types : List Ty} (noArray : types.any Ty.isArray = false) :
    (Ty.deployAll types : DeployM σ (List Ty)) = pure types := by
  induction types with
  | nil => rfl
  | cons ty rest ih =>
      rw [List.any_cons, Bool.or_eq_false_iff] at noArray
      rw [Ty.deployAll, Ty.deploy_eq_pure noArray.1, ih noArray.2, pure_bind, pure_bind]

/-- A union without an array among its members is kept, and nothing is placed. -/
theorem TyUnion.deploy_eq_pure {union : TyUnion} (noArray : union.members.any Ty.isArray = false) :
    (union.deploy : DeployM σ TyUnion) = pure union := by
  obtain ⟨members⟩ := union
  rw [TyUnion.deploy, if_neg (Bool.eq_false_iff.mp noArray)]

/-- A union is what is collected from its deployed members, also where it is kept. -/
theorem TyUnion.deploy_eq_ofList {union : TyUnion} (tidy : union.isTidy = true) :
    (union.deploy : DeployM σ TyUnion) = do
      let deployed ← Ty.deployAll union.members
      return .ofList deployed := by
  obtain ⟨members⟩ := union
  rw [TyUnion.isTidy, Bool.and_eq_true] at tidy
  rw [TyUnion.deploy]
  split
  · rfl
  · rename_i noArray
    rw [Ty.deployAll_eq_pure (Bool.eq_false_iff.mpr noArray), pure_bind,
      TyUnion.ofList_of_areApart tidy.1]

mutual

/-- Deploy a type, with every union in it collected anew. -/
def Ty.deployAnew : Ty → DeployM σ Ty
  | .array shape base => do
    let deployed ← shape.deployAnew
    let id ← Deployment.place deployed
    return .localArray id base
  | ty => return ty
termination_by structural ty => ty

def TyUnion.deployAnew : TyUnion → DeployM σ TyUnion
  | ⟨members⟩ => do
    let deployed ← Ty.deployAllAnew members
    return .ofList deployed
termination_by structural union => union

def Shape.deployAnew : Shape → DeployM σ Shape
  | .seq elem => do
    let deployed ← elem.deployAnew
    return .seq deployed
  | .tuple elems => do
    let deployed ← TyUnion.deployAllAnew elems
    return .tuple deployed
termination_by structural shape => shape

def Ty.deployAllAnew : List Ty → DeployM σ (List Ty)
  | [] => return []
  | ty :: rest => do
    let first ← ty.deployAnew
    let others ← Ty.deployAllAnew rest
    return first :: others
termination_by structural types => types

def TyUnion.deployAllAnew : List TyUnion → DeployM σ (List TyUnion)
  | [] => return []
  | union :: rest => do
    let first ← union.deployAnew
    let others ← TyUnion.deployAllAnew rest
    return first :: others
termination_by structural unions => unions

end

mutual

/-- **Deployment that keeps no union is deployment.** -/
theorem Ty.deployAnew_eq (ty : Ty) (tidy : ty.isTidy = true) :
    (ty.deployAnew : DeployM σ Ty) = ty.deploy := by
  cases ty with
  | any | classObject | instanceOf | code | closure | typedClosure | literal | localArray => rfl
  | array shape base =>
      rw [Ty.isTidy, Bool.and_eq_true] at tidy
      rw [Ty.deployAnew, Shape.deployAnew_eq shape tidy.1, Ty.deploy]

theorem TyUnion.deployAnew_eq (union : TyUnion) (tidy : union.isTidy = true) :
    (union.deployAnew : DeployM σ TyUnion) = union.deploy := by
  rw [TyUnion.deploy_eq_ofList tidy]
  obtain ⟨members⟩ := union
  rw [TyUnion.isTidy, Bool.and_eq_true] at tidy
  rw [TyUnion.deployAnew, Ty.deployAllAnew_eq members tidy.2]

theorem Shape.deployAnew_eq (shape : Shape) (tidy : shape.isTidy = true) :
    (shape.deployAnew : DeployM σ Shape) = shape.deploy := by
  cases shape with
  | seq elem => rw [Shape.deployAnew, TyUnion.deployAnew_eq elem tidy, Shape.deploy]
  | tuple elems => rw [Shape.deployAnew, TyUnion.deployAllAnew_eq elems tidy, Shape.deploy]

theorem Ty.deployAllAnew_eq (types : List Ty) (tidy : Ty.allTidy types = true) :
    (Ty.deployAllAnew types : DeployM σ (List Ty)) = Ty.deployAll types := by
  cases types with
  | nil => rfl
  | cons ty rest =>
      rw [Ty.allTidy, Bool.and_eq_true] at tidy
      rw [Ty.deployAllAnew, Ty.deployAnew_eq ty tidy.1, Ty.deployAllAnew_eq rest tidy.2, Ty.deployAll]

theorem TyUnion.deployAllAnew_eq (unions : List TyUnion) (tidy : TyUnion.allTidy unions = true) :
    (TyUnion.deployAllAnew unions : DeployM σ (List TyUnion)) = TyUnion.deployAll unions := by
  cases unions with
  | nil => rfl
  | cons union rest =>
      rw [TyUnion.allTidy, Bool.and_eq_true] at tidy
      rw [TyUnion.deployAllAnew, TyUnion.deployAnew_eq union tidy.1, TyUnion.deployAllAnew_eq rest tidy.2,
        TyUnion.deployAll]

end

end Deploying

/-! ### The theorem -/

/-- **Sharing is not seen.** Let no union hold two equal members, at any depth.

* An array whose shape has no local array and no literal is kept. To resolve the shape instead, in
  whatever state the resolver is and whichever arrays have slots, would give the very shape, and leave
  the resolver as it is;
* so resolution gives the same results, violations and states when it builds every array anew, those
  in the slots included;
* a union with no array among its members is kept. To deploy its members one by one instead and to collect
  them, whatever is in the store and whichever id is next, would give the very union, and place nothing;
* so deployment gives the same results, refusals and states when it collects every union anew. -/
theorem sharing_is_unobservable :
    (∀ (shape : Shape) (base : Ty), shape.isTidy = true → shape.isContextFree = true →
      shape.hasLiteral = false →
      ∀ (slots : ArrayId → Option Shape) (room : Nat) (resolver : Resolver),
        (Ty.array shape base).resolveWith (Resolver.visit slots room) resolver =
          .ok (.array shape base) resolver ∧
        shape.resolveWith (Resolver.visit slots room) resolver = .ok shape resolver) ∧
    (∀ (slots : ArrayId → Option Shape) (item : Item),
      (∀ id content, slots id = some content → content.isTidy = true) → item.isTidy = true →
      item.resolveAnew slots = item.resolve slots) ∧
    ∀ (σ : Type) [ArraySpace σ],
      (∀ union : TyUnion, union.isTidy = true → union.members.any Ty.isArray = false →
        ∀ before : Deployment σ, union.deploy before = .ok union before ∧
          (do
            let deployed ← Ty.deployAll union.members
            return TyUnion.ofList deployed : DeployM σ TyUnion) before = .ok union before) ∧
      ∀ ty : Ty, ty.isTidy = true → (ty.deployAnew : DeployM σ Ty) = ty.deploy := by
  refine ⟨fun shape base tidy closed plain slots room resolver => ?_,
    fun slots item tidySlots tidy => item.resolveAnew_eq tidySlots tidy,
    fun σ _ => ⟨fun union tidy noArray before => ?_, fun ty tidy => ty.deployAnew_eq tidy⟩⟩
  · rw [Ty.resolveWith_array _ tidy, Shape.resolveWith_eq_pure _ closed plain tidy]
    exact ⟨rfl, rfl⟩
  · rw [← TyUnion.deploy_eq_ofList tidy, TyUnion.deploy_eq_pure noArray]
    exact ⟨rfl, rfl⟩

/-- A literal in the base of an array, and an array in a parameter of a closure, are no reason to build
anything anew: not for a resolver that is inside an array and over its limits, nor for a deployment that
has only the last id left. Where an array holds itself, nothing changes either. -/
theorem sharing_is_unobservable_hidden :
    let inner := Ty.array (.tuple []) (.literal (.integer 1) .any)
    let shape := Shape.tuple [⟨[.closure ⟨1⟩ ⟨2⟩ inner, .any]⟩, .empty]
    let resolver : Resolver := ⟨⟨⟨4, 9⟩, [⟨0⟩], 10, true⟩, [(⟨1⟩, .tuple [])], some 0, #[]⟩
    let slots (_ : ArrayId) := some (Shape.seq ⟨[.localArray ⟨0⟩ .any, inner]⟩)
    let item := Item.ty (.array (.seq ⟨[inner, .localArray ⟨0⟩ .any]⟩) .any)
    let union : TyUnion := ⟨[.typedClosure [⟨[inner]⟩] .empty .any, .code ⟨1⟩]⟩
    let before := Deployment.start ArrayStore.empty ⟨4294967295⟩
    shape.isContextFree = true ∧ shape.hasLiteral = false ∧
      shape.resolveWith (Resolver.visit slots 4) resolver = .ok shape resolver ∧
      item.resolveAnew slots (.start .resolution) = item.resolve slots (.start .resolution) ∧
      union.members.any Ty.isArray = false ∧
      (do
        let deployed ← Ty.deployAll union.members
        return TyUnion.ofList deployed : DeployM ArrayStore TyUnion) before = .ok union before := by
  intro inner shape resolver slots item union before
  obtain ⟨kept, anew, deploys⟩ := sharing_is_unobservable
  have tidySlots : ∀ id content, slots id = some content → content.isTidy = true := by
    intro id content held
    obtain rfl := Option.some.inj held
    rfl
  exact ⟨rfl, rfl, (kept shape .any rfl rfl rfl slots 4 resolver).2,
    congrFun (anew slots item tidySlots rfl) _, rfl, ((deploys ArrayStore).1 union rfl rfl before).2⟩

end TypeLattice
