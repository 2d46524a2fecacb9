/-
**What a deployment leaves behind.**

`Deployed slots value result ids` says that `result` is `value` with each array that is reached
through array shapes replaced by a local array, whose slot holds its shape deployed in the same way.
The ids of these arrays are listed in the order in which they were taken: an array comes after those
in it.

* `Ty.Deployed`, `TyUnion.Deployed`, `Shape.Deployed`: the relation;
* `Ty.areApart_deployed`: the members of a union stay apart, since no id is used twice, so none are
  merged;
* `Ty.deployed_of_deploy`, `TyUnion.deployed_of_deploy`, `Shape.deployed_of_deploy`: a deployment that
  is not refused grows the store by these arrays and gives the deployed value.
-/

import TypeLattice.Deployment
import TypeLattice.Proofs.Store.Growth
import TypeLattice.Proofs.Types.Equality

namespace TypeLattice

/-! ### The relation -/

mutual

/-- A type and what it is deployed to. -/
inductive Ty.Deployed (slots : ArrayId → Option Shape) : Ty → Ty → List ArrayId → Prop
  | array {shape content : Shape} {base : Ty} {id : ArrayId} {ids : List ArrayId} :
      Shape.Deployed slots shape content ids → slots id = some content →
      Ty.Deployed slots (.array shape base) (.localArray id base) (ids ++ [id])
  | kept {ty : Ty} : ty.isArray = false → Ty.Deployed slots ty ty []

/-- A union and what it is deployed to, member by member. -/
inductive TyUnion.Deployed (slots : ArrayId → Option Shape) : TyUnion → TyUnion → List ArrayId → Prop
  | members {members results : List Ty} {ids : List ArrayId} :
      Ty.AllDeployed slots members results ids → TyUnion.Deployed slots ⟨members⟩ ⟨results⟩ ids

/-- A shape and what it is deployed to, position by position. -/
inductive Shape.Deployed (slots : ArrayId → Option Shape) : Shape → Shape → List ArrayId → Prop
  | seq {elem result : TyUnion} {ids : List ArrayId} :
      TyUnion.Deployed slots elem result ids → Shape.Deployed slots (.seq elem) (.seq result) ids
  | tuple {elems results : List TyUnion} {ids : List ArrayId} :
      TyUnion.AllDeployed slots elems results ids →
      Shape.Deployed slots (.tuple elems) (.tuple results) ids

/-- Types deployed one after the other. -/
inductive Ty.AllDeployed (slots : ArrayId → Option Shape) : List Ty → List Ty → List ArrayId → Prop
  | nil : Ty.AllDeployed slots [] [] []
  | cons {ty result : Ty} {rest results : List Ty} {ids others : List ArrayId} :
      Ty.Deployed slots ty result ids → Ty.AllDeployed slots rest results others →
      Ty.AllDeployed slots (ty :: rest) (result :: results) (ids ++ others)

/-- Unions deployed one after the other. -/
inductive TyUnion.AllDeployed (slots : ArrayId → Option Shape) :
    List TyUnion → List TyUnion → List ArrayId → Prop
  | nil : TyUnion.AllDeployed slots [] [] []
  | cons {union result : TyUnion} {rest results : List TyUnion} {ids others : List ArrayId} :
      TyUnion.Deployed slots union result ids → TyUnion.AllDeployed slots rest results others →
      TyUnion.AllDeployed slots (union :: rest) (result :: results) (ids ++ others)

end

section Growing

variable {slots larger : ArrayId → Option Shape}

mutual

/-- A deployed type is deployed also where there are more slots. -/
theorem Ty.Deployed.mono {ty result : Ty} {ids : List ArrayId}
    (deployed : Ty.Deployed slots ty result ids)
    (grown : ∀ id content, slots id = some content → larger id = some content) :
    Ty.Deployed larger ty result ids := by
  cases deployed with
  | array inner held => exact .array (inner.mono grown) (grown _ _ held)
  | kept notArray => exact .kept notArray

theorem TyUnion.Deployed.mono {union result : TyUnion} {ids : List ArrayId}
    (deployed : TyUnion.Deployed slots union result ids)
    (grown : ∀ id content, slots id = some content → larger id = some content) :
    TyUnion.Deployed larger union result ids := by
  cases deployed with
  | members all => exact .members (all.mono grown)

theorem Shape.Deployed.mono {shape result : Shape} {ids : List ArrayId}
    (deployed : Shape.Deployed slots shape result ids)
    (grown : ∀ id content, slots id = some content → larger id = some content) :
    Shape.Deployed larger shape result ids := by
  cases deployed with
  | seq inner => exact .seq (inner.mono grown)
  | tuple all => exact .tuple (all.mono grown)

theorem Ty.AllDeployed.mono {types results : List Ty} {ids : List ArrayId}
    (deployed : Ty.AllDeployed slots types results ids)
    (grown : ∀ id content, slots id = some content → larger id = some content) :
    Ty.AllDeployed larger types results ids := by
  cases deployed with
  | nil => exact .nil
  | cons first rest => exact .cons (first.mono grown) (rest.mono grown)

theorem TyUnion.AllDeployed.mono {unions results : List TyUnion} {ids : List ArrayId}
    (deployed : TyUnion.AllDeployed slots unions results ids)
    (grown : ∀ id content, slots id = some content → larger id = some content) :
    TyUnion.AllDeployed larger unions results ids := by
  cases deployed with
  | nil => exact .nil
  | cons first rest => exact .cons (first.mono grown) (rest.mono grown)

end

end Growing

/-! ### Deployed unions have nothing to merge -/

section Apart

variable {slots : ArrayId → Option Shape}

/-- The id of a local array. -/
def Ty.localId? : Ty → Option ArrayId
  | .localArray id _ => some id
  | _ => none

theorem Ty.mem_handles_of_localId? {ty : Ty} {id : ArrayId} (isLocal : ty.localId? = some id) :
    id ∈ ty.handles := by
  cases ty with
  | localArray other base =>
      obtain rfl := Option.some.inj isLocal
      exact List.mem_singleton_self other
  | any | classObject | instanceOf | code | closure | typedClosure | literal | array => cases isLocal

/-- Equal types are the same local array, or none of them is one. -/
theorem Ty.localId?_eq_of_beq {first second : Ty} (same : (first == second) = true) :
    first.localId? = second.localId? := by
  cases first with
  | localArray id base =>
      cases second with
      | localArray id' base' =>
          have both : (id == id' && base.equal base') = true := same
          rw [Bool.and_eq_true, beq_iff_eq] at both
          exact congrArg some both.1
      | any | classObject | instanceOf | code | closure | typedClosure | literal | array => cases same
  | any | classObject | instanceOf | code | closure | typedClosure | literal | array =>
      cases second with
      | localArray => cases same
      | any | classObject | instanceOf | code | closure | typedClosure | literal | array => rfl

/-- Types that differ are deployed to types that differ, if the ids taken for one of them are not met
in the other and are not taken for it. -/
theorem Ty.Deployed.beq_eq_false {first second result result' : Ty} {ids others : List ArrayId}
    (deployed : Ty.Deployed slots first result ids)
    (deployed' : Ty.Deployed slots second result' others)
    (different : (second == first) = false) (apart : ∀ id ∈ ids, id ∉ others)
    (new : ∀ id ∈ first.handles, id ∉ others) (new' : ∀ id ∈ second.handles, id ∉ ids) :
    (result' == result) = false := by
  rw [Bool.eq_false_iff]
  intro same
  have sameId := Ty.localId?_eq_of_beq same
  cases deployed with
  | kept notArray =>
      cases deployed' with
      | kept notArray' => exact Bool.eq_false_iff.mp different same
      | @array _ _ _ id inner _ _ =>
          exact new id (Ty.mem_handles_of_localId? sameId.symm)
            (List.mem_append_right inner List.mem_cons_self)
  | @array _ _ _ id inner _ _ =>
      cases deployed' with
      | kept notArray =>
          exact new' id (Ty.mem_handles_of_localId? sameId)
            (List.mem_append_right inner List.mem_cons_self)
      | @array _ _ _ id' inner' _ _ =>
          obtain rfl : id' = id := Option.some.inj sameId
          exact apart id' (List.mem_append_right inner List.mem_cons_self)
            (List.mem_append_right inner' List.mem_cons_self)

/-- A member of what types are deployed to is what one of them is deployed to. -/
theorem Ty.AllDeployed.exists_of_mem {types results : List Ty} {ids : List ArrayId} {result : Ty}
    (deployed : Ty.AllDeployed slots types results ids) (member : result ∈ results) :
    ∃ ty ∈ types, ∃ own, Ty.Deployed slots ty result own ∧ ∀ id ∈ own, id ∈ ids := by
  induction types generalizing results ids with
  | nil =>
      cases deployed
      cases member
  | cons ty rest ih =>
      cases deployed with
      | @cons _ first _ results own others here later =>
          rcases List.mem_cons.mp member with rfl | inRest
          · exact ⟨ty, List.mem_cons_self, own, here, fun id isOwn => List.mem_append_left others isOwn⟩
          · obtain ⟨found, inTypes, taken, deployed, within⟩ := ih later inRest
            exact ⟨found, List.mem_cons_of_mem ty inTypes, taken, deployed,
              fun id isTaken => List.mem_append_right own (within id isTaken)⟩

/-- **The members of a union stay apart when they are deployed.** -/
theorem Ty.areApart_deployed {types results : List Ty} {ids : List ArrayId}
    (deployed : Ty.AllDeployed slots types results ids) (apart : Ty.areApart types = true)
    (once : ids.Nodup) (new : ∀ id ∈ Ty.handlesOfAll types, id ∉ ids) : Ty.areApart results = true := by
  induction types generalizing results ids with
  | nil =>
      cases deployed
      rfl
  | cons ty rest ih =>
      cases deployed with
      | @cons _ result _ results own others here later =>
          rw [Ty.areApart, Bool.and_eq_true, List.all_eq_true] at apart ⊢
          obtain ⟨-, onceLater, disjoint⟩ := List.nodup_append.mp once
          obtain ⟨newHere, newLater⟩ := List.forall_mem_append.mp new
          refine ⟨fun other member => ?_, ih later apart.2 onceLater fun id member taken =>
            newLater id member (List.mem_append_right own taken)⟩
          obtain ⟨original, inRest, taken, deployedOther, within⟩ := later.exists_of_mem member
          have different := apart.1 original inRest
          rw [Bool.not_eq_true'] at different ⊢
          refine here.beq_eq_false deployedOther different ?_ ?_ ?_
          · exact fun id isOwn isTaken => disjoint id isOwn id (within id isTaken) rfl
          · exact fun id member isTaken =>
              newHere id member (List.mem_append_right own (within id isTaken))
          · exact fun id member isOwn => newLater id (Ty.mem_handlesOfAll.mpr ⟨_, inRest, member⟩)
              (List.mem_append_left others isOwn)

end Apart

/-! ### What a deployment does -/

namespace ArrayStore

/-- The arrays `ids` were added to a store, which stays sound, and `handles` are in use there now. -/
structure Takes (before : ArrayStore) (ids : List ArrayId) (after : ArrayStore)
    (handles : List ArrayId) : Prop where
  grows : Grows before ids after
  sound : after.Sound
  allocated : after.Allocates handles

theorem Takes.refl {store : ArrayStore} {handles : List ArrayId} (sound : store.Sound)
    (allocated : store.Allocates handles) : Takes store [] store handles :=
  ⟨.refl store, sound, allocated⟩

theorem Takes.append {first second third : ArrayStore} {ids others handles more : List ArrayId}
    (before : Takes first ids second handles) (after : Takes second others third more) :
    Takes first (ids ++ others) third (handles ++ more) := by
  refine ⟨before.grows.trans after.grows, after.sound, fun id member => ?_⟩
  rcases List.mem_append.mp member with early | late
  · exact after.grows.allocates before.allocated id early
  · exact after.allocated id late

end ArrayStore

section Deploying

variable {before after : Deployment ArrayStore}

/-- An array is placed under the next id. -/
theorem Deployment.install_of_place {shape : Shape} {id : ArrayId}
    (placed : place shape before = .ok id after) :
    before.next = id ∧ before.store.install id shape = .ok () after.store := by
  simp only [place] at placed
  split at placed
  · cases placed
  · rename_i store installed
    split at placed
    · cases placed
    · cases placed
      exact ⟨rfl, installed⟩

theorem Deployment.takes_of_place {shape : Shape} {id : ArrayId} (sound : before.store.Sound)
    (allocated : before.store.Allocates shape.handles) (placed : place shape before = .ok id after) :
    after.store.slot? id = some shape ∧ before.store.Takes [id] after.store [id] := by
  obtain ⟨-, installed⟩ := install_of_place placed
  have grows := ArrayStore.grows_of_install sound.bounded installed
  refine ⟨?_, grows, sound.install allocated installed, grows.placed⟩
  rw [ArrayStore.slot?_install installed, if_pos rfl]

/-- Types without an array among them are deployed to themselves. -/
theorem Ty.allDeployed_self {slots : ArrayId → Option Shape} {types : List Ty}
    (noArray : types.any Ty.isArray = false) : Ty.AllDeployed slots types types [] := by
  induction types with
  | nil => exact .nil
  | cons ty rest ih =>
      rw [List.any_cons, Bool.or_eq_false_iff] at noArray
      exact .cons (.kept noArray.1) (ih noArray.2)

mutual

/-- **A type that was deployed.** -/
theorem Ty.deployed_of_deploy (ty : Ty) {before after : Deployment ArrayStore} {result : Ty}
    (sound : before.store.Sound) (tidy : ty.isTidy = true)
    (allocated : before.store.Allocates ty.handles) (ran : ty.deploy before = .ok result after) :
    ∃ ids, Ty.Deployed after.store.slot? ty result ids ∧
      before.store.Takes ids after.store result.handles := by
  cases ty with
  | array shape base =>
      rw [Ty.isTidy, Bool.and_eq_true] at tidy
      obtain ⟨content, middle, deployed, placing⟩ := bind_eq_ok_iff.mp ran
      obtain ⟨id, last, placed, returned⟩ := bind_eq_ok_iff.mp placing
      obtain ⟨rfl, rfl⟩ := pure_eq_ok_iff.mp returned
      obtain ⟨ids, inner, takes⟩ := Shape.deployed_of_deploy shape sound tidy.1 allocated deployed
      obtain ⟨held, takesOne⟩ := Deployment.takes_of_place takes.sound takes.allocated placed
      refine ⟨ids ++ [id], .array (inner.mono fun _ _ => takesOne.grows.slot?_eq_some) held,
        takes.grows.trans takesOne.grows, takesOne.sound, takesOne.allocated⟩
  | any | classObject | instanceOf | code | closure | typedClosure | literal | localArray =>
      obtain ⟨rfl, rfl⟩ := pure_eq_ok_iff.mp ran
      exact ⟨[], .kept rfl, .refl sound allocated⟩
termination_by structural ty

theorem TyUnion.deployed_of_deploy (union : TyUnion) {before after : Deployment ArrayStore}
    {result : TyUnion} (sound : before.store.Sound) (tidy : union.isTidy = true)
    (allocated : before.store.Allocates union.handles) (ran : union.deploy before = .ok result after) :
    ∃ ids, TyUnion.Deployed after.store.slot? union result ids ∧
      before.store.Takes ids after.store result.handles := by
  obtain ⟨members⟩ := union
  rw [TyUnion.isTidy, Bool.and_eq_true] at tidy
  rw [TyUnion.deploy] at ran
  split at ran
  · obtain ⟨results, last, deployed, returned⟩ := bind_eq_ok_iff.mp ran
    obtain ⟨rfl, rfl⟩ := pure_eq_ok_iff.mp returned
    obtain ⟨ids, all, takes⟩ := Ty.deployed_of_deployAll members sound tidy.2 allocated deployed
    have apart := Ty.areApart_deployed all tidy.1 takes.grows.once fun id member =>
      takes.grows.notMem allocated member
    rw [TyUnion.ofList_of_areApart apart]
    exact ⟨ids, .members all, takes⟩
  · rename_i noArray
    obtain ⟨rfl, rfl⟩ := pure_eq_ok_iff.mp ran
    rw [Bool.not_eq_true] at noArray
    exact ⟨[], .members (Ty.allDeployed_self noArray), .refl sound allocated⟩
termination_by structural union

theorem Shape.deployed_of_deploy (shape : Shape) {before after : Deployment ArrayStore} {result : Shape}
    (sound : before.store.Sound) (tidy : shape.isTidy = true)
    (allocated : before.store.Allocates shape.handles) (ran : shape.deploy before = .ok result after) :
    ∃ ids, Shape.Deployed after.store.slot? shape result ids ∧
      before.store.Takes ids after.store result.handles := by
  cases shape with
  | seq elem =>
      obtain ⟨deployedElem, last, deployed, returned⟩ := bind_eq_ok_iff.mp ran
      obtain ⟨rfl, rfl⟩ := pure_eq_ok_iff.mp returned
      obtain ⟨ids, inner, takes⟩ := TyUnion.deployed_of_deploy elem sound tidy allocated deployed
      exact ⟨ids, .seq inner, takes⟩
  | tuple elems =>
      obtain ⟨deployedElems, last, deployed, returned⟩ := bind_eq_ok_iff.mp ran
      obtain ⟨rfl, rfl⟩ := pure_eq_ok_iff.mp returned
      obtain ⟨ids, all, takes⟩ := TyUnion.deployed_of_deployAll elems sound tidy allocated deployed
      exact ⟨ids, .tuple all, takes⟩
termination_by structural shape

theorem Ty.deployed_of_deployAll (types : List Ty) {before after : Deployment ArrayStore}
    {results : List Ty} (sound : before.store.Sound) (tidy : Ty.allTidy types = true)
    (allocated : before.store.Allocates (Ty.handlesOfAll types))
    (ran : Ty.deployAll types before = .ok results after) :
    ∃ ids, Ty.AllDeployed after.store.slot? types results ids ∧
      before.store.Takes ids after.store (Ty.handlesOfAll results) := by
  cases types with
  | nil =>
      obtain ⟨rfl, rfl⟩ := pure_eq_ok_iff.mp ran
      exact ⟨[], .nil, .refl sound allocated⟩
  | cons ty rest =>
      rw [Ty.allTidy, Bool.and_eq_true] at tidy
      obtain ⟨result, middle, deployed, remaining⟩ := bind_eq_ok_iff.mp ran
      obtain ⟨others, last, deployedRest, returned⟩ := bind_eq_ok_iff.mp remaining
      obtain ⟨rfl, rfl⟩ := pure_eq_ok_iff.mp returned
      obtain ⟨allocatedHere, allocatedLater⟩ := List.forall_mem_append.mp allocated
      obtain ⟨ids, here, takes⟩ := Ty.deployed_of_deploy ty sound tidy.1 allocatedHere deployed
      obtain ⟨more, later, takesRest⟩ := Ty.deployed_of_deployAll rest takes.sound tidy.2
        (takes.grows.allocates allocatedLater) deployedRest
      exact ⟨ids ++ more, .cons (here.mono fun _ _ => takesRest.grows.slot?_eq_some) later,
        takes.append takesRest⟩
termination_by structural types

theorem TyUnion.deployed_of_deployAll (unions : List TyUnion) {before after : Deployment ArrayStore}
    {results : List TyUnion} (sound : before.store.Sound) (tidy : TyUnion.allTidy unions = true)
    (allocated : before.store.Allocates (TyUnion.handlesOfAll unions))
    (ran : TyUnion.deployAll unions before = .ok results after) :
    ∃ ids, TyUnion.AllDeployed after.store.slot? unions results ids ∧
      before.store.Takes ids after.store (TyUnion.handlesOfAll results) := by
  cases unions with
  | nil =>
      obtain ⟨rfl, rfl⟩ := pure_eq_ok_iff.mp ran
      exact ⟨[], .nil, .refl sound allocated⟩
  | cons union rest =>
      rw [TyUnion.allTidy, Bool.and_eq_true] at tidy
      obtain ⟨result, middle, deployed, remaining⟩ := bind_eq_ok_iff.mp ran
      obtain ⟨others, last, deployedRest, returned⟩ := bind_eq_ok_iff.mp remaining
      obtain ⟨rfl, rfl⟩ := pure_eq_ok_iff.mp returned
      obtain ⟨allocatedHere, allocatedLater⟩ := List.forall_mem_append.mp allocated
      obtain ⟨ids, here, takes⟩ := TyUnion.deployed_of_deploy union sound tidy.1 allocatedHere deployed
      obtain ⟨more, later, takesRest⟩ := TyUnion.deployed_of_deployAll rest takes.sound tidy.2
        (takes.grows.allocates allocatedLater) deployedRest
      exact ⟨ids ++ more, .cons (here.mono fun _ _ => takesRest.grows.slot?_eq_some) later,
        takes.append takesRest⟩
termination_by structural unions

end

end Deploying

end TypeLattice
