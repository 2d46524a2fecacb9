/-
**Array ids go upward and are never used twice.**

Whatever a store is asked to do, with whatever arguments, and however often it refuses: the ids of the
arrays that are put in go up, over the whole run. A deployment may put in several arrays, skip ids, and
break off with some of them in place; it does so one array at a time.

* `Deployment.OnlyPlaces`: all that a step does is to place arrays, one after the other; this holds of
  every deployment (`Item.onlyPlaces_deploy`);
* `ArrayStore.Advances`: the arrays `ids` were put in, in this order, each above all that were in use;
* `ArrayStore.advances_serve`, `ArrayStore.advances_serveAll`: one request, and a run of them, put in the
  arrays that are reported in the log;
* `ArrayStore.handedOut_sublist`: the ids that allocation hands out are among them, in order;
* `ArrayStore.ids_go_upward`: what this says about a run.
-/

import Mathlib.Logic.Relation
import TypeLattice.Proofs.Store.References

namespace TypeLattice

/-! ### Deployments place arrays -/

namespace Deployment

variable {σ α β : Type}

variable [ArraySpace σ]

/-- One array was placed, or its placement was refused. -/
def Placement (before after : Deployment σ) : Prop :=
  ∃ shape, after = leftBehind (place shape before)

/-- All that a step does is to place arrays, one after the other. -/
def OnlyPlaces (step : DeployM σ α) : Prop :=
  ∀ before, Relation.ReflTransGen Placement before (leftBehind (step before))

namespace OnlyPlaces

variable {step : DeployM σ α} {next : α → DeployM σ β}

theorem pure (value : α) : OnlyPlaces (Pure.pure value : DeployM σ α) :=
  fun _ => .refl

theorem bind (first : OnlyPlaces step) (second : ∀ value, OnlyPlaces (next value)) :
    OnlyPlaces (step >>= next) := by
  intro before
  have afterFirst := first before
  show Relation.ReflTransGen Placement before (leftBehind (EStateM.bind step next before))
  unfold EStateM.bind
  cases ran : step before with
  | error refusal stopped =>
      rw [ran] at afterFirst
      exact afterFirst
  | ok value middle =>
      rw [ran] at afterFirst
      exact afterFirst.trans (second value middle)

end OnlyPlaces

theorem onlyPlaces_place (shape : Shape) : OnlyPlaces (place shape : DeployM σ ArrayId) :=
  fun _ => .single ⟨shape, rfl⟩

end Deployment

section Deploying

open Deployment

variable {σ : Type} [ArraySpace σ]

mutual

/-- **The deployment of a type places arrays and does nothing else.** -/
theorem Ty.onlyPlaces_deploy (ty : Ty) : OnlyPlaces (ty.deploy : DeployM σ Ty) := by
  cases ty with
  | array shape base =>
      exact (Shape.onlyPlaces_deploy shape).bind fun content =>
        (onlyPlaces_place content).bind fun _ => .pure _
  | any | classObject | instanceOf | code | closure | typedClosure | literal | localArray =>
      exact .pure _
termination_by structural ty

theorem TyUnion.onlyPlaces_deploy (union : TyUnion) :
    OnlyPlaces (union.deploy : DeployM σ TyUnion) := by
  obtain ⟨members⟩ := union
  rw [TyUnion.deploy]
  split
  · exact (Ty.onlyPlaces_deployAll members).bind fun _ => .pure _
  · exact .pure _
termination_by structural union

theorem Shape.onlyPlaces_deploy (shape : Shape) : OnlyPlaces (shape.deploy : DeployM σ Shape) := by
  cases shape with
  | seq elem => exact (TyUnion.onlyPlaces_deploy elem).bind fun _ => .pure _
  | tuple elems => exact (TyUnion.onlyPlaces_deployAll elems).bind fun _ => .pure _
termination_by structural shape

theorem Ty.onlyPlaces_deployAll (types : List Ty) :
    OnlyPlaces (Ty.deployAll types : DeployM σ (List Ty)) := by
  cases types with
  | nil => exact .pure _
  | cons ty rest =>
      exact (Ty.onlyPlaces_deploy ty).bind fun _ => (Ty.onlyPlaces_deployAll rest).bind fun _ => .pure _
termination_by structural types

theorem TyUnion.onlyPlaces_deployAll (unions : List TyUnion) :
    OnlyPlaces (TyUnion.deployAll unions : DeployM σ (List TyUnion)) := by
  cases unions with
  | nil => exact .pure _
  | cons union rest =>
      exact (TyUnion.onlyPlaces_deploy union).bind fun _ =>
        (TyUnion.onlyPlaces_deployAll rest).bind fun _ => .pure _
termination_by structural unions

end

theorem Item.onlyPlaces_deploy (item : Item) : OnlyPlaces item.deploy := by
  cases item with
  | ty value =>
      rw [Item.deploy, map_eq_pure_bind]
      exact (Ty.onlyPlaces_deploy value).bind fun _ => .pure _
  | union value =>
      rw [Item.deploy, map_eq_pure_bind]
      exact (TyUnion.onlyPlaces_deploy value).bind fun _ => .pure _
  | shape value =>
      rw [Item.deploy, map_eq_pure_bind]
      exact (Shape.onlyPlaces_deploy value).bind fun _ => .pure _

end Deploying

/-! ### Stores that advance -/

/-- Only the last word has no id after it. -/
theorem ArrayId.next?_eq_none_iff_val {id : ArrayId} : id.next? = none ↔ id.val = 4294967295 := by
  rw [ArrayId.next?_eq_none_iff, ← UInt32.toNat_inj]
  rfl

/-- The arrays that a log reports as put in. -/
def Event.installedIds (log : List Event) : List ArrayId :=
  log.filterMap fun
    | .allocated id _ => some id
    | _ => none

theorem Event.installedIds_append (log log' : List Event) :
    installedIds (log ++ log') = installedIds log ++ installedIds log' :=
  List.filterMap_append

namespace ArrayStore

/-- The ids in use, in the order in which they came in. -/
def ids (store : ArrayStore) : List ArrayId := store.toList.map Prod.fst

theorem contains_iff_mem_ids {store : ArrayStore} {id : ArrayId} :
    store.contains id = true ↔ id ∈ store.ids := by
  obtain ⟨slots, next⟩ := store
  simp only [contains, slot?, ids, toList, List.map_reverse, List.mem_reverse]
  induction slots with
  | nil => simp
  | cons slot rest ih =>
      by_cases here : id = slot.1
      · simp [here]
      · rw [List.lookup_cons, beq_false_of_ne here, List.map_cons, List.mem_cons]
        exact ih.trans (or_iff_right here).symm

/-- The arrays `ids` were put into a store, in this order and above all that it held. -/
structure Advances (before : ArrayStore) (ids : List ArrayId) (after : ArrayStore) : Prop where
  upward : ids.Pairwise (· < ·)
  fresh : ∀ id ∈ ids, ¬ id < before.next
  below : ∀ id ∈ ids, id < after.next
  next_le : before.next.val.toNat ≤ after.next.val.toNat
  ids_eq : after.ids = before.ids ++ ids

namespace Advances

variable {before middle after : ArrayStore} {ids ids' : List ArrayId}

theorem refl (store : ArrayStore) : store.Advances [] store :=
  ⟨.nil, nofun, nofun, Nat.le_refl _, (List.append_nil _).symm⟩

theorem trans (first : before.Advances ids middle) (second : middle.Advances ids' after) :
    before.Advances (ids ++ ids') after := by
  have next_le := first.next_le
  have next_le' := second.next_le
  refine ⟨List.pairwise_append.mpr ⟨first.upward, second.upward, ?_⟩, ?_, ?_, by omega, ?_⟩
  · -- The mark in the middle lies between the ids of the two parts.
    intro id early id' late
    have below := ArrayId.lt_iff.mp (first.below id early)
    have fresh := ArrayId.lt_iff.not.mp (second.fresh id' late)
    rw [ArrayId.lt_iff]
    omega
  · refine List.forall_mem_append.mpr ⟨first.fresh, fun id late => ?_⟩
    have fresh := ArrayId.lt_iff.not.mp (second.fresh id late)
    rw [ArrayId.lt_iff]
    omega
  · refine List.forall_mem_append.mpr ⟨fun id early => ?_, second.below⟩
    have below := ArrayId.lt_iff.mp (first.below id early)
    rw [ArrayId.lt_iff]
    omega
  · rw [second.ids_eq, first.ids_eq, List.append_assoc]

theorem contains (advances : before.Advances ids after) {id : ArrayId}
    (inUse : before.contains id = true) : after.contains id = true := by
  rw [contains_iff_mem_ids] at inUse ⊢
  rw [advances.ids_eq]
  exact List.mem_append_left _ inUse

end Advances

section Steps

variable {store extended changed : ArrayStore} {id : ArrayId} {shape : Shape} {change : Shape → Shape}

theorem advances_of_install (installed : store.install id shape = .ok () extended) :
    store.Advances [id] extended := by
  obtain ⟨free, follows, slots⟩ := install_eq_ok_iff.mp installed
  rw [ArrayId.next?_eq_some_iff] at follows
  have above := ArrayId.lt_iff.not.mp free
  refine ⟨List.pairwise_singleton _ id, ?_, ?_, by omega, ?_⟩
  · exact List.forall_mem_singleton.mpr free
  · rw [List.forall_mem_singleton, ArrayId.lt_iff]
    omega
  · rw [ids, ids, toList, toList, slots, List.reverse_cons, List.map_append]
    rfl

theorem map_fst_changeSlot (slots : List (ArrayId × Shape)) :
    (changeSlot change id slots).map Prod.fst = slots.map Prod.fst := by
  induction slots with
  | nil => rfl
  | cons slot rest ih =>
      rw [changeSlot]
      split
      · rename_i here
        rw [List.map_cons, List.map_cons, here]
      · rw [List.map_cons, List.map_cons, ih]

/-- To change an array, or to be refused, puts none in. -/
theorem advances_update (store : ArrayStore) (id : ArrayId) (change : Shape → Shape) :
    store.Advances [] (leftBehind (store.update id change)) := by
  unfold update
  split
  · refine ⟨.nil, nofun, nofun, Nat.le_refl _, ?_⟩
    simp only [leftBehind, ids, toList, List.map_reverse, map_fst_changeSlot, List.append_nil]
  · exact .refl store

/-- A placement puts in the array that it reports, if it is not refused. -/
theorem advances_of_placement {before after : Deployment ArrayStore}
    (placed : Deployment.Placement before after) :
    ∃ ids, Event.installedIds after.log.toList = Event.installedIds before.log.toList ++ ids ∧
      before.store.Advances ids after.store := by
  obtain ⟨shape, rfl⟩ := placed
  simp only [Deployment.place]
  cases installed : ArraySpace.install before.store before.next shape with
  | error refusal stopped =>
      obtain ⟨rfl, -⟩ := install_eq_error_iff.mp installed
      refine ⟨[], ?_, .refl _⟩
      simp [leftBehind, Event.installedIds]
  | ok _ extended =>
      refine ⟨[before.next], ?_, ?_⟩
      · cases before.next.next? <;>
          simp [leftBehind, Event.installedIds, ArraySpace.installEvents, installEvents]
      · cases before.next.next? <;> exact advances_of_install installed

/-- What one placement does, a series of them does. -/
theorem advances_of_placements {before after : Deployment ArrayStore}
    (placed : Relation.ReflTransGen Deployment.Placement before after) :
    ∃ ids, Event.installedIds after.log.toList = Event.installedIds before.log.toList ++ ids ∧
      before.store.Advances ids after.store := by
  induction placed with
  | refl => exact ⟨[], (List.append_nil _).symm, .refl _⟩
  | tail _ last ih =>
      obtain ⟨ids, logged, advances⟩ := ih
      obtain ⟨ids', logged', advances'⟩ := advances_of_placement last
      exact ⟨ids ++ ids', by rw [logged', logged, List.append_assoc], advances.trans advances'⟩

end Steps

/-! ### What a run reports -/

/-- The log records of putting an array into the slot `id`. -/
def logOfInstall (store : ArrayStore) (id : ArrayId) (shape : Shape) : List Event :=
  match store.install id shape with
  | .ok _ _ => installEvents id shape
  | .error _ _ => []

/-- The log records of a request. -/
def log (store : ArrayStore) : Request → List Event
  | .allocate shape _ => store.logOfInstall store.next shape
  | .install id shape => store.logOfInstall id shape
  | .deploy item next => (leftBehind (item.deploy (.start store next))).log.toList
  | .write id index _ => store.writeEvents id index
  | .update _ _ => []

/-- The log records of requests served in turn. -/
def logAll (store : ArrayStore) : List Request → List Event
  | [] => []
  | request :: rest => store.log request ++ (store.serve request).2.logAll rest

/-- The id that an allocation hands out. -/
def Request.handle? : Request → Answer → Option ArrayId
  | .allocate _ _, .ok (some (.ty (.localArray id _))) => some id
  | _, _ => none

/-- The ids that the allocations among the requests hand out. -/
def handedOut (store : ArrayStore) : List Request → List ArrayId
  | [] => []
  | request :: rest =>
    let (answer, next) := store.serve request
    (request.handle? answer).toList ++ next.handedOut rest

section Runs

variable {store : ArrayStore}

theorem advances_install (id : ArrayId) (shape : Shape) :
    store.Advances (Event.installedIds (store.logOfInstall id shape))
      (leftBehind (store.install id shape)) := by
  unfold logOfInstall
  cases installed : store.install id shape with
  | error refusal stopped =>
      obtain ⟨rfl, -⟩ := install_eq_error_iff.mp installed
      exact .refl _
  | ok _ extended => exact advances_of_install installed

/-- What a request leaves is what its operation leaves. -/
theorem snd_concluded {σ α : Type} (returned : α → Option Item) (storeOf : σ → ArrayStore)
    (result : EStateM.Result Refusal σ α) :
    (concluded returned storeOf result).2 = storeOf (leftBehind result) := by
  cases result <;> rfl

theorem serve_install (id : ArrayId) (shape : Shape) :
    (store.serve (.install id shape)).2 = leftBehind (store.install id shape) :=
  snd_concluded _ _ _

theorem serve_allocate (shape : Shape) (base : Ty) :
    (store.serve (.allocate shape base)).2 = leftBehind (store.install store.next shape) := by
  rw [serve, snd_concluded, allocate]
  cases store.install store.next shape <;> rfl

theorem serve_deploy (item : Item) (next : ArrayId) :
    (store.serve (.deploy item next)).2 = (leftBehind (item.deploy (.start store next))).store :=
  snd_concluded _ _ _

theorem serve_update (id : ArrayId) (change : Shape → Shape) :
    (store.serve (.update id change)).2 = leftBehind (store.update id change) :=
  snd_concluded _ _ _

theorem serve_write (id : ArrayId) (index : Option Nat) (ty : Ty) :
    (store.serve (.write id index ty)).2 =
      leftBehind (store.update id fun shape => shape.write index ty) :=
  snd_concluded _ _ _

/-- No array is put in by a write. -/
theorem installedIds_writeEvents (id : ArrayId) (index : Option Nat) :
    Event.installedIds (store.writeEvents id index) = [] := by
  unfold writeEvents
  cases store.slot? id with
  | none => rfl
  | some shape =>
      cases shape with
      | seq _ => rfl
      | tuple elems =>
          simp only [Shape.writeEvents]
          split <;> rfl

/-- **One request puts in the arrays that it reports**, whether it is refused or not. -/
theorem advances_serve (request : Request) :
    store.Advances (Event.installedIds (store.log request)) (store.serve request).2 := by
  cases request with
  | allocate shape base =>
      rw [serve_allocate]
      exact advances_install store.next shape
  | install id shape =>
      rw [serve_install]
      exact advances_install id shape
  | deploy item next =>
      obtain ⟨ids, logged, advances⟩ := advances_of_placements
        (item.onlyPlaces_deploy (.start store next))
      rw [serve_deploy, log, logged]
      exact advances
  | write id index ty =>
      rw [log, installedIds_writeEvents, serve_write]
      exact advances_update store id _
  | update id change =>
      rw [serve_update]
      exact advances_update store id change

/-- **What one request does, a run of requests does.** -/
theorem advances_serveAll (requests : List Request) :
    store.Advances (Event.installedIds (store.logAll requests)) (store.serveAll requests).2 := by
  induction requests generalizing store with
  | nil => exact .refl store
  | cons request rest ih =>
      rw [logAll, Event.installedIds_append]
      exact (advances_serve request).trans ih

theorem handle?_sublist (request : Request) :
    (request.handle? (store.serve request).1).toList.Sublist
      (Event.installedIds (store.log request)) := by
  cases request with
  | allocate shape base =>
      simp only [serve, allocate, log, logOfInstall]
      cases store.install store.next shape with
      | error refusal stopped => exact List.nil_sublist _
      | ok _ extended => exact List.Sublist.refl _
  | install | deploy | write | update => exact List.nil_sublist _

/-- **Allocation hands out ids of arrays that are put in, in their order.** -/
theorem handedOut_sublist (requests : List Request) :
    (store.handedOut requests).Sublist (Event.installedIds (store.logAll requests)) := by
  induction requests generalizing store with
  | nil => exact List.nil_sublist _
  | cons request rest ih =>
      rw [handedOut, logAll, Event.installedIds_append]
      exact (handle?_sublist request).append ih

end Runs

/-! ### What single requests change -/

/-- Only the shape in the slot `id` differs, if there is one; it is changed. -/
structure ChangesOnly (before : ArrayStore) (id : ArrayId) (change : Shape → Shape)
    (after : ArrayStore) : Prop where
  slots : ∀ other, after.slot? other =
    if other = id then (before.slot? other).map change else before.slot? other
  next : after.next = before.next

/-- Whether a request may put in several arrays. -/
def Request.isDeployment : Request → Bool
  | .deploy _ _ => true
  | .allocate _ _ | .install _ _ | .write _ _ _ | .update _ _ => false

section Single

variable {store : ArrayStore}

theorem changesOnly_update (id : ArrayId) (change : Shape → Shape) :
    store.ChangesOnly id change (leftBehind (store.update id change)) := by
  cases updated : store.update id change with
  | ok _ changed =>
      refine ⟨slot?_update updated, ?_⟩
      rw [leftBehind, (update_eq_ok_iff.mp updated).2]
  | error refusal stopped =>
      -- A slot that is not in use stays so.
      obtain ⟨rfl, -, unused⟩ := update_eq_error_iff.mp updated
      refine ⟨fun other => ?_, rfl⟩
      split
      · rename_i same
        rw [contains, Option.isSome_eq_false_iff, Option.isNone_iff_eq_none] at unused
        rw [same, leftBehind, unused]
        rfl
      · rfl

/-- A refusal is that of the operation that was asked for. -/
theorem exists_of_concluded_error {σ α : Type} {returned : α → Option Item} {storeOf : σ → ArrayStore}
    {result : EStateM.Result Refusal σ α} {refusal : Refusal}
    (refused : (concluded returned storeOf result).1 = .error refusal) :
    ∃ stopped, result = .error refusal stopped ∧
      (concluded returned storeOf result).2 = storeOf stopped := by
  cases result with
  | ok value after => cases refused
  | error refusal' stopped =>
      cases refused
      exact ⟨stopped, rfl, rfl⟩

/-- **A refusal leaves the store as it is**, except where a deployment is refused. -/
theorem serve_of_refused {request : Request} {refusal : Refusal} (single : request.isDeployment = false)
    (refused : (store.serve request).1 = .error refusal) : (store.serve request).2 = store := by
  cases request with
  | allocate shape base =>
      obtain ⟨stopped, ran, left⟩ := exists_of_concluded_error refused
      exact left.trans (install_eq_error_iff.mp (allocate_eq_error_iff.mp ran)).1
  | install id shape =>
      obtain ⟨stopped, ran, left⟩ := exists_of_concluded_error refused
      exact left.trans (install_eq_error_iff.mp ran).1
  | deploy item next => cases single
  | write id index ty =>
      obtain ⟨stopped, ran, left⟩ := exists_of_concluded_error refused
      exact left.trans (update_eq_error_iff.mp ran).1
  | update id change =>
      obtain ⟨stopped, ran, left⟩ := exists_of_concluded_error refused
      exact left.trans (update_eq_error_iff.mp ran).1

/-- An id is refused when it is below the next free one, or the last. -/
theorem answer_install (id : ArrayId) (shape : Shape) :
    (store.serve (.install id shape)).1 =
      if id < store.next then .error (.idReused id store.next)
      else if id.val = 4294967295 then .error (.idsExhausted id)
      else .ok none := by
  simp only [serve, install, ← ArrayId.next?_eq_none_iff_val]
  split
  · rfl
  · cases id.next? <;> rfl

/-- Allocation is refused when only the last id is free. -/
theorem answer_allocate (shape : Shape) (base : Ty) :
    (store.serve (.allocate shape base)).1 =
      if store.next.val = 4294967295 then .error (.idsExhausted store.next)
      else .ok (some (.ty (.localArray store.next base))) := by
  have free : ¬ store.next < store.next := by
    rw [ArrayId.lt_iff]
    omega
  simp only [serve, allocate, install, if_neg free, ← ArrayId.next?_eq_none_iff_val]
  cases store.next.next? <;> rfl

end Single

/-- **Array ids go upward, and none is used twice.** Serve any requests, with any arguments, on a store
that was empty; some of them may be refused. At any time

* every id in use lies below the next free one;
* as more requests are served, the next free id does not go down, and no id in use is freed;
* the arrays that were ever put in, deployments included, were put in under ids that go up, and these
  are the ids in use: so no id was taken twice;
* allocation hands out the next free id, so the ids that it hands out go up;
* a write or a change touches the slot that it names, and neither another slot nor the next free id;
* a refusal leaves the store as it is, except that a deployment keeps what was put in until then;
* an id is refused when it is below the next free one, and so is the last id, for which there would be
  no next one. -/
theorem ids_go_upward (earlier later : List Request) :
    let before := (empty.serveAll earlier).2
    let after := (empty.serveAll (earlier ++ later)).2
    let installed := Event.installedIds (empty.logAll (earlier ++ later))
    (∀ id, after.contains id = true → id < after.next) ∧
    before.next.val ≤ after.next.val ∧
    (∀ id, before.contains id = true → after.contains id = true) ∧
    installed.Pairwise (· < ·) ∧
    after.ids = installed ∧
    (empty.handedOut (earlier ++ later)).Pairwise (· < ·) ∧
    (∀ shape base, (after.serve (.allocate shape base)).1 =
      if after.next.val = 4294967295 then .error (.idsExhausted after.next)
      else .ok (some (.ty (.localArray after.next base)))) ∧
    (∀ id index ty, after.ChangesOnly id (fun shape => shape.write index ty)
      (after.serve (.write id index ty)).2) ∧
    (∀ id change, after.ChangesOnly id change (after.serve (.update id change)).2) ∧
    (∀ request refusal, request.isDeployment = false → (after.serve request).1 = .error refusal →
      (after.serve request).2 = after) ∧
    ∀ id shape, (after.serve (.install id shape)).1 =
      if id < after.next then .error (.idReused id after.next)
      else if id.val = 4294967295 then .error (.idsExhausted id)
      else .ok none := by
  intro before after installed
  have whole : empty.Advances installed after := advances_serveAll (earlier ++ later)
  have inOrder : after.ids = installed := whole.ids_eq
  have onward : before.Advances (Event.installedIds (before.logAll later)) after := by
    simp only [after, serveAll_append]
    exact advances_serveAll later
  refine ⟨fun id inUse => ?_, UInt32.le_iff_toNat_le.mpr onward.next_le, fun id => onward.contains,
    whole.upward, inOrder, whole.upward.sublist (handedOut_sublist _), answer_allocate,
    fun id index ty => ?_, fun id change => ?_, fun request refusal => serve_of_refused, answer_install⟩
  · rw [contains_iff_mem_ids, inOrder] at inUse
    exact whole.below id inUse
  · rw [serve_write]
    exact changesOnly_update id _
  · rw [serve_update]
    exact changesOnly_update id change

end ArrayStore

end TypeLattice
