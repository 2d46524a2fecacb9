/-
**No reference dangles, whatever a store is asked to do.**

A store serves requests to allocate, install, deploy, write and change arrays. A request is permitted
where all that is handed in mentions arrays in use. A deployment installs several arrays that refer to
each other and can be refused halfway, with the arrays installed so far left in their slots; each of
them was complete when it was installed, so even then nothing dangles.

* `Intact`: every array mentioned in a slot is in use;
* `Deployment.Secure`: a step of a deployment keeps a store intact, whether it is refused or not, and
  what it returns mentions arrays in use; proved for every deployment (`Item.secure_deploy`);
* `preserves_serve`: one request keeps a store intact and frees no id;
* `serveAll_never_dangles`: after any run of permitted requests the slots and all values that were
  returned mention arrays in use, and every value that mentions such arrays can be resolved.
-/

import TypeLattice.Proofs.Deployment.RoundTrip
import TypeLattice.Proofs.Types.Mentions

namespace TypeLattice

namespace ArrayStore

/-- Every array that is mentioned in a slot is in use. -/
def Intact (store : ArrayStore) : Prop :=
  ∀ id content, store.slot? id = some content → store.Allocates content.mentions

theorem intact_empty : empty.Intact := nofun

/-- A store became another that is intact, and no id in use was freed. -/
structure Preserves (before after : ArrayStore) : Prop where
  retained : ∀ id, (before.slot? id).isSome → (after.slot? id).isSome
  intact : after.Intact

namespace Preserves

variable {before middle after : ArrayStore}

theorem refl (intact : before.Intact) : before.Preserves before :=
  ⟨fun _ inUse => inUse, intact⟩

theorem trans (first : before.Preserves middle) (second : middle.Preserves after) :
    before.Preserves after :=
  ⟨fun id inUse => second.retained id (first.retained id inUse), second.intact⟩

/-- Ids in use stay in use. -/
theorem allocates (preserves : before.Preserves after) {ids : List ArrayId}
    (allocated : before.Allocates ids) : after.Allocates ids :=
  fun id member => preserves.retained id (allocated id member)

end Preserves

variable {store extended changed : ArrayStore} {id : ArrayId} {shape : Shape}

theorem Allocates.subset {ids others : List ArrayId} (allocated : store.Allocates ids)
    (within : others ⊆ ids) : store.Allocates others :=
  fun id member => allocated id (within member)

theorem Allocates.append {ids others : List ArrayId} (first : store.Allocates ids)
    (second : store.Allocates others) : store.Allocates (ids ++ others) :=
  List.forall_mem_append.mpr ⟨first, second⟩

/-- To put in an array that mentions arrays in use keeps a store intact. -/
theorem Intact.install (intact : store.Intact) (allocated : store.Allocates shape.mentions)
    (installed : store.install id shape = .ok () extended) :
    store.Preserves extended ∧ extended.Allocates [id] := by
  have slots := slot?_install installed
  have retained : ∀ other, (store.slot? other).isSome → (extended.slot? other).isSome := by
    intro other inUse
    rw [slots]
    split
    · rfl
    · exact inUse
  refine ⟨⟨retained, fun other content held => ?_⟩, fun other member => ?_⟩
  · rw [slots] at held
    split at held
    · obtain rfl := Option.some.inj held
      exact fun mentioned member => retained mentioned (allocated mentioned member)
    · exact fun mentioned member => retained mentioned (intact other content held mentioned member)
  · rw [List.mem_singleton.mp member, slots, if_pos rfl]
    rfl

/-- To change an array into one that mentions arrays in use keeps a store intact. -/
theorem Intact.update {change : Shape → Shape} (intact : store.Intact)
    (allocated : ∀ content, store.slot? id = some content → store.Allocates (change content).mentions)
    (updated : store.update id change = .ok () changed) : store.Preserves changed := by
  have slots := slot?_update updated
  have retained : ∀ other, (store.slot? other).isSome → (changed.slot? other).isSome := by
    intro other inUse
    rw [slots]
    split
    · rwa [Option.isSome_map]
    · exact inUse
  refine ⟨retained, fun other content held mentioned member => retained mentioned ?_⟩
  rw [slots] at held
  split at held
  · rename_i same
    obtain ⟨old, found, rfl⟩ := Option.map_eq_some_iff.mp held
    rw [same] at found
    exact allocated old found mentioned member
  · exact intact other content held mentioned member

/-- A store that refuses to put an array in, or to change one, is as intact as before. -/
theorem Intact.refused_install {stopped : ArrayStore} {refusal : Refusal} (intact : store.Intact)
    (refused : store.install id shape = .error refusal stopped) : store.Preserves stopped := by
  obtain ⟨rfl, -⟩ := install_eq_error_iff.mp refused
  exact .refl intact

theorem Intact.refused_update {change : Shape → Shape} {stopped : ArrayStore} {refusal : Refusal}
    (intact : store.Intact) (refused : store.update id change = .error refusal stopped) :
    store.Preserves stopped := by
  obtain ⟨rfl, -⟩ := update_eq_error_iff.mp refused
  exact .refl intact

end ArrayStore

/-! ### Deployments, refused or not -/

namespace Deployment

/-- A step of a deployment that may rely on the arrays `given` being in use. Whether it is refused or
not, the store stays intact and no id is freed; if it returns, its result mentions arrays in use. -/
def Secure {α : Type} (given : List ArrayId) (step : DeployM ArrayStore α)
    (mentions : α → List ArrayId) : Prop :=
  ∀ before : Deployment ArrayStore, before.store.Intact → before.store.Allocates given →
    match step before with
    | .ok result after =>
        before.store.Preserves after.store ∧ after.store.Allocates (mentions result)
    | .error _ after => before.store.Preserves after.store

namespace Secure

variable {α β : Type} {given larger : List ArrayId} {step : DeployM ArrayStore α}
  {mentions : α → List ArrayId}

theorem pure {value : α} (within : mentions value ⊆ given) :
    Secure given (Pure.pure value : DeployM ArrayStore α) mentions :=
  fun _ intact allocated => ⟨.refl intact, allocated.subset within⟩

theorem mono (secure : Secure given step mentions) (within : given ⊆ larger) :
    Secure larger step mentions :=
  fun before intact allocated => secure before intact (allocated.subset within)

/-- What follows a step may rely on what the step returned as well. -/
theorem bind {next : α → DeployM ArrayStore β} {mentions' : β → List ArrayId}
    (first : Secure given step mentions)
    (second : ∀ value, Secure (mentions value ++ given) (next value) mentions') :
    Secure given (step >>= next) mentions' := by
  intro before intact allocated
  have afterFirst := first before intact allocated
  show match EStateM.bind step next before with
    | .ok result after => _
    | .error _ after => _
  unfold EStateM.bind
  cases ran : step before with
  | error refusal stopped =>
      rw [ran] at afterFirst
      exact afterFirst
  | ok value middle =>
      rw [ran] at afterFirst
      obtain ⟨preserved, returned⟩ := afterFirst
      have afterSecond := second value middle preserved.intact
        (returned.append (preserved.allocates allocated))
      show match next value middle with
        | .ok result after => _
        | .error _ after => _
      cases ranNext : next value middle with
      | error refusal stopped =>
          rw [ranNext] at afterSecond
          exact preserved.trans afterSecond
      | ok result after =>
          rw [ranNext] at afterSecond
          exact ⟨preserved.trans afterSecond.1, afterSecond.2⟩

end Secure

/-- To place an array that mentions arrays in use is secure. -/
theorem secure_place (shape : Shape) : Secure shape.mentions (place shape) (fun id => [id]) := by
  intro before intact allocated
  simp only [place]
  cases installed : ArraySpace.install before.store before.next shape with
  | error refusal store => exact intact.refused_install installed
  | ok _ store =>
      obtain ⟨preserved, inUse⟩ := intact.install allocated installed
      cases before.next.next? with
      | none => exact preserved
      | some next => exact ⟨preserved, inUse⟩

end Deployment

section Deploying

open Deployment

mutual

/-- **The deployment of a type is secure.** -/
theorem Ty.secure_deploy (ty : Ty) : Secure ty.mentions ty.deploy Ty.mentions := by
  cases ty with
  | array shape base =>
      have inShape : shape.mentions ⊆ (Ty.array shape base).mentions := List.subset_append_left _ _
      have inBase : base.mentions ⊆ (Ty.array shape base).mentions := List.subset_append_right _ _
      refine .bind ((Shape.secure_deploy shape).mono inShape) fun content => ?_
      refine .bind ((secure_place content).mono (List.subset_append_left _ _)) fun id => .pure ?_
      exact List.cons_subset_cons id (List.subset_append_of_subset_right content.mentions inBase)
  | any | classObject | instanceOf | code | closure | typedClosure | literal | localArray =>
      exact .pure (List.Subset.refl _)
termination_by structural ty

theorem TyUnion.secure_deploy (union : TyUnion) :
    Secure union.mentions union.deploy TyUnion.mentions := by
  obtain ⟨members⟩ := union
  rw [TyUnion.deploy]
  split
  · refine .bind (Ty.secure_deployAll members) fun deployed => .pure fun id mentioned => ?_
    exact List.mem_append_left _ (TyUnion.mem_mentions_ofList mentioned)
  · exact .pure (List.Subset.refl _)
termination_by structural union

theorem Shape.secure_deploy (shape : Shape) : Secure shape.mentions shape.deploy Shape.mentions := by
  cases shape with
  | seq elem =>
      exact .bind (TyUnion.secure_deploy elem) fun deployed => .pure (List.subset_append_left _ _)
  | tuple elems =>
      exact .bind (TyUnion.secure_deployAll elems) fun deployed => .pure (List.subset_append_left _ _)
termination_by structural shape

theorem Ty.secure_deployAll (types : List Ty) :
    Secure (Ty.mentionsOfAll types) (Ty.deployAll types) Ty.mentionsOfAll := by
  cases types with
  | nil => exact .pure (List.Subset.refl _)
  | cons ty rest =>
      have inFirst : ty.mentions ⊆ Ty.mentionsOfAll (ty :: rest) := List.subset_append_left _ _
      have inRest : Ty.mentionsOfAll rest ⊆ Ty.mentionsOfAll (ty :: rest) :=
        List.subset_append_right _ _
      refine .bind ((Ty.secure_deploy ty).mono inFirst) fun first => ?_
      refine .bind ((Ty.secure_deployAll rest).mono (List.subset_append_of_subset_right _ inRest))
        fun others => .pure (List.append_subset.mpr ⟨?_, List.subset_append_left _ _⟩)
      exact List.subset_append_of_subset_right _ (List.subset_append_left _ _)
termination_by structural types

theorem TyUnion.secure_deployAll (unions : List TyUnion) :
    Secure (TyUnion.mentionsOfAll unions) (TyUnion.deployAll unions) TyUnion.mentionsOfAll := by
  cases unions with
  | nil => exact .pure (List.Subset.refl _)
  | cons union rest =>
      have inFirst : union.mentions ⊆ TyUnion.mentionsOfAll (union :: rest) :=
        List.subset_append_left _ _
      have inRest : TyUnion.mentionsOfAll rest ⊆ TyUnion.mentionsOfAll (union :: rest) :=
        List.subset_append_right _ _
      refine .bind ((TyUnion.secure_deploy union).mono inFirst) fun first => ?_
      refine .bind ((TyUnion.secure_deployAll rest).mono (List.subset_append_of_subset_right _ inRest))
        fun others => .pure (List.append_subset.mpr ⟨?_, List.subset_append_left _ _⟩)
      exact List.subset_append_of_subset_right _ (List.subset_append_left _ _)
termination_by structural unions

end

theorem Item.secure_deploy (item : Item) : Secure item.mentions item.deploy Item.mentions := by
  cases item with
  | ty value =>
      rw [Item.deploy, map_eq_pure_bind]
      exact .bind (Ty.secure_deploy value) fun deployed => .pure (List.subset_append_left _ _)
  | union value =>
      rw [Item.deploy, map_eq_pure_bind]
      exact .bind (TyUnion.secure_deploy value) fun deployed => .pure (List.subset_append_left _ _)
  | shape value =>
      rw [Item.deploy, map_eq_pure_bind]
      exact .bind (Shape.secure_deploy value) fun deployed => .pure (List.subset_append_left _ _)

end Deploying

/-! ### Requests -/

namespace ArrayStore

/-- Something that a store can be asked to do. -/
inductive Request where
  /-- Put an array into the next free slot, and return a local array with the given base. -/
  | allocate (shape : Shape) (base : Ty)
  /-- Put an array into the slot `id`. -/
  | install (id : ArrayId) (shape : Shape)
  /-- Deploy an item, with `next` for the first array, and return the deployed item. -/
  | deploy (item : Item) (next : ArrayId)
  /-- Write an element of an array. -/
  | write (id : ArrayId) (index : Option Nat) (ty : Ty)
  /-- Change the shape in a slot. -/
  | update (id : ArrayId) (change : Shape → Shape)

/-- What a store answers: a refusal, or the item it returns, if there is one. -/
abbrev Answer := Except Refusal (Option Item)

/-- The answer to a request, and the store that it leaves, from the state it leaves. -/
def concluded {σ α : Type} (returned : α → Option Item) (storeOf : σ → ArrayStore) :
    EStateM.Result Refusal σ α → Answer × ArrayStore
  | .ok value after => (.ok (returned value), storeOf after)
  | .error refusal stopped => (.error refusal, storeOf stopped)

/-- Serve a request. -/
def serve (store : ArrayStore) : Request → Answer × ArrayStore
  | .allocate shape base => concluded (fun handle => some (.ty handle)) id (store.allocate shape base)
  | .install key shape => concluded (fun _ => none) id (store.install key shape)
  | .deploy item next => concluded some Deployment.store (item.deploy (.start store next))
  | .write key index ty => concluded (fun _ => none) id (store.writeElement key index ty)
  | .update key change => concluded (fun _ => none) id (store.update key change)

/-- Serve requests in turn. -/
def serveAll (store : ArrayStore) : List Request → List Answer × ArrayStore
  | [] => ([], store)
  | request :: rest =>
    let (answer, next) := store.serve request
    let (answers, last) := next.serveAll rest
    (answer :: answers, last)

/-- All that a request hands in mentions arrays in use; so does the shape that a change gives. -/
def Permits (store : ArrayStore) : Request → Prop
  | .allocate shape base => store.Allocates (shape.mentions ++ base.mentions)
  | .install _ shape => store.Allocates shape.mentions
  | .deploy item _ => store.Allocates item.mentions
  | .write _ _ ty => store.Allocates ty.mentions
  | .update id change =>
    ∀ content, store.slot? id = some content → store.Allocates (change content).mentions

/-- Each of the requests is permitted when it is served. -/
def PermitsAll (store : ArrayStore) : List Request → Prop
  | [] => True
  | request :: rest => store.Permits request ∧ (store.serve request).2.PermitsAll rest

/-- The arrays that an answer mentions. -/
def Answer.mentions : Answer → List ArrayId
  | .ok (some item) => item.mentions
  | .ok none | .error _ => []

section Serving

variable {store : ArrayStore}

/-- A request keeps a store intact if it does so when it is served and when it is refused. -/
theorem preserves_concluded {σ α : Type} {returned : α → Option Item} {storeOf : σ → ArrayStore}
    {result : EStateM.Result Refusal σ α}
    (served : ∀ value after, result = .ok value after → store.Preserves (storeOf after) ∧
      (storeOf after).Allocates (Answer.mentions (.ok (returned value))))
    (refused : ∀ refusal stopped, result = .error refusal stopped → store.Preserves (storeOf stopped)) :
    store.Preserves (concluded returned storeOf result).2 ∧
      (concluded returned storeOf result).2.Allocates (concluded returned storeOf result).1.mentions := by
  cases result with
  | ok value after => exact served value after rfl
  | error refusal stopped => exact ⟨refused refusal stopped rfl, nofun⟩

/-- **A permitted request keeps a store intact**, whether it is refused or not; it frees no id, and
what it returns mentions arrays in use. -/
theorem preserves_serve {request : Request} (intact : store.Intact) (permitted : store.Permits request) :
    store.Preserves (store.serve request).2 ∧
      (store.serve request).2.Allocates (store.serve request).1.mentions := by
  cases request with
  | allocate shape base =>
      obtain ⟨inShape, inBase⟩ := List.forall_mem_append.mp permitted
      refine preserves_concluded (fun handle extended allocated => ?_) fun _ _ refused =>
        intact.refused_install (allocate_eq_error_iff.mp refused)
      obtain ⟨installed, rfl⟩ := allocate_eq_ok_iff.mp allocated
      obtain ⟨preserved, inUse⟩ := intact.install inShape installed
      exact ⟨preserved, inUse.append (preserved.allocates inBase)⟩
  | install id shape =>
      refine preserves_concluded (fun _ extended installed => ?_) fun _ _ => intact.refused_install
      exact ⟨(intact.install permitted installed).1, nofun⟩
  | deploy item next =>
      have secure := item.secure_deploy (.start store next) intact permitted
      refine preserves_concluded (fun deployed finished ran => ?_) fun refusal stopped ran => ?_
      · rwa [ran] at secure
      · rwa [ran] at secure
  | write id index ty =>
      refine preserves_concluded (fun _ changed written => ?_) fun _ _ => intact.refused_update
      refine ⟨intact.update (fun content held mentioned member => ?_) written, nofun⟩
      rcases Shape.mem_mentions_write member with old | new
      · exact intact id content held mentioned old
      · exact permitted mentioned new
  | update id change =>
      refine preserves_concluded (fun _ changed updated => ?_) fun _ _ => intact.refused_update
      exact ⟨intact.update permitted updated, nofun⟩

/-- **What one request preserves, a run of them preserves.** -/
theorem preserves_serveAll {requests : List Request} (intact : store.Intact)
    (permitted : store.PermitsAll requests) :
    store.Preserves (store.serveAll requests).2 ∧
      ∀ answer ∈ (store.serveAll requests).1, (store.serveAll requests).2.Allocates answer.mentions := by
  induction requests generalizing store with
  | nil => exact ⟨.refl intact, nofun⟩
  | cons request rest ih =>
      obtain ⟨preserved, returned⟩ := preserves_serve intact permitted.1
      obtain ⟨preservedRest, returnedRest⟩ := ih preserved.intact permitted.2
      refine ⟨preserved.trans preservedRest, fun answer member => ?_⟩
      rcases List.mem_cons.mp member with rfl | later
      · exact preservedRest.allocates returned
      · exact returnedRest answer later

theorem serveAll_append (store : ArrayStore) (earlier later : List Request) :
    store.serveAll (earlier ++ later) =
      ((store.serveAll earlier).1 ++ ((store.serveAll earlier).2.serveAll later).1,
        ((store.serveAll earlier).2.serveAll later).2) := by
  induction earlier generalizing store with
  | nil => rfl
  | cons request rest ih => simp only [List.cons_append, serveAll, ih]

/-- Where nothing dangles, what is in use leads only to what is in use. -/
theorem Intact.allocated (intact : store.Intact) :
    Resolver.Allocated store.slot? (fun id => (store.slot? id).isSome) := by
  refine Item.allocated_of_isClosed fun id content held => ?_
  exact (intact id content held).subset (Shape.handles_subset_mentions content)

end Serving

/-- **No reference dangles over a whole run.** Take any run of permitted requests on a store that was
empty, served or refused. Wherever the run has got to, every array mentioned in a slot is in use, and
so is every array mentioned in an item that was returned up to then or before some later requests. An
item that mentions only arrays in use is resolved without a violation, within any limits. -/
theorem serveAll_never_dangles (earlier later : List Request)
    (permitted : empty.PermitsAll (earlier ++ later)) :
    let store := (empty.serveAll (earlier ++ later)).2
    store.Intact ∧
      (∀ answer ∈ (empty.serveAll earlier).1, ∀ id ∈ answer.mentions, store.contains id = true) ∧
      ∀ (item : Item) (limits : Limits), (∀ id ∈ item.mentions, store.contains id = true) →
        ∃ result log, Resolver.run limits (item.resolve store.slot?) = (.ok result, log) := by
  obtain ⟨preserved, returned⟩ := preserves_serveAll intact_empty permitted
  refine ⟨preserved.intact, fun answer member => returned answer ?_, fun item limits inUse => ?_⟩
  · rw [serveAll_append]
    exact List.mem_append_left _ member
  · obtain ⟨result, after, resolved⟩ := Item.exists_resolve_eq_ok preserved.intact.allocated
      (Resolver.atRest_start limits) fun id met => inUse id (item.handles_subset_mentions met)
    exact ⟨result, after.log, Item.run_eq_ok resolved⟩

/-- An array that is made to hold itself, and then a deployment of an array in an array that runs out of
ids after the inner one. -/
def brokenOff : List Request :=
  [.allocate .emptySeq .any, .write ⟨0⟩ none (.localArray ⟨0⟩ .any),
    .deploy (.ty (.array (.seq ⟨[.array (.seq ⟨[.localArray ⟨0⟩ .any]⟩) .any]⟩) .any)) ⟨4294967294⟩]

/-- The inner array stays behind. -/
def afterBrokenOff : ArrayStore where
  slots :=
    [(⟨4294967294⟩, .seq ⟨[.localArray ⟨0⟩ .any]⟩), (⟨0⟩, .seq ⟨[.localArray ⟨0⟩ .any]⟩)]
  next := ⟨4294967295⟩

theorem serveAll_brokenOff : empty.serveAll brokenOff =
    ([.ok (some (.ty (.localArray ⟨0⟩ .any))), .ok none, .error (.idsExhausted ⟨4294967295⟩)],
      afterBrokenOff) := by
  rfl

theorem permitsAll_brokenOff : empty.PermitsAll brokenOff := by
  refine ⟨nofun, ?_, ?_, trivial⟩
  · intro id member
    rw [List.mem_singleton.mp member]
    rfl
  · intro id member
    rw [List.mem_singleton.mp member]
    rfl

/-- The array that stays behind, and the one that holds itself, are resolved. -/
theorem brokenOff_never_dangles :
    afterBrokenOff.Intact ∧ afterBrokenOff.contains ⟨0⟩ = true ∧
      ∃ result log, Resolver.run ⟨2, 3⟩
        (Item.resolve afterBrokenOff.slot? (.ty (.localArray ⟨4294967294⟩ .any))) = (.ok result, log) := by
  obtain ⟨intact, returned, resolved⟩ := serveAll_never_dangles brokenOff [] permitsAll_brokenOff
  rw [List.append_nil, serveAll_brokenOff] at intact returned resolved
  refine ⟨intact, returned _ List.mem_cons_self ⟨0⟩ List.mem_cons_self, resolved _ _ fun id member => ?_⟩
  rw [List.mem_singleton.mp member]
  rfl

end ArrayStore

end TypeLattice
