/-
**Resolution reads the arrays that can be reached, and no others.**

A resolver looks up the slots of the arrays that it meets. Where two assignments of slots agree on the
arrays that can be reached from a value, it goes the same way in both: not only the result is the same,
but the violation if there is one, the attempts, the limits that were hit and the log as well. So a
store may be asked to do whatever it likes to other arrays.

* `Resolver.visit_congr`, `Item.resolve_congr`: resolution depends on the arrays that are reached;
* `Visits.transfer`: visits go the same way where the arrays in use keep their content;
* `ArrayStore.Retains`: arrays in use keep their content. A request that changes another array has this
  property (`ArrayStore.retains_serve`), and so has a run of them (`ArrayStore.retains_serveAll`);
* `Item.resolution_is_local`: what this says about the resolution of a value.
-/

import TypeLattice.Proofs.Resolution.OrderFree
import TypeLattice.Proofs.Store.Numbering

namespace TypeLattice

/-! ### Slots that agree -/

namespace Resolver

variable {slots slots' : ArrayId → Option Shape}

theorem visitAll_congr {visit visit' : ArrayId → ResolveM (Option Shape)} {ids : List ArrayId}
    (agree : ∀ id ∈ ids, visit' id = visit id) : visitAll visit' ids = visitAll visit ids := by
  induction ids with
  | nil => rfl
  | cons id rest ih =>
      obtain ⟨here, later⟩ := List.forall_mem_cons.mp agree
      rw [visitAll, visitAll, here, ih later]

/-- **A visit depends on the slots that can be reached from its array.** -/
theorem visit_congr {root : ArrayId}
    (agree : ∀ id, Relation.ReflTransGen (Refers slots) root id → slots' id = slots id) (room : Nat) :
    visit slots' room root = visit slots room root := by
  induction room generalizing root with
  | zero => rfl
  | succ room ih =>
      funext resolver
      simp only [visit]
      rw [agree root .refl]
      cases held : slots root with
      | none => rfl
      | some content =>
          -- What is met in the content of an array is reached through the array.
          have inside : content.resolveWith (visit slots' room) =
              content.resolveWith (visit slots room) := by
            rw [Shape.resolveWith_eq_map, Shape.resolveWith_eq_map, visitAll_congr]
            intro handle member
            exact ih fun id path => agree id (path.head ⟨content, held, member⟩)
          simp only [inside]

/-- **Visits go the same way where the arrays in use keep their content.** Arrays that were missing may
have been put in: the visits did not come to them. -/
theorem Visits.transfer {met : Set ArrayId} {before after : Resolver} {ids : List ArrayId}
    {answers : List (Option Shape)} (visits : Visits slots before ids answers after)
    (closed : ∀ id ∈ met, ∀ handle, Refers slots id handle → handle ∈ met)
    (kept : ∀ id ∈ met, ∀ content, slots id = some content → slots' id = some content)
    (asked : ∀ id ∈ ids, id ∈ met) : Visits slots' before ids answers after := by
  induction visits with
  | done resolver => exact .done resolver
  | known found _ ih => exact .known found (ih (List.forall_mem_cons.mp asked).2)
  | cycle unknown budget onPath _ ih =>
      exact .cycle unknown budget onPath (ih (List.forall_mem_cons.mp asked).2)
  | limit unknown refused _ ih => exact .limit unknown refused (ih (List.forall_mem_cons.mp asked).2)
  | @entered resolver finished after id content ids inner answers unknown budget offPath shallow held
      _ _ deeper ih =>
      obtain ⟨inMet, askedLater⟩ := List.forall_mem_cons.mp asked
      have contentAsked : ∀ handle ∈ content.handles, handle ∈ met :=
        fun handle member => closed id inMet handle ⟨content, held, member⟩
      exact .entered unknown budget offPath shallow (kept id inMet content held) (deeper contentAsked)
        (ih askedLater)

end Resolver

namespace Item

open Resolver

variable {slots slots' : ArrayId → Option Shape} {item result : Item}

/-- **Resolution depends on the slots that are reached.** -/
theorem resolve_congr (agree : ∀ id ∈ reached slots [item], slots' id = slots id) :
    item.resolve slots' = item.resolve slots := by
  funext resolver
  rw [resolve_eq_map, resolve_eq_map, visitAll_congr]
  intro root isHandle
  exact visit_congr (fun id path => agree id ⟨item, List.mem_cons_self, root, isHandle, path⟩) _

theorem reached_subset (agree : ∀ id ∈ reached slots [item], slots' id = slots id) :
    reached slots' [item] ⊆ reached slots [item] := by
  rintro id ⟨holder, member, root, isHandle, path⟩
  obtain rfl := List.mem_singleton.mp member
  induction path with
  | refl => exact handles_subset_reached slots isHandle
  | tail _ refers ih =>
      obtain ⟨content, held, inContent⟩ := refers
      rw [agree _ ih] at held
      exact refers_mem_reached ih ⟨content, held, inContent⟩

/-- Slots that agree on the arrays that are reached lead to the same arrays. -/
theorem reached_congr (agree : ∀ id ∈ reached slots [item], slots' id = slots id) :
    reached slots' [item] = reached slots [item] := by
  have within := reached_subset agree
  apply within.antisymm
  exact reached_subset fun id isReached => (agree id (within isReached)).symm

/-- A result stays where the arrays in use that are reached keep their content. -/
theorem resolve_of_kept {limits : Limits} {last : Resolver}
    (kept : ∀ id ∈ reached slots [item], ∀ content, slots id = some content → slots' id = some content)
    (resolved : item.resolve slots (start limits) = .ok result last) :
    item.resolve slots' (start limits) = .ok result last := by
  rw [resolve_eq_ok_iff (atRest_start limits)] at resolved ⊢
  obtain ⟨answers, visits, filled⟩ := resolved
  refine ⟨answers, visits.transfer (fun _ isReached _ => refers_mem_reached isReached) kept ?_, filled⟩
  exact fun _ isHandle => handles_subset_reached slots isHandle

end Item

/-! ### Requests that leave arrays alone -/

namespace ArrayStore

/-- The array that a request changes, if it is in use. The others only put arrays in. -/
def Request.changed? : Request → Option ArrayId
  | .allocate _ _ | .install _ _ | .deploy _ _ => none
  | .write id _ _ | .update id _ => some id

/-- Those of the arrays `met` that were in use still have their content. -/
structure Retains (met : Set ArrayId) (before after : ArrayStore) : Prop where
  bounded : after.Bounded
  kept : ∀ id ∈ met, ∀ content, before.slot? id = some content → after.slot? id = some content

variable {met : Set ArrayId} {store before middle after : ArrayStore}

namespace Retains

theorem refl (bounded : store.Bounded) : Retains met store store :=
  ⟨bounded, fun _ _ _ held => held⟩

theorem trans (first : Retains met before middle) (second : Retains met middle after) :
    Retains met before after :=
  ⟨second.bounded, fun id inMet content held =>
    second.kept id inMet content (first.kept id inMet content held)⟩

end Retains

/-- To put an array in changes no array. -/
theorem retains_of_install {id : ArrayId} {shape : Shape} (bounded : store.Bounded)
    (installed : store.install id shape = .ok () after) : Retains met store after :=
  ⟨bounded.install installed, fun _ _ _ held => (grows_of_install bounded installed).slot?_eq_some held⟩

theorem retains_install (bounded : store.Bounded) (id : ArrayId) (shape : Shape) :
    Retains met store (leftBehind (store.install id shape)) := by
  cases installed : store.install id shape with
  | error refusal stopped =>
      obtain ⟨rfl, -⟩ := install_eq_error_iff.mp installed
      exact .refl bounded
  | ok _ extended => exact retains_of_install bounded installed

theorem retains_of_placement {before after : Deployment ArrayStore} (bounded : before.store.Bounded)
    (placed : Deployment.Placement before after) : Retains met before.store after.store := by
  obtain ⟨shape, rfl⟩ := placed
  simp only [Deployment.place]
  cases installed : ArraySpace.install before.store before.next shape with
  | error refusal stopped =>
      obtain ⟨rfl, -⟩ := install_eq_error_iff.mp installed
      exact .refl bounded
  | ok _ extended => cases before.next.next? <;> exact retains_of_install bounded installed

/-- What one placement leaves alone, a series of them leaves alone. -/
theorem retains_of_placements {before after : Deployment ArrayStore} (bounded : before.store.Bounded)
    (placed : Relation.ReflTransGen Deployment.Placement before after) :
    Retains met before.store after.store := by
  induction placed with
  | refl => exact .refl bounded
  | tail _ last ih => exact ih.trans (retains_of_placement ih.bounded last)

theorem ChangesOnly.retains {id : ArrayId} {change : Shape → Shape}
    (changes : before.ChangesOnly id change after) (bounded : before.Bounded) (apart : id ∉ met) :
    Retains met before after := by
  constructor
  · intro other content held
    rw [changes.slots] at held
    rw [changes.next]
    split at held
    · obtain ⟨old, found, -⟩ := Option.map_eq_some_iff.mp held
      exact bounded other old found
    · exact bounded other content held
  · intro other inMet content held
    have different : other ≠ id := fun same => apart (same ▸ inMet)
    rw [changes.slots, if_neg different, held]

/-- **A request leaves alone all arrays but the one that it changes**, whether it is refused or not. -/
theorem retains_serve (bounded : store.Bounded) (request : Request)
    (apart : ∀ id, request.changed? = some id → id ∉ met) :
    Retains met store (store.serve request).2 := by
  cases request with
  | allocate shape base =>
      rw [serve_allocate]
      exact retains_install bounded store.next shape
  | install id shape =>
      rw [serve_install]
      exact retains_install bounded id shape
  | deploy item next =>
      rw [serve_deploy]
      exact retains_of_placements bounded (item.onlyPlaces_deploy (.start store next))
  | write id index ty =>
      rw [serve_write]
      exact (changesOnly_update id fun shape => shape.write index ty).retains bounded (apart id rfl)
  | update id change =>
      rw [serve_update]
      exact (changesOnly_update id change).retains bounded (apart id rfl)

/-- **What single requests leave alone, a run of them leaves alone.** -/
theorem retains_serveAll (bounded : store.Bounded) (requests : List Request)
    (apart : ∀ request ∈ requests, ∀ id, request.changed? = some id → id ∉ met) :
    Retains met store (store.serveAll requests).2 := by
  induction requests generalizing store with
  | nil => exact .refl bounded
  | cons request rest ih =>
      obtain ⟨apartHere, apartLater⟩ := List.forall_mem_cons.mp apart
      have first := retains_serve bounded request apartHere
      exact first.trans (ih first.bounded apartLater)

theorem bounded_serveAll (requests : List Request) : (empty.serveAll requests).2.Bounded := by
  have retains : Retains ∅ empty (empty.serveAll requests).2 :=
    retains_serveAll Built.empty.bounded requests fun _ _ id _ => Set.notMem_empty id
  exact retains.bounded

end ArrayStore

/-! ### What a value resolves to -/

namespace Item

open ArrayStore Resolver

/-- **Resolution is local.** Let two assignments of slots agree on the arrays that are reached from an
item in the first: the same content, with the members of unions in the same order, or none in both.
Then the same arrays are reached in the second, and any resolver does the same in both. It returns the
same result or stops at the same violation, and has made the same attempts, hit the same limits and
written the same log.

Let a store have served any requests, and let it serve more, none of which writes to an array that is
reached or changes it; they may put in any number of arrays. Then

* an item that was resolved by a fresh resolver is resolved by it to the same result in the same way;
* unless an array that is reached and was missing has been put in, the item is resolved in the same
  way by any resolver, also where that comes to a violation. -/
theorem resolution_is_local (item : Item) :
    (∀ slots slots' : ArrayId → Option Shape, (∀ id ∈ reached slots [item], slots' id = slots id) →
      reached slots' [item] = reached slots [item] ∧ item.resolve slots' = item.resolve slots) ∧
    ∀ earlier later : List Request,
      let before := (ArrayStore.empty.serveAll earlier).2
      let after := (before.serveAll later).2
      let met := reached before.slot? [item]
      (∀ request ∈ later, ∀ id, request.changed? = some id → id ∉ met) →
      (∀ limits result last, item.resolve before.slot? (start limits) = .ok result last →
        item.resolve after.slot? (start limits) = .ok result last) ∧
      ((∀ id ∈ met, after.contains id = true → before.contains id = true) →
        item.resolve after.slot? = item.resolve before.slot?) := by
  refine ⟨fun slots slots' agree => ⟨reached_congr agree, resolve_congr agree⟩, ?_⟩
  intro earlier later before after met apart
  have retains : Retains met before after := retains_serveAll (bounded_serveAll earlier) later apart
  refine ⟨fun limits result last => resolve_of_kept retains.kept, fun noneAdded => ?_⟩
  apply resolve_congr
  intro id isReached
  cases held : before.slot? id with
  | some content => exact retains.kept id isReached content held
  | none =>
      rw [← Option.not_isSome_iff_eq_none]
      intro inUse
      have inUseBefore : (before.slot? id).isSome := noneAdded id isReached inUse
      rw [held] at inUseBefore
      cases inUseBefore

/-- Two arrays are put in. The first holds itself. -/
def twoAllocations : List Request :=
  [.allocate (.seq ⟨[.localArray ⟨0⟩ .any]⟩) .any, .allocate .emptySeq .any]

/-- The second array is written to, and made to hold the first, and two more are put in. -/
def unrelatedRequests : List Request :=
  [.write ⟨1⟩ none (.localArray ⟨0⟩ .any), .allocate .emptySeq .any, .install ⟨7⟩ .emptySeq]

theorem reached_twoAllocations {id : ArrayId}
    (isReached : id ∈ reached (ArrayStore.empty.serveAll twoAllocations).2.slot?
      [.ty (.localArray ⟨0⟩ .any)]) : id = ⟨0⟩ := by
  obtain ⟨holder, member, root, isHandle, path⟩ := isReached
  obtain rfl := List.mem_singleton.mp member
  induction path with
  | refl => exact List.mem_singleton.mp isHandle
  | tail _ refers ih =>
      obtain ⟨content, held, inContent⟩ := refers
      rw [ih] at held
      obtain rfl := Option.some.inj held
      exact List.mem_singleton.mp inContent

/-- The array that holds itself is resolved in the same way afterwards. -/
theorem resolution_is_local_unrelated :
    let before := (ArrayStore.empty.serveAll twoAllocations).2
    let after := (before.serveAll unrelatedRequests).2
    let item := Item.ty (.localArray ⟨0⟩ .any)
    (∃ result last, item.resolve before.slot? (start .resolution) = .ok result last ∧
      item.resolve after.slot? (start .resolution) = .ok result last) ∧
    item.resolve after.slot? = item.resolve before.slot? := by
  intro before after item
  have apart : ∀ request ∈ unrelatedRequests, ∀ id, request.changed? = some id →
      id ∉ reached before.slot? [item] := by
    intro request member id changes isReached
    rw [reached_twoAllocations isReached] at changes
    revert request
    decide
  have resolved : item.resolve before.slot? (start .resolution) = .ok _ _ := rfl
  obtain ⟨same, alike⟩ := (resolution_is_local item).2 twoAllocations unrelatedRequests apart
  refine ⟨⟨_, _, resolved, same _ _ _ resolved⟩, alike fun id isReached _ => ?_⟩
  rw [reached_twoAllocations isReached]
  rfl

end Item

end TypeLattice
