/-
**Resolution undoes deployment.**

A resolver that works on a deployed value enters the arrays that were deployed, one inside the other,
where a resolver that works on the value itself goes through their shapes. Beneath them both meet the
same arrays. The deployed arrays are new, so nothing leads back to them; each is met once, and it is
kept when it is left. So the resolver on the deployed value retraces what the other one does:

* `Abreast`: the states of the two resolvers between two members of a value;
* `Retraces`: what the one has visited the other has visited too, with answers that fill the value
  alike;
* `Ty.retraces`, `TyUnion.retraces`, `Shape.retraces`: by induction on the value;
* `Item.resolve_deploy`: what is deployed is resolved to what it was deployed from.
-/

import TypeLattice.Proofs.Deployment.Placement
import TypeLattice.Proofs.Resolution.Beneath
import TypeLattice.Proofs.Resolution.Unchanged

namespace TypeLattice

namespace Resolver

/-- The slots `larger` hold what `slots` hold for the arrays `own`, which lead to each other only. -/
structure Enlarges (own : ArrayId → Prop) (slots larger : ArrayId → Option Shape) : Prop where
  allocated : Allocated slots own
  agree : ∀ id, own id → larger id = slots id

/-- `nested` has entered the arrays `outer`, which are not `own`, and `alone` none. -/
structure Abreast (own : ArrayId → Prop) (outer : List ArrayId) (alone nested : Resolver) : Prop where
  beneath : Beneath own outer alone nested
  atRest : alone.AtRest
  outside : ∀ id ∈ outer, ¬ own id

/-- The arrays `ids` are not `own`, and the resolver has not met them. -/
structure Unmet (own : ArrayId → Prop) (resolver : Resolver) (ids : List ArrayId) : Prop where
  once : ids.Nodup
  foreign : ∀ id ∈ ids, ¬ own id
  unknown : ∀ id ∈ ids, resolver.resolved.lookup id = none
  offPath : ∀ id ∈ ids, id ∉ resolver.guard.stack

/-- Of the arrays that are not `own`, at most the arrays `ids` became known. -/
def LearnsOnly (own : ArrayId → Prop) (ids : List ArrayId) (before after : Resolver) : Prop :=
  ∀ id, ¬ own id → id ∉ ids → after.resolved.lookup id = before.resolved.lookup id

/-- While `nested` went on to `after` and met the arrays `ids`, the resolver `alone` can visit
`handles`, and its answers are as wanted. -/
def Retraces (slots : ArrayId → Option Shape) (own : ArrayId → Prop) (outer ids : List ArrayId)
    (alone nested after : Resolver) (handles : List ArrayId)
    (wanted : List (Option Shape) → Prop) : Prop :=
  ∃ answers aloneAfter, Visits slots alone handles answers aloneAfter ∧
    Abreast own outer aloneAfter after ∧ LearnsOnly own ids nested after ∧ wanted answers

section Steps

variable {slots larger : ArrayId → Option Shape} {own : ArrayId → Prop}
  {outer ids others handles more : List ArrayId} {alone nested middle after : Resolver}

theorem Unmet.left (unmet : Unmet own nested (ids ++ others)) : Unmet own nested ids :=
  ⟨(List.nodup_append.mp unmet.once).1, (List.forall_mem_append.mp unmet.foreign).1,
    (List.forall_mem_append.mp unmet.unknown).1, (List.forall_mem_append.mp unmet.offPath).1⟩

/-- What comes later is still unmet. -/
theorem Unmet.right (unmet : Unmet own nested (ids ++ others)) (frame : Frame nested middle)
    (learns : LearnsOnly own ids nested middle) : Unmet own middle others := by
  obtain ⟨-, once, disjoint⟩ := List.nodup_append.mp unmet.once
  have foreign := (List.forall_mem_append.mp unmet.foreign).2
  refine ⟨once, foreign, fun id member => ?_, fun id member => ?_⟩
  · rw [learns id (foreign id member) fun early => disjoint id early id member rfl]
    exact unmet.unknown id (List.mem_append_right _ member)
  · rw [frame.stack]
    exact unmet.offPath id (List.mem_append_right _ member)

theorem Retraces.imp {wanted wanted' : List (Option Shape) → Prop}
    (retraces : Retraces slots own outer ids alone nested after handles wanted)
    (implies : ∀ answers, wanted answers → wanted' answers) :
    Retraces slots own outer ids alone nested after handles wanted' := by
  obtain ⟨answers, aloneAfter, visits, abreast, learns, filled⟩ := retraces
  exact ⟨answers, aloneAfter, visits, abreast, learns, implies answers filled⟩

/-- One part of a value after the other. -/
theorem Retraces.append {first second : List (Option Shape) → Prop}
    (here : Retraces slots own outer ids alone nested middle handles first)
    (later : ∀ aloneMiddle, Abreast own outer aloneMiddle middle → LearnsOnly own ids nested middle →
      Retraces slots own outer others aloneMiddle middle after more second) :
    Retraces slots own outer (ids ++ others) alone nested after (handles ++ more)
      (fun answers => first (answers.take handles.length) ∧ second (answers.drop handles.length)) := by
  obtain ⟨answers, aloneMiddle, visits, abreast, learns, filled⟩ := here
  obtain ⟨answers', aloneAfter, visits', abreast', learns', filled'⟩ := later aloneMiddle abreast learns
  refine ⟨answers ++ answers', aloneAfter, visits.append visits', abreast', ?_, ?_⟩
  · intro id foreign absent
    rw [List.mem_append, not_or] at absent
    rw [learns' id foreign absent.2, learns id foreign absent.1]
  · show first ((answers ++ answers').take _) ∧ second ((answers ++ answers').drop _)
    rw [← visits.length_eq, List.take_left, List.drop_left]
    exact ⟨filled, filled'⟩

/-- What is not deployed is met by both alike. -/
theorem Abreast.retraces {answers : List (Option Shape)} (abreast : Abreast own outer alone nested)
    (enlarges : Enlarges own slots larger) (asked : ∀ id ∈ handles, own id)
    (visits : Visits larger nested handles answers after) (within : after.guard.exceeded = false) :
    Retraces slots own outer [] alone nested after handles (· = answers) := by
  obtain ⟨aloneAfter, aloneVisits, beneath⟩ :=
    visits.alone within enlarges.allocated enlarges.agree abreast.outside asked abreast.beneath
  refine ⟨answers, aloneAfter, aloneVisits,
    ⟨beneath, abreast.atRest.of_visits aloneVisits, abreast.outside⟩, fun id foreign _ => ?_, rfl⟩
  refine visits.lookup_other (fun other content isOwn held => ?_) asked foreign
  obtain ⟨content', held', within⟩ := enlarges.allocated other isOwn
  rw [enlarges.agree other isOwn, held'] at held
  obtain rfl := Option.some.inj held
  exact within

/-- To enter a deployed array moves `nested` only. -/
theorem Abreast.opened {id : ArrayId} (abreast : Abreast own outer alone nested) (foreign : ¬ own id)
    (shallow : nested.guard.depth < nested.guard.limits.depth) :
    Abreast own (id :: outer) alone (nested.opened id) := by
  have beneath := abreast.beneath
  refine ⟨⟨?_, beneath.limits, beneath.fits.depth_lt_iff.mp shallow, ?_, counted_le_maxCount _, ?_,
    beneath.known, beneath.within⟩, abreast.atRest, ?_⟩
  · show id :: nested.guard.stack = alone.guard.stack ++ id :: outer
    rw [beneath.stack, abreast.atRest.stack]
    rfl
  · have attempts := beneath.attempts
    have bounded := beneath.bounded
    show alone.guard.iterations ≤ min (nested.guard.iterations + 1) PathGuard.maxCount
    omega
  · rw [abreast.atRest.floor]
    rfl
  · intro other member
    rcases List.mem_cons.mp member with rfl | later
    · exact foreign
    · exact abreast.outside other later

/-- To leave a deployed array moves `nested` only, which keeps its shape. -/
theorem Abreast.closed {id : ArrayId} {finished : Resolver} (abreast : Abreast own outer alone nested)
    (foreign : ¬ own id) {aloneAfter : Resolver} (inner : Abreast own (id :: outer) aloneAfter finished)
    (within : finished.guard.exceeded = false) (shape : Shape) :
    Abreast own outer aloneAfter (nested.closed id finished shape) := by
  have beneath := inner.beneath
  have inside : finished.reachOut nested.guard.stack.length = none := by
    rw [Resolver.reachOut, beneath.floor, inner.atRest.floor]
    rfl
  rw [closed_of_inside inside, within]
  refine ⟨⟨?_, beneath.limits, beneath.fits.leave id, beneath.attempts, beneath.bounded, ?_, ?_,
    beneath.within⟩, inner.atRest, abreast.outside⟩
  · show finished.guard.stack.tail = aloneAfter.guard.stack ++ outer
    rw [beneath.stack, inner.atRest.stack]
    rfl
  · show nested.floor = aloneAfter.floor.map _
    rw [abreast.beneath.floor, abreast.atRest.floor, inner.atRest.floor]
  · intro other isOwn
    have different : other ≠ id := fun same => foreign (same ▸ isOwn)
    show List.lookup other ((id, shape) :: finished.resolved) = _
    rw [List.lookup_cons, beq_false_of_ne different]
    exact beneath.known other isOwn

/-- **A deployed array.** It is entered, since it was not met before; what its content gives is
retraced by going through the shape it was deployed from. -/
theorem Retraces.array {id : ArrayId} {shape content : Shape} {answers : List (Option Shape)}
    (held : larger id = some content) (unmet : Unmet own nested (ids ++ [id]))
    (abreast : Abreast own outer alone nested) (visits : Visits larger nested [id] answers after)
    (within : after.guard.exceeded = false)
    (deeper : ∀ {answers finished}, Unmet own (nested.opened id) ids →
      Abreast own (id :: outer) alone (nested.opened id) →
      Visits larger (nested.opened id) content.handles answers finished →
      finished.guard.exceeded = false →
      Retraces slots own (id :: outer) ids alone (nested.opened id) finished shape.handles
        (fun answers' => shape.fill answers' = content.fill answers)) :
    Retraces slots own outer (ids ++ [id]) alone nested after shape.handles
      (fun answers' => answers = [some (shape.fill answers')]) := by
  have isLast : id ∈ ids ++ [id] := List.mem_append_right ids List.mem_cons_self
  have foreign := unmet.foreign id isLast
  have notInner : id ∉ ids := fun early =>
    (List.nodup_append.mp unmet.once).2.2 id early id List.mem_cons_self rfl
  cases visits with
  | known found rest =>
      rw [unmet.unknown id isLast] at found
      cases found
  | cycle unknown budget onPath rest => exact absurd onPath (unmet.offPath id isLast)
  | limit unknown refused rest => cases rest.within within
  | @entered _ finished _ _ content' _ inner _ unknown budget offPath shallow held' inside rest =>
      obtain rfl : content = content' := Option.some.inj (held.symm.trans held')
      cases rest
      rw [guard_closed] at within
      have unmetInside : Unmet own (nested.opened id) ids := by
        refine ⟨unmet.left.once, unmet.left.foreign, unmet.left.unknown, fun other member onPath => ?_⟩
        rcases List.mem_cons.mp onPath with rfl | outside
        · exact notInner member
        · exact unmet.left.offPath other member outside
      obtain ⟨answers', aloneAfter, aloneVisits, abreastInside, learns, filled⟩ :=
        deeper unmetInside (abreast.opened foreign shallow) inside within
      -- No cycle leads out of a deployed array, so it is kept, and the two are abreast again.
      refine ⟨answers', aloneAfter, aloneVisits, abreast.closed foreign abreastInside within _, ?_, ?_⟩
      · intro other isForeign absent
        rw [List.mem_append, not_or, List.mem_singleton] at absent
        rw [lookup_closed_of_ne absent.2, learns other isForeign absent.1]
        rfl
      · show [some (content.fill inner)] = [some (shape.fill answers')]
        rw [filled]

end Steps

end Resolver

/-! ### By induction on the value -/

section Retracing

open Resolver

variable {slots larger : ArrayId → Option Shape} {own : ArrayId → Prop}

mutual

/-- **The resolver on a deployed type retraces the one on the type.** -/
theorem Ty.retraces (enlarges : Enlarges own slots larger) (ty : Ty) {result : Ty}
    {outer ids : List ArrayId} {answers : List (Option Shape)} {alone nested after : Resolver}
    (deployed : Ty.Deployed larger ty result ids) (tidy : ty.isTidy = true)
    (asked : ∀ id ∈ ty.handles, own id) (unmet : Unmet own nested ids)
    (abreast : Abreast own outer alone nested)
    (visits : Visits larger nested result.handles answers after)
    (within : after.guard.exceeded = false) :
    Retraces slots own outer ids alone nested after ty.handles
      (fun answers' => ty.fill answers' = result.fill answers) := by
  cases deployed with
  | kept notArray =>
      refine (abreast.retraces enlarges asked visits within).imp fun answers' same => ?_
      rw [same]
  | @array shape content base id ids inner held =>
      rw [Ty.isTidy, Bool.and_eq_true] at tidy
      refine (Retraces.array held unmet abreast visits within fun unmet abreast visits within =>
        Shape.retraces enlarges shape inner tidy.1 asked unmet abreast visits within).imp ?_
      intro answers' same
      rw [Ty.fill_array tidy.1, same]
      rfl
termination_by structural ty

theorem TyUnion.retraces (enlarges : Enlarges own slots larger) (union : TyUnion) {result : TyUnion}
    {outer ids : List ArrayId} {answers : List (Option Shape)} {alone nested after : Resolver}
    (deployed : TyUnion.Deployed larger union result ids) (tidy : union.isTidy = true)
    (asked : ∀ id ∈ union.handles, own id) (unmet : Unmet own nested ids)
    (abreast : Abreast own outer alone nested)
    (visits : Visits larger nested result.handles answers after)
    (within : after.guard.exceeded = false) :
    Retraces slots own outer ids alone nested after union.handles
      (fun answers' => union.fill answers' = result.fill answers) := by
  cases deployed with
  | @members members results ids all =>
      rw [TyUnion.isTidy, Bool.and_eq_true] at tidy
      refine (Ty.retracesAll enlarges members all tidy.2 asked unmet abreast visits within).imp ?_
      intro answers' same
      rw [TyUnion.fill, TyUnion.fill, same]
termination_by structural union

theorem Shape.retraces (enlarges : Enlarges own slots larger) (shape : Shape) {result : Shape}
    {outer ids : List ArrayId} {answers : List (Option Shape)} {alone nested after : Resolver}
    (deployed : Shape.Deployed larger shape result ids) (tidy : shape.isTidy = true)
    (asked : ∀ id ∈ shape.handles, own id) (unmet : Unmet own nested ids)
    (abreast : Abreast own outer alone nested)
    (visits : Visits larger nested result.handles answers after)
    (within : after.guard.exceeded = false) :
    Retraces slots own outer ids alone nested after shape.handles
      (fun answers' => shape.fill answers' = result.fill answers) := by
  cases deployed with
  | @seq elem _ _ inner =>
      refine (TyUnion.retraces enlarges elem inner tidy asked unmet abreast visits within).imp ?_
      intro answers' same
      rw [Shape.fill, Shape.fill, same]
  | @tuple elems _ _ all =>
      refine (TyUnion.retracesAll enlarges elems all tidy asked unmet abreast visits within).imp ?_
      intro answers' same
      rw [Shape.fill, Shape.fill, same]
termination_by structural shape

theorem Ty.retracesAll (enlarges : Enlarges own slots larger) (types : List Ty) {results : List Ty}
    {outer ids : List ArrayId} {answers : List (Option Shape)} {alone nested after : Resolver}
    (deployed : Ty.AllDeployed larger types results ids) (tidy : Ty.allTidy types = true)
    (asked : ∀ id ∈ Ty.handlesOfAll types, own id) (unmet : Unmet own nested ids)
    (abreast : Abreast own outer alone nested)
    (visits : Visits larger nested (Ty.handlesOfAll results) answers after)
    (within : after.guard.exceeded = false) :
    Retraces slots own outer ids alone nested after (Ty.handlesOfAll types)
      (fun answers' => Ty.fillAll types answers' = Ty.fillAll results answers) := by
  cases deployed with
  | nil => exact (abreast.retraces enlarges asked visits within).imp fun _ _ => rfl
  | @cons ty result rest results ids others here later =>
      rw [Ty.allTidy, Bool.and_eq_true] at tidy
      obtain ⟨askedHere, askedLater⟩ := List.forall_mem_append.mp asked
      obtain ⟨middle, visitsHere, visitsLater⟩ := visits.split
      have first := Ty.retraces enlarges ty here tidy.1 askedHere unmet.left abreast visitsHere
        (visitsLater.within within)
      refine (first.append fun aloneMiddle abreastMiddle learns =>
        Ty.retracesAll enlarges rest later tidy.2 askedLater (unmet.right visitsHere.frame learns)
          abreastMiddle visitsLater within).imp ?_
      rintro answers' ⟨sameHere, sameLater⟩
      rw [Ty.fillAll, Ty.fillAll, sameHere, sameLater]
termination_by structural types

theorem TyUnion.retracesAll (enlarges : Enlarges own slots larger) (unions : List TyUnion)
    {results : List TyUnion} {outer ids : List ArrayId} {answers : List (Option Shape)}
    {alone nested after : Resolver} (deployed : TyUnion.AllDeployed larger unions results ids)
    (tidy : TyUnion.allTidy unions = true) (asked : ∀ id ∈ TyUnion.handlesOfAll unions, own id)
    (unmet : Unmet own nested ids) (abreast : Abreast own outer alone nested)
    (visits : Visits larger nested (TyUnion.handlesOfAll results) answers after)
    (within : after.guard.exceeded = false) :
    Retraces slots own outer ids alone nested after (TyUnion.handlesOfAll unions)
      (fun answers' => TyUnion.fillAll unions answers' = TyUnion.fillAll results answers) := by
  cases deployed with
  | nil => exact (abreast.retraces enlarges asked visits within).imp fun _ _ => rfl
  | @cons union result rest results ids others here later =>
      rw [TyUnion.allTidy, Bool.and_eq_true] at tidy
      obtain ⟨askedHere, askedLater⟩ := List.forall_mem_append.mp asked
      obtain ⟨middle, visitsHere, visitsLater⟩ := visits.split
      have first := TyUnion.retraces enlarges union here tidy.1 askedHere unmet.left abreast visitsHere
        (visitsLater.within within)
      refine (first.append fun aloneMiddle abreastMiddle learns =>
        TyUnion.retracesAll enlarges rest later tidy.2 askedLater (unmet.right visitsHere.frame learns)
          abreastMiddle visitsLater within).imp ?_
      rintro answers' ⟨sameHere, sameLater⟩
      rw [TyUnion.fillAll, TyUnion.fillAll, sameHere, sameLater]
termination_by structural unions

end

end Retracing

/-! ### Items -/

namespace Item

open Resolver

/-- Deploy an item. -/
def deploy : Item → DeployM ArrayStore Item
  | ty value => ty <$> value.deploy
  | union value => union <$> value.deploy
  | shape value => shape <$> value.deploy

/-- An item and what it is deployed to. -/
inductive Deployed (slots : ArrayId → Option Shape) : Item → Item → List ArrayId → Prop
  | ty {value result : Ty} {ids : List ArrayId} :
      Ty.Deployed slots value result ids → Deployed slots (.ty value) (.ty result) ids
  | union {value result : TyUnion} {ids : List ArrayId} :
      TyUnion.Deployed slots value result ids → Deployed slots (.union value) (.union result) ids
  | shape {value result : Shape} {ids : List ArrayId} :
      Shape.Deployed slots value result ids → Deployed slots (.shape value) (.shape result) ids

variable {item result : Item}

theorem deployed_of_deploy {before after : Deployment ArrayStore} (sound : before.store.Sound)
    (tidy : item.isTidy = true) (allocated : before.store.Allocates item.handles)
    (ran : item.deploy before = .ok result after) :
    ∃ ids, item.Deployed after.store.slot? result ids ∧
      before.store.Takes ids after.store result.handles := by
  cases item with
  | ty value =>
      rw [deploy, map_eq_pure_bind] at ran
      obtain ⟨deployed, last, placed, returned⟩ := bind_eq_ok_iff.mp ran
      obtain ⟨rfl, rfl⟩ := pure_eq_ok_iff.mp returned
      obtain ⟨ids, inner, takes⟩ := Ty.deployed_of_deploy value sound tidy allocated placed
      exact ⟨ids, .ty inner, takes⟩
  | union value =>
      rw [deploy, map_eq_pure_bind] at ran
      obtain ⟨deployed, last, placed, returned⟩ := bind_eq_ok_iff.mp ran
      obtain ⟨rfl, rfl⟩ := pure_eq_ok_iff.mp returned
      obtain ⟨ids, inner, takes⟩ := TyUnion.deployed_of_deploy value sound tidy allocated placed
      exact ⟨ids, .union inner, takes⟩
  | shape value =>
      rw [deploy, map_eq_pure_bind] at ran
      obtain ⟨deployed, last, placed, returned⟩ := bind_eq_ok_iff.mp ran
      obtain ⟨rfl, rfl⟩ := pure_eq_ok_iff.mp returned
      obtain ⟨ids, inner, takes⟩ := Shape.deployed_of_deploy value sound tidy allocated placed
      exact ⟨ids, .shape inner, takes⟩

theorem retraces {slots larger : ArrayId → Option Shape} {own : ArrayId → Prop}
    {outer ids : List ArrayId} {answers : List (Option Shape)} {alone nested after : Resolver}
    (enlarges : Enlarges own slots larger) (deployed : item.Deployed larger result ids)
    (tidy : item.isTidy = true) (asked : ∀ id ∈ item.handles, own id) (unmet : Unmet own nested ids)
    (abreast : Abreast own outer alone nested)
    (visits : Visits larger nested result.handles answers after)
    (within : after.guard.exceeded = false) :
    Retraces slots own outer ids alone nested after item.handles
      (fun answers' => item.fill answers' = result.fill answers) := by
  cases deployed with
  | ty inner =>
      exact (Ty.retraces enlarges _ inner tidy asked unmet abreast visits within).imp fun _ =>
        congrArg Item.ty
  | union inner =>
      exact (TyUnion.retraces enlarges _ inner tidy asked unmet abreast visits within).imp fun _ =>
        congrArg Item.union
  | shape inner =>
      exact (Shape.retraces enlarges _ inner tidy asked unmet abreast visits within).imp fun _ =>
        congrArg Item.shape

/-- What is in use leads only to what is in use. -/
theorem allocated_of_isClosed {store : ArrayStore} (closed : store.IsClosed) :
    Allocated store.slot? (fun id => (store.slot? id).isSome) := by
  intro id inUse
  obtain ⟨content, held⟩ := Option.isSome_iff_exists.mp inUse
  exact ⟨content, held, closed id content held⟩

/-- The arrays a store has grown by are new to it, and it still holds what it held. -/
theorem enlarges_of_takes {before after : ArrayStore} {ids handles : List ArrayId}
    (closed : before.IsClosed) (takes : before.Takes ids after handles) :
    Enlarges (fun id => (before.slot? id).isSome) before.slot? after.slot? := by
  refine ⟨allocated_of_isClosed closed, fun id inUse => ?_⟩
  obtain ⟨content, held⟩ := Option.isSome_iff_exists.mp inUse
  rw [takes.grows.slot?_eq_some held, held]

theorem unmet_start {before after : ArrayStore} {ids handles : List ArrayId} (limits : Limits)
    (takes : before.Takes ids after handles) :
    Unmet (fun id => (before.slot? id).isSome) (start limits) ids := by
  refine ⟨takes.grows.once, fun id member inUse => ?_, fun _ _ => rfl, fun _ _ => nofun⟩
  rw [takes.grows.free id member] at inUse
  cases inUse

theorem abreast_start (own : ArrayId → Prop) (limits : Limits) :
    Abreast own [] (start limits) (start limits) :=
  ⟨⟨rfl, rfl, PathGuard.fits_start limits, Nat.le_refl _, Nat.zero_le _, rfl, fun _ _ => rfl, rfl⟩,
    atRest_start limits, nofun⟩

/-- **Resolution undoes deployment.** Where the arrays met in an item and in the slots of a store are
in use, and the item was deployed, the deployed item can be resolved in the store as it is then. If no
limit is hit, the result is what the item is resolved to in the store as it was, which is the item
itself if it holds no local array and no literal to generalise. -/
theorem resolve_deploy {store : ArrayStore} {next : ArrayId} {finished : Deployment ArrayStore}
    {deployed : Item} (limits : Limits) (built : store.Built) (closed : store.IsClosed)
    (allocated : store.Allocates item.handles) (tidy : item.isTidy = true)
    (ran : item.deploy (.start store next) = .ok deployed finished) :
    ∃ result after, deployed.resolve finished.store.slot? (start limits) = .ok result after ∧
      (after.guard.exceeded = false →
        (∃ after', item.resolve store.slot? (start limits) = .ok result after' ∧
          after'.guard.exceeded = false) ∧
        (item.isContextFree = true → item.hasLiteral = false → result = item)) := by
  obtain ⟨ids, inner, takes⟩ := deployed_of_deploy ⟨built.bounded, closed⟩ tidy allocated ran
  obtain ⟨answers, after, visited⟩ := visitAll_total (allocated_of_isClosed takes.sound.closed)
    (atRest_start limits).hasRoom takes.allocated
  have visits := visits_of_visitAll visited
  refine ⟨deployed.fill answers, after,
    (resolve_eq_ok_iff (atRest_start limits)).mpr ⟨answers, visits, rfl⟩, fun within => ?_⟩
  obtain ⟨answers', after', visits', abreast, -, same⟩ :=
    retraces (enlarges_of_takes closed takes) inner tidy allocated (unmet_start limits takes)
      (abreast_start _ limits) visits within
  refine ⟨⟨after', (resolve_eq_ok_iff (atRest_start limits)).mpr ⟨answers', visits', same⟩,
    abreast.beneath.within⟩, fun isClosed plain => ?_⟩
  rw [← same, fill_self item answers' isClosed plain tidy]

/-- A store with one array, which holds itself. -/
def knotted : ArrayStore := ⟨[(⟨0⟩, .seq ⟨[.localArray ⟨0⟩ .any]⟩)], ⟨1⟩⟩

/-- An array in an array, both of which hold the array in the store. -/
def nestedPair : Item :=
  .ty (.array (.tuple [⟨[.array (.seq ⟨[.localArray ⟨0⟩ .any]⟩) .any, .localArray ⟨0⟩ .any]⟩]) .any)

/-- The store in which both are deployed. -/
def afterNestedPair : Deployment ArrayStore where
  store :=
    ⟨[(⟨2⟩, .tuple [⟨[.localArray ⟨1⟩ .any, .localArray ⟨0⟩ .any]⟩]),
      (⟨1⟩, .seq ⟨[.localArray ⟨0⟩ .any]⟩), (⟨0⟩, .seq ⟨[.localArray ⟨0⟩ .any]⟩)], ⟨3⟩⟩
  next := ⟨3⟩
  log := #[.deploying ⟨1⟩, .allocated ⟨1⟩ false, .deploying ⟨2⟩, .allocated ⟨2⟩ true]

theorem deploy_nestedPair :
    nestedPair.deploy (.start knotted ⟨1⟩) = .ok (.ty (.localArray ⟨2⟩ .any)) afterNestedPair := rfl

theorem isClosed_knotted : knotted.IsClosed := by
  intro id content held
  have entry : (id, content) ∈ knotted.slots := by
    obtain ⟨before, after, split, -⟩ := List.lookup_eq_some_iff.mp held
    rw [split]
    exact List.mem_append_right before List.mem_cons_self
  cases List.mem_singleton.mp entry
  intro handle member
  rw [List.mem_singleton.mp member]
  rfl

theorem built_knotted : knotted.Built :=
  @ArrayStore.Built.install _ _ ⟨0⟩ (.seq ⟨[.localArray ⟨0⟩ .any]⟩) .empty rfl

theorem allocates_nestedPair : knotted.Allocates nestedPair.handles := by
  have handles : nestedPair.handles = [⟨0⟩, ⟨0⟩] := rfl
  intro id member
  rw [handles] at member
  simp only [List.mem_cons, List.not_mem_nil, or_false, or_self] at member
  rw [member]
  rfl

/-- The resolver that has resolved the deployed arrays: one attempt for each of the three, and one that
met the cycle. -/
def afterKnot : Resolver where
  guard := ⟨⟨3, 4⟩, [], 4, false⟩
  resolved :=
    [(⟨2⟩, .tuple
        [⟨[.array (.seq ⟨[.array (.seq ⟨[.any]⟩) .any]⟩) .any, .array (.seq ⟨[.any]⟩) .any]⟩]),
      (⟨1⟩, .seq ⟨[.array (.seq ⟨[.any]⟩) .any]⟩), (⟨0⟩, .seq ⟨[.any]⟩)]
  floor := none
  log := #[.cycleCut ⟨0⟩ [⟨2⟩, ⟨1⟩, ⟨0⟩]]

/-- An array in an array, with the array that holds itself cut in its own content. -/
def resolvedPair : Item :=
  .ty (.array
    (.tuple [⟨[.array (.seq ⟨[.array (.seq ⟨[.any]⟩) .any]⟩) .any, .array (.seq ⟨[.any]⟩) .any]⟩]) .any)

theorem resolve_afterNestedPair :
    resolve afterNestedPair.store.slot? (.ty (.localArray ⟨2⟩ .any)) (start ⟨3, 4⟩) =
      .ok resolvedPair afterKnot := by
  let slots := afterNestedPair.store.slot?
  let outer := (start ⟨3, 4⟩).opened ⟨2⟩
  let inner := outer.opened ⟨1⟩
  have knot : Visits slots (inner.opened ⟨0⟩) [⟨0⟩] [none] _ :=
    .cycle rfl (by decide) (by decide) (.done _)
  have beneath : Visits slots inner [⟨0⟩] _ _ :=
    .entered rfl (by decide) (by decide) (by decide) rfl knot (.done _)
  have pair : Visits slots outer [⟨1⟩, ⟨0⟩] _ _ :=
    .entered rfl (by decide) (by decide) (by decide) rfl beneath (.known rfl (.done _))
  have visits : Visits slots (start ⟨3, 4⟩) [⟨2⟩] _ _ :=
    .entered rfl (by decide) (by decide) (by decide) rfl pair (.done _)
  exact (resolve_eq_ok_iff (atRest_start _)).mpr ⟨_, visits, rfl⟩

/-- The array in the store is cut beneath two deployed arrays as it is without them. -/
theorem resolve_deploy_nestedPair :
    ∃ after, nestedPair.resolve knotted.slot? (start ⟨3, 4⟩) = .ok resolvedPair after := by
  obtain ⟨result, last, resolved, undone⟩ :=
    resolve_deploy ⟨3, 4⟩ built_knotted isClosed_knotted allocates_nestedPair rfl deploy_nestedPair
  rw [resolve_afterNestedPair, EStateM.Result.ok.injEq] at resolved
  obtain ⟨rfl, rfl⟩ := resolved
  obtain ⟨⟨after, resolved, -⟩, -⟩ := undone rfl
  exact ⟨after, resolved⟩

end Item

end TypeLattice
