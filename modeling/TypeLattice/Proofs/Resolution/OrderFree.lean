/-
**Resolution in whatever order.**

The shapes that a resolver keeps depend on the order in which it meets the arrays. This cannot be seen in
the results as long as no two different arrays refer back to each other: an array may hold itself, and is
then cut in its own content and nowhere else, so that its shape is the same wherever it is met.

* `Settles`, `settled`: the shape of an array that is cut in its own content only;
* `Untangled`: no two different arrays refer back to each other;
* `Visits.settled`: every shape that a resolver gives or keeps for such arrays is the settled one;
* `Item.resolve_eq_fillBy`: so resolving a value is filling it by id;
* `Item.beq_of_resolvesWithin`: equal values are resolved to equal values;
* `Item.resolution_depends_on_order`: two arrays that hold each other are resolved differently when
  they are met in the other order.
-/

import TypeLattice.Proofs.Resolution.Acyclic
import TypeLattice.Proofs.Resolution.Substitution

namespace TypeLattice

/-- Answers that depend on the ids alone are the answers for the ids in turn. -/
theorem map_eq_of_forall₂ {α β : Type} {answer : α → β} {ids : List α} {answers : List β}
    (given : List.Forall₂ (fun id answered => answer id = answered) ids answers) :
    ids.map answer = answers := by
  rwa [← List.forall₂_map_left_iff (R := Eq), List.forall₂_eq_eq_eq] at given

/-! ### Items filled by id -/

namespace Item

/-- The item with each local array replaced by the answer for its id. -/
def fillBy (answer : ArrayId → Option Shape) : Item → Item
  | ty value => ty (value.fillBy answer)
  | union value => union (value.fillBy answer)
  | shape value => shape (value.fillBy answer)

/-- Items are equal when they are of one kind and their values are equal. -/
instance : BEq Item where
  beq
    | ty first, ty second => first == second
    | union first, union second => first == second
    | shape first, shape second => first == second
    | _, _ => false

theorem fill_map_handles (answer : ArrayId → Option Shape) (item : Item) (tidy : item.isTidy = true) :
    item.fill (item.handles.map answer) = item.fillBy answer := by
  cases item with
  | ty value => exact congrArg Item.ty (value.fill_map_handles answer tidy)
  | union value => exact congrArg Item.union (value.fill_map_handles answer tidy)
  | shape value => exact congrArg Item.shape (value.fill_map_handles answer tidy)

/-- Equal items become equal items. -/
theorem fillBy_beq {answer : ArrayId → Option Shape} (tidyAnswers : ∀ ids, TidyAnswers answer ids)
    {first second : Item} (tidy : first.isTidy = true) (tidy' : second.isTidy = true)
    (same : (first == second) = true) : (first.fillBy answer == second.fillBy answer) = true := by
  cases first with
  | ty value =>
      cases second with
      | ty value' => exact value.fillBy_equal tidyAnswers tidy tidy' same
      | union | shape => cases same
  | union value =>
      cases second with
      | union value' => exact value.fillBy_equal tidyAnswers tidy tidy' same
      | ty | shape => cases same
  | shape value =>
      cases second with
      | shape value' => exact value.fillBy_equal tidyAnswers tidy tidy' same
      | ty | union => cases same

end Item

/-! ### Settled arrays -/

/-- The shape of an array that is cut in its own content and nowhere else: the content of its slot with
the settled shapes of the other arrays filled in. -/
inductive Settles (slots : ArrayId → Option Shape) : ArrayId → Shape → Prop
  | intro {id : ArrayId} {content : Shape} (answer : ArrayId → Shape) :
      slots id = some content →
      (∀ handle ∈ content.handles, handle ≠ id → Settles slots handle (answer handle)) →
      Settles slots id (content.fillBy fun handle => if handle = id then none else some (answer handle))

open Classical in
/-- The shape that an array settles to, if there is one. -/
noncomputable def settled (slots : ArrayId → Option Shape) (id : ArrayId) : Option Shape :=
  if settles : ∃ shape, Settles slots id shape then some settles.choose else none

/-- The answer for an array met in the content of `top`: cut if it is that array itself, and else its
settled shape. -/
def SettledAnswer (slots : ArrayId → Option Shape) (top : Option ArrayId) (id : ArrayId)
    (answer : Option Shape) : Prop :=
  (top = some id ∧ answer = none) ∨
    (top ≠ some id ∧ ∃ shape, Settles slots id shape ∧ answer = some shape)

section Settled

variable {slots : ArrayId → Option Shape} {id : ArrayId} {shape : Shape}
  (tidySlots : ∀ id content, slots id = some content → content.isTidy = true)

include tidySlots

/-- **An array settles to no more than one shape.** -/
theorem Settles.unique {other : Shape} (settles : Settles slots id shape)
    (settles' : Settles slots id other) : shape = other := by
  induction settles generalizing other with
  | @intro id content answer held _ ih =>
      obtain ⟨answer', held', inner'⟩ := settles'
      obtain rfl := Option.some.inj (held.symm.trans held')
      have tidy := tidySlots id content held
      rw [← content.fill_map_handles _ tidy, ← content.fill_map_handles _ tidy]
      refine congrArg content.fill (List.map_congr_left fun handle member => ?_)
      by_cases own : handle = id
      · rw [if_pos own, if_pos own]
      · rw [if_neg own, if_neg own, ih handle member own (inner' handle member own)]

theorem Settles.isTidy (settles : Settles slots id shape) : shape.isTidy = true := by
  induction settles with
  | @intro id content answer held _ ih =>
      refine content.isTidy_fillBy (tidySlots id content held) fun handle member given isGiven => ?_
      by_cases own : handle = id
      · rw [if_pos own] at isGiven
        cases isGiven
      · rw [if_neg own] at isGiven
        obtain rfl := Option.some.inj isGiven
        exact ih handle member own

theorem settled_eq_some (settles : Settles slots id shape) : settled slots id = some shape := by
  have some' : ∃ shape, Settles slots id shape := ⟨shape, settles⟩
  rw [settled, dif_pos some', some'.choose_spec.unique tidySlots settles]

/-- Settled shapes are tidy. -/
theorem tidyAnswers_settled (ids : List ArrayId) : TidyAnswers (settled slots) ids := by
  intro id _ shape given
  unfold settled at given
  split at given
  · rename_i settles
    rw [← Option.some.inj given]
    exact settles.choose_spec.isTidy tidySlots
  · cases given

/-- An array is settled once the arrays in its content were answered for. -/
theorem settles_of_answers {content : Shape} {answers : List (Option Shape)}
    (held : slots id = some content)
    (settledAnswers : List.Forall₂ (SettledAnswer slots (some id)) content.handles answers) :
    Settles slots id (content.fill answers) := by
  let answer (handle : ArrayId) : Shape := (settled slots handle).getD .emptySeq
  have both : List.Forall₂ (fun handle given => (handle ≠ id → Settles slots handle (answer handle)) ∧
      (if handle = id then none else some (answer handle)) = given) content.handles answers := by
    refine settledAnswers.imp fun handle given settledHere => ?_
    rcases settledHere with ⟨own, rfl⟩ | ⟨other, shape, settles, rfl⟩
    · obtain rfl := Option.some.inj own
      exact ⟨fun different => absurd rfl different, if_pos rfl⟩
    · have different : handle ≠ id := fun own => other (congrArg some own.symm)
      have given : answer handle = shape := by
        simp only [answer, settled_eq_some tidySlots settles, Option.getD_some]
      rw [given, if_neg different]
      exact ⟨fun _ => settles, rfl⟩
  obtain ⟨inner, filled⟩ := (List.forall₂_and_left _ _).mp both
  rw [← map_eq_of_forall₂ filled, content.fill_map_handles _ (tidySlots id content held)]
  exact .intro answer held inner

end Settled

/-! ### Untangled arrays -/

/-- No two different arrays among those met refer back to each other. -/
def Untangled (slots : ArrayId → Option Shape) (met : Set ArrayId) : Prop :=
  ∀ id ∈ met, ∀ other, Relation.TransGen (Refers slots) id other →
    Relation.TransGen (Refers slots) other id → other = id

namespace Resolver

/-- **The invariant of a search among untangled arrays.** The path is a chain of references, no array on
it is known yet, and the shapes that are known are settled. -/
structure Steady (slots : ArrayId → Option Shape) (resolver : Resolver) : Prop where
  chain : resolver.guard.stack.IsChain (fun inner outer => Refers slots outer inner)
  unknown : ∀ id ∈ resolver.guard.stack, resolver.resolved.lookup id = none
  settled : ∀ id shape, resolver.resolved.lookup id = some shape → Settles slots id shape

variable {slots : ArrayId → Option Shape} {met : Set ArrayId} {resolver finished : Resolver}
  {id : ArrayId}

theorem steady_start (slots : ArrayId → Option Shape) (limits : Limits) :
    (start limits).Steady slots :=
  ⟨.nil, nofun, nofun⟩

/-- Among untangled arrays, only the innermost array on the path can be met again. -/
theorem Steady.head?_eq (steady : resolver.Steady slots) (untangled : Untangled slots met)
    (asked : id ∈ met) (called : resolver.CalledFromTop slots id)
    (onPath : id ∈ resolver.guard.stack) : resolver.guard.stack.head? = some id := by
  cases path : resolver.guard.stack with
  | nil =>
      rw [path] at onPath
      cases onPath
  | cons top outer =>
      have refers : Refers slots top id := called top (by rw [path]; rfl)
      have chain := steady.chain
      rw [path] at onPath chain
      rcases List.mem_cons.mp onPath with rfl | further
      · rfl
      · have chained := chain.imp fun _ _ refers => Relation.TransGen.single refers
        have back := Relation.transGen_swap.mp (chained.rel_cons further)
        rw [List.head?_cons, untangled id asked top back (.single refers)]

theorem Steady.opened (steady : resolver.Steady slots) (called : resolver.CalledFromTop slots id)
    (unknown : resolver.resolved.lookup id = none) : (resolver.opened id).Steady slots :=
  ⟨List.isChain_cons.mpr ⟨called, steady.chain⟩, List.forall_mem_cons.mpr ⟨unknown, steady.unknown⟩,
    steady.settled⟩

theorem Steady.closed {shape : Shape} (steady : resolver.Steady slots) (inner : finished.Steady slots)
    (frame : Frame (resolver.opened id) finished) (offPath : id ∉ resolver.guard.stack)
    (settles : Settles slots id shape) : (resolver.closed id finished shape).Steady slots := by
  have stack : (resolver.closed id finished shape).guard.stack = resolver.guard.stack :=
    (frame_closed shape frame).stack
  refine ⟨by rw [stack]; exact steady.chain, ?_, ?_⟩
  · intro other onPath
    rw [stack] at onPath
    have different : other ≠ id := fun same => offPath (same ▸ onPath)
    rw [lookup_closed_of_ne different]
    apply inner.unknown
    rw [frame.stack]
    exact List.mem_cons_of_mem id onPath
  · intro other result found
    rcases lookup_closed found with found | ⟨rfl, rfl, -, -⟩
    · exact inner.settled other result found
    · exact settles

/-- **Untangled arrays are answered for with their settled shapes**, in whatever order they are met, as
long as no limit is hit. Only the array whose content is being resolved is cut. -/
theorem Visits.settled {before after : Resolver} {ids : List ArrayId} {answers : List (Option Shape)}
    (visits : Visits slots before ids answers after)
    (tidySlots : ∀ id content, slots id = some content → content.isTidy = true)
    (untangled : Untangled slots met) (closed : ∀ id ∈ met, ∀ handle, Refers slots id handle → handle ∈ met)
    (within : after.guard.exceeded = false) (steady : before.Steady slots)
    (asked : ∀ id ∈ ids, id ∈ met ∧ before.CalledFromTop slots id) :
    after.Steady slots ∧
      List.Forall₂ (SettledAnswer slots before.guard.stack.head?) ids answers := by
  induction visits with
  | done resolver => exact ⟨steady, .nil⟩
  | @known resolver after id shape ids answers found rest ih =>
      obtain ⟨steadyAfter, others⟩ := ih within steady (List.forall_mem_cons.mp asked).2
      refine ⟨steadyAfter, .cons (.inr ⟨fun isTop => ?_, shape, steady.settled id shape found, rfl⟩) others⟩
      rw [steady.unknown id (List.mem_of_head? isTop)] at found
      cases found
  | @cycle resolver after id ids answers unknown budget onPath rest ih =>
      obtain ⟨⟨inMet, called⟩, askedLater⟩ := List.forall_mem_cons.mp asked
      have steadyCut : (resolver.cutAt id).Steady slots := ⟨steady.chain, steady.unknown, steady.settled⟩
      obtain ⟨steadyAfter, others⟩ := ih within steadyCut askedLater
      exact ⟨steadyAfter, .cons (.inl ⟨steady.head?_eq untangled inMet called onPath, rfl⟩) others⟩
  | @limit resolver after id ids answers unknown refused rest ih =>
      cases rest.within within
  | @entered resolver finished after id content ids inner answers unknown budget offPath shallow held
      inside rest deeper ih =>
      obtain ⟨⟨inMet, called⟩, askedLater⟩ := List.forall_mem_cons.mp asked
      have unhit := rest.within_inside within
      have contentAsked : ∀ handle ∈ content.handles,
          handle ∈ met ∧ (resolver.opened id).CalledFromTop slots handle := by
        intro handle member
        refine ⟨closed id inMet handle ⟨content, held, member⟩, fun top isTop => ?_⟩
        obtain rfl : id = top := Option.some.inj isTop
        exact ⟨content, held, member⟩
      obtain ⟨steadyInner, innerAnswers⟩ := deeper unhit (steady.opened called unknown) contentAsked
      have settles := settles_of_answers tidySlots held innerAnswers
      have frame := frame_closed (content.fill inner) inside.frame
      obtain ⟨steadyAfter, others⟩ := ih within
        (steady.closed steadyInner inside.frame offPath settles) fun other member => by
          rw [CalledFromTop, frame.stack]
          exact askedLater other member
      rw [frame.stack] at others
      exact ⟨steadyAfter, .cons
        (.inr ⟨fun isTop => offPath (List.mem_of_head? isTop), _, settles, rfl⟩) others⟩

end Resolver

/-! ### Items in whatever order -/

namespace Item

open Resolver

/-- A fresh resolver returns `result` for the item, and hits no limit. -/
def ResolvesWithin (slots : ArrayId → Option Shape) (limits : Limits) (item result : Item) : Prop :=
  ∃ after, item.resolve slots (start limits) = .ok result after ∧ after.guard.exceeded = false

variable {slots : ArrayId → Option Shape} {limits : Limits}

theorem resolvesWithin_iff {item result : Item} : item.ResolvesWithin slots limits result ↔
    ∃ answers after, Visits slots (start limits) item.handles answers after ∧
      after.guard.exceeded = false ∧ item.fill answers = result := by
  constructor
  · rintro ⟨after, resolved, within⟩
    obtain ⟨answers, visits, filled⟩ := (resolve_eq_ok_iff (atRest_start limits)).mp resolved
    exact ⟨answers, after, visits, within, filled⟩
  · rintro ⟨answers, after, visits, within, filled⟩
    exact ⟨after, (resolve_eq_ok_iff (atRest_start limits)).mpr ⟨answers, visits, filled⟩, within⟩

/-- **To resolve an item with untangled arrays is to fill it by id.** -/
theorem resolve_eq_fillBy {items : List Item} {item result : Item}
    (tidySlots : ∀ id content, slots id = some content → content.isTidy = true)
    (untangled : Untangled slots (reached slots items)) (member : item ∈ items)
    (tidy : item.isTidy = true) (resolves : item.ResolvesWithin slots limits result) :
    result = item.fillBy (settled slots) := by
  obtain ⟨answers, after, visits, within, rfl⟩ := resolvesWithin_iff.mp resolves
  have answered := (visits.settled tidySlots untangled (fun _ isReached _ => refers_mem_reached isReached)
    within (steady_start slots limits) fun id isHandle =>
      ⟨⟨item, member, id, isHandle, .refl⟩, nofun⟩).2
  have filled : List.Forall₂ (fun id answer => settled slots id = answer) item.handles answers := by
    refine answered.imp fun id answer settledHere => ?_
    rcases settledHere with ⟨impossible, -⟩ | ⟨-, shape, settles, rfl⟩
    · cases impossible
    · exact settled_eq_some tidySlots settles
  rw [← map_eq_of_forall₂ filled, item.fill_map_handles _ tidy]

/-- **Equal values are resolved to equal values**, however the members of their unions are ordered, as
long as no two different arrays refer back to each other and no limit is hit. -/
theorem beq_of_resolvesWithin {limits' : Limits} {first second result result' : Item}
    (tidySlots : ∀ id content, slots id = some content → content.isTidy = true)
    (tidy : first.isTidy = true) (tidy' : second.isTidy = true) (same : (first == second) = true)
    (untangled : Untangled slots (reached slots [first, second]))
    (resolves : first.ResolvesWithin slots limits result)
    (resolves' : second.ResolvesWithin slots limits' result') : (result == result') = true := by
  rw [resolve_eq_fillBy tidySlots untangled List.mem_cons_self tidy resolves,
    resolve_eq_fillBy tidySlots untangled (List.mem_cons_of_mem _ List.mem_cons_self) tidy' resolves']
  exact fillBy_beq (tidyAnswers_settled tidySlots) tidy tidy' same

/-- The union of two local arrays. -/
def twoArrays (first second : ArrayId) : Item :=
  .union ⟨[.localArray first .any, .localArray second .any]⟩

/-- The first array holds itself, and the second holds the first. -/
def loopSlots (id : ArrayId) : Option Shape :=
  if id = ⟨0⟩ then some (.seq ⟨[.localArray ⟨0⟩ .any, .code ⟨5⟩]⟩)
  else if id = ⟨1⟩ then some (.tuple [⟨[.localArray ⟨0⟩ .any]⟩])
  else none

theorem refers_loopSlots {holder id : ArrayId} (refers : Refers loopSlots holder id) : id = ⟨0⟩ := by
  obtain ⟨content, held, inContent⟩ := refers
  unfold loopSlots at held
  split_ifs at held
  · obtain rfl := Option.some.inj held
    simpa [Shape.handles, TyUnion.handles, Ty.handlesOfAll, Ty.handles] using inContent
  · obtain rfl := Option.some.inj held
    simpa [Shape.handles, TyUnion.handlesOfAll, TyUnion.handles, Ty.handlesOfAll, Ty.handles]
      using inContent

theorem untangled_loopSlots (met : Set ArrayId) : Untangled loopSlots met := by
  intro id _ other there back
  obtain ⟨_, -, last⟩ := Relation.TransGen.tail'_iff.mp there
  obtain ⟨_, -, last'⟩ := Relation.TransGen.tail'_iff.mp back
  rw [refers_loopSlots last, refers_loopSlots last']

/-- The two arrays, in both orders. -/
theorem beq_of_resolvesWithin_loopSlots :
    ∃ result result', (twoArrays ⟨0⟩ ⟨1⟩).ResolvesWithin loopSlots .resolution result ∧
      (twoArrays ⟨1⟩ ⟨0⟩).ResolvesWithin loopSlots .resolution result' ∧ (result == result') = true := by
  have resolves : ResolvesWithin loopSlots .resolution (twoArrays ⟨0⟩ ⟨1⟩) _ := ⟨_, rfl, rfl⟩
  have resolves' : ResolvesWithin loopSlots .resolution (twoArrays ⟨1⟩ ⟨0⟩) _ := ⟨_, rfl, rfl⟩
  refine ⟨_, _, resolves, resolves', beq_of_resolvesWithin ?_ rfl rfl rfl (untangled_loopSlots _)
    resolves resolves'⟩
  intro id content held
  unfold loopSlots at held
  split_ifs at held
  · obtain rfl := Option.some.inj held
    rfl
  · obtain rfl := Option.some.inj held
    rfl

/-- Of two arrays that hold each other, the sequence with the tuple in it cut, and the tuple with the
sequence in it cut. -/
def cutSeq : Shape := .seq ⟨[.array (.tuple [⟨[.any]⟩]) .any]⟩

def cutTuple : Shape := .tuple [⟨[.array (.seq ⟨[.any]⟩) .any]⟩]

/-- A resolver that has met `first`, has kept its shape, and has cut it where `second` held it. -/
def afterCrossed (first second : ArrayId) (kept : Shape) : Resolver where
  guard := ⟨.resolution, [], 3, false⟩
  resolved := [(first, kept)]
  floor := none
  log := #[.cycleCut first [first, second]]

theorem resolves_seqFirst : (twoArrays ⟨0⟩ ⟨1⟩).ResolvesWithin crossedSlots .resolution
    (.union ⟨[.array cutSeq .any, .array (.tuple [⟨[.array cutSeq .any]⟩]) .any]⟩) := by
  have first : visitAll (visit crossedSlots 257) [⟨0⟩] (start .resolution) =
      .ok [some cutSeq] (afterCrossed ⟨0⟩ ⟨1⟩ cutSeq) := rfl
  have second : visitAll (visit crossedSlots 257) [⟨1⟩] (afterCrossed ⟨0⟩ ⟨1⟩ cutSeq) =
      .ok [some (.tuple [⟨[.array cutSeq .any]⟩])] _ := rfl
  exact resolvesWithin_iff.mpr
    ⟨_, _, (visits_of_visitAll first).append (visits_of_visitAll second), rfl, rfl⟩

theorem resolves_tupleFirst : (twoArrays ⟨1⟩ ⟨0⟩).ResolvesWithin crossedSlots .resolution
    (.union ⟨[.array cutTuple .any, .array (.seq ⟨[.array cutTuple .any]⟩) .any]⟩) := by
  have first : visitAll (visit crossedSlots 257) [⟨1⟩] (start .resolution) =
      .ok [some cutTuple] (afterCrossed ⟨1⟩ ⟨0⟩ cutTuple) := rfl
  have second : visitAll (visit crossedSlots 257) [⟨0⟩] (afterCrossed ⟨1⟩ ⟨0⟩ cutTuple) =
      .ok [some (.seq ⟨[.array cutTuple .any]⟩)] _ := rfl
  exact resolvesWithin_iff.mpr
    ⟨_, _, (visits_of_visitAll first).append (visits_of_visitAll second), rfl, rfl⟩

/-- **Two arrays that hold each other are resolved differently in the other order.** The one met first
is kept with the other cut beneath it, and the other then holds that shape. -/
theorem resolution_depends_on_order :
    (twoArrays ⟨0⟩ ⟨1⟩ == twoArrays ⟨1⟩ ⟨0⟩) = true ∧
      ∃ result result', (twoArrays ⟨0⟩ ⟨1⟩).ResolvesWithin crossedSlots .resolution result ∧
        (twoArrays ⟨1⟩ ⟨0⟩).ResolvesWithin crossedSlots .resolution result' ∧
        (result == result') = false :=
  ⟨rfl, _, _, resolves_seqFirst, resolves_tupleFirst, rfl⟩

end Item

end TypeLattice
