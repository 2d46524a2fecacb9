/-
**Acyclic arrays are expanded exactly, and once each.**

Where the arrays that can be met are allocated and do not refer back to themselves, a resolver with
enough room is a depth-first search of them. The path is a chain of references, the known arrays are
closed under references, and no array is both: so no attempt is refused, each array is entered once,
and each known shape is the plain expansion of its slot.

* `Item.reached`: the arrays that resolving a list of items can meet;
* `Orderly`: the invariant of the search, kept by visits (`Visits.orderly`);
* `Item.resolveAll_expands`: items are resolved to their expansions, with one attempt for each
  array that is reached, and none is refused.
-/

import TypeLattice.Proofs.Resolution.Expansion
import TypeLattice.Proofs.Resolution.Visits
import Mathlib.Data.List.Chain
import Mathlib.Data.Set.Card
import Mathlib.Logic.Relation

namespace TypeLattice

instance : Finite ArrayId :=
  Finite.of_injective (fun id : ArrayId => id.val.toFin) fun first second same => by
    obtain ⟨⟨first⟩⟩ := first
    obtain ⟨⟨second⟩⟩ := second
    have bits : first = second := BitVec.toFin_inj.mp same
    rw [bits]

/-! ### References -/

/-- The slot of `holder` refers to `id`. -/
def Refers (slots : ArrayId → Option Shape) (holder id : ArrayId) : Prop :=
  ∃ content, slots holder = some content ∧ id ∈ content.handles

/-- Two arrays that refer to each other, a sequence and a tuple. -/
def crossedSlots (id : ArrayId) : Option Shape :=
  if id = ⟨0⟩ then some (.seq ⟨[.localArray ⟨1⟩ .any]⟩)
  else if id = ⟨1⟩ then some (.tuple [⟨[.localArray ⟨0⟩ .any]⟩])
  else none

/-- The arrays that resolving the items can meet: their handles, and what these refer to. -/
def Item.reached (slots : ArrayId → Option Shape) (items : List Item) : Set ArrayId :=
  {id | ∃ item ∈ items, ∃ root ∈ item.handles, Relation.ReflTransGen (Refers slots) root id}

theorem Item.handles_subset_reached {item : Item} (slots : ArrayId → Option Shape) {id : ArrayId}
    (isHandle : id ∈ item.handles) : id ∈ reached slots [item] :=
  ⟨item, List.mem_cons_self, id, isHandle, .refl⟩

theorem Item.refers_mem_reached {slots : ArrayId → Option Shape} {items : List Item}
    {id handle : ArrayId} (isReached : id ∈ reached slots items) (refers : Refers slots id handle) :
    handle ∈ reached slots items := by
  obtain ⟨item, member, root, isRoot, path⟩ := isReached
  exact ⟨item, member, root, isRoot, path.tail refers⟩

/-- The arrays met have slots, refer to each other without a cycle, and fit the limits: no more of
them than attempts, and no chain of references longer than the path may be. -/
structure Searchable (slots : ArrayId → Option Shape) (met : Set ArrayId) (limits : Limits) :
    Prop where
  allocated : Resolver.Allocated slots (· ∈ met)
  noCycle : ∀ id ∈ met, ¬ Relation.TransGen (Refers slots) id id
  tidy : ∀ id content, slots id = some content → content.isTidy = true
  attempts : met.ncard ≤ limits.iterations.toNat
  chains : ∀ chain : List ArrayId, chain.IsChain (Refers slots) → (∀ id ∈ chain, id ∈ met) →
    chain.length ≤ limits.depth.toNat

namespace Resolver

/-- The arrays whose shapes are known. -/
def known (resolver : Resolver) : List ArrayId := resolver.resolved.map Prod.fst

/-- **The invariant of a search without cycles.** -/
structure Orderly (slots : ArrayId → Option Shape) (met : Set ArrayId) (resolver : Resolver) :
    Prop where
  within : resolver.guard.exceeded = false
  floor : resolver.floor = none
  unrefused : resolver.log = #[]
  attempts : resolver.guard.iterations = resolver.known.length + resolver.guard.stack.length
  chain : resolver.guard.stack.IsChain (fun inner outer => Refers slots outer inner)
  once : (resolver.known ++ resolver.guard.stack).Nodup
  inMet : ∀ id ∈ resolver.known ++ resolver.guard.stack, id ∈ met
  expanded : ∀ entry ∈ resolver.resolved, ExpandedAnswer slots entry.1 (some entry.2)
  settled : ∀ id ∈ resolver.known, ∀ handle, Refers slots id handle → handle ∈ resolver.known

/-- The array that is being resolved refers to `id`, if there is one. -/
def CalledFromTop (slots : ArrayId → Option Shape) (resolver : Resolver) (id : ArrayId) : Prop :=
  ∀ top ∈ resolver.guard.stack.head?, Refers slots top id

theorem lookup_eq_none_of_known {resolver : Resolver} {id : ArrayId} :
    resolver.resolved.lookup id = none ↔ id ∉ resolver.known := by
  rw [List.lookup_eq_none_iff, known, List.mem_map]
  constructor
  · rintro different ⟨entry, member, rfl⟩
    simpa using different entry member
  · intro absent entry member
    simp only [bne_iff_ne, ne_eq]
    rintro rfl
    exact absent ⟨entry, member, rfl⟩

theorem mem_of_lookup {resolver : Resolver} {id : ArrayId} {shape : Shape}
    (found : resolver.resolved.lookup id = some shape) : (id, shape) ∈ resolver.resolved := by
  obtain ⟨before, after, split, -⟩ := List.lookup_eq_some_iff.mp found
  rw [split]
  exact List.mem_append_right before List.mem_cons_self

section Search

variable {slots : ArrayId → Option Shape} {met : Set ArrayId} {resolver : Resolver} {id : ArrayId}

/-- The path, with an array that its innermost array refers to, is a chain of references. -/
theorem Orderly.chain_cons (orderly : resolver.Orderly slots met)
    (called : resolver.CalledFromTop slots id) :
    (id :: resolver.guard.stack).IsChain (fun inner outer => Refers slots outer inner) :=
  List.isChain_cons.mpr ⟨called, orderly.chain⟩

/-- An array on the path would refer back to itself. -/
theorem Orderly.notMem_stack (orderly : resolver.Orderly slots met)
    (searchable : Searchable slots met resolver.guard.limits) (asked : id ∈ met)
    (called : resolver.CalledFromTop slots id) : id ∉ resolver.guard.stack := by
  intro onPath
  have chain : (id :: resolver.guard.stack).IsChain
      (Relation.TransGen (fun inner outer => Refers slots outer inner)) :=
    (orderly.chain_cons called).imp fun _ _ refers => .single refers
  have back := chain.rel_cons onPath
  exact searchable.noCycle id asked (Relation.transGen_swap.mp back)

theorem Orderly.stack_lt (orderly : resolver.Orderly slots met)
    (searchable : Searchable slots met resolver.guard.limits) (asked : id ∈ met)
    (called : resolver.CalledFromTop slots id) :
    resolver.guard.stack.length < resolver.guard.limits.depth.toNat := by
  have chain : (id :: resolver.guard.stack).reverse.IsChain (Refers slots) :=
    List.isChain_reverse.mpr (orderly.chain_cons called)
  have bounded := searchable.chains _ chain fun other member => by
    rcases List.mem_cons.mp (List.mem_reverse.mp member) with rfl | onPath
    · exact asked
    · exact orderly.inMet other (List.mem_append_right _ onPath)
  rwa [List.length_reverse, List.length_cons] at bounded

/-- Distinct arrays among those met are no more than there are. -/
theorem length_le_ncard {ids : List ArrayId} (distinct : ids.Nodup) (inMet : ∀ id ∈ ids, id ∈ met) :
    ids.length ≤ met.ncard := by
  classical
  rw [← List.toFinset_card_of_nodup distinct, ← Set.ncard_coe_finset]
  refine Set.ncard_le_ncard (fun id member => ?_) met.toFinite
  exact inMet id (by simpa using member)

/-- There is an attempt left for every array that is neither known nor on the path. -/
theorem Orderly.iterations_lt (orderly : resolver.Orderly slots met)
    (searchable : Searchable slots met resolver.guard.limits) (asked : id ∈ met)
    (unknown : id ∉ resolver.known) (offPath : id ∉ resolver.guard.stack) :
    resolver.guard.iterations < resolver.guard.limits.iterations.toNat := by
  have distinct : (id :: (resolver.known ++ resolver.guard.stack)).Nodup := by
    refine List.nodup_cons.mpr ⟨fun member => ?_, orderly.once⟩
    rcases List.mem_append.mp member with inKnown | onPath
    · exact unknown inKnown
    · exact offPath onPath
  have inMet : ∀ other ∈ id :: (resolver.known ++ resolver.guard.stack), other ∈ met := by
    intro other member
    rcases List.mem_cons.mp member with rfl | later
    · exact asked
    · exact orderly.inMet other later
  have bounded := length_le_ncard distinct inMet
  rw [List.length_cons, List.length_append, ← orderly.attempts] at bounded
  exact bounded.trans searchable.attempts

theorem counted_of_lt {guard : PathGuard ArrayId}
    (left : guard.iterations < guard.limits.iterations.toNat) :
    guard.counted.iterations = guard.iterations + 1 := by
  have small : guard.limits.iterations.toNat < UInt32.size := guard.limits.iterations.toNat_lt
  show min (guard.iterations + 1) (UInt32.size - 1) = guard.iterations + 1
  omega

theorem hasBudget_of_lt {guard : PathGuard ArrayId}
    (left : guard.iterations < guard.limits.iterations.toNat) : guard.HasBudget := by
  rw [PathGuard.HasBudget, counted_of_lt left]
  exact left

/-- To enter an array keeps the search in order. -/
theorem Orderly.opened (orderly : resolver.Orderly slots met) (asked : id ∈ met)
    (called : resolver.CalledFromTop slots id) (unknown : id ∉ resolver.known)
    (offPath : id ∉ resolver.guard.stack)
    (left : resolver.guard.iterations < resolver.guard.limits.iterations.toNat) :
    (resolver.opened id).Orderly slots met := by
  refine ⟨orderly.within, rfl, orderly.unrefused, ?_, orderly.chain_cons called, ?_, ?_,
    orderly.expanded, orderly.settled⟩
  · show resolver.guard.counted.iterations = resolver.known.length + (resolver.guard.stack.length + 1)
    rw [counted_of_lt left, orderly.attempts, Nat.add_assoc]
  · show (resolver.known ++ id :: resolver.guard.stack).Nodup
    rw [List.nodup_middle, List.nodup_cons]
    refine ⟨fun member => ?_, orderly.once⟩
    rcases List.mem_append.mp member with inKnown | onPath
    · exact unknown inKnown
    · exact offPath onPath
  · intro other member
    rcases List.mem_append.mp member with inKnown | onPath
    · exact orderly.inMet other (List.mem_append_left _ inKnown)
    · rcases List.mem_cons.mp onPath with rfl | onPath
      · exact asked
      · exact orderly.inMet other (List.mem_append_right _ onPath)

variable {finished : Resolver} {content : Shape} {shape : Shape}

/-- A search in order keeps the array it leaves. -/
theorem Orderly.closed_eq (orderly : finished.Orderly slots met) :
    resolver.closed id finished shape =
      { finished with
        guard := { finished.guard with stack := finished.guard.stack.tail }
        floor := resolver.floor
        resolved := (id, shape) :: finished.resolved } := by
  have inside : finished.reachOut resolver.guard.stack.length = none := by
    rw [reachOut, orderly.floor]
    rfl
  rw [closed_of_inside inside, orderly.within]
  rfl

/-- To leave an array whose content is known keeps the search in order. -/
theorem Orderly.closed (orderly : finished.Orderly slots met) (outer : resolver.floor = none)
    (inner : Frame (resolver.opened id) finished) (held : slots id = some content)
    (expands : content.Expands slots shape)
    (contentKnown : ∀ handle ∈ content.handles, handle ∈ finished.known) :
    (resolver.closed id finished shape).Orderly slots met := by
  have stack : finished.guard.stack = id :: resolver.guard.stack := inner.stack
  have once := orderly.once
  have attempts := orderly.attempts
  have chain := orderly.chain
  rw [stack] at once attempts chain
  rw [orderly.closed_eq]
  refine ⟨orderly.within, outer, orderly.unrefused, ?_, ?_, ?_, ?_, ?_, ?_⟩
  · show finished.guard.iterations = (finished.known.length + 1) + finished.guard.stack.tail.length
    rw [attempts, stack, List.tail_cons, List.length_cons]
    omega
  · show finished.guard.stack.tail.IsChain _
    rw [stack]
    exact chain.tail
  · show (id :: finished.known ++ finished.guard.stack.tail).Nodup
    rw [stack, List.tail_cons, List.cons_append]
    exact List.nodup_middle.mp once
  · intro other member
    apply orderly.inMet
    rw [stack]
    have moved : other ∈ (id :: finished.known) ++ finished.guard.stack.tail := member
    rw [stack, List.tail_cons, List.cons_append] at moved
    exact List.perm_middle.mem_iff.mpr moved
  · intro entry member
    rcases List.mem_cons.mp member with rfl | later
    · exact ⟨content, shape, held, expands, rfl⟩
    · exact orderly.expanded entry later
  · intro other member handle refers
    rcases List.mem_cons.mp member with rfl | later
    · obtain ⟨held', found, inContent⟩ := refers
      obtain rfl : content = held' := Option.some.inj (held.symm.trans found)
      exact List.mem_cons_of_mem _ (contentKnown handle inContent)
    · exact List.mem_cons_of_mem _ (orderly.settled other later handle refers)

/-- What a search in order has done once the arrays `ids` were asked for. -/
structure Searched (slots : ArrayId → Option Shape) (met : Set ArrayId) (before : Resolver)
    (ids : List ArrayId) (answers : List (Option Shape)) (after : Resolver) : Prop where
  orderly : after.Orderly slots met
  kept : ∀ id ∈ before.known, id ∈ after.known
  found : ∀ id ∈ ids, id ∈ after.known
  answers : List.Forall₂ (ExpandedAnswer slots) ids answers

/-- An array that is known, followed by a search for the others. -/
theorem Searched.cons {before middle after : Resolver} {ids : List ArrayId} {answer : Option Shape}
    {answers : List (Option Shape)} (kept : ∀ id ∈ before.known, id ∈ middle.known)
    (isKnown : id ∈ middle.known) (expanded : ExpandedAnswer slots id answer)
    (rest : Searched slots met middle ids answers after) :
    Searched slots met before (id :: ids) (answer :: answers) after := by
  refine ⟨rest.orderly, fun other member => rest.kept other (kept other member), ?_,
    .cons expanded rest.answers⟩
  intro other member
  rcases List.mem_cons.mp member with rfl | later
  · exact rest.kept _ isKnown
  · exact rest.found other later

/-- **Visits to acyclic arrays are a search in order.** -/
theorem Visits.searched {before after : Resolver} {ids : List ArrayId} {answers : List (Option Shape)}
    (visits : Visits slots before ids answers after)
    (searchable : Searchable slots met before.guard.limits) (orderly : before.Orderly slots met)
    (asked : ∀ id ∈ ids, id ∈ met ∧ before.CalledFromTop slots id) :
    Searched slots met before ids answers after := by
  induction visits with
  | done resolver => exact ⟨orderly, fun _ member => member, nofun, .nil⟩
  | @known resolver after id shape ids answers found rest ih =>
      have entry := mem_of_lookup found
      have others := ih searchable orderly (List.forall_mem_cons.mp asked).2
      exact others.cons (fun _ member => member) (List.mem_map_of_mem entry)
        (orderly.expanded (id, shape) entry)
  | @cycle resolver after id ids answers unknown budget onPath rest ih =>
      -- The path from the array back to itself would be a cycle of references.
      obtain ⟨inMet, called⟩ := asked id List.mem_cons_self
      exact absurd onPath (orderly.notMem_stack searchable inMet called)
  | @limit resolver after id ids answers unknown refused rest ih =>
      -- All attempts so far went to different arrays, and the path is a chain: both limits leave room.
      obtain ⟨inMet, called⟩ := asked id List.mem_cons_self
      have left := orderly.iterations_lt searchable inMet (lookup_eq_none_of_known.mp unknown)
        (orderly.notMem_stack searchable inMet called)
      rcases refused with spent | ⟨-, deep⟩
      · exact absurd (hasBudget_of_lt left) spent
      · have shallow := PathGuard.depth_lt_of_lt (orderly.stack_lt searchable inMet called)
        exact absurd deep (UInt32.not_le.mpr shallow)
  | @entered resolver finished after id content ids inner answers unknown budget offPath shallow held
      inside rest deeper ih =>
      obtain ⟨⟨inMet, called⟩, askedLater⟩ := List.forall_mem_cons.mp asked
      have isUnknown := lookup_eq_none_of_known.mp unknown
      have left := orderly.iterations_lt searchable inMet isUnknown offPath
      have contentAsked : ∀ handle ∈ content.handles,
          handle ∈ met ∧ (resolver.opened id).CalledFromTop slots handle := by
        intro handle member
        obtain ⟨content', held', within⟩ := searchable.allocated id inMet
        obtain rfl : content = content' := Option.some.inj (held.symm.trans held')
        refine ⟨within handle member, fun top isTop => ?_⟩
        obtain rfl : id = top := Option.some.inj isTop
        exact ⟨content, held, member⟩
      have opened := orderly.opened inMet called isUnknown offPath left
      have searched := deeper searchable opened contentAsked
      have expands := Shape.expands_fill content (searchable.tidy id content held) searched.answers
      have closed := searched.orderly.closed orderly.floor inside.frame held expands searched.found
      have frame := frame_closed (content.fill inner) inside.frame
      have isKnown : ∀ other, other = id ∨ other ∈ finished.known →
          other ∈ (resolver.closed id finished (content.fill inner)).known := by
        rw [searched.orderly.closed_eq]
        exact fun other member => List.mem_cons.mpr member
      have others := ih (by rwa [frame.limits]) closed fun other member => by
        rw [CalledFromTop, frame.stack]
        exact askedLater other member
      exact others.cons (fun other member => isKnown other (.inr (searched.kept other member)))
        (isKnown id (.inl rfl)) ⟨content, content.fill inner, held, expands, rfl⟩

end Search

end Resolver

/-! ### Items in turn -/

namespace Item

open Resolver

variable {slots : ArrayId → Option Shape} {met : Set ArrayId} {items : List Item} {before : Resolver}

/-- **Items with acyclic arrays are resolved in turn, each to its expansion.** -/
theorem resolveAll_searched (atRest : before.AtRest)
    (searchable : Searchable slots met before.guard.limits) (orderly : before.Orderly slots met)
    (tidy : ∀ item ∈ items, item.isTidy = true)
    (asked : ∀ item ∈ items, ∀ handle ∈ item.handles, handle ∈ met) :
    ∃ results after, resolveAll slots items before = .ok results after ∧
      after.AtRest ∧ after.Orderly slots met ∧
      (∀ id ∈ before.known, id ∈ after.known) ∧
      (∀ item ∈ items, ∀ handle ∈ item.handles, handle ∈ after.known) ∧
      List.Forall₂ (Expands slots) items results := by
  induction items generalizing before with
  | nil => exact ⟨[], before, rfl, atRest, orderly, fun _ member => member, nofun, .nil⟩
  | cons item items ih =>
      obtain ⟨askedHere, askedLater⟩ := List.forall_mem_cons.mp asked
      obtain ⟨tidyHere, tidyLater⟩ := List.forall_mem_cons.mp tidy
      obtain ⟨answers, middle, visited⟩ :=
        visitAll_total searchable.allocated atRest.hasRoom askedHere
      have visits := visits_of_visitAll visited
      have searched := visits.searched searchable orderly fun handle member =>
        ⟨askedHere handle member, by rw [CalledFromTop, atRest.stack]; nofun⟩
      have resolved : item.resolve slots before = .ok (item.fill answers) middle :=
        (resolve_eq_ok_iff atRest).mpr ⟨answers, visits, rfl⟩
      obtain ⟨results, after, resolvedRest, restAtRest, restOrderly, kept, found, expanded⟩ :=
        ih (atRest.of_visits visits) (by rwa [visits.frame.limits]) searched.orderly tidyLater
          askedLater
      refine ⟨item.fill answers :: results, after, ?_, restAtRest, restOrderly,
        fun id member => kept id (searched.kept id member), ?_, ?_⟩
      · exact resolveAll_cons_eq_ok_iff.mpr ⟨_, middle, results, resolved, resolvedRest, rfl⟩
      · intro other member handle isHandle
        rcases List.mem_cons.mp member with rfl | later
        · exact kept handle (searched.found handle isHandle)
        · exact found other later handle isHandle
      · exact .cons (expands_fill item tidyHere searched.answers) expanded

variable {limits : Limits}

/-- What the items reach has slots all the way down. -/
theorem allocated_reached (allocated : ∀ id ∈ reached slots items, (slots id).isSome) :
    Allocated slots (· ∈ reached slots items) := by
  intro id isReached
  obtain ⟨content, held⟩ := Option.isSome_iff_exists.mp (allocated id isReached)
  exact ⟨content, held, fun handle inContent =>
    refers_mem_reached isReached ⟨content, held, inContent⟩⟩

/-- A search in order that knows the handles of the items knows all they reach, and nothing else. -/
theorem ncard_reached {resolver : Resolver} (orderly : resolver.Orderly slots (reached slots items))
    (atRest : resolver.AtRest)
    (found : ∀ item ∈ items, ∀ handle ∈ item.handles, handle ∈ resolver.known) :
    resolver.guard.iterations = (reached slots items).ncard := by
  classical
  have once := orderly.once
  have inReached := orderly.inMet
  have attempts := orderly.attempts
  rw [atRest.stack, List.append_nil] at once inReached
  rw [atRest.stack, List.length_nil, Nat.add_zero] at attempts
  have same : reached slots items = resolver.known.toFinset := by
    ext id
    rw [Finset.mem_coe, List.mem_toFinset]
    refine ⟨?_, inReached id⟩
    rintro ⟨item, member, root, isRoot, path⟩
    induction path with
    | refl => exact found item member root isRoot
    | tail _ refers ih => exact orderly.settled _ ih _ refers
  rw [same, Set.ncard_coe_finset, List.toFinset_card_of_nodup once, attempts]

/-- **Acyclic arrays are expanded exactly, and once each.** Where all arrays that the items reach have
slots, none refers back to itself, and the limits allow as many attempts as there are arrays and a path
as long as the longest chain of references, every item is resolved to its plain expansion. One
attempt is made for each array, and no attempt leaves a record of a refusal. -/
theorem resolveAll_expands (tidyItems : ∀ item ∈ items, item.isTidy = true)
    (tidySlots : ∀ id content, slots id = some content → content.isTidy = true)
    (allocated : ∀ id ∈ reached slots items, (slots id).isSome)
    (noCycle : ∀ id ∈ reached slots items, ¬ Relation.TransGen (Refers slots) id id)
    (attempts : (reached slots items).ncard ≤ limits.iterations.toNat)
    (chains : ∀ chain : List ArrayId, chain.IsChain (Refers slots) →
      (∀ id ∈ chain, id ∈ reached slots items) → chain.length ≤ limits.depth.toNat) :
    ∃ results after, resolveAll slots items (start limits) = .ok results after ∧
      after.log = #[] ∧ after.guard.iterations = (reached slots items).ncard ∧
      after.guard.exceeded = false ∧ List.Forall₂ (Expands slots) items results ∧
      ∀ others, List.Forall₂ (Expands slots) items others → others = results := by
  have searchable : Searchable slots (reached slots items) (start limits).guard.limits :=
    ⟨allocated_reached allocated, noCycle, tidySlots, attempts, chains⟩
  have orderly : (start limits).Orderly slots (reached slots items) :=
    ⟨rfl, rfl, rfl, rfl, .nil, .nil, nofun, nofun, nofun⟩
  have asked : ∀ item ∈ items, ∀ handle ∈ item.handles, handle ∈ reached slots items :=
    fun item member handle isHandle => ⟨item, member, handle, isHandle, .refl⟩
  have unique : Relator.RightUnique (Expands slots) := fun _ _ _ expands expands' =>
    expands.unique expands'
  obtain ⟨results, after, resolved, atRest, inOrder, -, found, expanded⟩ :=
    resolveAll_searched (atRest_start limits) searchable orderly tidyItems asked
  exact ⟨results, after, resolved, inOrder.unrefused, ncard_reached inOrder atRest found,
    inOrder.within, expanded, fun others expanded' => List.right_unique_forall₂' unique expanded' expanded⟩

/-! ### A shared array -/

/-- The first array holds the second at both of its positions. -/
def sharedSlots (id : ArrayId) : Option Shape :=
  if id = ⟨0⟩ then some (.tuple [⟨[.localArray ⟨1⟩ .any]⟩, ⟨[.localArray ⟨1⟩ .any]⟩])
  else if id = ⟨1⟩ then some (.seq ⟨[.any]⟩)
  else none

def sharedItems : List Item := [.ty (.localArray ⟨0⟩ .any), .ty (.localArray ⟨1⟩ .any)]

theorem refers_sharedSlots {holder id : ArrayId} (refers : Refers sharedSlots holder id) :
    holder = ⟨0⟩ ∧ id = ⟨1⟩ := by
  obtain ⟨content, held, inContent⟩ := refers
  unfold sharedSlots at held
  split_ifs at held with first second
  · obtain rfl := Option.some.inj held
    have same : id = ⟨1⟩ := by
      simpa [Shape.handles, TyUnion.handlesOfAll, TyUnion.handles, Ty.handlesOfAll, Ty.handles]
        using inContent
    exact ⟨first, same⟩
  · obtain rfl := Option.some.inj held
    simp [Shape.handles, TyUnion.handles, Ty.handlesOfAll, Ty.handles] at inContent

theorem reached_sharedItems : reached sharedSlots sharedItems = {⟨0⟩, ⟨1⟩} := by
  ext id
  constructor
  · rintro ⟨item, member, root, isRoot, path⟩
    rcases Relation.ReflTransGen.cases_tail path with rfl | ⟨holder, -, refers⟩
    · rcases List.mem_pair.mp member with rfl | rfl
      · exact .inl (List.mem_singleton.mp isRoot)
      · exact .inr (List.mem_singleton.mp isRoot)
    · exact .inr (refers_sharedSlots refers).2
  · rintro (rfl | rfl)
    · exact ⟨.ty (.localArray ⟨0⟩ .any), List.mem_cons_self, ⟨0⟩, List.mem_singleton_self _, .refl⟩
    · exact ⟨.ty (.localArray ⟨1⟩ .any), List.mem_cons_of_mem _ List.mem_cons_self, ⟨1⟩,
        List.mem_singleton_self _, .refl⟩

theorem ncard_sharedItems : (reached sharedSlots sharedItems).ncard = 2 := by
  rw [reached_sharedItems]
  exact Set.ncard_pair (by decide)

/-- Three places of a shared array, and two attempts. -/
theorem resolveAll_sharedItems :
    ∃ results after, resolveAll sharedSlots sharedItems (start ⟨2, 2⟩) = .ok results after ∧
      after.log = #[] ∧ after.guard.iterations = 2 ∧ after.guard.exceeded = false ∧
      List.Forall₂ (Expands sharedSlots) sharedItems results ∧
      ∀ others, List.Forall₂ (Expands sharedSlots) sharedItems others → others = results := by
  rw [← ncard_sharedItems]
  refine resolveAll_expands ?_ ?_ ?_ ?_ ?_ ?_
  · decide
  · intro id content held
    unfold sharedSlots at held
    split_ifs at held
    · obtain rfl := Option.some.inj held
      decide
    · obtain rfl := Option.some.inj held
      decide
  · rw [reached_sharedItems]
    rintro id (rfl | rfl)
    · decide
    · decide
  · intro id _ cycle
    obtain ⟨next, first, -⟩ := Relation.TransGen.head'_iff.mp cycle
    obtain ⟨previous, -, last⟩ := Relation.TransGen.tail'_iff.mp cycle
    have same : (⟨0⟩ : ArrayId) = ⟨1⟩ :=
      (refers_sharedSlots first).1.symm.trans (refers_sharedSlots last).2
    exact absurd same (by decide)
  · rw [ncard_sharedItems]
    decide
  · rintro (_ | ⟨first, _ | ⟨second, _ | ⟨third, rest⟩⟩⟩) chain -
    · simp
    · simp
    · simp
    · have one : second = ⟨1⟩ := (refers_sharedSlots (List.isChain_cons_cons.mp chain).1).2
      have zero : second = ⟨0⟩ :=
        (refers_sharedSlots (List.isChain_cons_cons.mp (List.isChain_cons_cons.mp chain).2).1).1
      exact absurd (one.symm.trans zero) (by decide)

end Item

end TypeLattice
