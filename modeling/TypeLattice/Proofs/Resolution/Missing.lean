/-
**No missing array goes unnoticed.**

A resolver looks at the slot of an array when it enters it, and there are three ways not to enter one:
its shape may be known, it may be on the path, or a limit may be hit. Where no limit is hit, an array
that is skipped has been entered at another time, and so has all that its slot leads to. The arrays
that were entered and left make up a set that only the path can lead out of; at the end the path is
empty.

* `Explored`: the arrays of a set have slots, which lead to the set or to the path;
* `Explored.opened`, `Explored.closed`: to enter and to leave an array keeps the set explored;
* `Visits.explored`: visits within the limits explore what they are asked for;
* `Item.missing_arrays_are_found`: a resolution fails at an array that is reached and has no slot, and
  at nothing else; where it returns within its limits, there is no such array.
-/

import TypeLattice.Proofs.Resolution.Acyclic

namespace TypeLattice

namespace Resolver

variable {slots : ArrayId → Option Shape}

/-- What starts in a set that leads on stays in it. -/
theorem LeadsOn.mem_of_path {met : ArrayId → Prop} (leadsOn : LeadsOn slots met) {root id : ArrayId}
    (path : Relation.ReflTransGen (Refers slots) root id) (inMet : met root) : met id := by
  induction path with
  | refl => exact inMet
  | tail _ refers ih =>
      obtain ⟨content, held, inContent⟩ := refers
      exact leadsOn _ content ih held _ inContent

/-! ### Explored arrays -/

/-- **The arrays in `seen` have been explored.** They have slots, and what these lead to is in `seen`
as well or still on the path. All arrays with known shapes are among them. -/
structure Explored (slots : ArrayId → Option Shape) (seen : Set ArrayId) (resolver : Resolver) :
    Prop where
  known : ∀ id shape, resolver.resolved.lookup id = some shape → id ∈ seen
  content : ∀ id ∈ seen, ∃ content, slots id = some content ∧
    ∀ handle ∈ content.handles, handle ∈ seen ∨ handle ∈ resolver.guard.stack

theorem explored_start (slots : ArrayId → Option Shape) (limits : Limits) :
    (start limits).Explored slots ∅ :=
  ⟨nofun, nofun⟩

variable {seen : Set ArrayId} {resolver finished : Resolver} {id : ArrayId} {content : Shape}

/-- A longer path can only help. -/
theorem Explored.opened (explored : resolver.Explored slots seen) (id : ArrayId) :
    (resolver.opened id).Explored slots seen := by
  refine ⟨explored.known, fun other inSeen => ?_⟩
  obtain ⟨content, held, onward⟩ := explored.content other inSeen
  exact ⟨content, held, fun handle inContent =>
    (onward handle inContent).imp_right (List.mem_cons_of_mem id)⟩

/-- An array that is left joins those that have been explored. -/
theorem Explored.closed (explored : finished.Explored slots seen) (shape : Shape)
    (inner : Frame (resolver.opened id) finished) (held : slots id = some content)
    (found : ∀ handle ∈ content.handles, handle ∈ seen ∨ handle ∈ finished.guard.stack) :
    (resolver.closed id finished shape).Explored slots (insert id seen) := by
  have stack : finished.guard.stack = id :: resolver.guard.stack := inner.stack
  have left : (resolver.closed id finished shape).guard.stack = resolver.guard.stack :=
    (frame_closed shape inner).stack
  -- What led to the array that is left now leads to an explored one.
  have moved : ∀ handle, handle ∈ seen ∨ handle ∈ finished.guard.stack →
      handle ∈ insert id seen ∨ handle ∈ (resolver.closed id finished shape).guard.stack := by
    rw [stack, left]
    rintro handle (inSeen | onPath)
    · exact .inl (.inr inSeen)
    · exact (List.mem_cons.mp onPath).imp_left .inl
  refine ⟨fun other result known => ?_, ?_⟩
  · rcases lookup_closed known with before | ⟨rfl, -⟩
    · exact .inr (explored.known other result before)
    · exact .inl rfl
  · rintro other (rfl | inSeen)
    · exact ⟨content, held, fun handle inContent => moved handle (found handle inContent)⟩
    · obtain ⟨content', held', onward⟩ := explored.content other inSeen
      exact ⟨content', held', fun handle inContent => moved handle (onward handle inContent)⟩

/-- **Visits within the limits explore what they are asked for**, as far as it is not on the path. -/
theorem Visits.explored {before after : Resolver} {ids : List ArrayId} {answers : List (Option Shape)}
    (visits : Visits slots before ids answers after) (within : after.guard.exceeded = false)
    (explored : before.Explored slots seen) :
    ∃ larger, seen ⊆ larger ∧ after.Explored slots larger ∧
      ∀ id ∈ ids, id ∈ larger ∨ id ∈ before.guard.stack := by
  induction visits generalizing seen with
  | done resolver => exact ⟨seen, subset_rfl, explored, nofun⟩
  | known found _ ih =>
      obtain ⟨larger, kept, exploredAfter, others⟩ := ih within explored
      refine ⟨larger, kept, exploredAfter, List.forall_mem_cons.mpr ⟨.inl ?_, others⟩⟩
      exact kept (explored.known _ _ found)
  | @cycle resolver after id ids answers unknown budget onPath rest ih =>
      have afterCut : (resolver.cutAt id).Explored slots seen := ⟨explored.known, explored.content⟩
      obtain ⟨larger, kept, exploredAfter, others⟩ := ih within afterCut
      exact ⟨larger, kept, exploredAfter, List.forall_mem_cons.mpr ⟨.inr onPath, others⟩⟩
  | limit _ _ rest ih =>
      -- A limit that was hit would still show at the end.
      cases rest.within within
  | @entered resolver finished after id content ids inner answers unknown budget offPath shallow held
      inside rest deeper ih =>
      have unhit := rest.within_inside within
      obtain ⟨middle, keptInside, exploredInside, found⟩ := deeper unhit (explored.opened id)
      rw [← inside.frame.stack] at found
      have closed := exploredInside.closed (content.fill inner) inside.frame held found
      obtain ⟨larger, kept, exploredAfter, others⟩ := ih within closed
      rw [(frame_closed (content.fill inner) inside.frame).stack] at others
      refine ⟨larger, fun other inSeen => kept (.inr (keptInside inSeen)), exploredAfter, ?_⟩
      exact List.forall_mem_cons.mpr ⟨.inl (kept (.inl rfl)), others⟩

/-- Once no array is being resolved, explored arrays lead to explored arrays. -/
theorem Explored.allocated (explored : resolver.Explored slots seen) (atRest : resolver.AtRest) :
    Allocated slots (· ∈ seen) := by
  intro id inSeen
  obtain ⟨content, held, onward⟩ := explored.content id inSeen
  refine ⟨content, held, fun handle inContent => (onward handle inContent).resolve_right ?_⟩
  rw [atRest.stack]
  exact List.not_mem_nil

end Resolver

/-! ### Arrays that are reached -/

namespace Item

open Resolver

/-- **No missing array goes unnoticed.** Let a fresh resolver be asked for any item, in any slots and
within any limits.

* Where it fails, the violation names an array that is reached from the item and has no slot.
* Where it returns and no limit was hit, every array that is reached has a slot. None was passed over
  because its shape was known, because a cycle was cut, or because a value was kept as it was. -/
theorem missing_arrays_are_found (slots : ArrayId → Option Shape) (limits : Limits) (item : Item) :
    (∀ violation stopped, item.resolve slots (start limits) = .error violation stopped →
      ∃ id ∈ reached slots [item], slots id = none ∧ violation = .unallocatedArray id ∧
        violation.message = s!"local array #{id.val} is not allocated in this environment") ∧
    ∀ result last, item.resolve slots (start limits) = .ok result last →
      last.guard.exceeded = false → ∀ id ∈ reached slots [item], (slots id).isSome = true := by
  constructor
  · intro violation stopped failed
    have leadsOn : LeadsOn slots (· ∈ reached slots [item]) := fun _ content isReached held _ inContent =>
      refers_mem_reached isReached ⟨content, held, inContent⟩
    obtain ⟨id, isReached, missing, rfl⟩ := missing_of_resolve_error leadsOn (atRest_start limits)
      (fun _ => handles_subset_reached slots) failed
    exact ⟨id, isReached, missing, rfl, rfl⟩
  · intro result last resolved within id isReached
    obtain ⟨answers, visits, -⟩ := (resolve_eq_ok_iff (atRest_start limits)).mp resolved
    obtain ⟨seen, -, explored, found⟩ := visits.explored within (explored_start slots limits)
    have allocated := explored.allocated ((atRest_start limits).of_visits visits)
    obtain ⟨holder, member, root, isRoot, path⟩ := isReached
    obtain rfl := List.mem_singleton.mp member
    have inSeen : root ∈ seen := (found root isRoot).resolve_right List.not_mem_nil
    obtain ⟨content, held, -⟩ := allocated id (allocated.leadsOn.mem_of_path path inSeen)
    rw [held]
    rfl

/-- The first array holds itself and the second, which holds an array without a slot. The third and
the fourth hold each other. -/
def unfinishedSlots (id : ArrayId) : Option Shape :=
  if id = ⟨0⟩ then some (.seq ⟨[.localArray ⟨0⟩ .any, .localArray ⟨1⟩ .any]⟩)
  else if id = ⟨1⟩ then some (.seq ⟨[.localArray ⟨7⟩ .any]⟩)
  else if id = ⟨2⟩ then some (.tuple [⟨[.localArray ⟨2⟩ .any]⟩, ⟨[.localArray ⟨3⟩ .any]⟩])
  else if id = ⟨3⟩ then some (.seq ⟨[.localArray ⟨2⟩ .any]⟩)
  else none

/-- The first array leads to the one that is missing, and the third leads to none. -/
theorem missing_arrays_are_found_unfinished :
    (∃ stopped, (Item.ty (.localArray ⟨0⟩ .any)).resolve unfinishedSlots (start .resolution) =
        .error (.unallocatedArray ⟨7⟩) stopped ∧
      ⟨7⟩ ∈ reached unfinishedSlots [.ty (.localArray ⟨0⟩ .any)] ∧ unfinishedSlots ⟨7⟩ = none) ∧
    ∃ result last, (Item.ty (.localArray ⟨2⟩ .any)).resolve unfinishedSlots (start .resolution) =
        .ok result last ∧
      ∀ id ∈ reached unfinishedSlots [.ty (.localArray ⟨2⟩ .any)], (unfinishedSlots id).isSome = true := by
  constructor
  · have failed : (Item.ty (.localArray ⟨0⟩ .any)).resolve unfinishedSlots (start .resolution) =
        .error (.unallocatedArray ⟨7⟩) _ := rfl
    obtain ⟨id, isReached, missing, same, -⟩ :=
      (missing_arrays_are_found unfinishedSlots .resolution _).1 _ _ failed
    cases same
    exact ⟨_, failed, isReached, missing⟩
  · have resolved : (Item.ty (.localArray ⟨2⟩ .any)).resolve unfinishedSlots (start .resolution) =
        .ok _ _ := rfl
    exact ⟨_, _, resolved,
      (missing_arrays_are_found unfinishedSlots .resolution _).2 _ _ resolved rfl⟩

end Item

end TypeLattice
