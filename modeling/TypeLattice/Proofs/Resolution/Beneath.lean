/-
**Resolution beneath other arrays.**

A resolver that has entered some arrays goes on beneath them as it would without them, as long as what
it meets does not lead back to them and no limit is hit: its path is longer by these arrays, its floor
lies higher by as many places, and its attempts are counted on top of theirs. The arrays it meets are
given by `own`, a set that their slots do not lead out of.

* `Beneath`: the state of a resolver beneath `outer`, and of one that has not entered these arrays;
* `Visits.alone`: what the resolver beneath does, the one alone does as well, with the same answers;
* `Visits.lookup_other`: neither learns of an array outside `own`.
-/

import TypeLattice.Proofs.Resolution.Visits

namespace TypeLattice.Resolver

/-- `nested` stands beneath the arrays `outer` where `alone` stands without them. -/
structure Beneath (own : ArrayId → Prop) (outer : List ArrayId) (alone nested : Resolver) : Prop where
  stack : nested.guard.stack = alone.guard.stack ++ outer
  limits : nested.guard.limits = alone.guard.limits
  fits : nested.guard.Fits
  attempts : alone.guard.iterations ≤ nested.guard.iterations
  bounded : nested.guard.iterations ≤ PathGuard.maxCount
  floor : nested.floor = alone.floor.map (· + outer.length)
  known : ∀ id, own id → nested.resolved.lookup id = alone.resolved.lookup id
  within : alone.guard.exceeded = false

section Steps

variable {own : ArrayId → Prop} {outer : List ArrayId} {alone nested : Resolver} {id : ArrayId}

theorem Beneath.hasBudget (beneath : Beneath own outer alone nested) (budget : nested.guard.HasBudget) :
    alone.guard.HasBudget := by
  have attempts := beneath.attempts
  have budget : min (nested.guard.iterations + 1) PathGuard.maxCount ≤
      nested.guard.limits.iterations.toNat := budget
  rw [beneath.limits] at budget
  show min (alone.guard.iterations + 1) PathGuard.maxCount ≤ alone.guard.limits.iterations.toNat
  omega

theorem Beneath.counted_le (beneath : Beneath own outer alone nested) :
    alone.guard.counted.iterations ≤ nested.guard.counted.iterations := by
  have attempts := beneath.attempts
  show min (alone.guard.iterations + 1) PathGuard.maxCount ≤
    min (nested.guard.iterations + 1) PathGuard.maxCount
  omega

/-- Where the longer path has room for an array, so has the shorter one. -/
theorem Beneath.depth_lt (beneath : Beneath own outer alone nested)
    (shallow : nested.guard.depth < nested.guard.limits.depth) :
    alone.guard.depth < alone.guard.limits.depth := by
  have longer := beneath.fits.depth_lt_iff.mp shallow
  rw [beneath.stack, List.length_append, beneath.limits] at longer
  exact PathGuard.depth_lt_of_lt (Nat.lt_of_le_of_lt (Nat.le_add_right _ outer.length) longer)

theorem counted_le_maxCount (guard : PathGuard ArrayId) :
    guard.counted.iterations ≤ PathGuard.maxCount :=
  Nat.min_le_right _ _

/-- An array that is not one of the outer ones has its place on the longer path after them. -/
theorem Beneath.position? (beneath : Beneath own outer alone nested) (inside : id ∉ outer) :
    nested.guard.position? id = (alone.guard.position? id).map (· + outer.length) := by
  have path : nested.guard.path = outer.reverse ++ alone.guard.path := by
    rw [PathGuard.path, beneath.stack, List.reverse_append]
    rfl
  have absent : outer.reverse.findIdx? (· == id) = none := by
    rw [List.findIdx?_eq_none_iff]
    intro other member
    refine beq_false_of_ne fun same => inside ?_
    rw [← same]
    exact List.mem_reverse.mp member
  show nested.guard.path.findIdx? (· == id) = _
  rw [path, List.findIdx?_append, absent, Option.none_or, List.length_reverse]
  rfl

theorem lowered_map (floor : Option Nat) (place count : Nat) :
    lowered (floor.map (· + count)) (place + count) = (lowered floor place).map (· + count) := by
  cases floor with
  | none => rfl
  | some lowest =>
      show some (min (lowest + count) (place + count)) = some (min lowest place + count)
      rw [Nat.add_min_add_right]

theorem Beneath.cutAt (beneath : Beneath own outer alone nested) (inside : id ∉ outer)
    (onPath : id ∈ alone.guard.stack) : Beneath own outer (alone.cutAt id) (nested.cutAt id) := by
  obtain ⟨place, position, -⟩ := PathGuard.exists_position? onPath
  have shifted : nested.guard.position? id = some (place + outer.length) := by
    rw [beneath.position? inside, position]
    rfl
  refine ⟨beneath.stack, beneath.limits, beneath.fits, beneath.counted_le, counted_le_maxCount _, ?_,
    beneath.known, beneath.within⟩
  rw [floor_cutAt shifted, floor_cutAt position, beneath.floor, lowered_map]

theorem Beneath.opened (beneath : Beneath own outer alone nested)
    (shallow : nested.guard.depth < nested.guard.limits.depth) :
    Beneath own outer (alone.opened id) (nested.opened id) := by
  refine ⟨?_, beneath.limits, beneath.fits.depth_lt_iff.mp shallow, beneath.counted_le,
    counted_le_maxCount _, rfl, beneath.known, beneath.within⟩
  show id :: nested.guard.stack = id :: alone.guard.stack ++ outer
  rw [beneath.stack, List.cons_append]

variable {aloneFinished nestedFinished : Resolver}

/-- A cycle leads outside an array on the longer path exactly if it does on the shorter one. -/
theorem Beneath.reachOut (beneath : Beneath own outer alone nested)
    (finished : Beneath own outer aloneFinished nestedFinished) :
    nestedFinished.reachOut nested.guard.stack.length =
      (aloneFinished.reachOut alone.guard.stack.length).map (· + outer.length) := by
  have place : nested.guard.stack.length = alone.guard.stack.length + outer.length := by
    rw [beneath.stack, List.length_append]
  have same : ∀ lowest : Nat, decide (lowest + outer.length < alone.guard.stack.length + outer.length) =
      decide (lowest < alone.guard.stack.length) := by
    intro lowest
    exact decide_eq_decide.mpr (Nat.add_lt_add_iff_right)
  rw [Resolver.reachOut, Resolver.reachOut, finished.floor, Option.filter_map, place]
  congr 2
  funext lowest
  exact same lowest

theorem Beneath.closed (beneath : Beneath own outer alone nested)
    (finished : Beneath own outer aloneFinished nestedFinished)
    (inner : Frame (alone.opened id) aloneFinished) (within : nestedFinished.guard.exceeded = false)
    (shape : Shape) :
    Beneath own outer (alone.closed id aloneFinished shape)
      (nested.closed id nestedFinished shape) := by
  have reaches := beneath.reachOut finished
  have stack : nestedFinished.guard.stack.tail = aloneFinished.guard.stack.tail ++ outer := by
    rw [finished.stack, inner.stack]
    rfl
  cases outside : aloneFinished.reachOut alone.guard.stack.length with
  | some lowest =>
      rw [outside, Option.map_some] at reaches
      rw [closed_of_reachOut outside, closed_of_reachOut reaches]
      refine ⟨stack, finished.limits, finished.fits.leave id, finished.attempts, finished.bounded, ?_,
        finished.known, finished.within⟩
      show lowered nested.floor (lowest + outer.length) = _
      rw [beneath.floor, lowered_map]
  | none =>
      rw [outside, Option.map_none] at reaches
      rw [closed_of_inside outside, closed_of_inside reaches, within, finished.within]
      refine ⟨stack, finished.limits, finished.fits.leave id, finished.attempts, finished.bounded,
        beneath.floor, ?_, finished.within⟩
      intro other isOwn
      show List.lookup other ((id, shape) :: nestedFinished.resolved) =
        List.lookup other ((id, shape) :: aloneFinished.resolved)
      rw [List.lookup_cons, List.lookup_cons, finished.known other isOwn]

end Steps

variable {slots larger : ArrayId → Option Shape} {own : ArrayId → Prop} {outer ids : List ArrayId}
  {answers : List (Option Shape)}

/-- **What a resolver does beneath other arrays, it does alone.** -/
theorem Visits.alone {nested after : Resolver} (visits : Visits larger nested ids answers after)
    (within : after.guard.exceeded = false) (allocated : Allocated slots own)
    (agree : ∀ id, own id → larger id = slots id) (outside : ∀ id ∈ outer, ¬ own id)
    (asked : ∀ id ∈ ids, own id) {alone : Resolver} (beneath : Beneath own outer alone nested) :
    ∃ aloneAfter, Visits slots alone ids answers aloneAfter ∧ Beneath own outer aloneAfter after := by
  induction visits generalizing alone with
  | done resolver => exact ⟨alone, .done alone, beneath⟩
  | @known resolver after id shape ids answers found rest ih =>
      obtain ⟨isOwn, askedLater⟩ := List.forall_mem_cons.mp asked
      obtain ⟨aloneAfter, others, beneathAfter⟩ := ih within askedLater beneath
      rw [beneath.known id isOwn] at found
      exact ⟨aloneAfter, .known found others, beneathAfter⟩
  | @cycle resolver after id ids answers unknown budget onPath rest ih =>
      obtain ⟨isOwn, askedLater⟩ := List.forall_mem_cons.mp asked
      have inside : id ∉ outer := fun member => outside id member isOwn
      rw [beneath.stack, List.mem_append, or_iff_left inside] at onPath
      obtain ⟨aloneAfter, others, beneathAfter⟩ :=
        ih within askedLater (beneath.cutAt inside onPath)
      rw [beneath.known id isOwn] at unknown
      exact ⟨aloneAfter, .cycle unknown (beneath.hasBudget budget) onPath others, beneathAfter⟩
  | limit unknown refused rest ih =>
      -- A limit that is hit stays hit.
      cases rest.within within
  | @entered resolver finished after id content ids inner answers unknown budget offPath shallow held
      inside rest deeper ih =>
      obtain ⟨isOwn, askedLater⟩ := List.forall_mem_cons.mp asked
      have finishedWithin := rest.within_inside within
      obtain ⟨content', held', contentOwn⟩ := allocated id isOwn
      obtain rfl : content' = content :=
        Option.some.inj (held'.symm.trans ((agree id isOwn).symm.trans held))
      obtain ⟨aloneFinished, aloneInside, beneathFinished⟩ :=
        deeper finishedWithin contentOwn (beneath.opened shallow)
      obtain ⟨aloneAfter, others, beneathAfter⟩ :=
        ih within askedLater
          (beneath.closed beneathFinished aloneInside.frame finishedWithin (content'.fill inner))
      rw [beneath.known id isOwn] at unknown
      rw [beneath.stack, List.mem_append, not_or] at offPath
      exact ⟨aloneAfter, .entered unknown (beneath.hasBudget budget) offPath.1 (beneath.depth_lt shallow)
        held' aloneInside others, beneathAfter⟩

/-- Visits to arrays that lead to arrays of their own kind only learn nothing of any other array. -/
theorem Visits.lookup_other {before after : Resolver} (visits : Visits slots before ids answers after)
    (closedUnder : ∀ id content, own id → slots id = some content →
      ∀ handle ∈ content.handles, own handle)
    (asked : ∀ id ∈ ids, own id) {other : ArrayId} (foreign : ¬ own other) :
    after.resolved.lookup other = before.resolved.lookup other := by
  induction visits with
  | done resolver => rfl
  | @known resolver after id shape ids answers found rest ih =>
      exact ih (List.forall_mem_cons.mp asked).2
  | @cycle resolver after id ids answers unknown budget onPath rest ih =>
      exact ih (List.forall_mem_cons.mp asked).2
  | @limit resolver after id ids answers unknown refused rest ih =>
      exact ih (List.forall_mem_cons.mp asked).2
  | @entered resolver finished after id content ids inner answers unknown budget offPath shallow held
      inside rest deeper ih =>
      obtain ⟨isOwn, askedLater⟩ := List.forall_mem_cons.mp asked
      have different : other ≠ id := fun same => foreign (same ▸ isOwn)
      rw [ih askedLater, lookup_closed_of_ne different]
      exact deeper (closedUnder id content isOwn held)

end TypeLattice.Resolver
