/-
**The rules of visiting.**

`Visits slots before ids answers after` says that a resolver in the state `before`, asked for the
arrays `ids` in turn, gives `answers` and is left in the state `after`. It has one rule for each way
in which a visit can go, and no bound on how deep visits are nested:

* `visits_of_visitAll`: what a resolver does follows the rules;
* `visitAll_of_visits`: a resolver with enough room does what the rules say;
* `Visits.frame`: visits leave the path as it was, never undo a limit that was hit, only add to the
  shapes that are known, and only lower the floor;
* `Visits.forall_shapes`: what filling keeps holds of every shape that a resolver gives or keeps;
* `missing_of_visitAll_error`: visits fail at an array that has no slot, and for no other reason;
* `visitAll_total`: where every array that can be met has a slot, a visit always returns.
-/

import TypeLattice.Proofs.Resolution.Traversal

namespace TypeLattice

/-! ### Attempts at the guard -/

namespace PathGuard

variable {κ : Type} [DecidableEq κ] (guard : PathGuard κ) (key : κ)

/-- The guard with one more attempt on its account. -/
def counted : PathGuard κ := { guard with iterations := min (guard.iterations + 1) maxCount }

/-- One more attempt is within the budget. -/
def HasBudget : Prop := guard.counted.iterations ≤ guard.limits.iterations.toNat

instance : Decidable guard.HasBudget :=
  inferInstanceAs (Decidable (guard.counted.iterations ≤ guard.limits.iterations.toNat))

/-- An attempt to enter `key` goes over a limit. -/
def Refuses : Prop :=
  ¬ guard.HasBudget ∨ key ∉ guard.stack ∧ guard.limits.depth ≤ guard.depth

variable {guard key}

theorem enter_of_mem (budget : guard.HasBudget) (onPath : key ∈ guard.stack) :
    guard.enter key = (.cycle, guard.counted) := by
  have within : ¬ guard.limits.iterations.toNat < min (guard.iterations + 1) maxCount :=
    Nat.not_lt.mpr budget
  simp only [enter, if_neg within, if_pos onPath]
  rfl

theorem enter_of_lt (budget : guard.HasBudget) (offPath : key ∉ guard.stack)
    (shallow : guard.depth < guard.limits.depth) :
    guard.enter key = (.entered, { guard.counted with stack := key :: guard.stack }) := by
  have within : ¬ guard.limits.iterations.toNat < min (guard.iterations + 1) maxCount :=
    Nat.not_lt.mpr budget
  simp only [enter, if_neg within, if_neg offPath, if_neg (UInt32.not_le.mpr shallow)]
  rfl

theorem enter_of_refuses (refused : guard.Refuses key) :
    guard.enter key = (.iterationsExceeded, { guard.counted with exceeded := true }) ∨
      guard.enter key = (.depthExceeded, { guard.counted with exceeded := true }) := by
  by_cases budget : guard.HasBudget
  · obtain spent | ⟨offPath, deep⟩ := refused
    · exact absurd budget spent
    · have within : ¬ guard.limits.iterations.toNat < min (guard.iterations + 1) maxCount :=
        Nat.not_lt.mpr budget
      right
      simp only [enter, if_neg within, if_neg offPath, if_pos deep]
      rfl
  · have spent : guard.limits.iterations.toNat < min (guard.iterations + 1) maxCount :=
      Nat.not_le.mp budget
    left
    simp only [enter, if_pos spent]
    rfl

/-- **The three ways an attempt can go.** -/
theorem enter_cases (guard : PathGuard κ) (key : κ) :
    guard.HasBudget ∧ key ∈ guard.stack ∨
      guard.HasBudget ∧ key ∉ guard.stack ∧ guard.depth < guard.limits.depth ∨
      guard.Refuses key := by
  by_cases budget : guard.HasBudget
  · by_cases onPath : key ∈ guard.stack
    · exact .inl ⟨budget, onPath⟩
    · by_cases shallow : guard.depth < guard.limits.depth
      · exact .inr (.inl ⟨budget, onPath, shallow⟩)
      · exact .inr (.inr (.inr ⟨onPath, UInt32.not_lt.mp shallow⟩))
  · exact .inr (.inr (.inl budget))

/-- A key on the path has a place there. -/
theorem exists_position? (onPath : key ∈ guard.stack) :
    ∃ place, guard.position? key = some place ∧ guard.path[place]? = some key := by
  have found : (guard.path.idxOf? key).isSome := List.isSome_idxOf?.mpr (List.mem_reverse.mpr onPath)
  obtain ⟨place, position⟩ := Option.isSome_iff_exists.mp found
  obtain ⟨short, here, -⟩ := List.idxOf?_eq_some_iff.mp position
  exact ⟨place, position, by rw [List.getElem?_eq_getElem short, here]⟩

end PathGuard

/-! ### The states of a visit -/

namespace Resolver

section States

variable (resolver : Resolver) (id : ArrayId)

/-- After an attempt that met a cycle. -/
def cutAt : Resolver := cutCycle { resolver with guard := resolver.guard.counted } id

/-- After an attempt that went over a limit. -/
def stoppedAt : Resolver :=
  giveUp { resolver with guard := { resolver.guard.counted with exceeded := true } } id

/-- After an attempt that succeeded, ready for the content of the array. -/
def opened : Resolver :=
  openArray
    { resolver with guard := { resolver.guard.counted with stack := id :: resolver.guard.stack } }

/-- The place outside the array at `place` that a cycle has reached, if one has. -/
def reachOut (place : Nat) : Option Nat := resolver.floor.filter (fun lowest => lowest < place)

/-- After the array entered from `resolver` was left in the state `finished`, with its shape. -/
def closed (finished : Resolver) (shape : Shape) : Resolver :=
  closeArray
    { finished with guard := { finished.guard with stack := finished.guard.stack.tail } }
    id resolver.guard.stack.length resolver.floor shape

variable {resolver id}

/-- A cycle lowers the floor to the place of the array it led back to. -/
theorem floor_cutAt {place : Nat} (position : resolver.guard.position? id = some place) :
    (resolver.cutAt id).floor = lowered resolver.floor place := by
  have counted : resolver.guard.counted.position? id = some place := position
  simp only [cutAt, cutCycle, counted]

@[simp] theorem guard_opened : (resolver.opened id).guard =
    { resolver.guard.counted with stack := id :: resolver.guard.stack } := rfl

variable {finished : Resolver} {shape : Shape}

/-- An array from which a cycle leads outside lowers the floor around it and is not kept. -/
theorem closed_of_reachOut {lowest : Nat}
    (outside : finished.reachOut resolver.guard.stack.length = some lowest) :
    resolver.closed id finished shape =
      { finished with
        guard := { finished.guard with stack := finished.guard.stack.tail }
        floor := lowered resolver.floor lowest } := by
  unfold closed closeArray
  rw [show ({ finished with guard := { finished.guard with stack := finished.guard.stack.tail } } :
    Resolver).floor.filter (fun lowest => lowest < resolver.guard.stack.length) = some lowest from outside]

/-- An array from which no cycle leads outside is kept, unless a limit was hit. -/
theorem closed_of_inside (inside : finished.reachOut resolver.guard.stack.length = none) :
    resolver.closed id finished shape =
      { finished with
        guard := { finished.guard with stack := finished.guard.stack.tail }
        floor := resolver.floor
        resolved := if finished.guard.exceeded then finished.resolved
          else (id, shape) :: finished.resolved } := by
  unfold closed closeArray
  rw [show ({ finished with guard := { finished.guard with stack := finished.guard.stack.tail } } :
    Resolver).floor.filter (fun lowest => lowest < resolver.guard.stack.length) = none from inside]
  unfold remember
  cases finished.guard.exceeded <;> rfl

@[simp] theorem guard_closed : (resolver.closed id finished shape).guard =
    { finished.guard with stack := finished.guard.stack.tail } := by
  cases outside : finished.reachOut resolver.guard.stack.length with
  | some lowest => rw [closed_of_reachOut outside]
  | none => rw [closed_of_inside outside]

/-- The shapes that are known after an array was left: those known before, and its own if no cycle
led outside and no limit was hit. -/
theorem lookup_closed {other : ArrayId} {result : Shape}
    (found : (resolver.closed id finished shape).resolved.lookup other = some result) :
    finished.resolved.lookup other = some result ∨
      other = id ∧ result = shape ∧ finished.reachOut resolver.guard.stack.length = none ∧
        finished.guard.exceeded = false := by
  cases outside : finished.reachOut resolver.guard.stack.length with
  | some lowest =>
      rw [closed_of_reachOut outside] at found
      exact .inl found
  | none =>
      rw [closed_of_inside outside] at found
      cases hit : finished.guard.exceeded with
      | true =>
          rw [hit] at found
          exact .inl found
      | false =>
          simp only [hit, Bool.false_eq_true, if_false, List.lookup_cons] at found
          by_cases same : other = id
          · simp only [same, beq_self_eq_true, Option.some.injEq] at found
            exact .inr ⟨same, found.symm, rfl, rfl⟩
          · simp only [beq_false_of_ne same] at found
            exact .inl found

theorem lookup_closed_of_ne {other : ArrayId} (different : other ≠ id) :
    (resolver.closed id finished shape).resolved.lookup other = finished.resolved.lookup other := by
  cases outside : finished.reachOut resolver.guard.stack.length with
  | some lowest => rw [closed_of_reachOut outside]
  | none =>
      rw [closed_of_inside outside]
      cases finished.guard.exceeded with
      | true => rfl
      | false =>
          show List.lookup other ((id, shape) :: finished.resolved) = _
          rw [List.lookup_cons, beq_false_of_ne different]

end States

/-! ### The rules -/

/-- **The rules of visiting.** Each array is known, or met again on the path, or over a limit, or
entered; then its content is visited in the same way and it is left. -/
inductive Visits (slots : ArrayId → Option Shape) :
    Resolver → List ArrayId → List (Option Shape) → Resolver → Prop
  | done (resolver : Resolver) : Visits slots resolver [] [] resolver
  | known {resolver after : Resolver} {id : ArrayId} {shape : Shape} {ids : List ArrayId}
      {answers : List (Option Shape)} :
      resolver.resolved.lookup id = some shape →
      Visits slots resolver ids answers after →
      Visits slots resolver (id :: ids) (some shape :: answers) after
  | cycle {resolver after : Resolver} {id : ArrayId} {ids : List ArrayId}
      {answers : List (Option Shape)} :
      resolver.resolved.lookup id = none →
      resolver.guard.HasBudget → id ∈ resolver.guard.stack →
      Visits slots (resolver.cutAt id) ids answers after →
      Visits slots resolver (id :: ids) (none :: answers) after
  | limit {resolver after : Resolver} {id : ArrayId} {ids : List ArrayId}
      {answers : List (Option Shape)} :
      resolver.resolved.lookup id = none →
      resolver.guard.Refuses id →
      Visits slots (resolver.stoppedAt id) ids answers after →
      Visits slots resolver (id :: ids) (none :: answers) after
  | entered {resolver finished after : Resolver} {id : ArrayId} {content : Shape}
      {ids : List ArrayId} {inner answers : List (Option Shape)} :
      resolver.resolved.lookup id = none →
      resolver.guard.HasBudget → id ∉ resolver.guard.stack →
      resolver.guard.depth < resolver.guard.limits.depth →
      slots id = some content →
      Visits slots (resolver.opened id) content.handles inner finished →
      Visits slots (resolver.closed id finished (content.fill inner)) ids answers after →
      Visits slots resolver (id :: ids) (some (content.fill inner) :: answers) after

/-! ### The frame of visits -/

/-- The floor `lower` lies at `upper` or further out. -/
def FloorLE (lower upper : Option Nat) : Prop := ∀ place ∈ upper, ∃ lowest ∈ lower, lowest ≤ place

theorem FloorLE.refl (floor : Option Nat) : FloorLE floor floor := fun place member =>
  ⟨place, member, Nat.le_refl place⟩

theorem FloorLE.trans {first second third : Option Nat} (lower : FloorLE first second)
    (upper : FloorLE second third) : FloorLE first third := by
  intro place member
  obtain ⟨middle, inSecond, middleLe⟩ := upper place member
  obtain ⟨lowest, inFirst, lowestLe⟩ := lower middle inSecond
  exact ⟨lowest, inFirst, Nat.le_trans lowestLe middleLe⟩

theorem lowered_floorLE (floor : Option Nat) (place : Nat) : FloorLE (lowered floor place) floor := by
  intro other member
  cases floor with
  | none => cases member
  | some lowest =>
      obtain rfl : lowest = other := Option.some.inj member
      exact ⟨min lowest place, rfl, Nat.min_le_left lowest place⟩

/-- A lowered floor lies at the given place or further out. -/
theorem exists_mem_lowered (floor : Option Nat) (place : Nat) :
    ∃ lowest ∈ lowered floor place, lowest ≤ place := by
  cases floor with
  | none => exact ⟨place, rfl, Nat.le_refl place⟩
  | some lowest => exact ⟨min lowest place, rfl, Nat.min_le_right lowest place⟩

/-- What visits leave as it was, and which way they move the rest. -/
structure Frame (before after : Resolver) : Prop where
  stack : after.guard.stack = before.guard.stack
  limits : after.guard.limits = before.guard.limits
  exceeded : before.guard.exceeded = true → after.guard.exceeded = true
  floor : FloorLE after.floor before.floor

theorem Frame.refl (resolver : Resolver) : Frame resolver resolver :=
  ⟨rfl, rfl, id, .refl _⟩

theorem Frame.trans {first second third : Resolver} (before : Frame first second)
    (after : Frame second third) : Frame first third :=
  ⟨after.stack.trans before.stack, after.limits.trans before.limits,
    fun hit => after.exceeded (before.exceeded hit), after.floor.trans before.floor⟩

theorem frame_cutAt {resolver : Resolver} {id : ArrayId} (onPath : id ∈ resolver.guard.stack) :
    Frame resolver (resolver.cutAt id) := by
  obtain ⟨place, position, -⟩ := PathGuard.exists_position? onPath
  refine ⟨rfl, rfl, fun hit => hit, ?_⟩
  rw [floor_cutAt position]
  exact lowered_floorLE resolver.floor place

theorem frame_stoppedAt (resolver : Resolver) (id : ArrayId) :
    Frame resolver (resolver.stoppedAt id) :=
  ⟨rfl, rfl, fun _ => rfl, .refl _⟩

/-- An array that is left puts the path back as it was before it was entered. -/
theorem frame_closed {resolver finished : Resolver} {id : ArrayId} (shape : Shape)
    (inner : Frame (resolver.opened id) finished) :
    Frame resolver (resolver.closed id finished shape) := by
  refine ⟨?_, ?_, ?_, ?_⟩
  · rw [guard_closed]
    show finished.guard.stack.tail = resolver.guard.stack
    rw [inner.stack, guard_opened, List.tail_cons]
  · rw [guard_closed]
    exact inner.limits
  · rw [guard_closed]
    exact inner.exceeded
  · cases outside : finished.reachOut resolver.guard.stack.length with
    | some lowest =>
        rw [closed_of_reachOut outside]
        exact lowered_floorLE resolver.floor lowest
    | none =>
        rw [closed_of_inside outside]
        exact .refl _

variable {slots : ArrayId → Option Shape} {before after : Resolver} {ids : List ArrayId}
  {answers : List (Option Shape)}

/-- **The frame of visits.** -/
theorem Visits.frame (visits : Visits slots before ids answers after) : Frame before after := by
  induction visits with
  | done resolver => exact .refl resolver
  | known _ _ ih => exact ih
  | cycle _ _ onPath _ ih => exact (frame_cutAt onPath).trans ih
  | limit _ _ _ ih => exact (frame_stoppedAt _ _).trans ih
  | entered _ _ _ _ _ _ _ inner ih => exact (frame_closed _ inner).trans ih

/-! ### Visits one after the other -/

theorem Visits.length_eq (visits : Visits slots before ids answers after) :
    answers.length = ids.length := by
  induction visits with
  | done resolver => rfl
  | known _ _ ih => rw [List.length_cons, List.length_cons, ih]
  | cycle _ _ _ _ ih => rw [List.length_cons, List.length_cons, ih]
  | limit _ _ _ ih => rw [List.length_cons, List.length_cons, ih]
  | entered _ _ _ _ _ _ _ _ ih => rw [List.length_cons, List.length_cons, ih]

theorem Visits.append {middle : Resolver} {others : List ArrayId} {more : List (Option Shape)}
    (visits : Visits slots before ids answers middle) (next : Visits slots middle others more after) :
    Visits slots before (ids ++ others) (answers ++ more) after := by
  induction visits with
  | done resolver => exact next
  | known found _ ih => exact .known found (ih next)
  | cycle unknown budget onPath _ ih => exact .cycle unknown budget onPath (ih next)
  | limit unknown refused _ ih => exact .limit unknown refused (ih next)
  | entered unknown budget offPath shallow held inside _ _ ih =>
      exact .entered unknown budget offPath shallow held inside (ih next)

/-- Visits to two lists of arrays, taken apart. -/
theorem Visits.split {others : List ArrayId}
    (visits : Visits slots before (ids ++ others) answers after) :
    ∃ middle, Visits slots before ids (answers.take ids.length) middle ∧
      Visits slots middle others (answers.drop ids.length) after := by
  induction ids generalizing before answers with
  | nil => exact ⟨before, .done before, visits⟩
  | cons id ids ih =>
      cases visits with
      | known found rest =>
          obtain ⟨middle, first, second⟩ := ih rest
          exact ⟨middle, .known found first, second⟩
      | cycle unknown budget onPath rest =>
          obtain ⟨middle, first, second⟩ := ih rest
          exact ⟨middle, .cycle unknown budget onPath first, second⟩
      | limit unknown refused rest =>
          obtain ⟨middle, first, second⟩ := ih rest
          exact ⟨middle, .limit unknown refused first, second⟩
      | entered unknown budget offPath shallow held inside rest =>
          obtain ⟨middle, first, second⟩ := ih rest
          exact ⟨middle, .entered unknown budget offPath shallow held inside first, second⟩

/-- A limit that was not hit in the end was never hit. -/
theorem Visits.within (visits : Visits slots before ids answers after)
    (unhit : after.guard.exceeded = false) : before.guard.exceeded = false := by
  cases hit : before.guard.exceeded with
  | false => rfl
  | true =>
      rw [visits.frame.exceeded hit] at unhit
      cases unhit

/-- Nor was it hit inside an array that was left before. -/
theorem Visits.within_inside {resolver finished : Resolver} {id : ArrayId} {shape : Shape}
    (rest : Visits slots (resolver.closed id finished shape) ids answers after)
    (unhit : after.guard.exceeded = false) : finished.guard.exceeded = false := by
  have left := rest.within unhit
  rwa [guard_closed] at left

/-! ### What all shapes have in common -/

/-- Something holds of every shape that is known. -/
def Knows (holds : Shape → Prop) (resolver : Resolver) : Prop :=
  ∀ id shape, resolver.resolved.lookup id = some shape → holds shape

/-- **What filling keeps holds of every shape that a resolver gives or keeps.** It has to hold of the
content of a slot once it holds of the shapes that are filled in. -/
theorem Visits.forall_shapes {holds : Shape → Prop} (visits : Visits slots before ids answers after)
    (keeps : ∀ id content inner, slots id = some content → AllAnswers holds inner →
      holds (content.fill inner))
    (known : before.Knows holds) : after.Knows holds ∧ AllAnswers holds answers := by
  induction visits with
  | done resolver => exact ⟨known, nofun⟩
  | known found _ ih =>
      obtain ⟨knownAfter, later⟩ := ih known
      exact ⟨knownAfter, .some (known _ _ found) later⟩
  | cycle _ _ _ _ ih =>
      obtain ⟨knownAfter, later⟩ := ih known
      exact ⟨knownAfter, .none later⟩
  | limit _ _ _ ih =>
      obtain ⟨knownAfter, later⟩ := ih known
      exact ⟨knownAfter, .none later⟩
  | @entered resolver finished after id content ids inner answers _ _ _ _ held _ _ deeper ih =>
      obtain ⟨knownFinished, allInner⟩ := deeper known
      have here := keeps id content inner held allInner
      have knownClosed : (resolver.closed id finished (content.fill inner)).Knows holds := by
        intro other result found
        rcases lookup_closed found with found | ⟨-, rfl, -, -⟩
        · exact knownFinished other result found
        · exact here
      obtain ⟨knownAfter, later⟩ := ih knownClosed
      exact ⟨knownAfter, .some here later⟩

/-! ### The rules and the resolver -/

section Steps

variable {resolver : Resolver} {id : ArrayId} {room : Nat}

theorem visit_of_known {shape : Shape} (found : resolver.resolved.lookup id = some shape) :
    visit slots (room + 1) id resolver = .ok (some shape) resolver := by
  simp only [visit, found]

theorem visit_of_cycle (unknown : resolver.resolved.lookup id = none)
    (budget : resolver.guard.HasBudget) (onPath : id ∈ resolver.guard.stack) :
    visit slots (room + 1) id resolver = .ok none (resolver.cutAt id) := by
  simp only [visit, unknown, enter, PathGuard.enter_of_mem budget onPath]
  rfl

theorem visit_of_limit (unknown : resolver.resolved.lookup id = none)
    (refused : resolver.guard.Refuses id) :
    visit slots (room + 1) id resolver = .ok none (resolver.stoppedAt id) := by
  rcases PathGuard.enter_of_refuses refused with entry | entry
  · simp only [visit, unknown, enter, entry]
    rfl
  · simp only [visit, unknown, enter, entry]
    rfl

/-- A visit to an array that can be entered is a list of visits to its content. -/
theorem visit_of_lt (unknown : resolver.resolved.lookup id = none)
    (budget : resolver.guard.HasBudget) (offPath : id ∉ resolver.guard.stack)
    (shallow : resolver.guard.depth < resolver.guard.limits.depth) :
    visit slots (room + 1) id resolver =
      match slots id with
      | none => .error (.unallocatedArray id) (resolver.opened id)
      | some content =>
        match visitAll (visit slots room) content.handles (resolver.opened id) with
        | .error violation stopped => .error violation stopped
        | .ok inner finished =>
          if finished.guard.stack.head? = some id then
            .ok (some (content.fill inner)) (resolver.closed id finished (content.fill inner))
          else .error (.brokenPath (.misnamed finished.guard.stack.head? id))
            { finished with guard := { finished.guard with stack := finished.guard.stack.tail } } := by
  simp only [visit, unknown, enter, PathGuard.enter_of_lt budget offPath shallow]
  cases held : slots id with
  | none => rfl
  | some content =>
      have start : openArray { resolver with
          guard := { resolver.guard.counted with stack := id :: resolver.guard.stack } } =
        resolver.opened id := rfl
      simp only [Shape.resolveWith_eq_map, start, Functor.map, EStateM.map]
      cases visited : visitAll (visit slots room) content.handles (resolver.opened id) with
      | error violation stopped => rfl
      | ok inner finished =>
          by_cases top : finished.guard.stack.head? = some id
          · simp only [leave, PathGuard.leave, if_pos top]
            rfl
          · simp only [leave, PathGuard.leave, if_neg top]

end Steps

/-- **What a resolver does follows the rules.** -/
theorem visits_of_visitAll {room : Nat}
    (ran : visitAll (visit slots room) ids before = .ok answers after) :
    Visits slots before ids answers after := by
  induction room generalizing ids before answers after with
  | zero =>
      cases ids with
      | nil =>
          obtain ⟨rfl, rfl⟩ := pure_eq_ok_iff.mp ran
          exact .done before
      | cons id rest =>
          obtain ⟨answer, middle, visited, -⟩ := bind_eq_ok_iff.mp ran
          cases visited
  | succ room deeper =>
      induction ids generalizing before answers with
      | nil =>
          obtain ⟨rfl, rfl⟩ := pure_eq_ok_iff.mp ran
          exact .done before
      | cons id rest ih =>
          obtain ⟨answer, middle, visited, remaining⟩ := bind_eq_ok_iff.mp ran
          obtain ⟨others, last, visitedRest, returned⟩ := bind_eq_ok_iff.mp remaining
          obtain ⟨rfl, rfl⟩ := pure_eq_ok_iff.mp returned
          have followed := ih visitedRest
          cases found : before.resolved.lookup id with
          | some shape =>
              rw [visit_of_known found] at visited
              cases visited
              exact .known found followed
          | none =>
              rcases before.guard.enter_cases id with
                ⟨budget, onPath⟩ | ⟨budget, offPath, shallow⟩ | refused
              · rw [visit_of_cycle found budget onPath] at visited
                cases visited
                exact .cycle found budget onPath followed
              · rw [visit_of_lt found budget offPath shallow] at visited
                cases held : slots id with
                | none =>
                    rw [held] at visited
                    cases visited
                | some content =>
                    simp only [held] at visited
                    cases inside : visitAll (visit slots room) content.handles (before.opened id) with
                    | error violation stopped =>
                        rw [inside] at visited
                        cases visited
                    | ok inner finished =>
                        simp only [inside] at visited
                        split at visited
                        · cases visited
                          exact .entered found budget offPath shallow held (deeper inside) followed
                        · cases visited
              · rw [visit_of_limit found refused] at visited
                cases visited
                exact .limit found refused followed

/-- The path is within its limit, and `room` more arrays would take it over the limit. -/
def HasRoom (resolver : Resolver) (room : Nat) : Prop :=
  resolver.guard.Fits ∧ resolver.guard.limits.depth.toNat < room + resolver.guard.stack.length

theorem HasRoom.of_frame {room : Nat} (enough : before.HasRoom room) (frame : Frame before after) :
    after.HasRoom room := by
  unfold HasRoom PathGuard.Fits
  rw [frame.stack, frame.limits]
  exact enough

theorem HasRoom.exists_succ {room : Nat} (enough : before.HasRoom room) :
    ∃ smaller, room = smaller + 1 := by
  obtain ⟨fits, beyond⟩ := enough
  unfold PathGuard.Fits at fits
  exact ⟨room - 1, by omega⟩

theorem HasRoom.opened {room : Nat} (enough : before.HasRoom (room + 1)) (id : ArrayId)
    (shallow : before.guard.depth < before.guard.limits.depth) : (before.opened id).HasRoom room := by
  obtain ⟨fits, beyond⟩ := enough
  refine ⟨fits.depth_lt_iff.mp shallow, ?_⟩
  show before.guard.limits.depth.toNat < room + (before.guard.stack.length + 1)
  omega

theorem visitAll_cons {visit : ArrayId → ResolveM (Option Shape)} {id : ArrayId} {answer : Option Shape}
    {middle : Resolver} (first : visit id before = .ok answer middle)
    (others : visitAll visit ids middle = .ok answers after) :
    visitAll visit (id :: ids) before = .ok (answer :: answers) after :=
  bind_eq_ok_iff.mpr ⟨answer, middle, first,
    bind_eq_ok_iff.mpr ⟨answers, after, others, pure_eq_ok_iff.mpr ⟨rfl, rfl⟩⟩⟩

/-- **A resolver with enough room does what the rules say.** -/
theorem visitAll_of_visits (visits : Visits slots before ids answers after) {room : Nat}
    (enough : before.HasRoom room) : visitAll (visit slots room) ids before = .ok answers after := by
  induction visits generalizing room with
  | done resolver => rfl
  | known found _ ih =>
      obtain ⟨room, rfl⟩ := enough.exists_succ
      exact visitAll_cons (visit_of_known found) (ih enough)
  | cycle unknown budget onPath _ ih =>
      obtain ⟨room, rfl⟩ := enough.exists_succ
      exact visitAll_cons (visit_of_cycle unknown budget onPath)
        (ih (enough.of_frame (frame_cutAt onPath)))
  | limit unknown refused _ ih =>
      obtain ⟨room, rfl⟩ := enough.exists_succ
      exact visitAll_cons (visit_of_limit unknown refused)
        (ih (enough.of_frame (frame_stoppedAt _ _)))
  | @entered resolver finished after id content ids inner answers unknown budget offPath shallow held
      inside _ deeper ih =>
      obtain ⟨room, rfl⟩ := enough.exists_succ
      have top : finished.guard.stack.head? = some id := by rw [inside.frame.stack]; rfl
      refine visitAll_cons ?_ (ih (enough.of_frame (frame_closed _ inside.frame)))
      simp only [visit_of_lt unknown budget offPath shallow, held, deeper (enough.opened id shallow),
        if_pos top]

/-- Where an array in `met` has a slot, the arrays met in that slot are in `met`. -/
def LeadsOn (slots : ArrayId → Option Shape) (met : ArrayId → Prop) : Prop :=
  ∀ id content, met id → slots id = some content → ∀ handle ∈ content.handles, met handle

/-- A visit that returns has the frame of visits. -/
theorem frame_of_visit {room : Nat} {id : ArrayId} {answer : Option Shape}
    (visited : visit slots room id before = .ok answer after) : Frame before after := by
  have alone : visitAll (visit slots room) [id] before = .ok [answer] after := visitAll_cons visited rfl
  exact (visits_of_visitAll alone).frame

/-- **Visits fail at an array that has no slot, and for no other reason.** -/
theorem missing_of_visitAll_error {met : ArrayId → Prop} (leadsOn : LeadsOn slots met) {room : Nat}
    (enough : before.HasRoom room) (asked : ∀ id ∈ ids, met id) {violation : Violation}
    {stopped : Resolver} (failed : visitAll (visit slots room) ids before = .error violation stopped) :
    ∃ missing, met missing ∧ slots missing = none ∧ violation = .unallocatedArray missing := by
  induction room generalizing ids before with
  | zero =>
      obtain ⟨smaller, impossible⟩ := enough.exists_succ
      cases impossible
  | succ room deeper =>
      induction ids generalizing before with
      | nil => cases failed
      | cons id rest ih =>
          obtain ⟨askedHere, askedLater⟩ := List.forall_mem_cons.mp asked
          rcases bind_eq_error_iff.mp failed with failedHere | ⟨answer, middle, visited, remaining⟩
          · cases found : before.resolved.lookup id with
            | some shape =>
                rw [visit_of_known found] at failedHere
                cases failedHere
            | none =>
                rcases before.guard.enter_cases id with
                  ⟨budget, onPath⟩ | ⟨budget, offPath, shallow⟩ | refused
                · rw [visit_of_cycle found budget onPath] at failedHere
                  cases failedHere
                · rw [visit_of_lt found budget offPath shallow] at failedHere
                  cases held : slots id with
                  | none =>
                      rw [held] at failedHere
                      cases failedHere
                      exact ⟨id, askedHere, held, rfl⟩
                  | some content =>
                      simp only [held] at failedHere
                      have askedInside := leadsOn id content askedHere held
                      cases inside : visitAll (visit slots room) content.handles (before.opened id) with
                      | error fault last =>
                          rw [inside] at failedHere
                          cases failedHere
                          exact deeper (enough.opened id shallow) askedInside inside
                      | ok inner finished =>
                          have top : finished.guard.stack.head? = some id := by
                            rw [(visits_of_visitAll inside).frame.stack]
                            rfl
                          simp only [inside, if_pos top] at failedHere
                          cases failedHere
                · rw [visit_of_limit found refused] at failedHere
                  cases failedHere
          · rcases bind_eq_error_iff.mp remaining with failedLater | ⟨others, last, -, returned⟩
            · exact ih (enough.of_frame (frame_of_visit visited)) askedLater failedLater
            · cases returned

/-- The arrays in `met` have slots, and so have all arrays met in their slots. -/
def Allocated (slots : ArrayId → Option Shape) (met : ArrayId → Prop) : Prop :=
  ∀ id, met id → ∃ content, slots id = some content ∧ ∀ handle ∈ content.handles, met handle

theorem Allocated.leadsOn {met : ArrayId → Prop} (allocated : Allocated slots met) :
    LeadsOn slots met := by
  intro id content inMet held
  obtain ⟨content', held', within⟩ := allocated id inMet
  rwa [Option.some.inj (held.symm.trans held')]

/-- **Visits to arrays that have slots always return**, however the slots refer to each other. -/
theorem visitAll_total {met : ArrayId → Prop} (allocated : Allocated slots met) {room : Nat}
    (enough : before.HasRoom room) (asked : ∀ id ∈ ids, met id) :
    ∃ answers after, visitAll (visit slots room) ids before = .ok answers after := by
  cases ran : visitAll (visit slots room) ids before with
  | ok answers after => exact ⟨answers, after, rfl⟩
  | error violation stopped =>
      obtain ⟨missing, inMet, none, -⟩ := missing_of_visitAll_error allocated.leadsOn enough asked ran
      obtain ⟨content, held, -⟩ := allocated missing inMet
      rw [held] at none
      cases none

/-! ### Between resolutions -/

/-- The floor, where there is one, is a place on the path. -/
def FloorOnPath (resolver : Resolver) : Prop :=
  ∀ lowest ∈ resolver.floor, lowest < resolver.guard.stack.length

theorem mem_lowered_lt {floor : Option Nat} {place bound lowest : Nat}
    (outer : ∀ other ∈ floor, other < bound) (inner : place < bound)
    (member : lowest ∈ lowered floor place) : lowest < bound := by
  cases floor with
  | none =>
      obtain rfl : place = lowest := Option.some.inj member
      exact inner
  | some other =>
      obtain rfl : min other place = lowest := Option.some.inj member
      exact Nat.lt_of_le_of_lt (Nat.min_le_right other place) inner

/-- **Visits keep the floor on the path.** -/
theorem Visits.floorOnPath (visits : Visits slots before ids answers after)
    (start : before.FloorOnPath) : after.FloorOnPath := by
  induction visits with
  | done resolver => exact start
  | known _ _ ih => exact ih start
  | @cycle resolver after id ids answers _ _ onPath _ ih =>
      apply ih
      obtain ⟨place, position, here⟩ := PathGuard.exists_position? onPath
      have short : place < resolver.guard.stack.length := by
        have := (List.getElem?_eq_some_iff.mp here).1
        rwa [PathGuard.path, List.length_reverse] at this
      intro lowest member
      rw [floor_cutAt position] at member
      exact mem_lowered_lt start short member
  | limit _ _ _ ih => exact ih start
  | @entered resolver finished after id content ids inner answers _ _ _ _ _ inside _ _ ih =>
      apply ih
      have frame := frame_closed (content.fill inner) inside.frame
      intro lowest member
      rw [frame.stack]
      cases outside : finished.reachOut resolver.guard.stack.length with
      | some outermost =>
          rw [closed_of_reachOut outside] at member
          have below := (Option.filter_eq_some_iff.mp outside).2
          exact mem_lowered_lt start (of_decide_eq_true below) member
      | none =>
          rw [closed_of_inside outside] at member
          exact start lowest member

/-- No array is being resolved. -/
structure AtRest (resolver : Resolver) : Prop where
  stack : resolver.guard.stack = []
  floor : resolver.floor = none

theorem atRest_start (limits : Limits) : (start limits).AtRest := ⟨rfl, rfl⟩

/-- Visits that start outside all arrays end there. -/
theorem AtRest.of_visits (atRest : before.AtRest) (visits : Visits slots before ids answers after) :
    after.AtRest := by
  have stack : after.guard.stack = [] := visits.frame.stack.trans atRest.stack
  refine ⟨stack, Option.eq_none_iff_forall_not_mem.mpr fun lowest member => ?_⟩
  have onPath : before.FloorOnPath := by
    intro lowest member
    rw [atRest.floor] at member
    cases member
  have below := visits.floorOnPath onPath lowest member
  rw [stack] at below
  exact absurd below (Nat.not_lt_zero lowest)

theorem AtRest.hasRoom (atRest : before.AtRest) : before.HasRoom before.room := by
  unfold HasRoom PathGuard.Fits room
  rw [atRest.stack]
  exact ⟨Nat.zero_le _, Nat.lt_succ_self _⟩

end Resolver

namespace Item

open Resolver

variable {slots : ArrayId → Option Shape} {before after : Resolver} {item result : Item}

/-- **A resolution returns what the visits to its handles give.** -/
theorem resolve_eq_ok_iff (atRest : before.AtRest) :
    item.resolve slots before = .ok result after ↔
      ∃ answers, Visits slots before item.handles answers after ∧ item.fill answers = result := by
  rw [resolve_eq_map, map_eq_pure_bind, bind_eq_ok_iff]
  constructor
  · rintro ⟨answers, middle, visited, returned⟩
    obtain ⟨rfl, rfl⟩ := pure_eq_ok_iff.mp returned
    exact ⟨answers, visits_of_visitAll visited, rfl⟩
  · rintro ⟨answers, visits, rfl⟩
    exact ⟨answers, after, visitAll_of_visits visits atRest.hasRoom, pure_eq_ok_iff.mpr ⟨rfl, rfl⟩⟩

/-- **A resolution returns wherever every array that can be met has a slot.** -/
theorem exists_resolve_eq_ok {met : ArrayId → Prop} (allocated : Allocated slots met)
    (atRest : before.AtRest) (asked : ∀ id ∈ item.handles, met id) :
    ∃ result after, item.resolve slots before = .ok result after := by
  obtain ⟨answers, after, visited⟩ := visitAll_total allocated atRest.hasRoom asked
  exact ⟨item.fill answers, after,
    (resolve_eq_ok_iff atRest).mpr ⟨answers, visits_of_visitAll visited, rfl⟩⟩

/-- **A resolution fails at an array that has no slot, and for no other reason.** -/
theorem missing_of_resolve_error {met : ArrayId → Prop} (leadsOn : LeadsOn slots met)
    (atRest : before.AtRest) (asked : ∀ id ∈ item.handles, met id) {violation : Violation}
    {stopped : Resolver} (failed : item.resolve slots before = .error violation stopped) :
    ∃ missing, met missing ∧ slots missing = none ∧ violation = .unallocatedArray missing := by
  rw [resolve_eq_map, map_eq_pure_bind, bind_eq_error_iff] at failed
  rcases failed with failedVisits | ⟨answers, last, -, returned⟩
  · exact missing_of_visitAll_error leadsOn atRest.hasRoom asked failedVisits
  · cases returned

/-- A run whose resolution returns leaves no array on the path, so it returns as well. -/
theorem run_eq_ok {limits : Limits} (resolved : item.resolve slots (start limits) = .ok result after) :
    run limits (item.resolve slots) = (.ok result, after.log) := by
  obtain ⟨answers, visits, -⟩ := (resolve_eq_ok_iff (atRest_start limits)).mp resolved
  have atRest := (atRest_start limits).of_visits visits
  simp only [run, resolved, PathGuard.finish, atRest.stack]
  rfl

theorem resolveAll_cons_eq_ok_iff {rest results : List Item} :
    resolveAll slots (item :: rest) before = .ok results after ↔
      ∃ result middle others, item.resolve slots before = .ok result middle ∧
        resolveAll slots rest middle = .ok others after ∧ results = result :: others := by
  constructor
  · intro resolved
    obtain ⟨result, middle, resolvedItem, remaining⟩ := bind_eq_ok_iff.mp resolved
    obtain ⟨others, last, resolvedRest, returned⟩ := bind_eq_ok_iff.mp remaining
    obtain ⟨rfl, rfl⟩ := pure_eq_ok_iff.mp returned
    exact ⟨result, middle, others, resolvedItem, resolvedRest, rfl⟩
  · rintro ⟨result, middle, others, resolvedItem, resolvedRest, rfl⟩
    exact bind_eq_ok_iff.mpr ⟨result, middle, resolvedItem,
      bind_eq_ok_iff.mpr ⟨others, after, resolvedRest, pure_eq_ok_iff.mpr ⟨rfl, rfl⟩⟩⟩

/-- What holds of a resolver at first and is kept by each resolution holds after any number of them. -/
theorem resolveAll_induction (holds : Resolver → Prop) {items results : List Item}
    (keeps : ∀ {item result : Item} {before after : Resolver}, holds before →
      item.resolve slots before = .ok result after → holds after)
    (first : holds before) (resolved : resolveAll slots items before = .ok results after) :
    holds after := by
  induction items generalizing before results with
  | nil =>
      obtain ⟨-, rfl⟩ := pure_eq_ok_iff.mp resolved
      exact first
  | cons item rest ih =>
      obtain ⟨result, middle, others, resolvedItem, resolvedRest, -⟩ :=
        resolveAll_cons_eq_ok_iff.mp resolved
      exact ih (keeps first resolvedItem) resolvedRest

end Item

end TypeLattice
