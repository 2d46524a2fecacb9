/-
**A guard keeps account of all calls.**

A guard may be asked to enter and to leave any keys in any order. A wrong key that is to be left is a
fault, and the innermost key is gone even so. The calls with their answers, the *exchanges*, say what the
guard has to know:

* `iterationsExceeded_iff`, `path_enter`, `path_leave`: what one call answers and what it leaves;
* `Accounts`: the guard agrees with the exchanges, and its path is within its limit and has no key twice;
* `Accounts.serve`, `Accounts.serveAll`: one call, and calls in turn, keep the account;
* `Nested`, `Nested.restores`: a block of calls in which every key that was entered is left again,
  innermost first, restores the path;
* `guard_keeps_account`: what this says about any calls on a new guard.
-/

import Mathlib.Data.List.Nodup
import TypeLattice.PathGuard

namespace TypeLattice

namespace PathGuard

variable {κ : Type}

/-! ### Calls and exchanges -/

/-- A call on a guard. -/
inductive Call (κ : Type) where
  | enter (key : κ)
  | leave (key : κ)

/-- A call with its answer. -/
inductive Exchange (κ : Type) where
  | enter (key : κ) (answer : Entry)
  | leave (key : κ) (outcome : Except (Fault κ) Unit)

/-- Whether a call asks to enter a key. -/
def Call.isEnter : Call κ → Bool
  | .enter _ => true
  | .leave _ => false

namespace Exchange

/-- The call of an exchange. -/
@[simp] def call : Exchange κ → Call κ
  | enter key _ => .enter key
  | leave key _ => .leave key

/-- Whether a key was entered. -/
def isEntered : Exchange κ → Bool
  | enter _ answer => answer = .entered
  | leave _ _ => false

/-- Whether an attempt went over a limit. -/
def isOverLimit : Exchange κ → Bool
  | enter _ answer => answer.isOverLimit
  | leave _ _ => false

end Exchange

/-- The number of attempts among exchanges. -/
def attempts (exchanges : List (Exchange κ)) : Nat :=
  exchanges.countP fun exchange => exchange.call.isEnter

/-- The number of keys that were entered. -/
def entries (exchanges : List (Exchange κ)) : Nat := exchanges.countP Exchange.isEntered

section Counts

variable (past : List (Exchange κ)) (key : κ)

theorem attempts_enter (answer : Entry) :
    attempts (past ++ [.enter key answer]) = attempts past + 1 := by
  simp [attempts, List.countP_append, Call.isEnter]

theorem attempts_leave (outcome : Except (Fault κ) Unit) :
    attempts (past ++ [.leave key outcome]) = attempts past := by
  simp [attempts, List.countP_append, Call.isEnter]

theorem entries_enter (answer : Entry) :
    entries (past ++ [.enter key answer]) = entries past + if answer = .entered then 1 else 0 := by
  simp [entries, List.countP_append, List.countP_cons, Exchange.isEntered]

theorem entries_leave (outcome : Except (Fault κ) Unit) :
    entries (past ++ [.leave key outcome]) = entries past := by
  simp [entries, List.countP_append, Exchange.isEntered]

end Counts

/-- **The guard agrees with the exchanges so far**, and its path is within its limit and has no key
twice. -/
structure Accounts (limits : Limits) (past : List (Exchange κ)) (guard : PathGuard κ) : Prop where
  sameLimits : guard.limits = limits
  distinct : guard.stack.Nodup
  fits : guard.Fits
  counted : guard.iterations = min (attempts past) maxCount
  attempted : entries past ≤ attempts past
  budgeted : limits.iterations.toNat < maxCount → entries past ≤ limits.iterations.toNat
  exceeded : guard.exceeded = past.any Exchange.isOverLimit

theorem accounts_start (limits : Limits) : Accounts limits [] (start limits : PathGuard κ) :=
  ⟨rfl, .nil, fits_start limits, rfl, Nat.le_refl _, fun _ => Nat.zero_le _, rfl⟩

/-- **A properly nested block.** A key that was entered is left again, after a block of the same kind. A
key that was refused is not. -/
inductive Nested : List (Exchange κ) → Prop
  | nil : Nested []
  | refused {key : κ} {answer : Entry} {rest : List (Exchange κ)} :
      answer ≠ .entered → Nested rest → Nested (.enter key answer :: rest)
  | entered {key : κ} {outcome : Except (Fault κ) Unit} {inner rest : List (Exchange κ)} :
      Nested inner → Nested rest →
      Nested (.enter key .entered :: (inner ++ .leave key outcome :: rest))

/-! ### One call -/

variable [DecidableEq κ] {guard : PathGuard κ} {key : κ}

/-- An attempt fails for want of budget exactly when the count is above it, whatever else holds. -/
theorem iterationsExceeded_iff : (guard.enter key).1 = .iterationsExceeded ↔
    guard.limits.iterations.toNat < (guard.enter key).2.iterations := by
  rw [fst_enter]
  split
  · simp [*]
  · split
    · simp [*]
    · split <;> simp [*]

/-- The path, outermost first, grows at its end, and only by a key that is entered. -/
theorem path_enter (guard : PathGuard κ) (key : κ) : (guard.enter key).2.path =
    if (guard.enter key).1 = .entered then guard.path ++ [key] else guard.path := by
  rw [path, stack_enter, apply_ite List.reverse, List.reverse_cons]
  rfl

/-- Whichever key is named, the innermost one is taken off. It is a fault to name another one. -/
theorem path_leave (guard : PathGuard κ) (key : κ) :
    (guard.leave key).2.path = guard.path.dropLast ∧
      ((guard.leave key).1 = .ok () ↔ guard.path.getLast? = some key) := by
  constructor
  · rw [path, stack_leave, path, List.dropLast_reverse]
  · rw [path, List.getLast?_reverse]
    unfold leave
    dsimp only
    split <;> simp [*]

/-! ### Calls in turn -/

/-- Serve one call. A fault is an answer, and the guard serves on. -/
def serve (guard : PathGuard κ) : Call κ → Exchange κ × PathGuard κ
  | .enter key =>
    let (answer, next) := guard.enter key
    (.enter key answer, next)
  | .leave key =>
    let (outcome, next) := guard.leave key
    (.leave key outcome, next)

/-- Serve calls in turn. -/
def serveAll (guard : PathGuard κ) : List (Call κ) → List (Exchange κ) × PathGuard κ
  | [] => ([], guard)
  | call :: rest =>
    let (exchange, next) := guard.serve call
    let (exchanges, last) := next.serveAll rest
    (exchange :: exchanges, last)

theorem serve_enter (guard : PathGuard κ) (key : κ) :
    guard.serve (.enter key) = (.enter key (guard.enter key).1, (guard.enter key).2) :=
  rfl

theorem serve_leave (guard : PathGuard κ) (key : κ) :
    guard.serve (.leave key) = (.leave key (guard.leave key).1, (guard.leave key).2) :=
  rfl

theorem serveAll_cons (guard : PathGuard κ) (call : Call κ) (rest : List (Call κ)) :
    guard.serveAll (call :: rest) =
      ((guard.serve call).1 :: ((guard.serve call).2.serveAll rest).1,
        ((guard.serve call).2.serveAll rest).2) :=
  rfl

theorem serveAll_append (guard : PathGuard κ) (calls later : List (Call κ)) :
    guard.serveAll (calls ++ later) =
      ((guard.serveAll calls).1 ++ ((guard.serveAll calls).2.serveAll later).1,
        ((guard.serveAll calls).2.serveAll later).2) := by
  induction calls generalizing guard with
  | nil => rfl
  | cons call rest ih => simp only [List.cons_append, serveAll_cons, ih]

/-- The exchanges are about the calls, in their order. -/
theorem map_call_serveAll (guard : PathGuard κ) (calls : List (Call κ)) :
    (guard.serveAll calls).1.map Exchange.call = calls := by
  induction calls generalizing guard with
  | nil => rfl
  | cons call rest ih =>
      rw [serveAll_cons, List.map_cons, ih]
      cases call <;> rfl

/-- The attempts are the calls that ask to enter a key. -/
theorem attempts_serveAll (guard : PathGuard κ) (calls : List (Call κ)) :
    attempts (guard.serveAll calls).1 = calls.countP Call.isEnter := by
  have counted : ((guard.serveAll calls).1.map Exchange.call).countP Call.isEnter =
      attempts (guard.serveAll calls).1 := List.countP_map
  rw [← counted, map_call_serveAll]

/-! ### The account -/

variable {limits : Limits} {past : List (Exchange κ)}

/-- An attempt is counted. Where the budget is below the largest count, the count is exact when a key is
entered, so no more keys are entered than the budget allows. -/
theorem Accounts.enter (accounts : Accounts limits past guard) (key : κ) :
    Accounts limits (past ++ [.enter key (guard.enter key).1]) (guard.enter key).2 := by
  have sameLimits := (limits_enter guard key).trans accounts.sameLimits
  have counted : (guard.enter key).2.iterations = min (attempts past + 1) maxCount := by
    rw [iterations_enter, accounts.counted]
    omega
  have exceeded : (guard.enter key).2.exceeded =
      (past ++ [Exchange.enter key (guard.enter key).1]).any Exchange.isOverLimit := by
    simp [exceeded_enter, accounts.exceeded, Exchange.isOverLimit]
  have attempted := accounts.attempted
  by_cases answer : (guard.enter key).1 = .entered
  · obtain ⟨within, offPath, -⟩ := (entered_iff guard key).mp answer
    rw [accounts.sameLimits] at within
    refine ⟨sameLimits, ?_, accounts.fits.enter key, ?_, ?_, fun small => ?_, exceeded⟩
    · rw [stack_enter, if_pos answer]
      exact List.nodup_cons.mpr ⟨offPath, accounts.distinct⟩
    · rw [attempts_enter, counted]
    · rw [attempts_enter, entries_enter, if_pos answer]
      exact Nat.succ_le_succ attempted
    · rw [entries_enter, if_pos answer]
      omega
  · refine ⟨sameLimits, ?_, accounts.fits.enter key, ?_, ?_, ?_, exceeded⟩
    · rw [stack_enter, if_neg answer]
      exact accounts.distinct
    · rw [attempts_enter, counted]
    · rw [attempts_enter, entries_enter, if_neg answer]
      exact Nat.le_succ_of_le attempted
    · rw [entries_enter, if_neg answer]
      exact accounts.budgeted

/-- To leave a key, right or wrong, only shortens the path. -/
theorem Accounts.leave (accounts : Accounts limits past guard) (key : κ) :
    Accounts limits (past ++ [.leave key (guard.leave key).1]) (guard.leave key).2 := by
  have shorter : (guard.leave key).2.stack.Sublist guard.stack := List.tail_sublist guard.stack
  refine ⟨accounts.sameLimits, accounts.distinct.sublist shorter, accounts.fits.leave key, ?_, ?_, ?_, ?_⟩
  · rw [attempts_leave]
    exact accounts.counted
  · rw [attempts_leave, entries_leave]
    exact accounts.attempted
  · rw [entries_leave]
    exact accounts.budgeted
  · rw [List.any_append]
    exact accounts.exceeded.trans (Bool.or_false _).symm

/-- **One call keeps the account.** -/
theorem Accounts.serve (accounts : Accounts limits past guard) (call : Call κ) :
    Accounts limits (past ++ [(guard.serve call).1]) (guard.serve call).2 := by
  cases call with
  | enter key => exact accounts.enter key
  | leave key => exact accounts.leave key

/-- **Calls in turn keep the account.** -/
theorem Accounts.serveAll (accounts : Accounts limits past guard) (calls : List (Call κ)) :
    Accounts limits (past ++ (guard.serveAll calls).1) (guard.serveAll calls).2 := by
  induction calls generalizing past guard with
  | nil =>
      rw [PathGuard.serveAll, List.append_nil]
      exact accounts
  | cons call rest ih =>
      have later := ih (accounts.serve call)
      rwa [List.append_assoc] at later

/-! ### Nested blocks -/

/-- **A properly nested block restores the path**, and no key in it is left by a wrong name. -/
theorem Nested.restores {exchanges : List (Exchange κ)} (nested : Nested exchanges) (guard : PathGuard κ)
    (served : (guard.serveAll (exchanges.map Exchange.call)).1 = exchanges) :
    (guard.serveAll (exchanges.map Exchange.call)).2.stack = guard.stack ∧
      ∀ key outcome, .leave key outcome ∈ exchanges → outcome = .ok () := by
  induction nested generalizing guard with
  | nil => exact ⟨rfl, nofun⟩
  | @refused key answer rest isRefused _ ih =>
      obtain ⟨here, later⟩ := List.cons.inj served
      obtain rfl : (guard.enter key).1 = answer := (Exchange.enter.inj here).2
      obtain ⟨restored, named⟩ := ih (guard.enter key).2 later
      refine ⟨restored.trans (by rw [stack_enter, if_neg isRefused]), fun other outcome listed => ?_⟩
      exact named other outcome ((List.mem_cons.mp listed).resolve_left nofun)
  | @entered key outcome inner rest _ _ ihInner ihRest =>
      simp only [List.map_cons, List.map_append, Exchange.call, serveAll_cons, serve_enter,
        serveAll_append, serve_leave] at served ⊢
      obtain ⟨here, later⟩ := List.cons.inj served
      have answer : (guard.enter key).1 = .entered := (Exchange.enter.inj here).2
      -- There is one exchange for each call, so the exchanges inside the key are those of the calls
      -- inside it.
      have length : ((guard.enter key).2.serveAll (inner.map Exchange.call)).1.length = inner.length := by
        have calls := map_call_serveAll (guard.enter key).2 (inner.map Exchange.call)
        simpa using congrArg List.length calls
      obtain ⟨servedInner, servedRest⟩ := List.append_inj later length
      obtain ⟨left, servedAfter⟩ := List.cons.inj servedRest
      obtain ⟨restoredInner, namedInner⟩ := ihInner (guard.enter key).2 servedInner
      obtain ⟨restoredRest, namedRest⟩ := ihRest _ servedAfter
      rw [stack_enter, if_pos answer] at restoredInner
      have outcomeOk : outcome = .ok () := by
        rw [← (Exchange.leave.inj left).2, PathGuard.leave, restoredInner]
        exact if_pos rfl
      refine ⟨?_, fun other result listed => ?_⟩
      · rw [restoredRest, stack_leave, restoredInner, List.tail_cons]
      · simp only [List.mem_cons, List.mem_append, reduceCtorEq, false_or] at listed
        rcases listed with inInner | same | inRest
        · exact namedInner other result inInner
        · rw [(Exchange.leave.inj same).2, outcomeOk]
        · exact namedRest other result inRest

/-- **A guard keeps account of all calls.** Ask a new guard to enter and to leave any keys, in any order;
keys may be left that are not the innermost, or when there is none. Then

* no key is on the path twice, and the path is within its limit. So its length is a word, and the word
  that is compared with the limit is that length;
* the count of attempts is their number, up to the largest count;
* an attempt fails for want of budget exactly when the count after it is above the budget. So no more keys
  are ever entered than the budget allows, unless it is the largest count;
* an attempt changes the path only if the key is entered, which is then the innermost. To leave takes off
  the innermost key, and is a fault if that was not the one that was named;
* the guard knows whether some attempt went over a limit;
* any properly nested block of calls restores the path, and reports no fault. -/
theorem guard_keeps_account (limits : Limits) (calls : List (Call κ)) :
    let guard := ((start limits : PathGuard κ).serveAll calls).2
    let exchanges := ((start limits : PathGuard κ).serveAll calls).1
    guard.path.Nodup ∧ guard.path.length ≤ limits.depth.toNat ∧ guard.depth.toNat = guard.path.length ∧
    guard.iterations = min (calls.countP Call.isEnter) maxCount ∧
    (∀ key, (guard.enter key).1 = .iterationsExceeded ↔
      limits.iterations.toNat < (guard.enter key).2.iterations) ∧
    (limits.iterations.toNat < maxCount →
      exchanges.countP Exchange.isEntered ≤ limits.iterations.toNat) ∧
    (∀ key, (guard.enter key).2.path =
      if (guard.enter key).1 = .entered then guard.path ++ [key] else guard.path) ∧
    (∀ key, (guard.leave key).2.path = guard.path.dropLast ∧
      ((guard.leave key).1 = .ok () ↔ guard.path.getLast? = some key)) ∧
    (guard.exceeded = true ↔
      ∃ key answer, .enter key answer ∈ exchanges ∧
        (answer = .depthExceeded ∨ answer = .iterationsExceeded)) ∧
    ∀ block, Nested (guard.serveAll block).1 →
      (guard.serveAll block).2.path = guard.path ∧
        ∀ key outcome, .leave key outcome ∈ (guard.serveAll block).1 → outcome = .ok () := by
  intro guard exchanges
  have accounts : Accounts limits exchanges guard := (accounts_start limits).serveAll calls
  refine ⟨List.nodup_reverse.mpr accounts.distinct, ?_, ?_, ?_, fun key => ?_,
    accounts.budgeted, path_enter guard, path_leave guard, ?_, fun block nested => ?_⟩
  · rw [path, List.length_reverse, ← accounts.sameLimits]
    exact accounts.fits
  · rw [path, List.length_reverse]
    exact accounts.fits.toNat_depth
  · rw [accounts.counted, attempts_serveAll]
  · rw [← accounts.sameLimits]
    exact iterationsExceeded_iff
  · rw [accounts.exceeded, List.any_eq_true]
    constructor
    · rintro ⟨exchange, listed, isOver⟩
      cases exchange with
      | leave => cases isOver
      | enter key answer =>
          refine ⟨key, answer, listed, ?_⟩
          cases answer with
          | entered | cycle => cases isOver
          | depthExceeded => exact .inl rfl
          | iterationsExceeded => exact .inr rfl
    · rintro ⟨key, answer, listed, rfl | rfl⟩
      · exact ⟨_, listed, rfl⟩
      · exact ⟨_, listed, rfl⟩
  · have same := map_call_serveAll guard block
    obtain ⟨restored, named⟩ := nested.restores guard (by rw [same])
    rw [same] at restored
    exact ⟨congrArg List.reverse restored, named⟩

/-- Three keys are one too many for the path. Then wrong keys are left, the last one when there is none. -/
def misnamedCalls : List (Call Nat) := [.enter 1, .enter 2, .enter 3, .leave 1, .leave 7, .leave 7]

/-- A key that is entered, met again and left. -/
def loopedBlock : List (Call Nat) := [.enter 4, .enter 4, .leave 4]

/-- The path is empty again, three attempts were counted, one of them went over a limit, and a nested block
still leaves the path as it is. -/
theorem guard_keeps_account_misnamed :
    let guard := ((start ⟨2, 9⟩ : PathGuard Nat).serveAll misnamedCalls).2
    let exchanges := ((start ⟨2, 9⟩ : PathGuard Nat).serveAll misnamedCalls).1
    (⟨2, 9⟩ : Limits).iterations.toNat < maxCount ∧ exchanges.countP Exchange.isEntered ≤ 9 ∧
      guard.iterations = 3 ∧ guard.exceeded = true ∧
      Nested (guard.serveAll loopedBlock).1 ∧ (guard.serveAll loopedBlock).2.path = guard.path := by
  intro guard exchanges
  obtain ⟨-, -, -, counted, -, budgeted, -, -, exceeded, restores⟩ :=
    guard_keeps_account ⟨2, 9⟩ misnamedCalls
  have small : (⟨2, 9⟩ : Limits).iterations.toNat < maxCount := by decide
  have nested : Nested (guard.serveAll loopedBlock).1 :=
    @Nested.entered Nat 4 _ [.enter 4 .cycle] [] (.refused nofun .nil) .nil
  refine ⟨small, budgeted small, counted, exceeded.mpr ⟨3, .depthExceeded, ?_, .inl rfl⟩, nested,
    (restores loopedBlock nested).1⟩
  exact List.mem_cons_of_mem _ (List.mem_cons_of_mem _ List.mem_cons_self)

end PathGuard

end TypeLattice
