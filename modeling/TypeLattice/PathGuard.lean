/-
**A guard on the path of a recursion.**

The guard keeps the keys that a recursion has entered and not left, and answers each attempt to
enter one more:

* `Entry.iterationsExceeded` when the attempts have used up their budget;
* `Entry.cycle` when the key is on the path already;
* `Entry.depthExceeded` when the path has reached its limit;
* `Entry.entered` otherwise, and only then does the path grow.

A limit that was hit once is remembered for good. `leave` takes the innermost key off the path and
reports a `Fault` when another key was named; `finish` reports the keys that were never left.

The length of the path is compared with its limit as a word. A path never grows beyond its limit
(`Fits`), so the word is the length itself (`Fits.toNat_depth`).
-/

import TypeLattice.Ids

namespace TypeLattice

/-- How deep a recursion may go and how many keys it may try to enter. -/
structure Limits where
  depth : UInt32
  iterations : UInt32
deriving DecidableEq

/-- The limits for resolving local arrays. -/
def Limits.resolution : Limits := ⟨256, 100000⟩

/-- The answer to an attempt to enter a key. -/
inductive Entry where
  | entered
  | cycle
  | depthExceeded
  | iterationsExceeded
deriving DecidableEq

/-- Whether an attempt went over a limit. -/
def Entry.isOverLimit : Entry → Bool
  | .depthExceeded | .iterationsExceeded => true
  | .entered | .cycle => false

/-- The keys of a recursion under way, with the account of its attempts. -/
structure PathGuard (κ : Type) where
  limits : Limits
  /-- The keys entered and not left, innermost first. -/
  stack : List κ
  /-- The number of attempts so far, which stops at the largest 32-bit word. -/
  iterations : Nat
  /-- Whether some attempt went over a limit. -/
  exceeded : Bool

namespace PathGuard

/-- A breach of the rule that keys are left innermost first, and all of them. -/
inductive Fault (κ : Type) where
  /-- `named` was to be left, while the innermost key was `popped`. -/
  | misnamed (popped : Option κ) (named : κ)
  /-- The recursion ended with keys still on its path, outermost first. -/
  | abandoned (path : List κ)

/-- The report of a breach, with keys shown by `keyText`. -/
def Fault.message {κ : Type} (keyText : κ → String) : Fault κ → String
  | .misnamed popped named =>
    let left := match popped with
      | some key => s!"Some({keyText key})"
      | none => "None"
    let right := s!"Some({keyText named})"
    "assertion `left == right` failed: RecursionGuard::leave() must name the innermost entered key\n" ++
      s!"  left: {left}\n right: {right}"
  | .abandoned path =>
    let keys := ", ".intercalate (path.map keyText)
    s!"RecursionGuard dropped with {path.length} active entries on its path: [{keys}]"

variable {κ : Type}

/-- The guard of a recursion that has not started. -/
def start (limits : Limits) : PathGuard κ := ⟨limits, [], 0, false⟩

/-- The keys on the path, outermost first. -/
def path (guard : PathGuard κ) : List κ := guard.stack.reverse

/-- The number of keys on the path, as a word. -/
def depth (guard : PathGuard κ) : UInt32 := guard.stack.length.toUInt32

/-- The largest count of attempts that is kept. -/
def maxCount : Nat := UInt32.size - 1

section Entering

variable [DecidableEq κ]

/-- Ask to enter `key`. The budget of attempts is looked at first, then the path, then its limit. -/
def enter (guard : PathGuard κ) (key : κ) : Entry × PathGuard κ :=
  let iterations := min (guard.iterations + 1) maxCount
  let counted := { guard with iterations }
  if guard.limits.iterations.toNat < iterations then
    (.iterationsExceeded, { counted with exceeded := true })
  else if key ∈ guard.stack then
    (.cycle, counted)
  else if guard.limits.depth ≤ guard.depth then
    (.depthExceeded, { counted with exceeded := true })
  else
    (.entered, { counted with stack := key :: guard.stack })

/-- Take the innermost key off the path, and report a fault unless it is `key`. -/
def leave (guard : PathGuard κ) (key : κ) : Except (Fault κ) Unit × PathGuard κ :=
  let outcome := if guard.stack.head? = some key then .ok () else .error (.misnamed guard.stack.head? key)
  (outcome, { guard with stack := guard.stack.tail })

/-- The place of `key` on the path, counted from the outermost key; `none` off the path. -/
def position? (guard : PathGuard κ) (key : κ) : Option Nat := guard.path.idxOf? key

variable (guard : PathGuard κ) (key : κ)

/-- **What an attempt leaves.** It is counted, a limit that it goes over is remembered, and the path grows
exactly when the key is entered. -/
theorem snd_enter : (guard.enter key).2 =
    { guard with
      stack := if (guard.enter key).1 = .entered then key :: guard.stack else guard.stack
      iterations := min (guard.iterations + 1) maxCount
      exceeded := guard.exceeded || (guard.enter key).1.isOverLimit } := by
  unfold enter
  dsimp only
  split
  · simp [Entry.isOverLimit]
  · split
    · simp [Entry.isOverLimit]
    · split <;> simp [Entry.isOverLimit]

theorem stack_enter : (guard.enter key).2.stack =
    if (guard.enter key).1 = .entered then key :: guard.stack else guard.stack := by
  rw [snd_enter]

theorem iterations_enter : (guard.enter key).2.iterations = min (guard.iterations + 1) maxCount := by
  rw [snd_enter]

theorem limits_enter : (guard.enter key).2.limits = guard.limits := by
  rw [snd_enter]

theorem exceeded_enter :
    (guard.enter key).2.exceeded = (guard.exceeded || (guard.enter key).1.isOverLimit) := by
  rw [snd_enter]

/-- **What an attempt answers.** -/
theorem fst_enter : (guard.enter key).1 =
    if guard.limits.iterations.toNat < (guard.enter key).2.iterations then .iterationsExceeded
    else if key ∈ guard.stack then .cycle
    else if guard.limits.depth ≤ guard.depth then .depthExceeded
    else .entered := by
  rw [iterations_enter]
  unfold enter
  dsimp only
  split
  · rfl
  · split
    · rfl
    · split <;> rfl

/-- A key is entered exactly when nothing speaks against it. -/
theorem entered_iff : (guard.enter key).1 = .entered ↔
    (guard.enter key).2.iterations ≤ guard.limits.iterations.toNat ∧ key ∉ guard.stack ∧
      guard.depth < guard.limits.depth := by
  rw [fst_enter]
  split
  · simp [Nat.not_le.mpr, *]
  · split
    · simp [*]
    · split <;> simp_all

/-- The innermost key is taken off, whichever key was named. -/
theorem stack_leave : (guard.leave key).2.stack = guard.stack.tail := rfl

end Entering

/-! ### The path and its limit -/

/-- The path is within its limit. -/
def Fits (guard : PathGuard κ) : Prop := guard.stack.length ≤ guard.limits.depth.toNat

theorem fits_start (limits : Limits) : (start limits : PathGuard κ).Fits := Nat.zero_le _

namespace Fits

variable {guard : PathGuard κ}

/-- The length of a path within its limit is a word. -/
theorem toNat_depth (fits : guard.Fits) : guard.depth.toNat = guard.stack.length :=
  toNat_toUInt32 (Nat.lt_of_le_of_lt fits guard.limits.depth.toNat_lt)

/-- So the words compare as the numbers do. -/
theorem depth_lt_iff (fits : guard.Fits) :
    guard.depth < guard.limits.depth ↔ guard.stack.length < guard.limits.depth.toNat := by
  rw [UInt32.lt_iff_toNat_lt, fits.toNat_depth]

variable [DecidableEq κ]

/-- An attempt does not take the path over its limit. -/
theorem enter (fits : guard.Fits) (key : κ) : (guard.enter key).2.Fits := by
  rw [Fits, stack_enter, limits_enter]
  split
  · rename_i answer
    obtain ⟨-, -, shallow⟩ := (entered_iff guard key).mp answer
    exact fits.depth_lt_iff.mp shallow
  · exact fits

theorem leave (fits : guard.Fits) (key : κ) : (guard.leave key).2.Fits :=
  Nat.le_trans (List.tail_sublist guard.stack).length_le fits

end Fits

/-- A path below its limit has room for a key. -/
theorem depth_lt_of_lt {guard : PathGuard κ} (shallow : guard.stack.length < guard.limits.depth.toNat) :
    guard.depth < guard.limits.depth :=
  (Fits.depth_lt_iff (Nat.le_of_lt shallow)).mpr shallow

/-- End the recursion, and report the keys that were not left. -/
def finish (guard : PathGuard κ) : Except (Fault κ) Unit :=
  if guard.stack.isEmpty then .ok () else .error (.abandoned guard.path)

end PathGuard

end TypeLattice
