/-
**Slots for arrays.**

An array store holds the shapes of local arrays, each in a slot under its id. Ids are handed out
upward and never twice: `next` lies above every id in the store, `install` takes no id below it, and
the last id is never taken, since none could follow it. The shape in a slot may change, its id does
not. A request leaves a store behind whether it is served or not, and one that is refused leaves the
store as it was (`install_eq_error_iff`, `update_eq_error_iff`).

`ArraySpace` is what deployment needs of a store. `ArrayStore` checks ids; `Journal` takes any id and
keeps the order in which arrays came in.
-/

import TypeLattice.Event
import TypeLattice.Shape
import TypeLattice.Step

namespace TypeLattice

/-- A place to put arrays into. -/
class ArraySpace (σ : Type) where
  /-- Put an array into the slot `id`. -/
  install : σ → ArrayId → Shape → EStateM.Result Refusal σ Unit
  /-- The log records of a successful installation. -/
  installEvents : ArrayId → Shape → List Event

/-- The slots of local arrays, newest first, and the next free id. -/
structure ArrayStore where
  slots : List (ArrayId × Shape)
  next : ArrayId

namespace ArrayStore

/-- What a store returns or why it refuses, and the store that is left. -/
abbrev Outcome := EStateM.Result Refusal ArrayStore

/-- The store with no slot. -/
def empty : ArrayStore := ⟨[], .first⟩

/-- The shape in a slot. -/
def slot? (store : ArrayStore) (id : ArrayId) : Option Shape := store.slots.lookup id

/-- Whether a slot is in use. -/
def contains (store : ArrayStore) (id : ArrayId) : Bool := (store.slot? id).isSome

/-- The number of slots. -/
def size (store : ArrayStore) : Nat := store.slots.length

/-- Whether no slot is in use. -/
def isEmpty (store : ArrayStore) : Bool := store.slots.isEmpty

/-- The slots, lowest id first. -/
def toList (store : ArrayStore) : List (ArrayId × Shape) := store.slots.reverse

/-- Put an array into the slot `id`, which becomes the highest in use. -/
def install (store : ArrayStore) (id : ArrayId) (shape : Shape) : Outcome Unit :=
  if id < store.next then .error (.idReused id store.next) store
  else match id.next? with
    | none => .error (.idsExhausted id) store
    | some next => .ok () ⟨(id, shape) :: store.slots, next⟩

/-- A store takes an id that is not below the next free one and has an id after it. -/
theorem install_eq_ok_iff {store extended : ArrayStore} {id : ArrayId} {shape : Shape} :
    store.install id shape = .ok () extended ↔
      ¬ id < store.next ∧ id.next? = some extended.next ∧ extended.slots = (id, shape) :: store.slots := by
  unfold install
  split
  · simp [*]
  · split
    · simp [*]
    · rename_i free _ next found
      obtain ⟨slots, top⟩ := extended
      simp only [EStateM.Result.ok.injEq, true_and, ArrayStore.mk.injEq, found, Option.some.injEq]
      constructor
      · rintro ⟨rfl, rfl⟩; exact ⟨free, rfl, rfl⟩
      · rintro ⟨_, rfl, rfl⟩; exact ⟨rfl, rfl⟩

/-- A store refuses an id that is below the next free one, or the last, and it stays as it is. -/
theorem install_eq_error_iff {store stopped : ArrayStore} {id : ArrayId} {shape : Shape}
    {refusal : Refusal} : store.install id shape = .error refusal stopped ↔
      stopped = store ∧
        (id < store.next ∧ refusal = .idReused id store.next ∨
          ¬ id < store.next ∧ id.next? = none ∧ refusal = .idsExhausted id) := by
  unfold install
  split
  · simp [*, eq_comm, and_comm]
  · split <;> simp [*, eq_comm, and_comm]

/-- A new slot holds its shape, and no other slot changes. -/
theorem slot?_install {store extended : ArrayStore} {id : ArrayId} {shape : Shape}
    (installed : store.install id shape = .ok () extended) (other : ArrayId) :
    extended.slot? other = if other = id then some shape else store.slot? other := by
  obtain ⟨_, _, slots⟩ := install_eq_ok_iff.mp installed
  rw [slot?, slots, List.lookup_cons]
  by_cases same : other = id
  · simp [same]
  · rw [beq_false_of_ne same, if_neg same]
    rfl

/-- The log records of a successful installation. -/
def installEvents (id : ArrayId) (shape : Shape) : List Event := [.allocated id shape.isTuple]

instance : ArraySpace ArrayStore := ⟨install, installEvents⟩

/-- Put an array into the next free slot, and give the type that refers to it. -/
def allocate (store : ArrayStore) (shape : Shape) (base : Ty) : Outcome Ty :=
  match store.install store.next shape with
  | .ok _ extended => .ok (.localArray store.next base) extended
  | .error refusal stopped => .error refusal stopped

/-- Allocation is installation under the next free id. -/
theorem allocate_eq_ok_iff {store extended : ArrayStore} {shape : Shape} {base handle : Ty} :
    store.allocate shape base = .ok handle extended ↔
      store.install store.next shape = .ok () extended ∧ handle = .localArray store.next base := by
  unfold allocate
  cases store.install store.next shape <;> simp [eq_comm, and_comm]

theorem allocate_eq_error_iff {store stopped : ArrayStore} {shape : Shape} {base : Ty}
    {refusal : Refusal} : store.allocate shape base = .error refusal stopped ↔
      store.install store.next shape = .error refusal stopped := by
  unfold allocate
  cases store.install store.next shape <;> simp

/-- The slots with the shape under `id` changed. -/
def changeSlot (change : Shape → Shape) (id : ArrayId) :
    List (ArrayId × Shape) → List (ArrayId × Shape)
  | [] => []
  | slot :: rest =>
    if slot.1 = id then (id, change slot.2) :: rest else slot :: changeSlot change id rest

/-- Change the shape in a slot. -/
def update (store : ArrayStore) (id : ArrayId) (change : Shape → Shape) : Outcome Unit :=
  if store.contains id then .ok () { store with slots := changeSlot change id store.slots }
  else .error (.unknownArray id) store

/-- A slot in use can be changed. -/
theorem update_eq_ok_iff {store changed : ArrayStore} {id : ArrayId} {change : Shape → Shape} :
    store.update id change = .ok () changed ↔
      store.contains id = true ∧ changed = { store with slots := changeSlot change id store.slots } := by
  unfold update
  split <;> simp [*, eq_comm]

/-- No other slot can, and the store stays as it is. -/
theorem update_eq_error_iff {store stopped : ArrayStore} {id : ArrayId} {change : Shape → Shape}
    {refusal : Refusal} : store.update id change = .error refusal stopped ↔
      stopped = store ∧ refusal = .unknownArray id ∧ store.contains id = false := by
  unfold update
  split <;> simp [*, eq_comm, and_comm]

/-- The view of `changeSlot`. -/
theorem lookup_changeSlot (change : Shape → Shape) (id other : ArrayId)
    (slots : List (ArrayId × Shape)) :
    (changeSlot change id slots).lookup other =
      if other = id then (slots.lookup other).map change else slots.lookup other := by
  induction slots with
  | nil => simp [changeSlot]
  | cons slot rest ih =>
    obtain ⟨key, shape⟩ := slot
    rw [changeSlot]
    by_cases hit : key = id
    · subst hit
      by_cases same : other = key
      · simp [same]
      · rw [if_pos rfl, List.lookup_cons, List.lookup_cons, beq_false_of_ne same, if_neg same]
    · rw [if_neg hit, List.lookup_cons, ih, List.lookup_cons]
      by_cases here : other = key
      · subst here
        rw [if_neg hit, if_neg hit, beq_self_eq_true]
      · rw [beq_false_of_ne here]

/-- A changed slot holds the changed shape, and no other slot changes. -/
theorem slot?_update {store changed : ArrayStore} {id : ArrayId} {change : Shape → Shape}
    (updated : store.update id change = .ok () changed) (other : ArrayId) :
    changed.slot? other = if other = id then (store.slot? other).map change else store.slot? other := by
  obtain ⟨-, rfl⟩ := update_eq_ok_iff.mp updated
  exact lookup_changeSlot change id other store.slots

/-- Write an element of the array in a slot. -/
def writeElement (store : ArrayStore) (id : ArrayId) (index : Option Nat) (ty : Ty) : Outcome Unit :=
  store.update id (fun shape => shape.write index ty)

/-- The log records of writing an element of the array in a slot. -/
def writeEvents (store : ArrayStore) (id : ArrayId) (index : Option Nat) : List Event :=
  match store.slot? id with
  | some shape => shape.writeEvents index
  | none => []

end ArrayStore

/-- A record of the arrays put in, newest first. It takes every id. -/
structure Journal where
  entries : List (ArrayId × Shape)

namespace Journal

/-- The journal with no array. -/
def empty : Journal := ⟨[]⟩

/-- The arrays in the order in which they came in. -/
def toList (journal : Journal) : List (ArrayId × Shape) := journal.entries.reverse

instance : ArraySpace Journal where
  install journal id shape := .ok () ⟨(id, shape) :: journal.entries⟩
  installEvents _ _ := []

end Journal

end TypeLattice
