/-
**What a history of writes leaves in a slot.**

As long as a tuple is written at known positions, each position holds what was written there last. The
first write anywhere else gathers the positions as they stand, and from then on every type that is
written is added. So what was replaced before that write is gone, and what is written from there on
stays, whatever the index.

* `Write.isPrecise`: the index is known, and there is a position for it;
* `lastWritten?`, `overwritten`: the last write to each position, and what these make of a tuple;
* `Shape.writeAll_of_precise`, `Shape.writeAll_of_imprecise`: the shape after a history of writes;
* `Change`: writes and joins. `Shape.exists_changeAll_seq`: they leave a sequence a sequence;
* `ArrayStore.slot?_changeAll`: a slot holds what the changes make of its shape;
* `ArrayStore.write_history_has_closed_form`: what a history of writes leaves in a slot.
-/

import Mathlib.Data.List.Induction
import TypeLattice.ArrayStore
import TypeLattice.Proofs.Types.Reading
import TypeLattice.Proofs.Types.Writing

namespace TypeLattice

/-! ### Histories of writes -/

/-- Whether the index of a write is known and lies within a tuple of the given length. -/
def Write.isPrecise (length : Nat) (write : Write) : Bool := write.index.any (· < length)

/-- The type that was written last at a position. -/
def lastWritten? (writes : List Write) (position : Nat) : Option Ty :=
  (writes.reverse.find? fun write => write.index = some position).map Write.ty

/-- The positions of a tuple, each with the type that was written there last, or as it was. -/
def overwritten (elems : List TyUnion) (writes : List Write) : List TyUnion :=
  elems.mapIdx fun position union => (lastWritten? writes position).elim union .singleton

theorem Write.isPrecise_iff {length : Nat} {write : Write} :
    write.isPrecise length = true ↔ ∃ position < length, write.index = some position := by
  unfold isPrecise
  cases write.index <;> simp

theorem lastWritten?_snoc (writes : List Write) (write : Write) (position : Nat) :
    lastWritten? (writes ++ [write]) position =
      if write.index = some position then some write.ty else lastWritten? writes position := by
  unfold lastWritten?
  rw [List.reverse_append, List.reverse_singleton, List.singleton_append, List.find?_cons]
  by_cases here : write.index = some position
  · simp [here]
  · simp [here]

theorem overwritten_nil (elems : List TyUnion) : overwritten elems [] = elems := by
  unfold overwritten
  apply List.ext_getElem
  · simp
  · intro position _ _
    rw [List.getElem_mapIdx]
    rfl

/-- One more write replaces its position. -/
theorem overwritten_snoc {elems : List TyUnion} {writes : List Write} {write : Write} {position : Nat}
    (index : write.index = some position) :
    overwritten elems (writes ++ [write]) =
      (overwritten elems writes).set position (.singleton write.ty) := by
  unfold overwritten
  apply List.ext_getElem
  · simp
  · intro other inside _
    rw [List.getElem_set, List.getElem_mapIdx, List.getElem_mapIdx, lastWritten?_snoc, index]
    by_cases here : position = other
    · simp [here]
    · simp [here]

namespace Shape

theorem writeAll_append (shape : Shape) (earlier later : List Write) :
    shape.writeAll (earlier ++ later) = (shape.writeAll earlier).writeAll later :=
  List.foldl_append

/-- **A tuple that is written at known positions holds the last write to each.** -/
theorem writeAll_of_precise {elems : List TyUnion} {writes : List Write}
    (precise : ∀ write ∈ writes, write.isPrecise elems.length = true) :
    (tuple elems).writeAll writes = .tuple (overwritten elems writes) := by
  induction writes using List.reverseRecOn with
  | nil => rw [overwritten_nil]; rfl
  | append_singleton writes write ih =>
      obtain ⟨preciseBefore, preciseLast⟩ := List.forall_mem_append.mp precise
      obtain ⟨position, inside, index⟩ := Write.isPrecise_iff.mp (preciseLast write List.mem_cons_self)
      have fits : position < (overwritten elems writes).length := by
        rwa [overwritten, List.length_mapIdx]
      rw [writeAll_append, ih preciseBefore, overwritten_snoc index]
      show (tuple (overwritten elems writes)).write write.index write.ty = _
      rw [index, Shape.write, if_pos fits]

/-- A sequence takes in every type that is written. -/
theorem writeAll_seq (elem : TyUnion) (writes : List Write) :
    (seq elem).writeAll writes = .seq ((writes.map Write.ty).foldl TyUnion.insert elem) := by
  induction writes generalizing elem with
  | nil => rfl
  | cons write rest ih => exact ih (elem.insert write.ty)

/-- **The first write that is not at a known position gathers the positions**, and every write from there
on is added to them. -/
theorem writeAll_of_imprecise {elems : List TyUnion} {first : Write}
    (imprecise : first.isPrecise elems.length = false) (later : List Write) :
    (tuple elems).writeAll (first :: later) =
      .seq (.ofList (elems.flatMap TyUnion.members ++ (first :: later).map Write.ty)) := by
  have widened : (tuple elems).isWidenedBy first.index = true := by
    unfold Write.isPrecise at imprecise
    unfold isWidenedBy
    cases index : first.index with
    | none => rfl
    | some position => simpa [index] using imprecise
  show ((tuple elems).write first.index first.ty).writeAll later = _
  rw [write_of_isWidenedBy fun _ => widened, writeAll_seq, TyUnion.ofList, List.foldl_append,
    List.map_cons, List.foldl_cons]
  rfl

end Shape

/-- What a union has gathered from the positions of a tuple and from writes. -/
theorem TyUnion.contains_gathered {positions : List TyUnion} {writes : List Write} {ty : Ty} :
    (ofList (positions.flatMap members ++ writes.map Write.ty)).contains ty = true ↔
      (∃ union ∈ positions, union.contains ty = true) ∨ ∃ write ∈ writes, (ty == write.ty) = true := by
  rw [contains_ofList_iff, ← Shape.contains_elements_tuple, Shape.elements, contains_ofList_iff]
  simp only [List.mem_append, or_and_right, exists_or, List.mem_map, exists_exists_and_eq_and]
  rfl

/-! ### Writes and joins -/

/-- A change of a shape: a write, or a join with another shape on either side. -/
inductive Change where
  | write (write : Write)
  | join (other : Shape)
  | joinOnto (other : Shape)

/-- The shape after a change. -/
def Change.apply : Change → Shape → Shape
  | write change, shape => shape.write change.index change.ty
  | join other, shape => shape.join other
  | joinOnto other, shape => other.join shape

namespace Shape

/-- The shape after some changes. -/
def changeAll (shape : Shape) (changes : List Change) : Shape :=
  changes.foldl (fun current change => change.apply current) shape

theorem exists_apply_seq (change : Change) (elem : TyUnion) :
    ∃ elem', change.apply (.seq elem) = .seq elem' := by
  cases change with
  | write change => exact ⟨_, rfl⟩
  | join other => cases other <;> exact ⟨_, rfl⟩
  | joinOnto other => cases other <;> exact ⟨_, rfl⟩

/-- **A sequence stays a sequence**, whatever is written to it or joined with it. -/
theorem exists_changeAll_seq (elem : TyUnion) (changes : List Change) :
    ∃ elem', (seq elem).changeAll changes = .seq elem' := by
  induction changes generalizing elem with
  | nil => exact ⟨elem, rfl⟩
  | cons change rest ih =>
      obtain ⟨changed, here⟩ := exists_apply_seq change elem
      show ∃ elem', (change.apply (.seq elem)).changeAll rest = .seq elem'
      rw [here]
      exact ih changed

theorem changeAll_map_write (shape : Shape) (writes : List Write) :
    shape.changeAll (writes.map .write) = shape.writeAll writes :=
  List.foldl_map

end Shape

/-! ### The slots of a store -/

namespace ArrayStore

/-- Take a step for each of the values in turn, until one is refused. -/
def inTurn {α : Type} (step : ArrayStore → α → Outcome Unit) (store : ArrayStore) : List α → Outcome Unit
  | [] => .ok () store
  | value :: rest =>
    match step store value with
    | .ok _ next => inTurn step next rest
    | .error refusal stopped => .error refusal stopped

theorem inTurn_map {α β : Type} (step : ArrayStore → β → Outcome Unit) (value : α → β)
    (store : ArrayStore) (list : List α) : inTurn step store (list.map value) =
      inTurn (fun current element => step current (value element)) store list := by
  induction list generalizing store with
  | nil => rfl
  | cons element rest ih =>
      simp only [List.map_cons, inTurn, ih]

/-- Change the shape in a slot, several times. -/
def changeAll (store : ArrayStore) (id : ArrayId) (changes : List Change) : Outcome Unit :=
  inTurn (fun current change => current.update id change.apply) store changes

/-- Write elements of the array in a slot. -/
def writeAll (store : ArrayStore) (id : ArrayId) (writes : List Write) : Outcome Unit :=
  inTurn (fun current write => current.writeElement id write.index write.ty) store writes

variable {store : ArrayStore} {id : ArrayId} {shape : Shape}

/-- **Changes of a slot in use are not refused**, and it holds what they make of its shape. -/
theorem slot?_changeAll (held : store.slot? id = some shape) (changes : List Change) :
    ∃ final, store.changeAll id changes = .ok () final ∧
      final.slot? id = some (shape.changeAll changes) := by
  induction changes generalizing store shape with
  | nil => exact ⟨store, rfl, held⟩
  | cons change rest ih =>
      have inUse : store.contains id = true := by rw [contains, held]; rfl
      have updated : store.update id change.apply = .ok () _ := update_eq_ok_iff.mpr ⟨inUse, rfl⟩
      have changed := slot?_update updated id
      rw [if_pos rfl, held] at changed
      obtain ⟨final, ran, found⟩ := ih changed
      refine ⟨final, ?_, found⟩
      simp only [changeAll, inTurn, updated]
      exact ran

/-- The same for writes. -/
theorem slot?_writeAll (held : store.slot? id = some shape) (writes : List Write) :
    ∃ final, store.writeAll id writes = .ok () final ∧ final.slot? id = some (shape.writeAll writes) := by
  obtain ⟨final, ran, found⟩ := slot?_changeAll held (writes.map .write)
  rw [Shape.changeAll_map_write] at found
  rw [changeAll, inTurn_map] at ran
  exact ⟨final, ran, found⟩

/-- **A history of writes has a closed form.** Let a slot hold a tuple, and let any types be written to it
one after the other, at indices that may be known or not. No write is refused.

* If every index is known and within the tuple, the slot ends as a tuple of the same length. Each
  position holds the type that was written there last, or what it held at first.
* Otherwise let `first` be the first write at another index. The slot ends as a sequence. Its union is
  gathered from the positions as they stood before that write and from the types written from there
  on, and it contains nothing else.

A slot that holds a sequence holds a sequence after any writes and any joins with other shapes. -/
theorem write_history_has_closed_form (store : ArrayStore) (id : ArrayId) :
    (∀ (elems : List TyUnion) (writes : List Write), store.slot? id = some (.tuple elems) →
      ∃ final, store.writeAll id writes = .ok () final ∧
        ((∀ write ∈ writes, write.isPrecise elems.length = true) →
          final.slot? id = some (.tuple (overwritten elems writes)) ∧
          (overwritten elems writes).length = elems.length) ∧
        ∀ precise first later, writes = precise ++ first :: later →
          (∀ write ∈ precise, write.isPrecise elems.length = true) →
          first.isPrecise elems.length = false →
          ∃ before gathered, store.writeAll id precise = .ok () before ∧
            before.slot? id = some (.tuple (overwritten elems precise)) ∧
            final.slot? id = some (.seq gathered) ∧
            gathered = .ofList ((overwritten elems precise).flatMap TyUnion.members ++
              (first :: later).map Write.ty) ∧
            ∀ ty, gathered.contains ty = true ↔
              (∃ union ∈ overwritten elems precise, union.contains ty = true) ∨
              ∃ write ∈ first :: later, (ty == write.ty) = true) ∧
    ∀ (elem : TyUnion) (changes : List Change), store.slot? id = some (.seq elem) →
      ∃ final elem', store.changeAll id changes = .ok () final ∧ final.slot? id = some (.seq elem') := by
  constructor
  · intro elems writes held
    have sameLength (writes : List Write) : (overwritten elems writes).length = elems.length :=
      List.length_mapIdx
    obtain ⟨final, ran, found⟩ := slot?_writeAll held writes
    refine ⟨final, ran, fun precise => ⟨?_, sameLength writes⟩, ?_⟩
    · rw [found, Shape.writeAll_of_precise precise]
    · rintro precise first later rfl preciseBefore imprecise
      obtain ⟨before, ranBefore, foundBefore⟩ := slot?_writeAll held precise
      rw [Shape.writeAll_of_precise preciseBefore] at foundBefore
      rw [← sameLength precise] at imprecise
      rw [Shape.writeAll_append, Shape.writeAll_of_precise preciseBefore,
        Shape.writeAll_of_imprecise imprecise] at found
      exact ⟨before, _, ranBefore, foundBefore, found, rfl, fun ty => TyUnion.contains_gathered⟩
  · intro elem changes held
    obtain ⟨final, ran, found⟩ := slot?_changeAll held changes
    obtain ⟨elem', seq⟩ := Shape.exists_changeAll_seq elem changes
    exact ⟨final, elem', ran, seq ▸ found⟩

/-- A symbol replaces the integer of a pair, and then a pair of writes goes past its end and to its
start. The integer is gone, and the string and all that was written are there. -/
theorem write_history_has_closed_form_pair :
    let core := CoreClasses.standard
    let pair := Shape.tuple [.singleton (.ofClass core.integer), .singleton (.ofClass core.string)]
    let store : ArrayStore := ⟨[(⟨0⟩, pair)], ⟨1⟩⟩
    let writes := [⟨some 0, .ofClass core.symbol⟩, ⟨some 2, .any⟩, ⟨some 0, .ofClass core.regexp⟩]
    ∃ final gathered, store.writeAll ⟨0⟩ writes = .ok () final ∧ final.slot? ⟨0⟩ = some (.seq gathered) ∧
      gathered.contains (.ofClass core.integer) = false ∧
      ∀ ty ∈ [Ty.ofClass core.symbol, .ofClass core.string, .any, .ofClass core.regexp],
        gathered.contains ty = true := by
  intro core pair store writes
  obtain ⟨final, ran, -, widened⟩ := (write_history_has_closed_form store ⟨0⟩).1 _ writes rfl
  obtain ⟨-, gathered, -, -, found, rfl, -⟩ :=
    widened [⟨some 0, .ofClass core.symbol⟩] _ _ rfl (by decide) (by decide)
  exact ⟨final, _, ran, found, by decide, by decide⟩

end ArrayStore

end TypeLattice
