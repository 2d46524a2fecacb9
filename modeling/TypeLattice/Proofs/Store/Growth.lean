/-
**How an array store grows.**

* `Built`: the stores that come from the empty one by putting arrays in and changing them;
* `Bounded`, `Built.bounded`: the ids in use lie below the next free one;
* `Grows`: a store to which the arrays `ids` were added. They were free before, they are in use
  after, each was added once, and no other slot has changed;
* `Grows.trans`, `grows_of_install`: stores grow step by step;
* `Sound`: in addition nothing that is met in a slot is missing from the store.
-/

import TypeLattice.ArrayStore
import TypeLattice.Proofs.Resolution.Traversal

namespace TypeLattice.ArrayStore

/-- A store that was empty once. -/
inductive Built : ArrayStore → Prop
  | empty : Built empty
  | install {store extended : ArrayStore} {id : ArrayId} {shape : Shape} :
      Built store → store.install id shape = .ok () extended → Built extended
  | update {store changed : ArrayStore} {id : ArrayId} {change : Shape → Shape} :
      Built store → store.update id change = .ok () changed → Built changed

/-- Every id in use lies below the next free one. -/
def Bounded (store : ArrayStore) : Prop :=
  ∀ id content, store.slot? id = some content → id < store.next

/-- The ids are all in use. -/
def Allocates (store : ArrayStore) (ids : List ArrayId) : Prop :=
  ∀ id ∈ ids, (store.slot? id).isSome

/-- What is met in a slot is in use. -/
def IsClosed (store : ArrayStore) : Prop :=
  ∀ id content, store.slot? id = some content → store.Allocates content.handles

theorem Bounded.install {store extended : ArrayStore} {id : ArrayId} {shape : Shape}
    (bounded : store.Bounded) (installed : store.install id shape = .ok () extended) :
    extended.Bounded := by
  obtain ⟨free, follows, -⟩ := install_eq_ok_iff.mp installed
  rw [ArrayId.next?_eq_some_iff] at follows
  rw [ArrayId.lt_iff] at free
  intro other content held
  rw [slot?_install installed] at held
  rw [ArrayId.lt_iff]
  split at held
  · rename_i same
    rw [same, follows]
    exact Nat.lt_succ_self _
  · have below := ArrayId.lt_iff.mp (bounded other content held)
    omega

theorem Bounded.update {store changed : ArrayStore} {id : ArrayId} {change : Shape → Shape}
    (bounded : store.Bounded) (updated : store.update id change = .ok () changed) : changed.Bounded := by
  have next : changed.next = store.next := by rw [(update_eq_ok_iff.mp updated).2]
  intro other content held
  rw [slot?_update updated] at held
  rw [next]
  split at held
  · obtain ⟨old, found, -⟩ := Option.map_eq_some_iff.mp held
    exact bounded other old found
  · exact bounded other content held

/-- **In a store the ids in use lie below the next free one.** -/
theorem Built.bounded {store : ArrayStore} (built : store.Built) : store.Bounded := by
  induction built with
  | empty => exact nofun
  | install _ installed bounded => exact bounded.install installed
  | update _ updated bounded => exact bounded.update updated

/-- The arrays `ids` were added to a store, and nothing else has changed. -/
structure Grows (before : ArrayStore) (ids : List ArrayId) (after : ArrayStore) : Prop where
  once : ids.Nodup
  free : ∀ id ∈ ids, before.slot? id = none
  placed : after.Allocates ids
  kept : ∀ id, id ∉ ids → after.slot? id = before.slot? id

theorem Grows.refl (store : ArrayStore) : Grows store [] store :=
  ⟨.nil, nofun, nofun, fun _ _ => rfl⟩

/-- What is in a slot stays there. -/
theorem Grows.slot?_eq_some {before after : ArrayStore} {ids : List ArrayId} {id : ArrayId}
    {content : Shape} (grows : Grows before ids after) (held : before.slot? id = some content) :
    after.slot? id = some content := by
  rw [grows.kept id fun member => ?_, held]
  rw [grows.free id member] at held
  cases held

theorem Grows.allocates {before after : ArrayStore} {ids others : List ArrayId}
    (grows : Grows before ids after) (allocated : before.Allocates others) :
    after.Allocates others := by
  intro id member
  obtain ⟨content, held⟩ := Option.isSome_iff_exists.mp (allocated id member)
  rw [grows.slot?_eq_some held]
  rfl

/-- An id in use is not added again. -/
theorem Grows.notMem {before after : ArrayStore} {ids others : List ArrayId} {id : ArrayId}
    (grows : Grows before ids after) (allocated : before.Allocates others) (member : id ∈ others) :
    id ∉ ids := by
  intro added
  have inUse := allocated id member
  rw [grows.free id added] at inUse
  cases inUse

theorem Grows.trans {first second third : ArrayStore} {ids others : List ArrayId}
    (before : Grows first ids second) (after : Grows second others third) :
    Grows first (ids ++ others) third := by
  refine ⟨?_, ?_, ?_, ?_⟩
  · refine List.nodup_append.mpr ⟨before.once, after.once, ?_⟩
    rintro id early _ late rfl
    exact after.notMem before.placed early late
  · intro id member
    by_cases early : id ∈ ids
    · exact before.free id early
    · rw [← before.kept id early]
      exact after.free id ((List.mem_append.mp member).resolve_left early)
  · intro id member
    rcases List.mem_append.mp member with early | late
    · exact after.allocates before.placed id early
    · exact after.placed id late
  · intro id absent
    rw [List.mem_append, not_or] at absent
    rw [after.kept id absent.2, before.kept id absent.1]

/-- To put an array in adds its id alone. -/
theorem grows_of_install {store extended : ArrayStore} {id : ArrayId} {shape : Shape}
    (bounded : store.Bounded) (installed : store.install id shape = .ok () extended) :
    Grows store [id] extended := by
  have slots := slot?_install installed
  refine ⟨List.pairwise_singleton _ id, ?_, ?_, ?_⟩
  · intro other member
    rw [List.mem_singleton.mp member]
    cases held : store.slot? id with
    | none => rfl
    | some content => exact absurd (bounded id content held) (install_eq_ok_iff.mp installed).1
  · intro other member
    rw [List.mem_singleton.mp member, slots, if_pos rfl]
    rfl
  · intro other absent
    rw [slots, if_neg fun same => absent (List.mem_singleton.mpr same)]

/-- A store whose ids lie below the next free one, and in whose slots nothing dangles. -/
structure Sound (store : ArrayStore) : Prop where
  bounded : store.Bounded
  closed : store.IsClosed

theorem Sound.install {store extended : ArrayStore} {id : ArrayId} {shape : Shape} (sound : store.Sound)
    (allocated : store.Allocates shape.handles) (installed : store.install id shape = .ok () extended) :
    extended.Sound := by
  have grows := grows_of_install sound.bounded installed
  refine ⟨sound.bounded.install installed, fun other content held => ?_⟩
  rw [slot?_install installed] at held
  split at held
  · obtain rfl := Option.some.inj held
    exact grows.allocates allocated
  · exact grows.allocates (sound.closed other content held)

end TypeLattice.ArrayStore
