/-
**A resolver stays in order.**

To resolve a value is to resolve its parts one after the other, and to resolve a local array is to resolve
the content of its slot in between entering and leaving it. The path, the floor and the known shapes are
put right by hand on the way. Whatever the slots hold, a call finds them in order and leaves them so:

* `Item.parts`, `Call.Makes`: the calls that a call makes, with the states in which they start;
  `Item.resolveWith_parts` says that they are all that a call does;
* `InOrder`: the arrays on the path are different, have slots and are not known, and the floor is a place
  on the path;
* `Visits.inOrder`, `Call.Makes.inOrder`: visits keep a resolver in order, and calls start in order;
* `wellFounded_makes`: no chain of calls goes on for ever, since each call is for a part of a value or
  takes one more of the arrays that have slots to the path;
* `Item.resolver_stays_in_order`: what this says about items in turn.
-/

import TypeLattice.Proofs.Resolution.Acyclic

namespace TypeLattice

/-! ### The parts of an item -/

namespace Item

open Resolver (visitAll visitAll_append)

/-- The items that are resolved in turn when an item is. What the slot of a local array holds is no part
of it. -/
def parts : Item → List Item
  | ty (.instanceOf cls) => [ty cls]
  | ty (.closure _ _ underlying) => [ty underlying]
  | ty (.typedClosure params result underlying) => params.map union ++ [union result, ty underlying]
  | ty (.array value _) => if value.isContextFree && !value.hasLiteral then [] else [shape value]
  | ty .any | ty (.classObject _) | ty (.code _) | ty (.literal _ _) | ty (.localArray _ _) => []
  | union value => value.members.map ty
  | shape (.seq elem) => [union elem]
  | shape (.tuple elems) => elems.map union

section Visiting

variable (visit : ArrayId → ResolveM (Option Shape))

/-- Resolve items one after the other. -/
def resolveAllWith : List Item → ResolveM (List Item)
  | [] => return []
  | item :: rest => do
    let first ← item.resolveWith visit
    let others ← resolveAllWith rest
    return first :: others

/-- What items do to a resolver, one after the other, is to visit their handles. -/
theorem resolveAllWith_effect (items : List Item) : (fun _ => ()) <$> resolveAllWith visit items =
    (fun _ => ()) <$> visitAll visit (items.flatMap handles) := by
  induction items with
  | nil => rfl
  | cons item rest ih =>
      simp only [map_eq_pure_bind] at ih
      simp only [resolveAllWith, resolveWith_eq_map, List.flatMap_cons, visitAll_append, map_eq_pure_bind,
        bind_assoc, pure_bind, ih]

end Visiting

/-- The handles of an item are those of its parts, in order. -/
theorem handles_eq_flatMap_parts {item : Item} (noArray : ∀ id base, item ≠ ty (.localArray id base)) :
    item.handles = item.parts.flatMap handles := by
  cases item with
  | union value =>
      obtain ⟨members⟩ := value
      rw [parts, List.flatMap_map]
      exact Ty.handlesOfAll_eq_flatMap members
  | shape value =>
      cases value with
      | seq elem => simp [handles, parts, Shape.handles]
      | tuple elems =>
          rw [parts, List.flatMap_map]
          exact TyUnion.handlesOfAll_eq_flatMap elems
  | ty value =>
      cases value with
      | any | classObject | code | literal => rfl
      | localArray id base => exact absurd rfl (noArray id base)
      | instanceOf cls => simp [handles, parts, Ty.handles]
      | closure code frame underlying => simp [handles, parts, Ty.handles]
      | typedClosure params result underlying =>
          simp [handles, parts, Ty.handles, TyUnion.handlesOfAll_eq_flatMap, List.flatMap_map]
      | array value base =>
          rw [parts]
          split
          · rename_i kept
            exact Shape.handles_eq_nil value ((Bool.and_eq_true _ _).mp kept).1
          · simp [handles, Ty.handles]

/-- **What an item does to a resolver is what its parts do in turn**, unless it is a local array. -/
theorem resolveWith_parts (visit : ArrayId → ResolveM (Option Shape)) {item : Item}
    (noArray : ∀ id base, item ≠ ty (.localArray id base)) :
    (fun _ => ()) <$> item.resolveWith visit = (fun _ => ()) <$> resolveAllWith visit item.parts := by
  rw [resolveAllWith_effect, ← handles_eq_flatMap_parts noArray, resolveWith_eq_map, ← comp_map]

/-- A part is smaller than the whole. -/
theorem sizeOf_lt_of_mem_parts {item part : Item} (isPart : part ∈ item.parts) :
    sizeOf part < sizeOf item := by
  cases item with
  | union value =>
      obtain ⟨members⟩ := value
      obtain ⟨member, inMembers, rfl⟩ := List.mem_map.mp isPart
      have smaller : sizeOf member < sizeOf members := List.sizeOf_lt_of_mem inMembers
      simp only [union.sizeOf_spec, TyUnion.mk.sizeOf_spec, ty.sizeOf_spec]
      omega
  | shape value =>
      cases value with
      | seq elem =>
          rw [List.mem_singleton.mp isPart]
          simp
      | tuple elems =>
          obtain ⟨elem, inElems, rfl⟩ := List.mem_map.mp isPart
          have smaller := List.sizeOf_lt_of_mem inElems
          simp only [shape.sizeOf_spec, Shape.tuple.sizeOf_spec, union.sizeOf_spec]
          omega
  | ty value =>
      cases value with
      | any | classObject | code | literal | localArray => cases isPart
      | instanceOf cls =>
          rw [List.mem_singleton.mp isPart]
          simp
      | closure code frame underlying =>
          rw [List.mem_singleton.mp isPart]
          simp
      | typedClosure params result underlying =>
          simp only [ty.sizeOf_spec, Ty.typedClosure.sizeOf_spec]
          rcases List.mem_append.mp isPart with inParams | isOther
          · obtain ⟨param, listed, rfl⟩ := List.mem_map.mp inParams
            have smaller := List.sizeOf_lt_of_mem listed
            simp only [union.sizeOf_spec]
            omega
          · simp only [List.mem_cons, List.not_mem_nil, or_false] at isOther
            rcases isOther with rfl | rfl
            · simp only [union.sizeOf_spec]
              omega
            · simp only [ty.sizeOf_spec]
              omega
      | array value base =>
          rw [parts] at isPart
          split at isPart
          · cases isPart
          · rw [List.mem_singleton.mp isPart]
            simp only [ty.sizeOf_spec, Ty.array.sizeOf_spec, shape.sizeOf_spec]
            omega

end Item

/-! ### Calls within calls -/

namespace Resolver

/-- A call of a resolver: what is to be resolved, and the state in which it starts. -/
structure Call where
  item : Item
  before : Resolver

/-- **The calls that a call makes.** The parts of an item are resolved in turn, each in the state that
those before it left. For a local array that is entered, the content of its slot is resolved. -/
inductive Call.Makes (slots : ArrayId → Option Shape) : Call → Call → Prop
  | part {item part : Item} {earlier later results : List Item} {before middle : Resolver} {room : Nat} :
      item.parts = earlier ++ part :: later →
      Item.resolveAllWith (visit slots room) earlier before = .ok results middle →
      Makes slots ⟨item, before⟩ ⟨part, middle⟩
  | content {id : ArrayId} {base : Ty} {content : Shape} {before entered : Resolver} :
      before.resolved.lookup id = none → before.enter id = (.entered, entered) →
      slots id = some content →
      Makes slots ⟨.ty (.localArray id base), before⟩ ⟨.shape content, entered.openArray⟩

variable {slots : ArrayId → Option Shape} {resolver before after : Resolver} {room : Nat}

/-- An array is entered when nothing speaks against it, and the resolver is then ready for its content. -/
theorem opened_of_enter {id : ArrayId} {entered : Resolver} (enters : resolver.enter id = (.entered, entered)) :
    id ∉ resolver.guard.stack ∧ entered.guard.stack = id :: resolver.guard.stack ∧
      entered.openArray = resolver.opened id := by
  unfold enter at enters
  rcases resolver.guard.enter_cases id with ⟨budget, onPath⟩ | ⟨budget, offPath, shallow⟩ | refused
  · rw [PathGuard.enter_of_mem budget onPath] at enters
    cases enters
  · rw [PathGuard.enter_of_lt budget offPath shallow] at enters
    cases enters
    exact ⟨offPath, rfl, rfl⟩
  · rcases PathGuard.enter_of_refuses refused with answer | answer <;>
      · rw [answer] at enters
        cases enters

/-- An item that is resolved visits its handles. -/
theorem visits_of_resolveWith {item result : Item}
    (resolved : item.resolveWith (visit slots room) before = .ok result after) :
    ∃ answers, Visits slots before item.handles answers after := by
  rw [Item.resolveWith_eq_map, map_eq_pure_bind] at resolved
  obtain ⟨answers, middle, visited, returned⟩ := bind_eq_ok_iff.mp resolved
  obtain ⟨-, rfl⟩ := pure_eq_ok_iff.mp returned
  exact ⟨answers, visits_of_visitAll visited⟩

/-- Items that are resolved in turn visit their handles in turn. -/
theorem visits_of_resolveAllWith {items results : List Item}
    (resolved : Item.resolveAllWith (visit slots room) items before = .ok results after) :
    ∃ answers, Visits slots before (items.flatMap Item.handles) answers after := by
  have effect : ((fun _ => ()) <$> Item.resolveAllWith (visit slots room) items) before = .ok () after := by
    rw [map_eq_pure_bind]
    exact bind_eq_ok_iff.mpr ⟨results, after, resolved, rfl⟩
  rw [Item.resolveAllWith_effect, map_eq_pure_bind] at effect
  obtain ⟨answers, middle, visited, returned⟩ := bind_eq_ok_iff.mp effect
  obtain ⟨-, rfl⟩ := pure_eq_ok_iff.mp returned
  exact ⟨answers, visits_of_visitAll visited⟩

/-! ### In order -/

/-- **A resolver in order.** The arrays on the path are different, have slots and are not known, and the
floor, where there is one, is a place on the path. -/
structure InOrder (slots : ArrayId → Option Shape) (resolver : Resolver) : Prop where
  distinct : resolver.guard.stack.Nodup
  allocated : ∀ id ∈ resolver.guard.stack, (slots id).isSome = true
  unknown : ∀ id ∈ resolver.guard.stack, resolver.resolved.lookup id = none
  floor : resolver.FloorOnPath

theorem AtRest.inOrder (atRest : resolver.AtRest) : resolver.InOrder slots := by
  refine ⟨?_, ?_, ?_, ?_⟩
  · rw [atRest.stack]
    exact .nil
  · rw [atRest.stack]
    exact nofun
  · rw [atRest.stack]
    exact nofun
  · rw [FloorOnPath, atRest.floor]
    exact nofun

/-- To enter an array that has a slot and is not known keeps a resolver in order. -/
theorem InOrder.opened (inOrder : resolver.InOrder slots) {id : ArrayId} {content : Shape}
    (unknown : resolver.resolved.lookup id = none) (offPath : id ∉ resolver.guard.stack)
    (held : slots id = some content) : (resolver.opened id).InOrder slots := by
  refine ⟨List.nodup_cons.mpr ⟨offPath, inOrder.distinct⟩, ?_, ?_, nofun⟩
  · exact List.forall_mem_cons.mpr ⟨by rw [held]; rfl, inOrder.allocated⟩
  · exact List.forall_mem_cons.mpr ⟨unknown, inOrder.unknown⟩

/-- An array on the path does not become known before it is left. -/
theorem Visits.unknown_of_mem {ids : List ArrayId} {answers : List (Option Shape)}
    (visits : Visits slots before ids answers after) {other : ArrayId} (onPath : other ∈ before.guard.stack)
    (unknown : before.resolved.lookup other = none) : after.resolved.lookup other = none := by
  induction visits with
  | done resolver => exact unknown
  | known _ _ ih => exact ih onPath unknown
  | cycle _ _ _ _ ih => exact ih onPath unknown
  | limit _ _ _ ih => exact ih onPath unknown
  | @entered resolver finished after id content ids inner answers _ _ offPath _ _ inside _ deeper ih =>
      have different : other ≠ id := fun same => offPath (same ▸ onPath)
      apply ih
      · rw [(frame_closed (content.fill inner) inside.frame).stack]
        exact onPath
      · rw [lookup_closed_of_ne different]
        exact deeper (List.mem_cons_of_mem id onPath) unknown

/-- **Visits keep a resolver in order.** -/
theorem Visits.inOrder {ids : List ArrayId} {answers : List (Option Shape)}
    (visits : Visits slots before ids answers after) (inOrder : before.InOrder slots) :
    after.InOrder slots := by
  have stack := visits.frame.stack
  refine ⟨?_, ?_, ?_, visits.floorOnPath inOrder.floor⟩
  · rw [stack]
    exact inOrder.distinct
  · rw [stack]
    exact inOrder.allocated
  · rw [stack]
    exact fun id onPath => visits.unknown_of_mem onPath (inOrder.unknown id onPath)

/-- A call that starts in order makes calls that start in order. -/
theorem Call.Makes.inOrder {call inner : Call} (makes : call.Makes slots inner)
    (inOrder : call.before.InOrder slots) : inner.before.InOrder slots := by
  cases makes with
  | part _ resolved =>
      obtain ⟨answers, visits⟩ := visits_of_resolveAllWith resolved
      exact visits.inOrder inOrder
  | content unknown enters held =>
      obtain ⟨offPath, -, ready⟩ := opened_of_enter enters
      rw [ready]
      exact inOrder.opened unknown offPath held

/-! ### No endless chain of calls -/

/-- The arrays that could still be entered: they have slots and are not on the path. -/
def unentered (slots : ArrayId → Option Shape) (resolver : Resolver) : Set ArrayId :=
  {id | (slots id).isSome = true ∧ id ∉ resolver.guard.stack}

/-- To enter an array leaves one array less that could be entered. -/
theorem ncard_unentered_opened {id : ArrayId} {content : Shape} (offPath : id ∉ resolver.guard.stack)
    (held : slots id = some content) :
    ((resolver.opened id).unentered slots).ncard < (resolver.unentered slots).ncard := by
  have here : id ∈ resolver.unentered slots := ⟨by rw [held]; rfl, offPath⟩
  refine Set.ncard_lt_ncard ⟨?_, fun within => ?_⟩ (Set.toFinite _)
  · exact fun other ⟨allocated, notOpened⟩ => ⟨allocated, fun onPath => notOpened (.tail id onPath)⟩
  · exact (within here).2 (.head _)

/-- **No chain of calls goes on for ever**, whatever the slots and the limits are. A call for a part of an
item has the same path and a smaller item. A call for the content of an array may have a larger item, and
has one array less that could be entered. -/
theorem wellFounded_makes (slots : ArrayId → Option Shape) :
    WellFounded (fun inner outer : Call => outer.Makes slots inner) := by
  let measure (call : Call) : Nat ×ₗ Nat := toLex ((call.before.unentered slots).ncard, sizeOf call.item)
  refine Subrelation.wf ?_ (InvImage.wf measure wellFounded_lt)
  intro inner outer makes
  cases makes with
  | @part item part earlier later results before middle room split resolved =>
      obtain ⟨answers, visits⟩ := visits_of_resolveAllWith resolved
      have samePath : middle.unentered slots = before.unentered slots := by
        rw [unentered, visits.frame.stack]
        rfl
      have isPart : part ∈ item.parts := by
        rw [split]
        exact List.mem_append_right _ List.mem_cons_self
      refine Prod.Lex.toLex_lt_toLex.mpr (.inr ⟨?_, Item.sizeOf_lt_of_mem_parts isPart⟩)
      rw [samePath]
  | @content id base content before entered unknown enters held =>
      obtain ⟨offPath, -, ready⟩ := opened_of_enter enters
      refine Prod.Lex.toLex_lt_toLex.mpr (.inl ?_)
      show (entered.openArray.unentered slots).ncard < (before.unentered slots).ncard
      rw [ready]
      exact ncard_unentered_opened offPath held

end Resolver

/-! ### Items in turn -/

namespace Item

open Resolver

variable {slots : ArrayId → Option Shape} {items results : List Item} {before : Resolver}

/-- Items that are resolved in turn leave no array on the path. -/
theorem atRest_of_resolveAll {limits : Limits}
    (resolved : resolveAll slots items (start limits) = .ok results before) : before.AtRest := by
  refine resolveAll_induction AtRest (fun atRest resolved => ?_) (atRest_start limits) resolved
  obtain ⟨answers, visits, -⟩ := (resolve_eq_ok_iff atRest).mp resolved
  exact atRest.of_visits visits

/-- A call that is reached from one that starts in order starts in order. -/
theorem inOrder_of_nested {call inner : Call} (nested : Relation.ReflTransGen (Call.Makes slots) call inner)
    (inOrder : call.before.InOrder slots) : inner.before.InOrder slots := by
  induction nested with
  | refl => exact inOrder
  | tail _ makes ih => exact makes.inOrder ih

/-- **A resolver stays in order.** Let a fresh resolver return any items in turn, in any slots and within
any limits, and be asked for one more.

* In between no array is on the path and there is no floor, so that the resolver can be given up.
* Whenever a call starts, however deep it lies within the one that is asked for, the arrays on the path are
  different, have slots and are not known, and the floor is a place on the path. When it returns, the same
  holds, and the path is as it was.
* Whenever an array is entered, it has a place on the path, and when its content was resolved it is the
  array that is to be left.
* The resolver returns, or it reports an array that has no slot.
* No chain of calls goes on for ever. A call that is not for a local array does nothing but make the calls
  for its parts. -/
theorem resolver_stays_in_order {limits : Limits}
    (resolved : resolveAll slots items (start limits) = .ok results before) (item : Item) :
    (before.guard.path = [] ∧ before.floor = none ∧ before.guard.finish = .ok ()) ∧
    (∀ call : Call, Relation.ReflTransGen (Call.Makes slots) ⟨item, before⟩ call →
      call.before.InOrder slots ∧
      (∀ room result after, call.item.resolveWith (visit slots room) call.before = .ok result after →
        after.InOrder slots ∧ after.guard.path = call.before.guard.path) ∧
      ∀ id content entered, call.before.enter id = (.entered, entered) → slots id = some content →
        0 < entered.guard.path.length ∧
        ∀ room shape finished,
          content.resolveWith (visit slots room) entered.openArray = .ok shape finished →
          (finished.leave id).1 = .ok ()) ∧
    ((∃ result after, item.resolve slots before = .ok result after) ∨
      ∃ id stopped, slots id = none ∧
        item.resolve slots before = .error (.unallocatedArray id) stopped) ∧
    WellFounded (fun inner outer : Call => outer.Makes slots inner) ∧
    ∀ ask (whole : Item), (∀ id base, whole ≠ .ty (.localArray id base)) →
      (fun _ => ()) <$> whole.resolveWith ask = (fun _ => ()) <$> resolveAllWith ask whole.parts := by
  have atRest := atRest_of_resolveAll resolved
  refine ⟨⟨?_, atRest.floor, ?_⟩, fun call nested => ?_, ?_, wellFounded_makes slots,
    fun ask _ => resolveWith_parts ask⟩
  · rw [PathGuard.path, atRest.stack]
    rfl
  · rw [PathGuard.finish, atRest.stack]
    rfl
  · have inOrder := inOrder_of_nested nested atRest.inOrder
    refine ⟨inOrder, fun room result after returned => ?_, fun id content entered enters _ => ?_⟩
    · obtain ⟨answers, visits⟩ := visits_of_resolveWith returned
      exact ⟨visits.inOrder inOrder, congrArg List.reverse visits.frame.stack⟩
    · obtain ⟨-, stack, ready⟩ := opened_of_enter enters
      refine ⟨?_, fun room shape finished returned => ?_⟩
      · rw [PathGuard.path, List.length_reverse, stack]
        exact Nat.succ_pos _
      have inside : (Item.shape content).resolveWith (visit slots room) entered.openArray =
          .ok (.shape shape) finished := by
        rw [resolveWith, map_eq_pure_bind]
        exact bind_eq_ok_iff.mpr ⟨shape, finished, returned, rfl⟩
      obtain ⟨answers, visits⟩ := visits_of_resolveWith inside
      have innermost : finished.guard.stack.head? = some id := by
        rw [visits.frame.stack, ready]
        rfl
      exact if_pos innermost
  · cases ran : item.resolve slots before with
    | ok result after => exact .inl ⟨result, after, rfl⟩
    | error violation stopped =>
        have leadsOn : LeadsOn slots (fun _ => True) := fun _ _ _ _ _ _ => trivial
        obtain ⟨id, -, missing, rfl⟩ := missing_of_resolve_error leadsOn atRest (fun _ _ => trivial) ran
        exact .inr ⟨id, stopped, missing, rfl⟩

/-- The resolver after the first of two arrays that hold each other, with the largest limits. Its shape
is known, and that of the second is not, since a cycle was cut there. -/
def afterTangled : Resolver where
  guard := ⟨⟨4294967295, 4294967295⟩, [], 3, false⟩
  resolved := [(⟨0⟩, .seq ⟨[.array (.tuple [⟨[.any]⟩]) .any]⟩)]
  floor := none
  log := #[.cycleCut ⟨0⟩ [⟨0⟩, ⟨1⟩]]

theorem resolveAll_tangled : resolveAll crossedSlots [.ty (.localArray ⟨0⟩ .any)]
    (start ⟨4294967295, 4294967295⟩) =
      .ok [.ty (.array (.seq ⟨[.array (.tuple [⟨[.any]⟩]) .any]⟩) .any)] afterTangled :=
  rfl

/-- While the content of the second array is resolved, that array alone is on the path: the first one is
known by now. The content is returned with the path as it was, and so is the array. -/
theorem resolver_stays_in_order_tangled :
    let content := Item.shape (.tuple [⟨[.localArray ⟨0⟩ .any]⟩])
    let inside := afterTangled.opened ⟨1⟩
    Relation.ReflTransGen (Call.Makes crossedSlots) ⟨.ty (.localArray ⟨1⟩ .any), afterTangled⟩
      ⟨content, inside⟩ ∧
    inside.guard.path = [⟨1⟩] ∧ inside.InOrder crossedSlots ∧
    (∃ result after, content.resolveWith (visit crossedSlots 1) inside = .ok result after ∧
      after.InOrder crossedSlots ∧ after.guard.path = [⟨1⟩]) ∧
    ∃ result after, (Item.ty (.localArray ⟨1⟩ .any)).resolve crossedSlots afterTangled =
      .ok result after := by
  intro content inside
  have nested : Relation.ReflTransGen (Call.Makes crossedSlots) ⟨.ty (.localArray ⟨1⟩ .any), afterTangled⟩
      ⟨content, inside⟩ := .single (.content rfl rfl rfl)
  obtain ⟨-, calls, -⟩ := resolver_stays_in_order resolveAll_tangled (.ty (.localArray ⟨1⟩ .any))
  obtain ⟨inOrder, returns, -⟩ := calls _ nested
  have returned : content.resolveWith (visit crossedSlots 1) inside = .ok _ _ := rfl
  exact ⟨nested, rfl, inOrder, ⟨_, _, returned, returns 1 _ _ returned⟩, ⟨_, _, rfl⟩⟩

end Item

end TypeLattice
