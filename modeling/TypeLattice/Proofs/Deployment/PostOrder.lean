/-
**Deployment takes one id for each array, in post-order.**

The id of the next array is handed on through types, unions and shapes, and a store may refuse an id in
two ways: because it was issued before, or because it is the last one. How a deployment ends can be told
beforehand, from the number of arrays it has to place and the id it starts with.

* `arrayCount`: how many arrays of a value are reached from its top through array shapes;
* `ArrayId.span`: consecutive ids;
* `Deployment.Filled`: arrays were placed under consecutive ids, each of them after those it refers to;
* `Deployment.Ends`: how a step with a given number of arrays to place can end; `Ends.trans`: steps in turn;
* `Ty.counted_deploy` and the like: every deployment ends in one of these ways;
* `Ty.deployed_span` and the like: the ids are taken in post-order;
* `Ty.deploy_in_post_order`: what this says about the deployment of a type into a store.
-/

import TypeLattice.Proofs.Deployment.Placement
import TypeLattice.Proofs.Types.Mentions

namespace TypeLattice

/-! ### How many arrays there are to place -/

mutual

/-- The number of arrays of a type that are reached from its top through array shapes. -/
def Ty.arrayCount : Ty → Nat
  | .array shape _ => shape.arrayCount + 1
  | .any | .classObject _ | .instanceOf _ | .code _ | .closure _ _ _ | .typedClosure _ _ _
  | .literal _ _ | .localArray _ _ => 0
termination_by structural ty => ty

/-- The number of such arrays of all members of a union. -/
def TyUnion.arrayCount : TyUnion → Nat
  | ⟨members⟩ => Ty.arrayCountOfAll members
termination_by structural union => union

/-- The number of such arrays at all positions of a shape. -/
def Shape.arrayCount : Shape → Nat
  | .seq elem => elem.arrayCount
  | .tuple elems => TyUnion.arrayCountOfAll elems
termination_by structural shape => shape

/-- The number of such arrays of all the types. -/
def Ty.arrayCountOfAll : List Ty → Nat
  | [] => 0
  | ty :: rest => ty.arrayCount + Ty.arrayCountOfAll rest
termination_by structural types => types

/-- The number of such arrays of all the unions. -/
def TyUnion.arrayCountOfAll : List TyUnion → Nat
  | [] => 0
  | union :: rest => union.arrayCount + TyUnion.arrayCountOfAll rest
termination_by structural unions => unions

end

/-- Types without an array among them have none to place. -/
theorem Ty.arrayCountOfAll_eq_zero {types : List Ty} (noArray : types.any Ty.isArray = false) :
    Ty.arrayCountOfAll types = 0 := by
  induction types with
  | nil => rfl
  | cons ty rest ih =>
      rw [List.any_cons, Bool.or_eq_false_iff] at noArray
      rw [Ty.arrayCountOfAll, ih noArray.2]
      cases ty with
      | array shape base => cases noArray.1
      | any | classObject | instanceOf | code | closure | typedClosure | literal | localArray => rfl

/-! ### Consecutive ids -/

namespace ArrayId

/-- The ids from `first` on, as many as `count`. -/
def span (first : ArrayId) (count : Nat) : List ArrayId :=
  (List.range' first.val.toNat count).map fun number => ⟨number.toUInt32⟩

theorem eq_of_toNat {first second : ArrayId} (same : first.val.toNat = second.val.toNat) :
    first = second :=
  congrArg ArrayId.mk (UInt32.toNat_inj.mp same)

theorem mem_span_iff {first id : ArrayId} {count : Nat} (fits : first.val.toNat + count ≤ 4294967296) :
    id ∈ first.span count ↔
      first.val.toNat ≤ id.val.toNat ∧ id.val.toNat < first.val.toNat + count := by
  simp only [span, List.mem_map, List.mem_range'_1]
  constructor
  · rintro ⟨number, inside, rfl⟩
    rwa [toNat_toUInt32 (Nat.lt_of_lt_of_le inside.2 fits)]
  · intro inside
    exact ⟨id.val.toNat, inside, eq_of_toNat (toNat_toUInt32 id.val.toNat_lt)⟩

theorem span_one (id : ArrayId) : id.span 1 = [id] :=
  congrArg (fun only => [only]) (eq_of_toNat (toNat_toUInt32 id.val.toNat_lt))

/-- A span goes on where the one before it ends. -/
theorem span_add {first middle : ArrayId} {count : Nat} (more : Nat)
    (follows : middle.val.toNat = first.val.toNat + count) :
    first.span (count + more) = first.span count ++ middle.span more := by
  simp only [span, follows, ← List.map_append, List.range'_append_1]

/-- The last id of a span, where the next one still fits. -/
theorem toNat_of_getLast?_span {first id : ArrayId} {count : Nat}
    (fits : first.val.toNat + count ≤ 4294967296) (isLast : (first.span count).getLast? = some id) :
    id.val.toNat + 1 = first.val.toNat + count := by
  simp only [span, List.getLast?_map, List.getLast?_range', Option.map_eq_some_iff] at isLast
  obtain ⟨number, found, rfl⟩ := isLast
  split at found
  · cases found
  · cases found
    rw [toNat_toUInt32 (by omega)]
    omega

end ArrayId

/-! ### How a step can end -/

namespace Deployment

variable {before middle after stopped : Deployment ArrayStore} {count more : Nat}

/-- As many arrays as `count` were placed under the ids from `before.next` on, each after those that it
refers to. -/
structure Filled (before : Deployment ArrayStore) (count : Nat) (after : Deployment ArrayStore) :
    Prop where
  next : after.next.val.toNat = before.next.val.toNat + count
  grows : before.store.Grows (before.next.span count) after.store
  mark : after.store.next = if count = 0 then before.store.next else after.next
  bounded : after.store.Bounded
  inward : ∀ id ∈ before.next.span count, ∀ content, after.store.slot? id = some content →
    ∀ other ∈ content.mentions, other < id

theorem Filled.trans (first : Filled before count middle) (second : Filled middle more after) :
    Filled before (count + more) after := by
  have split := ArrayId.span_add more first.next
  refine ⟨by rw [second.next, first.next, Nat.add_assoc], ?_, ?_, second.bounded, ?_⟩
  · rw [split]
    exact first.grows.trans second.grows
  · have mark := first.mark
    have mark' := second.mark
    by_cases none : more = 0
    · subst none
      have same : after.next = middle.next := ArrayId.eq_of_toNat second.next
      rw [mark', if_pos rfl, mark, Nat.add_zero, same]
    · rw [mark', if_neg none, if_neg (by omega)]
  · rw [split]
    refine List.forall_mem_append.mpr ⟨fun id early content held => ?_, second.inward⟩
    -- What was placed first is still there.
    obtain ⟨placed, found⟩ := Option.isSome_iff_exists.mp (first.grows.placed id early)
    obtain rfl : placed = content := Option.some.inj ((second.grows.slot?_eq_some found).symm.trans held)
    exact first.inward id early placed found

/-- How a step that has `count` arrays to place can end, and with which refusal. -/
inductive Ends (before : Deployment ArrayStore) (count : Nat) :
    Option Refusal → Deployment ArrayStore → Prop
  /-- There is nothing to place, and nothing changes. -/
  | idle : count = 0 → Ends before count none before
  /-- All arrays are placed. -/
  | filled {after : Deployment ArrayStore} : 0 < count → ¬ before.next < before.store.next →
      Filled before count after → Ends before count none after
  /-- The first id was issued before. -/
  | reused {stopped : Deployment ArrayStore} : 0 < count → before.next < before.store.next →
      stopped.store = before.store →
      Ends before count (some (.idReused before.next before.store.next)) stopped
  /-- All ids but the last are taken, and an array is left. -/
  | exhausted {stopped : Deployment ArrayStore} : ¬ before.next < before.store.next →
      4294967295 < before.next.val.toNat + count →
      Filled before (4294967295 - before.next.val.toNat) stopped →
      Ends before count (some (.idsExhausted ⟨4294967295⟩)) stopped

namespace Ends

theorem bounded {outcome : Option Refusal} (bounded : before.store.Bounded)
    (ends : Ends before count outcome after) : after.store.Bounded := by
  cases ends with
  | idle => exact bounded
  | filled _ _ filled => exact filled.bounded
  | reused _ _ same => rwa [same]
  | exhausted _ _ filled => exact filled.bounded

theorem next_eq (ends : Ends before count none after) :
    after.next.val.toNat = before.next.val.toNat + count := by
  cases ends with
  | idle isZero => rw [isZero, Nat.add_zero]
  | filled _ _ filled => exact filled.next

theorem next_le (ends : Ends before count none after) {id : ArrayId} (below : id < before.next) :
    id < after.next := by
  rw [ArrayId.lt_iff] at below ⊢
  rw [ends.next_eq]
  omega

/-- What is in a slot stays there. -/
theorem slot?_eq_some (ends : Ends before count none after) {id : ArrayId} {content : Shape}
    (held : before.store.slot? id = some content) : after.store.slot? id = some content := by
  cases ends with
  | idle => exact held
  | filled _ _ filled => exact filled.grows.slot?_eq_some held

/-- No id is taken twice. -/
theorem once (ends : Ends before count none after) : (before.next.span count).Nodup := by
  cases ends with
  | idle isZero =>
      rw [isZero]
      exact List.nodup_nil
  | filled _ _ filled => exact filled.grows.once

/-- A refusal is final. -/
theorem stop {refusal : Refusal} (ends : Ends before count (some refusal) stopped) (more : Nat) :
    Ends before (count + more) (some refusal) stopped := by
  cases ends with
  | reused some early same => exact .reused (by omega) early same
  | exhausted ready beyond filled => exact .exhausted ready (by omega) filled

/-- **Steps in turn have the arrays of both to place.** -/
theorem trans {outcome : Option Refusal} (first : Ends before count none middle)
    (second : Ends middle more outcome after) : Ends before (count + more) outcome after := by
  cases first with
  | idle isZero =>
      rw [isZero, Nat.zero_add]
      exact second
  | filled some ready filled =>
      have next := filled.next
      have mark : middle.store.next = middle.next := by rw [filled.mark, if_neg (by omega)]
      have small := middle.next.val.toNat_lt
      cases second with
      | idle isZero =>
          rw [isZero, Nat.add_zero]
          exact .filled some ready filled
      | filled _ _ filled' => exact .filled (by omega) ready (filled.trans filled')
      | reused _ early _ =>
          -- The store expects just the id that comes next.
          rw [mark, ArrayId.lt_iff] at early
          omega
      | exhausted _ beyond filled' =>
          refine .exhausted ready (by omega) ?_
          have total : 4294967295 - before.next.val.toNat =
              count + (4294967295 - middle.next.val.toNat) := by omega
          rw [total]
          exact filled.trans filled'

end Ends

/-- Nothing is placed where the store and the next id stay the same. -/
theorem Filled.of_same (bounded : before.store.Bounded) (sameStore : after.store = before.store)
    (sameNext : after.next = before.next) : Filled before 0 after := by
  refine ⟨by rw [sameNext, Nat.add_zero], ?_, by rw [sameStore, if_pos rfl], by rwa [sameStore], nofun⟩
  rw [sameStore]
  exact .refl before.store

/-- One array is placed under the next id. -/
theorem Filled.of_install {shape : Shape} (bounded : before.store.Bounded)
    (below : ∀ id ∈ shape.mentions, id < before.next)
    (installed : before.store.install before.next shape = .ok () after.store)
    (follows : after.next = after.store.next) : Filled before 1 after := by
  obtain ⟨-, next, -⟩ := ArrayStore.install_eq_ok_iff.mp installed
  refine ⟨?_, ?_, ?_, bounded.install installed, ?_⟩
  · rw [follows]
    exact ArrayId.next?_eq_some_iff.mp next
  · rw [ArrayId.span_one]
    exact ArrayStore.grows_of_install bounded installed
  · rw [if_neg Nat.one_ne_zero, follows]
  · intro id member content held
    rw [ArrayId.span_one, List.mem_singleton] at member
    rw [ArrayStore.slot?_install installed, if_pos member] at held
    cases held
    rw [member]
    exact below

/-- **To place one array takes the next id**, unless it was issued before or is the last. -/
theorem ends_place {shape : Shape} (bounded : before.store.Bounded)
    (below : ∀ id ∈ shape.mentions, id < before.next) :
    match place shape before with
    | .ok id after => id = before.next ∧ Ends before 1 none after
    | .error refusal stopped => Ends before 1 (some refusal) stopped := by
  simp only [place]
  cases installed : ArraySpace.install before.store before.next shape with
  | ok _ store =>
      obtain ⟨free, next, -⟩ := ArrayStore.install_eq_ok_iff.mp installed
      simp only [next, true_and]
      exact .filled Nat.one_pos free (.of_install bounded below installed rfl)
  | error refusal store =>
      obtain ⟨rfl, ⟨early, rfl⟩ | ⟨ready, isLast, rfl⟩⟩ := ArrayStore.install_eq_error_iff.mp installed
      · exact .reused Nat.one_pos early rfl
      · rw [ArrayId.next?_eq_none_iff] at isLast
        have last : before.next = ⟨4294967295⟩ := ArrayId.eq_of_toNat isLast
        have none : 4294967295 - before.next.val.toNat = 0 := by rw [last]; rfl
        rw [last]
        refine .exhausted ready (by rw [last]; decide) ?_
        rw [none]
        exact .of_same bounded rfl last.symm

/-! ### Every deployment ends in one of these ways -/

/-- A step that has `count` arrays to place, and may rely on the ids `given` being below the next one.
What it returns mentions ids below the one that is next then. -/
def Counted {α : Type} (given : List ArrayId) (count : Nat) (step : DeployM ArrayStore α)
    (mentions : α → List ArrayId) : Prop :=
  ∀ before : Deployment ArrayStore, before.store.Bounded → (∀ id ∈ given, id < before.next) →
    match step before with
    | .ok value after => Ends before count none after ∧ ∀ id ∈ mentions value, id < after.next
    | .error refusal stopped => Ends before count (some refusal) stopped

namespace Counted

variable {α β : Type} {given larger : List ArrayId} {step : DeployM ArrayStore α}
  {mentions : α → List ArrayId}

theorem pure {value : α} (within : mentions value ⊆ given) :
    Counted given 0 (Pure.pure value : DeployM ArrayStore α) mentions :=
  fun _ _ below => ⟨.idle rfl, fun id member => below id (within member)⟩

theorem mono (counted : Counted given count step mentions) (within : given ⊆ larger) :
    Counted larger count step mentions :=
  fun before bounded below => counted before bounded fun id member => below id (within member)

theorem of_ok (counted : Counted given count step mentions) (bounded : before.store.Bounded)
    (below : ∀ id ∈ given, id < before.next) {value : α} (ran : step before = .ok value after) :
    Ends before count none after ∧ ∀ id ∈ mentions value, id < after.next := by
  have outcome := counted before bounded below
  rwa [ran] at outcome

/-- What follows a step may rely on what the step returned as well. -/
theorem bind {next : α → DeployM ArrayStore β} {mentions' : β → List ArrayId}
    (first : Counted given count step mentions)
    (second : ∀ value, Counted (mentions value ++ given) more (next value) mentions') :
    Counted given (count + more) (step >>= next) mentions' := by
  intro before bounded below
  have afterFirst := first before bounded below
  show match EStateM.bind step next before with
    | .ok value after => _
    | .error refusal stopped => _
  unfold EStateM.bind
  cases ran : step before with
  | error refusal stopped =>
      rw [ran] at afterFirst
      exact afterFirst.stop more
  | ok value middle =>
      rw [ran] at afterFirst
      obtain ⟨ends, returned⟩ := afterFirst
      have afterSecond := second value middle (ends.bounded bounded)
        (List.forall_mem_append.mpr ⟨returned, fun id member => ends.next_le (below id member)⟩)
      show match next value middle with
        | .ok value after => _
        | .error refusal stopped => _
      cases ranNext : next value middle with
      | error refusal stopped =>
          rw [ranNext] at afterSecond
          exact ends.trans afterSecond
      | ok result after =>
          rw [ranNext] at afterSecond
          exact ⟨ends.trans afterSecond.1, afterSecond.2⟩

/-- What is made of the value that a step returned takes no array. -/
theorem bind_pure {result : α → β} {mentions' : β → List ArrayId}
    (first : Counted given count step mentions)
    (within : ∀ value, mentions' (result value) ⊆ mentions value ++ given) :
    Counted given count (step >>= fun value => Pure.pure (result value)) mentions' :=
  first.bind fun value => .pure (within value)

end Counted

theorem counted_place (shape : Shape) : Counted shape.mentions 1 (place shape) (fun id => [id]) := by
  intro before bounded below
  have ends := ends_place bounded below
  cases ran : place shape before with
  | error refusal stopped =>
      rw [ran] at ends
      exact ends
  | ok id after =>
      rw [ran] at ends
      obtain ⟨rfl, ends⟩ := ends
      refine ⟨ends, fun other member => ?_⟩
      rw [List.mem_singleton.mp member, ArrayId.lt_iff, ends.next_eq]
      omega

end Deployment

section Deploying

open Deployment

mutual

/-- **The deployment of a type has its arrays to place.** -/
theorem Ty.counted_deploy (ty : Ty) : Counted ty.mentions ty.arrayCount ty.deploy Ty.mentions := by
  cases ty with
  | array shape base =>
      have inShape : shape.mentions ⊆ (Ty.array shape base).mentions := List.subset_append_left _ _
      have inBase : base.mentions ⊆ (Ty.array shape base).mentions := List.subset_append_right _ _
      refine .bind ((Shape.counted_deploy shape).mono inShape) fun content => ?_
      refine .bind_pure ((counted_place content).mono (List.subset_append_left _ _)) fun id => ?_
      exact List.cons_subset_cons id (List.subset_append_of_subset_right content.mentions inBase)
  | any | classObject | instanceOf | code | closure | typedClosure | literal | localArray =>
      exact .pure (List.Subset.refl _)
termination_by structural ty

theorem TyUnion.counted_deploy (union : TyUnion) :
    Counted union.mentions union.arrayCount union.deploy TyUnion.mentions := by
  obtain ⟨members⟩ := union
  rw [TyUnion.deploy, TyUnion.arrayCount]
  split
  · refine .bind_pure (Ty.counted_deployAll members) fun deployed id mentioned => ?_
    exact List.mem_append_left _ (TyUnion.mem_mentions_ofList mentioned)
  · rename_i noArray
    rw [Ty.arrayCountOfAll_eq_zero (Bool.not_eq_true _ ▸ noArray)]
    exact .pure (List.Subset.refl _)
termination_by structural union

theorem Shape.counted_deploy (shape : Shape) :
    Counted shape.mentions shape.arrayCount shape.deploy Shape.mentions := by
  cases shape with
  | seq elem =>
      exact .bind_pure (TyUnion.counted_deploy elem) fun deployed => List.subset_append_left _ _
  | tuple elems =>
      exact .bind_pure (TyUnion.counted_deployAll elems) fun deployed => List.subset_append_left _ _
termination_by structural shape

theorem Ty.counted_deployAll (types : List Ty) :
    Counted (Ty.mentionsOfAll types) (Ty.arrayCountOfAll types) (Ty.deployAll types)
      Ty.mentionsOfAll := by
  cases types with
  | nil => exact .pure (List.Subset.refl _)
  | cons ty rest =>
      have inFirst : ty.mentions ⊆ Ty.mentionsOfAll (ty :: rest) := List.subset_append_left _ _
      have inRest : Ty.mentionsOfAll rest ⊆ Ty.mentionsOfAll (ty :: rest) :=
        List.subset_append_right _ _
      refine .bind ((Ty.counted_deploy ty).mono inFirst) fun first => ?_
      refine .bind_pure ((Ty.counted_deployAll rest).mono
        (List.subset_append_of_subset_right _ inRest)) fun others => ?_
      refine List.append_subset.mpr ⟨?_, List.subset_append_left _ _⟩
      exact List.subset_append_of_subset_right _ (List.subset_append_left _ _)
termination_by structural types

theorem TyUnion.counted_deployAll (unions : List TyUnion) :
    Counted (TyUnion.mentionsOfAll unions) (TyUnion.arrayCountOfAll unions) (TyUnion.deployAll unions)
      TyUnion.mentionsOfAll := by
  cases unions with
  | nil => exact .pure (List.Subset.refl _)
  | cons union rest =>
      have inFirst : union.mentions ⊆ TyUnion.mentionsOfAll (union :: rest) :=
        List.subset_append_left _ _
      have inRest : TyUnion.mentionsOfAll rest ⊆ TyUnion.mentionsOfAll (union :: rest) :=
        List.subset_append_right _ _
      refine .bind ((TyUnion.counted_deploy union).mono inFirst) fun first => ?_
      refine .bind_pure ((TyUnion.counted_deployAll rest).mono
        (List.subset_append_of_subset_right _ inRest)) fun others => ?_
      refine List.append_subset.mpr ⟨?_, List.subset_append_left _ _⟩
      exact List.subset_append_of_subset_right _ (List.subset_append_left _ _)
termination_by structural unions

end

/-! ### The ids are taken in post-order -/

mutual

/-- **The arrays of a type that was deployed have consecutive ids, in post-order.** -/
theorem Ty.deployed_span (ty : Ty) {before after : Deployment ArrayStore} {result : Ty}
    (bounded : before.store.Bounded) (tidy : ty.isTidy = true)
    (below : ∀ id ∈ ty.mentions, id < before.next) (ran : ty.deploy before = .ok result after) :
    Ty.Deployed after.store.slot? ty result (before.next.span ty.arrayCount) := by
  cases ty with
  | array shape base =>
      rw [Ty.isTidy, Bool.and_eq_true] at tidy
      obtain ⟨belowShape, -⟩ := List.forall_mem_append.mp below
      obtain ⟨content, middle, deployed, placing⟩ := bind_eq_ok_iff.mp ran
      obtain ⟨id, last, placed, returned⟩ := bind_eq_ok_iff.mp placing
      obtain ⟨rfl, rfl⟩ := pure_eq_ok_iff.mp returned
      obtain ⟨ends, mentioned⟩ := (Shape.counted_deploy shape).of_ok bounded belowShape deployed
      obtain ⟨endsPlace, -⟩ := (counted_place content).of_ok (ends.bounded bounded) mentioned placed
      obtain ⟨rfl, installed⟩ := Deployment.install_of_place placed
      have inner := Shape.deployed_span shape bounded tidy.1 belowShape deployed
      have held : last.store.slot? middle.next = some content := by
        rw [ArrayStore.slot?_install installed, if_pos rfl]
      rw [Ty.arrayCount, ArrayId.span_add 1 ends.next_eq, ArrayId.span_one]
      exact .array (inner.mono fun _ _ => endsPlace.slot?_eq_some) held
  | any | classObject | instanceOf | code | closure | typedClosure | literal | localArray =>
      obtain ⟨rfl, rfl⟩ := pure_eq_ok_iff.mp ran
      exact .kept rfl
termination_by structural ty

theorem TyUnion.deployed_span (union : TyUnion) {before after : Deployment ArrayStore}
    {result : TyUnion} (bounded : before.store.Bounded) (tidy : union.isTidy = true)
    (below : ∀ id ∈ union.mentions, id < before.next) (ran : union.deploy before = .ok result after) :
    TyUnion.Deployed after.store.slot? union result (before.next.span union.arrayCount) := by
  obtain ⟨members⟩ := union
  rw [TyUnion.isTidy, Bool.and_eq_true] at tidy
  rw [TyUnion.deploy] at ran
  rw [TyUnion.arrayCount]
  split at ran
  · obtain ⟨results, last, deployed, returned⟩ := bind_eq_ok_iff.mp ran
    obtain ⟨rfl, rfl⟩ := pure_eq_ok_iff.mp returned
    obtain ⟨ends, -⟩ := (Ty.counted_deployAll members).of_ok bounded below deployed
    have all := Ty.deployed_span_all members bounded tidy.2 below deployed
    -- The local arrays among the members have ids below those that are taken, so none are merged.
    have apart := Ty.areApart_deployed all tidy.1 ends.once fun id met taken => by
      have early := ArrayId.lt_iff.mp (below id (Ty.handlesOfAll_subset_mentions members met))
      have fits : before.next.val.toNat + Ty.arrayCountOfAll members ≤ 4294967296 := by
        rw [← ends.next_eq]
        exact Nat.le_of_lt last.next.val.toNat_lt
      have late := ((ArrayId.mem_span_iff fits).mp taken).1
      omega
    rw [TyUnion.ofList_of_areApart apart]
    exact .members all
  · rename_i noArray
    obtain ⟨rfl, rfl⟩ := pure_eq_ok_iff.mp ran
    rw [Bool.not_eq_true] at noArray
    rw [Ty.arrayCountOfAll_eq_zero noArray]
    exact .members (Ty.allDeployed_self noArray)
termination_by structural union

theorem Shape.deployed_span (shape : Shape) {before after : Deployment ArrayStore} {result : Shape}
    (bounded : before.store.Bounded) (tidy : shape.isTidy = true)
    (below : ∀ id ∈ shape.mentions, id < before.next) (ran : shape.deploy before = .ok result after) :
    Shape.Deployed after.store.slot? shape result (before.next.span shape.arrayCount) := by
  cases shape with
  | seq elem =>
      obtain ⟨deployedElem, last, deployed, returned⟩ := bind_eq_ok_iff.mp ran
      obtain ⟨rfl, rfl⟩ := pure_eq_ok_iff.mp returned
      exact .seq (TyUnion.deployed_span elem bounded tidy below deployed)
  | tuple elems =>
      obtain ⟨deployedElems, last, deployed, returned⟩ := bind_eq_ok_iff.mp ran
      obtain ⟨rfl, rfl⟩ := pure_eq_ok_iff.mp returned
      exact .tuple (TyUnion.deployed_span_all elems bounded tidy below deployed)
termination_by structural shape

theorem Ty.deployed_span_all (types : List Ty) {before after : Deployment ArrayStore}
    {results : List Ty} (bounded : before.store.Bounded) (tidy : Ty.allTidy types = true)
    (below : ∀ id ∈ Ty.mentionsOfAll types, id < before.next)
    (ran : Ty.deployAll types before = .ok results after) :
    Ty.AllDeployed after.store.slot? types results (before.next.span (Ty.arrayCountOfAll types)) := by
  cases types with
  | nil =>
      obtain ⟨rfl, rfl⟩ := pure_eq_ok_iff.mp ran
      exact .nil
  | cons ty rest =>
      rw [Ty.allTidy, Bool.and_eq_true] at tidy
      obtain ⟨belowHere, belowLater⟩ := List.forall_mem_append.mp below
      obtain ⟨result, middle, deployed, remaining⟩ := bind_eq_ok_iff.mp ran
      obtain ⟨others, last, deployedRest, returned⟩ := bind_eq_ok_iff.mp remaining
      obtain ⟨rfl, rfl⟩ := pure_eq_ok_iff.mp returned
      obtain ⟨ends, -⟩ := (Ty.counted_deploy ty).of_ok bounded belowHere deployed
      have belowRest := fun id member => ends.next_le (belowLater id member)
      obtain ⟨endsRest, -⟩ :=
        (Ty.counted_deployAll rest).of_ok (ends.bounded bounded) belowRest deployedRest
      have here := Ty.deployed_span ty bounded tidy.1 belowHere deployed
      have later := Ty.deployed_span_all rest (ends.bounded bounded) tidy.2 belowRest deployedRest
      rw [Ty.arrayCountOfAll, ArrayId.span_add _ ends.next_eq]
      exact .cons (here.mono fun _ _ => endsRest.slot?_eq_some) later
termination_by structural types

theorem TyUnion.deployed_span_all (unions : List TyUnion) {before after : Deployment ArrayStore}
    {results : List TyUnion} (bounded : before.store.Bounded) (tidy : TyUnion.allTidy unions = true)
    (below : ∀ id ∈ TyUnion.mentionsOfAll unions, id < before.next)
    (ran : TyUnion.deployAll unions before = .ok results after) :
    TyUnion.AllDeployed after.store.slot? unions results
      (before.next.span (TyUnion.arrayCountOfAll unions)) := by
  cases unions with
  | nil =>
      obtain ⟨rfl, rfl⟩ := pure_eq_ok_iff.mp ran
      exact .nil
  | cons union rest =>
      rw [TyUnion.allTidy, Bool.and_eq_true] at tidy
      obtain ⟨belowHere, belowLater⟩ := List.forall_mem_append.mp below
      obtain ⟨result, middle, deployed, remaining⟩ := bind_eq_ok_iff.mp ran
      obtain ⟨others, last, deployedRest, returned⟩ := bind_eq_ok_iff.mp remaining
      obtain ⟨rfl, rfl⟩ := pure_eq_ok_iff.mp returned
      obtain ⟨ends, -⟩ := (TyUnion.counted_deploy union).of_ok bounded belowHere deployed
      have belowRest := fun id member => ends.next_le (belowLater id member)
      obtain ⟨endsRest, -⟩ :=
        (TyUnion.counted_deployAll rest).of_ok (ends.bounded bounded) belowRest deployedRest
      have here := TyUnion.deployed_span union bounded tidy.1 belowHere deployed
      have later := TyUnion.deployed_span_all rest (ends.bounded bounded) tidy.2 belowRest deployedRest
      rw [TyUnion.arrayCountOfAll, ArrayId.span_add _ ends.next_eq]
      exact .cons (here.mono fun _ _ => endsRest.slot?_eq_some) later
termination_by structural unions

end

/-- A type that has no array to place is deployed to itself. -/
theorem Ty.Deployed.eq_of_nil {slots : ArrayId → Option Shape} {ty result : Ty}
    (deployed : Ty.Deployed slots ty result []) : result = ty := by
  generalize taken : ([] : List ArrayId) = ids at deployed
  cases deployed with
  | kept => rfl
  | array inner held => simp at taken

/-- The array on top takes the last id. -/
theorem Ty.Deployed.getLast?_eq {slots : ArrayId → Option Shape} {shape : Shape} {base result : Ty}
    {ids : List ArrayId} (deployed : Ty.Deployed slots (.array shape base) result ids) :
    ∃ top, result = .localArray top base ∧ ids.getLast? = some top := by
  cases deployed with
  | kept notArray => cases notArray
  | @array _ _ _ top inner _ held => exact ⟨top, rfl, List.getLast?_concat⟩

/-- **Deployment takes one id for each array, in post-order.** Let a type, with no member twice in a
union, have `count` arrays that are reached through array shapes, and let it mention no local array
from `next` on. Deployed into a store with `next` for the first array,

* without such arrays it stays as it is, and so does the store;
* if `next` was issued before, this is the refusal, and the store stays as it is;
* if the ids from `next` on do not suffice, all but the last are taken, and the refusal names the last;
* otherwise it succeeds. The ids from `next` on are taken in post-order, and the one after them is the
  next free one. Each array is replaced by a local array with its base, whose slot holds its shape,
  deployed in the same way and of the same length. Every slot refers to lower ids, and the array on top
  has the highest. -/
theorem Ty.deploy_in_post_order {store : ArrayStore} (built : store.Built) {ty : Ty}
    (tidy : ty.isTidy = true) {next : ArrayId} (below : ∀ id ∈ ty.mentions, id < next) :
    let before := Deployment.start store next
    let count := ty.arrayCount
    (count = 0 → ty.deploy before = .ok ty before) ∧
    (0 < count → next < store.next → ∃ stopped,
      ty.deploy before = .error (.idReused next store.next) stopped ∧ stopped.store = store) ∧
    (0 < count → ¬ next < store.next → 4294967295 < next.val.toNat + count → ∃ stopped,
      ty.deploy before = .error (.idsExhausted ⟨4294967295⟩) stopped ∧
      store.Grows (next.span (4294967295 - next.val.toNat)) stopped.store) ∧
    (0 < count → ¬ next < store.next → next.val.toNat + count ≤ 4294967295 → ∃ result after,
      ty.deploy before = .ok result after ∧
      after.next.val.toNat = next.val.toNat + count ∧
      after.store.next = after.next ∧
      store.Grows (next.span count) after.store ∧
      Ty.Deployed after.store.slot? ty result (next.span count) ∧
      (∀ id ∈ next.span count, ∀ content, after.store.slot? id = some content →
        ∀ other ∈ content.mentions, other < id) ∧
      ∃ shape base top, ty = .array shape base ∧ result = .localArray top base ∧
        top.val.toNat + 1 = next.val.toNat + count) := by
  intro before count
  have outcome := ty.counted_deploy before built.bounded below
  cases ran : ty.deploy before with
  | ok result after =>
      rw [ran] at outcome
      have deployed := ty.deployed_span built.bounded tidy below ran
      cases outcome.1 with
      | idle isZero =>
          have none : count = 0 := isZero
          rw [isZero] at deployed
          refine ⟨fun _ => by rw [deployed.eq_of_nil], ?_, ?_, ?_⟩ <;> intros <;> omega
      | filled some ready filled =>
          have small := after.next.val.toNat_lt
          have reached : after.next.val.toNat = next.val.toNat + count := filled.next
          refine ⟨by omega, fun _ early => absurd early ready, by omega, fun _ _ fits => ?_⟩
          have mark : after.store.next = after.next := by rw [filled.mark, if_neg (by omega)]
          refine ⟨result, after, rfl, reached, mark, filled.grows, deployed, filled.inward, ?_⟩
          cases ty with
          | array shape base =>
              obtain ⟨top, isLocal, isLast⟩ := deployed.getLast?_eq
              exact ⟨shape, base, top, rfl, isLocal,
                ArrayId.toNat_of_getLast?_span (by omega) isLast⟩
          | any | classObject | instanceOf | code | closure | typedClosure | literal | localArray =>
              cases some
  | error refusal stopped =>
      rw [ran] at outcome
      cases outcome with
      | reused some early same =>
          exact ⟨by omega, fun _ _ => ⟨stopped, rfl, same⟩, fun _ ready => absurd early ready,
            fun _ ready => absurd early ready⟩
      | exhausted ready beyond filled =>
          have beyond : 4294967295 < next.val.toNat + count := beyond
          have small := next.val.toNat_lt
          exact ⟨by omega, fun _ early => absurd early ready,
            fun _ _ _ => ⟨stopped, rfl, filled.grows⟩, by omega⟩

/-- A store with one array, under the id 2. -/
def solitary : ArrayStore := ⟨[(⟨2⟩, .seq ⟨[.any]⟩)], ⟨3⟩⟩

/-- An array of two arrays, the first of which holds the array of `solitary`. -/
def threeArrays : Ty :=
  .array (.tuple [⟨[.array (.seq ⟨[.localArray ⟨2⟩ .any]⟩) .any, .any]⟩, ⟨[.array (.tuple []) .any]⟩]) .any

/-- Three arrays take the ids 5, 6 and 7, and the one that holds the others takes 7. -/
theorem Ty.deploy_in_post_order_threeArrays :
    solitary.Built ∧ threeArrays.isTidy = true ∧ (∀ id ∈ threeArrays.mentions, id < ⟨5⟩) ∧
    ∃ result after, threeArrays.deploy (Deployment.start solitary ⟨5⟩) = .ok result after ∧
      after.next.val.toNat = 8 ∧ after.store.next = after.next ∧
      solitary.Grows [⟨5⟩, ⟨6⟩, ⟨7⟩] after.store ∧
      Ty.Deployed after.store.slot? threeArrays result [⟨5⟩, ⟨6⟩, ⟨7⟩] ∧
      ∃ top, result = .localArray top .any ∧ top.val.toNat + 1 = 8 := by
  have built : solitary.Built := @ArrayStore.Built.install _ _ ⟨2⟩ (.seq ⟨[.any]⟩) .empty rfl
  have below : ∀ id ∈ threeArrays.mentions, id < ⟨5⟩ := by decide
  obtain ⟨result, after, ran, next, mark, grows, deployed, -, shape, base, top, isArray, isLocal,
    highest⟩ := (Ty.deploy_in_post_order built (by decide) below).2.2.2 (by decide) (by decide) (by decide)
  cases isArray
  exact ⟨built, by decide, below, result, after, ran, next, mark, grows, deployed, top, isLocal, highest⟩

end Deploying

end TypeLattice
