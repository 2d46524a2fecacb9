/-
**Resolution is a finite unrolling.**

A resolved value is the given one with its local arrays unrolled through their slots. The relation
`Unrolls slots cut` says so constructor by constructor. A local array may be cut, that is become a
value of any type, if it is in the set `cut`; an array that is unrolled joins that set for all that
stands beneath it. So with nothing in the set at first, an array is cut only beneath itself.

* `Ty.unrolls_fill`: a value filled with unrolled shapes is unrolled;
* `Visits.unrolls`: every shape a resolver gives or keeps is unrolled, and what it cuts is an array
  that the floor of the path covers, unless a limit was hit;
* `Item.resolve_unrolls`: whatever a resolver was given before, as long as it returned every time, its
  next result unrolls what it was given, and while no limit was hit an array is cut only beneath itself.
-/

import TypeLattice.Proofs.Resolution.Visits
import TypeLattice.Proofs.Types.Equality
import Mathlib.Data.Set.Insert

namespace TypeLattice

/-! ### Unrollings -/

mutual

/-- `Ty.Unrolls slots cut ty result`: the type `ty` unrolls to `result`. -/
inductive Ty.Unrolls (slots : ArrayId → Option Shape) : Set ArrayId → Ty → Ty → Prop
  | any {cut : Set ArrayId} : Ty.Unrolls slots cut .any .any
  | classObject {cut : Set ArrayId} (cls : ClassRef) :
      Ty.Unrolls slots cut (.classObject cls) (.classObject cls)
  | code {cut : Set ArrayId} (id : CodeId) : Ty.Unrolls slots cut (.code id) (.code id)
  | instanceOf {cut : Set ArrayId} {cls result : Ty} :
      Ty.Unrolls slots cut cls result → Ty.Unrolls slots cut (.instanceOf cls) (.instanceOf result)
  | closure {cut : Set ArrayId} {underlying result : Ty} (code : CodeId) (frame : FrameId) :
      Ty.Unrolls slots cut underlying result →
      Ty.Unrolls slots cut (.closure code frame underlying) (.closure code frame result)
  | typedClosure {cut : Set ArrayId} {params params' : List TyUnion} {result result' : TyUnion}
      {underlying underlying' : Ty} :
      TyUnion.AllUnroll slots cut params params' → TyUnion.Unrolls slots cut result result' →
      Ty.Unrolls slots cut underlying underlying' →
      Ty.Unrolls slots cut (.typedClosure params result underlying)
        (.typedClosure params' result' underlying')
  | literal {cut : Set ArrayId} (value : Constant) (base : Ty) :
      Ty.Unrolls slots cut (.literal value base) base
  | array {cut : Set ArrayId} {shape result : Shape} (base : Ty) :
      Shape.Unrolls slots cut shape result →
      Ty.Unrolls slots cut (.array shape base) (.array result base)
  /-- A local array becomes an array with the content of its slot unrolled. -/
  | slot {cut : Set ArrayId} {id : ArrayId} {content result : Shape} (base : Ty) :
      slots id = some content → Shape.Unrolls slots (insert id cut) content result →
      Ty.Unrolls slots cut (.localArray id base) (.array result base)
  /-- A local array that may be cut becomes any value. -/
  | cut {cut : Set ArrayId} {id : ArrayId} (base : Ty) :
      id ∈ cut → Ty.Unrolls slots cut (.localArray id base) .any

/-- A union unrolls when its members do, one by one: the result holds an equal of each unrolled
member, and nothing but unrolled members. -/
inductive TyUnion.Unrolls (slots : ArrayId → Option Shape) : Set ArrayId → TyUnion → TyUnion → Prop
  | members {cut : Set ArrayId} {members unrolled : List Ty} {result : TyUnion} :
      Ty.AllUnroll slots cut members unrolled →
      (∀ ty ∈ unrolled, result.contains ty = true) → (∀ ty ∈ result.members, ty ∈ unrolled) →
      TyUnion.Unrolls slots cut ⟨members⟩ result

/-- A shape unrolls position by position. -/
inductive Shape.Unrolls (slots : ArrayId → Option Shape) : Set ArrayId → Shape → Shape → Prop
  | seq {cut : Set ArrayId} {elem result : TyUnion} :
      TyUnion.Unrolls slots cut elem result → Shape.Unrolls slots cut (.seq elem) (.seq result)
  | tuple {cut : Set ArrayId} {elems results : List TyUnion} :
      TyUnion.AllUnroll slots cut elems results →
      Shape.Unrolls slots cut (.tuple elems) (.tuple results)

/-- Types unroll one by one. -/
inductive Ty.AllUnroll (slots : ArrayId → Option Shape) : Set ArrayId → List Ty → List Ty → Prop
  | nil {cut : Set ArrayId} : Ty.AllUnroll slots cut [] []
  | cons {cut : Set ArrayId} {ty result : Ty} {types results : List Ty} :
      Ty.Unrolls slots cut ty result → Ty.AllUnroll slots cut types results →
      Ty.AllUnroll slots cut (ty :: types) (result :: results)

/-- Unions unroll one by one. -/
inductive TyUnion.AllUnroll (slots : ArrayId → Option Shape) :
    Set ArrayId → List TyUnion → List TyUnion → Prop
  | nil {cut : Set ArrayId} : TyUnion.AllUnroll slots cut [] []
  | cons {cut : Set ArrayId} {union result : TyUnion} {unions results : List TyUnion} :
      TyUnion.Unrolls slots cut union result → TyUnion.AllUnroll slots cut unions results →
      TyUnion.AllUnroll slots cut (union :: unions) (result :: results)

end

/-- An item unrolls to one of its kind. -/
def Item.Unrolls (slots : ArrayId → Option Shape) (cut : Set ArrayId) : Item → Item → Prop
  | .ty value, .ty result => value.Unrolls slots cut result
  | .union value, .union result => value.Unrolls slots cut result
  | .shape value, .shape result => value.Unrolls slots cut result
  | _, _ => False

section Relation

variable {slots : ArrayId → Option Shape}

mutual

/-- The more arrays may be cut, the more unrollings there are. -/
theorem Ty.Unrolls.mono {cut larger : Set ArrayId} (within : cut ⊆ larger) {ty result : Ty} :
    Ty.Unrolls slots cut ty result → Ty.Unrolls slots larger ty result
  | .any => .any
  | .classObject cls => .classObject cls
  | .code id => .code id
  | .instanceOf cls => .instanceOf (cls.mono within)
  | .closure code frame underlying => .closure code frame (underlying.mono within)
  | .typedClosure params result underlying =>
    .typedClosure (params.mono within) (result.mono within) (underlying.mono within)
  | .literal value base => .literal value base
  | .array base shape => .array base (shape.mono within)
  | .slot base held content => .slot base held (content.mono (Set.insert_subset_insert within))
  | .cut base member => .cut base (within member)

theorem TyUnion.Unrolls.mono {cut larger : Set ArrayId} (within : cut ⊆ larger)
    {union result : TyUnion} :
    TyUnion.Unrolls slots cut union result → TyUnion.Unrolls slots larger union result
  | .members unrolled kept only => .members (unrolled.mono within) kept only

theorem Shape.Unrolls.mono {cut larger : Set ArrayId} (within : cut ⊆ larger) {shape result : Shape} :
    Shape.Unrolls slots cut shape result → Shape.Unrolls slots larger shape result
  | .seq elem => .seq (elem.mono within)
  | .tuple elems => .tuple (elems.mono within)

theorem Ty.AllUnroll.mono {cut larger : Set ArrayId} (within : cut ⊆ larger)
    {types results : List Ty} :
    Ty.AllUnroll slots cut types results → Ty.AllUnroll slots larger types results
  | .nil => .nil
  | .cons ty types => .cons (ty.mono within) (types.mono within)

theorem TyUnion.AllUnroll.mono {cut larger : Set ArrayId} (within : cut ⊆ larger)
    {unions results : List TyUnion} :
    TyUnion.AllUnroll slots cut unions results → TyUnion.AllUnroll slots larger unions results
  | .nil => .nil
  | .cons union unions => .cons (union.mono within) (unions.mono within)

end

mutual

/-- A type without local arrays and literals unrolls to itself. -/
theorem Ty.unrolls_self {cut : Set ArrayId} (ty : Ty) (closed : ty.isContextFree = true)
    (plain : ty.hasLiteral = false) : Ty.Unrolls slots cut ty ty := by
  cases ty with
  | any => exact .any
  | classObject cls => exact .classObject cls
  | code id => exact .code id
  | literal value base => simp [Ty.hasLiteral] at plain
  | localArray id base => simp [Ty.isContextFree] at closed
  | instanceOf cls => exact .instanceOf (Ty.unrolls_self cls closed plain)
  | closure code frame underlying =>
      exact .closure code frame (Ty.unrolls_self underlying closed plain)
  | array shape base =>
      simp only [Ty.isContextFree, Bool.and_eq_true] at closed
      exact .array base (Shape.unrolls_self shape closed.1 plain)
  | typedClosure params result underlying =>
      simp only [Ty.isContextFree, Bool.and_eq_true] at closed
      simp only [Ty.hasLiteral, Bool.or_eq_false_iff] at plain
      exact .typedClosure (TyUnion.allUnroll_self params closed.1.1 plain.1.1)
        (TyUnion.unrolls_self result closed.1.2 plain.1.2)
        (Ty.unrolls_self underlying closed.2 plain.2)

theorem TyUnion.unrolls_self {cut : Set ArrayId} (union : TyUnion)
    (closed : union.isContextFree = true) (plain : union.hasLiteral = false) :
    TyUnion.Unrolls slots cut union union := by
  obtain ⟨members⟩ := union
  exact .members (Ty.allUnroll_self members closed plain)
    (fun ty member => TyUnion.contains_of_mem member) (fun ty member => member)

theorem Shape.unrolls_self {cut : Set ArrayId} (shape : Shape) (closed : shape.isContextFree = true)
    (plain : shape.hasLiteral = false) : Shape.Unrolls slots cut shape shape := by
  cases shape with
  | seq elem => exact .seq (TyUnion.unrolls_self elem closed plain)
  | tuple elems => exact .tuple (TyUnion.allUnroll_self elems closed plain)

theorem Ty.allUnroll_self {cut : Set ArrayId} (types : List Ty)
    (closed : Ty.allContextFree types = true) (plain : Ty.anyHasLiteral types = false) :
    Ty.AllUnroll slots cut types types := by
  cases types with
  | nil => exact .nil
  | cons ty rest =>
      simp only [Ty.allContextFree, Bool.and_eq_true] at closed
      simp only [Ty.anyHasLiteral, Bool.or_eq_false_iff] at plain
      exact .cons (Ty.unrolls_self ty closed.1 plain.1) (Ty.allUnroll_self rest closed.2 plain.2)

theorem TyUnion.allUnroll_self {cut : Set ArrayId} (unions : List TyUnion)
    (closed : TyUnion.allContextFree unions = true) (plain : TyUnion.anyHasLiteral unions = false) :
    TyUnion.AllUnroll slots cut unions unions := by
  cases unions with
  | nil => exact .nil
  | cons union rest =>
      simp only [TyUnion.allContextFree, Bool.and_eq_true] at closed
      simp only [TyUnion.anyHasLiteral, Bool.or_eq_false_iff] at plain
      exact .cons (TyUnion.unrolls_self union closed.1 plain.1)
        (TyUnion.allUnroll_self rest closed.2 plain.2)

end

/-! ### Filling in unrolled shapes -/

/-- The answers a local array may get: its slot unrolled beneath it, or nothing if it may be cut. -/
def UnrolledAnswer (slots : ArrayId → Option Shape) (cut : Set ArrayId) (id : ArrayId) :
    Option Shape → Prop
  | none => id ∈ cut
  | some shape => ∃ content, slots id = some content ∧ content.Unrolls slots (insert id cut) shape

theorem UnrolledAnswer.mono {cut larger : Set ArrayId} (within : cut ⊆ larger) {id : ArrayId}
    {answer : Option Shape} (unrolled : UnrolledAnswer slots cut id answer) :
    UnrolledAnswer slots larger id answer := by
  cases answer with
  | none => exact within unrolled
  | some shape =>
      obtain ⟨content, held, unrolls⟩ := unrolled
      exact ⟨content, held, unrolls.mono (Set.insert_subset_insert within)⟩

mutual

/-- **A type filled with unrolled shapes is unrolled.** -/
theorem Ty.unrolls_fill {cut : Set ArrayId} (ty : Ty) {answers : List (Option Shape)}
    (unrolled : List.Forall₂ (UnrolledAnswer slots cut) ty.handles answers) :
    Ty.Unrolls slots cut ty (ty.fill answers) := by
  cases ty with
  | any => exact .any
  | classObject cls => exact .classObject cls
  | code id => exact .code id
  | literal value base => exact .literal value base
  | localArray id base =>
      obtain ⟨answer, rest, here, -, rfl⟩ := List.forall₂_cons_left_iff.mp unrolled
      cases answer with
      | none => exact .cut base here
      | some shape =>
          obtain ⟨content, held, unrolls⟩ := here
          exact .slot base held unrolls
  | array shape base =>
      rw [Ty.fill]
      split
      · rename_i kept
        simp only [Bool.and_eq_true, Bool.not_eq_true'] at kept
        exact .array base (Shape.unrolls_self shape kept.1 kept.2)
      · exact .array base (Shape.unrolls_fill shape unrolled)
  | instanceOf cls => exact .instanceOf (Ty.unrolls_fill cls unrolled)
  | closure code frame underlying => exact .closure code frame (Ty.unrolls_fill underlying unrolled)
  | typedClosure params result underlying =>
      obtain ⟨forParams, rest⟩ := forall₂_append unrolled
      obtain ⟨forResult, forUnderlying⟩ := forall₂_append rest
      exact .typedClosure (TyUnion.allUnroll_fillAll params forParams)
        (TyUnion.unrolls_fill result forResult) (Ty.unrolls_fill underlying forUnderlying)

theorem TyUnion.unrolls_fill {cut : Set ArrayId} (union : TyUnion) {answers : List (Option Shape)}
    (unrolled : List.Forall₂ (UnrolledAnswer slots cut) union.handles answers) :
    TyUnion.Unrolls slots cut union (union.fill answers) := by
  obtain ⟨members⟩ := union
  exact .members (Ty.allUnroll_fillAll members unrolled)
    (fun ty member => TyUnion.contains_ofList member)
    (fun ty member => TyUnion.mem_of_mem_ofList member)

theorem Shape.unrolls_fill {cut : Set ArrayId} (shape : Shape) {answers : List (Option Shape)}
    (unrolled : List.Forall₂ (UnrolledAnswer slots cut) shape.handles answers) :
    Shape.Unrolls slots cut shape (shape.fill answers) := by
  cases shape with
  | seq elem => exact .seq (TyUnion.unrolls_fill elem unrolled)
  | tuple elems => exact .tuple (TyUnion.allUnroll_fillAll elems unrolled)

theorem Ty.allUnroll_fillAll {cut : Set ArrayId} (types : List Ty) {answers : List (Option Shape)}
    (unrolled : List.Forall₂ (UnrolledAnswer slots cut) (Ty.handlesOfAll types) answers) :
    Ty.AllUnroll slots cut types (Ty.fillAll types answers) := by
  cases types with
  | nil => exact .nil
  | cons ty rest =>
      obtain ⟨here, later⟩ := forall₂_append unrolled
      exact .cons (Ty.unrolls_fill ty here) (Ty.allUnroll_fillAll rest later)

theorem TyUnion.allUnroll_fillAll {cut : Set ArrayId} (unions : List TyUnion)
    {answers : List (Option Shape)}
    (unrolled : List.Forall₂ (UnrolledAnswer slots cut) (TyUnion.handlesOfAll unions) answers) :
    TyUnion.AllUnroll slots cut unions (TyUnion.fillAll unions answers) := by
  cases unions with
  | nil => exact .nil
  | cons union rest =>
      obtain ⟨here, later⟩ := forall₂_append unrolled
      exact .cons (TyUnion.unrolls_fill union here) (TyUnion.allUnroll_fillAll rest later)

end

theorem Item.unrolls_fill {cut : Set ArrayId} (item : Item) {answers : List (Option Shape)}
    (unrolled : List.Forall₂ (UnrolledAnswer slots cut) item.handles answers) :
    item.Unrolls slots cut (item.fill answers) := by
  cases item with
  | ty value => exact Ty.unrolls_fill value unrolled
  | union value => exact TyUnion.unrolls_fill value unrolled
  | shape value => exact Shape.unrolls_fill value unrolled

end Relation

/-! ### What a run may cut -/

namespace Resolver

/-- The arrays that may have been cut: any array once a limit was hit, and otherwise those on the
path from the floor inward. -/
def mayCut (resolver : Resolver) : Set ArrayId :=
  {id | resolver.guard.exceeded = true ∨
    ∃ lowest ∈ resolver.floor, id ∈ resolver.guard.path.drop lowest}

theorem Frame.mayCut_subset {before after : Resolver} (frame : Frame before after) :
    before.mayCut ⊆ after.mayCut := by
  rintro id (hit | ⟨place, floor, member⟩)
  · exact .inl (frame.exceeded hit)
  · obtain ⟨lowest, lower, below⟩ := frame.floor place floor
    refine .inr ⟨lowest, lower, List.drop_subset_drop_left _ below ?_⟩
    rwa [PathGuard.path, frame.stack]

theorem mem_mayCut_cutAt {resolver : Resolver} {id : ArrayId} (onPath : id ∈ resolver.guard.stack) :
    id ∈ (resolver.cutAt id).mayCut := by
  obtain ⟨place, position, here⟩ := PathGuard.exists_position? onPath
  obtain ⟨lowest, lower, below⟩ := exists_mem_lowered resolver.floor place
  refine .inr ⟨lowest, ?_, List.drop_subset_drop_left _ below ?_⟩
  · rw [floor_cutAt position]
    exact lower
  · exact List.mem_of_mem_head? (by rw [List.head?_drop]; exact here)

section Leaving

variable {resolver finished : Resolver} {id : ArrayId}

/-- What is cut inside an array is the array itself, or lies outside it on the path. -/
theorem mayCut_finished (inner : Frame (resolver.opened id) finished) {other : ArrayId}
    (member : other ∈ finished.mayCut) :
    other = id ∨ finished.guard.exceeded = true ∨
      ∃ lowest ∈ finished.reachOut resolver.guard.stack.length,
        other ∈ resolver.guard.path.drop lowest := by
  obtain hit | ⟨lowest, floor, inPath⟩ := member
  · exact .inr (.inl hit)
  · have path : finished.guard.path = resolver.guard.path ++ [id] := by
      rw [PathGuard.path, inner.stack]
      exact List.reverse_cons
    rw [path, List.drop_append, List.mem_append] at inPath
    obtain outside | itself := inPath
    · have short : lowest < resolver.guard.stack.length := by
        by_contra long
        rw [List.drop_eq_nil_of_le] at outside
        · cases outside
        · rw [PathGuard.path, List.length_reverse]
          exact Nat.not_lt.mp long
      refine .inr (.inr ⟨lowest, ?_, outside⟩)
      exact Option.filter_eq_some_iff.mpr ⟨floor, decide_eq_true short⟩
    · exact .inl (List.mem_singleton.mp (List.mem_of_mem_drop itself))

/-- An array that is left lowers the floor around it to all that was cut outside it. -/
theorem mayCut_closed (inner : Frame (resolver.opened id) finished) (shape : Shape) :
    finished.mayCut ⊆ insert id (resolver.closed id finished shape).mayCut := by
  intro other member
  obtain rfl | hit | ⟨lowest, outside, inPath⟩ := mayCut_finished inner member
  · exact Set.mem_insert other _
  · right
    left
    rw [guard_closed]
    exact hit
  · right
    right
    obtain ⟨floor, lower, below⟩ := exists_mem_lowered resolver.floor lowest
    refine ⟨floor, ?_, List.drop_subset_drop_left _ below ?_⟩
    · rw [closed_of_reachOut outside]
      exact lower
    · rw [PathGuard.path, (frame_closed shape inner).stack]
      exact inPath

/-- An array that is kept has nothing cut beneath it but itself. -/
theorem mayCut_kept (inner : Frame (resolver.opened id) finished)
    (inside : finished.reachOut resolver.guard.stack.length = none)
    (within : finished.guard.exceeded = false) : finished.mayCut ⊆ insert id ∅ := by
  intro other member
  obtain rfl | hit | ⟨lowest, outside, -⟩ := mayCut_finished inner member
  · exact Set.mem_insert other _
  · rw [within] at hit
    cases hit
  · rw [inside] at outside
    cases outside

end Leaving

/-- Every shape that is known is unrolled, with nothing cut but its own array. -/
def KnowsUnrolled (slots : ArrayId → Option Shape) (resolver : Resolver) : Prop :=
  ∀ id shape, resolver.resolved.lookup id = some shape → UnrolledAnswer slots ∅ id (some shape)

theorem knowsUnrolled_start (slots : ArrayId → Option Shape) (limits : Limits) :
    (start limits).KnowsUnrolled slots := by
  intro id shape known
  cases known

variable {slots : ArrayId → Option Shape} {before after : Resolver} {ids : List ArrayId}
  {answers : List (Option Shape)}

/-- An array that is left adds nothing to the known shapes but its own, if nothing else was cut. -/
theorem KnowsUnrolled.closed {resolver finished : Resolver} {id : ArrayId} {content shape : Shape}
    (known : finished.KnowsUnrolled slots) (inner : Frame (resolver.opened id) finished)
    (held : slots id = some content) (unrolled : content.Unrolls slots finished.mayCut shape) :
    (resolver.closed id finished shape).KnowsUnrolled slots := by
  intro other result found
  rcases lookup_closed found with found | ⟨rfl, rfl, inside, within⟩
  · exact known other result found
  · exact ⟨content, held, unrolled.mono (mayCut_kept inner inside within)⟩

/-- **Every answer and every known shape is unrolled.** What is cut lies on the path from the floor
inward, and the floor only moves outward, so an answer given early stays within what may be cut in
the end. -/
theorem Visits.unrolls (visits : Visits slots before ids answers after)
    (known : before.KnowsUnrolled slots) :
    after.KnowsUnrolled slots ∧ List.Forall₂ (UnrolledAnswer slots after.mayCut) ids answers := by
  induction visits with
  | done resolver => exact ⟨known, .nil⟩
  | known found _ ih =>
      obtain ⟨knownAfter, rest⟩ := ih known
      exact ⟨knownAfter, .cons ((known _ _ found).mono (Set.empty_subset _)) rest⟩
  | cycle _ _ onPath visits ih =>
      obtain ⟨knownAfter, rest⟩ := ih known
      exact ⟨knownAfter, .cons (visits.frame.mayCut_subset (mem_mayCut_cutAt onPath)) rest⟩
  | limit _ _ visits ih =>
      obtain ⟨knownAfter, rest⟩ := ih known
      exact ⟨knownAfter, .cons (visits.frame.mayCut_subset (.inl rfl)) rest⟩
  | entered _ _ _ _ held inside visits inner ih =>
      obtain ⟨knownFinished, unrolledInner⟩ := inner known
      have unrolled := Shape.unrolls_fill _ unrolledInner
      obtain ⟨knownAfter, rest⟩ := ih (knownFinished.closed inside.frame held unrolled)
      have within := (mayCut_closed inside.frame _).trans
        (Set.insert_subset_insert visits.frame.mayCut_subset)
      exact ⟨knownAfter, .cons ⟨_, held, unrolled.mono within⟩ rest⟩

end Resolver

namespace Item

open Resolver

variable {slots : ArrayId → Option Shape} {limits : Limits} {item result : Item}
  {served results : List Item} {before after : Resolver}

/-- **Resolution is a finite unrolling.** Let a resolver have been given any items before, and let it
have returned a result for every one of them. The next result that it returns unrolls what it is given.
If it has not hit a limit by then, an array is cut only beneath itself: nothing may be cut at the top,
and an array that is unrolled may be cut in its own content. -/
theorem resolve_unrolls
    (earlier : resolveAll slots served (start limits) = .ok results before)
    (resolved : item.resolve slots before = .ok result after) :
    item.Unrolls slots Set.univ result ∧
      (after.guard.exceeded = false → item.Unrolls slots ∅ result) := by
  have ready : before.AtRest ∧ before.KnowsUnrolled slots := by
    refine resolveAll_induction (fun resolver => resolver.AtRest ∧ resolver.KnowsUnrolled slots)
      (fun ready resolved => ?_) ⟨atRest_start limits, knowsUnrolled_start slots limits⟩ earlier
    obtain ⟨answers, visits, -⟩ := (resolve_eq_ok_iff ready.1).mp resolved
    exact ⟨ready.1.of_visits visits, (visits.unrolls ready.2).1⟩
  obtain ⟨answers, visits, rfl⟩ := (resolve_eq_ok_iff ready.1).mp resolved
  have unrolled := (visits.unrolls ready.2).2
  refine ⟨item.unrolls_fill (unrolled.imp fun _ _ => .mono (Set.subset_univ _)), fun within => ?_⟩
  have uncut : after.mayCut ⊆ ∅ := by
    rintro id (hit | ⟨lowest, floor, -⟩)
    · rw [within] at hit
      cases hit
    · rw [(ready.1.of_visits visits).floor] at floor
      cases floor
  exact item.unrolls_fill (unrolled.imp fun _ _ => .mono uncut)

/-- Two arrays that hold each other. -/
def mutualSlots (id : ArrayId) : Option Shape :=
  if id = ⟨0⟩ then some (.seq ⟨[.localArray ⟨1⟩ .any]⟩)
  else if id = ⟨1⟩ then some (.seq ⟨[.localArray ⟨0⟩ .any]⟩)
  else none

/-- The resolver after the first of them. The second was cut inside it, and is not kept. -/
def afterFirst : Resolver where
  guard := ⟨⟨2, 8⟩, [], 3, false⟩
  resolved := [(⟨0⟩, .seq ⟨[.array (.seq ⟨[.any]⟩) .any]⟩)]
  floor := none
  log := #[.cycleCut ⟨0⟩ [⟨0⟩, ⟨1⟩]]

theorem resolveAll_first :
    resolveAll mutualSlots [.ty (.localArray ⟨0⟩ .any)] (start ⟨2, 8⟩) =
      .ok [.ty (.array (.seq ⟨[.array (.seq ⟨[.any]⟩) .any]⟩) .any)] afterFirst := rfl

/-- The second array, resolved after the first, is unrolled with nothing cut outside it. -/
theorem resolve_unrolls_second :
    ∃ result after, resolve mutualSlots (.ty (.localArray ⟨1⟩ .any)) afterFirst = .ok result after ∧
      after.guard.exceeded = false ∧
      Item.Unrolls mutualSlots ∅ (.ty (.localArray ⟨1⟩ .any)) result :=
  ⟨_, _, rfl, rfl, (resolve_unrolls resolveAll_first rfl).2 rfl⟩

end Item

end TypeLattice
