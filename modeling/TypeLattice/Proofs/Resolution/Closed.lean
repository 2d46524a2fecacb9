/-
**Resolved values hold no local arrays.**

A resolution replaces the local arrays it meets, and it meets all of them but those inside the bases
of literals and arrays. Where the bases hold none, a resolved value holds none, whichever arrays were
cut and whichever limits were hit. So it can stand in a signature, and it has a name.

* `hasClosedBases`: no base in a value holds a local array;
* `Ty.isContextFree_fill`: a value with such bases, filled with closed shapes, is closed;
* `Visits.closed`: every shape a resolver gives or keeps is closed;
* `Item.resolutions_fit_signatures`: resolved values are closed and have names, alone and in signatures.
-/

import TypeLattice.Proofs.Resolution.Visits
import TypeLattice.Proofs.Types.Equality
import TypeLattice.Proofs.Types.ScreenName

namespace TypeLattice

/-! ### Bases without local arrays -/

mutual

/-- Whether no base of a literal or an array in a type holds a local array. -/
def Ty.hasClosedBases : Ty → Bool
  | .any | .classObject _ | .code _ => true
  | .literal _ base | .localArray _ base => base.isContextFree
  | .array shape base => shape.hasClosedBases && base.isContextFree
  | .instanceOf cls => cls.hasClosedBases
  | .closure _ _ underlying => underlying.hasClosedBases
  | .typedClosure params result underlying =>
    TyUnion.allHaveClosedBases params && result.hasClosedBases && underlying.hasClosedBases
termination_by structural ty => ty

def TyUnion.hasClosedBases : TyUnion → Bool
  | ⟨members⟩ => Ty.allHaveClosedBases members
termination_by structural union => union

def Shape.hasClosedBases : Shape → Bool
  | .seq elem => elem.hasClosedBases
  | .tuple elems => TyUnion.allHaveClosedBases elems
termination_by structural shape => shape

def Ty.allHaveClosedBases : List Ty → Bool
  | [] => true
  | ty :: rest => ty.hasClosedBases && Ty.allHaveClosedBases rest
termination_by structural types => types

def TyUnion.allHaveClosedBases : List TyUnion → Bool
  | [] => true
  | union :: rest => union.hasClosedBases && TyUnion.allHaveClosedBases rest
termination_by structural unions => unions

end

/-! ### Filling with closed shapes -/

/-- The shapes among the answers hold no local arrays. -/
abbrev AllClosed : List (Option Shape) → Prop := AllAnswers fun shape => shape.isContextFree = true

theorem TyUnion.isContextFree_iff {union : TyUnion} :
    union.isContextFree = true ↔ ∀ ty ∈ union.members, ty.isContextFree = true := by
  obtain ⟨members⟩ := union
  exact Ty.allContextFree_iff

theorem TyUnion.isContextFree_ofList {types : List Ty} (closed : Ty.allContextFree types = true) :
    (TyUnion.ofList types).isContextFree = true := by
  rw [TyUnion.isContextFree_iff]
  exact fun ty member => Ty.allContextFree_iff.mp closed ty (TyUnion.mem_of_mem_ofList member)

mutual

/-- **A type with closed bases, filled with closed shapes, is closed.** -/
theorem Ty.isContextFree_fill (ty : Ty) (bases : ty.hasClosedBases = true)
    {answers : List (Option Shape)} (closed : AllClosed answers) :
    (ty.fill answers).isContextFree = true := by
  cases ty with
  | any => rfl
  | classObject cls => rfl
  | code id => rfl
  | literal value base => exact bases
  | localArray id base =>
      rcases answers with _ | ⟨_ | shape, rest⟩
      · rfl
      · rfl
      · show (shape.isContextFree && base.isContextFree) = true
        rw [Bool.and_eq_true]
        exact ⟨closed shape List.mem_cons_self, bases⟩
  | array shape base =>
      rw [Ty.hasClosedBases, Bool.and_eq_true] at bases
      rw [Ty.fill]
      split
      · rename_i kept
        rw [Bool.and_eq_true] at kept
        rw [Ty.isContextFree, Bool.and_eq_true]
        exact ⟨kept.1, bases.2⟩
      · rw [Ty.isContextFree, Bool.and_eq_true]
        exact ⟨Shape.isContextFree_fill shape bases.1 closed, bases.2⟩
  | instanceOf cls => exact Ty.isContextFree_fill cls bases closed
  | closure code frame underlying => exact Ty.isContextFree_fill underlying bases closed
  | typedClosure params result underlying =>
      rw [Ty.hasClosedBases, Bool.and_eq_true, Bool.and_eq_true] at bases
      rw [Ty.fill, Ty.isContextFree, Bool.and_eq_true, Bool.and_eq_true]
      exact ⟨⟨TyUnion.allContextFree_fillAll params bases.1.1 (closed.take _),
        TyUnion.isContextFree_fill result bases.1.2 ((closed.drop _).take _)⟩,
        Ty.isContextFree_fill underlying bases.2 ((closed.drop _).drop _)⟩

theorem TyUnion.isContextFree_fill (union : TyUnion) (bases : union.hasClosedBases = true)
    {answers : List (Option Shape)} (closed : AllClosed answers) :
    (union.fill answers).isContextFree = true := by
  obtain ⟨members⟩ := union
  exact TyUnion.isContextFree_ofList (Ty.allContextFree_fillAll members bases closed)

theorem Shape.isContextFree_fill (shape : Shape) (bases : shape.hasClosedBases = true)
    {answers : List (Option Shape)} (closed : AllClosed answers) :
    (shape.fill answers).isContextFree = true := by
  cases shape with
  | seq elem => exact TyUnion.isContextFree_fill elem bases closed
  | tuple elems => exact TyUnion.allContextFree_fillAll elems bases closed

theorem Ty.allContextFree_fillAll (types : List Ty) (bases : Ty.allHaveClosedBases types = true)
    {answers : List (Option Shape)} (closed : AllClosed answers) :
    Ty.allContextFree (Ty.fillAll types answers) = true := by
  cases types with
  | nil => rfl
  | cons ty rest =>
      rw [Ty.allHaveClosedBases, Bool.and_eq_true] at bases
      rw [Ty.fillAll, Ty.allContextFree, Bool.and_eq_true]
      exact ⟨Ty.isContextFree_fill ty bases.1 (closed.take _),
        Ty.allContextFree_fillAll rest bases.2 (closed.drop _)⟩

theorem TyUnion.allContextFree_fillAll (unions : List TyUnion)
    (bases : TyUnion.allHaveClosedBases unions = true) {answers : List (Option Shape)}
    (closed : AllClosed answers) :
    TyUnion.allContextFree (TyUnion.fillAll unions answers) = true := by
  cases unions with
  | nil => rfl
  | cons union rest =>
      rw [TyUnion.allHaveClosedBases, Bool.and_eq_true] at bases
      rw [TyUnion.fillAll, TyUnion.allContextFree, Bool.and_eq_true]
      exact ⟨TyUnion.isContextFree_fill union bases.1 (closed.take _),
        TyUnion.allContextFree_fillAll rest bases.2 (closed.drop _)⟩

end

/-! ### What a resolver gives is closed -/

namespace Resolver

variable {slots : ArrayId → Option Shape} {before after : Resolver} {ids : List ArrayId}
  {answers : List (Option Shape)}

/-- **Every answer and every known shape is closed**, if the slots have closed bases. -/
theorem Visits.closed (visits : Visits slots before ids answers after)
    (bases : ∀ id content, slots id = some content → content.hasClosedBases = true)
    (known : before.Knows fun shape => shape.isContextFree = true) :
    (after.Knows fun shape => shape.isContextFree = true) ∧ AllClosed answers :=
  visits.forall_shapes
    (fun id content _ held closed => content.isContextFree_fill (bases id content held) closed) known

/-- A run returns only what its action returns. -/
theorem exists_of_run {α : Type} {limits : Limits} {action : ResolveM α} {result : α}
    {log : Array Event} (ran : run limits action = (.ok result, log)) :
    ∃ after, action (start limits) = .ok result after := by
  unfold run at ran
  split at ran
  · cases ran
  · rename_i returned after acted
    split at ran
    · cases ran
      exact ⟨after, acted⟩
    · cases ran

end Resolver

namespace Item

def hasClosedBases : Item → Bool
  | ty value => value.hasClosedBases
  | union value => value.hasClosedBases
  | shape value => value.hasClosedBases

def screenName (naming : Naming) : Item → Named
  | ty value => value.screenName naming
  | union value => value.screenName naming
  | shape value => value.screenName naming

theorem isContextFree_fill (item : Item) (bases : item.hasClosedBases = true)
    {answers : List (Option Shape)} (closed : AllClosed answers) :
    (item.fill answers).isContextFree = true := by
  cases item with
  | ty value => exact Ty.isContextFree_fill value bases closed
  | union value => exact TyUnion.isContextFree_fill value bases closed
  | shape value => exact Shape.isContextFree_fill value bases closed

theorem exists_screenName (naming : Naming) (item : Item) (closed : item.isContextFree = true) :
    ∃ name, item.screenName naming = .ok name := by
  cases item with
  | ty value => exact Ty.exists_screenName naming value closed
  | union value => exact TyUnion.exists_screenName naming value closed
  | shape value => exact Shape.exists_nameAs naming value "Array" closed

/-- An item that a resolution has returned: of some item, in some slots and within some limits, where
no base holds a local array. -/
def IsResolution (result : Item) : Prop :=
  ∃ (slots : ArrayId → Option Shape) (limits : Limits) (item : Item) (log : Array Event),
    item.hasClosedBases = true ∧
    (∀ id content, slots id = some content → content.hasClosedBases = true) ∧
    Resolver.run limits (item.resolve slots) = (.ok result, log)

/-- A resolved item is closed. -/
theorem IsResolution.isContextFree {result : Item} (resolution : result.IsResolution) :
    result.isContextFree = true := by
  obtain ⟨slots, limits, item, log, itemBases, slotBases, ran⟩ := resolution
  obtain ⟨after, resolved⟩ := Resolver.exists_of_run ran
  obtain ⟨answers, visits, rfl⟩ := (resolve_eq_ok_iff (Resolver.atRest_start limits)).mp resolved
  exact item.isContextFree_fill itemBases (visits.closed slotBases nofun).2

/-- **Resolved values are fit for signatures.** A value that a resolution has returned holds no local
array and has a name; and a call whose receiver, arguments and block were resolved, each in slots of
its own, forms a signature, which has a name too. -/
theorem resolutions_fit_signatures :
    (∀ result : Item, result.IsResolution →
      result.isContextFree = true ∧ ∀ naming, ∃ name, result.screenName naming = .ok name) ∧
    (∀ receiver isSingleton member args block, IsResolution (.ty receiver) →
      (∀ arg ∈ args, IsResolution (.ty arg)) → (∀ ty ∈ block, IsResolution (.ty ty)) →
      ∃ signature, Signature.make receiver isSingleton member args block = .ok signature ∧
        ∀ naming, ∃ name, signature.screenName naming = .ok name) := by
  constructor
  · intro result resolution
    have closed := resolution.isContextFree
    exact ⟨closed, fun naming => result.exists_screenName naming closed⟩
  · intro receiver isSingleton member args block resolvedReceiver resolvedArgs resolvedBlock
    have formed : Signature.make receiver isSingleton member args block =
        .ok ⟨receiver, isSingleton, member, args, block⟩ :=
      Signature.make_eq_ok_iff.mpr
        ⟨⟨resolvedReceiver.isContextFree, fun arg inArgs => (resolvedArgs arg inArgs).isContextFree,
          fun ty inBlock => (resolvedBlock ty inBlock).isContextFree⟩, rfl⟩
    exact ⟨_, formed, fun naming => Signature.exists_screenName naming formed⟩

/-- An array that holds itself, cut in its own content. -/
theorem isResolution_selfHolding : IsResolution (.ty (.array (.seq ⟨[.any]⟩) .any)) := by
  refine ⟨fun _ => some (.seq ⟨[.localArray ⟨0⟩ .any]⟩), ⟨1, 8⟩, .ty (.localArray ⟨0⟩ .any), _, rfl, ?_,
    rfl⟩
  intro id content held
  obtain rfl := Option.some.inj held
  rfl

/-- It is fit to be receiver, argument and block of a call. -/
theorem selfHolding_fits_signature :
    IsResolution (.ty (.array (.seq ⟨[.any]⟩) .any)) ∧
    isContextFree (.ty (.array (.seq ⟨[.any]⟩) .any)) = true ∧
    ∃ signature, Signature.make (.array (.seq ⟨[.any]⟩) .any) false ⟨0⟩
        [.array (.seq ⟨[.any]⟩) .any] (some (.array (.seq ⟨[.any]⟩) .any)) = .ok signature ∧
      ∀ naming, ∃ name, signature.screenName naming = .ok name := by
  refine ⟨isResolution_selfHolding, (resolutions_fit_signatures.1 _ isResolution_selfHolding).1, ?_⟩
  refine resolutions_fit_signatures.2 _ _ _ _ _ isResolution_selfHolding ?_ ?_
  · intro arg member
    rw [List.mem_singleton.mp member]
    exact isResolution_selfHolding
  · intro ty member
    obtain rfl := Option.some.inj member
    exact isResolution_selfHolding

end Item

end TypeLattice
