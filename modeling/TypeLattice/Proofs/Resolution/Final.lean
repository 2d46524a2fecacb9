/-
**A resolution is final.**

A resolution puts the base of a literal in its place, and an array or a value of any type in the place of
a local array. Everything else is built anew around these, or is kept because it had nothing to resolve.
So where the bases of literals have nothing to resolve, neither has the result. It no longer depends on
the slots: resolved again, in whatever slots and within whatever limits, it comes back as it is, and no
array is asked for.

* `hasPlainLiterals`: the bases of the literals in a value have nothing to resolve;
* `Ty.isFinal_fill`: a value with such literals, filled with final shapes, is final;
* `Item.IsFinal.resolve_eq`: a final value is resolved to itself, and the resolver stays as it is;
* `Item.resolution_is_final`: what a resolution returns is final.
-/

import TypeLattice.Proofs.Resolution.Unchanged
import TypeLattice.Proofs.Resolution.Visits
import TypeLattice.Proofs.Types.Equivalence

namespace TypeLattice

/-! ### Literals with nothing to resolve in their bases -/

mutual

/-- Whether the base of each literal that resolution meets in a type has itself no literal and no local
array where resolution would look. -/
def Ty.hasPlainLiterals : Ty → Bool
  | .literal _ base => base.handles.isEmpty && !base.hasLiteral
  | .any | .classObject _ | .code _ | .localArray _ _ => true
  | .array shape _ => shape.hasPlainLiterals
  | .instanceOf cls => cls.hasPlainLiterals
  | .closure _ _ underlying => underlying.hasPlainLiterals
  | .typedClosure params result underlying =>
    TyUnion.allHavePlainLiterals params && result.hasPlainLiterals && underlying.hasPlainLiterals
termination_by structural ty => ty

def TyUnion.hasPlainLiterals : TyUnion → Bool
  | ⟨members⟩ => Ty.allHavePlainLiterals members
termination_by structural union => union

def Shape.hasPlainLiterals : Shape → Bool
  | .seq elem => elem.hasPlainLiterals
  | .tuple elems => TyUnion.allHavePlainLiterals elems
termination_by structural shape => shape

def Ty.allHavePlainLiterals : List Ty → Bool
  | [] => true
  | ty :: rest => ty.hasPlainLiterals && Ty.allHavePlainLiterals rest
termination_by structural types => types

def TyUnion.allHavePlainLiterals : List TyUnion → Bool
  | [] => true
  | union :: rest => union.hasPlainLiterals && TyUnion.allHavePlainLiterals rest
termination_by structural unions => unions

end

/-! ### Final parts make final values -/

/-- Where each type is final, their list is as a whole. -/
theorem Ty.isFinal_parts {types : List Ty} (final : ∀ ty ∈ types, (Item.ty ty).IsFinal) :
    Ty.handlesOfAll types = [] ∧ Ty.anyHasLiteral types = false ∧ Ty.allTidy types = true := by
  induction types with
  | nil => exact ⟨rfl, rfl, rfl⟩
  | cons ty rest ih =>
      obtain ⟨⟨noHandles, noLiteral, tidy⟩, later⟩ := List.forall_mem_cons.mp final
      simp only [Item.handles, Item.hasLiteral, Item.isTidy] at noHandles noLiteral tidy
      simp [Ty.handlesOfAll, Ty.anyHasLiteral, Ty.allTidy, noHandles, noLiteral, tidy, ih later]

theorem TyUnion.isFinal_parts {unions : List TyUnion}
    (final : ∀ union ∈ unions, (Item.union union).IsFinal) :
    TyUnion.handlesOfAll unions = [] ∧ TyUnion.anyHasLiteral unions = false ∧
      TyUnion.allTidy unions = true := by
  induction unions with
  | nil => exact ⟨rfl, rfl, rfl⟩
  | cons union rest ih =>
      obtain ⟨⟨noHandles, noLiteral, tidy⟩, later⟩ := List.forall_mem_cons.mp final
      simp only [Item.handles, Item.hasLiteral, Item.isTidy] at noHandles noLiteral tidy
      simp [TyUnion.handlesOfAll, TyUnion.anyHasLiteral, TyUnion.allTidy, noHandles, noLiteral, tidy,
        ih later]

namespace Item

theorem IsFinal.array {content : Shape} {base : Ty} (final : (shape content).IsFinal)
    (tidy : base.isTidy = true) : (ty (.array content base)).IsFinal := by
  refine ⟨final.noHandles, final.noLiteral, ?_⟩
  show (content.isTidy && base.isTidy) = true
  rw [Bool.and_eq_true]
  exact ⟨final.tidy, tidy⟩

theorem isFinal_typedClosure {params : List TyUnion} {result : TyUnion} {underlying : Ty}
    (finalParams : ∀ param ∈ params, (union param).IsFinal) (finalResult : (union result).IsFinal)
    (finalUnderlying : (ty underlying).IsFinal) :
    (ty (.typedClosure params result underlying)).IsFinal := by
  obtain ⟨noHandles, noLiteral, tidy⟩ := TyUnion.isFinal_parts finalParams
  obtain ⟨noHandles', noLiteral', tidy'⟩ := finalResult
  obtain ⟨noHandles'', noLiteral'', tidy''⟩ := finalUnderlying
  simp only [handles, hasLiteral, isTidy] at noHandles' noLiteral' tidy' noHandles'' noLiteral'' tidy''
  constructor
  · simp [handles, Ty.handles, noHandles, noHandles', noHandles'']
  · simp [hasLiteral, Ty.hasLiteral, noLiteral, noLiteral', noLiteral'']
  · simp [isTidy, Ty.isTidy, tidy, tidy', tidy'']

/-- A union that is collected from final types is final. -/
theorem isFinal_ofList {types : List Ty} (final : ∀ value ∈ types, (ty value).IsFinal) :
    (union (.ofList types)).IsFinal := by
  have tidy := TyUnion.isTidy_ofList fun value member => (final value member).tidy
  have each : ∀ value ∈ (TyUnion.ofList types).members, (ty value).IsFinal :=
    fun value member => final value (TyUnion.mem_of_mem_ofList member)
  cases collected : TyUnion.ofList types with
  | mk members =>
      rw [collected] at tidy each
      obtain ⟨noHandles, noLiteral, -⟩ := Ty.isFinal_parts each
      exact ⟨noHandles, noLiteral, tidy⟩

end Item

/-! ### Filling with final shapes -/

/-- The shapes among the answers have nothing left to resolve. -/
abbrev AllFinal : List (Option Shape) → Prop := AllAnswers fun shape => (Item.shape shape).IsFinal

mutual

/-- **A type with plain literals, filled with final shapes, is final.** -/
theorem Ty.isFinal_fill (ty : Ty) (plain : ty.hasPlainLiterals = true) (tidy : ty.isTidy = true)
    {answers : List (Option Shape)} (final : AllFinal answers) :
    (Item.ty (ty.fill answers)).IsFinal := by
  cases ty with
  | any => exact ⟨rfl, rfl, rfl⟩
  | classObject cls => exact ⟨rfl, rfl, rfl⟩
  | code id => exact ⟨rfl, rfl, rfl⟩
  | literal value base =>
      simp only [Ty.hasPlainLiterals, Bool.and_eq_true, List.isEmpty_iff, Bool.not_eq_true'] at plain
      exact ⟨plain.1, plain.2, tidy⟩
  | localArray id base =>
      rcases answers with _ | ⟨_ | shape, rest⟩
      · exact ⟨rfl, rfl, rfl⟩
      · exact ⟨rfl, rfl, rfl⟩
      · exact (final shape List.mem_cons_self).array tidy
  | array shape base =>
      rw [Ty.isTidy, Bool.and_eq_true] at tidy
      rw [Ty.fill_array tidy.1]
      exact (Shape.isFinal_fill shape plain tidy.1 final).array tidy.2
  | instanceOf cls =>
      have inner := Ty.isFinal_fill cls plain tidy final
      exact ⟨inner.noHandles, inner.noLiteral, inner.tidy⟩
  | closure code frame underlying =>
      have inner := Ty.isFinal_fill underlying plain tidy final
      exact ⟨inner.noHandles, inner.noLiteral, inner.tidy⟩
  | typedClosure params result underlying =>
      rw [Ty.hasPlainLiterals, Bool.and_eq_true, Bool.and_eq_true] at plain
      rw [Ty.isTidy, Bool.and_eq_true, Bool.and_eq_true] at tidy
      rw [Ty.fill]
      exact Item.isFinal_typedClosure
        (TyUnion.isFinal_fillAll params plain.1.1 tidy.1.1 (final.take _))
        (TyUnion.isFinal_fill result plain.1.2 tidy.1.2 ((final.drop _).take _))
        (Ty.isFinal_fill underlying plain.2 tidy.2 ((final.drop _).drop _))

theorem TyUnion.isFinal_fill (union : TyUnion) (plain : union.hasPlainLiterals = true)
    (tidy : union.isTidy = true) {answers : List (Option Shape)} (final : AllFinal answers) :
    (Item.union (union.fill answers)).IsFinal := by
  obtain ⟨members⟩ := union
  rw [TyUnion.isTidy, Bool.and_eq_true] at tidy
  exact Item.isFinal_ofList (Ty.isFinal_fillAll members plain tidy.2 final)

theorem Shape.isFinal_fill (shape : Shape) (plain : shape.hasPlainLiterals = true)
    (tidy : shape.isTidy = true) {answers : List (Option Shape)} (final : AllFinal answers) :
    (Item.shape (shape.fill answers)).IsFinal := by
  cases shape with
  | seq elem =>
      have inner := TyUnion.isFinal_fill elem plain tidy final
      exact ⟨inner.noHandles, inner.noLiteral, inner.tidy⟩
  | tuple elems =>
      obtain ⟨noHandles, noLiteral, tidyAll⟩ :=
        TyUnion.isFinal_parts (TyUnion.isFinal_fillAll elems plain tidy final)
      exact ⟨noHandles, noLiteral, tidyAll⟩

theorem Ty.isFinal_fillAll (types : List Ty) (plain : Ty.allHavePlainLiterals types = true)
    (tidy : Ty.allTidy types = true) {answers : List (Option Shape)} (final : AllFinal answers) :
    ∀ ty ∈ Ty.fillAll types answers, (Item.ty ty).IsFinal := by
  cases types with
  | nil => exact nofun
  | cons ty rest =>
      rw [Ty.allHavePlainLiterals, Bool.and_eq_true] at plain
      rw [Ty.allTidy, Bool.and_eq_true] at tidy
      rw [Ty.fillAll, List.forall_mem_cons]
      exact ⟨Ty.isFinal_fill ty plain.1 tidy.1 (final.take _),
        Ty.isFinal_fillAll rest plain.2 tidy.2 (final.drop _)⟩

theorem TyUnion.isFinal_fillAll (unions : List TyUnion)
    (plain : TyUnion.allHavePlainLiterals unions = true) (tidy : TyUnion.allTidy unions = true)
    {answers : List (Option Shape)} (final : AllFinal answers) :
    ∀ union ∈ TyUnion.fillAll unions answers, (Item.union union).IsFinal := by
  cases unions with
  | nil => exact nofun
  | cons union rest =>
      rw [TyUnion.allHavePlainLiterals, Bool.and_eq_true] at plain
      rw [TyUnion.allTidy, Bool.and_eq_true] at tidy
      rw [TyUnion.fillAll, List.forall_mem_cons]
      exact ⟨TyUnion.isFinal_fill union plain.1 tidy.1 (final.take _),
        TyUnion.isFinal_fillAll rest plain.2 tidy.2 (final.drop _)⟩

end

/-! ### What a resolver gives is final -/

namespace Item

open Resolver

def hasPlainLiterals : Item → Bool
  | ty value => value.hasPlainLiterals
  | union value => value.hasPlainLiterals
  | shape value => value.hasPlainLiterals

theorem isFinal_fill (item : Item) (plain : item.hasPlainLiterals = true) (tidy : item.isTidy = true)
    {answers : List (Option Shape)} (final : AllFinal answers) : (item.fill answers).IsFinal := by
  cases item with
  | ty value => exact value.isFinal_fill plain tidy final
  | union value => exact value.isFinal_fill plain tidy final
  | shape value => exact value.isFinal_fill plain tidy final

variable {slots : ArrayId → Option Shape} {limits : Limits} {item result : Item}
  {served results : List Item} {before after : Resolver}

/-- **A final item is resolved to itself**, and the resolver stays as it is: it is not asked for any
array. -/
theorem IsFinal.resolve_eq (final : item.IsFinal) (slots : ArrayId → Option Shape)
    (resolver : Resolver) : item.resolve slots resolver = .ok item resolver := by
  rw [resolve_eq_map, final.noHandles]
  show EStateM.Result.ok (item.fill []) resolver = _
  rw [final.fill_eq]

/-- **A resolution is final.** Let no base of a literal that can be met, in the item or in a slot, have a
literal or a local array in it that resolution would meet. A resolver that has resolved any items
before returns a result in which no local array and no literal is left where resolution looks.
Resolved again, in any slots and within any limits, the result comes back as it is. A fresh resolver
reports nothing, and any resolver is left as it was: it has neither entered nor tried to enter an
array. -/
theorem resolution_is_final
    (plainSlots : ∀ id content, slots id = some content →
      content.hasPlainLiterals = true ∧ content.isTidy = true)
    (plain : item.hasPlainLiterals = true) (tidy : item.isTidy = true)
    (earlier : resolveAll slots served (start limits) = .ok results before)
    (resolved : item.resolve slots before = .ok result after) :
    result.handles = [] ∧ result.hasLiteral = false ∧
      ∀ slots' : ArrayId → Option Shape,
        (∀ limits', run limits' (result.resolve slots') = (.ok result, #[])) ∧
        ∀ resolver, result.resolve slots' resolver = .ok result resolver := by
  have keeps : ∀ id content inner, slots id = some content → AllFinal inner →
      (shape (content.fill inner)).IsFinal := by
    intro id content inner held final
    exact content.isFinal_fill (plainSlots id content held).1 (plainSlots id content held).2 final
  have ready : before.AtRest ∧ before.Knows fun known => (shape known).IsFinal := by
    refine resolveAll_induction
      (fun resolver => resolver.AtRest ∧ resolver.Knows fun known => (shape known).IsFinal)
      (fun ready resolved => ?_) ⟨atRest_start limits, nofun⟩ earlier
    obtain ⟨answers, visits, -⟩ := (resolve_eq_ok_iff ready.1).mp resolved
    exact ⟨ready.1.of_visits visits, (visits.forall_shapes keeps ready.2).1⟩
  obtain ⟨answers, visits, rfl⟩ := (resolve_eq_ok_iff ready.1).mp resolved
  have final := item.isFinal_fill plain tidy (visits.forall_shapes keeps ready.2).2
  refine ⟨final.noHandles, final.noLiteral, fun slots' => ⟨fun limits' => ?_, final.resolve_eq slots'⟩⟩
  exact run_eq_ok (final.resolve_eq slots' (start limits'))

/-- A block over an array that holds itself and the number one. -/
def knottedBlock : Item := .ty (.closure ⟨1⟩ ⟨2⟩ (.localArray ⟨0⟩ .any))

def knottedSlots (_ : ArrayId) : Option Shape :=
  some (.seq ⟨[.localArray ⟨0⟩ .any, .literal (.integer 1) (.code ⟨5⟩)]⟩)

/-- What the block is resolved to comes back as it is where no array has a slot and no attempt is allowed. -/
theorem resolution_is_final_knotted :
    ∃ result after, knottedBlock.resolve knottedSlots (start .resolution) = .ok result after ∧
      run ⟨0, 0⟩ (result.resolve fun _ => none) = (.ok result, #[]) := by
  have plainSlots : ∀ id content, knottedSlots id = some content →
      content.hasPlainLiterals = true ∧ content.isTidy = true := by
    intro id content held
    obtain rfl := Option.some.inj held
    exact ⟨rfl, rfl⟩
  have resolved : knottedBlock.resolve knottedSlots (start .resolution) = .ok _ _ := rfl
  have earlier : resolveAll knottedSlots [] (start .resolution) = .ok [] (start .resolution) := rfl
  exact ⟨_, _, resolved,
    ((resolution_is_final plainSlots rfl rfl earlier resolved).2.2 fun _ => none).1 ⟨0, 0⟩⟩

end Item

end TypeLattice
