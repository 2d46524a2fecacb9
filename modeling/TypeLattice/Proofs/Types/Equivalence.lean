/-
**Equality is an equivalence on tidy values.**

Equality compares unions as sets, by their size and by inclusion one way. It is transitive on all values;
that it is symmetric needs that no union holds two equal members, since only then does a set that is
included in one of its own size fill it.

* `Ty.equal_trans`, `TyUnion.equal_trans`, `Shape.equal_trans`: equality is transitive;
* `Ty.equal_symm`, `TyUnion.equal_symm`, `Shape.equal_symm`: it is symmetric on tidy values;
* `TyUnion.contains_insert`, `contains_ofList_iff`, `contains_join`: what the operations on unions hold;
* `TyUnion.equal_iff_contains`: tidy unions are equal exactly when they contain the same types;
* `TyUnion.isTidy_join`, `Shape.isTidy_write` and the like: every operation keeps values tidy.
-/

import TypeLattice.Shape
import TypeLattice.Proofs.Types.Equality
import Mathlib.Data.List.Forall2

namespace TypeLattice

/-! ### The parts of equal types -/

/-- The second type is built like the first, from equal parts. -/
def Ty.Matches : Ty → Ty → Prop
  | .any, other => other = .any
  | .classObject cls, other => ∃ cls', other = .classObject cls' ∧ cls.id = cls'.id
  | .instanceOf cls, other => ∃ cls', other = .instanceOf cls' ∧ cls.equal cls' = true
  | .code id, other => other = .code id
  | .closure block frame underlying, other =>
    ∃ underlying', other = .closure block frame underlying' ∧ underlying.equal underlying' = true
  | .typedClosure params result underlying, other =>
    ∃ params' result' underlying', other = .typedClosure params' result' underlying' ∧
      TyUnion.equalAll params params' = true ∧ result.equal result' = true ∧
      underlying.equal underlying' = true
  | .literal value base, other => ∃ base', other = .literal value base' ∧ base.equal base' = true
  | .localArray id base, other => ∃ base', other = .localArray id base' ∧ base.equal base' = true
  | .array shape base, other =>
    ∃ shape' base', other = .array shape' base' ∧ shape.equal shape' = true ∧ base.equal base' = true

theorem ClassRef.beq_iff {first second : ClassRef} :
    (first == second) = true ↔ first.id = second.id :=
  @beq_iff_eq ClassId _ _ first.id second.id

/-- **Types are equal exactly when they are built alike from equal parts.** -/
theorem Ty.equal_iff_matches {first second : Ty} :
    first.equal second = true ↔ first.Matches second := by
  -- Types that are built differently are told apart at once; for each constructor one case is left.
  cases first <;> cases second <;>
    simp only [Ty.equal, Ty.Matches, ClassRef.beq_iff, Bool.and_eq_true, beq_iff_eq, reduceCtorEq,
      false_and, exists_false, Bool.false_eq_true]
  all_goals grind

theorem Ty.allAmong_iff {types others : List Ty} :
    Ty.allAmong types others = true ↔ ∀ ty ∈ types, ∃ other ∈ others, ty.equal other = true := by
  induction types with
  | nil => exact ⟨fun _ => nofun, fun _ => rfl⟩
  | cons ty rest ih => rw [Ty.allAmong, Bool.and_eq_true, List.any_eq_true, ih, List.forall_mem_cons]

theorem TyUnion.equal_iff {first second : TyUnion} :
    first.equal second = true ↔ first.members.length = second.members.length ∧
      ∀ ty ∈ first.members, ∃ other ∈ second.members, ty.equal other = true := by
  obtain ⟨first⟩ := first
  obtain ⟨second⟩ := second
  rw [TyUnion.equal, Bool.and_eq_true, beq_iff_eq, Ty.allAmong_iff]

theorem TyUnion.equalAll_iff_forall₂ {first second : List TyUnion} :
    TyUnion.equalAll first second = true ↔
      List.Forall₂ (fun union other => union.equal other = true) first second := by
  induction first generalizing second with
  | nil => cases second <;> simp [TyUnion.equalAll]
  | cons union rest ih => cases second <;> simp [TyUnion.equalAll, ih]

/-! ### Transitivity -/

mutual

theorem Ty.equal_trans (first : Ty) {second third : Ty} (same : first.equal second = true)
    (same' : second.equal third = true) : first.equal third = true := by
  rw [Ty.equal_iff_matches] at same ⊢
  cases first with
  | any =>
      obtain rfl := same
      exact Ty.equal_iff_matches.mp same'
  | code id =>
      obtain rfl := same
      exact Ty.equal_iff_matches.mp same'
  | classObject cls =>
      obtain ⟨cls', rfl, ids⟩ := same
      obtain ⟨cls'', rfl, ids'⟩ := Ty.equal_iff_matches.mp same'
      exact ⟨cls'', rfl, ids.trans ids'⟩
  | instanceOf cls =>
      obtain ⟨cls', rfl, inner⟩ := same
      obtain ⟨cls'', rfl, inner'⟩ := Ty.equal_iff_matches.mp same'
      exact ⟨cls'', rfl, cls.equal_trans inner inner'⟩
  | closure code frame underlying =>
      obtain ⟨underlying', rfl, inner⟩ := same
      obtain ⟨underlying'', rfl, inner'⟩ := Ty.equal_iff_matches.mp same'
      exact ⟨underlying'', rfl, underlying.equal_trans inner inner'⟩
  | typedClosure params result underlying =>
      obtain ⟨params', result', underlying', rfl, forParams, forResult, inner⟩ := same
      obtain ⟨params'', result'', underlying'', rfl, forParams', forResult', inner'⟩ :=
        Ty.equal_iff_matches.mp same'
      exact ⟨params'', result'', underlying'', rfl, TyUnion.equalAll_trans params forParams forParams',
        result.equal_trans forResult forResult', underlying.equal_trans inner inner'⟩
  | literal value base =>
      obtain ⟨base', rfl, inner⟩ := same
      obtain ⟨base'', rfl, inner'⟩ := Ty.equal_iff_matches.mp same'
      exact ⟨base'', rfl, base.equal_trans inner inner'⟩
  | localArray id base =>
      obtain ⟨base', rfl, inner⟩ := same
      obtain ⟨base'', rfl, inner'⟩ := Ty.equal_iff_matches.mp same'
      exact ⟨base'', rfl, base.equal_trans inner inner'⟩
  | array shape base =>
      obtain ⟨shape', base', rfl, forShape, inner⟩ := same
      obtain ⟨shape'', base'', rfl, forShape', inner'⟩ := Ty.equal_iff_matches.mp same'
      exact ⟨shape'', base'', rfl, shape.equal_trans forShape forShape', base.equal_trans inner inner'⟩
termination_by structural first

theorem TyUnion.equal_trans (first : TyUnion) {second third : TyUnion}
    (same : first.equal second = true) (same' : second.equal third = true) :
    first.equal third = true := by
  obtain ⟨members⟩ := first
  obtain ⟨size, within⟩ := TyUnion.equal_iff.mp same
  obtain ⟨size', within'⟩ := TyUnion.equal_iff.mp same'
  exact TyUnion.equal_iff.mpr ⟨size.trans size', Ty.among_trans members within within'⟩
termination_by structural first

theorem Shape.equal_trans (first : Shape) {second third : Shape} (same : first.equal second = true)
    (same' : second.equal third = true) : first.equal third = true := by
  cases first with
  | seq elem =>
      cases second with
      | tuple => cases same
      | seq elem' =>
          cases third with
          | tuple => cases same'
          | seq elem'' => exact elem.equal_trans same same'
  | tuple elems =>
      cases second with
      | seq => cases same
      | tuple elems' =>
          cases third with
          | seq => cases same'
          | tuple elems'' => exact TyUnion.equalAll_trans elems same same'
termination_by structural first

/-- What has an equal among others has one wherever these have theirs. -/
theorem Ty.among_trans (types : List Ty) {others more : List Ty}
    (within : ∀ ty ∈ types, ∃ other ∈ others, ty.equal other = true)
    (within' : ∀ ty ∈ others, ∃ other ∈ more, ty.equal other = true) :
    ∀ ty ∈ types, ∃ other ∈ more, ty.equal other = true := by
  cases types with
  | nil => nofun
  | cons ty rest =>
      obtain ⟨⟨other, member, same⟩, later⟩ := List.forall_mem_cons.mp within
      obtain ⟨another, member', same'⟩ := within' other member
      exact List.forall_mem_cons.mpr
        ⟨⟨another, member', ty.equal_trans same same'⟩, Ty.among_trans rest later within'⟩
termination_by structural types

theorem TyUnion.equalAll_trans (first : List TyUnion) {second third : List TyUnion}
    (same : TyUnion.equalAll first second = true) (same' : TyUnion.equalAll second third = true) :
    TyUnion.equalAll first third = true := by
  rw [TyUnion.equalAll_iff_forall₂] at *
  cases first with
  | nil =>
      cases same
      exact same'
  | cons union rest =>
      obtain ⟨other, others, here, later, rfl⟩ := List.forall₂_cons_left_iff.mp same
      obtain ⟨another, more, here', later', rfl⟩ := List.forall₂_cons_left_iff.mp same'
      rw [← TyUnion.equalAll_iff_forall₂] at later later'
      exact .cons (union.equal_trans here here')
        (TyUnion.equalAll_iff_forall₂.mp (TyUnion.equalAll_trans rest later later'))
termination_by structural first

end

/-! ### Tidy values as a whole -/

theorem Ty.allTidy_iff {types : List Ty} :
    Ty.allTidy types = true ↔ ∀ ty ∈ types, ty.isTidy = true := by
  induction types with
  | nil => exact ⟨fun _ => nofun, fun _ => rfl⟩
  | cons ty rest ih => rw [Ty.allTidy, Bool.and_eq_true, ih, List.forall_mem_cons]

theorem TyUnion.allTidy_iff {unions : List TyUnion} :
    TyUnion.allTidy unions = true ↔ ∀ union ∈ unions, union.isTidy = true := by
  induction unions with
  | nil => exact ⟨fun _ => nofun, fun _ => rfl⟩
  | cons union rest ih => rw [TyUnion.allTidy, Bool.and_eq_true, ih, List.forall_mem_cons]

theorem Ty.areApart_iff_pairwise {types : List Ty} :
    Ty.areApart types = true ↔
      types.Pairwise (fun earlier later => ¬ later.equal earlier = true) := by
  induction types with
  | nil => exact ⟨fun _ => .nil, fun _ => rfl⟩
  | cons ty rest ih =>
      rw [Ty.areApart, Bool.and_eq_true, List.all_eq_true, ih, List.pairwise_cons]
      simp only [Bool.not_eq_true', Bool.not_eq_true]
      rfl

theorem TyUnion.isTidy_iff {union : TyUnion} :
    union.isTidy = true ↔
      union.members.Pairwise (fun earlier later => ¬ later.equal earlier = true) ∧
        ∀ ty ∈ union.members, ty.isTidy = true := by
  obtain ⟨members⟩ := union
  rw [TyUnion.isTidy, Bool.and_eq_true, Ty.areApart_iff_pairwise, Ty.allTidy_iff]

/-! ### Symmetry -/

/-- **Matching into a list.** If each element of the first list has a match in the second, and no two
of them share one, then some elements of the second list match the first one by one. -/
theorem exists_matching {α β : Type} {matched : α → β → Prop} {first : List α} {second : List β}
    (apart : first.Pairwise fun a a' => ∀ b, matched a b → ¬ matched a' b)
    (total : ∀ a ∈ first, ∃ b ∈ second, matched a b) :
    ∃ partners others, List.Forall₂ matched first partners ∧ (partners ++ others).Perm second := by
  induction first generalizing second with
  | nil => exact ⟨[], second, .nil, .refl second⟩
  | cons a rest ih =>
      obtain ⟨apartHere, apartLater⟩ := List.pairwise_cons.mp apart
      obtain ⟨⟨b, member, here⟩, later⟩ := List.forall_mem_cons.mp total
      obtain ⟨left, right, rfl⟩ := List.append_of_mem member
      -- The match of `a` is taken out of the second list: none of the others uses it.
      have remaining : ∀ a' ∈ rest, ∃ b' ∈ left ++ right, matched a' b' := by
        intro a' inRest
        obtain ⟨b', member', there⟩ := later a' inRest
        refine ⟨b', ?_, there⟩
        rcases List.mem_append.mp member' with inLeft | inRight
        · exact List.mem_append_left _ inLeft
        · rcases List.mem_cons.mp inRight with rfl | inRight
          · exact absurd there (apartHere a' inRest b' here)
          · exact List.mem_append_right _ inRight
      obtain ⟨partners, others, matching, reordered⟩ := ih apartLater remaining
      exact ⟨b :: partners, others, .cons here matching, (reordered.cons b).trans List.perm_middle.symm⟩

/-- What is matched one by one is matched. -/
theorem exists_of_mem_matching {α β : Type} {matched : α → β → Prop} {first : List α}
    {partners : List β} (matching : List.Forall₂ matched first partners) :
    ∀ b ∈ partners, ∃ a ∈ first, matched a b := by
  induction matching with
  | nil => nofun
  | cons here _ ih =>
      refine List.forall_mem_cons.mpr ⟨⟨_, List.mem_cons_self, here⟩, fun b member => ?_⟩
      obtain ⟨a, inRest, there⟩ := ih b member
      exact ⟨a, List.mem_cons_of_mem _ inRest, there⟩

/-- A list into which another is matched is at least as long; if it is no longer, every element of it
is a match. -/
theorem matched_into {α β : Type} {matched : α → β → Prop} {first : List α} {second : List β}
    (apart : first.Pairwise fun a a' => ∀ b, matched a b → ¬ matched a' b)
    (total : ∀ a ∈ first, ∃ b ∈ second, matched a b) :
    first.length ≤ second.length ∧
      (second.length ≤ first.length → ∀ b ∈ second, ∃ a ∈ first, matched a b) := by
  obtain ⟨partners, others, matching, reordered⟩ := exists_matching apart total
  have size : first.length + others.length = second.length := by
    rw [← reordered.length_eq, List.length_append, matching.length_eq]
  refine ⟨by omega, fun short b member => ?_⟩
  obtain rfl : others = [] := List.eq_nil_of_length_eq_zero (by omega)
  rw [List.append_nil] at reordered
  exact exists_of_mem_matching matching b (reordered.mem_iff.mpr member)

/-- Types that are apart have no equal in common, where equality with them can be turned around. -/
theorem Ty.pairwise_unshared {types : List Ty} {others : List Ty}
    (apart : types.Pairwise (fun earlier later => ¬ later.equal earlier = true))
    (symm : ∀ ty ∈ types, ∀ other ∈ others, ty.equal other = true → other.equal ty = true) :
    types.Pairwise (fun earlier later => ∀ other,
      (other ∈ others ∧ earlier.equal other = true) → ¬ (other ∈ others ∧ later.equal other = true)) := by
  refine apart.imp_of_mem fun inTypes _ different other here there => ?_
  exact different (Ty.equal_trans _ there.2 (symm _ inTypes other here.1 here.2))

/-- Each type of a list of equals among others is matched, and the other way around if the lists have
one length. -/
theorem Ty.among_symm {types others : List Ty}
    (apart : types.Pairwise (fun earlier later => ¬ later.equal earlier = true))
    (size : types.length = others.length)
    (within : ∀ ty ∈ types, ∃ other ∈ others, ty.equal other = true)
    (symm : ∀ ty ∈ types, ∀ other ∈ others, ty.equal other = true → other.equal ty = true) :
    ∀ other ∈ others, ∃ ty ∈ types, other.equal ty = true := by
  intro other member
  have matched := matched_into (Ty.pairwise_unshared apart symm) fun ty inTypes => by
    obtain ⟨other, inOthers, same⟩ := within ty inTypes
    exact ⟨other, inOthers, inOthers, same⟩
  obtain ⟨ty, inTypes, -, same⟩ := matched.2 (Nat.le_of_eq size.symm) other member
  exact ⟨ty, inTypes, symm ty inTypes other member same⟩

mutual

theorem Ty.equal_symm (first : Ty) {second : Ty} (tidy : first.isTidy = true)
    (tidy' : second.isTidy = true) (same : first.equal second = true) :
    second.equal first = true := by
  rw [Ty.equal_iff_matches] at same
  cases first with
  | any =>
      obtain rfl := same
      rfl
  | code id =>
      obtain rfl := same
      exact Ty.equal_self _
  | classObject cls =>
      obtain ⟨cls', rfl, ids⟩ := same
      exact Ty.equal_iff_matches.mpr ⟨cls, rfl, ids.symm⟩
  | instanceOf cls =>
      obtain ⟨cls', rfl, inner⟩ := same
      exact cls.equal_symm tidy tidy' inner
  | closure code frame underlying =>
      obtain ⟨underlying', rfl, inner⟩ := same
      exact Ty.equal_iff_matches.mpr ⟨underlying, rfl, underlying.equal_symm tidy tidy' inner⟩
  | typedClosure params result underlying =>
      obtain ⟨params', result', underlying', rfl, forParams, forResult, inner⟩ := same
      rw [Ty.isTidy, Bool.and_eq_true, Bool.and_eq_true] at tidy tidy'
      exact Ty.equal_iff_matches.mpr ⟨params, result, underlying, rfl,
        TyUnion.equalAll_symm params tidy.1.1 tidy'.1.1 forParams,
        result.equal_symm tidy.1.2 tidy'.1.2 forResult, underlying.equal_symm tidy.2 tidy'.2 inner⟩
  | literal value base =>
      obtain ⟨base', rfl, inner⟩ := same
      exact Ty.equal_iff_matches.mpr ⟨base, rfl, base.equal_symm tidy tidy' inner⟩
  | localArray id base =>
      obtain ⟨base', rfl, inner⟩ := same
      exact Ty.equal_iff_matches.mpr ⟨base, rfl, base.equal_symm tidy tidy' inner⟩
  | array shape base =>
      obtain ⟨shape', base', rfl, forShape, inner⟩ := same
      rw [Ty.isTidy, Bool.and_eq_true] at tidy tidy'
      exact Ty.equal_iff_matches.mpr ⟨shape, base, rfl, shape.equal_symm tidy.1 tidy'.1 forShape,
        base.equal_symm tidy.2 tidy'.2 inner⟩
termination_by structural first

theorem TyUnion.equal_symm (first : TyUnion) {second : TyUnion} (tidy : first.isTidy = true)
    (tidy' : second.isTidy = true) (same : first.equal second = true) :
    second.equal first = true := by
  obtain ⟨members⟩ := first
  obtain ⟨size, within⟩ := TyUnion.equal_iff.mp same
  obtain ⟨apart, tidyMembers⟩ := TyUnion.isTidy_iff.mp tidy
  have tidyOthers := (TyUnion.isTidy_iff.mp tidy').2
  refine TyUnion.equal_iff.mpr ⟨size.symm, Ty.among_symm apart size within ?_⟩
  exact fun ty member other member' =>
    Ty.equal_symm_of_mem members tidyMembers ty member (tidyOthers other member')
termination_by structural first

theorem Shape.equal_symm (first : Shape) {second : Shape} (tidy : first.isTidy = true)
    (tidy' : second.isTidy = true) (same : first.equal second = true) :
    second.equal first = true := by
  cases first with
  | seq elem =>
      cases second with
      | tuple => cases same
      | seq elem' => exact elem.equal_symm tidy tidy' same
  | tuple elems =>
      cases second with
      | seq => cases same
      | tuple elems' => exact TyUnion.equalAll_symm elems tidy tidy' same
termination_by structural first

theorem Ty.equal_symm_of_mem (types : List Ty) (tidy : ∀ ty ∈ types, ty.isTidy = true) :
    ∀ ty ∈ types, ∀ {other : Ty}, other.isTidy = true → ty.equal other = true →
      other.equal ty = true := by
  cases types with
  | nil => nofun
  | cons ty rest =>
      obtain ⟨tidyHere, tidyLater⟩ := List.forall_mem_cons.mp tidy
      exact List.forall_mem_cons.mpr
        ⟨fun tidy' same => ty.equal_symm tidyHere tidy' same, Ty.equal_symm_of_mem rest tidyLater⟩
termination_by structural types

theorem TyUnion.equalAll_symm (first : List TyUnion) {second : List TyUnion}
    (tidy : TyUnion.allTidy first = true) (tidy' : TyUnion.allTidy second = true)
    (same : TyUnion.equalAll first second = true) : TyUnion.equalAll second first = true := by
  cases first with
  | nil =>
      cases second with
      | nil => rfl
      | cons => cases same
  | cons union rest =>
      cases second with
      | nil => cases same
      | cons other others =>
          rw [TyUnion.allTidy, Bool.and_eq_true] at tidy tidy'
          rw [TyUnion.equalAll, Bool.and_eq_true] at same ⊢
          exact ⟨union.equal_symm tidy.1 tidy'.1 same.1,
            TyUnion.equalAll_symm rest tidy.2 tidy'.2 same.2⟩
termination_by structural first

end

/-! ### What unions contain -/

namespace TyUnion

theorem contains_iff {union : TyUnion} {ty : Ty} :
    union.contains ty = true ↔ ∃ member ∈ union.members, ty.equal member = true :=
  List.any_eq_true

/-- A union contains the equals of what it contains. -/
theorem contains_of_equal {union : TyUnion} {ty other : Ty} (same : ty.equal other = true)
    (held : union.contains other = true) : union.contains ty = true := by
  obtain ⟨member, inUnion, same'⟩ := contains_iff.mp held
  exact contains_iff.mpr ⟨member, inUnion, ty.equal_trans same same'⟩

theorem contains_singleton {added ty : Ty} :
    (singleton added).contains ty = true ↔ ty.equal added = true := by
  rw [contains_iff]
  simp only [singleton, List.mem_singleton, exists_eq_left]

theorem contains_insert {union : TyUnion} {added ty : Ty} :
    (union.insert added).contains ty = true ↔ union.contains ty = true ∨ ty.equal added = true := by
  constructor
  · intro held
    obtain ⟨member, inUnion, same⟩ := contains_iff.mp held
    rcases mem_of_mem_insert inUnion with before | rfl
    · exact .inl (contains_iff.mpr ⟨member, before, same⟩)
    · exact .inr same
  · rintro (held | same)
    · exact contains_insert_of_contains held added
    · exact contains_of_equal same (contains_insert_self union added)

theorem contains_ofList_iff {types : List Ty} {ty : Ty} :
    (ofList types).contains ty = true ↔ ∃ other ∈ types, ty.equal other = true := by
  constructor
  · intro held
    obtain ⟨member, inUnion, same⟩ := contains_iff.mp held
    exact ⟨member, mem_of_mem_ofList inUnion, same⟩
  · rintro ⟨other, member, same⟩
    exact contains_of_equal same (contains_ofList member)

theorem isWithin_iff {union other : TyUnion} :
    union.isWithin other = true ↔ ∀ ty, union.contains ty = true → other.contains ty = true := by
  rw [isWithin, List.all_eq_true]
  constructor
  · intro within ty held
    obtain ⟨member, inUnion, same⟩ := contains_iff.mp held
    exact contains_of_equal same (within member inUnion)
  · exact fun within member inUnion => within member (contains_of_mem inUnion)

theorem isWithin_self (union : TyUnion) : union.isWithin union = true :=
  isWithin_iff.mpr fun _ held => held

theorem contains_join {first second : TyUnion} {ty : Ty} :
    (first.join second).contains ty = true ↔
      first.contains ty = true ∨ second.contains ty = true := by
  unfold join
  split
  · rename_i within
    exact ⟨.inl, fun held => held.elim id (isWithin_iff.mp within ty)⟩
  · split
    · rename_i within
      exact ⟨.inr, fun held => held.elim (isWithin_iff.mp within ty) id⟩
    · rw [contains_ofList_iff, contains_iff, contains_iff]
      simp only [List.mem_append, or_and_right, exists_or]

/-- A tidy union that lies within another has no more members than it. -/
theorem length_le_of_isWithin {first second : TyUnion} (tidy : first.isTidy = true)
    (tidy' : second.isTidy = true) (within : first.isWithin second = true) :
    first.members.length ≤ second.members.length := by
  obtain ⟨apart, tidyMembers⟩ := isTidy_iff.mp tidy
  have tidyOthers := (isTidy_iff.mp tidy').2
  have unshared := Ty.pairwise_unshared apart fun ty member other member' =>
    ty.equal_symm (tidyMembers ty member) (tidyOthers other member')
  refine (matched_into unshared fun ty member => ?_).1
  obtain ⟨other, inSecond, same⟩ := contains_iff.mp (isWithin_iff.mp within ty (contains_of_mem member))
  exact ⟨other, inSecond, inSecond, same⟩

/-- **Tidy unions are equal exactly when they contain the same types.** -/
theorem equal_iff_contains {first second : TyUnion} (tidy : first.isTidy = true)
    (tidy' : second.isTidy = true) :
    first.equal second = true ↔ ∀ ty, first.contains ty = true ↔ second.contains ty = true := by
  constructor
  · intro same ty
    have same' := first.equal_symm tidy tidy' same
    constructor
    · intro held
      obtain ⟨member, inFirst, here⟩ := contains_iff.mp held
      exact contains_of_equal here (contains_iff.mpr ((TyUnion.equal_iff.mp same).2 member inFirst))
    · intro held
      obtain ⟨member, inSecond, here⟩ := contains_iff.mp held
      exact contains_of_equal here (contains_iff.mpr ((TyUnion.equal_iff.mp same').2 member inSecond))
  · intro alike
    have within := isWithin_iff.mpr fun ty => (alike ty).mp
    have within' := isWithin_iff.mpr fun ty => (alike ty).mpr
    refine TyUnion.equal_iff.mpr ⟨Nat.le_antisymm (length_le_of_isWithin tidy tidy' within)
      (length_le_of_isWithin tidy' tidy within'), fun ty member => ?_⟩
    exact contains_iff.mp ((alike ty).mp (contains_of_mem member))

/-! ### Operations keep values tidy -/

theorem isTidy_insert {union : TyUnion} {ty : Ty} (tidy : union.isTidy = true)
    (tidyTy : ty.isTidy = true) : (union.insert ty).isTidy = true := by
  unfold insert
  split
  · exact tidy
  · rename_i new
    obtain ⟨apart, tidyMembers⟩ := isTidy_iff.mp tidy
    refine isTidy_iff.mpr ⟨List.pairwise_append.mpr ⟨apart, List.pairwise_singleton _ _, ?_⟩, ?_⟩
    · intro member inUnion other isNew
      rw [List.mem_singleton.mp isNew]
      exact fun same => new (contains_iff.mpr ⟨member, inUnion, same⟩)
    · intro member inUnion
      rcases List.mem_append.mp inUnion with before | isNew
      · exact tidyMembers member before
      · rwa [List.mem_singleton.mp isNew]

theorem isTidy_ofList {types : List Ty} (tidy : ∀ ty ∈ types, ty.isTidy = true) :
    (ofList types).isTidy = true := by
  suffices ∀ union : TyUnion, union.isTidy = true → (types.foldl insert union).isTidy = true from
    this empty rfl
  induction types with
  | nil => exact fun _ tidyUnion => tidyUnion
  | cons ty rest ih =>
      obtain ⟨tidyHere, tidyLater⟩ := List.forall_mem_cons.mp tidy
      exact fun union tidyUnion => ih tidyLater _ (isTidy_insert tidyUnion tidyHere)

theorem isTidy_join {first second : TyUnion} (tidy : first.isTidy = true)
    (tidy' : second.isTidy = true) : (first.join second).isTidy = true := by
  unfold join
  split
  · exact tidy
  · split
    · exact tidy'
    · refine isTidy_ofList fun ty member => ?_
      rcases List.mem_append.mp member with inFirst | inSecond
      · exact (isTidy_iff.mp tidy).2 ty inFirst
      · exact (isTidy_iff.mp tidy').2 ty inSecond

/-! ### Operations on equal unions -/

section Congruence

variable {first first' second second' : TyUnion} {ty ty' : Ty}

/-- Inserting equal types into equal tidy unions gives equal unions. -/
theorem insert_equal (tidy : first.isTidy = true) (tidy' : first'.isTidy = true)
    (tidyTy : ty.isTidy = true) (tidyTy' : ty'.isTidy = true) (same : first.equal first' = true)
    (sameTy : ty.equal ty' = true) : (first.insert ty).equal (first'.insert ty') = true := by
  rw [equal_iff_contains (isTidy_insert tidy tidyTy) (isTidy_insert tidy' tidyTy')]
  intro other
  rw [contains_insert, contains_insert, (equal_iff_contains tidy tidy').mp same other]
  have turned := ty.equal_symm tidyTy tidyTy' sameTy
  exact or_congr_right
    ⟨fun here => other.equal_trans here sameTy, fun here => other.equal_trans here turned⟩

theorem join_equal (tidy : first.isTidy = true) (tidy' : first'.isTidy = true)
    (tidySecond : second.isTidy = true) (tidySecond' : second'.isTidy = true)
    (same : first.equal first' = true) (sameSecond : second.equal second' = true) :
    (first.join second).equal (first'.join second') = true := by
  rw [equal_iff_contains (isTidy_join tidy tidySecond) (isTidy_join tidy' tidySecond')]
  intro other
  rw [contains_join, contains_join, (equal_iff_contains tidy tidy').mp same other,
    (equal_iff_contains tidySecond tidySecond').mp sameSecond other]

end Congruence

end TyUnion

namespace Shape

/-- Some element of a tuple may have a type exactly when the union of a position contains it. -/
theorem contains_elements_tuple {elems : List TyUnion} {ty : Ty} :
    (elements (.tuple elems)).contains ty = true ↔ ∃ union ∈ elems, union.contains ty = true := by
  rw [elements, TyUnion.contains_ofList_iff]
  constructor
  · rintro ⟨member, inAll, same⟩
    obtain ⟨union, inElems, inUnion⟩ := List.mem_flatMap.mp inAll
    exact ⟨union, inElems, TyUnion.contains_iff.mpr ⟨member, inUnion, same⟩⟩
  · rintro ⟨union, inElems, held⟩
    obtain ⟨member, inUnion, same⟩ := TyUnion.contains_iff.mp held
    exact ⟨member, List.mem_flatMap.mpr ⟨union, inElems, inUnion⟩, same⟩

theorem isTidy_elements {shape : Shape} (tidy : shape.isTidy = true) : shape.elements.isTidy = true := by
  cases shape with
  | seq elem => exact tidy
  | tuple elems =>
      refine TyUnion.isTidy_ofList fun ty member => ?_
      obtain ⟨union, inElems, inUnion⟩ := List.mem_flatMap.mp member
      exact (TyUnion.isTidy_iff.mp (TyUnion.allTidy_iff.mp tidy union inElems)).2 ty inUnion

theorem isTidy_read {shape : Shape} (tidy : shape.isTidy = true) (core : CoreClasses)
    (index : Option Nat) : (shape.read core index).isTidy = true := by
  cases shape with
  | seq elem => exact tidy
  | tuple elems =>
      cases index with
      | none => exact isTidy_elements tidy
      | some position =>
          show (elems.getD position core.nilUnion).isTidy = true
          rw [List.getD_eq_getElem?_getD]
          cases found : elems[position]? with
          | none => rfl
          | some union => exact TyUnion.allTidy_iff.mp tidy union (List.mem_of_getElem? found)

theorem isTidy_write {shape : Shape} {ty : Ty} (tidy : shape.isTidy = true)
    (tidyTy : ty.isTidy = true) (index : Option Nat) : (shape.write index ty).isTidy = true := by
  have gathered : (shape.elements.insert ty).isTidy = true :=
    TyUnion.isTidy_insert (isTidy_elements tidy) tidyTy
  cases shape with
  | seq elem => exact gathered
  | tuple elems =>
      cases index with
      | none => exact gathered
      | some position =>
          rw [write]
          split
          · refine TyUnion.allTidy_iff.mpr fun union member => ?_
            rcases List.mem_or_eq_of_mem_set member with before | rfl
            · exact TyUnion.allTidy_iff.mp tidy union before
            · exact TyUnion.isTidy_iff.mpr ⟨List.pairwise_singleton _ _, fun other isTy => by
                rwa [List.mem_singleton.mp isTy]⟩
          · exact gathered

theorem isTidy_join {first second : Shape} (tidy : first.isTidy = true)
    (tidy' : second.isTidy = true) : (first.join second).isTidy = true := by
  have gathered : (first.elements.join second.elements).isTidy = true :=
    TyUnion.isTidy_join (isTidy_elements tidy) (isTidy_elements tidy')
  cases first with
  | seq elem => cases second <;> exact gathered
  | tuple elems =>
      cases second with
      | seq elem => exact gathered
      | tuple elems' =>
          rw [join]
          split
          · refine TyUnion.allTidy_iff.mpr fun union member => ?_
            rw [← List.map_uncurry_zip_eq_zipWith] at member
            obtain ⟨⟨left, right⟩, inZip, rfl⟩ := List.mem_map.mp member
            obtain ⟨inElems, inElems'⟩ := List.of_mem_zip inZip
            exact TyUnion.isTidy_join (TyUnion.allTidy_iff.mp tidy left inElems)
              (TyUnion.allTidy_iff.mp tidy' right inElems')
          · exact gathered

end Shape

end TypeLattice
