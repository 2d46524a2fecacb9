/-
**Filling by id.**

Where the answer for a local array depends on its id alone, and not on the place where the array is met,
filling a value is a substitution. As such it respects equality and commutes with the operations on
unions and shapes, up to the order in which members were first seen.

* `fillBy`: the value with each local array replaced by the answer for its id;
* `Ty.fill_map_handles`: on tidy values this is filling with the answers for the handles in turn;
* `Ty.fillBy_equal`, `TyUnion.fillBy_equal`, `Shape.fillBy_equal`: equal values become equal values;
* `TyUnion.fillBy_insert`, `TyUnion.fillBy_join`, `Shape.fillBy_elements`, `Shape.fillBy_read`,
  `Shape.fillBy_write`, `Shape.fillBy_join`: it makes no difference whether the arrays are filled in
  before or after the operation.
-/

import TypeLattice.Proofs.Resolution.Unchanged
import TypeLattice.Proofs.Types.Equivalence

namespace TypeLattice

/-! ### The substitution -/

mutual

/-- The type with each local array replaced by the answer for its id: a shape, or `none` for an array
that is cut. -/
def Ty.fillBy (answer : ArrayId → Option Shape) : Ty → Ty
  | .localArray id base => (answer id).elim .any (fun shape => .array shape base)
  | .literal _ base => base
  | .array shape base => .array (shape.fillBy answer) base
  | .instanceOf cls => .instanceOf (cls.fillBy answer)
  | .closure code frame underlying => .closure code frame (underlying.fillBy answer)
  | .typedClosure params result underlying =>
    .typedClosure (TyUnion.fillAllBy answer params) (result.fillBy answer) (underlying.fillBy answer)
  | .any => .any
  | .classObject cls => .classObject cls
  | .code id => .code id
termination_by structural ty => ty

/-- The union of the members filled by id; members that become equal are merged. -/
def TyUnion.fillBy (answer : ArrayId → Option Shape) : TyUnion → TyUnion
  | ⟨members⟩ => .ofList (Ty.fillAllBy answer members)
termination_by structural union => union

/-- The shape with its unions filled by id. -/
def Shape.fillBy (answer : ArrayId → Option Shape) : Shape → Shape
  | .seq elem => .seq (elem.fillBy answer)
  | .tuple elems => .tuple (TyUnion.fillAllBy answer elems)
termination_by structural shape => shape

/-- The types, each filled by id. -/
def Ty.fillAllBy (answer : ArrayId → Option Shape) : List Ty → List Ty
  | [] => []
  | ty :: rest => ty.fillBy answer :: Ty.fillAllBy answer rest
termination_by structural types => types

/-- The unions, each filled by id. -/
def TyUnion.fillAllBy (answer : ArrayId → Option Shape) : List TyUnion → List TyUnion
  | [] => []
  | union :: rest => union.fillBy answer :: TyUnion.fillAllBy answer rest
termination_by structural unions => unions

end

section Handles

variable (answer : ArrayId → Option Shape)

theorem Ty.fillAllBy_eq_map (types : List Ty) : Ty.fillAllBy answer types = types.map (Ty.fillBy answer) := by
  induction types with
  | nil => rfl
  | cons ty rest ih => rw [Ty.fillAllBy, ih, List.map_cons]

theorem TyUnion.fillAllBy_eq_map (unions : List TyUnion) :
    TyUnion.fillAllBy answer unions = unions.map (TyUnion.fillBy answer) := by
  induction unions with
  | nil => rfl
  | cons union rest ih => rw [TyUnion.fillAllBy, ih, List.map_cons]

mutual

/-- **Filling by id is filling with the answers for the handles in turn.** -/
theorem Ty.fill_map_handles (ty : Ty) (tidy : ty.isTidy = true) :
    ty.fill (ty.handles.map answer) = ty.fillBy answer := by
  cases ty with
  | any => rfl
  | classObject cls => rfl
  | code id => rfl
  | literal value base => rfl
  | localArray id base => rfl
  | array shape base =>
      rw [Ty.isTidy, Bool.and_eq_true] at tidy
      rw [Ty.fill_array tidy.1, Ty.handles, Shape.fill_map_handles shape tidy.1, Ty.fillBy]
  | instanceOf cls => exact congrArg Ty.instanceOf (Ty.fill_map_handles cls tidy)
  | closure code frame underlying =>
      exact congrArg (Ty.closure code frame) (Ty.fill_map_handles underlying tidy)
  | typedClosure params result underlying =>
      rw [Ty.isTidy, Bool.and_eq_true, Bool.and_eq_true] at tidy
      simp only [Ty.fill, Ty.handles, Ty.fillBy, List.map_append, List.take_left' (List.length_map _),
        List.drop_left' (List.length_map _)]
      rw [TyUnion.fillAll_map_handles params tidy.1.1, TyUnion.fill_map_handles result tidy.1.2,
        Ty.fill_map_handles underlying tidy.2]

theorem TyUnion.fill_map_handles (union : TyUnion) (tidy : union.isTidy = true) :
    union.fill (union.handles.map answer) = union.fillBy answer := by
  obtain ⟨members⟩ := union
  rw [TyUnion.isTidy, Bool.and_eq_true] at tidy
  exact congrArg TyUnion.ofList (Ty.fillAll_map_handles members tidy.2)

theorem Shape.fill_map_handles (shape : Shape) (tidy : shape.isTidy = true) :
    shape.fill (shape.handles.map answer) = shape.fillBy answer := by
  cases shape with
  | seq elem => exact congrArg Shape.seq (TyUnion.fill_map_handles elem tidy)
  | tuple elems => exact congrArg Shape.tuple (TyUnion.fillAll_map_handles elems tidy)

theorem Ty.fillAll_map_handles (types : List Ty) (tidy : Ty.allTidy types = true) :
    Ty.fillAll types ((Ty.handlesOfAll types).map answer) = Ty.fillAllBy answer types := by
  cases types with
  | nil => rfl
  | cons ty rest =>
      rw [Ty.allTidy, Bool.and_eq_true] at tidy
      rw [Ty.fillAll, Ty.handlesOfAll, List.map_append, List.take_left' (List.length_map _),
        List.drop_left' (List.length_map _), Ty.fill_map_handles ty tidy.1,
        Ty.fillAll_map_handles rest tidy.2, Ty.fillAllBy]

theorem TyUnion.fillAll_map_handles (unions : List TyUnion) (tidy : TyUnion.allTidy unions = true) :
    TyUnion.fillAll unions ((TyUnion.handlesOfAll unions).map answer) =
      TyUnion.fillAllBy answer unions := by
  cases unions with
  | nil => rfl
  | cons union rest =>
      rw [TyUnion.allTidy, Bool.and_eq_true] at tidy
      rw [TyUnion.fillAll, TyUnion.handlesOfAll, List.map_append, List.take_left' (List.length_map _),
        List.drop_left' (List.length_map _), TyUnion.fill_map_handles union tidy.1,
        TyUnion.fillAll_map_handles rest tidy.2, TyUnion.fillAllBy]

end

end Handles

/-! ### Tidy answers -/

section Tidy

variable {answer : ArrayId → Option Shape}

/-- The shapes given for the arrays are tidy. -/
def TidyAnswers (answer : ArrayId → Option Shape) (ids : List ArrayId) : Prop :=
  ∀ id ∈ ids, ∀ shape, answer id = some shape → shape.isTidy = true

theorem TidyAnswers.append {first second : List ArrayId} (tidy : TidyAnswers answer (first ++ second)) :
    TidyAnswers answer first ∧ TidyAnswers answer second :=
  List.forall_mem_append.mp tidy

mutual

theorem Ty.isTidy_fillBy (ty : Ty) (tidy : ty.isTidy = true) (tidyAnswers : TidyAnswers answer ty.handles) :
    (ty.fillBy answer).isTidy = true := by
  cases ty with
  | any => rfl
  | classObject cls => rfl
  | code id => rfl
  | literal value base => exact tidy
  | localArray id base =>
      rw [Ty.fillBy]
      cases given : answer id with
      | none => rfl
      | some shape =>
          rw [Option.elim_some, Ty.isTidy, Bool.and_eq_true]
          exact ⟨tidyAnswers id List.mem_cons_self shape given, tidy⟩
  | array shape base =>
      rw [Ty.isTidy, Bool.and_eq_true] at tidy
      rw [Ty.fillBy, Ty.isTidy, Bool.and_eq_true]
      exact ⟨Shape.isTidy_fillBy shape tidy.1 tidyAnswers, tidy.2⟩
  | instanceOf cls => exact Ty.isTidy_fillBy cls tidy tidyAnswers
  | closure code frame underlying => exact Ty.isTidy_fillBy underlying tidy tidyAnswers
  | typedClosure params result underlying =>
      rw [Ty.isTidy, Bool.and_eq_true, Bool.and_eq_true] at tidy
      obtain ⟨forParams, rest⟩ := tidyAnswers.append
      obtain ⟨forResult, forUnderlying⟩ := rest.append
      rw [Ty.fillBy, Ty.isTidy, Bool.and_eq_true, Bool.and_eq_true]
      exact ⟨⟨TyUnion.allTidy_fillAllBy params tidy.1.1 forParams,
        TyUnion.isTidy_fillBy result tidy.1.2 forResult⟩,
        Ty.isTidy_fillBy underlying tidy.2 forUnderlying⟩

theorem TyUnion.isTidy_fillBy (union : TyUnion) (tidy : union.isTidy = true)
    (tidyAnswers : TidyAnswers answer union.handles) : (union.fillBy answer).isTidy = true := by
  obtain ⟨members⟩ := union
  rw [TyUnion.isTidy, Bool.and_eq_true] at tidy
  exact TyUnion.isTidy_ofList (Ty.allTidy_iff.mp (Ty.allTidy_fillAllBy members tidy.2 tidyAnswers))

theorem Shape.isTidy_fillBy (shape : Shape) (tidy : shape.isTidy = true)
    (tidyAnswers : TidyAnswers answer shape.handles) : (shape.fillBy answer).isTidy = true := by
  cases shape with
  | seq elem => exact TyUnion.isTidy_fillBy elem tidy tidyAnswers
  | tuple elems => exact TyUnion.allTidy_fillAllBy elems tidy tidyAnswers

theorem Ty.allTidy_fillAllBy (types : List Ty) (tidy : Ty.allTidy types = true)
    (tidyAnswers : TidyAnswers answer (Ty.handlesOfAll types)) :
    Ty.allTidy (Ty.fillAllBy answer types) = true := by
  cases types with
  | nil => rfl
  | cons ty rest =>
      rw [Ty.allTidy, Bool.and_eq_true] at tidy
      obtain ⟨here, later⟩ := tidyAnswers.append
      rw [Ty.fillAllBy, Ty.allTidy, Bool.and_eq_true]
      exact ⟨Ty.isTidy_fillBy ty tidy.1 here, Ty.allTidy_fillAllBy rest tidy.2 later⟩

theorem TyUnion.allTidy_fillAllBy (unions : List TyUnion) (tidy : TyUnion.allTidy unions = true)
    (tidyAnswers : TidyAnswers answer (TyUnion.handlesOfAll unions)) :
    TyUnion.allTidy (TyUnion.fillAllBy answer unions) = true := by
  cases unions with
  | nil => rfl
  | cons union rest =>
      rw [TyUnion.allTidy, Bool.and_eq_true] at tidy
      obtain ⟨here, later⟩ := tidyAnswers.append
      rw [TyUnion.fillAllBy, TyUnion.allTidy, Bool.and_eq_true]
      exact ⟨TyUnion.isTidy_fillBy union tidy.1 here, TyUnion.allTidy_fillAllBy rest tidy.2 later⟩

end

end Tidy

/-! ### Equal values become equal values -/

section Congruence

variable {answer : ArrayId → Option Shape}

theorem TyUnion.contains_fillBy {union : TyUnion} {ty : Ty} :
    (union.fillBy answer).contains ty = true ↔
      ∃ member ∈ union.members, ty.equal (member.fillBy answer) = true := by
  obtain ⟨members⟩ := union
  rw [TyUnion.fillBy, TyUnion.contains_ofList_iff, Ty.fillAllBy_eq_map]
  simp only [List.mem_map, exists_exists_and_eq_and]

mutual

theorem Ty.fillBy_equal (tidyAnswers : ∀ ids, TidyAnswers answer ids) (ty : Ty) {other : Ty}
    (tidy : ty.isTidy = true) (tidy' : other.isTidy = true) (same : ty.equal other = true) :
    (ty.fillBy answer).equal (other.fillBy answer) = true := by
  rw [Ty.equal_iff_matches] at same
  cases ty with
  | any =>
      obtain rfl := same
      rfl
  | code id =>
      obtain rfl := same
      exact Ty.equal_self _
  | classObject cls =>
      obtain ⟨cls', rfl, ids⟩ := same
      exact Ty.equal_iff_matches.mpr ⟨cls', rfl, ids⟩
  | literal value base =>
      obtain ⟨base', rfl, inner⟩ := same
      exact inner
  | localArray id base =>
      obtain ⟨base', rfl, inner⟩ := same
      simp only [Ty.fillBy]
      cases answer id with
      | none => rfl
      | some shape => exact Ty.equal_iff_matches.mpr ⟨shape, base', rfl, shape.equal_self, inner⟩
  | array shape base =>
      obtain ⟨shape', base', rfl, forShape, inner⟩ := same
      rw [Ty.isTidy, Bool.and_eq_true] at tidy tidy'
      exact Ty.equal_iff_matches.mpr
        ⟨_, base', rfl, Shape.fillBy_equal tidyAnswers shape tidy.1 tidy'.1 forShape, inner⟩
  | instanceOf cls =>
      obtain ⟨cls', rfl, inner⟩ := same
      exact Ty.fillBy_equal tidyAnswers cls tidy tidy' inner
  | closure code frame underlying =>
      obtain ⟨underlying', rfl, inner⟩ := same
      exact Ty.equal_iff_matches.mpr ⟨_, rfl, Ty.fillBy_equal tidyAnswers underlying tidy tidy' inner⟩
  | typedClosure params result underlying =>
      obtain ⟨params', result', underlying', rfl, forParams, forResult, inner⟩ := same
      rw [Ty.isTidy, Bool.and_eq_true, Bool.and_eq_true] at tidy tidy'
      exact Ty.equal_iff_matches.mpr ⟨_, _, _, rfl,
        TyUnion.fillAllBy_equal tidyAnswers params tidy.1.1 tidy'.1.1 forParams,
        TyUnion.fillBy_equal tidyAnswers result tidy.1.2 tidy'.1.2 forResult,
        Ty.fillBy_equal tidyAnswers underlying tidy.2 tidy'.2 inner⟩
termination_by structural ty

theorem TyUnion.fillBy_equal (tidyAnswers : ∀ ids, TidyAnswers answer ids) (union : TyUnion)
    {other : TyUnion} (tidy : union.isTidy = true) (tidy' : other.isTidy = true)
    (same : union.equal other = true) :
    (union.fillBy answer).equal (other.fillBy answer) = true := by
  obtain ⟨members⟩ := union
  have turned := TyUnion.equal_symm _ tidy tidy' same
  have tidyMembers := (TyUnion.isTidy_iff.mp tidy).2
  have tidyOthers := (TyUnion.isTidy_iff.mp tidy').2
  rw [TyUnion.equal_iff_contains (TyUnion.isTidy_fillBy _ tidy (tidyAnswers _))
    (TyUnion.isTidy_fillBy _ tidy' (tidyAnswers _))]
  intro ty
  rw [TyUnion.contains_fillBy, TyUnion.contains_fillBy]
  constructor
  · rintro ⟨member, inMembers, here⟩
    obtain ⟨match', inOthers, alike⟩ := (TyUnion.equal_iff.mp same).2 member inMembers
    have filled := Ty.fillBy_equal_of_mem tidyAnswers members tidyMembers member inMembers
      (tidyOthers match' inOthers) alike
    exact ⟨match', inOthers, ty.equal_trans here filled⟩
  · rintro ⟨member, inOthers, here⟩
    obtain ⟨match', inMembers, alike⟩ := (TyUnion.equal_iff.mp turned).2 member inOthers
    have tidyMember := tidyOthers member inOthers
    have tidyMatch := tidyMembers match' inMembers
    have filled := Ty.fillBy_equal_of_mem tidyAnswers members tidyMembers match' inMembers tidyMember
      (member.equal_symm tidyMember tidyMatch alike)
    have filled' := Ty.equal_symm _ (match'.isTidy_fillBy tidyMatch (tidyAnswers _))
      (member.isTidy_fillBy tidyMember (tidyAnswers _)) filled
    exact ⟨match', inMembers, ty.equal_trans here filled'⟩
termination_by structural union

theorem Shape.fillBy_equal (tidyAnswers : ∀ ids, TidyAnswers answer ids) (shape : Shape)
    {other : Shape} (tidy : shape.isTidy = true) (tidy' : other.isTidy = true)
    (same : shape.equal other = true) :
    (shape.fillBy answer).equal (other.fillBy answer) = true := by
  cases shape with
  | seq elem =>
      cases other with
      | tuple => cases same
      | seq elem' => exact TyUnion.fillBy_equal tidyAnswers elem tidy tidy' same
  | tuple elems =>
      cases other with
      | seq => cases same
      | tuple elems' => exact TyUnion.fillAllBy_equal tidyAnswers elems tidy tidy' same
termination_by structural shape

theorem Ty.fillBy_equal_of_mem (tidyAnswers : ∀ ids, TidyAnswers answer ids) (types : List Ty)
    (tidy : ∀ ty ∈ types, ty.isTidy = true) :
    ∀ ty ∈ types, ∀ {other : Ty}, other.isTidy = true → ty.equal other = true →
      (ty.fillBy answer).equal (other.fillBy answer) = true := by
  cases types with
  | nil => nofun
  | cons ty rest =>
      obtain ⟨tidyHere, tidyLater⟩ := List.forall_mem_cons.mp tidy
      exact List.forall_mem_cons.mpr ⟨fun tidy' same => Ty.fillBy_equal tidyAnswers ty tidyHere tidy' same,
        Ty.fillBy_equal_of_mem tidyAnswers rest tidyLater⟩
termination_by structural types

theorem TyUnion.fillAllBy_equal (tidyAnswers : ∀ ids, TidyAnswers answer ids) (unions : List TyUnion)
    {others : List TyUnion} (tidy : TyUnion.allTidy unions = true) (tidy' : TyUnion.allTidy others = true)
    (same : TyUnion.equalAll unions others = true) :
    TyUnion.equalAll (TyUnion.fillAllBy answer unions) (TyUnion.fillAllBy answer others) = true := by
  cases unions with
  | nil =>
      cases others with
      | nil => rfl
      | cons => cases same
  | cons union rest =>
      cases others with
      | nil => cases same
      | cons other others =>
          rw [TyUnion.allTidy, Bool.and_eq_true] at tidy tidy'
          rw [TyUnion.equalAll, Bool.and_eq_true] at same
          rw [TyUnion.fillAllBy, TyUnion.fillAllBy, TyUnion.equalAll, Bool.and_eq_true]
          exact ⟨TyUnion.fillBy_equal tidyAnswers union tidy.1 tidy'.1 same.1,
            TyUnion.fillAllBy_equal tidyAnswers rest tidy.2 tidy'.2 same.2⟩
termination_by structural unions

end

/-- What a filled union contains, said of everything that the union contains. -/
theorem TyUnion.contains_fillBy_iff (tidyAnswers : ∀ ids, TidyAnswers answer ids) {union : TyUnion}
    (tidy : union.isTidy = true) {ty : Ty} :
    (union.fillBy answer).contains ty = true ↔
      ∃ other : Ty, other.isTidy = true ∧ union.contains other = true ∧
        ty.equal (other.fillBy answer) = true := by
  have tidyMembers := (TyUnion.isTidy_iff.mp tidy).2
  rw [TyUnion.contains_fillBy]
  constructor
  · rintro ⟨member, inUnion, here⟩
    exact ⟨member, tidyMembers member inUnion, TyUnion.contains_of_mem inUnion, here⟩
  · rintro ⟨other, tidyOther, held, here⟩
    obtain ⟨member, inUnion, same⟩ := TyUnion.contains_iff.mp held
    exact ⟨member, inUnion, ty.equal_trans here
      (other.fillBy_equal tidyAnswers tidyOther (tidyMembers member inUnion) same)⟩

end Congruence

/-! ### Operations before and after -/

section Operations

variable {answer : ArrayId → Option Shape}

namespace TyUnion

theorem fillBy_singleton (ty : Ty) : (singleton ty).fillBy answer = singleton (ty.fillBy answer) := rfl

theorem fillBy_insert (tidyAnswers : ∀ ids, TidyAnswers answer ids) {union : TyUnion} {ty : Ty}
    (tidy : union.isTidy = true) (tidyTy : ty.isTidy = true) :
    ((union.insert ty).fillBy answer).equal ((union.fillBy answer).insert (ty.fillBy answer)) = true := by
  have tidyInsert := isTidy_insert tidy tidyTy
  rw [equal_iff_contains (isTidy_fillBy _ tidyInsert (tidyAnswers _))
    (isTidy_insert (isTidy_fillBy _ tidy (tidyAnswers _)) (ty.isTidy_fillBy tidyTy (tidyAnswers _)))]
  intro found
  rw [contains_fillBy_iff tidyAnswers tidyInsert, contains_insert, contains_fillBy_iff tidyAnswers tidy]
  constructor
  · rintro ⟨other, tidyOther, held, here⟩
    rcases contains_insert.mp held with before | same
    · exact .inl ⟨other, tidyOther, before, here⟩
    · exact .inr (found.equal_trans here (other.fillBy_equal tidyAnswers tidyOther tidyTy same))
  · rintro (⟨other, tidyOther, held, here⟩ | here)
    · exact ⟨other, tidyOther, contains_insert.mpr (.inl held), here⟩
    · exact ⟨ty, tidyTy, contains_insert_self union ty, here⟩

theorem fillBy_join (tidyAnswers : ∀ ids, TidyAnswers answer ids) {first second : TyUnion}
    (tidy : first.isTidy = true) (tidy' : second.isTidy = true) :
    ((first.join second).fillBy answer).equal ((first.fillBy answer).join (second.fillBy answer)) = true := by
  have tidyJoin := isTidy_join tidy tidy'
  rw [equal_iff_contains (isTidy_fillBy _ tidyJoin (tidyAnswers _))
    (isTidy_join (isTidy_fillBy _ tidy (tidyAnswers _)) (isTidy_fillBy _ tidy' (tidyAnswers _)))]
  intro found
  rw [contains_join, contains_fillBy_iff tidyAnswers tidyJoin, contains_fillBy_iff tidyAnswers tidy,
    contains_fillBy_iff tidyAnswers tidy']
  simp only [contains_join, or_and_right, and_or_left, exists_or]

end TyUnion

namespace Shape

theorem fillBy_elements (tidyAnswers : ∀ ids, TidyAnswers answer ids) {shape : Shape}
    (tidy : shape.isTidy = true) :
    (shape.elements.fillBy answer).equal (shape.fillBy answer).elements = true := by
  have tidyElements := isTidy_elements tidy
  have tidyFilled := isTidy_elements (shape.isTidy_fillBy tidy (tidyAnswers _))
  cases shape with
  | seq elem => exact TyUnion.equal_self _
  | tuple elems =>
      have tidyElems := TyUnion.allTidy_iff.mp tidy
      rw [TyUnion.equal_iff_contains (TyUnion.isTidy_fillBy _ tidyElements (tidyAnswers _)) tidyFilled]
      intro found
      rw [TyUnion.contains_fillBy_iff tidyAnswers tidyElements, fillBy, contains_elements_tuple,
        TyUnion.fillAllBy_eq_map]
      constructor
      · rintro ⟨other, tidyOther, held, here⟩
        obtain ⟨union, inElems, inUnion⟩ := contains_elements_tuple.mp held
        exact ⟨union.fillBy answer, List.mem_map_of_mem inElems,
          (TyUnion.contains_fillBy_iff tidyAnswers (tidyElems union inElems)).mpr
            ⟨other, tidyOther, inUnion, here⟩⟩
      · rintro ⟨filled, inFilled, held⟩
        obtain ⟨union, inElems, rfl⟩ := List.mem_map.mp inFilled
        obtain ⟨other, tidyOther, inUnion, here⟩ :=
          (TyUnion.contains_fillBy_iff tidyAnswers (tidyElems union inElems)).mp held
        exact ⟨other, tidyOther, contains_elements_tuple.mpr ⟨union, inElems, inUnion⟩, here⟩

theorem fillBy_read (tidyAnswers : ∀ ids, TidyAnswers answer ids) {shape : Shape}
    (tidy : shape.isTidy = true) (core : CoreClasses) (index : Option Nat) :
    ((shape.read core index).fillBy answer).equal ((shape.fillBy answer).read core index) = true := by
  cases shape with
  | seq elem => exact TyUnion.equal_self _
  | tuple elems =>
      cases index with
      | none => exact fillBy_elements tidyAnswers tidy
      | some position =>
          -- The union of nil, read beyond the end, has no array to fill in.
          have same : (elems.getD position core.nilUnion).fillBy answer =
              (elems.map (TyUnion.fillBy answer)).getD position core.nilUnion := by
            rw [List.getD_eq_getElem?_getD, List.getD_eq_getElem?_getD, List.getElem?_map]
            cases elems[position]? <;> rfl
          show ((elems.getD position core.nilUnion).fillBy answer).equal
            ((TyUnion.fillAllBy answer elems).getD position core.nilUnion) = true
          rw [TyUnion.fillAllBy_eq_map, same]
          exact TyUnion.equal_self _

/-- A shape that gathers one more type, filled before and after. -/
theorem fillBy_gathered (tidyAnswers : ∀ ids, TidyAnswers answer ids) {shape : Shape} {ty : Ty}
    (tidy : shape.isTidy = true) (tidyTy : ty.isTidy = true) :
    ((shape.elements.insert ty).fillBy answer).equal
      ((shape.fillBy answer).elements.insert (ty.fillBy answer)) = true := by
  have tidyElements := isTidy_elements tidy
  have tidyFilledTy := ty.isTidy_fillBy tidyTy (tidyAnswers _)
  refine TyUnion.equal_trans _ (TyUnion.fillBy_insert tidyAnswers tidyElements tidyTy) ?_
  exact TyUnion.insert_equal (TyUnion.isTidy_fillBy _ tidyElements (tidyAnswers _))
    (isTidy_elements (shape.isTidy_fillBy tidy (tidyAnswers _))) tidyFilledTy tidyFilledTy
    (fillBy_elements tidyAnswers tidy) (Ty.equal_self _)

theorem fillBy_write (tidyAnswers : ∀ ids, TidyAnswers answer ids) {shape : Shape} {ty : Ty}
    (tidy : shape.isTidy = true) (tidyTy : ty.isTidy = true) (index : Option Nat) :
    ((shape.write index ty).fillBy answer).equal
      ((shape.fillBy answer).write index (ty.fillBy answer)) = true := by
  have gathered := fillBy_gathered tidyAnswers tidy tidyTy
  cases shape with
  | seq elem => exact gathered
  | tuple elems =>
      cases index with
      | none => exact gathered
      | some position =>
          have length : (TyUnion.fillAllBy answer elems).length = elems.length := by
            rw [TyUnion.fillAllBy_eq_map, List.length_map]
          simp only [fillBy, write, length]
          split
          · simp only [fillBy, TyUnion.fillAllBy_eq_map, List.map_set, TyUnion.fillBy_singleton]
            exact Shape.equal_self _
          · exact gathered

/-- Two shapes that are joined as sequences, filled before and after. -/
theorem fillBy_joinElements (tidyAnswers : ∀ ids, TidyAnswers answer ids) {first second : Shape}
    (tidy : first.isTidy = true) (tidy' : second.isTidy = true) :
    ((first.elements.join second.elements).fillBy answer).equal
      ((first.fillBy answer).elements.join (second.fillBy answer).elements) = true := by
  have tidyFirst := isTidy_elements tidy
  have tidySecond := isTidy_elements tidy'
  refine TyUnion.equal_trans _ (TyUnion.fillBy_join tidyAnswers tidyFirst tidySecond) ?_
  exact TyUnion.join_equal (TyUnion.isTidy_fillBy _ tidyFirst (tidyAnswers _))
    (isTidy_elements (first.isTidy_fillBy tidy (tidyAnswers _)))
    (TyUnion.isTidy_fillBy _ tidySecond (tidyAnswers _))
    (isTidy_elements (second.isTidy_fillBy tidy' (tidyAnswers _)))
    (fillBy_elements tidyAnswers tidy) (fillBy_elements tidyAnswers tidy')

/-- Tuples that are joined position by position, filled before and after. -/
theorem fillAllBy_zipWith_join (tidyAnswers : ∀ ids, TidyAnswers answer ids)
    {first second : List TyUnion} (tidy : TyUnion.allTidy first = true)
    (tidy' : TyUnion.allTidy second = true) :
    TyUnion.equalAll (TyUnion.fillAllBy answer (List.zipWith TyUnion.join first second))
      (List.zipWith TyUnion.join (TyUnion.fillAllBy answer first) (TyUnion.fillAllBy answer second)) =
        true := by
  induction first generalizing second with
  | nil => rfl
  | cons union rest ih =>
      cases second with
      | nil => rfl
      | cons other others =>
          rw [TyUnion.allTidy, Bool.and_eq_true] at tidy tidy'
          rw [List.zipWith_cons_cons, TyUnion.fillAllBy, TyUnion.fillAllBy, TyUnion.fillAllBy,
            List.zipWith_cons_cons, TyUnion.equalAll, Bool.and_eq_true]
          exact ⟨TyUnion.fillBy_join tidyAnswers tidy.1 tidy'.1, ih tidy.2 tidy'.2⟩

theorem fillBy_join (tidyAnswers : ∀ ids, TidyAnswers answer ids) {first second : Shape}
    (tidy : first.isTidy = true) (tidy' : second.isTidy = true) :
    ((first.join second).fillBy answer).equal ((first.fillBy answer).join (second.fillBy answer)) = true := by
  have gathered := fillBy_joinElements tidyAnswers tidy tidy'
  cases first with
  | seq elem => cases second <;> exact gathered
  | tuple elems =>
      cases second with
      | seq elem => exact gathered
      | tuple elems' =>
          have length (unions : List TyUnion) :
              (TyUnion.fillAllBy answer unions).length = unions.length := by
            rw [TyUnion.fillAllBy_eq_map, List.length_map]
          simp only [fillBy, join, length]
          split
          · exact fillAllBy_zipWith_join tidyAnswers tidy tidy'
          · exact gathered

end Shape

end Operations

end TypeLattice
