/-
**Equality and the members of unions.**

* `Ty.equal_self`, `TyUnion.equal_self`, `Shape.equal_self`: every value is equal to itself;
* `TyUnion.contains_ofList`, `TyUnion.mem_of_mem_ofList`: a union made from a list of types holds an
  equal of each of them, and nothing but them;
* `isTidy`: no union in a value holds two equal members. Every operation that builds unions keeps
  its members apart, so these are the values that occur;
* `TyUnion.ofList_of_areApart`: types that are apart are collected as they stand.
-/

import TypeLattice.TyUnion

namespace TypeLattice

/-! ### Every value is equal to itself -/

mutual

theorem Ty.equal_self (ty : Ty) : ty.equal ty = true := by
  cases ty with
  | any => rfl
  | classObject cls => exact beq_self_eq_true cls.id
  | code id => exact beq_self_eq_true id
  | instanceOf cls => exact Ty.equal_self cls
  | closure code frame underlying =>
      simp only [Ty.equal, beq_self_eq_true, Ty.equal_self underlying, Bool.and_self]
  | typedClosure params result underlying =>
      simp only [Ty.equal, TyUnion.equalAll_self params, TyUnion.equal_self result,
        Ty.equal_self underlying, Bool.and_self]
  | literal value base => simp only [Ty.equal, beq_self_eq_true, Ty.equal_self base, Bool.and_self]
  | localArray id base => simp only [Ty.equal, beq_self_eq_true, Ty.equal_self base, Bool.and_self]
  | array shape base => simp only [Ty.equal, Shape.equal_self shape, Ty.equal_self base, Bool.and_self]

theorem TyUnion.equal_self (union : TyUnion) : union.equal union = true := by
  obtain ⟨members⟩ := union
  simp only [TyUnion.equal, beq_self_eq_true, Bool.true_and]
  exact Ty.allAmong_of_subset members members fun _ member => member

theorem Shape.equal_self (shape : Shape) : shape.equal shape = true := by
  cases shape with
  | seq elem => exact TyUnion.equal_self elem
  | tuple elems => exact TyUnion.equalAll_self elems

/-- Types that are all in a list have their equals there: themselves. -/
theorem Ty.allAmong_of_subset (types others : List Ty) (within : ∀ ty ∈ types, ty ∈ others) :
    Ty.allAmong types others = true := by
  cases types with
  | nil => rfl
  | cons ty rest =>
      rw [Ty.allAmong, Bool.and_eq_true, List.any_eq_true]
      exact ⟨⟨ty, within ty List.mem_cons_self, Ty.equal_self ty⟩,
        Ty.allAmong_of_subset rest others fun other member =>
          within other (List.mem_cons_of_mem ty member)⟩

theorem TyUnion.equalAll_self (unions : List TyUnion) : TyUnion.equalAll unions unions = true := by
  cases unions with
  | nil => rfl
  | cons union rest =>
      simp only [TyUnion.equalAll, TyUnion.equal_self union, TyUnion.equalAll_self rest, Bool.and_self]

end

instance : ReflBEq Ty := ⟨Ty.equal_self _⟩

instance : ReflBEq TyUnion := ⟨TyUnion.equal_self _⟩

instance : ReflBEq Shape := ⟨Shape.equal_self _⟩

/-! ### Collecting types -/

namespace TyUnion

/-- A union contains the types that are its members. -/
theorem contains_of_mem {union : TyUnion} {ty : Ty} (member : ty ∈ union.members) :
    union.contains ty = true :=
  List.any_eq_true.mpr ⟨ty, member, beq_self_eq_true ty⟩

theorem contains_insert_self (union : TyUnion) (ty : Ty) : (union.insert ty).contains ty = true := by
  unfold insert
  split
  · assumption
  · exact contains_of_mem (List.mem_append_right _ List.mem_cons_self)

theorem contains_insert_of_contains {union : TyUnion} {ty : Ty} (held : union.contains ty = true)
    (other : Ty) : (union.insert other).contains ty = true := by
  unfold insert
  split
  · exact held
  · rw [contains, List.any_append, Bool.or_eq_true]
    exact .inl held

theorem mem_of_mem_insert {union : TyUnion} {ty other : Ty}
    (member : ty ∈ (union.insert other).members) :
    ty ∈ union.members ∨ ty = other := by
  unfold insert at member
  split at member
  · exact .inl member
  · exact (List.mem_append.mp member).imp_right List.mem_singleton.mp

/-- Adding types one after the other keeps what is there and takes in an equal of each of them. -/
theorem contains_foldl_insert (types : List Ty) (union : TyUnion) (ty : Ty)
    (held : union.contains ty = true ∨ ty ∈ types) :
    (types.foldl insert union).contains ty = true := by
  induction types generalizing union with
  | nil =>
      rcases held with held | member
      · exact held
      · cases member
  | cons first rest ih =>
      rw [List.foldl_cons]
      apply ih
      rcases held with held | member
      · exact .inl (contains_insert_of_contains held first)
      · rcases List.mem_cons.mp member with rfl | later
        · exact .inl (contains_insert_self union ty)
        · exact .inr later

theorem mem_of_mem_foldl_insert (types : List Ty) (union : TyUnion) (ty : Ty)
    (member : ty ∈ (types.foldl insert union).members) : ty ∈ union.members ∨ ty ∈ types := by
  induction types generalizing union with
  | nil => exact .inl member
  | cons first rest ih =>
      rcases ih (union.insert first) member with held | later
      · rcases mem_of_mem_insert held with held | rfl
        · exact .inl held
        · exact .inr List.mem_cons_self
      · exact .inr (List.mem_cons_of_mem first later)

/-- A union made from a list contains each type of the list. -/
theorem contains_ofList {types : List Ty} {ty : Ty} (member : ty ∈ types) :
    (ofList types).contains ty = true :=
  contains_foldl_insert types empty ty (.inr member)

/-- A union made from a list has members from the list only. -/
theorem mem_of_mem_ofList {types : List Ty} {ty : Ty} (member : ty ∈ (ofList types).members) :
    ty ∈ types := by
  rcases mem_of_mem_foldl_insert types empty ty member with held | found
  · cases held
  · exact found

end TyUnion

/-! ### Values without equal members -/

/-- No type of the list is equal to one before it. -/
def Ty.areApart : List Ty → Bool
  | [] => true
  | ty :: rest => rest.all (fun later => !(later == ty)) && Ty.areApart rest

mutual

/-- No union in a type holds two equal members. -/
def Ty.isTidy : Ty → Bool
  | .any | .classObject _ | .code _ => true
  | .instanceOf cls => cls.isTidy
  | .closure _ _ underlying => underlying.isTidy
  | .typedClosure params result underlying =>
    TyUnion.allTidy params && result.isTidy && underlying.isTidy
  | .literal _ base | .localArray _ base => base.isTidy
  | .array shape base => shape.isTidy && base.isTidy
termination_by structural ty => ty

/-- No two members are equal, and each member is tidy. -/
def TyUnion.isTidy : TyUnion → Bool
  | ⟨members⟩ => Ty.areApart members && Ty.allTidy members
termination_by structural union => union

/-- All unions of a shape are tidy. -/
def Shape.isTidy : Shape → Bool
  | .seq elem => elem.isTidy
  | .tuple elems => TyUnion.allTidy elems
termination_by structural shape => shape

/-- All the types are tidy. -/
def Ty.allTidy : List Ty → Bool
  | [] => true
  | ty :: rest => ty.isTidy && Ty.allTidy rest
termination_by structural types => types

/-- All the unions are tidy. -/
def TyUnion.allTidy : List TyUnion → Bool
  | [] => true
  | union :: rest => union.isTidy && TyUnion.allTidy rest
termination_by structural unions => unions

end

namespace TyUnion

theorem foldl_insert_of_areApart (types : List Ty) (seen : List Ty)
    (apart : Ty.areApart types = true)
    (new : ∀ ty ∈ types, (TyUnion.mk seen).contains ty = false) :
    types.foldl insert ⟨seen⟩ = ⟨seen ++ types⟩ := by
  induction types generalizing seen with
  | nil => rw [List.foldl_nil, List.append_nil]
  | cons first rest ih =>
      simp only [Ty.areApart, Bool.and_eq_true, List.all_eq_true] at apart
      have added : insert ⟨seen⟩ first = ⟨seen ++ [first]⟩ := by
        rw [insert, new first List.mem_cons_self]
        rfl
      rw [List.foldl_cons, added, ih (seen ++ [first]) apart.2, List.append_assoc,
        List.singleton_append]
      intro ty member
      have unseen := new ty (List.mem_cons_of_mem first member)
      have different := apart.1 ty member
      rw [Bool.not_eq_true'] at different
      rw [contains] at unseen ⊢
      rw [List.any_append, unseen, List.any_cons, different, List.any_nil]
      rfl

/-- **Types that are apart are collected as they stand.** -/
theorem ofList_of_areApart {types : List Ty} (apart : Ty.areApart types = true) :
    ofList types = ⟨types⟩ :=
  foldl_insert_of_areApart types [] apart fun _ _ => rfl

end TyUnion

end TypeLattice
