/-
**Unions are sets in the order of first sight.**

Which types a union holds is told up to equality, and equality looks at neither names nor order. So it
matters which of several equal types is kept, and where it stands.

* `Ty.firstSeen`: the types of a list that have no equal before them;
* `members_ofList`: a union made from a list has exactly these members, in this order;
* `Constructed.apart`: no two members of a union are equal;
* `join_eq_ofList`: a join puts the new members of the second union after those of the first, unless
  the first lies within the second;
* `join_is_ordered_set_union`: with the laws of a join.
-/

import Mathlib.Data.List.Induction
import TypeLattice.Proofs.Types.Interchange

namespace TypeLattice

/-! ### The first of equal types -/

namespace Ty

/-- The types of a list that have no equal before them, in the order of the list. -/
def firstSeen (types : List Ty) : List Ty :=
  (types.zipIdx.filter fun (ty, place) =>
    !(types.take place).any fun earlier => ty == earlier).map Prod.fst

/-- What follows a type in the list has no say in whether it is kept. -/
theorem firstSeen_concat (types : List Ty) (ty : Ty) :
    firstSeen (types ++ [ty]) =
      if types.any (fun earlier => ty == earlier) then firstSeen types else firstSeen types ++ [ty] := by
  have before : ∀ placed ∈ types.zipIdx,
      (!((types ++ [ty]).take placed.2).any fun earlier => placed.1 == earlier) =
        !(types.take placed.2).any fun earlier => placed.1 == earlier := by
    intro placed listed
    have inside : placed.2 < types.length := List.snd_lt_of_mem_zipIdx listed
    rw [List.take_append_of_le_length (Nat.le_of_lt inside)]
  unfold firstSeen
  rw [List.zipIdx_append, List.filter_append, List.map_append, List.filter_congr before]
  by_cases known : types.any (fun earlier => ty == earlier) = true <;> simp [known]

end Ty

namespace TyUnion

variable {first second third union : TyUnion} {types : List Ty}

theorem ofList_concat (types : List Ty) (ty : Ty) : ofList (types ++ [ty]) = (ofList types).insert ty :=
  List.foldl_concat insert empty ty types

/-- **Of equal types the first is kept**, where it was first seen. -/
theorem members_ofList (types : List Ty) : (ofList types).members = Ty.firstSeen types := by
  induction types using List.reverseRecOn with
  | nil => rfl
  | append_singleton types ty ih =>
      -- A type is compared with the members only, and each earlier type has an equal among them.
      have known : (ofList types).contains ty = types.any fun earlier => ty == earlier := by
        rw [Bool.eq_iff_iff, contains_ofList_iff, List.any_eq_true]
        rfl
      rw [ofList_concat, insert, Ty.firstSeen_concat, known, ← ih]
      split <;> rfl

/-! ### Members are apart -/

theorem Constructed.members (built : union.Constructed) : ∀ ty ∈ union.members, ty.Constructed :=
  fun ty member => Ty.constructed_iff.mpr ((isTidy_iff.mp built.isTidy).2 ty member)

/-- **No two members of a union are equal**, whichever of them is asked. -/
theorem Constructed.apart (built : union.Constructed) :
    union.members.Pairwise fun earlier later =>
      (earlier == later) = false ∧ (later == earlier) = false := by
  obtain ⟨apart, tidy⟩ := isTidy_iff.mp built.isTidy
  refine apart.imp_of_mem fun {earlier later} member member' differs => ?_
  have differs' : ¬ earlier.equal later = true := fun same =>
    differs (earlier.equal_symm (tidy earlier member) (tidy later member') same)
  exact ⟨Bool.eq_false_iff.mpr differs', Bool.eq_false_iff.mpr differs⟩

/-! ### Joins -/

/-- The members of a union make that union. -/
theorem Constructed.ofList_members (built : union.Constructed) :
    TyUnion.ofList union.members = union := by
  obtain ⟨members⟩ := union
  exact ofList_of_areApart (Ty.areApart_iff_pairwise.mpr (isTidy_iff.mp built.isTidy).1)

/-- Types that a union contains add nothing to it. -/
theorem foldl_insert_of_contains (held : ∀ ty ∈ types, union.contains ty = true) :
    types.foldl insert union = union := by
  induction types with
  | nil => rfl
  | cons ty rest ih =>
      obtain ⟨here, later⟩ := List.forall_mem_cons.mp held
      rw [List.foldl_cons, insert, if_pos here]
      exact ih later

/-- **The order of a join.** The new members of the second union stand after those of the first. Only a
first union that lies within a larger second one gives way to it. -/
theorem join_eq_ofList (built : first.Constructed)
    (keeps : second.isWithin first = true ∨ first.isWithin second = false) :
    first.join second = ofList (first.members ++ second.members) := by
  by_cases within : second.isWithin first = true
  · have held : ∀ ty ∈ second.members, first.contains ty = true :=
      fun ty member => isWithin_iff.mp within ty (contains_of_mem member)
    calc first.join second = first := if_pos within
      _ = second.members.foldl insert first := (foldl_insert_of_contains held).symm
      _ = second.members.foldl insert (ofList first.members) := by rw [built.ofList_members]
      _ = ofList (first.members ++ second.members) := List.foldl_append.symm
  · have larger : ¬ first.isWithin second = true := by
      rw [keeps.resolve_left within]
      exact Bool.false_ne_true
    rw [join, if_neg within, if_neg larger]

/-- **A join holds what the members of both hold together**, whichever way it takes. -/
theorem same_ofList_join (built : first.Constructed) (built' : second.Constructed) :
    (first.join second).Same (ofList (first.members ++ second.members)) := by
  have members : ∀ ty ∈ first.members ++ second.members, ty.Constructed :=
    List.forall_mem_append.mpr ⟨built.members, built'.members⟩
  refine same_of_contains_iff (.join built built') (.ofList members) fun ty => ?_
  rw [contains_join, contains_ofList_iff, contains_iff, contains_iff]
  simp only [List.mem_append, or_and_right, exists_or]

theorem same_join_comm (built : first.Constructed) (built' : second.Constructed) :
    (first.join second).Same (second.join first) :=
  same_of_contains_iff (.join built built') (.join built' built) fun ty => by
    rw [contains_join, contains_join, or_comm]

theorem same_join_assoc (built : first.Constructed) (built' : second.Constructed)
    (built'' : third.Constructed) :
    ((first.join second).join third).Same (first.join (second.join third)) :=
  same_of_contains_iff (.join (.join built built') built'') (.join built (.join built' built''))
    fun ty => by rw [contains_join, contains_join, contains_join, contains_join, or_assoc]

theorem join_self (union : TyUnion) : union.join union = union :=
  if_pos (isWithin_self union)

theorem join_empty (union : TyUnion) : union.join empty = union :=
  if_pos rfl

theorem empty_join (union : TyUnion) : empty.join union = union := by
  obtain ⟨members⟩ := union
  cases members with
  | nil => rfl
  | cons ty rest => rfl

/-- **Unions are finite sets in the order of first sight, and `join` is their union.**

* No two members of a union made by the operations are equal, and at no depth are there two;
* a union made from a list has exactly the first of each class of equal types, in the order of the list,
  and so has one made by inserting the types one by one;
* a join contains a type exactly when one of the sides does. It is the union of the members of the first
  followed by those of the second, and has this very order unless the first lies within a larger second;
* up to equality `join` is commutative and associative, and it is idempotent with `empty` as identity. -/
theorem join_is_ordered_set_union :
    (∀ union : TyUnion, union.Constructed →
      union.isTidy = true ∧ union.members.Pairwise fun earlier later =>
        (earlier == later) = false ∧ (later == earlier) = false) ∧
    (∀ types : List Ty, (ofList types).members = Ty.firstSeen types ∧
      (types.foldl insert empty).members = Ty.firstSeen types) ∧
    (∀ (first second : TyUnion) (ty : Ty), (first.join second).contains ty = true ↔
      first.contains ty = true ∨ second.contains ty = true) ∧
    (∀ first second : TyUnion, first.Constructed → second.Constructed →
      (first.join second).Same (ofList (first.members ++ second.members)) ∧
      (second.isWithin first = true ∨ first.isWithin second = false →
        first.join second = ofList (first.members ++ second.members)) ∧
      (first.join second).Same (second.join first)) ∧
    (∀ first second third : TyUnion, first.Constructed → second.Constructed → third.Constructed →
      ((first.join second).join third).Same (first.join (second.join third))) ∧
    ∀ union : TyUnion, union.join union = union ∧ union.join empty = union ∧ empty.join union = union := by
  refine ⟨fun union built => ⟨built.isTidy, built.apart⟩,
    fun types => ⟨members_ofList types, members_ofList types⟩, fun first second ty => contains_join,
    fun first second built built' => ?_, fun first second third => same_join_assoc,
    fun union => ⟨join_self union, join_empty union, empty_join union⟩⟩
  exact ⟨same_ofList_join built built', join_eq_ofList built, same_join_comm built built'⟩

/-- Integers joined with anything or numbers, which is another name for integers: the second union is
kept as it is, in its own order and under its own name. -/
theorem join_is_ordered_set_union_renamed :
    let integer := Ty.ofClass ⟨⟨3⟩, some "Integer"⟩
    let number := Ty.ofClass ⟨⟨3⟩, some "Number"⟩
    let one := singleton integer
    let two : TyUnion := ⟨[.any, number]⟩
    one.Constructed ∧ two.Constructed ∧
      one.join two = two ∧ ofList (one.members ++ two.members) = ⟨[integer, .any]⟩ ∧
      (one.join two).Same (ofList (one.members ++ two.members)) := by
  intro integer number one two
  have built : one.Constructed := constructed_iff.mpr rfl
  have built' : two.Constructed := constructed_iff.mpr rfl
  obtain ⟨-, -, -, joins, -⟩ := join_is_ordered_set_union
  exact ⟨built, built', rfl, rfl, (joins one two built built').1⟩

end TyUnion

end TypeLattice
