/-
**Hashing agrees with equality.**

A class feeds its id alone to a hash function, and a union its size and the sum of the digests of its
members. The members of equal unions can be put in one order in which they are alike one by one; their
digests are then the same one by one, and a sum that wraps around does not see the order.

* `Ty.digestSum_eq_of_perm`: the order of types has no say in the sum of their digests;
* `Ty.Alike.words_eq` and the like: values that are alike feed the same words;
* `Ty.equalByBucket`, `TyUnion.containsByBucket`, `TyUnion.ofListByBucket`: equality, membership and
  collection where a type is compared only with the members in its own bucket;
* `Ty.equalByBucket_eq`, `TyUnion.containsByBucket_eq`, `TyUnion.ofListByBucket_eq`: nothing is missed;
* `hashing_agrees_with_equality`: the four kinds of value, and the buckets.
-/

import TypeLattice.Proofs.Types.Structural

namespace TypeLattice

/-! ### Values that are alike feed the same words -/

/-- **The order of types has no say in the sum of their digests.** -/
theorem Ty.digestSum_eq_of_perm (digest : Digest) {first second : List Ty}
    (reordered : first.Perm second) :
    Ty.digestSum digest first = Ty.digestSum digest second := by
  induction reordered with
  | nil => rfl
  | cons ty _ ih => rw [Ty.digestSum, Ty.digestSum, ih]
  | swap ty other rest =>
      simp only [Ty.digestSum]
      rw [← UInt64.add_assoc, ← UInt64.add_assoc, UInt64.add_comm (digest _)]
  | trans _ _ ih ih' => exact ih.trans ih'

theorem TyUnion.AllAlike.length_eq {first second : List TyUnion} (alike : TyUnion.AllAlike first second) :
    first.length = second.length :=
  (TyUnion.equalAll_iff_forall₂.mp alike.equalAll).length_eq

section Words

variable (digest : Digest)

mutual

/-- **Types that are alike feed the same words.** -/
theorem Ty.Alike.words_eq {first second : Ty} (alike : Ty.Alike first second) :
    first.words digest = second.words digest := by
  cases alike with
  | any | code => rfl
  | classObject ids => rw [Ty.words, Ty.words, ids]
  | instanceOf inner => rw [Ty.words, Ty.words, inner.words_eq]
  | closure block frame inner => rw [Ty.words, Ty.words, inner.words_eq]
  | typedClosure params result inner =>
      rw [Ty.words, Ty.words, params.length_eq, params.wordsAll_eq, result.words_eq, inner.words_eq]
  | literal value inner => rw [Ty.words, Ty.words, inner.words_eq]
  | localArray id inner => rw [Ty.words, Ty.words, inner.words_eq]
  | array shape inner => rw [Ty.words, Ty.words, shape.words_eq, inner.words_eq]

theorem TyUnion.Alike.words_eq {first second : TyUnion} (alike : TyUnion.Alike first second) :
    first.words digest = second.words digest := by
  cases alike with
  | @reordered members partners others all reordering =>
      -- Member and partner have one digest; only after that are the partners put in order.
      have sizes : members.length = others.length :=
        all.forall₂_equal.length_eq.trans reordering.length_eq
      have sums : Ty.digestSum digest members = Ty.digestSum digest others :=
        all.digestSum_eq.trans (Ty.digestSum_eq_of_perm digest reordering)
      rw [TyUnion.words, TyUnion.words, sizes, sums]

theorem Shape.Alike.words_eq {first second : Shape} (alike : Shape.Alike first second) :
    first.words digest = second.words digest := by
  cases alike with
  | seq elem => rw [Shape.words, Shape.words, elem.words_eq]
  | tuple elems => rw [Shape.words, Shape.words, elems.length_eq, elems.wordsAll_eq]

theorem Ty.AllAlike.digestSum_eq {first second : List Ty} (alike : Ty.AllAlike first second) :
    Ty.digestSum digest first = Ty.digestSum digest second := by
  cases alike with
  | nil => rfl
  | cons here later => rw [Ty.digestSum, Ty.digestSum, here.words_eq, later.digestSum_eq]

theorem TyUnion.AllAlike.wordsAll_eq {first second : List TyUnion}
    (alike : TyUnion.AllAlike first second) :
    TyUnion.wordsAll digest first = TyUnion.wordsAll digest second := by
  cases alike with
  | nil => rfl
  | cons here later => rw [TyUnion.wordsAll, TyUnion.wordsAll, here.words_eq, later.wordsAll_eq]

end

/-- Arguments that are alike one by one feed the same words one after the other. -/
theorem Ty.flatMap_words_eq {first second : List Ty} (alike : List.Forall₂ Ty.Alike first second) :
    first.flatMap (Ty.words digest) = second.flatMap (Ty.words digest) := by
  induction alike with
  | nil => rfl
  | cons here _ ih => rw [List.flatMap_cons, List.flatMap_cons, here.words_eq, ih]

theorem Signature.optionWords_eq {first second : Option Ty} (alike : Option.Rel Ty.Alike first second) :
    optionWords digest first = optionWords digest second := by
  cases alike with
  | none => rfl
  | some inner => rw [optionWords, optionWords, inner.words_eq]

theorem Signature.Alike.words_eq {first second : Signature} (alike : first.Alike second) :
    first.words digest = second.words digest := by
  rw [words, words, alike.receiver.words_eq, alike.isSingleton, alike.member, alike.args.length_eq,
    Ty.flatMap_words_eq digest alike.args, optionWords_eq digest alike.block]

end Words

/-! ### Equality by look-ups in buckets -/

section Buckets

variable (digest : Digest) (bucketOf : List HashWord → Nat)

/-- Whether two types are in one bucket, where `bucketOf` gives the bucket for the words of a type. -/
def Ty.sharesBucket (first second : Ty) : Bool :=
  bucketOf (first.words digest) == bucketOf (second.words digest)

mutual

/-- Equality of types, where a member of a union is compared only with those in its bucket. -/
def Ty.equalByBucket : Ty → Ty → Bool
  | .any, .any => true
  | .classObject first, .classObject second => first == second
  | .instanceOf first, .instanceOf second => first.equalByBucket second
  | .code first, .code second => first == second
  | .closure code frame underlying, .closure code' frame' underlying' =>
    code == code' && frame == frame' && underlying.equalByBucket underlying'
  | .typedClosure params result underlying, .typedClosure params' result' underlying' =>
    TyUnion.equalAllByBucket params params' && result.equalByBucket result' &&
      underlying.equalByBucket underlying'
  | .literal value base, .literal value' base' => value == value' && base.equalByBucket base'
  | .localArray id base, .localArray id' base' => id == id' && base.equalByBucket base'
  | .array shape base, .array shape' base' => shape.equalByBucket shape' && base.equalByBucket base'
  | _, _ => false
termination_by structural first => first

/-- Equality of unions as sets, by look-ups in buckets. -/
def TyUnion.equalByBucket : TyUnion → TyUnion → Bool
  | ⟨first⟩, ⟨second⟩ => first.length == second.length && Ty.allAmongByBucket first second
termination_by structural first => first

/-- Equality of shapes, position by position. -/
def Shape.equalByBucket : Shape → Shape → Bool
  | .seq first, .seq second => first.equalByBucket second
  | .tuple first, .tuple second => TyUnion.equalAllByBucket first second
  | _, _ => false
termination_by structural first => first

/-- Whether each type of the first list has an equal one in its bucket of the second. -/
def Ty.allAmongByBucket : List Ty → List Ty → Bool
  | [], _ => true
  | ty :: rest, others =>
    others.any (fun other => ty.sharesBucket digest bucketOf other && ty.equalByBucket other) &&
      Ty.allAmongByBucket rest others
termination_by structural first => first

/-- Equality of lists of unions, position by position. -/
def TyUnion.equalAllByBucket : List TyUnion → List TyUnion → Bool
  | [], [] => true
  | first :: rest, second :: rest' => first.equalByBucket second && TyUnion.equalAllByBucket rest rest'
  | _, _ => false
termination_by structural first => first

end

variable {digest bucketOf}

/-- **Equal types share a bucket.** -/
theorem Ty.sharesBucket_of_equal {first second : Ty} (tidy : first.isTidy = true)
    (tidy' : second.isTidy = true) (same : first.equal second = true) :
    first.sharesBucket digest bucketOf second = true := by
  rw [sharesBucket, (first.alike_of_equal tidy tidy' same).words_eq digest, beq_self_eq_true]

/-- A search that passes over the other buckets finds an equal where there is one. That the comparison
decides equality is assumed here, since it is proved together with what this lemma is for. -/
theorem Ty.any_sharesBucket_eq {ty : Ty} {others : List Ty} (tidy : ty.isTidy = true)
    (tidy' : ∀ other ∈ others, other.isTidy = true)
    (decides : ∀ other ∈ others, ty.equalByBucket digest bucketOf other = ty.equal other) :
    (others.any fun other =>
        ty.sharesBucket digest bucketOf other && ty.equalByBucket digest bucketOf other) =
      others.any fun other => ty.equal other := by
  rw [Bool.eq_iff_iff, List.any_eq_true, List.any_eq_true]
  refine exists_congr fun other => and_congr_right fun member => ?_
  rw [decides other member, Bool.and_eq_true]
  exact ⟨And.right, fun same => ⟨sharesBucket_of_equal tidy (tidy' other member) same, same⟩⟩

mutual

/-- **Equality by look-ups in buckets is equality.** -/
theorem Ty.equalByBucket_eq (first : Ty) {second : Ty} (tidy : first.isTidy = true)
    (tidy' : second.isTidy = true) :
    first.equalByBucket digest bucketOf second = first.equal second := by
  cases first with
  | any => cases second <;> rfl
  | classObject cls => cases second <;> rfl
  | code id => cases second <;> rfl
  | instanceOf cls =>
      cases second with
      | instanceOf cls' => exact cls.equalByBucket_eq tidy tidy'
      | _ => rfl
  | closure block frame underlying =>
      cases second with
      | closure block' frame' underlying' =>
          rw [Ty.isTidy] at tidy tidy'
          rw [Ty.equalByBucket, Ty.equal, underlying.equalByBucket_eq tidy tidy']
      | _ => rfl
  | typedClosure params result underlying =>
      cases second with
      | typedClosure params' result' underlying' =>
          rw [Ty.isTidy, Bool.and_eq_true, Bool.and_eq_true] at tidy tidy'
          rw [Ty.equalByBucket, Ty.equal, TyUnion.equalAllByBucket_eq params tidy.1.1 tidy'.1.1,
            result.equalByBucket_eq tidy.1.2 tidy'.1.2, underlying.equalByBucket_eq tidy.2 tidy'.2]
      | _ => rfl
  | literal value base =>
      cases second with
      | literal value' base' =>
          rw [Ty.isTidy] at tidy tidy'
          rw [Ty.equalByBucket, Ty.equal, base.equalByBucket_eq tidy tidy']
      | _ => rfl
  | localArray id base =>
      cases second with
      | localArray id' base' =>
          rw [Ty.isTidy] at tidy tidy'
          rw [Ty.equalByBucket, Ty.equal, base.equalByBucket_eq tidy tidy']
      | _ => rfl
  | array shape base =>
      cases second with
      | array shape' base' =>
          rw [Ty.isTidy, Bool.and_eq_true] at tidy tidy'
          rw [Ty.equalByBucket, Ty.equal, shape.equalByBucket_eq tidy.1 tidy'.1,
            base.equalByBucket_eq tidy.2 tidy'.2]
      | _ => rfl
termination_by structural first

theorem TyUnion.equalByBucket_eq (first : TyUnion) {second : TyUnion} (tidy : first.isTidy = true)
    (tidy' : second.isTidy = true) :
    first.equalByBucket digest bucketOf second = first.equal second := by
  obtain ⟨members⟩ := first
  obtain ⟨others⟩ := second
  have tidyMembers := (TyUnion.isTidy_iff.mp tidy).2
  have tidyOthers := (TyUnion.isTidy_iff.mp tidy').2
  rw [TyUnion.equalByBucket, TyUnion.equal, Ty.allAmongByBucket_eq members tidyMembers tidyOthers]
termination_by structural first

theorem Shape.equalByBucket_eq (first : Shape) {second : Shape} (tidy : first.isTidy = true)
    (tidy' : second.isTidy = true) :
    first.equalByBucket digest bucketOf second = first.equal second := by
  cases first with
  | seq elem =>
      cases second with
      | tuple => rfl
      | seq elem' => exact elem.equalByBucket_eq tidy tidy'
  | tuple elems =>
      cases second with
      | seq => rfl
      | tuple elems' => exact TyUnion.equalAllByBucket_eq elems tidy tidy'
termination_by structural first

theorem Ty.allAmongByBucket_eq (first : List Ty) {second : List Ty}
    (tidy : ∀ ty ∈ first, ty.isTidy = true) (tidy' : ∀ ty ∈ second, ty.isTidy = true) :
    Ty.allAmongByBucket digest bucketOf first second = Ty.allAmong first second := by
  cases first with
  | nil => rfl
  | cons ty rest =>
      obtain ⟨here, later⟩ := List.forall_mem_cons.mp tidy
      have decides : ∀ other ∈ second, ty.equalByBucket digest bucketOf other = ty.equal other :=
        fun other member => ty.equalByBucket_eq here (tidy' other member)
      rw [Ty.allAmongByBucket, Ty.allAmong, Ty.any_sharesBucket_eq here tidy' decides,
        Ty.allAmongByBucket_eq rest later tidy']
termination_by structural first

theorem TyUnion.equalAllByBucket_eq (first : List TyUnion) {second : List TyUnion}
    (tidy : TyUnion.allTidy first = true) (tidy' : TyUnion.allTidy second = true) :
    TyUnion.equalAllByBucket digest bucketOf first second = TyUnion.equalAll first second := by
  cases first with
  | nil => cases second <;> rfl
  | cons union rest =>
      cases second with
      | nil => rfl
      | cons other others =>
          rw [TyUnion.allTidy, Bool.and_eq_true] at tidy tidy'
          rw [TyUnion.equalAllByBucket, TyUnion.equalAll, union.equalByBucket_eq tidy.1 tidy'.1,
            TyUnion.equalAllByBucket_eq rest tidy.2 tidy'.2]
termination_by structural first

end

/-! ### Unions collected by bucket -/

namespace TyUnion

variable (digest bucketOf)

/-- Whether a type has an equal in its bucket. -/
def containsByBucket (union : TyUnion) (ty : Ty) : Bool :=
  union.members.any fun member =>
    ty.sharesBucket digest bucketOf member && ty.equalByBucket digest bucketOf member

/-- The union with `ty` added at the end, unless an equal member is in its bucket. -/
def insertByBucket (union : TyUnion) (ty : Ty) : TyUnion :=
  if union.containsByBucket digest bucketOf ty then union else ⟨union.members ++ [ty]⟩

/-- The union of the given types, each compared only with those in its bucket. -/
def ofListByBucket (types : List Ty) : TyUnion := types.foldl (insertByBucket digest bucketOf) empty

variable {digest bucketOf} {union : TyUnion} {ty : Ty}

/-- **No equal member is in another bucket.** -/
theorem containsByBucket_eq (tidy : union.isTidy = true) (tidyType : ty.isTidy = true) :
    union.containsByBucket digest bucketOf ty = union.contains ty := by
  have tidyMembers := (isTidy_iff.mp tidy).2
  exact Ty.any_sharesBucket_eq tidyType tidyMembers fun member isMember =>
    ty.equalByBucket_eq tidyType (tidyMembers member isMember)

theorem insertByBucket_eq (tidy : union.isTidy = true) (tidyType : ty.isTidy = true) :
    union.insertByBucket digest bucketOf ty = union.insert ty := by
  rw [insertByBucket, containsByBucket_eq tidy tidyType, insert]

theorem foldl_insertByBucket_eq (types : List Ty) (tidy : union.isTidy = true)
    (tidyTypes : ∀ ty ∈ types, ty.isTidy = true) :
    types.foldl (insertByBucket digest bucketOf) union = types.foldl insert union := by
  induction types generalizing union with
  | nil => rfl
  | cons ty rest ih =>
      obtain ⟨here, later⟩ := List.forall_mem_cons.mp tidyTypes
      rw [List.foldl_cons, List.foldl_cons, insertByBucket_eq tidy here]
      exact ih (isTidy_insert tidy here) later

/-- **Types collected by bucket are collected right.** -/
theorem ofListByBucket_eq {types : List Ty} (tidyTypes : ∀ ty ∈ types, ty.isTidy = true) :
    ofListByBucket digest bucketOf types = ofList types :=
  foldl_insertByBucket_eq types rfl tidyTypes

end TyUnion

end Buckets

/-! ### The theorem -/

/-- **Hashing agrees with equality.** Let no union hold two equal members, at any depth. Equal types,
unions, shapes and signatures feed a hash function the same words, with whatever function the members of
their unions are digested. So equal types share a bucket, however the buckets are numbered, and a set
that compares a type only with the members in its bucket misses nothing: unions compared, searched and
collected in this way, at every depth, are compared, searched and collected as sets. -/
theorem hashing_agrees_with_equality (digest : Digest) :
    (∀ first second : Ty, first.isTidy = true → second.isTidy = true → (first == second) = true →
      first.words digest = second.words digest) ∧
    (∀ first second : TyUnion, first.isTidy = true → second.isTidy = true → (first == second) = true →
      first.words digest = second.words digest) ∧
    (∀ first second : Shape, first.isTidy = true → second.isTidy = true → (first == second) = true →
      first.words digest = second.words digest) ∧
    (∀ first second : Signature, first.isTidy = true → second.isTidy = true → (first == second) = true →
      first.words digest = second.words digest) ∧
    ∀ bucketOf : List HashWord → Nat,
      (∀ first second : TyUnion, first.isTidy = true → second.isTidy = true →
        first.equalByBucket digest bucketOf second = (first == second)) ∧
      (∀ (union : TyUnion) (ty : Ty), union.isTidy = true → ty.isTidy = true →
        union.containsByBucket digest bucketOf ty = union.contains ty) ∧
      ∀ types : List Ty, (∀ ty ∈ types, ty.isTidy = true) →
        TyUnion.ofListByBucket digest bucketOf types = TyUnion.ofList types := by
  refine ⟨fun first second tidy tidy' same => ?_, fun first second tidy tidy' same => ?_,
    fun first second tidy tidy' same => ?_, fun first second tidy tidy' same => ?_, fun bucketOf => ?_⟩
  · exact (first.alike_of_equal tidy tidy' same).words_eq digest
  · exact (first.alike_of_equal tidy tidy' same).words_eq digest
  · exact (first.alike_of_equal tidy tidy' same).words_eq digest
  · have built := Signature.constructed_iff.mpr tidy
    have built' := Signature.constructed_iff.mpr tidy'
    exact ((Signature.beq_iff_alike built built').mp same).words_eq digest
  · exact ⟨fun first second => first.equalByBucket_eq, fun union ty => TyUnion.containsByBucket_eq,
      fun types => TyUnion.ofListByBucket_eq⟩

/-- An array of integers or anything is an array of anything or numbers, since numbers are integers under
another name. Calls with the one or the other feed the same words, and of the two a union keeps the first,
however buckets are numbered. -/
theorem hashing_agrees_with_equality_renamed :
    let integer := Ty.ofClass ⟨⟨3⟩, some "Integer"⟩
    let number := Ty.ofClass ⟨⟨3⟩, some "Number"⟩
    let first := Ty.array (.seq ⟨[integer, .any]⟩) .any
    let second := Ty.array (.seq ⟨[.any, number]⟩) .any
    let call : Signature := ⟨first, false, ⟨0⟩, [.typedClosure [⟨[first, .code ⟨1⟩]⟩] .empty .any], none⟩
    let call' : Signature := ⟨second, false, ⟨0⟩, [.typedClosure [⟨[.code ⟨1⟩, second]⟩] .empty .any], none⟩
    call.isTidy = true ∧ call'.isTidy = true ∧ (call == call') = true ∧
      ∀ digest bucketOf, call.words digest = call'.words digest ∧
        TyUnion.ofListByBucket digest bucketOf [first, .any, second] = ⟨[first, .any]⟩ := by
  intro integer number first second call call'
  refine ⟨rfl, rfl, rfl, fun digest bucketOf => ?_⟩
  obtain ⟨-, -, -, signatures, buckets⟩ := hashing_agrees_with_equality digest
  refine ⟨signatures call call' rfl rfl rfl, (buckets bucketOf).2.2 [first, .any, second] ?_⟩
  exact List.forall_mem_cons.mpr ⟨rfl, List.forall_mem_cons.mpr ⟨rfl, List.forall_mem_singleton.mpr rfl⟩⟩

end TypeLattice
