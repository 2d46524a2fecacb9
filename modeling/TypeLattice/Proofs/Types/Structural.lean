/-
**Equality up to names and order.**

Values are built by the constructors of types and shapes and by the operations on unions. Equality tells
two such values apart exactly when they differ in more than the names of their classes and the order
of their members, at any depth.

* `Ty.Constructed`, `TyUnion.Constructed`, `Shape.Constructed`, `Signature.Constructed`: the values that
  the constructors and operations give;
* `Ty.constructed_iff` and the like: they are the values in which no union holds two equal members;
* `Ty.Alike`, `TyUnion.Alike`, `Shape.Alike`, `Signature.Alike`: the values that are the same up to
  names and order. Nothing is counted or looked up here: members are put in another order;
* `Ty.equal_iff_alike` and the like: equality is likeness, on constructed values;
* `equality_is_structural`: equality is an equivalence that ignores names and order, and two unions are
  equal when each member of one has an equal in the other.
-/

import TypeLattice.Signature
import TypeLattice.Proofs.Types.Equivalence

namespace TypeLattice

/-! ### Constructed values -/

mutual

/-- A type made by the constructors, from constructed parts. -/
inductive Ty.Constructed : Ty → Prop
  | any : Ty.Constructed .any
  | classObject (cls : ClassRef) : Ty.Constructed (.classObject cls)
  | instanceOf {cls : Ty} : Ty.Constructed cls → Ty.Constructed (.instanceOf cls)
  | code (id : CodeId) : Ty.Constructed (.code id)
  | closure (block : CodeId) (frame : FrameId) {underlying : Ty} :
      Ty.Constructed underlying → Ty.Constructed (.closure block frame underlying)
  | typedClosure {params : List TyUnion} {result : TyUnion} {underlying : Ty} :
      (∀ param ∈ params, TyUnion.Constructed param) → TyUnion.Constructed result →
      Ty.Constructed underlying → Ty.Constructed (.typedClosure params result underlying)
  | literal (value : Constant) {base : Ty} : Ty.Constructed base → Ty.Constructed (.literal value base)
  | localArray (id : ArrayId) {base : Ty} : Ty.Constructed base → Ty.Constructed (.localArray id base)
  | array {shape : Shape} {base : Ty} :
      Shape.Constructed shape → Ty.Constructed base → Ty.Constructed (.array shape base)

/-- A union made by the operations on unions, or taken from a shape. -/
inductive TyUnion.Constructed : TyUnion → Prop
  | empty : TyUnion.Constructed .empty
  | singleton {ty : Ty} : Ty.Constructed ty → TyUnion.Constructed (.singleton ty)
  | ofList {types : List Ty} : (∀ ty ∈ types, Ty.Constructed ty) → TyUnion.Constructed (.ofList types)
  | insert {union : TyUnion} {ty : Ty} :
      TyUnion.Constructed union → Ty.Constructed ty → TyUnion.Constructed (union.insert ty)
  | join {first second : TyUnion} :
      TyUnion.Constructed first → TyUnion.Constructed second → TyUnion.Constructed (first.join second)
  | elements {shape : Shape} : Shape.Constructed shape → TyUnion.Constructed shape.elements
  | read {shape : Shape} (core : CoreClasses) (index : Option Nat) :
      Shape.Constructed shape → TyUnion.Constructed (shape.read core index)

/-- A shape made of constructed unions, written to or joined with others. -/
inductive Shape.Constructed : Shape → Prop
  | seq {elem : TyUnion} : TyUnion.Constructed elem → Shape.Constructed (.seq elem)
  | tuple {elems : List TyUnion} :
      (∀ elem ∈ elems, TyUnion.Constructed elem) → Shape.Constructed (.tuple elems)
  | write {shape : Shape} (index : Option Nat) {ty : Ty} :
      Shape.Constructed shape → Ty.Constructed ty → Shape.Constructed (shape.write index ty)
  | join {first second : Shape} :
      Shape.Constructed first → Shape.Constructed second → Shape.Constructed (first.join second)

end

theorem TyUnion.isTidy_singleton {ty : Ty} (tidy : ty.isTidy = true) :
    (TyUnion.singleton ty).isTidy = true :=
  TyUnion.isTidy_iff.mpr ⟨List.pairwise_singleton _ ty, fun other isTy => by
    rwa [List.mem_singleton.mp isTy]⟩

mutual

theorem Ty.Constructed.isTidy : ∀ {ty : Ty}, Ty.Constructed ty → ty.isTidy = true
  | _, .any | _, .classObject _ | _, .code _ => rfl
  | _, .instanceOf inner | _, .closure _ _ inner => inner.isTidy
  | _, .literal _ inner | _, .localArray _ inner => inner.isTidy
  | _, .typedClosure params result inner => by
      rw [Ty.isTidy, Bool.and_eq_true, Bool.and_eq_true, TyUnion.allTidy_iff]
      exact ⟨⟨fun param member => (params param member).isTidy, result.isTidy⟩, inner.isTidy⟩
  | _, .array shape inner => by
      rw [Ty.isTidy, Bool.and_eq_true]
      exact ⟨shape.isTidy, inner.isTidy⟩

theorem TyUnion.Constructed.isTidy : ∀ {union : TyUnion}, TyUnion.Constructed union → union.isTidy = true
  | _, .empty => rfl
  | _, .singleton inner => TyUnion.isTidy_singleton inner.isTidy
  | _, .ofList all => TyUnion.isTidy_ofList fun ty member => (all ty member).isTidy
  | _, .insert before inner => TyUnion.isTidy_insert before.isTidy inner.isTidy
  | _, .join first second => TyUnion.isTidy_join first.isTidy second.isTidy
  | _, .elements shape => Shape.isTidy_elements shape.isTidy
  | _, .read core index shape => Shape.isTidy_read shape.isTidy core index

theorem Shape.Constructed.isTidy : ∀ {shape : Shape}, Shape.Constructed shape → shape.isTidy = true
  | _, .seq elem => elem.isTidy
  | _, .tuple elems => TyUnion.allTidy_iff.mpr fun elem member => (elems elem member).isTidy
  | _, .write index before inner => Shape.isTidy_write before.isTidy inner.isTidy index
  | _, .join first second => Shape.isTidy_join first.isTidy second.isTidy

end

mutual

theorem Ty.constructed_of_isTidy (ty : Ty) (tidy : ty.isTidy = true) : ty.Constructed := by
  cases ty with
  | any => exact .any
  | classObject cls => exact .classObject cls
  | code id => exact .code id
  | instanceOf cls => exact .instanceOf (cls.constructed_of_isTidy tidy)
  | closure block frame underlying => exact .closure block frame (underlying.constructed_of_isTidy tidy)
  | typedClosure params result underlying =>
      rw [Ty.isTidy, Bool.and_eq_true, Bool.and_eq_true] at tidy
      exact .typedClosure (TyUnion.constructed_of_allTidy params tidy.1.1)
        (result.constructed_of_isTidy tidy.1.2) (underlying.constructed_of_isTidy tidy.2)
  | literal value base => exact .literal value (base.constructed_of_isTidy tidy)
  | localArray id base => exact .localArray id (base.constructed_of_isTidy tidy)
  | array shape base =>
      rw [Ty.isTidy, Bool.and_eq_true] at tidy
      exact .array (shape.constructed_of_isTidy tidy.1) (base.constructed_of_isTidy tidy.2)
termination_by structural ty

/-- Members that are apart are what is collected from them. -/
theorem TyUnion.constructed_of_isTidy (union : TyUnion) (tidy : union.isTidy = true) :
    union.Constructed := by
  obtain ⟨members⟩ := union
  rw [TyUnion.isTidy, Bool.and_eq_true] at tidy
  rw [← TyUnion.ofList_of_areApart tidy.1]
  exact .ofList (Ty.constructed_of_allTidy members tidy.2)
termination_by structural union

theorem Shape.constructed_of_isTidy (shape : Shape) (tidy : shape.isTidy = true) :
    shape.Constructed := by
  cases shape with
  | seq elem => exact .seq (elem.constructed_of_isTidy tidy)
  | tuple elems => exact .tuple (TyUnion.constructed_of_allTidy elems tidy)
termination_by structural shape

theorem Ty.constructed_of_allTidy (types : List Ty) (tidy : Ty.allTidy types = true) :
    ∀ ty ∈ types, ty.Constructed := by
  cases types with
  | nil => nofun
  | cons ty rest =>
      rw [Ty.allTidy, Bool.and_eq_true] at tidy
      exact List.forall_mem_cons.mpr
        ⟨ty.constructed_of_isTidy tidy.1, Ty.constructed_of_allTidy rest tidy.2⟩
termination_by structural types

theorem TyUnion.constructed_of_allTidy (unions : List TyUnion) (tidy : TyUnion.allTidy unions = true) :
    ∀ union ∈ unions, union.Constructed := by
  cases unions with
  | nil => nofun
  | cons union rest =>
      rw [TyUnion.allTidy, Bool.and_eq_true] at tidy
      exact List.forall_mem_cons.mpr
        ⟨union.constructed_of_isTidy tidy.1, TyUnion.constructed_of_allTidy rest tidy.2⟩
termination_by structural unions

end

/-- **The constructed types are those without equal members in a union.** -/
theorem Ty.constructed_iff {ty : Ty} : ty.Constructed ↔ ty.isTidy = true :=
  ⟨Ty.Constructed.isTidy, ty.constructed_of_isTidy⟩

theorem TyUnion.constructed_iff {union : TyUnion} : union.Constructed ↔ union.isTidy = true :=
  ⟨TyUnion.Constructed.isTidy, union.constructed_of_isTidy⟩

theorem Shape.constructed_iff {shape : Shape} : shape.Constructed ↔ shape.isTidy = true :=
  ⟨Shape.Constructed.isTidy, shape.constructed_of_isTidy⟩

/-! ### Likeness -/

mutual

/-- Types built alike, up to the names of classes and the order of members. -/
inductive Ty.Alike : Ty → Ty → Prop
  | any : Ty.Alike .any .any
  | classObject {cls cls' : ClassRef} : cls.id = cls'.id → Ty.Alike (.classObject cls) (.classObject cls')
  | instanceOf {cls cls' : Ty} : Ty.Alike cls cls' → Ty.Alike (.instanceOf cls) (.instanceOf cls')
  | code (id : CodeId) : Ty.Alike (.code id) (.code id)
  | closure (block : CodeId) (frame : FrameId) {underlying underlying' : Ty} :
      Ty.Alike underlying underlying' →
      Ty.Alike (.closure block frame underlying) (.closure block frame underlying')
  | typedClosure {params params' : List TyUnion} {result result' : TyUnion} {underlying underlying' : Ty} :
      TyUnion.AllAlike params params' → TyUnion.Alike result result' → Ty.Alike underlying underlying' →
      Ty.Alike (.typedClosure params result underlying) (.typedClosure params' result' underlying')
  | literal (value : Constant) {base base' : Ty} :
      Ty.Alike base base' → Ty.Alike (.literal value base) (.literal value base')
  | localArray (id : ArrayId) {base base' : Ty} :
      Ty.Alike base base' → Ty.Alike (.localArray id base) (.localArray id base')
  | array {shape shape' : Shape} {base base' : Ty} :
      Shape.Alike shape shape' → Ty.Alike base base' → Ty.Alike (.array shape base) (.array shape' base')

/-- Unions whose members are alike one by one, once those of the second are put in another order. -/
inductive TyUnion.Alike : TyUnion → TyUnion → Prop
  | reordered {members partners others : List Ty} :
      Ty.AllAlike members partners → partners.Perm others → TyUnion.Alike ⟨members⟩ ⟨others⟩

/-- Shapes of one kind whose unions are alike, position by position. -/
inductive Shape.Alike : Shape → Shape → Prop
  | seq {elem elem' : TyUnion} : TyUnion.Alike elem elem' → Shape.Alike (.seq elem) (.seq elem')
  | tuple {elems elems' : List TyUnion} :
      TyUnion.AllAlike elems elems' → Shape.Alike (.tuple elems) (.tuple elems')

/-- Types that are alike one by one. -/
inductive Ty.AllAlike : List Ty → List Ty → Prop
  | nil : Ty.AllAlike [] []
  | cons {ty ty' : Ty} {rest rest' : List Ty} :
      Ty.Alike ty ty' → Ty.AllAlike rest rest' → Ty.AllAlike (ty :: rest) (ty' :: rest')

/-- Unions that are alike one by one. -/
inductive TyUnion.AllAlike : List TyUnion → List TyUnion → Prop
  | nil : TyUnion.AllAlike [] []
  | cons {union union' : TyUnion} {rest rest' : List TyUnion} :
      TyUnion.Alike union union' → TyUnion.AllAlike rest rest' →
      TyUnion.AllAlike (union :: rest) (union' :: rest')

end

mutual

/-- **Types that are alike are equal.** -/
theorem Ty.Alike.equal {first second : Ty} (alike : Ty.Alike first second) :
    first.equal second = true := by
  rw [Ty.equal_iff_matches]
  cases alike with
  | any => rfl
  | classObject ids => exact ⟨_, rfl, ids⟩
  | instanceOf inner => exact ⟨_, rfl, inner.equal⟩
  | code => rfl
  | closure block frame inner => exact ⟨_, rfl, inner.equal⟩
  | typedClosure params result inner =>
      exact ⟨_, _, _, rfl, params.equalAll, result.equal, inner.equal⟩
  | literal value inner => exact ⟨_, rfl, inner.equal⟩
  | localArray id inner => exact ⟨_, rfl, inner.equal⟩
  | array shape inner => exact ⟨_, _, rfl, shape.equal, inner.equal⟩

theorem TyUnion.Alike.equal {first second : TyUnion} (alike : TyUnion.Alike first second) :
    first.equal second = true := by
  cases alike with
  | reordered all reordering =>
      have matching := all.forall₂_equal
      refine TyUnion.equal_iff.mpr ⟨matching.length_eq.trans reordering.length_eq, fun ty member => ?_⟩
      obtain ⟨partner, inPartners, same⟩ := exists_of_mem_matching matching.flip ty member
      exact ⟨partner, reordering.mem_iff.mp inPartners, same⟩

theorem Shape.Alike.equal {first second : Shape} (alike : Shape.Alike first second) :
    first.equal second = true := by
  cases alike with
  | seq elem => exact elem.equal
  | tuple elems => exact elems.equalAll

theorem Ty.AllAlike.forall₂_equal {first second : List Ty} (alike : Ty.AllAlike first second) :
    List.Forall₂ (fun ty other => ty.equal other = true) first second := by
  cases alike with
  | nil => exact .nil
  | cons here later => exact .cons here.equal later.forall₂_equal

theorem TyUnion.AllAlike.equalAll {first second : List TyUnion} (alike : TyUnion.AllAlike first second) :
    TyUnion.equalAll first second = true := by
  cases alike with
  | nil => rfl
  | cons here later =>
      rw [TyUnion.equalAll, Bool.and_eq_true]
      exact ⟨here.equal, later.equalAll⟩

end

/-- The members of equal tidy unions are matched one by one, in some order. -/
theorem TyUnion.exists_reordering {first second : TyUnion} (tidy : first.isTidy = true)
    (tidy' : second.isTidy = true) (same : first.equal second = true) :
    ∃ partners : List Ty, partners.Perm second.members ∧
      List.Forall₂ (fun ty other => other ∈ second.members ∧ ty.equal other = true)
        first.members partners := by
  obtain ⟨size, within⟩ := TyUnion.equal_iff.mp same
  obtain ⟨apart, tidyMembers⟩ := TyUnion.isTidy_iff.mp tidy
  have tidyOthers := (TyUnion.isTidy_iff.mp tidy').2
  have unshared := Ty.pairwise_unshared apart fun ty member other member' =>
    ty.equal_symm (tidyMembers ty member) (tidyOthers other member')
  obtain ⟨partners, others, matching, reordered⟩ := exists_matching unshared fun ty member => by
    obtain ⟨other, inSecond, same⟩ := within ty member
    exact ⟨other, inSecond, inSecond, same⟩
  -- The unions have one size, so no member of the second is left over.
  have sizes := reordered.length_eq
  rw [List.length_append, ← matching.length_eq, ← size] at sizes
  obtain rfl : others = [] := List.eq_nil_of_length_eq_zero (by omega)
  rw [List.append_nil] at reordered
  exact ⟨partners, reordered, matching⟩

mutual

/-- **Equal tidy types are alike.** -/
theorem Ty.alike_of_equal (first : Ty) {second : Ty} (tidy : first.isTidy = true)
    (tidy' : second.isTidy = true) (same : first.equal second = true) : first.Alike second := by
  rw [Ty.equal_iff_matches] at same
  cases first with
  | any =>
      obtain rfl := same
      exact .any
  | code id =>
      obtain rfl := same
      exact .code id
  | classObject cls =>
      obtain ⟨cls', rfl, ids⟩ := same
      exact .classObject ids
  | instanceOf cls =>
      obtain ⟨cls', rfl, inner⟩ := same
      exact .instanceOf (cls.alike_of_equal tidy tidy' inner)
  | closure block frame underlying =>
      obtain ⟨underlying', rfl, inner⟩ := same
      exact .closure block frame (underlying.alike_of_equal tidy tidy' inner)
  | typedClosure params result underlying =>
      obtain ⟨params', result', underlying', rfl, forParams, forResult, inner⟩ := same
      rw [Ty.isTidy, Bool.and_eq_true, Bool.and_eq_true] at tidy tidy'
      exact .typedClosure (TyUnion.allAlike_of_equalAll params tidy.1.1 tidy'.1.1 forParams)
        (result.alike_of_equal tidy.1.2 tidy'.1.2 forResult)
        (underlying.alike_of_equal tidy.2 tidy'.2 inner)
  | literal value base =>
      obtain ⟨base', rfl, inner⟩ := same
      exact .literal value (base.alike_of_equal tidy tidy' inner)
  | localArray id base =>
      obtain ⟨base', rfl, inner⟩ := same
      exact .localArray id (base.alike_of_equal tidy tidy' inner)
  | array shape base =>
      obtain ⟨shape', base', rfl, forShape, inner⟩ := same
      rw [Ty.isTidy, Bool.and_eq_true] at tidy tidy'
      exact .array (shape.alike_of_equal tidy.1 tidy'.1 forShape)
        (base.alike_of_equal tidy.2 tidy'.2 inner)
termination_by structural first

theorem TyUnion.alike_of_equal (first : TyUnion) {second : TyUnion} (tidy : first.isTidy = true)
    (tidy' : second.isTidy = true) (same : first.equal second = true) : first.Alike second := by
  obtain ⟨partners, reordered, matching⟩ := TyUnion.exists_reordering tidy tidy' same
  have tidyOthers := (TyUnion.isTidy_iff.mp tidy').2
  obtain ⟨members⟩ := first
  obtain ⟨others⟩ := second
  have tidyMembers := (TyUnion.isTidy_iff.mp tidy).2
  refine .reordered (Ty.allAlike_of_forall₂ members tidyMembers ?_) reordered
  exact matching.imp fun ty other here => ⟨tidyOthers other here.1, here.2⟩
termination_by structural first

theorem Shape.alike_of_equal (first : Shape) {second : Shape} (tidy : first.isTidy = true)
    (tidy' : second.isTidy = true) (same : first.equal second = true) : first.Alike second := by
  cases first with
  | seq elem =>
      cases second with
      | tuple => cases same
      | seq elem' => exact .seq (elem.alike_of_equal tidy tidy' same)
  | tuple elems =>
      cases second with
      | seq => cases same
      | tuple elems' => exact .tuple (TyUnion.allAlike_of_equalAll elems tidy tidy' same)
termination_by structural first

theorem Ty.allAlike_of_forall₂ (first : List Ty) {second : List Ty}
    (tidy : ∀ ty ∈ first, ty.isTidy = true)
    (matching : List.Forall₂ (fun ty other => other.isTidy = true ∧ ty.equal other = true) first second) :
    Ty.AllAlike first second := by
  cases first with
  | nil =>
      cases matching
      exact .nil
  | cons ty rest =>
      obtain ⟨other, others, here, later, rfl⟩ := List.forall₂_cons_left_iff.mp matching
      obtain ⟨tidyHere, tidyLater⟩ := List.forall_mem_cons.mp tidy
      exact .cons (ty.alike_of_equal tidyHere here.1 here.2) (Ty.allAlike_of_forall₂ rest tidyLater later)
termination_by structural first

theorem TyUnion.allAlike_of_equalAll (first : List TyUnion) {second : List TyUnion}
    (tidy : TyUnion.allTidy first = true) (tidy' : TyUnion.allTidy second = true)
    (same : TyUnion.equalAll first second = true) : TyUnion.AllAlike first second := by
  cases first with
  | nil =>
      cases second with
      | nil => exact .nil
      | cons => cases same
  | cons union rest =>
      cases second with
      | nil => cases same
      | cons other others =>
          rw [TyUnion.allTidy, Bool.and_eq_true] at tidy tidy'
          rw [TyUnion.equalAll, Bool.and_eq_true] at same
          exact .cons (union.alike_of_equal tidy.1 tidy'.1 same.1)
            (TyUnion.allAlike_of_equalAll rest tidy.2 tidy'.2 same.2)
termination_by structural first

end

/-- **Equality of constructed types is likeness.** -/
theorem Ty.equal_iff_alike {first second : Ty} (built : first.Constructed) (built' : second.Constructed) :
    first.equal second = true ↔ first.Alike second :=
  ⟨first.alike_of_equal built.isTidy built'.isTidy, Ty.Alike.equal⟩

theorem TyUnion.equal_iff_alike {first second : TyUnion} (built : first.Constructed)
    (built' : second.Constructed) : first.equal second = true ↔ first.Alike second :=
  ⟨first.alike_of_equal built.isTidy built'.isTidy, TyUnion.Alike.equal⟩

theorem Shape.equal_iff_alike {first second : Shape} (built : first.Constructed)
    (built' : second.Constructed) : first.equal second = true ↔ first.Alike second :=
  ⟨first.alike_of_equal built.isTidy built'.isTidy, Shape.Alike.equal⟩

/-! ### Signatures -/

theorem Ty.listBeq_iff {first second : List Ty} :
    (first == second) = true ↔ List.Forall₂ (fun ty other => ty.equal other = true) first second := by
  induction first generalizing second with
  | nil => cases second <;> simp
  | cons ty rest ih =>
      cases second with
      | nil => simp
      | cons other others =>
          rw [List.cons_beq_cons, Bool.and_eq_true, ih, List.forall₂_cons]
          rfl

theorem Ty.optionBeq_iff {first second : Option Ty} :
    (first == second) = true ↔ Option.Rel (fun ty other => ty.equal other = true) first second := by
  cases first with
  | none =>
      cases second with
      | none => exact ⟨fun _ => .none, fun _ => rfl⟩
      | some other => exact ⟨nofun, nofun⟩
  | some ty =>
      cases second with
      | none => exact ⟨nofun, nofun⟩
      | some other => exact ⟨fun same => .some same, fun (.some same) => same⟩

/-- Relations that agree on the elements of two lists relate the lists alike. -/
theorem forall₂_congr {α : Type} {holds holds' : α → α → Prop} {first second : List α}
    (agree : ∀ a ∈ first, ∀ b ∈ second, holds a b → holds' a b)
    (all : List.Forall₂ holds first second) : List.Forall₂ holds' first second := by
  rw [List.forall₂_iff_zip] at all ⊢
  refine ⟨all.1, fun {a b} paired => ?_⟩
  obtain ⟨inFirst, inSecond⟩ := List.of_mem_zip paired
  exact agree a inFirst b inSecond (all.2 paired)

theorem forall₂_trans {α : Type} {holds : α → α → Prop}
    (trans : ∀ a b c, holds a b → holds b c → holds a c) {first second third : List α}
    (all : List.Forall₂ holds first second) (all' : List.Forall₂ holds second third) :
    List.Forall₂ holds first third := by
  induction all generalizing third with
  | nil => exact all'
  | cons here _ ih =>
      obtain ⟨_, _, there, later, rfl⟩ := List.forall₂_cons_left_iff.mp all'
      exact .cons (trans _ _ _ here there) (ih later)

theorem optionRel_congr {α : Type} {holds holds' : α → α → Prop} {first second : Option α}
    (agree : ∀ a ∈ first, ∀ b ∈ second, holds a b → holds' a b)
    (all : Option.Rel holds first second) : Option.Rel holds' first second := by
  cases all with
  | none => exact .none
  | some here => exact .some (agree _ rfl _ rfl here)

theorem optionRel_flip {α : Type} {holds : α → α → Prop} {first second : Option α}
    (all : Option.Rel (fun a b => holds b a) first second) : Option.Rel holds second first := by
  cases all with
  | none => exact .none
  | some here => exact .some here

theorem optionRel_trans {α : Type} {holds : α → α → Prop}
    (trans : ∀ a b c, holds a b → holds b c → holds a c) {first second third : Option α}
    (all : Option.Rel holds first second) (all' : Option.Rel holds second third) :
    Option.Rel holds first third := by
  cases all with
  | none => exact all'
  | some here =>
      cases all' with
      | some there => exact .some (trans _ _ _ here there)

namespace Signature

/-- A signature of constructed types. -/
structure Constructed (signature : Signature) : Prop where
  receiver : signature.receiver.Constructed
  args : ∀ arg ∈ signature.args, arg.Constructed
  block : ∀ block ∈ signature.block, block.Constructed

/-- No union in a signature holds two equal members. -/
def isTidy (signature : Signature) : Bool :=
  signature.receiver.isTidy && Ty.allTidy signature.args && signature.block.all Ty.isTidy

theorem constructed_iff {signature : Signature} : signature.Constructed ↔ signature.isTidy = true := by
  rw [isTidy, Bool.and_eq_true, Bool.and_eq_true, Ty.allTidy_iff, Option.all_eq_true]
  constructor
  · intro built
    exact ⟨⟨built.receiver.isTidy, fun arg member => (built.args arg member).isTidy⟩,
      fun block isBlock => (built.block block isBlock).isTidy⟩
  · rintro ⟨⟨receiver, args⟩, block⟩
    exact ⟨Ty.constructed_iff.mpr receiver, fun arg member => Ty.constructed_iff.mpr (args arg member),
      fun found isBlock => Ty.constructed_iff.mpr (block found isBlock)⟩

/-- Calls of one member on types that are alike. -/
structure Alike (first second : Signature) : Prop where
  receiver : first.receiver.Alike second.receiver
  isSingleton : first.isSingleton = second.isSingleton
  member : first.member = second.member
  args : List.Forall₂ Ty.Alike first.args second.args
  block : Option.Rel Ty.Alike first.block second.block

theorem beq_iff {first second : Signature} :
    (first == second) = true ↔
      first.receiver.equal second.receiver = true ∧ first.isSingleton = second.isSingleton ∧
      first.member = second.member ∧
      List.Forall₂ (fun ty other => ty.equal other = true) first.args second.args ∧
      Option.Rel (fun ty other => ty.equal other = true) first.block second.block := by
  rw [← Ty.listBeq_iff, ← Ty.optionBeq_iff]
  show (first.receiver.equal second.receiver && first.isSingleton == second.isSingleton &&
    first.member == second.member && first.args == second.args && first.block == second.block) = true ↔ _
  simp only [Bool.and_eq_true, beq_iff_eq, and_assoc]

theorem beq_self (signature : Signature) : (signature == signature) = true := by
  rw [beq_iff]
  refine ⟨signature.receiver.equal_self, rfl, rfl, List.forall₂_same.mpr fun arg _ => arg.equal_self, ?_⟩
  cases signature.block with
  | none => exact .none
  | some block => exact .some block.equal_self

theorem beq_iff_alike {first second : Signature} (built : first.Constructed)
    (built' : second.Constructed) : (first == second) = true ↔ first.Alike second := by
  rw [beq_iff]
  constructor
  · rintro ⟨receiver, isSingleton, member, args, block⟩
    refine ⟨(Ty.equal_iff_alike built.receiver built'.receiver).mp receiver, isSingleton, member,
      forall₂_congr (fun arg inArgs arg' inArgs' => ?_) args,
      optionRel_congr (fun found isBlock found' isBlock' => ?_) block⟩
    · exact (Ty.equal_iff_alike (built.args arg inArgs) (built'.args arg' inArgs')).mp
    · exact (Ty.equal_iff_alike (built.block found isBlock) (built'.block found' isBlock')).mp
  · intro alike
    exact ⟨alike.receiver.equal, alike.isSingleton, alike.member, alike.args.imp fun _ _ => Ty.Alike.equal,
      optionRel_congr (fun _ _ _ _ => Ty.Alike.equal) alike.block⟩

theorem beq_symm {first second : Signature} (built : first.Constructed) (built' : second.Constructed)
    (same : (first == second) = true) : (second == first) = true := by
  rw [beq_iff] at same ⊢
  obtain ⟨receiver, isSingleton, member, args, block⟩ := same
  have turn {ty other : Ty} (here : ty.Constructed) (there : other.Constructed) :
      ty.equal other = true → other.equal ty = true := ty.equal_symm here.isTidy there.isTidy
  refine ⟨turn built.receiver built'.receiver receiver, isSingleton.symm, member.symm,
    (forall₂_congr (fun arg inArgs arg' inArgs' => ?_) args).flip,
    optionRel_flip (optionRel_congr (fun found isBlock found' isBlock' => ?_) block)⟩
  · exact turn (built.args arg inArgs) (built'.args arg' inArgs')
  · exact turn (built.block found isBlock) (built'.block found' isBlock')

theorem beq_trans {first second third : Signature} (same : (first == second) = true)
    (same' : (second == third) = true) : (first == third) = true := by
  rw [beq_iff] at *
  obtain ⟨receiver, isSingleton, member, args, block⟩ := same
  obtain ⟨receiver', isSingleton', member', args', block'⟩ := same'
  exact ⟨Ty.equal_trans _ receiver receiver', isSingleton.trans isSingleton', member.trans member',
    forall₂_trans (fun ty _ _ => ty.equal_trans) args args',
    optionRel_trans (fun ty _ _ => ty.equal_trans) block block'⟩

end Signature

/-! ### The theorem -/

/-- On the values that are constructed, and these are the tidy ones, equality is an equivalence and the
same as likeness. -/
structure IsStructural {α : Type} [BEq α] (constructed : α → Prop) (isTidy : α → Bool)
    (alike : α → α → Prop) : Prop where
  tidy : ∀ value, constructed value ↔ isTidy value = true
  equivalence : Equivalence fun first second : Subtype constructed => (first.1 == second.1) = true
  alike : ∀ first second : Subtype constructed, (first.1 == second.1) = true ↔ alike first.1 second.1

theorem Ty.isStructural : IsStructural Ty.Constructed Ty.isTidy Ty.Alike where
  tidy _ := Ty.constructed_iff
  equivalence := ⟨fun value => value.1.equal_self,
    fun {first second} => first.1.equal_symm first.2.isTidy second.2.isTidy,
    fun {first _ _} => first.1.equal_trans⟩
  alike first second := Ty.equal_iff_alike first.2 second.2

theorem TyUnion.isStructural : IsStructural TyUnion.Constructed TyUnion.isTidy TyUnion.Alike where
  tidy _ := TyUnion.constructed_iff
  equivalence := ⟨fun value => value.1.equal_self,
    fun {first second} => first.1.equal_symm first.2.isTidy second.2.isTidy,
    fun {first _ _} => first.1.equal_trans⟩
  alike first second := TyUnion.equal_iff_alike first.2 second.2

theorem Shape.isStructural : IsStructural Shape.Constructed Shape.isTidy Shape.Alike where
  tidy _ := Shape.constructed_iff
  equivalence := ⟨fun value => value.1.equal_self,
    fun {first second} => first.1.equal_symm first.2.isTidy second.2.isTidy,
    fun {first _ _} => first.1.equal_trans⟩
  alike first second := Shape.equal_iff_alike first.2 second.2

theorem Signature.isStructural :
    IsStructural Signature.Constructed Signature.isTidy Signature.Alike where
  tidy _ := Signature.constructed_iff
  equivalence := ⟨fun value => Signature.beq_self value.1,
    fun {first second} => Signature.beq_symm first.2 second.2, Signature.beq_trans⟩
  alike first second := Signature.beq_iff_alike first.2 second.2

/-- Tidy unions are equal exactly when each lies within the other. -/
theorem TyUnion.equal_iff_mutual {first second : TyUnion} (tidy : first.isTidy = true)
    (tidy' : second.isTidy = true) : first.equal second = true ↔
      (∀ ty ∈ first.members, ∃ other ∈ second.members, ty.equal other = true) ∧
      ∀ other ∈ second.members, ∃ ty ∈ first.members, other.equal ty = true := by
  constructor
  · intro same
    exact ⟨(TyUnion.equal_iff.mp same).2,
      (TyUnion.equal_iff.mp (first.equal_symm tidy tidy' same)).2⟩
  · rintro ⟨within, within'⟩
    have forward := List.all_eq_true.mpr fun ty member => contains_iff.mpr (within ty member)
    have backward := List.all_eq_true.mpr fun ty member => contains_iff.mpr (within' ty member)
    exact TyUnion.equal_iff.mpr ⟨Nat.le_antisymm (length_le_of_isWithin tidy tidy' forward)
      (length_le_of_isWithin tidy' tidy backward), within⟩

/-- **Equality is structural.** On types, unions, shapes and signatures made by the constructors and
operations it is an equivalence, and two values are equal exactly when they are the same up to the
names of classes and the order of members, at any depth. Two unions are equal exactly when each
member of one has an equal in the other. -/
theorem equality_is_structural :
    IsStructural Ty.Constructed Ty.isTidy Ty.Alike ∧
    IsStructural TyUnion.Constructed TyUnion.isTidy TyUnion.Alike ∧
    IsStructural Shape.Constructed Shape.isTidy Shape.Alike ∧
    IsStructural Signature.Constructed Signature.isTidy Signature.Alike ∧
    ∀ first second : TyUnion, first.Constructed → second.Constructed →
      ((first == second) = true ↔
        (∀ ty ∈ first.members, ∃ other ∈ second.members, (ty == other) = true) ∧
        ∀ other ∈ second.members, ∃ ty ∈ first.members, (other == ty) = true) :=
  ⟨Ty.isStructural, TyUnion.isStructural, Shape.isStructural, Signature.isStructural,
    fun _ _ built built' => TyUnion.equal_iff_mutual built.isTidy built'.isTidy⟩

end TypeLattice
