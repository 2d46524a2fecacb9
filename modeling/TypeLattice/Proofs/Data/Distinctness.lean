/-
**Promotion keeps data apart.**

Types are compared by the ids of their classes, and unions as sets. A promoted type holds one member at
each position and keeps every constant as it is, so the comparison goes down to the leaves: two data have
equal types exactly when they are the same. Nil and the root class both become bare instances, and there
the ids of the two classes make the difference.

* `Mirrors.eq_of_equal`: data that are mirrored by equal types are the same;
* `promotion_keeps_data_apart`: what that says about promotion.
-/

import TypeLattice.Proofs.Data.Promotion
import TypeLattice.Proofs.Types.Equivalence

namespace TypeLattice

/-- The ids of the core classes. -/
def CoreClasses.ids (core : CoreClasses) : List ClassId :=
  [core.object, core.nil, core.boolean, core.integer, core.string, core.symbol, core.array, core.range,
    core.regexp, core.closure].map ClassRef.id

/-- The instances of two classes are equal exactly when the classes have one id. -/
theorem Ty.ofClass_equal_iff {first second : ClassRef} :
    (Ty.ofClass first).equal (.ofClass second) = true ↔ first.id = second.id := by
  rw [ofClass, ofClass, equal, equal, ClassRef.beq_iff]

/-- Unions of one member each are equal exactly when the members are. -/
theorem TyUnion.singleton_equal_iff {first second : Ty} :
    (singleton first).equal (.singleton second) = true ↔ first.equal second = true := by
  simp [equal_iff, singleton]

namespace Datum

variable {core : CoreClasses}

mutual

/-- **Data that are mirrored by equal types are the same**, if nil and the root class differ. -/
theorem Mirrors.eq_of_equal (apart : core.nil.id ≠ core.object.id) (first : Datum) {second : Datum}
    {ty ty' : Ty} (mirrors : Mirrors core first ty) (mirrors' : Mirrors core second ty')
    (same : ty.equal ty' = true) : first = second := by
  cases mirrors with
  | constant value =>
      obtain ⟨base, rfl, -⟩ := Ty.equal_iff_matches.mp same
      cases mirrors'
      rfl
  | nil =>
      cases mirrors' with
      | nil => rfl
      | constant | array => cases same
      | root => exact absurd (Ty.ofClass_equal_iff.mp same) apart
  | root =>
      cases mirrors' with
      | root => rfl
      | constant | array => cases same
      | nil => exact absurd (Ty.ofClass_equal_iff.mp same).symm apart
  | @array elems types mirrored =>
      obtain ⟨shape, base, rfl, sameShape, -⟩ := Ty.equal_iff_matches.mp same
      cases mirrors' with
      | array mirrored' => rw [eq_of_equalAll apart elems mirrored mirrored' sameShape]

/-- Data that are mirrored position by position, by equal types, are the same. -/
theorem eq_of_equalAll (apart : core.nil.id ≠ core.object.id) (first : List Datum)
    {second : List Datum} {types types' : List Ty} (mirrored : List.Forall₂ (Mirrors core) first types)
    (mirrored' : List.Forall₂ (Mirrors core) second types')
    (same : TyUnion.equalAll (types.map .singleton) (types'.map .singleton) = true) :
    first = second := by
  cases mirrored with
  | nil =>
      cases mirrored' with
      | nil => rfl
      | cons => cases same
  | @cons datum ty rest types here later =>
      cases mirrored' with
      | nil => cases same
      | cons here' later' =>
          obtain ⟨sameHere, sameLater⟩ := (Bool.and_eq_true _ _).mp same
          rw [Mirrors.eq_of_equal apart datum here here' (TyUnion.singleton_equal_iff.mp sameHere),
            eq_of_equalAll apart rest later later' sameLater]

end

/-- **Promotion keeps data apart.** The standard core classes have ten different ids. Under any core
classes with different ids, two data that have types have equal types exactly when they are the same,
whichever constants they are and however deep their arrays are nested. -/
theorem promotion_keeps_data_apart :
    CoreClasses.standard.ids.Nodup ∧
    ∀ core : CoreClasses, core.ids.Nodup → ∀ (first second : Datum) (ty ty' : Ty),
      promote core first = .ok ty → promote core second = .ok ty' →
      ((ty == ty') = true ↔ first = second) := by
  refine ⟨by decide, fun core distinct first second ty ty' promoted promoted' => ⟨fun same => ?_, ?_⟩⟩
  · have apart : core.nil.id ≠ core.object.id := by
      intro shared
      simp [CoreClasses.ids, shared] at distinct
    exact Mirrors.eq_of_equal apart first ((promote_eq_ok_iff first).mp promoted)
      ((promote_eq_ok_iff second).mp promoted') same
  · rintro rfl
    rw [promoted] at promoted'
    cases promoted'
    exact Ty.equal_self ty

/-- A symbol and a string with one text, deep in arrays that agree otherwise, are told apart, and so are
nil and the root class. -/
theorem promotion_keeps_data_apart_nested :
    let core := CoreClasses.standard
    let holding (inner : Datum) := array [.constant (.integer (-1)), .array [.array [inner]]]
    let symbol := holding (.constant (.symbol "size"))
    let string := holding (.constant (.string "size"))
    core.ids.Nodup ∧
    (∃ ty ty', promote core symbol = .ok ty ∧ promote core string = .ok ty' ∧ (ty == ty') = false) ∧
    ∃ ty ty', promote core .nil = .ok ty ∧ promote core (.classObject ⟨0⟩) = .ok ty' ∧
      (ty == ty') = false := by
  intro core holding symbol string
  obtain ⟨distinct, decides⟩ := promotion_keeps_data_apart
  have different : symbol ≠ string := by simp [symbol, string, holding]
  refine ⟨distinct, ⟨_, _, rfl, rfl, ?_⟩, ⟨_, _, rfl, rfl, ?_⟩⟩
  · exact Bool.eq_false_iff.mpr fun same =>
      different ((decides core distinct symbol string _ _ rfl rfl).mp same)
  · exact Bool.eq_false_iff.mpr fun same =>
      nomatch (decides core distinct .nil (.classObject ⟨0⟩) _ _ rfl rfl).mp same

end Datum

end TypeLattice
