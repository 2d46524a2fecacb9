/-
**Values without local arrays have names.**

A local array is the only value that cannot be named. So a value in which none occurs has a name,
whatever names the classes and members have, and so has a signature of such values.

* `Ty.exists_screenName`, `TyUnion.exists_screenName`, `Shape.exists_nameAs`: the name of a value;
* `Signature.exists_screenName`: the name of a signature that `make` lets pass.
-/

import TypeLattice.ScreenName

namespace TypeLattice

theorem Ty.allContextFree_iff {types : List Ty} :
    Ty.allContextFree types = true ↔ ∀ ty ∈ types, ty.isContextFree = true := by
  induction types with
  | nil => simp [Ty.allContextFree]
  | cons ty rest ih => simp [Ty.allContextFree, ih]

section Names

variable (naming : Naming)

mutual

/-- **A type without local arrays has a name.** -/
theorem Ty.exists_screenName (ty : Ty) (closed : ty.isContextFree = true) :
    ∃ name, ty.screenName naming = .ok name := by
  cases ty with
  | any => exact ⟨_, rfl⟩
  | classObject cls => exact ⟨_, rfl⟩
  | code id => exact ⟨_, rfl⟩
  | localArray id base => cases closed
  | closure code frame underlying => exact Ty.exists_screenName underlying closed
  | literal value base =>
      obtain ⟨baseName, named⟩ := Ty.exists_screenName base closed
      exact ⟨_, by rw [Ty.screenName, named]; rfl⟩
  | array shape base =>
      rw [Ty.isContextFree, Bool.and_eq_true] at closed
      exact Shape.exists_nameAs shape (naming.arrayName base) closed.1
  | typedClosure params result underlying =>
      rw [Ty.isContextFree, Bool.and_eq_true, Bool.and_eq_true] at closed
      obtain ⟨paramNames, namedParams⟩ := TyUnion.exists_screenNames params closed.1.1
      obtain ⟨resultName, namedResult⟩ := TyUnion.exists_screenName result closed.1.2
      exact ⟨_, by rw [Ty.screenName, namedParams, namedResult]; rfl⟩
  | instanceOf cls =>
      obtain ⟨name, named⟩ := Ty.exists_screenName cls closed
      -- An instance of a class is named as the class, any other instance as what it is an instance of.
      cases cls with
      | classObject => exact ⟨_, rfl⟩
      | any | instanceOf | code | closure | typedClosure | literal | localArray | array =>
          exact ⟨name, named⟩

theorem TyUnion.exists_screenName (union : TyUnion) (closed : union.isContextFree = true) :
    ∃ name, union.screenName naming = .ok name := by
  obtain ⟨members⟩ := union
  obtain ⟨names, named⟩ := Ty.exists_screenNames members closed
  exact ⟨_, by rw [TyUnion.screenName, named]; rfl⟩

theorem Shape.exists_nameAs (shape : Shape) (arrayName : String) (closed : shape.isContextFree = true) :
    ∃ name, shape.nameAs naming arrayName = .ok name := by
  cases shape with
  | seq elem =>
      obtain ⟨elemName, named⟩ := TyUnion.exists_screenName elem closed
      exact ⟨_, by rw [Shape.nameAs, named]; rfl⟩
  | tuple elems =>
      obtain ⟨elemNames, named⟩ := TyUnion.exists_screenNames elems closed
      exact ⟨_, by rw [Shape.nameAs, named]; rfl⟩

theorem Ty.exists_screenNames (types : List Ty) (closed : Ty.allContextFree types = true) :
    ∃ names, Ty.screenNames naming types = .ok names := by
  cases types with
  | nil => exact ⟨_, rfl⟩
  | cons ty rest =>
      rw [Ty.allContextFree, Bool.and_eq_true] at closed
      obtain ⟨name, named⟩ := Ty.exists_screenName ty closed.1
      obtain ⟨others, namedRest⟩ := Ty.exists_screenNames rest closed.2
      exact ⟨_, by rw [Ty.screenNames, named, namedRest]; rfl⟩

theorem TyUnion.exists_screenNames (unions : List TyUnion)
    (closed : TyUnion.allContextFree unions = true) :
    ∃ names, TyUnion.screenNames naming unions = .ok names := by
  cases unions with
  | nil => exact ⟨_, rfl⟩
  | cons union rest =>
      rw [TyUnion.allContextFree, Bool.and_eq_true] at closed
      obtain ⟨name, named⟩ := TyUnion.exists_screenName union closed.1
      obtain ⟨others, namedRest⟩ := TyUnion.exists_screenNames rest closed.2
      exact ⟨_, by rw [TyUnion.screenNames, named, namedRest]; rfl⟩

end

end Names

namespace Signature

variable {receiver : Ty} {isSingleton : Bool} {member : Atom} {args : List Ty} {block : Option Ty}
  {signature : Signature}

/-- A signature is formed exactly when none of its types holds a local array. -/
theorem make_eq_ok_iff :
    make receiver isSingleton member args block = .ok signature ↔
      (receiver.isContextFree = true ∧ (∀ arg ∈ args, arg.isContextFree = true) ∧
        ∀ ty ∈ block, ty.isContextFree = true) ∧
      signature = ⟨receiver, isSingleton, member, args, block⟩ := by
  have parts : (receiver.isContextFree && Ty.allContextFree args && block.all Ty.isContextFree) = true ↔
      receiver.isContextFree = true ∧ (∀ arg ∈ args, arg.isContextFree = true) ∧
        ∀ ty ∈ block, ty.isContextFree = true := by
    rw [Bool.and_eq_true, Bool.and_eq_true, Ty.allContextFree_iff, Option.all_eq_true, and_assoc]
    rfl
  unfold make
  split
  · rename_i closed
    rw [Except.ok.injEq, eq_comm, and_iff_right (parts.mp closed)]
  · rename_i held
    rw [← parts]
    exact ⟨nofun, fun formed => absurd formed.1 held⟩

/-- **A signature that is formed has a name.** -/
theorem exists_screenName (naming : Naming)
    (formed : make receiver isSingleton member args block = .ok signature) :
    ∃ name, signature.screenName naming = .ok name := by
  obtain ⟨⟨closedReceiver, closedArgs, closedBlock⟩, rfl⟩ := make_eq_ok_iff.mp formed
  have named : ∃ name, receiverName naming ⟨receiver, isSingleton, member, args, block⟩ = .ok name := by
    unfold receiverName
    split
    · exact ⟨_, rfl⟩
    · exact Ty.exists_screenName naming _ closedReceiver
  have blockNamed : ∃ name, blockName naming block = .ok name := by
    cases block with
    | none => exact ⟨_, rfl⟩
    | some ty =>
        obtain ⟨name, named⟩ := Ty.exists_screenName naming ty (closedBlock ty rfl)
        exact ⟨_, by rw [blockName, named]; rfl⟩
  obtain ⟨receiverName, namedReceiver⟩ := named
  obtain ⟨argNames, namedArgs⟩ :=
    Ty.exists_screenNames naming args (Ty.allContextFree_iff.mpr closedArgs)
  obtain ⟨blockName, namedBlock⟩ := blockNamed
  exact ⟨_, by rw [screenName, namedReceiver, namedArgs, namedBlock]; rfl⟩

end Signature

end TypeLattice
