/-
**Equality of types.**

Two types are equal when they are built alike. Class references are compared by id, whatever their
names, and unions as sets: they are equal when they have as many members and every member of the
first has an equal one in the second.
-/

import TypeLattice.Ty.Basic

namespace TypeLattice

/-- The id alone tells classes apart. -/
instance : BEq ClassRef := ⟨fun first second => first.id == second.id⟩

mutual

/-- Equality of types. -/
def Ty.equal : Ty → Ty → Bool
  | .any, .any => true
  | .classObject first, .classObject second => first == second
  | .instanceOf first, .instanceOf second => first.equal second
  | .code first, .code second => first == second
  | .closure code frame underlying, .closure code' frame' underlying' =>
    code == code' && frame == frame' && underlying.equal underlying'
  | .typedClosure params result underlying, .typedClosure params' result' underlying' =>
    TyUnion.equalAll params params' && result.equal result' && underlying.equal underlying'
  | .literal value base, .literal value' base' => value == value' && base.equal base'
  | .localArray id base, .localArray id' base' => id == id' && base.equal base'
  | .array shape base, .array shape' base' => shape.equal shape' && base.equal base'
  | _, _ => false
termination_by structural first => first

/-- Equality of unions as sets. -/
def TyUnion.equal : TyUnion → TyUnion → Bool
  | ⟨first⟩, ⟨second⟩ => first.length == second.length && Ty.allAmong first second
termination_by structural first => first

/-- Equality of shapes, position by position. -/
def Shape.equal : Shape → Shape → Bool
  | .seq first, .seq second => first.equal second
  | .tuple first, .tuple second => TyUnion.equalAll first second
  | _, _ => false
termination_by structural first => first

/-- Whether each type of the first list has an equal one in the second. -/
def Ty.allAmong : List Ty → List Ty → Bool
  | [], _ => true
  | ty :: rest, others => others.any (fun other => ty.equal other) && Ty.allAmong rest others
termination_by structural first => first

/-- Equality of lists of unions, position by position. -/
def TyUnion.equalAll : List TyUnion → List TyUnion → Bool
  | [], [] => true
  | first :: rest, second :: rest' => first.equal second && TyUnion.equalAll rest rest'
  | _, _ => false
termination_by structural first => first

end

instance : BEq Ty := ⟨Ty.equal⟩

instance : BEq TyUnion := ⟨TyUnion.equal⟩

instance : BEq Shape := ⟨Shape.equal⟩

/-- Whether two types may describe one value: one of them is any value at all, or they are equal.
This is no subtype relation. -/
def Ty.isConsistentWith (first second : Ty) : Bool :=
  first.isAny || second.isAny || first == second

end TypeLattice
