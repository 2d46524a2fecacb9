/-
**Types that need no array store.**

* `isContextFree`: no local array occurs anywhere in the value, so that it means the same in every
  store;
* `hasLiteral`: a literal occurs where resolution would generalise it, that is outside the bases of
  literals and arrays.
-/

import TypeLattice.Ty.Basic

namespace TypeLattice

mutual

/-- Whether no local array occurs in a type. -/
def Ty.isContextFree : Ty → Bool
  | .localArray _ _ => false
  | .any | .classObject _ | .code _ => true
  | .instanceOf cls => cls.isContextFree
  | .closure _ _ underlying => underlying.isContextFree
  | .typedClosure params result underlying =>
    TyUnion.allContextFree params && result.isContextFree && underlying.isContextFree
  | .literal _ base => base.isContextFree
  | .array shape base => shape.isContextFree && base.isContextFree

/-- Whether no local array occurs in a union. -/
def TyUnion.isContextFree : TyUnion → Bool
  | ⟨members⟩ => Ty.allContextFree members

/-- Whether no local array occurs in a shape. -/
def Shape.isContextFree : Shape → Bool
  | .seq elem => elem.isContextFree
  | .tuple elems => TyUnion.allContextFree elems

/-- Whether no local array occurs in any of the types. -/
def Ty.allContextFree : List Ty → Bool
  | [] => true
  | ty :: rest => ty.isContextFree && Ty.allContextFree rest

/-- Whether no local array occurs in any of the unions. -/
def TyUnion.allContextFree : List TyUnion → Bool
  | [] => true
  | union :: rest => union.isContextFree && TyUnion.allContextFree rest

end

mutual

/-- Whether a literal occurs in a type outside the bases of literals and arrays. -/
def Ty.hasLiteral : Ty → Bool
  | .literal _ _ => true
  | .array shape _ => shape.hasLiteral
  | .instanceOf cls => cls.hasLiteral
  | .closure _ _ underlying => underlying.hasLiteral
  | .typedClosure params result underlying =>
    TyUnion.anyHasLiteral params || result.hasLiteral || underlying.hasLiteral
  | .any | .classObject _ | .code _ | .localArray _ _ => false

/-- Whether a literal occurs in a member of a union. -/
def TyUnion.hasLiteral : TyUnion → Bool
  | ⟨members⟩ => Ty.anyHasLiteral members

/-- Whether a literal occurs in a union of a shape. -/
def Shape.hasLiteral : Shape → Bool
  | .seq elem => elem.hasLiteral
  | .tuple elems => TyUnion.anyHasLiteral elems

/-- Whether a literal occurs in one of the types. -/
def Ty.anyHasLiteral : List Ty → Bool
  | [] => false
  | ty :: rest => ty.hasLiteral || Ty.anyHasLiteral rest

/-- Whether a literal occurs in one of the unions. -/
def TyUnion.anyHasLiteral : List TyUnion → Bool
  | [] => false
  | union :: rest => union.hasLiteral || TyUnion.anyHasLiteral rest

end

end TypeLattice
