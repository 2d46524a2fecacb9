/-
**Types, unions and shapes.**

* `Ty`: one possible type of a value at run time;
* `TyUnion`: the types a value may have, in the order in which they were first seen;
* `Shape`: what is known of the elements of an array, either one union for all of them (`seq`) or a
  union for each position (`tuple`).

The three are defined together, since a union holds types, a shape holds unions, and array and
closure types hold shapes and unions. A union is built by `TyUnion.ofList`, `insert` and `join`,
which keep its members distinct.
-/

import TypeLattice.Constant
import TypeLattice.Ids

namespace TypeLattice

/-- A class, with a name for messages; the id alone says which class it is. -/
structure ClassRef where
  id : ClassId
  name : Option String

mutual

/-- One possible type of a value. -/
inductive Ty where
  /-- Any value at all. -/
  | any
  /-- The class itself, as the receiver of its singleton methods. -/
  | classObject (cls : ClassRef)
  /-- An instance of a class, normally given as a `classObject`. -/
  | instanceOf (cls : Ty)
  /-- A unit of compiled code. -/
  | code (id : CodeId)
  /-- A block of code over a captured frame; methods are found through `underlying`. -/
  | closure (code : CodeId) (frame : FrameId) (underlying : Ty)
  /-- A closure with known parameters and result. -/
  | typedClosure (params : List TyUnion) (result : TyUnion) (underlying : Ty)
  /-- A constant, and the type it falls back to. -/
  | literal (value : Constant) (base : Ty)
  /-- An array whose shape is held in a slot of an array store. -/
  | localArray (id : ArrayId) (base : Ty)
  /-- An array of a known shape. -/
  | array (shape : Shape) (base : Ty)

/-- The types a value may have, in the order in which they were first seen. -/
structure TyUnion where
  members : List Ty

/-- What is known of the elements of an array. -/
inductive Shape where
  /-- Any number of elements, all described by one union. -/
  | seq (elem : TyUnion)
  /-- A fixed number of elements, each described by a union of its own. -/
  | tuple (elems : List TyUnion)

end

namespace Ty

/-- The instances of a class. -/
def ofClass (cls : ClassRef) : Ty := .instanceOf (.classObject cls)

/-- Whether this is the type of all values. -/
def isAny : Ty → Bool
  | any => true
  | _ => false

/-- Whether this is an array of a known shape. -/
def isArray : Ty → Bool
  | array _ _ => true
  | _ => false

/-- The type that stands behind this one when methods are looked up, where there is one. -/
def base? : Ty → Option Ty
  | literal _ base | localArray _ base | array _ base => some base
  | closure _ _ underlying | typedClosure _ _ underlying => some underlying
  | any | classObject _ | instanceOf _ | code _ => none

end Ty

end TypeLattice
