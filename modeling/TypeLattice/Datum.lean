/-
**Constants of the host program as types.**

A scalar constant becomes a literal over the instances of its class, nil becomes the type of nil, and
an array becomes a tuple with one union for each element. Of the class objects only the root class
has a type. Floats, hashes and other class objects are refused; in an array the first offender, from
left to right, is the one that is reported.
-/

import TypeLattice.Event
import TypeLattice.Shape

namespace TypeLattice

/-- A constant as the host program holds it. -/
inductive Datum where
  | constant (value : Constant)
  | nil
  | array (elems : List Datum)
  | classObject (cls : ClassId)
  | float (value : Float)
  | hash (entries : List (Datum × Datum))

/-- The kind of a constant, in words. -/
def Constant.kind : Constant → String
  | symbol _ => "symbol"
  | integer _ => "integer"
  | boolean _ => "boolean"
  | string _ => "string"
  | regex _ => "regex"
  | range _ _ _ => "range"

/-- The class of a constant. -/
def CoreClasses.classOf (core : CoreClasses) : Constant → ClassRef
  | .symbol _ => core.symbol
  | .integer _ => core.integer
  | .boolean _ => core.boolean
  | .string _ => core.string
  | .regex _ => core.regexp
  | .range _ _ _ => core.range

namespace Datum

/-- The kind of a datum, in words. -/
def kind : Datum → String
  | constant value => value.kind
  | nil => "nil"
  | array _ => "array"
  | classObject _ => "class"
  | float _ => "float"
  | hash _ => "hash"

mutual

/-- The type of a datum. -/
def promote (core : CoreClasses) : Datum → Except Refusal Ty
  | .constant value => .ok (.literal value (.ofClass (core.classOf value)))
  | .nil => .ok core.nilType
  | .array elems => do
    let unions ← promoteAll core elems
    return .array (.tuple unions) core.arrayType
  | .classObject cls =>
    if cls = core.object.id then .ok (.ofClass core.object) else .error (.unsupportedClass cls)
  | .float value => .error (.unsupportedKind (kind (.float value)))
  | .hash entries => .error (.unsupportedKind (kind (.hash entries)))
termination_by structural datum => datum

/-- The elements of an array, each as a union of its own. -/
def promoteAll (core : CoreClasses) : List Datum → Except Refusal (List TyUnion)
  | [] => .ok []
  | datum :: rest => do
    let ty ← promote core datum
    let others ← promoteAll core rest
    return .singleton ty :: others
termination_by structural data => data

end

/-- The log records of a promotion: the datum that was refused, if there is one. -/
def promoteEvents (core : CoreClasses) (datum : Datum) : List Event :=
  match promote core datum with
  | .ok _ => []
  | .error refusal => Event.ofRefusal refusal

end Datum

end TypeLattice
