/-
**Log records.**

The lattice reports where it gives up precision and where arrays move into a store. Each record has
a severity, a message and fields.
-/

import TypeLattice.Refusal

namespace TypeLattice

/-- How much a log record matters. -/
inductive Severity where
  | trace
  | debug
deriving DecidableEq

/-- Something worth a log record. -/
inductive Event where
  /-- A tuple of `length` elements was written at an index that is not one of its positions. -/
  | widened (length : Nat) (index : Option Nat)
  /-- An array is about to be put into a store. -/
  | deploying (id : ArrayId)
  /-- A store took an array; `tuple` says whether its positions are told apart. -/
  | allocated (id : ArrayId) (tuple : Bool)
  /-- Resolution came back to an array it was still resolving; the path has its outermost id first. -/
  | cycleCut (id : ArrayId) (path : List ArrayId)
  /-- Resolution went over a limit. -/
  | budgetExceeded (id : ArrayId) (depth iterations : Nat)
  /-- A class object other than the root class has no type. -/
  | classRejected (cls : ClassId)
  /-- A constant of this kind has no type. -/
  | kindRejected (kind : String)
deriving DecidableEq

/-- The value of a field of a log record. -/
inductive FieldValue where
  | number (value : Nat)
  | flag (value : Bool)
  | text (value : String)
deriving DecidableEq

namespace Event

/-- Approximations and rejections are for debugging, all else is for tracing. -/
def severity : Event → Severity
  | widened _ _ | budgetExceeded _ _ _ | classRejected _ | kindRejected _ => .debug
  | deploying _ | allocated _ _ | cycleCut _ _ => .trace

/-- The message of a log record. -/
def message : Event → String
  | widened _ _ => "tuple write at imprecise index widens to sequence"
  | deploying _ => "deploying array into local environment"
  | allocated _ _ => "allocating local array"
  | cycleCut _ _ => "local array contains itself; approximating with Any"
  | budgetExceeded _ _ _ => "local array resolution exceeded its budget; approximating with Any"
  | classRejected _ => "rejecting non-root class literal"
  | kindRejected _ => "rejecting unsupported literal"

/-- The text of an index that may be unknown. -/
def indexText : Option Nat → String
  | some index => s!"Some({index})"
  | none => "None"

/-- The text of a path of arrays. -/
def pathText (path : List ArrayId) : String :=
  let ids := ", ".intercalate (path.map ArrayId.dump)
  s!"[{ids}]"

/-- The fields of a log record. -/
def fields : Event → List (String × FieldValue)
  | widened length index => [("len", .number length), ("index", .text (indexText index))]
  | deploying id => [("id", .text id.text)]
  | allocated id tuple => [("id", .text id.text), ("tuple", .flag tuple)]
  | cycleCut id path => [("id", .text id.text), ("path", .text (pathText path))]
  | budgetExceeded id depth iterations =>
    [("id", .text id.text), ("depth", .number depth), ("iterations", .number iterations)]
  | classRejected cls => [("class", .text cls.dump)]
  | kindRejected kind => [("kind", .text kind)]

/-- The log records of a refusal: the rejection of a constant is reported where it happens. -/
def ofRefusal : Refusal → List Event
  | .unsupportedKind kind => [kindRejected kind]
  | .unsupportedClass cls => [classRejected cls]
  | .unknownArray _ | .idReused _ _ | .idsExhausted _ => []

end Event

end TypeLattice
