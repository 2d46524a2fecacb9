/-
**Shapes of arrays.**

Reading and writing elements, and the join of two shapes. A tuple keeps a union for each position
as long as it is written at known positions; a write anywhere else, or a join with a shape that is
not a tuple of the same length, turns it into a sequence for good.
-/

import TypeLattice.CoreClasses
import TypeLattice.Event

namespace TypeLattice.Shape

/-- The sequence that has no element. -/
def emptySeq : Shape := .seq .empty

/-- Whether the positions are told apart. -/
def isTuple : Shape → Bool
  | .seq _ => false
  | .tuple _ => true

/-- The number of elements, where it is known. -/
def length? : Shape → Option Nat
  | .seq _ => none
  | .tuple elems => some elems.length

/-- The types that some element may have. -/
def elements : Shape → TyUnion
  | .seq elem => elem
  | .tuple elems => .ofList (elems.flatMap TyUnion.members)

/-- The types that a read at `index` may give; `none` stands for an index that is not known. A read
beyond the end of a tuple gives nil. -/
def read (core : CoreClasses) (shape : Shape) (index : Option Nat) : TyUnion :=
  match shape, index with
  | .seq elem, _ => elem
  | .tuple elems, some position => elems.getD position core.nilUnion
  | .tuple elems, none => elements (.tuple elems)

/-- Whether a write at `index` loses the positions: the shape is a tuple, and the index is not known
or beyond its end. -/
def isWidenedBy (shape : Shape) (index : Option Nat) : Bool :=
  match shape, index with
  | .seq _, _ => false
  | .tuple elems, some position => elems.length ≤ position
  | .tuple _, none => true

/-- The log records of a write at `index`: only the loss of positions is reported. -/
def writeEvents (shape : Shape) (index : Option Nat) : List Event :=
  match shape with
  | .seq _ => []
  | .tuple elems => if shape.isWidenedBy index then [.widened elems.length index] else []

/-- The shape after a value of type `ty` is written at `index`. A sequence gathers the type, a tuple
has one position replaced, and a tuple that is widened gathers it after all its elements. -/
def write (shape : Shape) (index : Option Nat) (ty : Ty) : Shape :=
  match shape, index with
  | .seq elem, _ => .seq (elem.insert ty)
  | .tuple elems, some position =>
    if position < elems.length then .tuple (elems.set position (.singleton ty))
    else .seq ((elements (.tuple elems)).insert ty)
  | .tuple elems, none => .seq ((elements (.tuple elems)).insert ty)

/-- The shape that covers two shapes. Tuples of one length are joined position by position; any
other pair is joined as sequences. -/
def join : Shape → Shape → Shape
  | .seq first, .seq second => .seq (first.join second)
  | .tuple first, .tuple second =>
    if first.length = second.length then .tuple (List.zipWith TyUnion.join first second)
    else .seq ((elements (.tuple first)).join (elements (.tuple second)))
  | first, second => .seq (first.elements.join second.elements)

end TypeLattice.Shape
