/-
**Looking up a method on a type.**

A class answers with its singleton methods, an instance with the instance methods of its class; a
literal, a local array and a closure answer as the type behind them. A type of any value, or of bare
code, has no methods. An array of a known shape has no receiver of its own, and to ask it is a
violation.
-/

import TypeLattice.ClassTable

namespace TypeLattice

/-- The method that `member` names on a receiver of this type. -/
def Ty.method? {μ : Type} (table : ClassTable μ) (member : Atom) : Ty → Except Violation (Option μ)
  | .classObject cls => .ok (table.singletonMethod? cls member)
  | .instanceOf cls => .ok (table.methodOfType? cls member)
  | .literal _ base | .localArray _ base => base.method? table member
  | .closure _ _ underlying | .typedClosure _ _ underlying => underlying.method? table member
  | .any | .code _ => .ok none
  | .array _ _ => .error .arrayReceiver

end TypeLattice
