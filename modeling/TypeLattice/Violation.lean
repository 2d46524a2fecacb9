/-
**Breaches of contract.**

A violation says that the caller handed in a value for which an operation has no answer.
-/

import TypeLattice.Ids
import TypeLattice.PathGuard

namespace TypeLattice

/-- Which contract was breached. -/
inductive Violation where
  /-- A method was looked up on an array type instead of the type behind it. -/
  | arrayReceiver
  /-- The name of a local array was asked for. -/
  | unresolvedName (id : ArrayId)
  /-- A local array was to be resolved in a store that has no slot for it. -/
  | unallocatedArray (id : ArrayId)
  /-- A class was registered under a class that the table does not hold. -/
  | unknownSuperclass (cls : ClassId)
  /-- A signature was formed from types that still hold local arrays. -/
  | unresolvedSignature
  /-- The path of a resolution was left out of order. -/
  | brokenPath (fault : PathGuard.Fault ArrayId)

/-- The wording of a violation. -/
def Violation.message : Violation → String
  | arrayReceiver => "get_method called on an array type; dispatch through its base type instead"
  | unresolvedName id =>
    s!"cannot format local array {id.text}: resolve it with strip_local_info first"
  | unallocatedArray id => s!"local array {id.text} is not allocated in this environment"
  | unknownSuperclass cls => s!"superclass {cls.dump} is not registered in this class table"
  | unresolvedSignature => "signature components must be stripped of local arrays"
  | brokenPath fault => fault.message ArrayId.dump

end TypeLattice
