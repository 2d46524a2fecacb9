/-
**Requests that are refused.**

A refusal is an answer the caller can act on: a constant the lattice has no type for, or an array
store that was asked for an id it cannot serve.
-/

import TypeLattice.Ids

namespace TypeLattice

/-- Why a request was refused. -/
inductive Refusal where
  /-- A constant of a kind that has no type. -/
  | unsupportedKind (kind : String)
  /-- A class object other than the root class. -/
  | unsupportedClass (cls : ClassId)
  /-- The store has no slot for this id. -/
  | unknownArray (id : ArrayId)
  /-- The id lies below the next free one. -/
  | idReused (id next : ArrayId)
  /-- The id is the last one, so none would be free after it. -/
  | idsExhausted (id : ArrayId)
deriving DecidableEq

/-- The wording of a refusal. -/
def Refusal.message : Refusal → String
  | unsupportedKind kind => s!"unsupported literal: {kind}"
  | unsupportedClass cls => s!"unsupported literal: class object {cls.dump} is not the root class"
  | unknownArray id => s!"array {id.text} is not allocated in this environment"
  | idReused id next => s!"array id {id.text} was already issued (next free id is {next.text})"
  | idsExhausted id => s!"array id space exhausted at {id.text}"

end TypeLattice
