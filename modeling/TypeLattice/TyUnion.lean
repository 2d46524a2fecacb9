/-
**Unions of types.**

A union is a set of types that remembers the order in which they were first seen. `insert` adds a
type unless an equal one is there, `ofList` keeps the first of equal types, and `join` is the union
of two sets, which keeps one side as it is when the other adds nothing to it.
-/

import TypeLattice.Ty.Equality

namespace TypeLattice.TyUnion

/-- The union with no member: no value at all. -/
def empty : TyUnion := ⟨[]⟩

/-- The union with one member. -/
def singleton (ty : Ty) : TyUnion := ⟨[ty]⟩

/-- How many members a union has. -/
def size (union : TyUnion) : Nat := union.members.length

/-- Whether a union has no member. -/
def isEmpty (union : TyUnion) : Bool := union.members.isEmpty

/-- Whether a member is equal to `ty`. -/
def contains (union : TyUnion) (ty : Ty) : Bool := union.members.any (fun member => ty == member)

/-- The union with `ty` added at the end, unless an equal member is there. -/
def insert (union : TyUnion) (ty : Ty) : TyUnion :=
  if union.contains ty then union else ⟨union.members ++ [ty]⟩

/-- The union of the given types; of equal ones the first is kept. -/
def ofList (types : List Ty) : TyUnion := types.foldl insert empty

/-- Whether every member of a union has an equal one in another. -/
def isWithin (union other : TyUnion) : Bool := union.members.all (fun member => other.contains member)

/-- The members of both unions, those of the first before the new ones of the second. A side that
holds the other is kept as it is. -/
def join (first second : TyUnion) : TyUnion :=
  if second.isWithin first then first
  else if first.isWithin second then second
  else ofList (first.members ++ second.members)

end TypeLattice.TyUnion
