/-
**The classes that the lattice itself relies on.**
-/

import TypeLattice.TyUnion

namespace TypeLattice

/-- The root class and the classes of nil, constants, arrays and closures. -/
structure CoreClasses where
  /-- The root class. -/
  object : ClassRef
  nil : ClassRef
  boolean : ClassRef
  integer : ClassRef
  string : ClassRef
  symbol : ClassRef
  array : ClassRef
  range : ClassRef
  regexp : ClassRef
  closure : ClassRef

namespace CoreClasses

/-- The type of nil. It has one value, so it needs no literal. -/
def nilType (core : CoreClasses) : Ty := .ofClass core.nil

/-- The union that holds the type of nil alone. -/
def nilUnion (core : CoreClasses) : TyUnion := .singleton core.nilType

/-- The type behind every array. -/
def arrayType (core : CoreClasses) : Ty := .ofClass core.array

/-- The type behind the closures made from blocks. -/
def closureType (core : CoreClasses) : Ty := .ofClass core.closure

end CoreClasses

end TypeLattice
