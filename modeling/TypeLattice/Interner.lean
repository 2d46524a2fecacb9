/-
**Names as numbers.**

An interner numbers the strings it is given, in the order in which it first meets them; the empty
string has number 0 from the start. `intern` answers the number of a string, `resolve` the string
of a number, and a number never handed out resolves to the empty string.
-/

import Std.Data.HashMap
import TypeLattice.Ids

namespace TypeLattice

/-- The strings met so far, by number, and the number of each. -/
structure Interner where
  /-- The number of each string. -/
  index : Std.HashMap String Atom
  /-- The string of each number. -/
  strings : Array String

namespace Interner

/-- The interner that knows the empty string only. -/
def empty : Interner where
  index := (∅ : Std.HashMap String Atom).insert "" ⟨0⟩
  strings := #[""]

/-- The number of `text`, which is the next free one if `text` is new. -/
def intern (pool : Interner) (text : String) : Atom × Interner :=
  match pool.index[text]? with
  | some atom => (atom, pool)
  | none =>
    let atom : Atom := ⟨pool.strings.size.toUInt32⟩
    (atom, { index := pool.index.insert text atom, strings := pool.strings.push text })

/-- The string with number `atom`. -/
def resolve (pool : Interner) (atom : Atom) : String := pool.strings.getD atom.val.toNat ""

/-- How many strings have a number, the empty one included. -/
def size (pool : Interner) : Nat := pool.strings.size

/-- Whether no string but the empty one has a number. -/
def isEmpty (pool : Interner) : Bool := pool.size ≤ 1

/-- Give a number to each of `texts` in turn. -/
def internAll (pool : Interner) (texts : List String) : Interner :=
  texts.foldl (fun current text => (current.intern text).2) pool

/-- The member names that every program uses. -/
def commonNames : List String :=
  ["initialize", "new", "class", "[]", "[]=", "<<", "+", "-", "*", "==", "!", "call", "each", "map",
    "first", "last", "size", "length", "push", "pop", "to_s", "inspect", "nil?", "is_a?"]

/-- Give a number to each of the common member names. -/
def internCommon (pool : Interner) : Interner := pool.internAll commonNames

end Interner

end TypeLattice
