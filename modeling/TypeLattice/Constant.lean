/-
**Constants.**

The constants that a literal type can carry, and the text by which each is shown: a symbol after a
colon, a regular expression between slashes, a string between quotes, a range as its bounds around
two dots, or three when the last value is left out.
-/

import TypeLattice.Text.Quoted

namespace TypeLattice

/-- A constant of the program under study. -/
inductive Constant where
  | symbol (name : String)
  | integer (value : Int)
  | boolean (value : Bool)
  | string (text : String)
  | regex (source : String)
  /-- A range of integers; a missing bound leaves that end open. -/
  | range (first last : Option Int) (exclusive : Bool)
deriving DecidableEq

namespace Constant

/-- An optional bound; nothing is written for an open end. -/
def boundText : Option Int → String
  | some bound => toString bound
  | none => ""

/-- The text of a truth value. -/
def booleanText (value : Bool) : String := if value then "true" else "false"

/-- The text of a constant, as a program would write it. -/
def text : Constant → String
  | symbol name => ":" ++ name
  | integer value => toString value
  | boolean value => booleanText value
  | string content => Text.quoted content
  | regex source => "/" ++ source ++ "/"
  | range first last exclusive =>
    boundText first ++ (if exclusive then "..." else "..") ++ boundText last

end Constant

end TypeLattice
