/-
**Sets of characters given by ranges of code points.**
-/

namespace TypeLattice.Text

/-- The characters from one code point to another, both included. -/
structure CharRange where
  low : Nat
  high : Nat

/-- Whether one of `ranges` holds the character. -/
def covers (ranges : List CharRange) (c : Char) : Bool :=
  ranges.any fun range => range.low ≤ c.toNat && c.toNat ≤ range.high

end TypeLattice.Text
