/-
**The layouts of the log.**

A layout is chosen by name, in any letter case; every other name chooses plain text.
-/

namespace TypeLattice

/-- How log records are laid out. -/
inductive LogFormat where
  | text
  | tree
  | json
deriving DecidableEq

/-- The layout with the given name. Only the letters of `tree` and `json` matter, and no letter
outside ASCII has one of them as its lower case, so lowering the ASCII letters is enough. -/
def LogFormat.ofName (name : String) : LogFormat :=
  match name.map Char.toLower with
  | "tree" => .tree
  | "json" => .json
  | _ => .text

end TypeLattice
