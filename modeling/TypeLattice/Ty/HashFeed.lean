/-
**What a type feeds to a hash function.**

A value is hashed through a list of words: a tag for the way it is built, then its parts in order,
with a length before each list. A union feeds its size and the sum of the digests of its members, so
that the order of the members does not matter; a class feeds its id alone. The digest of a member is
taken with a function of the caller's choice.
-/

import TypeLattice.Ty.Basic

namespace TypeLattice

/-- One item given to a hash function. -/
inductive HashWord where
  /-- Which constructor follows. -/
  | tag (index : Nat)
  /-- How many items a list has. -/
  | size (count : Nat)
  /-- An identifier. -/
  | id (val : UInt32)
  | integer (value : Int)
  | boolean (value : Bool)
  | text (value : String)
  /-- The combined digest of a set. -/
  | digest (value : UInt64)
deriving DecidableEq, Hashable

/-- A way to digest words. -/
abbrev Digest := List HashWord → UInt64

/-- The words of an optional bound. -/
def boundWords : Option Int → List HashWord
  | none => [.tag 0]
  | some bound => [.tag 1, .integer bound]

/-- The words of a constant. -/
def Constant.words : Constant → List HashWord
  | symbol name => [.tag 0, .text name]
  | integer value => [.tag 1, .integer value]
  | boolean value => [.tag 2, .boolean value]
  | string content => [.tag 3, .text content]
  | regex source => [.tag 4, .text source]
  | range first last exclusive => .tag 5 :: boundWords first ++ boundWords last ++ [.boolean exclusive]

mutual

/-- The words of a type. -/
def Ty.words (digest : Digest) : Ty → List HashWord
  | .any => [.tag 0]
  | .classObject cls => [.tag 1, .id cls.id.val]
  | .instanceOf cls => .tag 2 :: cls.words digest
  | .code id => [.tag 3, .id id.val]
  | .closure code frame underlying => .tag 4 :: .id code.val :: .id frame.val :: underlying.words digest
  | .typedClosure params result underlying =>
    .tag 5 :: .size params.length :: TyUnion.wordsAll digest params ++ result.words digest ++
      underlying.words digest
  | .literal value base => .tag 6 :: value.words ++ base.words digest
  | .localArray id base => .tag 7 :: .id id.val :: base.words digest
  | .array shape base => .tag 8 :: shape.words digest ++ base.words digest

/-- The words of a union: its size and the sum of its members' digests. -/
def TyUnion.words (digest : Digest) : TyUnion → List HashWord
  | ⟨members⟩ => [.size members.length, .digest (Ty.digestSum digest members)]

/-- The words of a shape. -/
def Shape.words (digest : Digest) : Shape → List HashWord
  | .seq elem => .tag 0 :: elem.words digest
  | .tuple elems => .tag 1 :: .size elems.length :: TyUnion.wordsAll digest elems

/-- The sum of the digests of types. -/
def Ty.digestSum (digest : Digest) : List Ty → UInt64
  | [] => 0
  | ty :: rest => digest (ty.words digest) + Ty.digestSum digest rest

/-- The words of unions, one after the other. -/
def TyUnion.wordsAll (digest : Digest) : List TyUnion → List HashWord
  | [] => []
  | union :: rest => union.words digest ++ TyUnion.wordsAll digest rest

end

/-- Types, unions and shapes are hashed by the digest of their words. -/
instance : Hashable Ty := ⟨fun ty => hash (ty.words hash)⟩

instance : Hashable TyUnion := ⟨fun union => hash (union.words hash)⟩

instance : Hashable Shape := ⟨fun shape => hash (shape.words hash)⟩

end TypeLattice
