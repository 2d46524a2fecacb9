/-
**Signatures of calls.**

A signature is the receiver, member, arguments and block of a call. It outlives every array store, so
its types hold no local arrays.
-/

import TypeLattice.Dispatch
import TypeLattice.Ty.Closed
import TypeLattice.Ty.HashFeed

namespace TypeLattice

/-- A call as seen from outside. -/
structure Signature where
  receiver : Ty
  isSingleton : Bool
  member : Atom
  args : List Ty
  block : Option Ty

namespace Signature

/-- Form a signature. None of its types may hold a local array. -/
def make (receiver : Ty) (isSingleton : Bool) (member : Atom) (args : List Ty) (block : Option Ty) :
    Except Violation Signature :=
  if receiver.isContextFree && Ty.allContextFree args && block.all Ty.isContextFree then
    .ok ⟨receiver, isSingleton, member, args, block⟩
  else .error .unresolvedSignature

/-- The number of arguments. -/
def arity (signature : Signature) : Nat := signature.args.length

/-- The method that the call reaches. On an array it is looked up through the type behind it. -/
def method? {μ : Type} (table : ClassTable μ) (signature : Signature) : Except Violation (Option μ) :=
  match signature.receiver with
  | .array _ base => base.method? table signature.member
  | receiver => receiver.method? table signature.member

/-- Signatures are equal when all their parts are. -/
instance : BEq Signature where
  beq first second :=
    first.receiver == second.receiver && first.isSingleton == second.isSingleton &&
      first.member == second.member && first.args == second.args && first.block == second.block

/-- The words of an optional type. -/
def optionWords (digest : Digest) : Option Ty → List HashWord
  | none => [.tag 0]
  | some ty => .tag 1 :: ty.words digest

/-- The words of a signature: its parts in order. -/
def words (digest : Digest) (signature : Signature) : List HashWord :=
  signature.receiver.words digest ++ .boolean signature.isSingleton :: .id signature.member.val ::
    .size signature.args.length :: signature.args.flatMap (Ty.words digest) ++
    optionWords digest signature.block

instance : Hashable Signature := ⟨fun signature => hash (signature.words hash)⟩

end Signature

end TypeLattice
