/-
**The names of types on screen.**

A type is named as a reader of the program would write it. The name of a local array cannot be given
without its store; the first one met, from left to right, is reported.
-/

import TypeLattice.ClassTable
import TypeLattice.Signature

namespace TypeLattice

/-- A name, or the violation met in finding it. -/
abbrev Named := Except Violation String

/-- The name of the arrays behind which `base` stands. -/
def Naming.arrayName (naming : Naming) : Ty → String
  | .instanceOf (.classObject cls) => naming.className cls
  | _ => "Array"

/-- The name of a sequence. -/
def seqName (arrayName elemName : String) : String := s!"{arrayName}[{elemName}]"

/-- The name of a tuple. -/
def tupleName (elemNames : List String) : String :=
  let names := ", ".intercalate elemNames
  s!"[{names}]"

/-- The names of the members of a union, side by side. -/
def unionName (memberNames : List String) : String :=
  if memberNames.isEmpty then "bot" else " | ".intercalate memberNames

mutual

/-- The name of a type. -/
def Ty.screenName (naming : Naming) : Ty → Named
  | .any => .ok "untyped"
  | .classObject cls =>
    let name := naming.className cls
    .ok s!"singleton({name})"
  | .instanceOf (.classObject cls) => .ok (naming.className cls)
  | .instanceOf cls => cls.screenName naming
  | .code id => .ok s!"<code {id.text}>"
  | .closure _ _ underlying => underlying.screenName naming
  | .typedClosure params result _ => do
    let paramNames ← TyUnion.screenNames naming params
    let resultName ← result.screenName naming
    let names := ", ".intercalate paramNames
    return s!"^({names}) -> {resultName}"
  | .literal value base => do
    let baseName ← base.screenName naming
    return s!"{baseName}({value.text})"
  | .localArray id _ => .error (.unresolvedName id)
  | .array shape base => shape.nameAs naming (naming.arrayName base)
termination_by structural ty => ty

/-- The name of a union: its members' names in order, or `bot` if it has none. -/
def TyUnion.screenName (naming : Naming) : TyUnion → Named
  | ⟨members⟩ => do
    let names ← Ty.screenNames naming members
    return unionName names
termination_by structural union => union

/-- The name of a shape, with `arrayName` for the arrays that have it. -/
def Shape.nameAs (naming : Naming) (arrayName : String) : Shape → Named
  | .seq elem => do
    let elemName ← elem.screenName naming
    return seqName arrayName elemName
  | .tuple elems => do
    let elemNames ← TyUnion.screenNames naming elems
    return tupleName elemNames
termination_by structural shape => shape

/-- The names of types. -/
def Ty.screenNames (naming : Naming) : List Ty → Except Violation (List String)
  | [] => .ok []
  | ty :: rest => do
    let name ← ty.screenName naming
    let others ← Ty.screenNames naming rest
    return name :: others
termination_by structural types => types

/-- The names of unions. -/
def TyUnion.screenNames (naming : Naming) : List TyUnion → Except Violation (List String)
  | [] => .ok []
  | union :: rest => do
    let name ← union.screenName naming
    let others ← TyUnion.screenNames naming rest
    return name :: others
termination_by structural unions => unions

end

/-- The name of a shape. -/
def Shape.screenName (naming : Naming) (shape : Shape) : Named := shape.nameAs naming "Array"

namespace Signature

/-- The name of the receiver of a call. The receiver of a singleton method is named as its class. -/
def receiverName (naming : Naming) (signature : Signature) : Named :=
  match signature.receiver, signature.isSingleton with
  | .classObject cls, true => .ok (naming.className cls)
  | receiver, _ => receiver.screenName naming

/-- The name of the block of a call, after a blank and between braces. -/
def blockName (naming : Naming) : Option Ty → Named
  | none => .ok ""
  | some block => do
    let name ← block.screenName naming
    return " \x7b " ++ name ++ " \x7d"

/-- The name of a call: receiver, member, arguments and block. -/
def screenName (naming : Naming) (signature : Signature) : Named := do
  let receiver ← signature.receiverName naming
  let argNames ← Ty.screenNames naming signature.args
  let block ← blockName naming signature.block
  let mark := if signature.isSingleton then "." else "#"
  let member := naming.memberName signature.member
  let args := ", ".intercalate argNames
  return s!"{receiver}{mark}{member}({args}){block}"

end Signature

end TypeLattice
