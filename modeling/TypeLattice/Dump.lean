/-
**The structure of types as text.**

Every constructor is written with its name and fields, so that values which are built differently are
written differently: a field list stands between braces, a list between brackets, a set between
braces, and texts are quoted.
-/

import TypeLattice.Signature

namespace TypeLattice

namespace Dump

/-- A constructor with named fields. -/
def record (name : String) (fields : List (String × String)) : String :=
  let parts := fields.map fun field => field.1 ++ ": " ++ field.2
  name ++ " \x7b " ++ ", ".intercalate parts ++ " \x7d"

/-- A constructor with one field. -/
def wrapped (name field : String) : String := s!"{name}({field})"

/-- A list. -/
def list (items : List String) : String :=
  let parts := ", ".intercalate items
  s!"[{parts}]"

/-- A set, in the order of its members. -/
def set (items : List String) : String := "\x7b" ++ ", ".intercalate items ++ "\x7d"

/-- An optional value. -/
def option : Option String → String
  | some value => wrapped "Some" value
  | none => "None"

/-- A truth value. -/
def flag (value : Bool) : String := Constant.booleanText value

end Dump

/-- The structure of a class reference. -/
def ClassRef.dump (cls : ClassRef) : String :=
  Dump.record "ClassType" [("idx", cls.id.dump), ("name", Dump.option (cls.name.map Text.quoted))]

/-- The structure of a constant. -/
def Constant.dump : Constant → String
  | symbol name => Dump.wrapped "Symbol" (Text.quoted name)
  | integer value => Dump.wrapped "Integer" (toString value)
  | boolean value => Dump.wrapped "Boolean" (Dump.flag value)
  | string content => Dump.wrapped "String" (Text.quoted content)
  | regex source => Dump.wrapped "Regex" (Text.quoted source)
  | range first last exclusive =>
    Dump.record "Range" [("begin", Dump.option (first.map toString)),
      ("end", Dump.option (last.map toString)), ("exclusive", Dump.flag exclusive)]

mutual

/-- The structure of a type. -/
def Ty.dump : Ty → String
  | .any => "Any"
  | .classObject cls => Dump.wrapped "Class" cls.dump
  | .instanceOf cls => Dump.record "Instance" [("class", cls.dump)]
  | .code id => Dump.wrapped "Code" id.dump
  | .closure code frame underlying =>
    Dump.record "Closure" [("code", code.dump), ("env", frame.dump), ("underlying", underlying.dump)]
  | .typedClosure params result underlying =>
    Dump.record "TypedClosure" [("params", Dump.list (TyUnion.dumps params)), ("ret", result.dump),
      ("underlying", underlying.dump)]
  | .literal value base => Dump.record "Literal" [("value", value.dump), ("base", base.dump)]
  | .localArray id base => Dump.record "LocalArray" [("id", id.dump), ("base", base.dump)]
  | .array shape base => Dump.record "Array" [("shape", shape.dump), ("base", base.dump)]

/-- The structure of a union. -/
def TyUnion.dump : TyUnion → String
  | ⟨members⟩ => Dump.set (Ty.dumps members)

/-- The structure of a shape. -/
def Shape.dump : Shape → String
  | .seq elem => Dump.wrapped "Seq" elem.dump
  | .tuple elems => Dump.wrapped "Tuple" (Dump.list (TyUnion.dumps elems))

/-- The structure of each of the types. -/
def Ty.dumps : List Ty → List String
  | [] => []
  | ty :: rest => ty.dump :: Ty.dumps rest

/-- The structure of each of the unions. -/
def TyUnion.dumps : List TyUnion → List String
  | [] => []
  | union :: rest => union.dump :: TyUnion.dumps rest

end

/-- The structure of a signature. -/
def Signature.dump (signature : Signature) : String :=
  Dump.record "Signature" [("receiver_type", signature.receiver.dump),
    ("is_singleton", Dump.flag signature.isSingleton), ("member_id", signature.member.dump),
    ("arg_types", Dump.list (Ty.dumps signature.args)),
    ("block_type", Dump.option (signature.block.map Ty.dump))]

end TypeLattice
