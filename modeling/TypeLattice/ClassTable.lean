/-
**Classes with single inheritance.**

A class table numbers classes in the order in which they are registered and keeps, for each, its
name, its superclass and its instance and singleton methods. A superclass is registered before its
subclasses, so the classes above a class are all older than it: the table is a list with the newest
class first, and a search for a method walks down that list.

* `newClass` registers a class under one that is registered already. It leaves a table behind whether
  it is accepted or not;
* `addMethod`, `addSingletonMethod` define a method, in place of an earlier one of that name;
* `method?`, `singletonMethod?` find the method at the nearest class that has one;
* `registerCore` registers the core classes, and `withCore` is the table with no others.
-/

import TypeLattice.CoreClasses
import TypeLattice.Interner
import TypeLattice.Step
import TypeLattice.Violation

namespace TypeLattice

/-- What a table keeps for a class. Of two methods of one name the first in the list counts. -/
structure ClassEntry (μ : Type) where
  name : Atom
  superclass : Option ClassId
  methods : List (Atom × μ)
  singletonMethods : List (Atom × μ)

/-- The registered classes, and the names of classes and members. -/
structure ClassTable (μ : Type) where
  names : Interner
  /-- The classes, newest first. The class with number `k` has `k` classes after it. -/
  classes : List (ClassEntry μ)

/-- How classes and members are named in displayed text. -/
structure Naming where
  className : ClassRef → String
  memberName : Atom → String

/-- A step on a class table, which may breach its contract. -/
abbrev TableM (μ : Type) := EStateM Violation (ClassTable μ)

namespace ClassTable

variable {μ : Type}

/-- The table with no class. It knows the common member names. -/
def empty : ClassTable μ := ⟨Interner.empty.internCommon, []⟩

/-- The number of classes. -/
def size (table : ClassTable μ) : Nat := table.classes.length

/-- Whether a class is in the table. -/
def isRegistered (table : ClassTable μ) (cls : ClassId) : Bool := cls.val.toNat < table.size

/-- The entry of the class with number `number` in a list with the newest class first. -/
def entryIn : List (ClassEntry μ) → Nat → Option (ClassEntry μ)
  | [], _ => none
  | entry :: older, number => if number = older.length then some entry else entryIn older number

/-- The entry of a class. -/
def entry? (table : ClassTable μ) (cls : ClassId) : Option (ClassEntry μ) :=
  entryIn table.classes cls.val.toNat

/-- Put a class with the given superclass on top of the table. -/
def register (table : ClassTable μ) (name : String) (parent : Option ClassId) :
    ClassRef × ClassTable μ :=
  let (atom, names) := table.names.intern name
  let entry : ClassEntry μ := ⟨atom, parent, [], []⟩
  (⟨⟨table.size.toUInt32⟩, some name⟩, { names, classes := entry :: table.classes })

/-- Register a class. A superclass has to be in the table already. -/
def newClass (name : String) (superclass : Option ClassRef) : TableM μ ClassRef := fun table =>
  let accept (parent : Option ClassId) :=
    let (cls, extended) := table.register name parent
    .ok cls extended
  match superclass with
  | none => accept none
  | some parent =>
    if table.isRegistered parent.id then accept (some parent.id)
    else .error (.unknownSuperclass parent.id) table

/-- A class whose superclass is there is put on top. -/
theorem newClass_of_registered {table : ClassTable μ} {superclass : Option ClassRef} (name : String)
    (registered : ∀ parent, superclass = some parent → parent.id.val.toNat < table.size) :
    newClass name superclass table =
      .ok ⟨⟨table.size.toUInt32⟩, some name⟩ (table.register name (superclass.map ClassRef.id)).2 := by
  cases superclass with
  | none => rfl
  | some parent =>
      have isThere : table.isRegistered parent.id = true := decide_eq_true (registered parent rfl)
      simp only [newClass, isThere, if_true]
      rfl

/-- A class whose superclass is not there is refused, and the table stays as it is. -/
theorem newClass_of_unknown {table : ClassTable μ} {parent : ClassRef} (name : String)
    (unknown : table.size ≤ parent.id.val.toNat) :
    newClass name (some parent) table = .error (.unknownSuperclass parent.id) table := by
  have absent : table.isRegistered parent.id = false := decide_eq_false (Nat.not_lt.mpr unknown)
  simp [newClass, absent]

/-- The number of a member name. -/
def internMember (table : ClassTable μ) (name : String) : Atom × ClassTable μ :=
  let (atom, names) := table.names.intern name
  (atom, { table with names })

/-- A class by its id, with its name if it is registered. -/
def classRef (table : ClassTable μ) (cls : ClassId) : ClassRef :=
  ⟨cls, (table.entry? cls).map fun entry => table.names.resolve entry.name⟩

/-- The superclass of a class. -/
def superclass? (table : ClassTable μ) (cls : ClassRef) : Option ClassRef :=
  (table.entry? cls.id).bind fun entry => entry.superclass.map table.classRef

/-- Change the entry of the class with number `number`. -/
def modifyIn (change : ClassEntry μ → ClassEntry μ) :
    List (ClassEntry μ) → Nat → List (ClassEntry μ)
  | [], _ => []
  | entry :: older, number =>
    if number = older.length then change entry :: older else entry :: modifyIn change older number

/-- Define an instance method. A class that is not registered takes none. -/
def addMethod (table : ClassTable μ) (cls : ClassRef) (member : Atom) (method : μ) : ClassTable μ :=
  let define (entry : ClassEntry μ) := { entry with methods := (member, method) :: entry.methods }
  { table with classes := modifyIn define table.classes cls.id.val.toNat }

/-- Define a singleton method. A class that is not registered takes none. -/
def addSingletonMethod (table : ClassTable μ) (cls : ClassRef) (member : Atom) (method : μ) :
    ClassTable μ :=
  let define (entry : ClassEntry μ) :=
    { entry with singletonMethods := (member, method) :: entry.singletonMethods }
  { table with classes := modifyIn define table.classes cls.id.val.toNat }

/-- Search a list of classes, newest first, for a member: at the class with number `number`, then at
its superclass, and so on upward. `select` tells which methods of a class are meant. -/
def searchIn (select : ClassEntry μ → List (Atom × μ)) (member : Atom) :
    List (ClassEntry μ) → Nat → Option μ
  | [], _ => none
  | entry :: older, number =>
    if number = older.length then
      match (select entry).lookup member, entry.superclass with
      | some method, _ => some method
      | none, some parent => searchIn select member older parent.val.toNat
      | none, none => none
    else searchIn select member older number

/-- The instance method of a class, its own or inherited. -/
def method? (table : ClassTable μ) (cls : ClassRef) (member : Atom) : Option μ :=
  searchIn ClassEntry.methods member table.classes cls.id.val.toNat

/-- The singleton method of a class, its own or inherited. -/
def singletonMethod? (table : ClassTable μ) (cls : ClassRef) (member : Atom) : Option μ :=
  searchIn ClassEntry.singletonMethods member table.classes cls.id.val.toNat

/-- The instance method of the class that a type denotes; a type other than a class denotes none. -/
def methodOfType? (table : ClassTable μ) (cls : Ty) (member : Atom) : Option μ :=
  match cls with
  | .classObject ref => table.method? ref member
  | _ => none

/-- The name of a class: as registered, else as the reference has it, else by number. -/
def className (table : ClassTable μ) (cls : ClassRef) : String :=
  match table.entry? cls.id, cls.name with
  | some entry, _ => table.names.resolve entry.name
  | none, some name => name
  | none, none => s!"<class {cls.id.val}>"

/-- The name of a member. -/
def memberName (table : ClassTable μ) (member : Atom) : String := table.names.resolve member

/-- The names of a table's classes and members. -/
def naming (table : ClassTable μ) : Naming := ⟨table.className, table.memberName⟩

/-- Register the core classes: the root class first, and the others under it. -/
def registerCore : TableM μ CoreClasses := do
  let object ← newClass "Object" none
  let nil ← newClass "NilClass" (some object)
  let boolean ← newClass "Boolean" (some object)
  let integer ← newClass "Integer" (some object)
  let string ← newClass "String" (some object)
  let symbol ← newClass "Symbol" (some object)
  let array ← newClass "Array" (some object)
  let range ← newClass "Range" (some object)
  let regexp ← newClass "Regexp" (some object)
  let closure ← newClass "Proc" (some object)
  return { object, nil, boolean, integer, string, symbol, array, range, regexp, closure }

/-- The table of the core classes. -/
def withCore : ClassTable μ := leftBehind (registerCore empty)

end ClassTable

/-- The core classes, by the numbers and names they have in `ClassTable.withCore`. -/
def CoreClasses.standard : CoreClasses where
  object := ⟨⟨0⟩, some "Object"⟩
  nil := ⟨⟨1⟩, some "NilClass"⟩
  boolean := ⟨⟨2⟩, some "Boolean"⟩
  integer := ⟨⟨3⟩, some "Integer"⟩
  string := ⟨⟨4⟩, some "String"⟩
  symbol := ⟨⟨5⟩, some "Symbol"⟩
  array := ⟨⟨6⟩, some "Array"⟩
  range := ⟨⟨7⟩, some "Range"⟩
  regexp := ⟨⟨8⟩, some "Regexp"⟩
  closure := ⟨⟨9⟩, some "Proc"⟩

end TypeLattice
