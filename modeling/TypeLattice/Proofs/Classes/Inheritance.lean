/-
**A method is found at the nearest class that has one.**

What a class table answers depends on all requests that it served: which classes they registered, and
which methods they defined on a class and on those above it. Here the answers are read off the requests
alone.

* `Request`, `serveAll`: requests to a table, served in turn;
* `registrations`, `lastDefined?`: the classes that requests register, and the method that they define
  last;
* `Records`, `Records.serve`, `Records.serveAll`: a table holds what the requests say;
* `Lineage`, `exists_lineage`: a class and those above it, which are finitely many;
* `lookup_finds_nearest_ancestor`: what this says about any requests to a new table.
-/

import TypeLattice.ClassTable
import TypeLattice.Proofs.Classes.Search
import TypeLattice.Proofs.Names.Interning

namespace TypeLattice.ClassTable

variable {μ : Type}

/-! ### Requests -/

/-- The two kinds of methods that a class has. -/
inductive MethodKind where
  | ordinary
  | singleton
deriving DecidableEq

/-- The methods of one kind that a class has itself. -/
def MethodKind.select : MethodKind → ClassEntry μ → List (Atom × μ)
  | ordinary => ClassEntry.methods
  | singleton => ClassEntry.singletonMethods

/-- A request to a class table. -/
inductive Request (μ : Type) where
  | newClass (name : String) (superclass : Option ClassRef)
  | define (kind : MethodKind) (cls : ClassRef) (member : Atom) (method : μ)
  | internMember (name : String)

/-- Serve a request. -/
def serve (table : ClassTable μ) : Request μ → ClassTable μ
  | .newClass name superclass => leftBehind (ClassTable.newClass name superclass table)
  | .define .ordinary cls member method => table.addMethod cls member method
  | .define .singleton cls member method => table.addSingletonMethod cls member method
  | .internMember name => (table.internMember name).2

/-- Serve requests in turn. -/
def serveAll (table : ClassTable μ) (requests : List (Request μ)) : ClassTable μ :=
  requests.foldl serve table

/-- A superclass, where there is one, is in the table or not. -/
theorem registered_or_unknown (table : ClassTable μ) (superclass : Option ClassRef) :
    (∀ parent, superclass = some parent → parent.id.val.toNat < table.size) ∨
      ∃ parent, superclass = some parent ∧ table.size ≤ parent.id.val.toNat := by
  cases superclass with
  | none => exact .inl nofun
  | some parent =>
      by_cases registered : parent.id.val.toNat < table.size
      · exact .inl fun other same => Option.some.inj same ▸ registered
      · exact .inr ⟨parent, rfl, Nat.not_lt.mp registered⟩

/-! ### What requests say -/

/-- A class as it was registered. -/
structure Registration where
  name : String
  superclass : Option ClassId
deriving DecidableEq

/-- The classes after one more request. A superclass has to be among them already. -/
def enroll (classes : List Registration) : Request μ → List Registration
  | .newClass name none => classes ++ [⟨name, none⟩]
  | .newClass name (some parent) =>
    if parent.id.val.toNat < classes.length then classes ++ [⟨name, some parent.id⟩] else classes
  | .define .. | .internMember _ => classes

/-- The classes that requests register, oldest first. -/
def registrations (history : List (Request μ)) : List Registration := history.foldl enroll []

/-- The method that a request defines for a member of a class. -/
def Request.method? (kind : MethodKind) (cls : ClassId) (member : Atom) : Request μ → Option μ
  | .define other ref name method =>
    if other = kind ∧ ref.id = cls ∧ name = member then some method else none
  | .newClass .. | .internMember _ => none

/-- The methods that requests define for a member of a class, where `classes` are there before. A
definition counts if the class is there by then. -/
def definitions (kind : MethodKind) (cls : ClassId) (member : Atom) :
    List Registration → List (Request μ) → List μ
  | _, [] => []
  | classes, request :: later =>
    let defined := if cls.val.toNat < classes.length then request.method? kind cls member else none
    defined.toList ++ definitions kind cls member (enroll classes request) later

/-- The method that requests define last for a member of a class. -/
def lastDefined? (history : List (Request μ)) (kind : MethodKind) (cls : ClassId) (member : Atom) :
    Option μ :=
  (definitions kind cls member [] history).getLast?

/-- A class and those above it, nearest first. A class that is not registered has none. -/
inductive Lineage (classes : List Registration) : ClassId → List ClassId → Prop
  | unregistered {cls : ClassId} : classes[cls.val.toNat]? = none → Lineage classes cls []
  | root {cls : ClassId} {name : String} : classes[cls.val.toNat]? = some ⟨name, none⟩ →
      Lineage classes cls [cls]
  | under {cls parent : ClassId} {name : String} {chain : List ClassId} :
      classes[cls.val.toNat]? = some ⟨name, some parent⟩ → Lineage classes parent chain →
      Lineage classes cls (cls :: chain)

theorem enroll_of_registered {classes : List Registration} {name : String}
    {superclass : Option ClassRef}
    (registered : ∀ parent, superclass = some parent → parent.id.val.toNat < classes.length) :
    enroll classes (.newClass name superclass : Request μ) =
      classes ++ [⟨name, superclass.map ClassRef.id⟩] := by
  cases superclass with
  | none => rfl
  | some parent => rw [enroll, if_pos (registered parent rfl), Option.map_some]

theorem registrations_snoc (history : List (Request μ)) (request : Request μ) :
    registrations (history ++ [request]) = enroll (registrations history) request := by
  rw [registrations, List.foldl_append]
  rfl

theorem definitions_append (kind : MethodKind) (cls : ClassId) (member : Atom)
    (history later : List (Request μ)) (classes : List Registration) :
    definitions kind cls member classes (history ++ later) =
      definitions kind cls member classes history ++
        definitions kind cls member (history.foldl enroll classes) later := by
  induction history generalizing classes with
  | nil => rfl
  | cons request rest ih =>
      simp only [List.cons_append, definitions, ih, List.foldl_cons, List.append_assoc]

/-- The last request decides, if it defines the method and the class is there. -/
theorem lastDefined?_snoc (history : List (Request μ)) (request : Request μ) (kind : MethodKind)
    (cls : ClassId) (member : Atom) :
    lastDefined? (history ++ [request]) kind cls member =
      (if cls.val.toNat < (registrations history).length then request.method? kind cls member
        else none).or (lastDefined? history kind cls member) := by
  have alone (found : Option μ) : found.toList.getLast? = found := by cases found <;> rfl
  simp only [lastDefined?, definitions_append, definitions, List.append_nil, List.getLast?_append, alone]
  rfl

/-- Each superclass is older than its class. -/
def Ordered (classes : List Registration) : Prop :=
  ∀ (number : Nat) (name : String) (parent : ClassId),
    classes[number]? = some ⟨name, some parent⟩ → parent.val.toNat < number

theorem Ordered.append {classes : List Registration} (ordered : Ordered classes)
    {registration : Registration}
    (known : ∀ parent, registration.superclass = some parent → parent.val.toNat < classes.length) :
    Ordered (classes ++ [registration]) := by
  intro number name parent found
  by_cases early : number < classes.length
  · rw [List.getElem?_append_left early] at found
    exact ordered number name parent found
  · rw [List.getElem?_append_right (by omega), List.getElem?_singleton] at found
    split at found
    · cases found
      have := known parent rfl
      omega
    · cases found

theorem Ordered.enroll {classes : List Registration} (ordered : Ordered classes)
    (request : Request μ) : Ordered (enroll classes request) := by
  cases request with
  | newClass name superclass =>
      cases superclass with
      | none => exact ordered.append nofun
      | some parent =>
          simp only [ClassTable.enroll]
          split
          · rename_i registered
            refine ordered.append fun other same => ?_
            cases same
            exact registered
          · exact ordered
  | define | internMember => exact ordered

/-- **Superclasses are older**, whatever the requests. -/
theorem ordered_registrations (history : List (Request μ)) : Ordered (registrations history) := by
  have all (classes : List Registration) (ordered : Ordered classes) :
      Ordered (history.foldl ClassTable.enroll classes) := by
    induction history generalizing classes with
    | nil => exact ordered
    | cons request rest ih => exact ih _ (ordered.enroll request)
  exact all [] nofun

/-- **The classes above a class are finitely many.** -/
theorem exists_lineage {classes : List Registration} (ordered : Ordered classes) (cls : ClassId) :
    ∃ chain, Lineage classes cls chain := by
  induction number : cls.val.toNat using Nat.strongRecOn generalizing cls with
  | _ number ih =>
      subst number
      cases found : classes[cls.val.toNat]? with
      | none => exact ⟨[], .unregistered found⟩
      | some registration =>
          obtain ⟨name, _ | parent⟩ := registration
          · exact ⟨[cls], .root found⟩
          · obtain ⟨chain, above⟩ := ih _ (ordered _ _ _ found) parent rfl
            exact ⟨cls :: chain, .under found above⟩

/-! ### The list of classes -/

theorem length_modifyIn (change : ClassEntry μ → ClassEntry μ) (classes : List (ClassEntry μ))
    (number : Nat) : (modifyIn change classes number).length = classes.length := by
  induction classes with
  | nil => rfl
  | cons entry older ih =>
      rw [modifyIn]
      split
      · rfl
      · rw [List.length_cons, List.length_cons, ih]

/-- A change reaches one entry. -/
theorem entryIn_modifyIn (change : ClassEntry μ → ClassEntry μ) (classes : List (ClassEntry μ))
    (number other : Nat) :
    entryIn (modifyIn change classes number) other =
      (entryIn classes other).map fun entry => if other = number then change entry else entry := by
  induction classes with
  | nil => rfl
  | cons entry older ih =>
      rw [modifyIn]
      split
      · rename_i here
        simp only [entryIn, here]
        split
        · rfl
        · simp
      · rename_i elsewhere
        simp only [entryIn, length_modifyIn, ih]
        split
        · rename_i newest
          simp [newest, Ne.symm elsewhere]
        · rfl

/-! ### A table holds what the requests say -/

/-- Define a method of a kind on a class, in place of an earlier one. -/
def MethodKind.add (member : Atom) (method : μ) : MethodKind → ClassEntry μ → ClassEntry μ
  | ordinary, entry => { entry with methods := (member, method) :: entry.methods }
  | singleton, entry => { entry with singletonMethods := (member, method) :: entry.singletonMethods }

theorem serve_define (table : ClassTable μ) (kind : MethodKind) (cls : ClassRef) (member : Atom)
    (method : μ) :
    table.serve (.define kind cls member method) =
      { table with classes := modifyIn (kind.add member method) table.classes cls.id.val.toNat } := by
  cases kind <;> rfl

/-- The kinds are kept apart, and so are the members. -/
theorem lookup_select_add (kind other : MethodKind) (member name : Atom) (method : μ)
    (entry : ClassEntry μ) :
    (kind.select (other.add name method entry)).lookup member =
      (if other = kind ∧ name = member then some method else none).or
        ((kind.select entry).lookup member) := by
  by_cases same : member = name
  · subst same
    cases kind <;> cases other <;> simp [MethodKind.select, MethodKind.add]
  · have differs : (member == name) = false := by simpa using same
    cases kind <;> cases other <;>
      simp [MethodKind.select, MethodKind.add, List.lookup_cons, differs, Ne.symm same]

/-- A table holds the classes that requests register, and the methods that they define last. -/
structure Records (table : ClassTable μ) (history : List (Request μ)) : Prop where
  size : table.size = (registrations history).length
  entry : ∀ (number : Nat) (entry : ClassEntry μ), entryIn table.classes number = some entry →
    ∃ registration, (registrations history)[number]? = some registration ∧
      entry.superclass = registration.superclass ∧
      table.names.index[registration.name]? = some entry.name
  methods : ∀ (kind : MethodKind) (cls : ClassId) (member : Atom),
    ((entryIn table.classes cls.val.toNat).bind fun entry => (kind.select entry).lookup member) =
      lastDefined? history kind cls member

theorem records_empty : Records (empty : ClassTable μ) [] :=
  ⟨rfl, nofun, fun _ _ _ => rfl⟩

namespace Records

variable {table : ClassTable μ} {history : List (Request μ)}

/-- A class is put on top, with the name and the superclass of its registration. -/
theorem register (records : Records table history) {name : String} {parent : Option ClassId}
    {superclass : Option ClassRef}
    (enrolled : enroll (registrations history) (.newClass name superclass : Request μ) =
      registrations history ++ [⟨name, parent⟩]) :
    Records (table.register name parent).2 (history ++ [.newClass name superclass]) := by
  have size := records.size
  unfold ClassTable.size at size
  refine ⟨?_, fun number entry found => ?_, fun kind cls member => ?_⟩
  · rw [registrations_snoc, enrolled, List.length_append, ← records.size]
    rfl
  · rw [registrations_snoc, enrolled]
    simp only [ClassTable.register, entryIn] at found ⊢
    split at found
    · rename_i newest
      cases found
      refine ⟨⟨name, parent⟩, ?_, rfl, ?_⟩
      · rw [newest, size, List.getElem?_concat_length]
      · rw [Interner.index_intern, if_pos rfl]
    · obtain ⟨registration, known, sameParent, sameName⟩ := records.entry number entry found
      refine ⟨registration, ?_, sameParent, Interner.index_intern_of_known sameName name⟩
      rw [List.getElem?_append_left (by rw [← size]; exact lt_of_entryIn found), known]
  · rw [lastDefined?_snoc, ← records.methods]
    simp only [Request.method?, ite_self, Option.none_or, ClassTable.register, entryIn]
    split
    · -- The new class has no method, and none was defined on it while it was not there.
      rename_i newest
      have before : entryIn table.classes cls.val.toNat = none :=
        entryIn_eq_none_iff.mpr (Nat.le_of_eq newest.symm)
      rw [before]
      cases kind <;> rfl
    · rfl

theorem define (records : Records table history) (kind : MethodKind) (cls : ClassRef) (member : Atom)
    (method : μ) :
    Records (table.serve (.define kind cls member method))
      (history ++ [.define kind cls member method]) := by
  have same : registrations (history ++ [.define kind cls member method]) = registrations history := by
    rw [registrations_snoc]
    rfl
  rw [serve_define]
  refine ⟨?_, fun number entry found => ?_, fun other ref name => ?_⟩
  · rw [same, ← records.size]
    exact length_modifyIn _ _ _
  · simp only [entryIn_modifyIn, Option.map_eq_some_iff] at found
    obtain ⟨before, found, rfl⟩ := found
    rw [same]
    obtain ⟨registration, known, sameParent, sameName⟩ := records.entry number before found
    have kept : (kind.add member method before).superclass = before.superclass ∧
        (kind.add member method before).name = before.name := by cases kind <;> exact ⟨rfl, rfl⟩
    refine ⟨registration, known, ?_, ?_⟩ <;> split
    · rw [kept.1, sameParent]
    · exact sameParent
    · rw [kept.2, sameName]
    · exact sameName
  · rw [lastDefined?_snoc, ← records.methods, ← records.size, entryIn_modifyIn]
    cases found : entryIn table.classes ref.val.toNat with
    | none =>
        -- A class that is not there takes no method, and the definition does not count.
        have absent : ¬ ref.val.toNat < table.size := Nat.not_lt.mpr (entryIn_eq_none_iff.mp found)
        rw [if_neg absent]
        rfl
    | some entry =>
        have registered : ref.val.toNat < table.size := lt_of_entryIn found
        rw [if_pos registered, Option.map_some, Option.bind_some, Option.bind_some, Request.method?]
        by_cases here : cls.id = ref
        · simp [here, lookup_select_add]
        · have apart : ref.val.toNat ≠ cls.id.val.toNat := fun same =>
            here (congrArg ClassId.mk (UInt32.toNat_inj.mp same.symm))
          simp [here, apart]

/-- A request that neither registers a class nor defines a method. -/
theorem of_same_classes (records : Records table history) {request : Request μ}
    {next : ClassTable μ} (sameClasses : next.classes = table.classes)
    (namesKept : ∀ (text : String) (atom : Atom), table.names.index[text]? = some atom →
      next.names.index[text]? = some atom)
    (enrolled : enroll (registrations history) request = registrations history)
    (silent : ∀ kind cls member, request.method? kind cls member = none) :
    Records next (history ++ [request]) := by
  refine ⟨?_, fun number entry found => ?_, fun kind cls member => ?_⟩
  · rw [registrations_snoc, enrolled, ← records.size, ClassTable.size, sameClasses]
    rfl
  · rw [sameClasses] at found
    obtain ⟨registration, known, sameParent, sameName⟩ := records.entry number entry found
    rw [registrations_snoc, enrolled]
    exact ⟨registration, known, sameParent, namesKept _ _ sameName⟩
  · rw [lastDefined?_snoc, ← records.methods, silent, ite_self, Option.none_or, sameClasses]

/-- **One request keeps the table in step with what the requests say.** -/
theorem serve (records : Records table history) (request : Request μ) :
    Records (table.serve request) (history ++ [request]) := by
  cases request with
  | newClass name superclass =>
      rw [ClassTable.serve]
      rcases table.registered_or_unknown superclass with registered | ⟨parent, rfl, unknown⟩
      · rw [newClass_of_registered name registered]
        rw [records.size] at registered
        exact records.register (enroll_of_registered registered)
      · rw [newClass_of_unknown name unknown]
        rw [records.size] at unknown
        exact records.of_same_classes rfl (fun _ _ known => known)
          (by rw [enroll, if_neg (Nat.not_lt.mpr unknown)]) fun _ _ _ => rfl
  | define kind cls member method => exact records.define kind cls member method
  | internMember name =>
      exact records.of_same_classes rfl (fun _ _ known => Interner.index_intern_of_known known name)
        rfl fun _ _ _ => rfl

/-- **What one request keeps, requests in turn keep.** -/
theorem serveAll (records : Records table history) (later : List (Request μ)) :
    Records (table.serveAll later) (history ++ later) := by
  induction later generalizing table history with
  | nil => rwa [List.append_nil]
  | cons request rest ih =>
      have after := ih (records.serve request)
      rwa [List.append_assoc] at after

theorem exists_entry (records : Records table history) {number : Nat} {registration : Registration}
    (known : (registrations history)[number]? = some registration) :
    ∃ entry, entryIn table.classes number = some entry ∧ entry.superclass = registration.superclass ∧
      table.names.index[registration.name]? = some entry.name := by
  cases found : entryIn table.classes number with
  | none =>
      have beyond : table.size ≤ number := entryIn_eq_none_iff.mp found
      rw [records.size] at beyond
      rw [List.getElem?_eq_none beyond] at known
      cases known
  | some entry =>
      obtain ⟨other, known', sameParent, sameName⟩ := records.entry number entry found
      obtain rfl : other = registration := Option.some.inj (known'.symm.trans known)
      exact ⟨entry, rfl, sameParent, sameName⟩

theorem olderAbove (records : Records table history) : OlderAbove table.classes := by
  intro number entry parent found above
  obtain ⟨⟨name, superclass⟩, known, sameParent, -⟩ := records.entry number entry found
  rw [above] at sameParent
  cases sameParent
  exact ordered_registrations history number name parent known

/-- **A search finds what was defined last, at the nearest class that has it.** The induction is on the
classes above: the walk takes one of them at each step. -/
theorem searchIn_eq_findSome? (records : Records table history) (kind : MethodKind) (member : Atom)
    {cls : ClassId} {chain : List ClassId} (lineage : Lineage (registrations history) cls chain) :
    searchIn kind.select member table.classes cls.val.toNat =
      chain.findSome? (lastDefined? history kind · member) := by
  have walk := searchIn_eq kind.select member records.olderAbove
  have own {cls : ClassId} {entry : ClassEntry μ}
      (found : entryIn table.classes cls.val.toNat = some entry) :
      (kind.select entry).lookup member = lastDefined? history kind cls member := by
    rw [← records.methods, found, Option.bind_some]
  induction lineage with
  | unregistered absent =>
      have beyond := List.getElem?_eq_none_iff.mp absent
      rw [← records.size] at beyond
      rw [walk, entryIn_eq_none_iff.mpr beyond]
      rfl
  | root known =>
      obtain ⟨entry, found, noParent, -⟩ := records.exists_entry known
      rw [walk, found, Option.bind_some, own found, noParent, List.findSome?_cons]
      cases lastDefined? history kind _ member <;> rfl
  | under known _ ih =>
      obtain ⟨entry, found, sameParent, -⟩ := records.exists_entry known
      rw [walk, found, Option.bind_some, own found, sameParent, Option.bind_some, ih,
        List.findSome?_cons]
      cases lastDefined? history kind _ member <;> rfl

/-- A class has the superclass that it was registered with. -/
theorem superclass?_eq (records : Records table history) {cls : ClassRef} {registration : Registration}
    (known : (registrations history)[cls.id.val.toNat]? = some registration) :
    (table.superclass? cls).map ClassRef.id = registration.superclass := by
  obtain ⟨entry, found, sameParent, -⟩ := records.exists_entry known
  rw [superclass?, entry?, found, Option.bind_some, sameParent, Option.map_map]
  exact Option.map_id'

/-- A class has the name that it was registered with. -/
theorem className_eq (records : Records table history) (paired : table.names.Paired) {cls : ClassRef}
    {registration : Registration}
    (known : (registrations history)[cls.id.val.toNat]? = some registration) :
    table.className cls = registration.name := by
  obtain ⟨entry, found, -, sameName⟩ := records.exists_entry known
  rw [className, entry?, found]
  exact paired.resolve_of_index sameName

end Records

/-! ### Names -/

/-- A request interns at most one string. -/
theorem names_serve (table : ClassTable μ) (request : Request μ) :
    ∃ texts, texts.length ≤ 1 ∧ (table.serve request).names = table.names.internAll texts := by
  cases request with
  | newClass name superclass =>
      rw [serve]
      rcases table.registered_or_unknown superclass with registered | ⟨parent, rfl, unknown⟩
      · rw [newClass_of_registered name registered]
        exact ⟨[name], Nat.le_refl 1, rfl⟩
      · rw [newClass_of_unknown name unknown]
        exact ⟨[], Nat.zero_le 1, rfl⟩
  | define kind cls member method =>
      rw [serve_define]
      exact ⟨[], Nat.zero_le 1, rfl⟩
  | internMember name => exact ⟨[name], Nat.le_refl 1, rfl⟩

theorem names_serveAll (requests : List (Request μ)) (table : ClassTable μ) :
    ∃ texts, texts.length ≤ requests.length ∧
      (table.serveAll requests).names = table.names.internAll texts := by
  induction requests generalizing table with
  | nil => exact ⟨[], Nat.le_refl 0, rfl⟩
  | cons request rest ih =>
      obtain ⟨texts, few, first⟩ := names_serve table request
      obtain ⟨others, few', second⟩ := ih (table.serve request)
      refine ⟨texts ++ others, ?_, ?_⟩
      · rw [List.length_append, List.length_cons]
        omega
      · rw [Interner.internAll_append, ← first, ← second]
        rfl

theorem size_names_serveAll_le (requests : List (Request μ)) (table : ClassTable μ) :
    (table.serveAll requests).names.size ≤ table.names.size + requests.length := by
  obtain ⟨texts, few, names⟩ := names_serveAll requests table
  have bound := Interner.size_internAll_le texts table.names
  rw [names]
  omega

theorem paired_names (requests : List (Request μ))
    (fits : ((empty : ClassTable μ).serveAll requests).names.size ≤ 4294967296) :
    ((empty : ClassTable μ).serveAll requests).names.Paired := by
  obtain ⟨texts, -, names⟩ := names_serveAll requests (empty : ClassTable μ)
  have fromEmpty : (empty : ClassTable μ).names = Interner.empty.internAll Interner.commonNames := rfl
  rw [fromEmpty, ← Interner.internAll_append] at names
  rw [names] at fits ⊢
  exact Interner.paired_empty.internAll fits

/-! ### The two tables to start from -/

/-- The core classes other than the root class, in the order of their registration. -/
def coreNames : List String :=
  ["NilClass", "Boolean", "Integer", "String", "Symbol", "Array", "Range", "Regexp", "Proc"]

/-- The requests that register the core classes. -/
def coreRequests : List (Request μ) :=
  .newClass "Object" none ::
    coreNames.map fun name => .newClass name (some CoreClasses.standard.object)

/-- A table to start from, with the requests that make it from the empty one. -/
inductive Founded : ClassTable μ → List (Request μ) → Prop
  | empty : Founded empty []
  | core : Founded withCore coreRequests

theorem serveAll_newClass_cons {table next : ClassTable μ} {name : String} {superclass : Option ClassRef}
    {cls : ClassRef} (accepted : newClass name superclass table = .ok cls next)
    (later : List (Request μ)) :
    table.serveAll (.newClass name superclass :: later) = next.serveAll later := by
  rw [serveAll, List.foldl_cons, serve, accepted]
  rfl

/-- A class is registered with the next number. -/
theorem exists_newClass {table : ClassTable μ} {superclass : Option ClassRef} (name : String)
    (registered : ∀ parent, superclass = some parent → parent.id.val.toNat < table.size) :
    ∃ next, newClass name superclass table = .ok ⟨⟨table.size.toUInt32⟩, some name⟩ next ∧
      next.size = table.size + 1 :=
  ⟨_, newClass_of_registered name registered, rfl⟩

/-- A class can be registered under the first one, if there is a first one. -/
theorem exists_newClass_under_root {table : ClassTable μ} {count : Nat} (size : table.size = count + 1)
    (name : String) : ∃ next, newClass name (some CoreClasses.standard.object) table =
      .ok ⟨⟨(count + 1).toUInt32⟩, some name⟩ next ∧ next.size = count + 2 := by
  have registered : ∀ parent, some CoreClasses.standard.object = some parent →
      parent.id.val.toNat < table.size := by
    rintro _ ⟨⟩
    exact size ▸ Nat.succ_pos count
  have accepted := exists_newClass name registered
  rwa [size] at accepted

/-- **The core classes are those that are registered in the empty table**, one after the other and none
of them refused. -/
theorem registerCore_empty :
    registerCore (empty : ClassTable μ) = .ok CoreClasses.standard withCore ∧
      withCore = (empty : ClassTable μ).serveAll coreRequests := by
  obtain ⟨root, object, one⟩ : ∃ root, newClass "Object" none (empty : ClassTable μ) =
      .ok CoreClasses.standard.object root ∧ root.size = 1 := exists_newClass "Object" nofun
  obtain ⟨_, nil, two⟩ := exists_newClass_under_root one "NilClass"
  obtain ⟨_, boolean, three⟩ := exists_newClass_under_root two "Boolean"
  obtain ⟨_, integer, four⟩ := exists_newClass_under_root three "Integer"
  obtain ⟨_, string, five⟩ := exists_newClass_under_root four "String"
  obtain ⟨_, symbol, six⟩ := exists_newClass_under_root five "Symbol"
  obtain ⟨_, array, seven⟩ := exists_newClass_under_root six "Array"
  obtain ⟨_, range, eight⟩ := exists_newClass_under_root seven "Range"
  obtain ⟨_, regexp, nine⟩ := exists_newClass_under_root eight "Regexp"
  obtain ⟨last, closure, -⟩ := exists_newClass_under_root nine "Proc"
  have ran : registerCore (empty : ClassTable μ) = .ok CoreClasses.standard last := by
    refine bind_eq_ok_iff.mpr ⟨_, _, object, bind_eq_ok_iff.mpr ⟨_, _, nil, ?_⟩⟩
    refine bind_eq_ok_iff.mpr ⟨_, _, boolean, bind_eq_ok_iff.mpr ⟨_, _, integer, ?_⟩⟩
    refine bind_eq_ok_iff.mpr ⟨_, _, string, bind_eq_ok_iff.mpr ⟨_, _, symbol, ?_⟩⟩
    refine bind_eq_ok_iff.mpr ⟨_, _, array, bind_eq_ok_iff.mpr ⟨_, _, range, ?_⟩⟩
    refine bind_eq_ok_iff.mpr ⟨_, _, regexp, bind_eq_ok_iff.mpr ⟨_, _, closure, ?_⟩⟩
    exact pure_eq_ok_iff.mpr ⟨rfl, rfl⟩
  have served : (empty : ClassTable μ).serveAll coreRequests = last := by
    simp only [coreRequests, coreNames, List.map_cons, List.map_nil, serveAll_newClass_cons object,
      serveAll_newClass_cons nil, serveAll_newClass_cons boolean, serveAll_newClass_cons integer,
      serveAll_newClass_cons string, serveAll_newClass_cons symbol, serveAll_newClass_cons array,
      serveAll_newClass_cons range, serveAll_newClass_cons regexp, serveAll_newClass_cons closure]
    rfl
  rw [withCore, ran, served]
  exact ⟨rfl, rfl⟩

theorem Founded.eq_serveAll {start : ClassTable μ} {founding : List (Request μ)}
    (founded : Founded start founding) : start = ClassTable.empty.serveAll founding := by
  cases founded with
  | empty => rfl
  | core => exact registerCore_empty.2

theorem Founded.serveAll_eq {start : ClassTable μ} {founding : List (Request μ)}
    (founded : Founded start founding) (history : List (Request μ)) :
    start.serveAll history = ClassTable.empty.serveAll (founding ++ history) := by
  rw [founded.eq_serveAll, serveAll, serveAll, serveAll, List.foldl_append]

/-- Whichever table is the first, it holds what all requests say. -/
theorem Founded.records {start : ClassTable μ} {founding : List (Request μ)}
    (founded : Founded start founding) (history : List (Request μ)) :
    Records (start.serveAll history) (founding ++ history) := by
  rw [founded.serveAll_eq]
  exact records_empty.serveAll (founding ++ history)

/-- **A method is found at the nearest class that has one.** Serve any requests, such that the table
has fewer than 2 ^ 32 classes and fewer than 2 ^ 32 names. Then

* a class has the name and the superclass that it was registered with, and the superclass is older;
* the classes above a class, registered or not, are finitely many. A method, of either kind, is the one
  that was defined last at the nearest of them that has one; a definition counts if the class was
  registered before. The search, which goes from class to class, ends with this answer, after at most
  one round more than the number of the class says;
* a class is accepted if its superclass is registered, and gets the next number;
* it is refused if the superclass is not registered, and the table is left as it is. -/
theorem lookup_finds_nearest_ancestor {start : ClassTable μ} {founding : List (Request μ)}
    (founded : Founded start founding) (history : List (Request μ))
    (fewClasses : (start.serveAll history).size < 4294967296)
    (fewNames : (start.serveAll history).names.size < 4294967296) :
    let table := start.serveAll history
    let requests := founding ++ history
    let classes := registrations requests
    table.size = classes.length ∧
    (∀ (cls : ClassRef) (registration : Registration),
      classes[cls.id.val.toNat]? = some registration →
      table.className cls = registration.name ∧
      (table.superclass? cls).map ClassRef.id = registration.superclass ∧
      ∀ parent, registration.superclass = some parent → parent.val.toNat < cls.id.val.toNat) ∧
    (∀ cls : ClassRef, (∃ chain, Lineage classes cls.id chain) ∧
      ∀ chain, Lineage classes cls.id chain → ∀ member,
        table.methodOfType? (.classObject cls) member =
          chain.findSome? (lastDefined? requests .ordinary · member) ∧
        table.singletonMethod? cls member =
          chain.findSome? (lastDefined? requests .singleton · member) ∧
        ∀ rounds, cls.id.val.toNat < rounds →
          table.loop ClassEntry.methods member rounds cls.id =
            some (table.methodOfType? (.classObject cls) member) ∧
          table.loop ClassEntry.singletonMethods member rounds cls.id =
            some (table.singletonMethod? cls member)) ∧
    (∀ (name : String) (superclass : Option ClassRef),
      (∀ parent, superclass = some parent → parent.id.val.toNat < classes.length) →
      ∃ cls, newClass name superclass table = .ok cls (table.serve (.newClass name superclass)) ∧
        cls.id.val.toNat = classes.length) ∧
    (∀ (name : String) (parent : ClassRef), classes.length ≤ parent.id.val.toNat →
      newClass name (some parent) table = .error (.unknownSuperclass parent.id) table ∧
      table.serve (.newClass name (some parent)) = table) := by
  intro table requests classes
  have records : Records table requests := founded.records history
  have paired : table.names.Paired := by
    have fits : table.names.size ≤ 4294967296 := Nat.le_of_lt fewNames
    have run : table = ClassTable.empty.serveAll requests := founded.serveAll_eq history
    rw [run] at fits ⊢
    exact paired_names requests fits
  have size : table.size = classes.length := records.size
  refine ⟨size, fun cls registration known => ?_, fun cls => ⟨?_, fun chain lineage member => ?_⟩,
    fun name superclass registered => ?_, fun name parent unknown => ?_⟩
  · refine ⟨records.className_eq paired known, records.superclass?_eq known, fun parent above => ?_⟩
    obtain ⟨name, superclass⟩ := registration
    cases above
    exact ordered_registrations requests _ name parent known
  · exact exists_lineage (ordered_registrations requests) cls.id
  · exact ⟨records.searchIn_eq_findSome? .ordinary member lineage,
      records.searchIn_eq_findSome? .singleton member lineage, fun rounds enough =>
        ⟨loop_eq_searchIn _ member records.olderAbove enough,
          loop_eq_searchIn _ member records.olderAbove enough⟩⟩
  · rw [← size] at registered
    have accepted := newClass_of_registered name registered
    refine ⟨_, by rw [serve, accepted]; rfl, ?_⟩
    exact (toNat_toUInt32 fewClasses).trans size
  · rw [← size] at unknown
    have refused := newClass_of_unknown name unknown
    exact ⟨refused, by rw [serve, refused]; rfl⟩

/-- A class under `Object` and one under that, with a method that is defined twice on the upper one and
has a singleton method of the same name on the lower one. -/
def twoLevels : List (Request String) :=
  [.newClass "Animal" (some ⟨⟨0⟩, none⟩), .define .ordinary ⟨⟨11⟩, none⟩ ⟨30⟩ "early",
    .newClass "Dog" (some ⟨⟨10⟩, none⟩), .define .ordinary ⟨⟨10⟩, none⟩ ⟨30⟩ "bark",
    .define .singleton ⟨⟨11⟩, none⟩ ⟨30⟩ "breed", .define .ordinary ⟨⟨10⟩, none⟩ ⟨30⟩ "growl",
    .newClass "Ghost" (some ⟨⟨40⟩, none⟩)]

/-- The lower class inherits the later method. Its singleton method is its own, and what was defined on
it before it was registered is lost. -/
theorem lookup_finds_nearest_ancestor_twoLevels :
    (withCore.serveAll twoLevels).size < 4294967296 ∧
    (withCore.serveAll twoLevels).names.size < 4294967296 ∧
    (withCore.serveAll twoLevels).className ⟨⟨11⟩, none⟩ = "Dog" ∧
    (withCore.serveAll twoLevels).methodOfType? (.classObject ⟨⟨11⟩, none⟩) ⟨30⟩ = some "growl" ∧
    (withCore.serveAll twoLevels).singletonMethod? ⟨⟨11⟩, none⟩ ⟨30⟩ = some "breed" := by
  have fewClasses : (withCore.serveAll twoLevels).size < 4294967296 := by
    have count : (registrations (coreRequests ++ twoLevels)).length = 12 := rfl
    rw [(Founded.core.records twoLevels).size, count]
    omega
  have fewNames : (withCore.serveAll twoLevels).names.size < 4294967296 := by
    have bound := size_names_serveAll_le (coreRequests ++ twoLevels) empty
    have first := Interner.size_internAll_le Interner.commonNames Interner.empty
    have count : (coreRequests ++ twoLevels).length = 17 := rfl
    have common : Interner.empty.size + Interner.commonNames.length = 25 := rfl
    have start : (empty : ClassTable String).names = Interner.empty.internAll Interner.commonNames := rfl
    rw [Founded.core.serveAll_eq]
    rw [start] at bound
    omega
  have lineage : Lineage (registrations (coreRequests ++ twoLevels)) ⟨11⟩ [⟨11⟩, ⟨10⟩, ⟨0⟩] :=
    @Lineage.under _ _ ⟨10⟩ "Dog" _ rfl
      (@Lineage.under _ _ ⟨0⟩ "Animal" _ rfl (@Lineage.root _ _ "Object" rfl))
  obtain ⟨-, kept, found, -⟩ := lookup_finds_nearest_ancestor Founded.core twoLevels fewClasses fewNames
  obtain ⟨ordinary, singleton, -⟩ := (found ⟨⟨11⟩, none⟩).2 _ lineage ⟨30⟩
  refine ⟨fewClasses, fewNames, (kept ⟨⟨11⟩, none⟩ ⟨"Dog", some ⟨10⟩⟩ rfl).1, ?_, ?_⟩
  · rw [ordinary]
    rfl
  · rw [singleton]
    rfl

end TypeLattice.ClassTable
