/-
**Methods found before and after resolution.**

A call is dispatched twice: on the type of its receiver while the array store is at hand, and later on
its signature, whose receiver was resolved. Resolution keeps the closures around a receiver, makes a
literal its base, which answers for it anyway, and an array that stands alone is answered for by its
base in both places. What is left are the two types that change beneath a closure or an instance:

* `Ty.receiver`: the type that answers for a type once its closures are taken off
  (`Ty.method?_receiver`);
* `Ty.method?_fill`: a receiver that is neither a local array nor an instance of a literal answers as
  before;
* `Ty.method?_fill_of_literal`: an instance of a literal is resolved to an instance of the literal's
  base, and has the methods of that class;
* `Signature.method?_resolved`: the two put together, for the signature of a call;
* `Signature.method?_of_closure_over_localArray`: the receivers that are left out. A closure over a local
  array cannot be asked any more, unless the array was given up at a limit;
* `method?_changes_when_resolved`: both exceptions arise. An instance of a literal class gains methods,
  and a closure over a local array can no longer be asked.
-/

import TypeLattice.Proofs.Resolution.Closed

namespace TypeLattice

/-! ### Receivers -/

/-- The type that answers for a type, once the closures around it are taken off. -/
def Ty.receiver : Ty → Ty
  | .closure _ _ underlying | .typedClosure _ _ underlying => underlying.receiver
  | ty => ty

section Filling

variable {μ : Type} {table : ClassTable μ} {member : Atom} {method : Option μ}

/-- A type is asked through the closures around it. -/
theorem Ty.method?_receiver (ty : Ty) : ty.receiver.method? table member = ty.method? table member := by
  cases ty with
  | closure code frame underlying => exact Ty.method?_receiver underlying
  | typedClosure params result underlying => exact Ty.method?_receiver underlying
  | any | classObject | instanceOf | code | literal | localArray | array => rfl

/-- A class has the same methods after its arrays are filled in, unless it is given by a literal. -/
theorem ClassTable.methodOfType?_fill {cls : Ty} (answers : List (Option Shape))
    (noLiteral : ∀ value base, cls ≠ .literal value base) :
    table.methodOfType? (cls.fill answers) member = table.methodOfType? cls member := by
  cases cls with
  | literal value base => exact absurd rfl (noLiteral value base)
  | localArray id base => rcases answers with _ | ⟨_ | shape, rest⟩ <;> rfl
  | array shape base =>
      rw [Ty.fill]
      split <;> rfl
  | any | classObject | instanceOf | code | closure | typedClosure => rfl

/-- **A receiver answers as before**, unless it is a local array or an instance of a literal. -/
theorem Ty.method?_fill (ty : Ty) (answers : List (Option Shape))
    (answered : ty.method? table member = .ok method)
    (noArray : ∀ id base, ty.receiver ≠ .localArray id base)
    (noLiteral : ∀ value base, ty.receiver ≠ .instanceOf (.literal value base)) :
    (ty.fill answers).method? table member = .ok method := by
  cases ty with
  | any => exact answered
  | classObject cls => exact answered
  | code id => exact answered
  | literal value base => exact answered
  | localArray id base => exact absurd rfl (noArray id base)
  | array shape base => cases answered
  | instanceOf cls =>
      rw [← answered]
      refine congrArg Except.ok (ClassTable.methodOfType?_fill answers fun value base same => ?_)
      exact noLiteral value base (congrArg Ty.instanceOf same)
  | closure code frame underlying =>
      exact Ty.method?_fill underlying answers answered noArray noLiteral
  | typedClosure params result underlying =>
      exact Ty.method?_fill underlying _ answered noArray noLiteral

/-- **An instance of a literal becomes an instance of the literal's base**, beneath any closures. -/
theorem Ty.method?_fill_of_literal (ty : Ty) (answers : List (Option Shape)) {value : Constant}
    {base : Ty} (isInstance : ty.receiver = .instanceOf (.literal value base)) :
    (ty.fill answers).method? table member = .ok (table.methodOfType? base member) := by
  cases ty with
  | instanceOf cls =>
      cases isInstance
      rfl
  | closure code frame underlying => exact Ty.method?_fill_of_literal underlying answers isInstance
  | typedClosure params result underlying => exact Ty.method?_fill_of_literal underlying _ isInstance
  | any | classObject | code | literal | localArray | array => cases isInstance

/-- A local array beneath closures becomes an array beneath them, or any value if it was cut. -/
theorem Ty.receiver_fill_of_localArray (ty : Ty) (answers : List (Option Shape)) {id : ArrayId} {base : Ty}
    (isArray : ty.receiver = .localArray id base) (answered : answers.length = ty.handles.length) :
    (∃ shape, (ty.fill answers).receiver = .array shape base) ∨
      none ∈ answers ∧ (ty.fill answers).receiver = .any := by
  cases ty with
  | localArray id' base' =>
      cases isArray
      rcases answers with _ | ⟨_ | shape, rest⟩
      · cases answered
      · exact .inr ⟨List.mem_cons_self, rfl⟩
      · exact .inl ⟨shape, rfl⟩
  | closure code frame underlying =>
      exact Ty.receiver_fill_of_localArray underlying answers isArray answered
  | typedClosure params result underlying =>
      have answeredBeneath : ((answers.drop (TyUnion.handlesOfAll params).length).drop
          result.handles.length).length = underlying.handles.length := by
        rw [List.length_drop, List.length_drop, answered, Ty.handles, List.length_append,
          List.length_append, Nat.add_sub_cancel_left, Nat.add_sub_cancel_left]
      rcases Ty.receiver_fill_of_localArray underlying _ isArray answeredBeneath with known | ⟨cut, isAny⟩
      · exact .inl known
      · exact .inr ⟨List.mem_of_mem_drop (List.mem_of_mem_drop cut), isAny⟩
  | any | classObject | instanceOf | code | literal | array => cases isArray

end Filling

/-! ### Dispatch on signatures -/

/-- The first array that a fresh resolver is asked for is never refused. -/
theorem Resolver.Visits.exists_some_of_start {slots : ArrayId → Option Shape} {after : Resolver}
    {id : ArrayId} {ids : List ArrayId} {answers : List (Option Shape)}
    (visits : Visits slots (start .resolution) (id :: ids) answers after) :
    ∃ shape rest, answers = some shape :: rest := by
  cases visits with
  | known found => cases found
  | cycle _ _ onPath => cases onPath
  | limit _ refused =>
      rcases refused with spent | ⟨-, deep⟩
      · exact absurd (show _ ≤ _ by decide) spent
      · exact absurd deep (by decide)
  | entered => exact ⟨_, _, rfl⟩

/-- An array that is not beneath another one is on no cycle, so it is cut only at a limit. -/
theorem Resolver.Visits.exceeded_of_cut {slots : ArrayId → Option Shape} {before after : Resolver}
    {ids : List ArrayId} {answers : List (Option Shape)} (visits : Visits slots before ids answers after)
    (outside : before.guard.stack = []) (cut : none ∈ answers) : after.guard.exceeded = true := by
  induction visits with
  | done => cases cut
  | known _ _ ih => exact ih outside ((List.mem_cons.mp cut).resolve_left nofun)
  | cycle _ _ onPath =>
      rw [outside] at onPath
      cases onPath
  | limit _ _ others => exact others.frame.exceeded rfl
  | entered _ _ _ _ _ inside _ _ ih =>
      refine ih ?_ ((List.mem_cons.mp cut).resolve_left nofun)
      exact (frame_closed _ inside.frame).stack.trans outside

/-- What a fresh resolver makes of a type is filled in from the visits of its arrays. -/
theorem Ty.exists_fill_of_resolve {slots : ArrayId → Option Shape} {limits : Limits} {ty result : Ty}
    {after : Resolver} (resolved : ty.resolve slots (.start limits) = .ok result after) :
    ∃ answers, Resolver.Visits slots (.start limits) ty.handles answers after ∧
      ty.fill answers = result := by
  have resolvedItem : (Item.ty ty).resolve slots (.start limits) = .ok (.ty result) after := by
    show EStateM.map _ _ _ = _
    rw [EStateM.map, resolved]
  obtain ⟨answers, visits, filled⟩ :=
    (Item.resolve_eq_ok_iff (Resolver.atRest_start limits)).mp resolvedItem
  exact ⟨answers, visits, Item.ty.inj filled⟩

namespace Signature

open Resolver

variable {μ : Type} {table : ClassTable μ} {signature : Signature} {method : Option μ}

/-- A receiver that answers is no array of a known shape, so its signature asks it and nothing else. -/
theorem method?_of_receiver
    (answered : signature.receiver.method? table signature.member = .ok method) :
    signature.method? table = .ok method := by
  unfold method?
  split
  · rename_i shape base isArray
    rw [isArray] at answered
    cases answered
  · exact answered

/-- **Resolution keeps what a call reaches.** Let a receiver be asked for a member and give an answer,
and let its resolution return a type without local arrays, where the receiver is no closure over a
local array. Then a call on the resolved type forms a signature, and it gives the same answer. Only
an instance of a literal answers differently: it has no methods before, and those of the class behind
the literal after. -/
theorem method?_resolved {member : Atom} {slots : ArrayId → Option Shape} {ty result : Ty}
    {log : Array Event} {isSingleton : Bool} {args : List Ty} {block : Option Ty}
    (answered : ty.method? table member = .ok method)
    (ran : run .resolution (ty.resolve slots) = (.ok result, log))
    (closed : result.isContextFree = true) (closedArgs : ∀ arg ∈ args, arg.isContextFree = true)
    (closedBlock : ∀ given ∈ block, given.isContextFree = true)
    (bareArray : ∀ id base, ty.receiver = .localArray id base → ty = .localArray id base) :
    ∃ signature, make result isSingleton member args block = .ok signature ∧
      ((∀ value base, ty.receiver ≠ .instanceOf (.literal value base)) →
        signature.method? table = .ok method) ∧
      ∀ value base, ty.receiver = .instanceOf (.literal value base) →
        method = none ∧ signature.method? table = .ok (table.methodOfType? base member) := by
  obtain ⟨after, resolved⟩ := exists_of_run ran
  obtain ⟨answers, visits, rfl⟩ := Ty.exists_fill_of_resolve resolved
  refine ⟨_, make_eq_ok_iff.mpr ⟨⟨closed, closedArgs, closedBlock⟩, rfl⟩, ?_, ?_⟩
  · intro noLiteral
    by_cases isArray : ∃ id base, ty.receiver = .localArray id base
    · -- The array stands alone, so it was entered, and its base answers for it before and after.
      obtain ⟨id, base, isArray⟩ := isArray
      obtain rfl := bareArray id base isArray
      obtain ⟨shape, rest, rfl⟩ := visits.exists_some_of_start
      exact answered
    · exact method?_of_receiver (ty.method?_fill answers answered
        (fun id base same => isArray ⟨id, base, same⟩) noLiteral)
  · intro value base isInstance
    refine ⟨?_, method?_of_receiver (ty.method?_fill_of_literal answers isInstance)⟩
    rw [← ty.method?_receiver, isInstance] at answered
    exact (Except.ok.inj answered).symm

/-- **A closure over a local array cannot be asked once it is resolved.** The array beneath the closures
has then a known shape, and a signature takes only an array that stands alone for its base. Only where a
limit was hit may the array have been given up, and then the call reaches no method. -/
theorem method?_of_closure_over_localArray {slots : ArrayId → Option Shape} {limits : Limits}
    {after : Resolver} {id : ArrayId} {ty base result : Ty} (isArray : ty.receiver = .localArray id base)
    (isClosure : ty ≠ .localArray id base)
    (resolved : ty.resolve slots (.start limits) = .ok result after)
    (isReceiver : signature.receiver = result) :
    (∃ shape, result.receiver = .array shape base) ∧ signature.method? table = .error .arrayReceiver ∨
      after.guard.exceeded = true ∧ result.receiver = .any ∧ signature.method? table = .ok none := by
  obtain ⟨answers, visits, filled⟩ := Ty.exists_fill_of_resolve resolved
  have asked : signature.method? table = result.receiver.method? table signature.member := by
    rw [Ty.method?_receiver, method?, isReceiver, ← filled]
    cases ty with
    | closure | typedClosure => rfl
    | localArray => exact absurd isArray isClosure
    | any | classObject | instanceOf | code | literal | array => cases isArray
  rw [asked]
  rcases filled ▸ ty.receiver_fill_of_localArray answers isArray visits.length_eq with
    ⟨shape, known⟩ | ⟨cut, isAny⟩
  · exact .inl ⟨⟨shape, known⟩, by rw [known]; rfl⟩
  · exact .inr ⟨visits.exceeded_of_cut rfl cut, isAny, by rw [isAny]; rfl⟩

/-! ### Calls of one member -/

/-- A table in which integers and arrays have the member with number 17. -/
def sizes : ClassTable String :=
  (ClassTable.withCore.addMethod CoreClasses.standard.integer ⟨17⟩ "Integer#size").addMethod
    CoreClasses.standard.array ⟨17⟩ "Array#size"

theorem method?_sizes_integer :
    sizes.method? CoreClasses.standard.integer ⟨17⟩ = some "Integer#size" := by
  decide +kernel

theorem method?_sizes_array : sizes.method? CoreClasses.standard.array ⟨17⟩ = some "Array#size" := by
  decide +kernel

/-- A call of that member without arguments. -/
def sizeCall (receiver : Ty) : Signature := ⟨receiver, false, ⟨17⟩, [], none⟩

/-- One slot, with an array that has no element. -/
def emptySlot (id : ArrayId) : Option Shape := if id = ⟨0⟩ then some .emptySeq else none

/-- The local array in that slot, and what it is resolved to. -/
def emptyArray : Ty := .localArray ⟨0⟩ (.ofClass CoreClasses.standard.array)

def emptyArrayResolved : Ty := .array .emptySeq (.ofClass CoreClasses.standard.array)

/-- The instances of the class of integers. -/
def anInteger : Ty := .ofClass CoreClasses.standard.integer

/-- A closure over an array, and one over an integer with an array among its parameters. -/
def overArray (array : Ty) : Ty := .closure ⟨2⟩ ⟨7⟩ array

def overInteger (array : Ty) : Ty := .closure ⟨2⟩ ⟨7⟩ (.typedClosure [⟨[array]⟩] .empty anInteger)

/-- An instance of the class behind a constant. -/
def literalInstance : Ty :=
  .instanceOf (.literal (.integer 1) (.classObject CoreClasses.standard.integer))

/-- The array alone, a closure that has it among its parameters, and an instance of a literal. -/
theorem method?_resolved_emptyArray :
    (∃ signature, make emptyArrayResolved false ⟨17⟩ [] none = .ok signature ∧
      signature.method? sizes = .ok (some "Array#size")) ∧
    (∃ signature, make (overInteger emptyArrayResolved) false ⟨17⟩ [] none = .ok signature ∧
      signature.method? sizes = .ok (some "Integer#size")) ∧
    (literalInstance.method? sizes ⟨17⟩ = .ok none ∧
      ∃ signature, make anInteger false ⟨17⟩ [] none = .ok signature ∧
        signature.method? sizes =
          .ok (sizes.methodOfType? (.classObject CoreClasses.standard.integer) ⟨17⟩)) := by
  refine ⟨?_, ?_, ?_⟩
  · have answered : emptyArray.method? sizes ⟨17⟩ = .ok (some "Array#size") :=
      congrArg Except.ok method?_sizes_array
    have ran : run .resolution (emptyArray.resolve emptySlot) = (.ok emptyArrayResolved, #[]) := rfl
    obtain ⟨signature, formed, same, -⟩ :
        ∃ signature, make emptyArrayResolved false ⟨17⟩ [] none = .ok signature ∧ _ :=
      method?_resolved answered ran rfl (by simp) (by simp) fun _ _ isArray => isArray
    exact ⟨signature, formed, same (by simp [emptyArray, Ty.receiver])⟩
  · have answered : (overInteger emptyArray).method? sizes ⟨17⟩ = .ok (some "Integer#size") :=
      congrArg Except.ok method?_sizes_integer
    have ran : run .resolution ((overInteger emptyArray).resolve emptySlot) =
        (.ok (overInteger emptyArrayResolved), #[]) := rfl
    obtain ⟨signature, formed, same, -⟩ :
        ∃ signature, make (overInteger emptyArrayResolved) false ⟨17⟩ [] none = .ok signature ∧ _ :=
      method?_resolved answered ran rfl (by simp) (by simp)
        (by simp [overInteger, anInteger, Ty.receiver, Ty.ofClass])
    exact ⟨signature, formed, same (by simp [overInteger, anInteger, Ty.receiver, Ty.ofClass])⟩
  · have answered : literalInstance.method? sizes ⟨17⟩ = .ok none := rfl
    have ran : run .resolution (literalInstance.resolve emptySlot) = (.ok anInteger, #[]) := rfl
    obtain ⟨signature, formed, -, changed⟩ :
        ∃ signature, make anInteger false ⟨17⟩ [] none = .ok signature ∧ _ :=
      method?_resolved answered ran rfl (by simp) (by simp) (by simp [literalInstance, Ty.receiver])
    exact ⟨answered, signature, formed, (changed _ _ rfl).2⟩

/-- **Two receivers that answer differently once resolved.** An instance of a literal has no methods
before, and those of the literal's class after. A closure over a local array answers through the
array before, and cannot be asked after. -/
theorem method?_changes_when_resolved :
    (literalInstance.method? sizes ⟨17⟩ = .ok none ∧
      run .resolution (literalInstance.resolve emptySlot) = (.ok anInteger, #[]) ∧
      make anInteger false ⟨17⟩ [] none = .ok (sizeCall anInteger) ∧
      (sizeCall anInteger).method? sizes = .ok (some "Integer#size")) ∧
    ((overArray emptyArray).method? sizes ⟨17⟩ = .ok (some "Array#size") ∧
      run .resolution ((overArray emptyArray).resolve emptySlot) =
        (.ok (overArray emptyArrayResolved), #[]) ∧
      make (overArray emptyArrayResolved) false ⟨17⟩ [] none =
        .ok (sizeCall (overArray emptyArrayResolved)) ∧
      (sizeCall (overArray emptyArrayResolved)).method? sizes = .error .arrayReceiver) := by
  refine ⟨⟨rfl, rfl, rfl, ?_⟩, ⟨?_, rfl, rfl, rfl⟩⟩
  · exact congrArg Except.ok method?_sizes_integer
  · exact congrArg Except.ok method?_sizes_array

end Signature

end TypeLattice
