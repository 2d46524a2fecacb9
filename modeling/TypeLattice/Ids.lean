/-
**The numbers that stand for classes, code, frames, arrays and names.**

Every identifier is a 32-bit word in a type of its own, so that none can be taken for another
(`toNat_toUInt32`: a word holds every smaller number). Arrays are numbered in order:

* `ArrayId.next?_eq_some_iff`: the next id is the one whose number is greater by one;
* `ArrayId.next?_eq_none_iff`: only the last word has no id after it.
-/

namespace TypeLattice

/-- A number that fits into a word is that of the word. -/
theorem toNat_toUInt32 {number : Nat} (fits : number < 4294967296) : number.toUInt32.toNat = number :=
  UInt32.toNat_ofNat_of_lt' fits

/-- A class, by its number in a class table. -/
structure ClassId where
  val : UInt32
deriving DecidableEq

/-- A unit of compiled code. -/
structure CodeId where
  val : UInt32
deriving DecidableEq

/-- A captured frame of local variables. -/
structure FrameId where
  val : UInt32
deriving DecidableEq

/-- An array held in a slot of an array store. -/
structure ArrayId where
  val : UInt32
deriving DecidableEq

/-- A name, by its number in an interner. -/
structure Atom where
  val : UInt32
deriving DecidableEq

/-- The structural text of a class id. -/
def ClassId.dump (cls : ClassId) : String := s!"ClassId({cls.val})"

/-- The display text of a code id is its number. -/
def CodeId.text (code : CodeId) : String := toString code.val

/-- The structural text of a code id. -/
def CodeId.dump (code : CodeId) : String := s!"CodeId({code.val})"

/-- The structural text of a frame id. -/
def FrameId.dump (frame : FrameId) : String := s!"EnvId({frame.val})"

/-- The structural text of an atom. -/
def Atom.dump (atom : Atom) : String := s!"Atom({atom.val})"

namespace ArrayId

instance : LT ArrayId := ⟨fun first second => first.val < second.val⟩

instance : DecidableLT ArrayId := fun first second =>
  inferInstanceAs (Decidable (first.val < second.val))

/-- Ids are ordered as their numbers. -/
instance : Ord ArrayId := ⟨fun first second => compare first.val second.val⟩

/-- The id a fresh store hands out first. -/
def first : ArrayId := ⟨0⟩

/-- The id after this one; the last word has none. -/
def next? (id : ArrayId) : Option ArrayId :=
  if id.val.toNat + 1 < UInt32.size then some ⟨id.val + 1⟩ else none

/-- Ids are compared by number. -/
theorem lt_iff {first second : ArrayId} : first < second ↔ first.val.toNat < second.val.toNat :=
  UInt32.lt_iff_toNat_lt

/-- The next id is the one whose number is greater by one. -/
theorem next?_eq_some_iff {id next : ArrayId} :
    id.next? = some next ↔ next.val.toNat = id.val.toNat + 1 := by
  have small := next.val.toNat_lt
  unfold next?
  constructor
  · intro found
    split at found
    · rename_i fits
      cases found
      rw [UInt32.toNat_add, UInt32.toNat_one, Nat.mod_eq_of_lt fits]
    · cases found
  · intro follows
    have fits : id.val.toNat + 1 < UInt32.size := by rw [← follows]; exact small
    rw [if_pos fits]
    congr 2
    apply UInt32.toNat_inj.mp
    rw [UInt32.toNat_add, UInt32.toNat_one, Nat.mod_eq_of_lt fits, follows]

/-- Only the last word has no id after it. -/
theorem next?_eq_none_iff {id : ArrayId} : id.next? = none ↔ id.val.toNat = UInt32.size - 1 := by
  have small : id.val.toNat < UInt32.size := id.val.toNat_lt
  unfold next?
  split
  · simp only [reduceCtorEq, false_iff]; omega
  · simp only [true_iff]; omega

/-- The display text of an array id. -/
def text (id : ArrayId) : String := s!"#{id.val}"

/-- The structural text of an array id. -/
def dump (id : ArrayId) : String := s!"ArrayId({id.val})"

end ArrayId

end TypeLattice
