/-
**The text of a constant says which constant it is.**

The first character of a text, and whether there is a dot in it, give the kind of the constant. What is
left is one argument for each kind. A symbol and a regular expression stand in their texts as they are. A
number is known by its digits. A range is cut where its dots start and where they end. A quoted text is
read one character after the other: none of the forms in which a character can be written is the start of
another one.

* `Written`, `Written.unique`: the forms of a character inside quotes, and how they are told apart. It
  does not matter which characters are written by their code points;
* `quoted_inj`: a text can be read off its quoted form;
* `kindOfText_text`: the kind of a constant can be read off its text;
* `Constant.text_is_unambiguous`: so can the constant.
-/

import Mathlib.Tactic.SplitIfs
import TypeLattice.Datum

namespace TypeLattice

namespace Text

/-! ### Where a text is cut -/

/-- Characters of one sort, followed by what starts with another sort, are told from what follows. -/
theorem append_inj_of_sort {isInside : Char → Bool} {first second rest rest' : List Char}
    (inside : ∀ c ∈ first, isInside c = true) (inside' : ∀ c ∈ second, isInside c = true)
    (outside : ∀ c ∈ rest.head?, isInside c = false) (outside' : ∀ c ∈ rest'.head?, isInside c = false)
    (same : first ++ rest = second ++ rest') : first = second ∧ rest = rest' := by
  have cut {start remaining : List Char} (inStart : ∀ c ∈ start, isInside c = true)
      (stops : ∀ c ∈ remaining.head?, isInside c = false) :
      (start ++ remaining).takeWhile isInside = start := by
    rw [List.takeWhile_append_of_pos inStart]
    cases remaining with
    | nil => simp
    | cons c _ => simp [stops c rfl]
  have starts : first = second := by
    rw [← cut inside outside, same, cut inside' outside']
  rw [starts] at same
  exact ⟨starts, List.append_cancel_left same⟩

/-! ### Digits -/

theorem digitChar_inj {first second : Nat} (small : first < 16) (small' : second < 16)
    (same : first.digitChar = second.digitChar) : first = second := by
  have all : ∀ m < 16, ∀ n < 16, Nat.digitChar m = Nat.digitChar n → m = n := by decide
  exact all first small second small' same

section Digits

variable {base : Nat} (many : 1 < base)

include many

/-- **A number is known by its digits**, as long as there are enough of them for the base. -/
theorem digits_inj (few : base ≤ 16) {first second : Nat}
    (same : Nat.toDigits base first = Nat.toDigits base second) : first = second := by
  induction first using Nat.strongRecOn generalizing second with
  | ind first ih =>
      have positive : 0 < base := Nat.zero_lt_of_lt many
      rw [Nat.toDigits_eq_if many, @Nat.toDigits_eq_if base second many] at same
      split at same
      · rename_i small
        split at same
        · rename_i small'
          exact digitChar_inj (Nat.lt_of_lt_of_le small few) (Nat.lt_of_lt_of_le small' few)
            (List.singleton_inj.mp same)
        · obtain ⟨empty, -⟩ := List.append_eq_singleton_iff.mp same.symm |>.resolve_right (by simp)
          exact absurd empty Nat.toDigits_ne_nil
      · rename_i large
        split at same
        · obtain ⟨empty, -⟩ := List.append_eq_singleton_iff.mp same |>.resolve_right (by simp)
          exact absurd empty Nat.toDigits_ne_nil
        · obtain ⟨leading, last⟩ := List.append_inj' same rfl
          have quotients : first / base = second / base :=
            ih _ (Nat.div_lt_self (Nat.lt_of_lt_of_le positive (Nat.not_lt.mp large)) many) leading
          have isDigit (number : Nat) : number % base < 16 :=
            Nat.lt_of_lt_of_le (Nat.mod_lt number positive) few
          have remainders : first % base = second % base :=
            digitChar_inj (isDigit first) (isDigit second) (List.singleton_inj.mp last)
          rw [← Nat.div_add_mod first base, quotients, remainders, Nat.div_add_mod]

/-- No digit is a brace. -/
theorem ne_brace_of_mem_digits {number : Nat} {c : Char} (member : c ∈ Nat.toDigits base number) :
    c ≠ '\x7d' := by
  induction number using Nat.strongRecOn with
  | ind number ih =>
      rw [Nat.toDigits_eq_if many] at member
      split at member
      · rw [List.mem_singleton.mp member]
        exact Nat.digitChar_ne _ (by decide)
      · rename_i large
        rcases List.mem_append.mp member with leading | last
        · have positive : 0 < number := by omega
          exact ih _ (Nat.div_lt_self positive many) leading
        · rw [List.mem_singleton.mp last]
          exact Nat.digitChar_ne _ (by decide)

end Digits

/-! ### Characters inside quotes -/

/-- The characters that are written as a backslash and a letter. -/
def escapes : List (Char × Char) :=
  [('"', '"'), ('\\', '\\'), ('\n', 'n'), ('\r', 'r'), ('\t', 't'), ('\x00', '0')]

/-- **The forms of a character inside quotes.** It may stand for itself unless it is a quote or a
backslash, and otherwise it is escaped, by a letter or by its code point. -/
inductive Written : Char → List Char → Prop
  | plain {c : Char} : c ≠ '"' → c ≠ '\\' → Written c [c]
  | escaped {c letter : Char} : (c, letter) ∈ escapes → Written c ['\\', letter]
  | byCode (c : Char) : Written c (codePoint c)

theorem written_quotedChar (c : Char) : Written c (quotedChar c) := by
  unfold quotedChar
  split_ifs with isQuote isBackslash isNewline isReturn isTab isZero isHidden
  · exact .escaped (by simp [escapes, isQuote])
  · exact .escaped (by simp [escapes, isBackslash])
  · exact .escaped (by simp [escapes, isNewline])
  · exact .escaped (by simp [escapes, isReturn])
  · exact .escaped (by simp [escapes, isTab])
  · exact .escaped (by simp [escapes, isZero])
  · exact .byCode c
  · exact .plain isQuote isBackslash

variable {c d : Char} {form form' rest rest' : List Char}

/-- A character is written by at least one character. -/
theorem Written.ne_nil (written : Written c form) : form ≠ [] := by
  cases written <;> simp [codePoint]

/-- A letter stands for one character, and none of the letters announces a code point. -/
theorem escapes_inj : ∀ one ∈ escapes,
    one.2 ≠ 'u' ∧ ∀ other ∈ escapes, one.2 = other.2 → one.1 = other.1 := by
  decide

/-- Two code points in front of two texts are told from what follows. -/
theorem codePoint_inj (same : codePoint c ++ rest = codePoint d ++ rest') : c = d ∧ rest = rest' := by
  have digits : Nat.toDigits 16 c.toNat ++ '\x7d' :: rest = Nat.toDigits 16 d.toNat ++ '\x7d' :: rest' := by
    simpa [codePoint] using same
  have noBrace (number : Nat) : ∀ c ∈ Nat.toDigits 16 number, (c != '\x7d') = true :=
    fun _ member => bne_iff_ne.mpr (ne_brace_of_mem_digits (by decide) member)
  obtain ⟨sameDigits, sameRest⟩ :=
    append_inj_of_sort (noBrace _) (noBrace _) (by simp) (by simp) digits
  exact ⟨Char.toNat_inj.mp (digits_inj (by decide) (by decide) sameDigits), List.tail_eq_of_cons_eq sameRest⟩

/-- **No form of a character is the start of a form of another one.** -/
theorem Written.unique (written : Written c form) (written' : Written d form')
    (same : form ++ rest = form' ++ rest') : c = d ∧ rest = rest' := by
  cases written with
  | plain _ notBackslash =>
      cases written' with
      | plain => exact List.cons.inj same
      | escaped => exact absurd (List.cons.inj same).1 notBackslash
      | byCode => exact absurd (List.cons.inj same).1 notBackslash
  | escaped listed =>
      cases written' with
      | plain _ notBackslash => exact absurd (List.cons.inj same).1.symm notBackslash
      | escaped listed' =>
          obtain ⟨sameLetter, sameRest⟩ := List.cons.inj (List.cons.inj same).2
          exact ⟨(escapes_inj _ listed).2 _ listed' sameLetter, sameRest⟩
      | byCode =>
          obtain ⟨sameLetter, -⟩ := List.cons.inj (List.cons.inj same).2
          exact absurd sameLetter (escapes_inj _ listed).1
  | byCode =>
      cases written' with
      | plain _ notBackslash => exact absurd (List.cons.inj same).1.symm notBackslash
      | escaped listed' =>
          obtain ⟨sameLetter, -⟩ := List.cons.inj (List.cons.inj same).2
          exact absurd sameLetter.symm (escapes_inj _ listed').1
      | byCode => exact codePoint_inj same

/-- Characters are known by their forms, one after the other. -/
theorem flatMap_quotedChar_inj {first second : List Char}
    (same : first.flatMap quotedChar = second.flatMap quotedChar) : first = second := by
  induction first generalizing second with
  | nil =>
      cases second with
      | nil => rfl
      | cons d others =>
          have empty := (List.append_eq_nil_iff.mp same.symm).1
          exact absurd empty (written_quotedChar d).ne_nil
  | cons c rest ih =>
      cases second with
      | nil => exact absurd (List.append_eq_nil_iff.mp same).1 (written_quotedChar c).ne_nil
      | cons d others =>
          obtain ⟨rfl, sameRest⟩ := (written_quotedChar c).unique (written_quotedChar d) same
          rw [ih sameRest]

/-- **A text can be read off its quoted form.** -/
theorem quoted_inj {first second : String} (same : quoted first = quoted second) : first = second := by
  have inner := (List.cons.inj (String.ofList_injective same)).2
  exact String.toList_inj.mp (flatMap_quotedChar_inj (List.append_cancel_right inner))

/-! ### Numbers -/

/-- The characters of which numbers are made. -/
def isNumeral (c : Char) : Bool := c.isDigit || c == '-'

theorem isDigit_of_mem_repr {number : Nat} {c : Char} (member : c ∈ number.repr.toList) :
    c.isDigit = true := by
  rw [Nat.repr_eq_ofList_toDigits, String.toList_ofList] at member
  exact Nat.isDigit_of_mem_toDigits (by decide) (by decide) member

theorem isNumeral_of_mem_toString (value : Int) : ∀ c ∈ (toString value).toList, isNumeral c = true := by
  show ∀ c ∈ value.repr.toList, isNumeral c = true
  rw [Int.repr_eq_if]
  intro c member
  split at member
  · simp [isNumeral, isDigit_of_mem_repr member]
  · rw [String.toList_append] at member
    rcases List.mem_append.mp member with sign | digit
    · rw [List.mem_singleton.mp sign]
      rfl
    · simp [isNumeral, isDigit_of_mem_repr digit]

theorem repr_inj {first second : Nat} (same : first.repr = second.repr) : first = second := by
  rw [Nat.repr_eq_ofList_toDigits, Nat.repr_eq_ofList_toDigits] at same
  exact digits_inj (by decide) (by decide) (String.ofList_injective same)

/-- No natural number is written with a sign. -/
theorem repr_ne_signed (first second : Nat) : first.repr ≠ "-" ++ second.repr := by
  intro same
  have sign : '-' ∈ first.repr.toList := by
    rw [same, String.toList_append]
    exact List.mem_append_left _ (.head _)
  exact absurd (isDigit_of_mem_repr sign) (by decide)

/-- **A number is known by its text.** -/
theorem toString_inj {first second : Int} (same : toString first = toString second) : first = second := by
  replace same : first.repr = second.repr := same
  rw [Int.repr_eq_if, @Int.repr_eq_if second] at same
  split at same
  · split at same
    · have values := repr_inj same
      omega
    · exact absurd same (repr_ne_signed _ _)
  · split at same
    · exact absurd same.symm (repr_ne_signed _ _)
    · have chars := congrArg String.toList same
      rw [String.toList_append, String.toList_append] at chars
      have values := repr_inj (String.toList_inj.mp (List.append_cancel_left chars))
      omega

theorem toString_ne_empty (value : Int) : toString value ≠ "" := by
  show value.repr ≠ ""
  rw [Int.repr_eq_if]
  split
  · exact Nat.repr_ne_empty
  · intro empty
    exact absurd (congrArg String.toList empty) (by simp)

end Text

namespace Constant

open Text

/-! ### Kinds -/

/-- The kind that a text shows: by its first character, and numbers and ranges by the dots. -/
def kindOfText (text : List Char) : String :=
  if text.head? = some ':' then "symbol"
  else if text.head? = some '"' then "string"
  else if text.head? = some '/' then "regex"
  else if text.head? = some 't' ∨ text.head? = some 'f' then "boolean"
  else if '.' ∈ text then "range"
  else "integer"

/-- A text that starts with a dot or like a number is a range or a number. -/
theorem kindOfText_of_head {text : List Char} (head : ∀ c ∈ text.head?, isNumeral c = true ∨ c = '.') :
    kindOfText text = if '.' ∈ text then "range" else "integer" := by
  have others (c : Char) (other : ¬ (isNumeral c = true ∨ c = '.')) : text.head? ≠ some c :=
    fun first => other (head c first)
  rw [kindOfText, if_neg (others ':' (by decide)), if_neg (others '"' (by decide)),
    if_neg (others '/' (by decide)),
    if_neg (not_or.mpr ⟨others 't' (by decide), others 'f' (by decide)⟩)]

theorem isNumeral_of_mem_boundText (bound : Option Int) :
    ∀ c ∈ (boundText bound).toList, isNumeral c = true := by
  cases bound with
  | none => simp [boundText]
  | some value => exact isNumeral_of_mem_toString value

/-- The text of a range, in its three parts. -/
theorem toList_text_range (first last : Option Int) (exclusive : Bool) :
    (range first last exclusive).text.toList =
      (boundText first).toList ++ ((if exclusive then ['.', '.', '.'] else ['.', '.']) ++
        (boundText last).toList) := by
  cases exclusive <;> simp [text]

/-- **The kind of a constant can be read off its text.** -/
theorem kindOfText_text (constant : Constant) : kindOfText constant.text.toList = constant.kind := by
  cases constant with
  | symbol name => simp [text, kindOfText, kind]
  | string content => simp [text, quoted, kindOfText, kind]
  | regex source => simp [text, kindOfText, kind]
  | boolean value => cases value <;> rfl
  | integer value =>
      have numerals : ∀ c ∈ (integer value).text.toList, isNumeral c = true :=
        isNumeral_of_mem_toString value
      rw [kindOfText_of_head fun c first => .inl (numerals c (List.mem_of_mem_head? first)), if_neg]
      · rfl
      · intro dot
        exact absurd (numerals '.' dot) (by decide)
  | range first last exclusive =>
      have dot : '.' ∈ (range first last exclusive).text.toList := by
        rw [toList_text_range]
        cases exclusive <;> simp
      rw [kindOfText_of_head, if_pos dot]
      · rfl
      · intro c isFirst
        rw [toList_text_range] at isFirst
        cases start : (boundText first).toList with
        | nil =>
            rw [start] at isFirst
            cases exclusive <;> exact .inr (Option.some.inj isFirst).symm
        | cons head others =>
            have numerals := isNumeral_of_mem_boundText first
            rw [start] at isFirst numerals
            obtain rfl : head = c := Option.some.inj isFirst
            exact .inl (numerals head List.mem_cons_self)

/-! ### Ranges -/

/-- A bound is known by its text; an open end has none. -/
theorem boundText_inj {first second : Option Int} (same : boundText first = boundText second) :
    first = second := by
  cases first with
  | none =>
      cases second with
      | none => rfl
      | some value => exact absurd same.symm (toString_ne_empty value)
  | some value =>
      cases second with
      | none => exact absurd same (toString_ne_empty value)
      | some value' => rw [toString_inj same]

/-- **A range is known by its text.** The first bound ends where the dots start, and they end where the
second bound starts. -/
theorem range_text_inj {first last first' last' : Option Int} {exclusive exclusive' : Bool}
    (same : (range first last exclusive).text = (range first' last' exclusive').text) :
    range first last exclusive = range first' last' exclusive' := by
  have chars := congrArg String.toList same
  rw [toList_text_range, toList_text_range] at chars
  have dotted (exclusive : Bool) (last : Option Int) : ∀ c ∈ ((if exclusive then ['.', '.', '.']
      else ['.', '.']) ++ (boundText last).toList).head?, isNumeral c = false := by
    cases exclusive <;> simp [isNumeral]
  obtain ⟨sameFirst, remaining⟩ := append_inj_of_sort (isNumeral_of_mem_boundText first)
    (isNumeral_of_mem_boundText first') (dotted exclusive last) (dotted exclusive' last') chars
  have dots (exclusive : Bool) : ∀ c ∈ (if exclusive then ['.', '.', '.'] else ['.', '.']),
      (c == '.') = true := by
    cases exclusive <;> simp
  have undotted (last : Option Int) : ∀ c ∈ (boundText last).toList.head?, (c == '.') = false := by
    intro c isFirst
    have numeral := isNumeral_of_mem_boundText last c (List.mem_of_mem_head? isFirst)
    refine beq_false_of_ne ?_
    rintro rfl
    exact absurd numeral (by decide)
  obtain ⟨sameDots, sameLast⟩ := append_inj_of_sort (dots exclusive) (dots exclusive')
    (undotted last) (undotted last') remaining
  have sameExclusive : exclusive = exclusive' := by
    cases exclusive <;> cases exclusive' <;> simp_all
  rw [boundText_inj (String.toList_inj.mp sameFirst), boundText_inj (String.toList_inj.mp sameLast),
    sameExclusive]

/-! ### Constants -/

/-- **The text of a constant says which constant it is**, whatever characters its symbol, string or
regular expression holds, and whichever ends of its range are open. -/
theorem text_is_unambiguous (first second : Constant) : first.text = second.text ↔ first = second := by
  refine ⟨fun same => ?_, fun same => same ▸ rfl⟩
  have sameKind : first.kind = second.kind := by rw [← kindOfText_text, ← kindOfText_text, same]
  have chars := congrArg String.toList same
  cases first with
  | symbol name =>
      cases second with
      | symbol name' =>
          have names : name.toList = name'.toList := by simpa [text] using chars
          rw [String.toList_inj.mp names]
      | integer | boolean | string | regex | range => simp [kind] at sameKind
  | integer value =>
      cases second with
      | integer value' => rw [toString_inj same]
      | symbol | boolean | string | regex | range => simp [kind] at sameKind
  | boolean value =>
      cases second with
      | boolean value' =>
          have truths : value = value' := by
            revert same
            cases value <;> cases value' <;> decide
          rw [truths]
      | symbol | integer | string | regex | range => simp [kind] at sameKind
  | string content =>
      cases second with
      | string content' => rw [quoted_inj same]
      | symbol | integer | boolean | regex | range => simp [kind] at sameKind
  | regex source =>
      cases second with
      | regex source' =>
          have sources : source.toList = source'.toList := by simpa [text] using chars
          rw [String.toList_inj.mp sources]
      | symbol | integer | boolean | string | range => simp [kind] at sameKind
  | range first last exclusive =>
      cases second with
      | range first' last' exclusive' => exact range_text_inj same
      | symbol | integer | boolean | string | regex => simp [kind] at sameKind

end Constant

end TypeLattice
