/-
**Text between quotes.**

A quoted text stands between double quotes. A quote and a backslash take a backslash before them;
newline, carriage return, tab and the zero character are written by letter; any other character that
cannot be read on its own (`isExtender`, `isInvisible`) is written by its code point in hexadecimal;
every other character is written as it is.
-/

import TypeLattice.Text.Extender
import TypeLattice.Text.Invisible

namespace TypeLattice.Text

/-- A character by its code point: `\u`, then the hexadecimal digits between braces. -/
def codePoint (c : Char) : List Char :=
  '\\' :: 'u' :: '\x7b' :: Nat.toDigits 16 c.toNat ++ ['\x7d']

/-- A character inside quotes. -/
def quotedChar (c : Char) : List Char :=
  if c = '"' then ['\\', '"']
  else if c = '\\' then ['\\', '\\']
  else if c = '\n' then ['\\', 'n']
  else if c = '\r' then ['\\', 'r']
  else if c = '\t' then ['\\', 't']
  else if c = '\x00' then ['\\', '0']
  else if isExtender c || isInvisible c then codePoint c
  else [c]

/-- A text between quotes. -/
def quoted (text : String) : String :=
  String.ofList ('"' :: text.toList.flatMap quotedChar ++ ['"'])

end TypeLattice.Text
