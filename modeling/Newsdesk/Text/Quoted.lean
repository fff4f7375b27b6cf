import Newsdesk.Text.Unassigned

/-!
# Quoted text

A text that is shown for diagnosis stands in double quotes. Quotes, backslashes and line breaks
are escaped, and so is every character that shows nothing or would combine with the one before
it.
-/

namespace Newsdesk.Text

/-- The hexadecimal digits of a number, without zeros in front. -/
def hexDigits (n : Nat) : List Char := Nat.toDigits 16 n

/-- The escape of a character by its number. -/
def numberEscape (c : Char) : List Char :=
  '\\' :: 'u' :: '{' :: hexDigits c.toNat ++ ['}']

/-- A character inside quotes. -/
def quotedChar (c : Char) : List Char :=
  if c = '"' then ['\\', '"']
  else if c = '\\' then ['\\', '\\']
  else if c = '\n' then ['\\', 'n']
  else if c = '\r' then ['\\', 'r']
  else if c = '\t' then ['\\', 't']
  else if c = '\x00' then ['\\', '0']
  else if c.toNat < 0x20 then numberEscape c
  else if 0x7F ≤ c.toNat ∧ (isInvisible c ∨ isNonspacing c ∨ inRanges unassigned c) then
    numberEscape c
  else [c]

/-- A text in quotes. -/
def quoted (s : String) : String :=
  String.ofList ('"' :: s.toList.flatMap quotedChar ++ ['"'])

end Newsdesk.Text
