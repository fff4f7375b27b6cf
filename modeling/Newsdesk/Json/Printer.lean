import Newsdesk.Json.Basic
import Newsdesk.Number.Shortest

/-!
# Writing JSON text

A value is written without blanks. A float always shows that it is one, by a point or an
exponent; its digits are the shortest that read back.
-/

namespace Newsdesk.Json

open Number

/-! ## Numbers -/

/-- The decimal digits of a number. -/
def decimalDigits (n : Nat) : List Char := Nat.toDigits 10 n

/-- The digits of an integer, with its sign. -/
def integerText (n : Int) : List Char :=
  if n < 0 then '-' :: decimalDigits n.natAbs else decimalDigits n.natAbs

/-- The text of a decimal: positional up to 16 digits before the point and 5 zeros after it,
else one digit, the fraction and the exponent. -/
def decimalText (d : Decimal) : List Char :=
  let ds := decimalDigits d.digits
  let point : Int := ds.length + d.exponent
  if 0 ≤ d.exponent ∧ point ≤ 16 then
    ds ++ List.replicate d.exponent.toNat '0' ++ ['.', '0']
  else if 0 < point ∧ point ≤ 16 then
    ds.take point.toNat ++ '.' :: ds.drop point.toNat
  else if -5 < point ∧ point ≤ 0 then
    '0' :: '.' :: List.replicate (-point).toNat '0' ++ ds
  else
    let fraction := ds.drop 1
    ds.take 1 ++ (if fraction = [] then [] else '.' :: fraction) ++ 'e' :: integerText (point - 1)

/-- The text of a float; what is not finite has none and becomes null. -/
def floatText : Binary64 → List Char
  | .finite negative mantissa exponent =>
    (if negative then ['-'] else []) ++ decimalText (Decimal.shortest mantissa exponent)
  | _ => ['n', 'u', 'l', 'l']

/-- The text of a number. -/
def numberText : JsonNumber → List Char
  | .int n => integerText n
  | .float x => floatText x

/-! ## Strings -/

/-- A hexadecimal digit. -/
def hexDigit (n : Nat) : Char := Nat.digitChar n

/-- The escape of a UTF-16 unit. -/
def unitEscape (n : Nat) : List Char :=
  ['\\', 'u', hexDigit (n / 4096 % 16), hexDigit (n / 256 % 16), hexDigit (n / 16 % 16),
    hexDigit (n % 16)]

/-- A character of a string as it is written; with `ascii`, one outside ASCII is escaped. -/
def charText (ascii : Bool) (c : Char) : List Char :=
  if c = '"' then ['\\', '"']
  else if c = '\\' then ['\\', '\\']
  else if c = '\n' then ['\\', 'n']
  else if c = '\r' then ['\\', 'r']
  else if c = '\t' then ['\\', 't']
  else if c = '\x08' then ['\\', 'b']
  else if c = '\x0c' then ['\\', 'f']
  else
    let n := c.toNat
    if n < 0x20 then unitEscape n
    else if ascii ∧ 0x7F ≤ n then
      if n < 0x10000 then unitEscape n
      else unitEscape (0xD800 + (n - 0x10000) / 0x400) ++ unitEscape (0xDC00 + (n - 0x10000) % 0x400)
    else [c]

/-- Puts the written form of characters in front of `rest`. -/
def charsText (ascii : Bool) : List Char → List Char → List Char
  | [], rest => rest
  | c :: cs, rest => charText ascii c ++ charsText ascii cs rest

/-- Puts the written form of a string in front of `rest`. -/
def stringText (ascii : Bool) (s : String) (rest : List Char) : List Char :=
  '"' :: charsText ascii s.toList ('"' :: rest)

/-! ## Values -/

mutual

/-- Puts the text of a value in front of `rest`. -/
def valueText (ascii : Bool) : Json → List Char → List Char
  | .null, rest => 'n' :: 'u' :: 'l' :: 'l' :: rest
  | .bool true, rest => 't' :: 'r' :: 'u' :: 'e' :: rest
  | .bool false, rest => 'f' :: 'a' :: 'l' :: 's' :: 'e' :: rest
  | .num n, rest => numberText n ++ rest
  | .str s, rest => stringText ascii s rest
  | .arr [], rest => '[' :: ']' :: rest
  | .arr (x :: xs), rest => '[' :: valueText ascii x (itemsText ascii xs rest)
  | .obj [], rest => '{' :: '}' :: rest
  | .obj ((n, x) :: xs), rest =>
    '{' :: stringText ascii n (':' :: valueText ascii x (fieldsText ascii xs rest))

/-- The items after the first one, each behind a comma, and the closing bracket. -/
def itemsText (ascii : Bool) : List Json → List Char → List Char
  | [], rest => ']' :: rest
  | x :: xs, rest => ',' :: valueText ascii x (itemsText ascii xs rest)

/-- The fields after the first one, each behind a comma, and the closing brace. -/
def fieldsText (ascii : Bool) : List (String × Json) → List Char → List Char
  | [], rest => '}' :: rest
  | (n, x) :: xs, rest =>
    ',' :: stringText ascii n (':' :: valueText ascii x (fieldsText ascii xs rest))

end

/-- The text of a value. -/
def render (x : Json) : String := String.ofList (valueText false x [])

/-- The text of a value in ASCII characters only. -/
def renderAscii (x : Json) : String := String.ofList (valueText true x [])

end Newsdesk.Json
