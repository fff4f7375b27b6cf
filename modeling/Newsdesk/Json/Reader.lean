import Newsdesk.Json.Basic

/-!
# Reading JSON text

The reader accepts exactly one value with blanks around it. It keeps the fields of an object as
they are written, so that a record that must not name a field twice can say so; `Json.parse?`
brings the value into canonical form. Values may be nested 127 deep.
-/

namespace Newsdesk.Json

open Number

/-! ## Numbers -/

/-- The longest run of decimal digits at the front, and the rest. -/
def digits (cs : List Char) : List Char × List Char :=
  (cs.takeWhile Char.isDigit, cs.dropWhile Char.isDigit)

/-- The largest integer that fits 64 bits. -/
def maxInteger : Nat := 0xFFFFFFFFFFFFFFFF

/-- Appends digits to a significand as long as it fits 64 bits; the second part counts the
digits left out. -/
def appendDigits : Nat → List Char → Nat × Nat
  | n, [] => (n, 0)
  | n, c :: cs =>
    let n' := n * 10 + (c.toNat - '0'.toNat)
    if n' ≤ maxInteger then appendDigits n' cs else (n, cs.length + 1)

/-- A float scaled by a power of ten of either sign; `none` when it exceeds every float. One
step divides by `10 ^ 308` at most. -/
def scaleTen : Nat → Binary64 → Int → Option Binary64
  | 0, x, _ => some (Binary64.zero x.isNegative)
  | fuel + 1, x, exponent =>
    if exponent.natAbs ≤ 308 then
      let power := Binary64.ofNat (Nat.pow 10 exponent.natAbs)
      if 0 ≤ exponent then
        match x.mul power with
        | .infinite _ => none
        | y => some y
      else some (x.div power)
    else if x.isZero then some x
    else if 0 ≤ exponent then none
    else scaleTen fuel (x.div (Binary64.ofNat (Nat.pow 10 308))) (exponent + 308)

/-- The float of a significand and a power of ten: the significand is rounded first, the
product or quotient after it. -/
def floatOfParts (negative : Bool) (significand : Nat) (exponent : Int) : Option Binary64 :=
  scaleTen 5 (Binary64.ofRatio negative significand 1) exponent

/-- The number of an integer part without fraction and exponent. -/
def integerOf (negative : Bool) (whole : List Char) : Option JsonNumber :=
  let (significand, dropped) := appendDigits 0 whole
  if dropped ≠ 0 then (floatOfParts negative significand dropped).map .float
  else if ¬ negative then some (.int significand)
  else if significand = 0 ∨ 0x8000000000000000 < significand then
    some (.float (Binary64.ofRatio true significand 1))
  else some (.int (-significand))

/-- The exponent part of a number, if there is one: `none` when it has no digits. -/
def exponentPart : List Char → Option (Option Int × List Char)
  | c :: cs =>
    if c = 'e' ∨ c = 'E' then
      let (negative, cs) :=
        match cs with
        | '+' :: rest => (false, rest)
        | '-' :: rest => (true, rest)
        | rest => (false, rest)
      match digits cs with
      | ([], _) => none
      | (ds, rest) =>
        let n : Int := ds.foldl (fun n c => n * 10 + (c.toNat - '0'.toNat)) 0
        some (some (if negative then -n else n), rest)
    else some (none, c :: cs)
  | [] => some (none, [])

/-- A number at the front of the text. -/
def readNumber (cs : List Char) : Option (JsonNumber × List Char) :=
  let (negative, cs) :=
    match cs with
    | '-' :: rest => (true, rest)
    | rest => (false, rest)
  match digits cs with
  | ([], _) => none
  | ('0' :: _ :: _, _) => none
  | (whole, rest) => do
    let (fraction, rest) ←
      match rest with
      | '.' :: rest =>
        match digits rest with
        | ([], _) => none
        | (ds, rest) => some (some ds, rest)
      | rest => some (none, rest)
    let (exponent, rest) ← exponentPart rest
    match fraction, exponent with
    | none, none => return (← integerOf negative whole, rest)
    | _, _ =>
      let (n, dropped) := appendDigits 0 whole
      let ds := fraction.getD []
      let (n, left) := if dropped = 0 then appendDigits n ds else (n, ds.length)
      let scale : Int := dropped - (ds.length - left : Nat) + exponent.getD 0
      return (.float (← floatOfParts negative n scale), rest)

/-! ## Strings -/

/-- The value of a hexadecimal digit. -/
def hexValue? (c : Char) : Option Nat :=
  if '0' ≤ c ∧ c ≤ '9' then some (c.toNat - '0'.toNat)
  else if 'a' ≤ c ∧ c ≤ 'f' then some (c.toNat - 'a'.toNat + 10)
  else if 'A' ≤ c ∧ c ≤ 'F' then some (c.toNat - 'A'.toNat + 10)
  else none

/-- Four hexadecimal digits at the front of the text. -/
def readHex4 : List Char → Option (Nat × List Char)
  | a :: b :: c :: d :: rest => do
    let n := (← hexValue? a) * 4096 + (← hexValue? b) * 256 + (← hexValue? c) * 16 + (← hexValue? d)
    return (n, rest)
  | _ => none

/-- The character that follows a backslash and `u`: four digits, or two groups of four that
make up a surrogate pair. -/
def readUnicode (cs : List Char) : Option (Char × List Char) := do
  let (n, rest) ← readHex4 cs
  if 0xDC00 ≤ n ∧ n ≤ 0xDFFF then none
  else if 0xD800 ≤ n ∧ n ≤ 0xDBFF then
    match rest with
    | '\\' :: 'u' :: rest =>
      let (m, rest) ← readHex4 rest
      if 0xDC00 ≤ m ∧ m ≤ 0xDFFF then
        some (Char.ofNat (0x10000 + (n - 0xD800) * 0x400 + (m - 0xDC00)), rest)
      else none
    | _ => none
  else some (Char.ofNat n, rest)

/-- The text of a string after its opening quote, up to its closing one. Every step takes at
least one character, so a fuel of the text's length is enough. -/
def readText : Nat → List Char → List Char → Option (List Char × List Char)
  | 0, _, _ => none
  | _ + 1, _, [] => none
  | fuel + 1, acc, c :: cs =>
    if c = '"' then some (acc.reverse, cs)
    else if c = '\\' then
      match cs with
      | '"' :: rest => readText fuel ('"' :: acc) rest
      | '\\' :: rest => readText fuel ('\\' :: acc) rest
      | '/' :: rest => readText fuel ('/' :: acc) rest
      | 'b' :: rest => readText fuel ('\x08' :: acc) rest
      | 'f' :: rest => readText fuel ('\x0c' :: acc) rest
      | 'n' :: rest => readText fuel ('\n' :: acc) rest
      | 'r' :: rest => readText fuel ('\r' :: acc) rest
      | 't' :: rest => readText fuel ('\t' :: acc) rest
      | 'u' :: rest =>
        match readUnicode rest with
        | some (d, rest) => readText fuel (d :: acc) rest
        | none => none
      | _ => none
    else if c.toNat < 0x20 then none
    else readText fuel (c :: acc) cs

/-- A string after its opening quote. -/
def readString (cs : List Char) : Option (String × List Char) :=
  (readText (cs.length + 1) [] cs).map fun (text, rest) => (String.ofList text, rest)

/-! ## Values -/

/-- Whether a character may stand between the parts of a value. -/
def isSpace (c : Char) : Bool := c = ' ' ∨ c = '\n' ∨ c = '\t' ∨ c = '\r'

/-- The text without the blanks in front. -/
def skipSpace (cs : List Char) : List Char := cs.dropWhile isSpace

/-- The text after `word`, if it starts with it. -/
def afterWord : List Char → List Char → Option (List Char)
  | [], cs => some cs
  | w :: ws, c :: cs => if w = c then afterWord ws cs else none
  | _ :: _, [] => none

mutual

/-- A value at the front of the text, nested at most `depth` deep. The fuel bounds the steps. -/
def readValue : Nat → Nat → List Char → Option (Json × List Char)
  | 0, _, _ => none
  | fuel + 1, depth, cs =>
    match skipSpace cs with
    | [] => none
    | 'n' :: rest => (afterWord ['u', 'l', 'l'] rest).map fun rest => (.null, rest)
    | 't' :: rest => (afterWord ['r', 'u', 'e'] rest).map fun rest => (.bool true, rest)
    | 'f' :: rest => (afterWord ['a', 'l', 's', 'e'] rest).map fun rest => (.bool false, rest)
    | '"' :: rest => (readString rest).map fun (s, rest) => (.str s, rest)
    | '[' :: rest =>
      match depth with
      | 0 => none
      | depth + 1 =>
        match skipSpace rest with
        | ']' :: rest => some (.arr [], rest)
        | rest => (readItems fuel depth rest).map fun (xs, rest) => (.arr xs, rest)
    | '{' :: rest =>
      match depth with
      | 0 => none
      | depth + 1 =>
        match skipSpace rest with
        | '}' :: rest => some (.obj [], rest)
        | rest => (readFields fuel depth rest).map fun (xs, rest) => (.obj xs, rest)
    | cs => (readNumber cs).map fun (n, rest) => (.num n, rest)

/-- The items of an array up to its closing bracket; at least one. -/
def readItems : Nat → Nat → List Char → Option (List Json × List Char)
  | 0, _, _ => none
  | fuel + 1, depth, cs => do
    let (x, rest) ← readValue fuel depth cs
    match skipSpace rest with
    | ',' :: rest =>
      let (xs, rest) ← readItems fuel depth rest
      some (x :: xs, rest)
    | ']' :: rest => some ([x], rest)
    | _ => none

/-- The fields of an object up to its closing brace; at least one. -/
def readFields : Nat → Nat → List Char → Option (List (String × Json) × List Char)
  | 0, _, _ => none
  | fuel + 1, depth, cs =>
    match skipSpace cs with
    | '"' :: rest => do
      let (name, rest) ← readString rest
      match skipSpace rest with
      | ':' :: rest =>
        let (x, rest) ← readValue fuel depth rest
        match skipSpace rest with
        | ',' :: rest =>
          let (xs, rest) ← readFields fuel depth rest
          some ((name, x) :: xs, rest)
        | '}' :: rest => some ([(name, x)], rest)
        | _ => none
      | _ => none
    | _ => none

end

/-- How deep a value may be nested. -/
def maxDepth : Nat := 127

/-- The value at the front of a text and what follows it, without the blanks between. -/
def readFront? (text : String) : Option (Json × List Char) :=
  let cs := text.toList
  (readValue (2 * cs.length + 2) maxDepth cs).map fun (x, rest) => (x, skipSpace rest)

/-- The value that a text holds, with the fields of its objects as they are written. -/
def read? (text : String) : Option Json :=
  match readFront? text with
  | some (x, rest) => if rest = [] then some x else none
  | none => none

/-- The value that a text holds, in canonical form. -/
def parse? (text : String) : Option Json := (read? text).map canonical

end Newsdesk.Json
