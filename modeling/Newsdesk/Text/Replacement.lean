import Newsdesk.Text.Blank

/-!
# Replacement tables

A table says what some characters are replaced by. It is kept as text: entries with blanks
between them, each a code point and what it becomes, in hexadecimal. `A=B` and `A=B,C` stand for
one code point, `A+N=B` for `N` code points in a row that become `N` in a row, and `A+N/S=B` for
every `S`th code point of a row.
-/

namespace Newsdesk.Text

/-- A row of code points and what the first of them becomes; the others follow at the same
distance. -/
structure Replacement where
  first : Nat
  count : Nat
  step : Nat
  target : List Nat
deriving DecidableEq, Repr

namespace Replacement

/-- What a code point becomes, if it is in the row. -/
def target? (n : Nat) (r : Replacement) : Option (List Nat) :=
  let distance := n - r.first
  if r.first ≤ n ∧ distance % r.step = 0 ∧ distance / r.step < r.count then
    some (r.target.map (· + distance))
  else none

/-- The value of a hexadecimal digit. -/
def digitOf (c : Char) : Nat :=
  if c.isDigit then c.toNat - '0'.toNat else c.toNat - 'A'.toNat + 10

/-- A hexadecimal number. -/
def hexNumber (cs : List Char) : Nat := cs.foldl (fun n c => 16 * n + digitOf c) 0

/-- An entry of a table. -/
def ofEntry? (entry : List Char) : Option Replacement :=
  match splitAt '=' entry with
  | [source, target] =>
    let target := (splitAt ',' target).map hexNumber
    match splitAt '+' source with
    | [first] => some ⟨hexNumber first, 1, 1, target⟩
    | [first, row] =>
      match splitAt '/' row with
      | [count] => some ⟨hexNumber first, hexNumber count, 1, target⟩
      | [count, step] => some ⟨hexNumber first, hexNumber count, hexNumber step, target⟩
      | _ => none
    | _ => none
  | _ => none

/-- The entries of a table. -/
def ofText (table : String) : List Replacement :=
  ((splitAt '\n' table.toList).flatMap (splitAt ' ')).filterMap ofEntry?

end Replacement

/-- What a character becomes by a table; `none` when the table does not have it. -/
def replace? (table : List Replacement) (c : Char) : Option (List Char) :=
  (table.findSome? (Replacement.target? c.toNat)).map fun target => target.map Char.ofNat

end Newsdesk.Text
