import Newsdesk.Text.Blank

/-!
# Calendar dates

A date is written `YYYY-MM-DD`. The reader is lenient: blanks may stand in front of each
number, a year has at most four digits unless it has a sign, and a month or a day has one or
two. The number must name a day that exists.
-/

namespace Newsdesk

open Text

/-- A day of the Gregorian calendar, extended to years before the first. -/
structure Date where
  year : Int
  month : Nat
  day : Nat
deriving DecidableEq, Repr

namespace Date

/-- The first and the last year of the calendar. -/
def minYear : Int := -262143
def maxYear : Int := 262142

/-- Whether a year has 366 days. -/
def isLeapYear (year : Int) : Bool :=
  year % 4 = 0 ∧ (year % 100 ≠ 0 ∨ year % 400 = 0)

/-- How many days a month has. -/
def monthLength (year : Int) : Nat → Nat
  | 2 => if isLeapYear year then 29 else 28
  | 4 | 6 | 9 | 11 => 30
  | _ => 31

/-- Whether the numbers name a day. -/
def Exists (year : Int) (month day : Nat) : Prop :=
  minYear ≤ year ∧ year ≤ maxYear ∧ 1 ≤ month ∧ month ≤ 12 ∧ 1 ≤ day ∧
    day ≤ monthLength year month

instance (year : Int) (month day : Nat) : Decidable (Exists year month day) := by
  unfold Exists; infer_instance

/-- Whether one day comes before another. -/
def Before (a b : Date) : Prop :=
  a.year < b.year ∨ a.year = b.year ∧ (a.month < b.month ∨ a.month = b.month ∧ a.day < b.day)

instance (a b : Date) : Decidable (Before a b) := by
  unfold Before; infer_instance

/-! ## Reading -/

/-- The number written by decimal digits. -/
def numberOf (ds : List Char) : Nat := ds.foldl (fun n c => n * 10 + (c.toNat - '0'.toNat)) 0

/-- At least one and at most `width` digits at the front of the text; no `width` takes all. -/
def readDigits (width : Option Nat) (cs : List Char) : Option (Nat × List Char) :=
  let ds := match width with
    | some w => (cs.take w).takeWhile Char.isDigit
    | none => cs.takeWhile Char.isDigit
  if ds = [] then none else some (numberOf ds, cs.drop ds.length)

/-- A year: with a sign any number of digits, else at most four. -/
def readYear (cs : List Char) : Option (Int × List Char) :=
  match cs.dropWhile isBlank with
  | '-' :: rest => (readDigits none rest).map fun (n, rest) => (-(n : Int), rest)
  | '+' :: rest => (readDigits none rest).map fun (n, rest) => ((n : Int), rest)
  | rest => (readDigits (some 4) rest).map fun (n, rest) => ((n : Int), rest)

/-- A hyphen and a number of at most two digits, with blanks between them. -/
def readPart : List Char → Option (Nat × List Char)
  | '-' :: rest => readDigits (some 2) (rest.dropWhile isBlank)
  | _ => none

/-- The day that a text names. -/
def ofList? (cs : List Char) : Option Date := do
  let (year, rest) ← readYear cs
  let (month, rest) ← readPart rest
  let (day, rest) ← readPart rest
  if rest = [] ∧ Exists year month day then some ⟨year, month, day⟩ else none

/-- The day that a string names, with the blanks around it dropped. -/
def parse? (s : String) : Option Date := ofList? (trimList s.toList)

/-! ## Writing -/

/-- The digits of a number, with zeros in front up to the given width. -/
def padded (width n : Nat) : List Char :=
  let ds := Nat.toDigits 10 n
  List.replicate (width - ds.length) '0' ++ ds

/-- The written form. A year beyond four digits or before year zero has a sign. -/
def toList (d : Date) : List Char :=
  let sign := if d.year < 0 then ['-'] else if 9999 < d.year then ['+'] else []
  sign ++ padded 4 d.year.natAbs ++ '-' :: padded 2 d.month ++ '-' :: padded 2 d.day

/-- The written form as a string. -/
def text (d : Date) : String := String.ofList d.toList

end Date

end Newsdesk
