import Newsdesk.Calendar.Date

/-!
# Points in time

A point in time is read from a date, a time of day and an offset from UTC, and is written in
UTC to the second.
-/

namespace Newsdesk

/-- Seconds since the start of the year 1970 in UTC. -/
structure Timestamp where
  seconds : Int
deriving DecidableEq, Repr

namespace Timestamp

/-- The number of days from the start of 1970 to a date. Years are counted from March, so that
the leap day ends one. -/
def daysOfDate (d : Date) : Int :=
  let year := if d.month ≤ 2 then d.year - 1 else d.year
  let era := year.fdiv 400
  let yearOfEra := year - era * 400
  let shifted : Int := ((d.month + 9) % 12 : Nat)
  let dayOfYear := (153 * shifted + 2) / 5 + d.day - 1
  let dayOfEra := yearOfEra * 365 + yearOfEra / 4 - yearOfEra / 100 + dayOfYear
  era * 146097 + dayOfEra - 719468

/-- The date a number of days after the start of 1970. -/
def dateOfDays (days : Int) : Date :=
  let z := days + 719468
  let era := z.fdiv 146097
  let dayOfEra := z - era * 146097
  let yearOfEra := (dayOfEra - dayOfEra / 1460 + dayOfEra / 36524 - dayOfEra / 146096) / 365
  let dayOfYear := dayOfEra - (365 * yearOfEra + yearOfEra / 4 - yearOfEra / 100)
  let shifted := (5 * dayOfYear + 2) / 153
  let day := dayOfYear - (153 * shifted + 2) / 5 + 1
  let month := if shifted < 10 then shifted + 3 else shifted - 9
  let year := yearOfEra + era * 400 + (if month ≤ 2 then 1 else 0)
  ⟨year, month.toNat, day.toNat⟩

/-! ## Reading -/

/-- Exactly `width` digits at the front of the text. -/
def readFixed (width : Nat) (cs : List Char) : Option (Nat × List Char) :=
  let ds := cs.take width
  if ds.length = width ∧ ds.all Char.isDigit then some (Date.numberOf ds, cs.drop width) else none

/-- A given character at the front of the text. -/
def skip (c : Char) : List Char → Option (List Char)
  | d :: rest => if c = d then some rest else none
  | [] => none

/-- An offset from UTC in seconds. -/
def readOffset : List Char → Option (Int × List Char)
  | c :: rest =>
    if c = 'Z' ∨ c = 'z' then some (0, rest)
    else if c = '+' ∨ c = '-' then do
      let (hours, rest) ← readFixed 2 rest
      let rest ← skip ':' rest
      let (minutes, rest) ← readFixed 2 rest
      if 23 < hours ∨ 59 < minutes then none
      else
        let offset : Int := hours * 3600 + minutes * 60
        some (if c = '-' then -offset else offset, rest)
    else none
  | [] => none

/-- The text after a fraction of a second, if there is one. -/
def skipFraction : List Char → Option (List Char)
  | '.' :: rest =>
    let ds := rest.takeWhile Char.isDigit
    if ds = [] ∨ 9 < ds.length then none else some (rest.drop ds.length)
  | rest => some rest

/-- The point in time that a text names. -/
def ofList? (cs : List Char) : Option Timestamp := do
  let (year, rest) ← readFixed 4 cs
  let rest ← skip '-' rest
  let (month, rest) ← readFixed 2 rest
  let rest ← skip '-' rest
  let (day, rest) ← readFixed 2 rest
  let rest ← (skip 'T' rest).orElse fun _ => (skip 't' rest).orElse fun _ => skip ' ' rest
  let (hour, rest) ← readFixed 2 rest
  let rest ← skip ':' rest
  let (minute, rest) ← readFixed 2 rest
  let rest ← skip ':' rest
  let (second, rest) ← readFixed 2 rest
  let rest ← skipFraction rest
  let (offset, rest) ← readOffset rest
  if rest = [] ∧ Date.Exists year month day ∧ hour ≤ 23 ∧ minute ≤ 59 ∧ second ≤ 60 then
    let time : Int := hour * 3600 + minute * 60 + min second 59
    some ⟨daysOfDate ⟨year, month, day⟩ * 86400 + time - offset⟩
  else none

/-- The point in time that a string names. -/
def parse? (s : String) : Option Timestamp := ofList? s.toList

/-! ## Writing -/

/-- The written form in UTC, to the second. -/
def text (t : Timestamp) : String :=
  let days := t.seconds.fdiv 86400
  let time := (t.seconds - days * 86400).toNat
  String.ofList ((dateOfDays days).toList ++
    'T' :: Date.padded 2 (time / 3600) ++ ':' :: Date.padded 2 (time / 60 % 60) ++
    ':' :: Date.padded 2 (time % 60) ++ ['Z'])

end Timestamp

end Newsdesk
