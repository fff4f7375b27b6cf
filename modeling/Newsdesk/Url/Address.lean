import Newsdesk.Text.Blank
import Newsdesk.Url.Encoding

/-!
# Numeric hosts

A host may be the number of a machine: four bytes, which can be written in several bases and
with the last parts run together, or eight groups of sixteen bits in hexadecimal.
-/

namespace Newsdesk.Url

open Text

/-- The number written by digits of a base; `none` when one is no digit of it. -/
def numberInBase (base : Nat) (cs : List Char) : Option Nat :=
  cs.foldlM (fun n c => do
    let d ← hexDigitValue? c
    if d < base then some (n * base + d) else none) 0

/-! ## Four bytes -/

/-- A part of a four-byte address: `0x` makes it hexadecimal and a leading zero octal. -/
def ipv4Part? : List Char → Option Nat
  | [] => none
  | '0' :: 'x' :: ds => numberInBase 16 ds
  | '0' :: 'X' :: ds => numberInBase 16 ds
  | '0' :: d :: ds => numberInBase 8 (d :: ds)
  | ds => numberInBase 10 ds

/-- The parts between the dots; a dot at the end adds none. -/
def dottedParts (cs : List Char) : List (List Char) :=
  let parts := splitAt '.' cs
  if parts.getLast? = some [] then parts.dropLast else parts

/-- Whether a domain name has to be read as a four-byte address: its last part is a number. -/
def endsInNumber (cs : List Char) : Bool :=
  match (dottedParts cs).getLast? with
  | some part => part ≠ [] && (part.all Char.isDigit || (ipv4Part? part).isSome)
  | none => false

/-- The address whose parts are given: each but the last is a byte, the last fills the rest. -/
def ipv4OfParts? (parts : List Nat) : Option Nat :=
  match parts.getLast? with
  | none => none
  | some last =>
    let bytes := parts.dropLast
    if 3 < bytes.length ∨ bytes.any (255 < ·) ∨ Nat.pow 256 (4 - bytes.length) ≤ last then none
    else some (bytes.foldl (fun n b => n * 256 + b) 0 * Nat.pow 256 (4 - bytes.length) + last)

/-- The four-byte address that a text names. -/
def ipv4? (cs : List Char) : Option Nat := do
  ipv4OfParts? (← (dottedParts cs).mapM ipv4Part?)

/-- A four-byte address as decimal bytes. -/
def ipv4Text (address : Nat) : List Char :=
  let byte (k : Nat) := Nat.toDigits 10 (address / Nat.pow 256 k % 256)
  byte 3 ++ '.' :: byte 2 ++ '.' :: byte 1 ++ '.' :: byte 0

/-! ## Eight groups -/

/-- A group of one to four hexadecimal digits. -/
def ipv6Group? (cs : List Char) : Option Nat :=
  if cs = [] ∨ 4 < cs.length then none else numberInBase 16 cs

/-- A decimal byte without zeros in front. -/
def decimalByte? (cs : List Char) : Option Nat :=
  match cs with
  | [] => none
  | '0' :: _ :: _ => none
  | ds => if ds.length ≤ 3 then (numberInBase 10 ds).filter (· ≤ 255) else none

/-- Two groups written as four decimal bytes. -/
def ipv4Tail? (cs : List Char) : Option (List Nat) := do
  match ← (splitAt '.' cs).mapM decimalByte? with
  | [a, b, c, d] => some [a * 256 + b, c * 256 + d]
  | _ => none

/-- The groups of a text without a double colon; the last two may be decimal bytes. -/
def groups? : List (List Char) → Option (List Nat)
  | [] => some []
  | [last] => if last.contains '.' then ipv4Tail? last else (ipv6Group? last).map fun n => [n]
  | g :: rest => do return (← ipv6Group? g) :: (← groups? rest)

/-- The text before and after the first double colon. -/
def splitDoubleColon : List Char → Option (List Char × List Char)
  | ':' :: ':' :: rest => some ([], rest)
  | c :: rest => (splitDoubleColon rest).map fun (before, after) => (c :: before, after)
  | [] => none

/-- The groups of a possibly empty side of a double colon. -/
def sideGroups? (cs : List Char) : Option (List Nat) :=
  if cs = [] then some [] else groups? (splitAt ':' cs)

/-- The eight groups that a text names. A double colon stands for at least one group of zeros. -/
def ipv6? (cs : List Char) : Option (List Nat) := do
  match splitDoubleColon cs with
  | none =>
    let gs ← groups? (splitAt ':' cs)
    if gs.length = 8 then some gs else none
  | some (before, after) =>
    let left ← if before.contains '.' then none else sideGroups? before
    let right ← sideGroups? after
    if left.length + right.length ≤ 7 then
      some (left ++ List.replicate (8 - left.length - right.length) 0 ++ right)
    else none

/-- How many groups at the front are zero. -/
def zeroRun (gs : List Nat) : Nat := (gs.takeWhile (· = 0)).length

/-- The longest run of zero groups: where it starts and its length. The first of several wins. -/
def longestRun : Nat → List Nat → Nat × Nat
  | at_, [] => (at_, 0)
  | at_, g :: rest =>
    let here := zeroRun (g :: rest)
    let (start, len) := longestRun (at_ + 1) rest
    if len ≤ here then (at_, here) else (start, len)

/-- Groups in hexadecimal with colons between them. -/
def groupsText (gs : List Nat) : List Char :=
  [':'].intercalate (gs.map (Nat.toDigits 16))

/-- Eight groups in their shortest form: the longest run of at least two zeros is left out. -/
def ipv6Text (gs : List Nat) : List Char :=
  let (start, len) := longestRun 0 gs
  if 2 ≤ len then groupsText (gs.take start) ++ ':' :: ':' :: groupsText (gs.drop (start + len))
  else groupsText gs

end Newsdesk.Url
