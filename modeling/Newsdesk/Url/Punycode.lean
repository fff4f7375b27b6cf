/-!
# Punycode

A label of a domain name outside ASCII is written with ASCII letters and digits: first its ASCII
characters, then where the others are inserted, as differences in a number system of base 36
whose thresholds adapt to what has been written.
-/

namespace Newsdesk.Url.Punycode

/-- The digit for a value below 36. -/
def digitChar (n : Nat) : Char :=
  if n < 26 then Char.ofNat ('a'.toNat + n) else Char.ofNat ('0'.toNat + (n - 26))

/-- The value of a lower-case digit. -/
def digitValue? (c : Char) : Option Nat :=
  if 'a' ≤ c ∧ c ≤ 'z' then some (c.toNat - 'a'.toNat)
  else if '0' ≤ c ∧ c ≤ '9' then some (c.toNat - '0'.toNat + 26)
  else none

/-- The threshold of the digit at position `k`. -/
def threshold (k bias : Nat) : Nat :=
  if k ≤ bias + 1 then 1 else if bias + 26 ≤ k then 26 else k - bias

theorem threshold_bounds (k bias : Nat) : 1 ≤ threshold k bias ∧ threshold k bias ≤ 26 := by
  unfold threshold
  split
  · omega
  · split <;> omega

/-- Divides by 35 until the difference is small, counting the divisions. -/
def shrink (delta k : Nat) : Nat × Nat :=
  if 455 < delta then shrink (delta / 35) (k + 36) else (delta, k)
termination_by delta
decreasing_by exact Nat.div_lt_self (by omega) (by omega)

/-- The bias after a difference has been written. -/
def adapt (delta points : Nat) (first : Bool) : Nat :=
  let delta := if first then delta / 700 else delta / 2
  let (delta, k) := shrink (delta + delta / points) 0
  k + 36 * delta / (delta + 38)

/-- A difference in digits. -/
def encodeNumber (bias k q : Nat) : List Char :=
  let t := threshold k bias
  if q < t then [digitChar q]
  else digitChar (t + (q - t) % (36 - t)) :: encodeNumber bias (k + 36) ((q - t) / (36 - t))
termination_by q
decreasing_by
  have hbounds := threshold_bounds k bias
  calc (q - threshold k bias) / (36 - threshold k bias)
      ≤ q - threshold k bias := Nat.div_le_self _ _
    _ < q := by omega

/-- What the encoder knows between two characters: its output, the pending difference, the bias
and how many characters have been written. -/
structure Encoder where
  output : List Char
  delta : Nat
  bias : Nat
  written : Nat

/-- Passes one character of the input while the characters `point` are inserted. -/
def Encoder.pass (basic point : Nat) (e : Encoder) (c : Char) : Encoder :=
  if c.toNat < point then { e with delta := e.delta + 1 }
  else if c.toNat = point then
    { output := e.output ++ encodeNumber e.bias 36 e.delta
      delta := 0
      bias := adapt e.delta (e.written + 1) (e.written = basic)
      written := e.written + 1 }
  else e

/-- Inserts a code point into an ordered list without repetition. -/
def insertPoint (n : Nat) : List Nat → List Nat
  | [] => [n]
  | m :: rest => if n < m then n :: m :: rest else if n = m then m :: rest else m :: insertPoint n rest

/-- The code points outside ASCII, in order. -/
def extendedPoints (cs : List Char) : List Nat :=
  cs.foldl (fun acc c => if c.toNat < 0x80 then acc else insertPoint c.toNat acc) []

/-- Inserts the characters of each code point in turn. -/
def encodePoints (input : List Char) (basic : Nat) : List Nat → Nat → Encoder → Encoder
  | [], _, e => e
  | point :: rest, n, e =>
    let e := { e with delta := e.delta + (point - n) * (e.written + 1) }
    let e := input.foldl (Encoder.pass basic point) e
    encodePoints input basic rest (point + 1) { e with delta := e.delta + 1 }

/-- The ASCII form of a label. -/
def encode (input : List Char) : List Char :=
  let ascii := input.filter fun c => c.toNat < 0x80
  let output := if ascii = [] then [] else ascii ++ ['-']
  (encodePoints input ascii.length (extendedPoints input) 128
    ⟨output, 0, 72, ascii.length⟩).output

/-- A difference at the front of the text: digits up to one below its threshold. -/
def decodeNumber (bias : Nat) : Nat → Nat → Nat → List Char → Option (Nat × List Char)
  | _, _, _, [] => none
  | k, weight, i, c :: rest => do
    let digit ← digitValue? c
    let i := i + digit * weight
    let t := threshold k bias
    if digit < t then some (i, rest)
    else decodeNumber bias (k + 36) (weight * (36 - t)) i rest

/-- The greatest code point. -/
def maxPoint : Nat := 0x10FFFF

/-- Inserts the characters that the digits describe. The fuel bounds their number. -/
def decodePoints : Nat → List Char → Nat → Nat → Nat → List Char → Option (List Char)
  | _, output, _, _, _, [] => some output
  | 0, _, _, _, _, _ => none
  | fuel + 1, output, n, i, bias, digits => do
    let (next, rest) ← decodeNumber bias 36 1 i digits
    let size := output.length + 1
    let point := n + next / size
    let place := next % size
    if maxPoint < point ∨ (0xD800 ≤ point ∧ point ≤ 0xDFFF) then none
    else
      let output := output.take place ++ Char.ofNat point :: output.drop place
      decodePoints fuel output point (place + 1) (adapt (next - i) size (i = 0)) rest

/-- The label with a given ASCII form. -/
def decode (input : List Char) : Option (List Char) :=
  let digits := (input.reverse.takeWhile (· ≠ '-')).reverse
  let ascii := input.take (input.length - digits.length - 1)
  if ascii.any fun c => 0x80 ≤ c.toNat then none
  else decodePoints (digits.length + 1) ascii 128 0 72 digits

end Newsdesk.Url.Punycode
