import Newsdesk.Number.Binary64

/-!
# Durations

A duration is a count of nanoseconds below `2 ^ 64` seconds. It is read and written as whole
seconds and the nanoseconds left over. Scaling goes through floating-point seconds: the count
becomes the nearest float, and the float that results is rounded to the nearest nanosecond.
-/

namespace Newsdesk

open Number

/-- A length of time in nanoseconds. -/
structure Duration where
  nanos : Nat
deriving DecidableEq, Repr, Inhabited

namespace Duration

/-- Nanoseconds in a second. -/
def nanosPerSecond : Nat := 1000000000

/-- The first count of nanoseconds that no duration reaches. -/
def bound : Nat := 0x10000000000000000 * nanosPerSecond

/-- The empty duration. -/
def zero : Duration := ⟨0⟩

/-- A number of whole seconds. -/
def ofSeconds (seconds : Nat) : Duration := ⟨seconds * nanosPerSecond⟩

/-- A number of whole milliseconds. -/
def ofMillis (millis : Nat) : Duration := ⟨millis * 1000000⟩

/-- Whole seconds and nanoseconds; `none` when they exceed every duration. -/
def ofParts? (seconds nanos : Nat) : Option Duration :=
  let total := seconds * nanosPerSecond + nanos
  if total < bound then some ⟨total⟩ else none

/-- The whole seconds of a duration. -/
def seconds (d : Duration) : Nat := d.nanos / nanosPerSecond

/-- The nanoseconds beyond the whole seconds. -/
def subsecond (d : Duration) : Nat := d.nanos % nanosPerSecond

/-- The milliseconds of a duration, rounded down. -/
def millis (d : Duration) : Nat := d.nanos / 1000000

instance : LE Duration := ⟨fun a b => a.nanos ≤ b.nanos⟩

instance (a b : Duration) : Decidable (a ≤ b) := inferInstanceAs (Decidable (a.nanos ≤ b.nanos))

/-- The shorter of two durations. -/
def atMost (d limit : Duration) : Duration := if d ≤ limit then d else limit

instance : Add Duration := ⟨fun a b => ⟨a.nanos + b.nanos⟩⟩

/-- The duration in seconds as a float: whole seconds and fraction are rounded apart and
then added. -/
def toSeconds (d : Duration) : Binary64 :=
  Binary64.addMagnitudes (Binary64.ofNat d.seconds)
    ((Binary64.ofNat d.subsecond).divNat nanosPerSecond)

/-- The duration nearest to a float number of seconds; `none` when the float is below zero,
not finite, or at least `2 ^ 64`. -/
def ofSeconds? (x : Binary64) : Option Duration :=
  match x with
  | .finite _ mantissa exponent =>
    if x.isBelowZero then none
    else
      let (num, den) := Binary64.ratio mantissa exponent
      let total := roundHalfEven (num * nanosPerSecond) den
      if total < bound then some ⟨total⟩ else none
  | _ => none

/-- The duration multiplied by a float; `none` when the product is no duration. -/
def scale? (factor : Binary64) (d : Duration) : Option Duration :=
  ofSeconds? (d.toSeconds.mul factor)

theorem atMost_le (d limit : Duration) : d.atMost limit ≤ limit := by
  unfold atMost
  split
  · assumption
  · exact Nat.le_refl _

end Duration

end Newsdesk
