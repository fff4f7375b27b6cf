import Newsdesk.Number.Binary64

/-!
# Shortest decimals

The decimal text of a float has the fewest significant digits that still read back as that
float; of several such decimals it is the nearest one.
-/

namespace Newsdesk.Number

/-- A decimal number `digits * 10 ^ exponent`. -/
structure Decimal where
  digits : Nat
  exponent : Int
deriving DecidableEq, Repr

namespace Decimal

/-- The decimal as a quotient of natural numbers. -/
def ratio (d : Decimal) : Nat × Nat :=
  if 0 ≤ d.exponent then (d.digits * Nat.pow 10 d.exponent.toNat, 1)
  else (d.digits, Nat.pow 10 (-d.exponent).toNat)

/-- The float nearest to the decimal. -/
def toBinary64 (d : Decimal) : Binary64 :=
  Binary64.ofRatio false d.ratio.1 d.ratio.2

/-- How many decimal digits a positive number has. -/
def width (n : Nat) : Nat := (Nat.toDigits 10 n).length

/-- A number of digits before the decimal point that `num / den` does not exceed; negative when
zeros follow the point. -/
def magnitude (num den : Nat) : Int :=
  if den ≤ num then width (num / den) else 2 - (width (den / num) : Int)

/-- The multiple of `10 ^ (magnitude - precision)` nearest to `num / den`. -/
def nearest (num den : Nat) (precision : Nat) : Decimal :=
  let exponent := magnitude num den - precision
  if 0 ≤ exponent then ⟨roundHalfEven num (den * Nat.pow 10 exponent.toNat), exponent⟩
  else ⟨roundHalfEven (num * Nat.pow 10 (-exponent).toNat) den, exponent⟩

/-- Drops the zeros at the end of the digits. -/
def strip : Nat → Decimal → Decimal
  | 0, d => d
  | fuel + 1, d =>
    if d.digits ≠ 0 ∧ d.digits % 10 = 0 then strip fuel ⟨d.digits / 10, d.exponent + 1⟩ else d

/-- The first decimal, by number of digits, that reads back as the float. -/
def search (mantissa : Nat) (exponent : Int) : Nat → Nat → Decimal
  | 0, precision => nearest (Binary64.ratio mantissa exponent).1
      (Binary64.ratio mantissa exponent).2 precision
  | fuel + 1, precision =>
    let (num, den) := Binary64.ratio mantissa exponent
    let candidate := nearest num den precision
    if candidate.toBinary64 = .finite false mantissa exponent then candidate
    else search mantissa exponent fuel (precision + 1)

/-- The shortest decimal that reads back as `mantissa * 2 ^ exponent`. -/
def shortest (mantissa : Nat) (exponent : Int) : Decimal :=
  if mantissa = 0 then ⟨0, 0⟩ else strip 20 (search mantissa exponent 20 1)

end Decimal

end Newsdesk.Number
