/-!
# Rounding quotients

A quotient of natural numbers is rounded to the nearest natural number; one that lies
half-way between two goes to the even neighbour.
-/

namespace Newsdesk.Number

/-- `num / den` rounded to the nearest natural number, ties to the even neighbour. -/
def roundHalfEven (num den : Nat) : Nat :=
  let quotient := num / den
  let remainder := num % den
  if 2 * remainder < den then quotient
  else if den < 2 * remainder then quotient + 1
  else if quotient % 2 = 0 then quotient
  else quotient + 1

end Newsdesk.Number
