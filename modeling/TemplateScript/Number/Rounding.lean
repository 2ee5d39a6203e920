/-!
# Rounding quotients

A quotient of natural numbers is rounded to the nearest integer, and a tie goes to the even
neighbour. The same rule serves a grid of any power of a base: the quotient is first divided by
the distance of the grid's points. `floorLog` finds the grid on which a quotient has a given
number of digits.
-/

namespace TemplateScript

/-- `num / den` to the nearest integer, ties to even. -/
def roundQuotient (num den : Nat) : Nat :=
  let quotient := num / den
  let excess := 2 * (num % den)
  if excess < den then quotient
  else if den < excess then quotient + 1
  else if quotient % 2 = 0 then quotient
  else quotient + 1

/-- The quotient `num / den` divided by `base ^ exponent`, as a quotient again. -/
def scaleDown (base : Nat) (num den : Nat) (exponent : Int) : Nat × Nat :=
  if 0 ≤ exponent then (num, den * base.pow exponent.toNat)
  else (num * base.pow (-exponent).toNat, den)

/-- The number of digits of `n` in a base, one for zero. -/
def digitCount (base n : Nat) : Nat :=
  if base = 10 then (Nat.toDigits 10 n).length else n.log2 + 1

/-- The largest `k` with `base ^ k ≤ num / den`, for a positive quotient and base two or ten. -/
def floorLog (base num den : Nat) : Int :=
  let estimate : Int := digitCount base num - digitCount base den
  let (scaledNum, scaledDen) := scaleDown base num den estimate
  if scaledDen ≤ scaledNum then estimate else estimate - 1

/-- The square root of `n` to the integer below, for `n < 4 ^ steps`. -/
def floorSqrtWithin : Nat → Nat → Nat
  | 0, _ => 0
  | steps + 1, n =>
    let root := 2 * floorSqrtWithin steps (n / 4)
    if (root + 1) * (root + 1) ≤ n then root + 1 else root

/-- The square root of `n` to the integer below. -/
def floorSqrt (n : Nat) : Nat :=
  floorSqrtWithin (n.log2 / 2 + 1) n

end TemplateScript
