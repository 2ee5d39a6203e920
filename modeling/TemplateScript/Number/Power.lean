import TemplateScript.Number.Basic

/-!
# Powers

A power is a floating-point number. An integer power of a number with a short significand is
computed exactly; every other power goes through a logarithm and an exponential of 256 fractional
bits. The power is the nearest number, except that the power function of the machine chooses one of
the two nearest where there is next to nothing between them. A power without a real value is
undefined, and one past the largest number is positive infinity.
-/

namespace TemplateScript

namespace FixedPoint

/-- The value of one with 256 fractional bits. -/
def one : Int := Int.pow 2 256

def mul (x y : Int) : Int := x * y / one

/-- `power * square ^ i / (2 * i + 1)` summed over `terms` values of `i` from `index` on. -/
def oddSeries (square : Int) : Nat → Nat → Int → Int
  | 0, _, _ => 0
  | terms + 1, index, power =>
    power / (2 * index + 1 : Nat) + oddSeries square terms (index + 1) (mul power square)

/-- The natural logarithm of a number from one to two, by the series of the area tangent. -/
def logOfUnit (z : Int) : Int :=
  let t := (z - one) * one / (z + one)
  2 * oddSeries (mul t t) 90 0 t

def logTwo : Int := logOfUnit (2 * one)

/-- The natural logarithm of `significand * 2 ^ exponent`. -/
def log (significand : Nat) (exponent : Int) : Int :=
  let top := significand.log2
  logOfUnit ((significand : Int) * one / Nat.pow 2 top) + (exponent + top) * logTwo

/-- `term * x ^ i / i!` summed over `terms` values of `i` after `index`. -/
def expSeries (x : Int) : Nat → Nat → Int → Int
  | 0, _, _ => 0
  | terms + 1, index, term =>
    let next := mul term x / (index + 1 : Nat)
    next + expSeries x terms (index + 1) next

/-- The exponential of `x`, as a number with 256 fractional bits and a power of two. -/
def exp (x : Int) : Nat × Int :=
  let shift := (2 * x + logTwo) / (2 * logTwo)
  let rest := x - shift * logTwo
  ((one + expSeries rest 70 0 one).toNat, shift)

end FixedPoint

namespace Binary64

/-- Past this power of two every number is infinite or rounds to zero. -/
def exponentBound : Int := 20000

def clampExponent (exponent : Int) : Int :=
  max (-exponentBound) (min exponentBound exponent)

/-- The odd part of a positive number and the exponent of two that it leaves. -/
def oddPart : Nat → Nat → Nat × Nat
  | 0, n => (n, 0)
  | steps + 1, n =>
    if n % 2 = 0 then
      let (odd, zeros) := oddPart steps (n / 2)
      (odd, zeros + 1)
    else (n, 0)

/-- `(odd * 2 ^ exponent) ^ n` as a quotient. -/
def integerPower (odd : Nat) (exponent n : Int) : Nat × Nat :=
  let power := odd.pow n.natAbs
  let (num, den) := if 0 ≤ n then (power, 1) else (1, power)
  scaleDown 2 num den (-clampExponent (exponent * n))

/-- The logarithm past which a power is infinite, or zero where it is negative. -/
def logarithmBound : Int := 800 * FixedPoint.one

/-- `(significand * 2 ^ exponent) ^ (num / den)` as a quotient, through the logarithm. -/
def realPower (significand : Nat) (exponent num : Int) (den : Nat) : Nat × Nat :=
  let logarithm := FixedPoint.log significand exponent * num / den
  let (value, shift) :=
    FixedPoint.exp (max (-logarithmBound) (min logarithmBound logarithm))
  scaleDown 2 value 1 (256 - shift)

/-- The power of a positive number as a quotient. An integer power is exact while it is short. -/
def magnitudePower (base : Magnitude) (num : Int) (den : Nat) : Nat × Nat :=
  let (odd, zeros) := oddPart 53 base.significand
  if num % den = 0 ∧ (odd.log2 + 1) * (num / den).natAbs ≤ 8192 then
    integerPower odd (base.exponent + zeros) (num / den)
  else realPower base.significand base.exponent num den

/-- The power function of the machine, which is right but for little more than half a unit. -/
def machinePower (base exponent : Binary64) : Binary64 :=
  let code (x : Binary64) : Float := .ofBits x.toBits.toUInt64
  ofBits ((code base).pow (code exponent)).toBits.toNat

/-- One part in so many is less than the eighth of a unit in the last place. -/
def marginParts : Nat := Nat.pow 2 57

/--
The number nearest to `±num / den`. Where one part of the quotient more or less decides between two
numbers, it is the one that the machine names.
-/
def nearest (negative : Bool) (num den : Nat) (named : Binary64) : Binary64 :=
  let below := ofQuotient negative (num * (marginParts - 1)) (den * marginParts)
  let above := ofQuotient negative (num * (marginParts + 1)) (den * marginParts)
  if below = above then below else if named = above then above else below

/-- The power of a finite base other than zero, to a finite exponent; a negative base needs an
integer exponent. -/
def finitePower (negative : Bool) (base : Magnitude) (negativeExponent : Bool)
    (exponent : Magnitude) : Binary64 :=
  let (num, den) := exponent.quotient
  let isIntegral := num % den == 0
  if negative && !isIntegral then undefined
  else
    let (powerNum, powerDen) := magnitudePower base (signed negativeExponent num) den
    nearest (negative && num / den % 2 == 1) powerNum powerDen
      (machinePower (.finite negative base) (.finite negativeExponent exponent))

/-- An odd integer. -/
def isOdd (x : Binary64) : Bool :=
  match x.toInt? with
  | some n => n % 2 == 1
  | none => false

def one : Binary64 := ofInt 1

/-- The power of floating-point numbers before overflow is settled. -/
def rawPower (base exponent : Binary64) : Binary64 :=
  match base, exponent with
  | .nan negative mark, y => if y.isZero then one else .nan negative mark
  | x, .nan negative mark => if x = one then one else .nan negative mark
  | .infinite negative, y =>
    if y.isZero then one
    else if y.isNegative then zeroOf (negative && y.isOdd)
    else .infinite (negative && y.isOdd)
  | .finite _ m, .infinite negativeExponent =>
    let magnitude := Number.compare? (.float (.finite false m)) (.int 1)
    if magnitude = some .eq then one
    else if (magnitude = some .gt) != negativeExponent then infinity
    else zeroOf false
  | .finite negative m, .finite negativeExponent n =>
    if n.significand = 0 then one
    else if m.significand = 0 then
      if negativeExponent then undefined
      else zeroOf (negative && (Binary64.finite negativeExponent n).isOdd)
    else finitePower negative m negativeExponent n

/-- A power of finite numbers past the largest number is positive infinity. -/
def power (base exponent : Binary64) : Binary64 :=
  match rawPower base exponent with
  | .infinite negative =>
    if base.isFinite && exponent.isFinite then infinity else .infinite negative
  | .nan negative _ => if base.isFinite && exponent.isFinite then undefined else .nan negative 0
  | result => result

end Binary64

namespace Number

/-- An operand too large for a floating-point number makes the power infinite. -/
def power (base exponent : Number) : Binary64 :=
  match base.toFloat, exponent.toFloat with
  | .ok x, .ok y => x.power y
  | _, _ => .infinity

end Number

end TemplateScript
