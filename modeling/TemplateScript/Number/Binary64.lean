import TemplateScript.Number.Rounding

/-!
# Binary floating point

Floating-point numbers with a significand of 53 bits. A finite number is a sign and a magnitude in
canonical spelling, so two numbers of one sign are the same value exactly when they are equal.
Every operation is exact arithmetic followed by one rounding to the nearest number, ties to even.
-/

namespace TemplateScript

/-- Each magnitude `significand * 2 ^ exponent` has one canonical spelling: the significand is full
or the exponent is the least one. -/
def IsCanonical (significand : Nat) (exponent : Int) : Prop :=
  significand < Nat.pow 2 53 ∧ -1074 ≤ exponent ∧ exponent ≤ 971 ∧
    (Nat.pow 2 52 ≤ significand ∨ exponent = -1074)

instance (significand : Nat) (exponent : Int) : Decidable (IsCanonical significand exponent) :=
  inferInstanceAs (Decidable (_ ∧ _))

structure Magnitude where
  significand : Nat
  exponent : Int
  canonical : IsCanonical significand exponent
deriving DecidableEq

namespace Magnitude

instance : Inhabited Magnitude := ⟨⟨0, -1074, by decide⟩⟩

/-- The magnitude as a quotient with a power of two below. -/
def quotient (m : Magnitude) : Nat × Nat :=
  scaleDown 2 m.significand 1 (-m.exponent)

end Magnitude

/-- The mark of a NaN tells apart the NaNs that a program can hold on to; computed ones have mark
zero, which is no identity. -/
inductive Binary64 where
  | finite (negative : Bool) (magnitude : Magnitude)
  | infinite (negative : Bool)
  | nan (negative : Bool) (mark : Nat)
deriving DecidableEq

namespace Binary64

instance : Inhabited Binary64 := ⟨.finite false default⟩

def zeroOf (negative : Bool) : Binary64 := .finite negative default

def infinity : Binary64 := .infinite false

/-- The NaN that stands for an undefined result. -/
def undefined : Binary64 := .nan false 1

/-- The NaN of an operation that has no result. -/
def computedNan : Binary64 := .nan true 0

/-- `±significand * 2 ^ exponent` for a canonical spelling, infinity past the largest number. -/
def ofCanonical (negative : Bool) (significand : Nat) (exponent : Int) : Binary64 :=
  if h : IsCanonical significand exponent then .finite negative ⟨significand, exponent, h⟩
  else .infinite negative

/-- The number nearest to `±num / den`. -/
def ofQuotient (negative : Bool) (num den : Nat) : Binary64 :=
  if num = 0 then zeroOf negative
  else
    let exponent := max (-1074) (floorLog 2 num den - 52)
    let (scaledNum, scaledDen) := scaleDown 2 num den exponent
    let significand := roundQuotient scaledNum scaledDen
    if significand = Nat.pow 2 53 then ofCanonical negative (Nat.pow 2 52) (exponent + 1)
    else ofCanonical negative significand exponent

/-- The number nearest to `±significand * 2 ^ exponent`. -/
def ofScaled (negative : Bool) (significand : Nat) (exponent : Int) : Binary64 :=
  let (num, den) := scaleDown 2 significand 1 (-exponent)
  ofQuotient negative num den

def ofInt (n : Int) : Binary64 :=
  ofQuotient (decide (n < 0)) n.natAbs 1

/-- The number whose interchange code of 64 bits is `code`. -/
def ofBits (code : Nat) : Binary64 :=
  let negative := code / Nat.pow 2 63 % 2 == 1
  let biased : Nat := code / Nat.pow 2 52 % Nat.pow 2 11
  let fraction : Nat := code % Nat.pow 2 52
  if biased = 2047 then
    if fraction = 0 then .infinite negative else .nan negative 0
  else if biased = 0 then ofCanonical negative fraction (-1074)
  else ofCanonical negative (Nat.pow 2 52 + fraction) ((biased : Int) - 1075)

/-- The interchange code of 64 bits. -/
def toBits : Binary64 → Nat
  | .finite negative m =>
    let sign := if negative then Nat.pow 2 63 else 0
    if m.significand < Nat.pow 2 52 then sign + m.significand
    else sign + (m.exponent + 1075).toNat * Nat.pow 2 52 + (m.significand - Nat.pow 2 52)
  | .infinite negative => (if negative then Nat.pow 2 63 else 0) + 2047 * Nat.pow 2 52
  | .nan negative _ => (if negative then Nat.pow 2 63 else 0) + 2047 * Nat.pow 2 52 + Nat.pow 2 51

def isNan : Binary64 → Bool
  | .nan _ _ => true
  | _ => false

def isFinite : Binary64 → Bool
  | .finite _ _ => true
  | _ => false

def isZero : Binary64 → Bool
  | .finite _ m => m.significand == 0
  | _ => false

def isNegative : Binary64 → Bool
  | .finite negative _ | .infinite negative | .nan negative _ => negative

/-- The significand with its sign. -/
def signed (negative : Bool) (n : Nat) : Int :=
  if negative then -(n : Int) else n

/-- The value of a finite number as an integer over a natural number. -/
def fraction? : Binary64 → Option (Int × Nat)
  | .finite negative m => some (signed negative m.quotient.1, m.quotient.2)
  | _ => none

/-- The largest integer that is not above a finite number. -/
def floor? (x : Binary64) : Option Int :=
  x.fraction?.map fun (num, den) => num.fdiv den

/-- The smallest integer that is not below a finite number. -/
def ceil? (x : Binary64) : Option Int :=
  x.fraction?.map fun (num, den) => -((-num).fdiv den)

/-- The integer that a number equals. -/
def toInt? (x : Binary64) : Option Int :=
  match x.fraction? with
  | some (num, den) => if num % den = 0 then some (num / den) else none
  | none => none

def isIntegral (x : Binary64) : Bool :=
  x.toInt?.isSome

def neg : Binary64 → Binary64
  | .finite negative m => .finite (!negative) m
  | .infinite negative => .infinite (!negative)
  | .nan negative _ => .nan (!negative) 0

def abs : Binary64 → Binary64
  | .finite _ m => .finite false m
  | .infinite _ => .infinite false
  | .nan _ _ => .nan false 0

/-- An exact zero sum is positive unless both parts are negative. -/
def add : Binary64 → Binary64 → Binary64
  | .nan negative _, _ | _, .nan negative _ => .nan negative 0
  | .infinite left, .infinite right => if left = right then .infinite left else computedNan
  | .infinite negative, _ | _, .infinite negative => .infinite negative
  | .finite leftNegative left, .finite rightNegative right =>
    let exponent := min left.exponent right.exponent
    let sum :=
      signed leftNegative (left.significand * Nat.pow 2 (left.exponent - exponent).toNat) +
      signed rightNegative (right.significand * Nat.pow 2 (right.exponent - exponent).toNat)
    if sum = 0 then zeroOf (leftNegative && rightNegative)
    else ofScaled (decide (sum < 0)) sum.natAbs exponent

def sub (x y : Binary64) : Binary64 :=
  match y with
  | .nan negative _ => if x.isNan then x.add y else .nan negative 0
  | y => x.add y.neg

def mul : Binary64 → Binary64 → Binary64
  | .nan negative _, _ | _, .nan negative _ => .nan negative 0
  | .infinite left, .infinite right => .infinite (left != right)
  | .infinite negative, .finite other m | .finite other m, .infinite negative =>
    if m.significand = 0 then computedNan else .infinite (negative != other)
  | .finite leftNegative left, .finite rightNegative right =>
    ofScaled (leftNegative != rightNegative) (left.significand * right.significand)
      (left.exponent + right.exponent)

/-- Division by a number other than zero. -/
def div : Binary64 → Binary64 → Binary64
  | .nan negative _, _ | _, .nan negative _ => .nan negative 0
  | .infinite _, .infinite _ => computedNan
  | .infinite left, .finite right _ => .infinite (left != right)
  | .finite left _, .infinite right => zeroOf (left != right)
  | .finite leftNegative left, .finite rightNegative right =>
    let (num, den) :=
      scaleDown 2 left.significand right.significand (right.exponent - left.exponent)
    ofQuotient (leftNegative != rightNegative) num den

/-- What is left of `x` after taking off multiples of the divisor toward zero. -/
def truncatedRem : Binary64 → Binary64 → Binary64
  | .nan negative _, _ | _, .nan negative _ => .nan negative 0
  | .infinite _, _ => computedNan
  | .finite negative m, .infinite _ => .finite negative m
  | .finite negative left, .finite _ right =>
    let exponent := min left.exponent right.exponent
    let num := left.significand * Nat.pow 2 (left.exponent - exponent).toNat
    let den := right.significand * Nat.pow 2 (right.exponent - exponent).toNat
    ofScaled negative (num % den) exponent

/-- The remainder has the sign of the divisor, a zero remainder too. -/
def floorMod (x y : Binary64) : Binary64 :=
  let rem := x.truncatedRem y
  if rem.isNan then rem
  else if rem.isZero then zeroOf y.isNegative
  else if rem.isNegative != y.isNegative then rem.add y
  else rem

/-- The nearest number to the square root of a non-negative number. -/
def sqrt : Binary64 → Binary64
  | .nan negative _ => .nan negative 0
  | .infinite negative => if negative then computedNan else infinity
  | .finite negative m =>
    if m.significand = 0 then .finite negative m
    else if negative then computedNan
    else
      -- 120 further bits, at an even exponent, leave the root inexact only below the last place
      let shift : Nat := if m.exponent % 2 = 0 then 120 else 121
      let radicand := m.significand * Nat.pow 2 shift
      let root := floorSqrt radicand
      let sticky := if root * root = radicand then 2 * root else 2 * root + 1
      ofScaled false sticky ((m.exponent - shift) / 2 - 1)

end Binary64

end TemplateScript
