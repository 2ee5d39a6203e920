import TemplateScript.Number.Binary64

/-!
# Decimal digits of numbers

The digits of a positive quotient, rounded to a number of significant digits or of places, and the
shortest decimal that reads back as a floating-point number: the fewest digits that do, and of
those the nearest.
-/

namespace TemplateScript

/-- An integer is written only while it has at most this many digits. -/
def digitLimit : Nat := 4300

def decimalDigits (n : Nat) : List Char :=
  Nat.toDigits 10 n

/-- The digits of an integer with its sign, unless there are too many. -/
def integerText? (n : Int) : Option (List Char) :=
  let digits := decimalDigits n.natAbs
  if digits.length ≤ digitLimit then some (if n < 0 then '-' :: digits else digits) else none

/-- Decimal digits `d₁d₂…` that stand for `d₁.d₂… * 10 ^ exponent`. -/
structure Decimal where
  digits : List Char
  exponent : Int

namespace Decimal

/-- A positive quotient rounded to `count` significant digits. -/
def ofSignificant (count num den : Nat) : Decimal :=
  let exponent := floorLog 10 num den
  let (scaledNum, scaledDen) := scaleDown 10 num den (exponent - (count - 1 : Nat))
  let rounded := roundQuotient scaledNum scaledDen
  if rounded = Nat.pow 10 count then ⟨decimalDigits (Nat.pow 10 (count - 1)), exponent + 1⟩
  else ⟨decimalDigits rounded, exponent⟩

/-- A quotient rounded to `places` digits after the point, in units of the last place. -/
def ofPlaces (places num den : Nat) : Nat :=
  roundQuotient (num * Nat.pow 10 places) den

def withoutTrailingZeros (d : Decimal) : Decimal :=
  match (d.digits.reverse.dropWhile (· == '0')).reverse with
  | [] => ⟨['0'], d.exponent⟩
  | digits => ⟨digits, d.exponent⟩

/-- Whether `n * 10 ^ exponent` reads as the magnitude `m`. -/
def readsAs (m : Magnitude) (n : Nat) (exponent : Int) : Bool :=
  let (num, den) := scaleDown 10 n 1 (-exponent)
  Binary64.ofQuotient false num den == .finite false m

/-- Of the two decimals with `count` digits next to a magnitude, the nearest that reads back. -/
def neighbour? (m : Magnitude) (count : Nat) : Option Decimal :=
  let (num, den) := m.quotient
  let exponent := floorLog 10 num den
  let unit := exponent - (count - 1 : Nat)
  let (scaledNum, scaledDen) := scaleDown 10 num den unit
  let below := scaledNum / scaledDen
  let nearest := roundQuotient scaledNum scaledDen
  let other := if nearest = below then below + 1 else below
  let chosen :=
    if readsAs m nearest unit then some nearest
    else if readsAs m other unit then some other
    else none
  chosen.map fun n =>
    let digits := decimalDigits n
    ⟨digits, unit + (digits.length - 1 : Nat)⟩

/-- The shortest decimal that reads back as a positive magnitude; seventeen digits always do. -/
def shortest (m : Magnitude) : Decimal :=
  let counts := (List.range 17).map (· + 1)
  let found := counts.findSome? (neighbour? m)
  (found.getD (ofSignificant 17 m.quotient.1 m.quotient.2)).withoutTrailingZeros

end Decimal

end TemplateScript
