import TemplateScript.Number.Basic
import TemplateScript.Number.Decimal

/-!
# Layout of floating-point numbers

Fixed, exponent and general notation of a number, and the text in which the language shows one.
-/

namespace TemplateScript

/-- An exponent has a sign and at least two digits. -/
def exponentSuffix (exponent : Int) : List Char :=
  let digits := decimalDigits exponent.natAbs
  let padded := if digits.length < 2 then '0' :: digits else digits
  ['e', if exponent < 0 then '-' else '+'] ++ padded

/-- The digits before and after the point; a point without digits after it shows on demand. -/
def withPoint (keepPoint : Bool) (whole fraction : List Char) : List Char :=
  if fraction.isEmpty && !keepPoint then whole else whole ++ '.' :: fraction

/-- Fixed notation with `places` digits after the point. -/
def fixedNotation (places : Nat) (keepPoint : Bool) (num den : Nat) : List Char :=
  let digits := decimalDigits (Decimal.ofPlaces places num den)
  let padded := List.replicate (places + 1 - digits.length) '0' ++ digits
  withPoint keepPoint (padded.take (padded.length - places)) (padded.drop (padded.length - places))

/-- Exponent notation of a decimal. -/
def scientific (keepPoint : Bool) (d : Decimal) : List Char :=
  withPoint keepPoint (d.digits.take 1) (d.digits.drop 1) ++ exponentSuffix d.exponent

/-- Positional notation of a decimal. -/
def positional (keepPoint : Bool) (d : Decimal) : List Char :=
  if d.exponent < 0 then
    withPoint keepPoint ['0'] (List.replicate (d.exponent.natAbs - 1) '0' ++ d.digits)
  else
    let whole := d.exponent.toNat + 1
    withPoint keepPoint
      (d.digits.take whole ++ List.replicate (whole - d.digits.length) '0') (d.digits.drop whole)

/-- A quotient to `count` significant digits, zero included. -/
def significant (count num den : Nat) : Decimal :=
  if num = 0 then ⟨List.replicate count '0', 0⟩ else Decimal.ofSignificant count num den

/-- Exponent notation with `places` digits after the point. -/
def exponentNotation (places : Nat) (keepPoint : Bool) (num den : Nat) : List Char :=
  scientific keepPoint (significant (places + 1) num den)

/-- General notation: `precision` significant digits, positional where the exponent is at least
minus four and below the precision. Zeros at the end show on demand. -/
def generalNotation (precision : Nat) (keepZeros : Bool) (num den : Nat) : List Char :=
  let precision := max precision 1
  let decimal := significant precision num den
  let shown := if keepZeros then decimal else decimal.withoutTrailingZeros
  if decimal.exponent < -4 ∨ (precision : Int) ≤ decimal.exponent then scientific keepZeros shown
  else positional keepZeros shown

namespace Binary64

/-- Fourteen significant digits; an integral number keeps a point, an exponent or a letter that
tells it from an integer. -/
def display : Binary64 → List Char
  | .nan negative _ => if negative then "-nan".toList else "nan".toList
  | .infinite negative => if negative then "-inf".toList else "inf".toList
  | .finite negative m =>
    let text := generalNotation 14 false m.quotient.1 m.quotient.2
    let text := if negative then '-' :: text else text
    if isIntegral (.finite negative m) && !text.any (fun c => c == '.' || c == 'e') then
      text ++ ".0".toList
    else text

/-- The shortest text that reads back, positional for exponents from minus four to fifteen. -/
def shortestText : Binary64 → List Char
  | .nan _ _ => "nan".toList
  | .infinite negative => if negative then "-inf".toList else "inf".toList
  | .finite negative m =>
    let text :=
      if m.significand = 0 then "0.0".toList
      else
        let decimal := Decimal.shortest m
        if decimal.exponent < -4 ∨ 16 ≤ decimal.exponent then scientific false decimal
        else
          let text := positional false decimal
          if text.contains '.' then text else text ++ ".0".toList
    if negative then '-' :: text else text

end Binary64

end TemplateScript
