import TemplateScript.Number.Basic
import TemplateScript.Number.Decimal
import TemplateScript.Text.Blank
import TemplateScript.Text.Case
import TemplateScript.Text.Digit

/-!
# Reading numbers

Integers in any base up to thirty-six and decimal floating-point numbers. Digits of every script
count as decimal digits, and one underscore may stand between two digits. An integer in a base that
is no power of two is read only while it has at most `digitLimit` digits.
-/

namespace TemplateScript

/-- The value of a digit or a letter of the Latin alphabet, in either case. -/
def alphanumericDigit? (c : Char) : Option Nat :=
  match decimalDigit? c with
  | some d => some d
  | none =>
    if 'a' ≤ c ∧ c ≤ 'z' then some (c.toNat - 'a'.toNat + 10)
    else if 'A' ≤ c ∧ c ≤ 'Z' then some (c.toNat - 'A'.toNat + 10)
    else none

/-- Splits off a sign; the flag tells whether it was a minus. -/
def splitSign : List Char → Bool × List Char
  | '-' :: rest => (true, rest)
  | '+' :: rest => (false, rest)
  | text => (false, text)

/-- Reads digits of a base with single underscores between them, up to the end of the text. -/
def digitsOf? (base : Nat) : List Char → Option (List Nat)
  | [] => none
  | [c] => do
    let d ← alphanumericDigit? c
    if d < base then some [d] else none
  | c :: '_' :: rest => do
    let d ← alphanumericDigit? c
    if d < base then (digitsOf? base rest).map (d :: ·) else none
  | c :: rest => do
    let d ← alphanumericDigit? c
    if d < base then (digitsOf? base rest).map (d :: ·) else none

def valueOfDigits (base : Nat) (digits : List Nat) : Nat :=
  digits.foldl (fun value d => value * base + d) 0

/-- Whether integers of any length are read in a base. -/
def isUnlimitedBase (base : Nat) : Bool :=
  base == 2 || base == 4 || base == 8 || base == 16 || base == 32

inductive IntegerFault where
  | malformed
  | tooManyDigits (count : Nat)
deriving DecidableEq, Repr

/-- Reads the digits of an integer without sign. -/
def readDigits (base : Nat) (text : List Char) : Except IntegerFault Nat :=
  match digitsOf? base text with
  | none => .error .malformed
  | some digits =>
    if isUnlimitedBase base || digits.length ≤ digitLimit then .ok (valueOfDigits base digits)
    else .error (.tooManyDigits digits.length)

/-- Takes off `0x`, `0o` or `0b` and one underscore after it. -/
def dropBaseMark (text : List Char) : List Char :=
  match text.drop 2 with
  | '_' :: rest => rest
  | rest => rest

/-- The base that the first characters of an unsigned integer announce. -/
def announcedBase? : List Char → Option Nat
  | '0' :: c :: _ =>
    if c = 'x' ∨ c = 'X' then some 16
    else if c = 'o' ∨ c = 'O' then some 8
    else if c = 'b' ∨ c = 'B' then some 2
    else none
  | _ => none

/-- Reads an unsigned integer in a base, or in the announced one for base zero; without an
announcement base zero is ten, and then only zero may begin with the digit zero. -/
def readUnsigned (base : Nat) (text : List Char) : Except IntegerFault Nat :=
  if base = 0 then
    match announcedBase? text with
    | some announced => readDigits announced (dropBaseMark text)
    | none => do
      let value ← readDigits 10 text
      if text.head?.bind decimalDigit? = some 0 ∧ value ≠ 0 then .error .malformed else .ok value
  else if announcedBase? text = some base then readDigits base (dropBaseMark text)
  else readDigits base text

/-- Reads an integer with an optional sign and blanks around it. -/
def readInteger (base : Nat) (text : List Char) : Except IntegerFault Int := do
  let (negative, digits) := splitSign (strip text)
  let value ← readUnsigned base digits
  return if negative then -(value : Int) else value

/-- A decimal number before it is rounded: `mantissa * 10 ^ exponent`. -/
structure Scientific where
  negative : Bool
  mantissa : Nat
  digitCount : Nat
  exponent : Int

namespace Scientific

/-- The nearest floating-point number. A number whose first digit lies far outside the range is
settled without computing its power of ten. -/
def toBinary64 (s : Scientific) : Binary64 :=
  if s.mantissa = 0 then .zeroOf s.negative
  else if 400 < s.exponent + s.digitCount then .infinite s.negative
  else if s.exponent + s.digitCount < -400 then .zeroOf s.negative
  else
    let (num, den) := scaleDown 10 s.mantissa 1 (-s.exponent)
    .ofQuotient s.negative num den

end Scientific

/-- Splits a text before the first character that satisfies `p`; the character is dropped. -/
def splitAtFirst (p : Char → Bool) (text : List Char) : List Char × Option (List Char) :=
  match text.span fun c => !p c with
  | (before, []) => (before, none)
  | (before, _ :: after) => (before, some after)

/-- Digits that may be missing altogether. -/
def optionalDigits? (text : List Char) : Option (List Nat) :=
  if text.isEmpty then some [] else digitsOf? 10 text

/-- Reads a decimal number with a point, an exponent, both or neither. -/
def readScientific? (text : List Char) : Option Scientific := do
  let (negative, unsigned) := splitSign (strip text)
  let (body, exponentText) := splitAtFirst (fun c => c == 'e' || c == 'E') unsigned
  let (wholeText, fractionText) := splitAtFirst (· == '.') body
  let whole ← optionalDigits? wholeText
  let fraction ← optionalDigits? (fractionText.getD [])
  let digits := whole ++ fraction
  if digits.isEmpty then none
  let exponent ← match exponentText with
    | none => some 0
    | some text => do
      let (negativeExponent, digitText) := splitSign text
      let digits ← digitsOf? 10 digitText
      some (Binary64.signed negativeExponent (valueOfDigits 10 digits))
  let significantDigits := digits.dropWhile (· == 0)
  return {
    negative
    mantissa := valueOfDigits 10 digits
    digitCount := significantDigits.length
    exponent := exponent - fraction.length }

/-- Reads a floating-point number with an optional sign and blanks around it. -/
def readFloat? (text : List Char) : Option Binary64 :=
  (readScientific? text).map Scientific.toBinary64

def startsWith (opening text : List Char) : Bool :=
  opening.isPrefixOf text

/-- The number that a text stands for where a number is wanted. -/
def readNumber? (text : String) : Option Number :=
  let lowered := toLowerCase (strip text.toList)
  if startsWith ['0', 'x'] (lowered.dropWhile fun c => c == '+' || c == '-') then
    (readInteger 16 lowered).toOption.map .int
  else if lowered.any fun c => c == '.' || c == 'e' then
    (readFloat? lowered).map .float
  else
    (readInteger 10 lowered).toOption.map .int

end TemplateScript
