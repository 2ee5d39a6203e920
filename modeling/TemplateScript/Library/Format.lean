import TemplateScript.Library.Arguments

/-!
# Formatted texts

A format is literal text with conversions in it. A conversion is a percent sign, flags, a width, a
precision and a letter; it takes the next value, and `%%` takes none and stands for a percent
sign. A percent sign that opens no conversion is literal.
-/

namespace TemplateScript

/-- How a conversion lays out its text. -/
structure FieldLayout where
  leftAligned : Bool
  plusSign : Bool
  blankSign : Bool
  alternate : Bool
  zeroFilled : Bool
  width : Nat
  precision : Option Nat

/-- A piece of a format: literal text, or the options and the letter of a conversion. -/
inductive FormatPiece where
  | literal (c : Char)
  | conversion (options : List Char) (letter : Char)
deriving DecidableEq, Repr

namespace Format

def isFlag (c : Char) : Bool :=
  c == '-' || c == '+' || c == ' ' || c == '#' || c == '0'

def isLetter (c : Char) : Bool :=
  "diouxXeEfgGqsc%".toList.contains c

/-- The options at the front of a text: flags, digits, and a point with digits after it. -/
def optionLength (text : List Char) : Nat :=
  let flags := (text.takeWhile isFlag).length
  let width := ((text.drop flags).takeWhile isDecimalDigit).length
  let precision := match text.drop (flags + width) with
    | '.' :: rest =>
      let digits := (rest.takeWhile isDecimalDigit).length
      if digits = 0 then 0 else digits + 1
    | _ => 0
  flags + width + precision

/-- The conversion behind a percent sign, as its options, its letter and the text after it. -/
def conversion? (text : List Char) : Option (List Char × Char × List Char) :=
  match text.drop (optionLength text) with
  | c :: rest => if isLetter c then some (text.take (optionLength text), c, rest) else none
  | [] => none

/-- The pieces of a format of at most `limit` characters. -/
def piecesUpTo : Nat → List Char → List FormatPiece
  | 0, _ | _, [] => []
  | limit + 1, c :: rest =>
    if c = '%' then
      match conversion? rest with
      | some (options, letter, rest) => .conversion options letter :: piecesUpTo limit rest
      | none => .literal c :: piecesUpTo limit rest
    else .literal c :: piecesUpTo limit rest

def pieces (text : List Char) : List FormatPiece :=
  piecesUpTo text.length text

def asciiDigits (text : List Char) : List Char := text.takeWhile Char.isDigit

def asciiValue (digits : List Char) : Nat :=
  digits.foldl (fun value c => value * 10 + (c.toNat - '0'.toNat)) 0

/-- The layout that options ask for. Widths and precisions are written in ASCII digits. -/
def layout (options : List Char) : Except HostFault FieldLayout := do
  let flags := options.takeWhile isFlag
  let widthDigits := asciiDigits (options.drop flags.length)
  let width := asciiValue widthDigits
  if Nat.pow 2 63 ≤ width then throw .fieldTooWide
  let afterWidth := options.drop (flags.length + widthDigits.length)
  let (precision, rest) ← match afterWidth with
    | '.' :: rest =>
      let digits := asciiDigits rest
      if Nat.pow 2 31 ≤ asciiValue digits then throw .precisionTooBig
      pure (some (asciiValue digits), rest.drop digits.length)
    | rest => pure (none, rest)
  match rest with
  | [] =>
    return {
      leftAligned := flags.contains '-'
      plusSign := flags.contains '+'
      blankSign := flags.contains ' '
      alternate := flags.contains '#'
      zeroFilled := flags.contains '0'
      width
      precision }
  | c :: _ => throw (.unsupportedConversion c.toNat (options.length - rest.length + 1))

/-- Blanks around a text up to the width. -/
def aligned (f : FieldLayout) (text : List Char) : List Char :=
  let padding := List.replicate (f.width - text.length) ' '
  if f.leftAligned then text ++ padding else padding ++ text

/-- Lays out a number: zeros stand between its sign or mark and its digits, blanks around it. -/
def numeric (f : FieldLayout) (negative : Bool) (mark digits : List Char) : List Char :=
  let sign :=
    if negative then ['-'] else if f.plusSign then ['+'] else if f.blankSign then [' '] else []
  let opening := sign ++ mark
  if f.zeroFilled && !f.leftAligned then
    opening ++ List.replicate (f.width - (opening.length + digits.length)) '0' ++ digits
  else aligned f (opening ++ digits)

/-- Digits with zeros before them up to the precision. -/
def withLeadingZeros (f : FieldLayout) (digits : List Char) : List Char :=
  List.replicate (f.precision.getD 0 - digits.length) '0' ++ digits

def text (f : FieldLayout) (s : List Char) : List Char :=
  aligned f (match f.precision with
    | some precision => s.take precision
    | none => s)

def decimal (f : FieldLayout) (n : Int) : Except HostFault (List Char) :=
  match integerText? n with
  | none => .error .tooManyDigits
  | some _ => .ok (numeric f (decide (n < 0)) [] (withLeadingZeros f (decimalDigits n.natAbs)))

/-- Octal and hexadecimal integers; the alternate form announces the base. -/
def inBase (f : FieldLayout) (letter : Char) (n : Int) : List Char :=
  let digits := Nat.toDigits (if letter = 'o' then 8 else 16) n.natAbs
  let digits := if letter = 'X' then digits.map Char.toUpper else digits
  numeric f (decide (n < 0)) (if f.alternate then ['0', letter] else [])
    (withLeadingZeros f digits)

def isUpperLetter (c : Char) : Bool := c == 'E' || c == 'G'

/-- The magnitude of a floating-point number in the notation of a letter. -/
def floatBody (f : FieldLayout) (letter : Char) : Binary64 → List Char
  | .nan _ _ => "nan".toList
  | .infinite _ => "inf".toList
  | .finite _ m =>
    let (num, den) := m.quotient
    let precision := f.precision.getD 6
    if letter = 'f' then fixedNotation precision f.alternate num den
    else if letter = 'e' ∨ letter = 'E' then exponentNotation precision f.alternate num den
    else generalNotation precision f.alternate num den

def float (f : FieldLayout) (letter : Char) (x : Binary64) : List Char :=
  let body := floatBody f letter x
  let body := if isUpperLetter letter then body.map Char.toUpper else body
  numeric f (!x.isNan && x.isNegative) [] body

/-- The character with a code. The halves of surrogate pairs have codes and are refused. -/
def character (code : Int) : Except HostFault (List Char) :=
  if code < -Int.pow 2 31 ∨ Int.pow 2 31 ≤ code then .error .codeTooLarge
  else if code < 0 ∨ 0x110000 ≤ code then .error .codeOutOfRange
  else if code.toNat.isValidChar then .ok [Char.ofNat code.toNat]
  else .error (.surrogate code.toNat)

/-- The text of one value, which stands at `position` among the arguments. -/
def convert (options : List Char) (letter : Char) (position : Nat) (v : Value) :
    Except HostFault (List Char) := do
  if letter = 's' then
    let shown ← v.display
    return text (← layout options) shown.toList
  else if letter = 'q' then
    return (doubleQuoted (← v.display)).toList
  else if letter = 'c' then
    character (← Argument.integer "format" position v)
  else if letter = 'd' ∨ letter = 'i' ∨ letter = 'u' then
    let n ← Argument.integer "format" position v
    decimal (← layout options) n
  else if letter = 'o' ∨ letter = 'x' ∨ letter = 'X' then
    let n ← Argument.integer "format" position v
    return inBase (← layout options) letter n
  else
    let n ← Argument.number "format" position v
    let x ← n.toFloat.mapError HostFault.ofNumber
    return float (← layout options) letter x

/-- Fills the pieces with values, the next of which stands at `position` among the arguments.
Values that no conversion takes are left over. -/
def fill : List FormatPiece → Nat → List Value → Except HostFault (List Char)
  | [], _, _ => .ok []
  | .literal c :: rest, position, values => do return c :: (← fill rest position values)
  | .conversion options letter :: rest, position, values =>
    if letter = '%' then do return '%' :: (← fill rest position values)
    else
      match values with
      | [] => .error (.noArgument position "format")
      | v :: values => do
        let shown ← convert options letter position v
        return shown ++ (← fill rest (position + 1) values)

/-- The values follow the format among the arguments. -/
def format (pattern : String) (values : List Value) : Except HostFault String := do
  return String.ofList (← fill (pieces pattern.toList) 2 values)

end Format

end TemplateScript
