import TemplateScript.Text.Composition
import TemplateScript.Text.Direction
import TemplateScript.Text.Joining
import TemplateScript.Text.Quoted
import TemplateScript.Text.WritingSystem
import TemplateScript.Url.DomainLetter
import TemplateScript.Url.Punycode

/-!
# Labels of domain names

A label is one of the parts between the dots of a domain name. Inside the program it is a text of
any script, and on the wire basic characters: one that is not basic goes as `xn--` and its
punycode. Which texts are labels depends on their letters, on the neighbours of some of them, on
hyphens, and on the directions in which they are written. A text that is checked is given by its
codes, since punycode has room for codes that are no characters.
-/

namespace TemplateScript

/-- Why a text is no domain name. A place counts from one. -/
inductive DomainFault where
  | emptyDomain
  | emptyLabel
  | longDomain
  | longLabel
  | notComposed
  /-- The third and the fourth character are hyphens. -/
  | innerHyphens
  | outerHyphen
  | leadingMark
  /-- The sign of punycode stands alone. -/
  | emptyPunycode
  | openPunycode
  | malformedPunycode
  /-- The punycode of the label is written in another way. -/
  | looseEncoding
  | letter (code place : Nat) (label : List Nat)
  /-- The neighbours of a joiner do not admit it. -/
  | joiner (code place : Nat) (label : List Nat)
  /-- Nothing is known of the character before a joiner. -/
  | joinerNeighbour (code place : Nat) (label : List Nat)
  /-- The neighbours of a character do not admit it. -/
  | misplaced (code place : Nat) (label : List Nat)
  | unknownDirection (place : Nat) (label : List Nat)
  | firstDirection (label : List Nat)
  | direction (place : Nat) (isRightToLeft : Bool)
  | mixedNumbers
  | lastDirection
deriving DecidableEq, Repr

namespace DomainFault

/-- The letter U, a plus sign, and at least four hexadecimal digits. -/
def codeName (code : Nat) : String :=
  "U+" ++ String.ofList ((hexPadded 4 code).map Char.toUpper)

def shown (label : List Nat) : String := String.ofList (Quoted.encodeCodes label)

def message : DomainFault → String
  | .emptyDomain => "Empty domain"
  | .emptyLabel => "Empty Label"
  | .longDomain => "Domain too long"
  | .longLabel => "Label too long"
  | .notComposed => "Label must be in Normalization Form C"
  | .innerHyphens => "Label has disallowed hyphens in 3rd and 4th position"
  | .outerHyphen => "Label must not start or end with a hyphen"
  | .leadingMark => "Label begins with an illegal combining character"
  | .emptyPunycode => "Malformed A-label, no Punycode eligible content found"
  | .openPunycode => "A-label must not end with a hyphen"
  | .malformedPunycode => "Invalid A-label"
  | .looseEncoding => "A-label is not the canonical Punycode encoding of its U-label"
  | .letter code place label =>
    s!"Codepoint {codeName code} at position {place} of {shown label} not allowed"
  | .joiner code place label =>
    s!"Joiner {codeName code} not allowed at position {place} in {shown label}"
  | .joinerNeighbour code place label =>
    s!"Unknown codepoint adjacent to joiner {codeName code} at position {place} in {shown label}"
  | .misplaced code place label =>
    s!"Codepoint {codeName code} not allowed at position {place} in {shown label}"
  | .unknownDirection place label =>
    s!"Unknown directionality in label {shown label} at position {place}"
  | .firstDirection label =>
    s!"First codepoint in label {shown label} must be directionality L, R or AL"
  | .direction place isRightToLeft =>
    let order := if isRightToLeft then "right-to-left" else "left-to-right"
    s!"Invalid direction for codepoint at position {place} in a {order} label"
  | .mixedNumbers => "Can not mix numeral types in a right-to-left label"
  | .lastDirection => "Label ends with illegal codepoint directionality"

end DomainFault

namespace Label

def nonjoiner : Nat := 0x200C

def joiner : Nat := 0x200D

def isJoiner (code : Nat) : Bool := code == nonjoiner || code == joiner

/-- Ideographs that have no names. -/
def isTangut (code : Nat) : Bool :=
  inRanges [(0x17000, 0x187F7), (0x18D00, 0x18D08)] code

/-- Letters of a label of which nothing is known that a joiner could depend on. -/
def isUnnamed (code : Nat) : Bool :=
  isTangut code || Direction.ofCode code == .unknown

/-- A joiner follows a virama; a nonjoiner may also stand between letters that connect. -/
def admitsJoiner (before : List Nat) (code : Nat) (after : List Nat) : Bool :=
  let connects :=
    (before.dropWhile isTransparent).head?.any joinsNext &&
      (after.dropWhile isTransparent).head?.any joinsPrevious
  before.head?.any (fun mark => combiningClass mark == viramaClass) ||
    (code == nonjoiner && connects)

def middleDot : Nat := 0xB7

def smallL : Nat := 0x6C

def greekNumeralSign : Nat := 0x375

def isHebrewPunctuation (code : Nat) : Bool := code == 0x5F3 || code == 0x5F4

def katakanaMiddleDot : Nat := 0x30FB

def isArabicDigit (code : Nat) : Bool := decide (0x660 ≤ code ∧ code ≤ 0x669)

def isExtendedArabicDigit (code : Nat) : Bool := decide (0x6F0 ≤ code ∧ code ≤ 0x6F9)

/-- What the rest of its label has to be for a character that only some labels admit. -/
def contextRule? (code : Nat) : Option (List Nat → List Nat → Bool) :=
  if code = middleDot then
    some fun before after => before.head? == some smallL && after.head? == some smallL
  else if code = greekNumeralSign then some fun _ after => after.head?.any isGreek
  else if isHebrewPunctuation code then some fun before _ => before.head?.any isHebrew
  else if code = katakanaMiddleDot then
    some fun before after => before.any isJapanese || after.any isJapanese
  else if isArabicDigit code then
    some fun before after => !(before ++ after).any isExtendedArabicDigit
  else if isExtendedArabicDigit code then
    some fun before after => !(before ++ after).any isArabicDigit
  else none

/-- Checks a character between the reversed text before it and the text after it. -/
def checkCode (label before : List Nat) (code : Nat) (after : List Nat) :
    Except DomainFault Unit :=
  let place := before.length + 1
  if isDomainLetter code then .ok ()
  else if isJoiner code then
    if before.head?.any isUnnamed then .error (.joinerNeighbour code place label)
    else if admitsJoiner before code after then .ok ()
    else .error (.joiner code place label)
  else
    match contextRule? code with
    | none => .error (.letter code place label)
    | some admits =>
      if admits before after then .ok () else .error (.misplaced code place label)

def checkCodes (label before : List Nat) : List Nat → Except DomainFault Unit
  | [] => .ok ()
  | code :: after => do
    checkCode label before code after
    checkCodes label (code :: before) after

/-- Checks the directions from `place` on, after numbers of the kind `number`. -/
def checkOrder (isRightToLeft : Bool) (place : Nat) (number : Option Direction) :
    List Direction → Except DomainFault Unit
  | [] => .ok ()
  | d :: rest =>
    let isForeign := if isRightToLeft then d == .leftToRight else d.turns
    if isForeign then .error (.direction place isRightToLeft)
    else if isRightToLeft && d.isNumber then
      if number.any (· != d) then .error .mixedNumbers
      else checkOrder isRightToLeft (place + 1) (some d) rest
    else checkOrder isRightToLeft (place + 1) number rest

/-- Whether a label may end with a character of this direction, marks apart. -/
def mayEnd (isRightToLeft : Bool) (d : Direction) : Bool :=
  if isRightToLeft then d == .rightToLeft || d.isNumber
  else d == .leftToRight || d == .europeanNumber

/--
All directions have to be known. A label with characters that turn the direction begins and ends
with letters of one.
-/
def checkDirections (label : List Nat) : Except DomainFault Unit := do
  let directions := label.map Direction.ofCode
  if let some index := directions.findIdx? (· == .unknown) then
    throw (.unknownDirection (index + 1) label)
  if directions.any Direction.turns then
    let first := directions.headD .neutral
    if first ≠ .rightToLeft ∧ first ≠ .leftToRight then throw (.firstDirection label)
    let isRightToLeft := first == .rightToLeft
    checkOrder isRightToLeft 1 none directions
    let last := (directions.reverse.dropWhile (· == .nonspacing)).head?
    unless last.any (mayEnd isRightToLeft) do throw .lastDirection

def hyphen : Nat := 0x2D

/-- Checks that a text is a label as it shows to people. -/
def check (label : List Nat) : Except DomainFault Unit := do
  if label.isEmpty then throw .emptyLabel
  unless isComposed label do throw .notComposed
  if (label.drop 2).take 2 = [hyphen, hyphen] then throw .innerHyphens
  if label.head? = some hyphen ∨ label.getLast? = some hyphen then throw .outerHyphen
  if label.head?.any isMark then throw .leadingMark
  checkCodes label [] label
  checkDirections label

/-- What the labels that hold punycode begin with. -/
def encodingSign : List Char := ['x', 'n', '-', '-']

/-- The longest label on the wire. -/
def longest : Nat := 63

/-- The label that a label of basic characters stands for. -/
def decode (label : List Char) : Except DomainFault (List Char) := do
  let label := label.map Char.toLower
  if encodingSign.isPrefixOf label then
    let code := label.drop encodingSign.length
    if code.isEmpty then throw .emptyPunycode
    if code.getLast? = some '-' then throw .openPunycode
    match Punycode.decode code with
    | none => throw .malformedPunycode
    | some label =>
      check label
      if Punycode.encode label ≠ code then throw .looseEncoding
      return label.map Char.ofNat
  else
    check (label.map Char.toNat)
    return label

/-- The label in basic characters. -/
def encode (label : List Char) : Except DomainFault (List Char) := do
  let codes := label.map Char.toNat
  if codes.all Punycode.isBasic then
    discard (decode label)
    if longest < label.length then throw .longLabel
    return label
  else
    check codes
    let encoded := encodingSign ++ Punycode.encode codes
    if longest < encoded.length then throw .longLabel
    return encoded

end Label

end TemplateScript
