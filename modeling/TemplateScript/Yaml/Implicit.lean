import TemplateScript.Yaml.Timestamp

/-!
# Tags of plain texts

A plain text without a tag is taken for what it looks like: nothing, a truth value, a number, a date
or time, one of a few signs, and otherwise a text.
-/

namespace TemplateScript.Yaml

namespace Tag

/-- The beginning of the tags that everyone knows. -/
def common : String := "tag:yaml.org,2002:"

def null : String := common ++ "null"
def bool : String := common ++ "bool"
def int : String := common ++ "int"
def float : String := common ++ "float"
def str : String := common ++ "str"
def seq : String := common ++ "seq"
def map : String := common ++ "map"
def timestamp : String := common ++ "timestamp"
def merge : String := common ++ "merge"
def value : String := common ++ "value"
def sign : String := common ++ "yaml"
def binary : String := common ++ "binary"
def set : String := common ++ "set"
def orderedMap : String := common ++ "omap"
def pairs : String := common ++ "pairs"

end Tag

namespace Implicit

/-- A word in lower case, capitalised, or in upper case. -/
def spellings (word : String) : List (List Char) :=
  [word.toList, (word.toList.take 1).map Char.toUpper ++ word.toList.drop 1,
    word.toList.map Char.toUpper]

def isBool (text : List Char) : Bool :=
  (["yes", "no", "true", "false", "on", "off"].flatMap spellings).contains text

def isNull (text : List Char) : Bool :=
  text.isEmpty || text == ['~'] || (spellings "null").contains text

def dropSign : List Char → List Char
  | '+' :: rest | '-' :: rest => rest
  | text => text

def isDigitOr (p : Char → Bool) (c : Char) : Bool := c == '_' || p c

def isOctal (c : Char) : Bool := '0' ≤ c && c ≤ '7'

/-- At least one character, all of which satisfy `p`. -/
def isRun (p : Char → Bool) (text : List Char) : Bool := !text.isEmpty && text.all p

/-- A digit, and then digits and underscores. -/
def isGroupedDigits : List Char → Bool
  | [] => false
  | c :: rest => c.isDigit && rest.all (isDigitOr Char.isDigit)

/-- One or two digits of a number below sixty. -/
def isSexagesimal : List Char → Bool
  | [c] => c.isDigit
  | [a, b] => '0' ≤ a && a ≤ '5' && b.isDigit
  | _ => false

/-- The parts of a text between colons. -/
def colonParts (text : List Char) : List (List Char) := text.splitOn ':'

def isInt (text : List Char) : Bool :=
  match dropSign text with
  | ['0'] => true
  | '0' :: 'b' :: rest => isRun (isDigitOr fun c => c == '0' || c == '1') rest
  | '0' :: 'x' :: rest => isRun (isDigitOr isHexDigit) rest
  | '0' :: rest => isRun (isDigitOr isOctal) rest
  | digits =>
    match colonParts digits with
    | first :: others => isGroupedDigits first && others.all isSexagesimal
    | [] => false

/-- Nothing, or an exponent with its sign. -/
def isExponent : List Char → Bool
  | [] => true
  | e :: sign :: digits =>
    (e == 'e' || e == 'E') && (sign == '+' || sign == '-') && isRun Char.isDigit digits
  | [_] => false

def isFraction (text : List Char) : Bool :=
  isExponent (text.dropWhile (isDigitOr Char.isDigit))

def isFloat (text : List Char) : Bool :=
  let unsigned := dropSign text
  let (whole, behind) := unsigned.span (· != '.')
  match behind with
  | [] => false
  | _ :: fraction =>
    match whole with
    | [] =>
      (spellings "inf").contains fraction ||
        (unsigned == text && (isGroupedStart fraction ||
          ["nan".toList, "NaN".toList, "NAN".toList].contains fraction))
    | whole =>
      match colonParts whole with
      | [digits] => isGroupedDigits digits && isFraction fraction
      | first :: others =>
        isGroupedDigits first && others.all isSexagesimal &&
          fraction.all (isDigitOr Char.isDigit)
      | [] => false
where
  isGroupedStart (fraction : List Char) : Bool :=
    (fraction.head?.any Char.isDigit) && isFraction fraction

/-- The tag of a plain text. -/
def tag (text : List Char) : String :=
  if isBool text then Tag.bool
  else if isFloat text then Tag.float
  else if isInt text then Tag.int
  else if text == ['<', '<'] then Tag.merge
  else if isNull text then Tag.null
  else if TimestampText.isImplicit text then Tag.timestamp
  else if text == ['='] then Tag.value
  else if [['!'], ['&'], ['*']].contains text then Tag.sign
  else Tag.str

end Implicit

end TemplateScript.Yaml
