import TemplateScript.Text.Digit

/-!
# Tokens of expressions

Each token is given by the number of characters it takes from the front of a text, zero where it
does not stand there. A word is a keyword or a name as a whole, so no keyword is cut off the front
of a longer name.
-/

namespace TemplateScript

namespace Token

def isWordStart (c : Char) : Bool :=
  c.isAlpha || c == '_'

def isWordPart (c : Char) : Bool :=
  c.isAlphanum || c == '_'

/-- The word at the front of a text. -/
def word : List Char → List Char
  | [] => []
  | c :: rest => if isWordStart c then c :: rest.takeWhile isWordPart else []

def keywords : List (List Char) :=
  ["and".toList, "or".toList, "not".toList, "nil".toList, "true".toList, "false".toList]

def name (text : List Char) : Nat :=
  if keywords.contains (word text) then 0 else (word text).length

def keyword (spelling : String) (text : List Char) : Nat :=
  if word text = spelling.toList then spelling.length else 0

/-- The first of several spellings that the text begins with. -/
def oneOf (spellings : List String) (text : List Char) : Nat :=
  match spellings.find? fun spelling => spelling.toList.isPrefixOf text with
  | some spelling => spelling.length
  | none => 0

def symbol (c : Char) : List Char → Nat
  | d :: _ => if c = d then 1 else 0
  | [] => 0

/-- A character that is not followed by itself. -/
def single (c : Char) : List Char → Nat
  | d :: e :: _ => if c = d ∧ c ≠ e then 1 else 0
  | [d] => if c = d then 1 else 0
  | [] => 0

def boolean (text : List Char) : Nat :=
  max (keyword "true" text) (keyword "false" text)

def unaryOp (text : List Char) : Nat :=
  max (keyword "not" text) (oneOf ["-", "#"] text)

/-- Zero, an `x` and at least one hexadecimal digit. -/
def hexNumber : List Char → Nat
  | '0' :: x :: rest =>
    let digits := rest.takeWhile isHexDigit
    if (x = 'x' ∨ x = 'X') ∧ digits ≠ [] then digits.length + 2 else 0
  | _ => 0

def digits (text : List Char) : Nat :=
  (text.takeWhile isDecimalDigit).length

/-- A point with digits after it. -/
def fraction : List Char → Nat
  | '.' :: rest => if digits rest = 0 then 0 else digits rest + 1
  | _ => 0

/-- An exponent mark, a sign or none, and digits. -/
def exponent : List Char → Nat
  | e :: rest =>
    if e = 'e' ∨ e = 'E' then
      match rest with
      | sign :: more =>
        if sign = '+' ∨ sign = '-' then if digits more = 0 then 0 else digits more + 2
        else if digits rest = 0 then 0 else digits rest + 1
      | [] => 0
    else 0
  | [] => 0

def decimalNumber (text : List Char) : Nat :=
  let whole := digits text
  let part := fraction (text.drop whole)
  let mantissa := whole + part
  if mantissa = 0 then 0 else mantissa + exponent (text.drop mantissa)

def number (text : List Char) : Nat :=
  if hexNumber text = 0 then decimalNumber text else hexNumber text

/-- The characters after an opening quote up to and with the closing one. A backslash takes the
next character with it, and no line ends inside. -/
def quotedTail (quote : Char) : List Char → Option Nat
  | [] => none
  | [c] => if c = quote then some 1 else none
  | c :: d :: rest =>
    if c = quote then some 1
    else if c = '\n' then none
    else if c = '\\' then
      if d = '\n' then none else (quotedTail quote rest).map (· + 2)
    else (quotedTail quote (d :: rest)).map (· + 1)

def string : List Char → Nat
  | c :: rest => if c = '"' ∨ c = '\'' then ((quotedTail c rest).map (· + 1)).getD 0 else 0
  | [] => 0

end Token

end TemplateScript
