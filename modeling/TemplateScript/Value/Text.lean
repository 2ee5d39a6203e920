import TemplateScript.Number.Layout
import TemplateScript.Text.Case
import TemplateScript.Text.Escape
import TemplateScript.Text.Identifier
import TemplateScript.Text.Quoted
import TemplateScript.Value.Slots

/-!
# Texts of values

Three texts of a value. Alone it shows plainly; inside a table it is nested, with strings in double
quotes; inside the description of an expression it is described, with strings quoted and nil, true
and false named as the host names them. A table shows as a sequence when its slots are those of a
sequence, and otherwise with its keys.
-/

namespace TemplateScript

inductive TextForm where
  | plain | nested | description
deriving DecidableEq, Repr

/-- The parts with a comma and a blank between them. -/
def commaSeparated (parts : List (List Char)) : List Char :=
  [',', ' '].intercalate parts

def inBraces (parts : List (List Char)) : List Char :=
  '\x7b' :: commaSeparated parts ++ ['\x7d']

def parenthesized (parts : List (List Char)) : List Char :=
  '(' :: commaSeparated parts ++ [')']

/-- A tuple of one part keeps a comma behind it. -/
def tupleText (parts : List (List Char)) : List Char :=
  match parts with
  | [part] => '(' :: part ++ [',', ')']
  | parts => parenthesized parts

/-- The words between underscores. -/
def wordsOf : List Char → List (List Char)
  | [] => [[]]
  | '_' :: rest => [] :: wordsOf rest
  | c :: rest =>
    match wordsOf rest with
    | [] => [[c]]
    | word :: words => (c :: word) :: words

/-- The name of a member in the language: the words of its internal name without the underscores
before and between them, all but the first capitalised. -/
def scriptName (internalName : List Char) : List Char :=
  match wordsOf (internalName.dropWhile (· == '_')) with
  | [] => []
  | head :: rest => head ++ rest.flatMap capitalize

def Member.name (m : Member) : String :=
  String.ofList (scriptName m.internalName.toList)

/-- The name under which a function shows. -/
def Function.name : Function → String
  | .member m _ => m.name
  | .host _ shown => shown

/-- The text of a key in front of the value of its slot. -/
def keyText (key : Value) (nestedText : List Char) : List Char :=
  match key with
  | .str s => if isIdentifier s.toList then s.toList else '[' :: nestedText ++ [']']
  | _ => '[' :: nestedText ++ [']']

def slotText (key value : List Char) : List Char :=
  key ++ " = ".toList ++ value

def boolText (form : TextForm) (b : Bool) : List Char :=
  match form, b with
  | .description, true => "True".toList
  | .description, false => "False".toList
  | _, true => "true".toList
  | _, false => "false".toList

def integerText (n : Int) : List Char :=
  if n < 0 then '-' :: decimalDigits n.natAbs else decimalDigits n.natAbs

def Number.text (form : TextForm) : Number → List Char
  | .int n => integerText n
  | .float x => if form = .description then x.shortestText else x.display

def stringText (form : TextForm) (s : String) : List Char :=
  match form with
  | .plain => s.toList
  | .nested => (doubleQuoted s).toList
  | .description => (quoted s).toList

def Date.describe (d : Date) : List Char :=
  "datetime.date".toList ++
    parenthesized [decimalDigits d.year, decimalDigits d.month, decimalDigits d.day]

def offsetDescription (minutes : Int) : List Char :=
  let seconds := minutes * 60
  if minutes = 0 then "datetime.timezone.utc".toList
  else
    let days := seconds.fdiv 86400
    let rest := seconds.fmod 86400
    let parts :=
      (if days = 0 then [] else ["days=".toList ++ integerText days]) ++
      (if rest = 0 then [] else ["seconds=".toList ++ integerText rest])
    "datetime.timezone(datetime.timedelta".toList ++ parenthesized parts ++ [')']

/-- Seconds and microseconds are left out where they and all parts after them are zero. -/
def DateTime.describe (t : DateTime) : List Char :=
  let seconds := if t.second = 0 ∧ t.microsecond = 0 then [] else [t.second]
  let microseconds := if t.microsecond = 0 then [] else [t.microsecond]
  let numbers :=
    [t.date.year, t.date.month, t.date.day, t.hour, t.minute] ++ seconds ++ microseconds
  let zone := match t.offset with
    | none => []
    | some minutes => ["tzinfo=".toList ++ offsetDescription minutes]
  "datetime.datetime".toList ++ parenthesized (numbers.map decimalDigits ++ zone)

def setText (parts : List (List Char)) : List Char :=
  if parts.isEmpty then "set()".toList else inBraces parts

/-- The texts of the key and of the contents of a slot. -/
structure SlotTexts where
  key : List Char
  contents : List Char

def entryText (slot : Value × SlotTexts) : List Char :=
  slotText (keyText slot.1 slot.2.key) slot.2.contents

/-- The text of the slots of a table. -/
def slotsText (slots : List (Value × SlotTexts)) : List Char :=
  if isSequence slots then inBraces ((sequenceOf slots).map SlotTexts.contents)
  else inBraces (slots.map entryText)

mutual

def Value.text (form : TextForm) : Value → List Char
  | .nil => if form = .description then "None".toList else "nil".toList
  | .bool b => boolText form b
  | .number n => n.text form
  | .str s => stringText form s
  | .list items =>
    if form = .description then '[' :: commaSeparated (textList .description items) ++ [']']
    else inBraces (textList .nested items)
  | .tuple items =>
    if form = .description then tupleText (textList .description items)
    else inBraces (textList .nested items)
  | .multi items =>
    if form = .description then "MultiResult".toList ++ tupleText (textList .description items)
    else commaSeparated (textList form items)
  | .dict entries =>
    if form = .description then inBraces (descriptionEntries entries)
    else inBraces ((nestedSlots entries).map entryText)
  | .table _ slots => slotsText (nestedSlots slots)
  | .expression e => e.describe
  | .function f =>
    if form = .description then "<function ".toList ++ f.name.toList ++ ['>']
    else "function: ".toList ++ f.name.toList
  | .bytes data => Quoted.encodeBytes data
  | .date d => if form = .description then d.describe else d.isoText
  | .dateTime t => if form = .description then t.describe else t.text ' '
  | .set members => setText (textList .description members)

def textList (form : TextForm) : List Value → List (List Char)
  | [] => []
  | v :: rest => v.text form :: textList form rest

def nestedSlots : List (Value × Value) → List (Value × SlotTexts)
  | [] => []
  | (k, v) :: rest => (k, ⟨k.text .nested, v.text .nested⟩) :: nestedSlots rest

def descriptionEntries : List (Value × Value) → List (List Char)
  | [] => []
  | (k, v) :: rest =>
    (k.text .description ++ ':' :: ' ' :: v.text .description) :: descriptionEntries rest

/-- The kind of an expression and its parts in parentheses. -/
def Expr.describe : Expr → List Char
  | .literal value _ => "Literal".toList ++ parenthesized [value.text .description]
  | .variable name _ => "Variable".toList ++ parenthesized [(quoted name).toList]
  | .index obj key _ => "Index".toList ++ parenthesized [obj.describe, key.describe]
  | .call fn args _ =>
    "Call".toList ++ parenthesized [fn.describe, '[' :: commaSeparated (describeList args) ++ [']']]
  | .methodCall obj name args _ =>
    "MethodCall".toList ++ parenthesized
      [obj.describe, (quoted name).toList, '[' :: commaSeparated (describeList args) ++ [']']]
  | .binary op left right _ =>
    "BinOp".toList ++ parenthesized [(quoted op.spelling).toList, left.describe, right.describe]
  | .logical op left right _ =>
    "LogicalOp".toList ++ parenthesized [(quoted op.spelling).toList, left.describe, right.describe]
  | .unary op operand _ =>
    "UnaryOp".toList ++ parenthesized [(quoted op.spelling).toList, operand.describe]
  | .paren inner _ => "Paren".toList ++ parenthesized [inner.describe]
  | .tableConstructor fields _ =>
    "TableConstructor".toList ++
      parenthesized ['[' :: commaSeparated (describeFields fields) ++ [']']]
  | .bare _ => "Node()".toList

def describeList : List Expr → List (List Char)
  | [] => []
  | e :: rest => e.describe :: describeList rest

def describeFields : List (Option Expr × Expr) → List (List Char)
  | [] => []
  | (none, value) :: rest => parenthesized ["None".toList, value.describe] :: describeFields rest
  | (some key, value) :: rest =>
    parenthesized [key.describe, value.describe] :: describeFields rest

end

mutual

/-- Whether all integers in a value are short enough to be written. -/
def Value.isWritable : Value → Bool
  | .number (.int n) => (integerText? n).isSome
  | .list items | .tuple items | .multi items | .set items => writableList items
  | .dict entries => writableEntries entries
  | .table _ slots => if isSequence slots then writableContents slots else writableEntries slots
  | .expression e => e.isWritable
  | _ => true

def writableList : List Value → Bool
  | [] => true
  | v :: rest => v.isWritable && writableList rest

/-- The positions of a sequence are not written. -/
def writableContents : List (Value × Value) → Bool
  | [] => true
  | (_, v) :: rest => v.isWritable && writableContents rest

def writableEntries : List (Value × Value) → Bool
  | [] => true
  | (k, v) :: rest => k.isWritable && v.isWritable && writableEntries rest

def Expr.isWritable : Expr → Bool
  | .literal value _ => value.isWritable
  | .variable _ _ | .bare _ => true
  | .index obj key _ => obj.isWritable && key.isWritable
  | .call fn args _ => fn.isWritable && writableExprs args
  | .methodCall obj _ args _ => obj.isWritable && writableExprs args
  | .binary _ left right _ | .logical _ left right _ => left.isWritable && right.isWritable
  | .unary _ operand _ => operand.isWritable
  | .paren inner _ => inner.isWritable
  | .tableConstructor fields _ => writableFields fields

def writableExprs : List Expr → Bool
  | [] => true
  | e :: rest => e.isWritable && writableExprs rest

def writableFields : List (Option Expr × Expr) → Bool
  | [] => true
  | (none, value) :: rest => value.isWritable && writableFields rest
  | (some key, value) :: rest => key.isWritable && value.isWritable && writableFields rest

end

namespace Value

/-- The text that a script sees of a value, which a parsed expression opens with its sort. -/
def displayText : Value → List Char
  | .expression e => "expression: ".toList ++ e.describe
  | v => v.text .plain

/-- A value that holds an integer too long to be written has no text. -/
def textIn? (form : TextForm) (v : Value) : Option String :=
  if v.isWritable then some (String.ofList (v.text form)) else none

def display? (v : Value) : Option String :=
  if v.isWritable then some (String.ofList v.displayText) else none

/-- The text of a value in a message of the host: a text as it is, dates as their ISO text, and all
else as in a description. -/
def hostText? : Value → Option String
  | .str s => some s
  | .date d => some (String.ofList d.isoText)
  | .dateTime t => some (String.ofList (t.text ' '))
  | v => v.textIn? .description

/-- The text that a value is. -/
def string? : Value → Option String
  | .str s => some s
  | _ => none

end Value

end TemplateScript
