import TemplateScript.Number.Literal
import TemplateScript.Value.Table
import TemplateScript.Value.Text

/-!
# Records

A record is a mapping of the host that describes a part of a parsed source: its tag, its text, where
it stands and what it consists of. Expressions and documents are assembled from records, and a
record that does not have the form its tag asks for is a fault.
-/

namespace TemplateScript

inductive RecordFault where
  | missingField (name : String)
  | missingChild
  | tooFewChildren (expected given : Nat)
  | tooManyChildren (expected : Nat)
  /-- A value of this type stands where a text or a record is needed. -/
  | noRecord (typeName : String)
  | notAddable (left right : String)
  | unexpectedNode (tag : String)
  | unexpectedField (tag : String)
  | unexpectedSuffix (tag : String)
  | literal (why : LiteralFault)
deriving DecidableEq, Repr

namespace RecordFault

def message : RecordFault → String
  | .missingField name => quoted name
  | .missingChild => "list index out of range"
  | .tooFewChildren expected given =>
    s!"not enough values to unpack (expected {expected}, got {given})"
  | .tooManyChildren expected => s!"too many values to unpack (expected {expected})"
  | .noRecord typeName => s!"'{typeName}' object is not subscriptable"
  | .notAddable "str" right => s!"can only concatenate str (not \"{right}\") to str"
  | .notAddable left right => s!"unsupported operand type(s) for +: '{left}' and '{right}'"
  | .unexpectedNode tag => "Unexpected expression node: " ++ tag
  | .unexpectedField tag => "Unexpected table field: " ++ tag
  | .unexpectedSuffix tag => "Unexpected postfix suffix: " ++ tag
  | .literal why => why.message

end RecordFault

namespace Record

def field? (name : String) : Value → Option Value
  | .dict entries => Slots.find? entries (.str name)
  | _ => none

def field (name : String) : Value → Except RecordFault Value
  | .dict entries =>
    match Slots.find? entries (.str name) with
    | some v => .ok v
    | none => .error (.missingField name)
  | other => .error (.noRecord other.hostTypeName)

def text (record : Value) : Except RecordFault String := do
  match ← field "text" record with
  | .str s => return s
  | other => throw (.noRecord other.hostTypeName)

def tag? (record : Value) : Option String :=
  match field? "tag" record with
  | some (.str s) => some s
  | _ => none

/-- The tag as messages show it. -/
def shownTag (record : Value) : String :=
  String.ofList (((field? "tag" record).getD .nil).text .description)

def children? (record : Value) : Option (List Value) :=
  match field? "children" record with
  | some (.list items) | some (.tuple items) => some items
  | _ => none

def children (record : Value) : List Value :=
  (children? record).getD []

/-- The child at an index from zero. -/
def child (index : Nat) (record : Value) : Except RecordFault Value :=
  match (children record)[index]? with
  | some v => .ok v
  | none => .error .missingChild

/-- The children of a record that has two. -/
def pair (record : Value) : Except RecordFault (Value × Value) :=
  match children record with
  | [first, second] => .ok (first, second)
  | items =>
    if items.length < 2 then .error (.tooFewChildren 2 items.length)
    else .error (.tooManyChildren 2)

/-- Where a record stands, if it says both line and column. -/
def position? (record : Value) : Option Position :=
  match field? "line" record, field? "col" record with
  | some (.number (.int line)), some (.number (.int column)) =>
    some ⟨line.toNat, column.toNat⟩
  | _, _ => none

def text? (record : Value) : Option String :=
  match field? "text" record with
  | some (.str s) => some s
  | _ => none

def location? (record : Value) : Option Location :=
  (position? record).map fun position => ⟨position, tag? record, text? record⟩

mutual

/-- How deep records and lists are nested in a value. -/
def depth : Value → Nat
  | .list items => depthOfAll items + 1
  | .dict entries => depthOfEntries entries + 1
  | _ => 1

def depthOfAll : List Value → Nat
  | [] => 0
  | item :: rest => max (depth item) (depthOfAll rest)

def depthOfEntries : List (Value × Value) → Nat
  | [] => 0
  | (_, v) :: rest => max (depth v) (depthOfEntries rest)

end

end Record

end TemplateScript
