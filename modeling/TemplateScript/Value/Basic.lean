import TemplateScript.Number.Basic
import TemplateScript.Text.Position
import TemplateScript.Value.Calendar
import TemplateScript.Value.Function

/-!
# Values and expressions

The values that scripts and their host exchange, and the expressions that scripts consist of. Each
type holds the other: a literal holds a value, and a parsed expression is a value. A table has an
identity beside its slots, so two tables with equal slots stay different values.
-/

namespace TemplateScript

/-- Where a part of a text stands, what kind of part it is, and its text. -/
structure Location where
  position : Position
  tag : Option String
  text : Option String
deriving DecidableEq, Repr

inductive ArithmeticOp where
  | add | sub | mul | div | floorDiv | mod | pow
deriving DecidableEq, Repr

inductive ComparisonOp where
  | lt | le | gt | ge
deriving DecidableEq, Repr

/-- An operator between two operands that are both evaluated; a spelling that is none of the
language's has no meaning. -/
inductive BinaryOp where
  | arithmetic (op : ArithmeticOp)
  | concat
  | equal
  | notEqual
  | comparison (op : ComparisonOp)
  | unknown (spelling : String)
deriving DecidableEq, Repr

/-- An operator that may leave its right operand unevaluated. -/
inductive LogicalOp where
  | and
  | or
  | unknown (spelling : String)
deriving DecidableEq, Repr

inductive UnaryOp where
  | not
  | neg
  | length
  | unknown (spelling : String)
deriving DecidableEq, Repr

mutual

inductive Value where
  | nil
  | bool (b : Bool)
  | number (n : Number)
  | str (s : String)
  | list (items : List Value)
  | tuple (items : List Value)
  /-- Several results of one call. -/
  | multi (items : List Value)
  /-- A mapping of the host. -/
  | dict (entries : List (Value × Value))
  | table (id : Nat) (slots : List (Value × Value))
  | expression (e : Expr)
  | function (f : Function)
  | bytes (data : List UInt8)
  | date (d : Date)
  | dateTime (t : DateTime)
  | set (members : List Value)

inductive Expr where
  | literal (value : Value) (loc : Option Location)
  | variable (name : String) (loc : Option Location)
  | index (obj key : Expr) (loc : Option Location)
  | call (fn : Expr) (args : List Expr) (loc : Option Location)
  /-- Calls a field of an object with the object as first argument. -/
  | methodCall (obj : Expr) (name : String) (args : List Expr) (loc : Option Location)
  | binary (op : BinaryOp) (left right : Expr) (loc : Option Location)
  | logical (op : LogicalOp) (left right : Expr) (loc : Option Location)
  | unary (op : UnaryOp) (operand : Expr) (loc : Option Location)
  /-- Parentheses cut several results down to the first. -/
  | paren (inner : Expr) (loc : Option Location)
  /-- A field without key takes the next position. -/
  | tableConstructor (fields : List (Option Expr × Expr)) (loc : Option Location)
  /-- An expression of no kind, which has no value. -/
  | bare (loc : Option Location)

end

instance : Inhabited Value := ⟨.nil⟩
instance : Inhabited Expr := ⟨.bare none⟩

namespace ArithmeticOp

def spelling : ArithmeticOp → String
  | .add => "+"
  | .sub => "-"
  | .mul => "*"
  | .div => "/"
  | .floorDiv => "//"
  | .mod => "%"
  | .pow => "^"

end ArithmeticOp

namespace ComparisonOp

def spelling : ComparisonOp → String
  | .lt => "<"
  | .le => "<="
  | .gt => ">"
  | .ge => ">="

end ComparisonOp

namespace BinaryOp

def spelling : BinaryOp → String
  | .arithmetic op => op.spelling
  | .concat => ".."
  | .equal => "=="
  | .notEqual => "~="
  | .comparison op => op.spelling
  | .unknown spelling => spelling

def known : List BinaryOp :=
  [.arithmetic .add, .arithmetic .sub, .arithmetic .mul, .arithmetic .div, .arithmetic .floorDiv,
    .arithmetic .mod, .arithmetic .pow, .concat, .equal, .notEqual, .comparison .lt,
    .comparison .le, .comparison .gt, .comparison .ge]

def ofSpelling (spelling : String) : BinaryOp :=
  (known.find? fun op => op.spelling == spelling).getD (.unknown spelling)

end BinaryOp

namespace LogicalOp

def spelling : LogicalOp → String
  | .and => "and"
  | .or => "or"
  | .unknown spelling => spelling

def ofSpelling (spelling : String) : LogicalOp :=
  if spelling == "and" then .and else if spelling == "or" then .or else .unknown spelling

end LogicalOp

namespace UnaryOp

def spelling : UnaryOp → String
  | .not => "not"
  | .neg => "-"
  | .length => "#"
  | .unknown spelling => spelling

def ofSpelling (spelling : String) : UnaryOp :=
  if spelling == "not" then .not
  else if spelling == "-" then .neg
  else if spelling == "#" then .length
  else .unknown spelling

end UnaryOp

namespace Expr

def loc : Expr → Option Location
  | .literal _ loc | .variable _ loc | .index _ _ loc | .call _ _ loc | .methodCall _ _ _ loc
  | .binary _ _ _ loc | .logical _ _ _ loc | .unary _ _ loc | .paren _ loc
  | .tableConstructor _ loc | .bare loc => loc

/-- The name of the kind of an expression, as descriptions show it. -/
def kindName : Expr → String
  | .literal _ _ => "Literal"
  | .variable _ _ => "Variable"
  | .index _ _ _ => "Index"
  | .call _ _ _ => "Call"
  | .methodCall _ _ _ _ => "MethodCall"
  | .binary _ _ _ _ => "BinOp"
  | .logical _ _ _ _ => "LogicalOp"
  | .unary _ _ _ => "UnaryOp"
  | .paren _ _ => "Paren"
  | .tableConstructor _ _ => "TableConstructor"
  | .bare _ => "Node"

end Expr

namespace Value

def ofInt (n : Int) : Value := .number (.int n)

def ofFloat (x : Binary64) : Value := .number (.float x)

/-- Everything but nil and false counts as true. -/
def isTruthy : Value → Bool
  | .nil | .bool false => false
  | _ => true

/-- The first of several results, nil for none. -/
def single : Value → Value
  | .multi items => items.headD .nil
  | value => value

/-- The name of a value's type in the language. -/
def typeName : Value → String
  | .nil => "nil"
  | .bool _ => "boolean"
  | .number _ => "number"
  | .str _ => "string"
  | .list _ | .tuple _ | .multi _ | .dict _ | .table _ _ => "table"
  | .function _ => "function"
  | .expression _ | .bytes _ | .date _ | .dateTime _ | .set _ => "userdata"

/-- The name of a value's type in messages of the host. -/
def hostTypeName : Value → String
  | .nil => "NoneType"
  | .bool _ => "bool"
  | .number (.int _) => "int"
  | .number (.float _) => "float"
  | .str _ => "str"
  | .list _ => "list"
  | .tuple _ => "tuple"
  | .multi _ => "MultiResult"
  | .dict _ => "dict"
  | .table _ _ => "Table"
  | .expression e => e.kindName
  | .function (.member (.framed _) _) => "Builtin"
  | .function (.member (.plain _) _) => "method"
  | .function (.host _ _) => "function"
  | .bytes _ => "bytes"
  | .date _ => "date"
  | .dateTime _ => "datetime"
  | .set _ => "set"

end Value

end TemplateScript
