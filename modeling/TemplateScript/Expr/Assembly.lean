import TemplateScript.Expr.Grammar
import TemplateScript.Value.Record

/-!
# Assembling expressions

An expression is assembled from a record of its parts: operators hold their operands, and the
suffixes of a postfix expression are applied from the first to the last. Lists are assembled item
by item, and whatever is neither a record nor a list stands for itself. `part` assembles the parts
of a record throughout.
-/

namespace TemplateScript

namespace Assembly

open Record

/-- The value of a numeral, which may be malformed in a record. -/
def numeral (text : List Char) : Except LiteralFault Number :=
  match text with
  | '0' :: 'x' :: _ | '0' :: 'X' :: _ => do return .int (← integerOf 16 text)
  | text =>
    if text.any fun c => c == '.' || c == 'e' || c == 'E' then do return .float (← floatOf text)
    else do return .int (← integerOf 10 text)

/-- A part of an expression has to be one itself. -/
def asExpr : Value → Except RecordFault Expr
  | .expression e => .ok e
  | other => .error (.noRecord other.hostTypeName)

section

variable (part : Value → Except RecordFault Value)

def operand (record : Value) : Except RecordFault Expr := do
  asExpr (← part record)

def binary (record : Value) : Except RecordFault Expr := do
  let operator ← field "op" record
  let spelling ← text operator
  let left ← operand part (← field "left" record)
  let right ← operand part (← field "right" record)
  let loc := location? operator
  match LogicalOp.ofSpelling spelling with
  | .unknown _ => return .binary (.ofSpelling spelling) left right loc
  | op => return .logical op left right loc

def unary (record : Value) : Except RecordFault Expr := do
  let (operator, inner) ← pair record
  let spelling ← text operator
  return .unary (.ofSpelling spelling) (← operand part inner) (location? record)

def tableField (record : Value) : Except RecordFault (Option Expr × Expr) := do
  match tag? record with
  | some "keyed_field" =>
    let key ← operand part (← child 0 record)
    return (some key, ← operand part (← child 1 record))
  | some "named_field" =>
    let name ← child 0 record
    let key := Expr.literal (.str (← text name)) (location? name)
    return (some key, ← operand part (← child 1 record))
  | some "positional_field" => return (none, ← operand part (← child 0 record))
  | _ => throw (.unexpectedField (shownTag record))

/-- Applies a suffix to what stands before it. -/
def suffix (obj : Expr) (record : Value) : Except RecordFault Expr := do
  let loc := location? record
  match tag? record with
  | some "field_suffix" =>
    let name ← child 0 record
    return .index obj (.literal (.str (← text name)) (location? name)) loc
  | some "index_suffix" => return .index obj (← operand part (← child 0 record)) loc
  | some "call_suffix" => return .call obj (← (children record).mapM (operand part)) loc
  | some "method_suffix" =>
    let (name, call) ← pair record
    let args ← (children call).mapM (operand part)
    return .methodCall obj (← text name) args loc
  | _ => throw (.unexpectedSuffix (shownTag record))

/-- Assembles a record by its tag. -/
def ofRecord (record : Value) : Except RecordFault Value := do
  let loc := location? record
  match tag? record with
  | some "expression_root" => part (← child 0 record)
  | some "binary_op" => return .expression (← binary part record)
  | some "unary_op_expr" => return .expression (← unary part record)
  | some "postfix" =>
    let base ← part (← child 0 record)
    match (children record).tail with
    | [] => return base
    | suffixes => return .expression (← suffixes.foldlM (suffix part) (← asExpr base))
  | some "group" => return .expression (.paren (← operand part (← child 0 record)) loc)
  | some "table" =>
    return .expression (.tableConstructor (← (children record).mapM (tableField part)) loc)
  | some "nil" => return .expression (.literal .nil loc)
  | some "boolean" => return .expression (.literal (.bool ((← text record) == "true")) loc)
  | some "number" =>
    let n ← (numeral (← text record).toList).mapError .literal
    return .expression (.literal (.number n) loc)
  | some "string" =>
    let body := String.ofList (stringBody (← text record).toList)
    return .expression (.literal (.str (unescape body)) loc)
  | some "name" => return .expression (.variable (← text record) loc)
  | _ => throw (.unexpectedNode (shownTag record))

end

/-- Assembles a value nested at most `limit` deep. -/
def upTo : Nat → Value → Except RecordFault Value
  | 0, v => .ok v
  | limit + 1, v =>
    match v with
    | .list items => do return .list (← items.mapM (upTo limit))
    | .dict entries => ofRecord (upTo limit) (.dict entries)
    | v => .ok v

end Assembly

/-- Assembles the expression of a record, or of each record in a list. -/
def assembleExpr (v : Value) : Except RecordFault Value :=
  Assembly.upTo (Record.depth v) v

end TemplateScript
