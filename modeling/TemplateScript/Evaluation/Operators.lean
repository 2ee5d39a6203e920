import TemplateScript.Evaluation.Frame
import TemplateScript.Library.Arguments
import TemplateScript.Number.Power

/-!
# Operators

What the operators of the language do with evaluated operands, and what indexing a value gives.
-/

namespace TemplateScript

/-- How an expression is named in messages about its value. -/
def Expr.subject : Expr → Subject
  | .variable name _ => .variable name
  | .index _ (.literal (.str key) _) _ => .field key
  | .methodCall _ name _ _ => .method name
  | .literal (.str _) _ => .constantText
  | _ => .anonymous

namespace ArithmeticOp

def apply : ArithmeticOp → Number → Number → Except NumberFault Number
  | .add, a, b => a.add b
  | .sub, a, b => a.sub b
  | .mul, a, b => a.mul b
  | .div, a, b => a.div b
  | .floorDiv, a, b => a.floorDiv b
  | .mod, a, b => a.floorMod b
  | .pow, a, b => .ok (.float (a.power b))

end ArithmeticOp

namespace ComparisonOp

def onNumbers : ComparisonOp → Number → Number → Bool
  | .lt, a, b => a.blt b
  | .le, a, b => a.ble b
  | .gt, a, b => b.blt a
  | .ge, a, b => b.ble a

/-- Texts are compared character by character. -/
def onTexts : ComparisonOp → String → String → Bool
  | .lt, a, b => decide (a < b)
  | .le, a, b => decide (a ≤ b)
  | .gt, a, b => decide (b < a)
  | .ge, a, b => decide (b ≤ a)

end ComparisonOp

namespace Operators

variable (frame : Frame)

/-- The fault of an arithmetic operation that stands at `loc`. -/
def numberFault (loc : Option Location) : NumberFault → Fault
  | .integerDivisionByZero => frame.fault .integerDivisionByZero loc
  | .integerModuloByZero => frame.fault .integerModuloByZero loc
  | why => .host (.ofNumber why)

def operand (loc : Option Location) (v : Value) : Except Fault Number :=
  match v.toNumber? with
  | some n => .ok n
  | none => .error (frame.fault (.arithmetic v.typeName) loc)

def concatOperand (loc : Option Location) (v : Value) : Except Fault Unit :=
  if v.isConcatenable then .ok () else .error (frame.fault (.concat v.typeName) loc)

/-- The result of a binary operator that stands at `loc`. -/
def binary (op : BinaryOp) (left right : Value) (loc : Option Location) : Except Fault Value :=
  match op with
  | .arithmetic op => do
    let a ← operand frame loc left
    let b ← operand frame loc right
    return .number (← (op.apply a b).mapError (numberFault frame loc))
  | .concat => do
    concatOperand frame loc left
    concatOperand frame loc right
    let a ← left.display.mapError .host
    let b ← right.display.mapError .host
    return .str (a ++ b)
  | .equal => .ok (.bool (left.scriptEq right))
  | .notEqual => .ok (.bool !(left.scriptEq right))
  | .comparison op =>
    match left, right with
    | .number a, .number b => .ok (.bool (op.onNumbers a b))
    | .str a, .str b => .ok (.bool (op.onTexts a b))
    | left, right => .error (frame.fault (.compare left.typeName right.typeName) loc)
  | .unknown spelling => .error (frame.fault (.unknownOperator spelling) loc)

/-- The result of a unary operator that stands at `loc`. -/
def unary (op : UnaryOp) (v : Value) (loc : Option Location) (subject : Subject) :
    Except Fault Value :=
  match op with
  | .not => .ok (.bool !v.isTruthy)
  | .neg => do return .number (← operand frame loc v).neg
  | .length =>
    match v with
    | .str s => .ok (.ofInt s.utf8ByteSize)
    | .table _ slots => .ok (.ofInt (border slots))
    | .list items | .tuple items | .multi items => .ok (.ofInt items.length)
    | .dict entries => .ok (.ofInt entries.length)
    | v => .error (frame.fault (.length v.typeName subject) loc)
  | .unknown spelling => .error (frame.fault (.unknownOperator spelling) loc)

/-- The item of a list at a number that equals a position of it. -/
def item (items : List Value) (key : Value) : Except Fault Value :=
  match key with
  | .number n => do
    discard (n.toFloat.mapError fun why => .host (.ofNumber why))
    match n.toInt? with
    | some i => return if 1 ≤ i then (items[(i - 1).toNat]?).getD .nil else .nil
    | none => return .nil
  | _ => .ok .nil

def slot (slots : Slots) (key : Value) : Except Fault Value :=
  match slots.read key with
  | .ok found => .ok (found.getD .nil)
  | .error why => .error (.ofTable why)

/-- The slot of a mapping, which has nothing under a container. -/
def entry (entries : Slots) (key : Value) : Except Fault Value :=
  match key.unhashable? with
  | some (.container _) => .ok .nil
  | some why => .error (.host (.ofUnhashable why))
  | none => .ok ((entries.find? key).getD .nil)

/-- What stands under a key: in a table or a mapping its slot, in a list its position, and for a
text the member of the string library. -/
def index (globals : Bindings) (obj key : Value) (loc : Option Location) (subject : Subject) :
    Except Fault Value :=
  match obj with
  | .table _ slots => slot slots key
  | .str _ =>
    match globals.get? "string" with
    | some (.table _ slots) => slot slots key
    | _ => .ok .nil
  | .dict entries => entry entries key
  | .list items | .tuple items | .multi items => item items key
  | obj => .error (frame.fault (.index obj.typeName subject) loc)

end Operators

end TemplateScript
