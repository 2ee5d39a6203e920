import TemplateScript.Evaluation.Operators
import TemplateScript.Expr.Parse
import TemplateScript.Library.Plain
import TemplateScript.Url.Origin

/-!
# Evaluation of expressions

The value of an expression in a frame and a scope. A call may give several results; everywhere but
as the last argument of a call or the last positional field of a table they count as the first.
The library functions that evaluate further texts are a parameter.
-/

namespace TemplateScript

variable {σ : Type}

/-- Evaluations that scripts start: of a parsed expression, and of a template. -/
structure Nested (σ : Type) where
  evalExpression : Frame → (parsed augmentation : Value) → Eval σ Value
  interpolate : Frame → (template augmentation : Value) → Eval σ Value

/-- Parses a value, which has to be a text. -/
def parseValue (v : Value) : Except Fault Expr :=
  match v with
  | .str source => parseExpr source
  | v => .error (.parse (.notText "expression" v.hostTypeName) none)

namespace FramedMember

/-- The result of a framed member on arguments of the right number. -/
def run (nested : Nested σ) (frame : Frame) (m : FramedMember) (args : List Value) :
    Eval σ Value := do
  let arg (index : Nat) : Value := args.getD index .nil
  match m with
  | .parseExpression =>
    discard (Eval.globals frame)
    return .expression (← Eval.liftFault (parseValue (arg 0)))
  | .evalExpression =>
    discard (Eval.globals frame)
    nested.evalExpression frame (arg 0) (arg 1)
  | .interpolate => nested.interpolate frame (arg 0) (arg 1)
  | .baseUrl =>
    discard (Eval.globals frame)
    match frame.location with
    | none => return .nil
    | some location =>
      let origin ← Eval.liftHost ((originOf location).mapError .malformedDomain)
      return origin.elim .nil Value.str

end FramedMember

/-- The results of a function. -/
def Function.run (hosts : HostFunctions σ) (nested : Nested σ) (frame : Frame) (f : Function)
    (args : List Value) : Eval σ Value :=
  match f with
  | .host key _ => hosts key args
  | .member m _ => do
    Eval.liftHost (m.checkCount args)
    match m with
    | .plain m => Eval.liftFault (m.run args)
    | .framed m => m.run nested frame args

section

variable (hosts : HostFunctions σ) (nested : Nested σ) (frame : Frame)

/-- Calls a value at `loc`. A fault of the host is attributed to the call. -/
def callValue (fn : Value) (args : List Value) (loc : Option Location) (subject : Subject) :
    Eval σ Value :=
  match fn with
  | .function f =>
    tryCatch (f.run hosts nested frame args) fun
      | .host why => throw (frame.fault (.callFailed f.name why) loc)
      | fault => throw fault
  | fn => throw (frame.fault (.call fn.typeName subject) loc)

/-- Assigns consecutive positions of a table. -/
def assignPositions (slots : Slots) : Nat → List Value → Except TableFault Slots
  | _, [] => .ok slots
  | position, item :: rest => do
    assignPositions (← slots.assign (.ofInt position) item) (position + 1) rest

/-- Assigns a keyed field, whose key is neither nil nor a NaN. -/
def assignField (slots : Slots) (key value : Value) (loc : Option Location) : Eval σ Slots :=
  match key with
  | .nil => throw (frame.fault .nilKey loc)
  | .number n =>
    if n.isNan then throw (frame.fault .nanKey loc)
    else Eval.liftTable (slots.assign (.number n) value)
  | key => Eval.liftTable (slots.assign key value)

variable (scope : ScopeChain)

mutual

/-- The value of an expression, which may be several results of a call. -/
def evalExpr : Expr → Eval σ Value
  | .literal value _ => do
    Eval.checkCancelled frame
    return value
  | .variable name _ => do
    Eval.checkCancelled frame
    return (scope.get? name).getD .nil
  | .paren inner _ => do
    Eval.checkCancelled frame
    return (← evalExpr inner).single
  | .index obj key loc => do
    Eval.checkCancelled frame
    let object ← evalExpr obj
    let keyValue ← evalExpr key
    Eval.liftFault (Operators.index frame (frame.globals.getD []) object.single keyValue.single loc
      obj.subject)
  | .call fn args loc => do
    Eval.checkCancelled frame
    let function ← evalExpr fn
    let values ← evalArgs args
    callValue hosts nested frame function.single values loc fn.subject
  | .methodCall obj name args loc => do
    Eval.checkCancelled frame
    let object := (← evalExpr obj).single
    let function ← Eval.liftFault (Operators.index frame (frame.globals.getD []) object (.str name)
      loc obj.subject)
    let values ← evalArgs args
    callValue hosts nested frame function (object :: values) loc (.method name)
  | .logical op left right _ => do
    Eval.checkCancelled frame
    let first := (← evalExpr left).single
    match op with
    | .and => if first.isTruthy then return (← evalExpr right).single else return first
    | _ => if first.isTruthy then return first else return (← evalExpr right).single
  | .binary op left right loc => do
    Eval.checkCancelled frame
    let a ← evalExpr left
    let b ← evalExpr right
    Eval.liftFault (Operators.binary frame op a.single b.single loc)
  | .unary op operand loc => do
    Eval.checkCancelled frame
    let v ← evalExpr operand
    Eval.liftFault (Operators.unary frame op v.single loc operand.subject)
  | .tableConstructor fields _ => do
    Eval.checkCancelled frame
    Eval.newTable (← evalFields fields [] 1)
  | .bare loc => do
    Eval.checkCancelled frame
    throw (frame.fault (.notEvaluable (Expr.bare loc).kindName) loc)

/-- The arguments of a call; several results of the last one are as many arguments. -/
def evalArgs : List Expr → Eval σ (List Value)
  | [] => return []
  | arg :: rest => do
    let value ← evalExpr arg
    if rest.isEmpty then
      match value with
      | .multi items => return items
      | value => return [value]
    else return value.single :: (← evalArgs rest)

/-- Adds the fields of a table to slots; `position` is that of the next positional one. -/
def evalFields : List (Option Expr × Expr) → Slots → Nat → Eval σ Slots
  | [], slots, _ => return slots
  | (none, e) :: rest, slots, position => do
    let value ← evalExpr e
    let items := if rest.isEmpty then
        match value with
        | .multi items => items
        | value => [value]
      else [value.single]
    let slots ← Eval.liftTable (assignPositions slots position items)
    evalFields rest slots (position + 1)
  | (some key, e) :: rest, slots, position => do
    let value ← evalExpr e
    let keyValue ← evalExpr key
    let slots ← assignField frame slots keyValue.single value.single key.loc
    evalFields rest slots position

end

end

/-- The host's form of the value of a parsed expression in a fresh scope. -/
def evalParsed (hosts : HostFunctions σ) (nested : Nested σ) (frame : Frame)
    (parsed augmentation : Value) : Eval σ Value :=
  match parsed with
  | .expression e => do
    let bindings ← Eval.liftFault (createScope frame augmentation)
    let value ← evalExpr hosts nested frame [bindings, frame.globals.getD []] e
    return value.single.toHost
  | other => throw (frame.fault (.notExpression other.typeName) none)

end TemplateScript
