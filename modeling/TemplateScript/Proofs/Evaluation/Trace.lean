import TemplateScript.Proofs.Document.Visits
import TemplateScript.Proofs.Evaluation.Visit
import TemplateScript.Runner

/-!
# What happens in an evaluation

A trace lists, in the order of time, the nodes of documents that a filling is shown, the expressions
that the evaluator enters, and the calls of host functions, each with the world in which it happens.
It goes through nested evaluations. The trace of a program that is put together is put together in
the same way: what follows a part is in the trace if the part has a value.
-/

namespace TemplateScript

variable {σ α β : Type}

inductive Event (σ : Type) where
  | node (t : Tree) (w : World σ)
  | expression (e : Expr) (w : World σ)
  | call (key : String) (args : List Value) (w : World σ)

namespace Event

/-- Whether a node of a document or of an expression is entered. -/
def isEntry : Event σ → Bool
  | .node _ _ | .expression _ _ => true
  | .call _ _ _ => false

def before : Event σ → World σ
  | .node _ w | .expression _ w | .call _ _ w => w

/-- The world that the event leaves. -/
def after (hosts : HostFunctions σ) : Event σ → World σ
  | .node _ w | .expression _ w => w
  | .call key args w => ((hosts key args).run w).2

end Event

/-- The events of a program that starts in a world. -/
abbrev Trace (σ : Type) := World σ → List (Event σ)

namespace Trace

def silent : Trace σ := fun _ => []

/-- The trace of a program and, if it has a value, of the one after it. -/
def andThen (x : Eval σ α) (trace : Trace σ) (next : α → Trace σ) : Trace σ := fun w =>
  trace w ++ match x.run w with
    | (.ok a, w') => next a w'
    | (.error _, _) => []

/-- An entry, and what happens inside if the world is not cancelled. -/
def entering (event : World σ → Event σ) (inside : Trace σ) : Trace σ := fun w =>
  event w :: if w.cancellation.isSome then [] else inside w

end Trace

/-- The traces of the evaluations that scripts start. -/
structure NestedTraces (σ : Type) where
  evalExpression : Frame → (parsed augmentation : Value) → Trace σ
  interpolate : Frame → (template augmentation : Value) → Trace σ

open Trace

def FramedMember.trace (traces : NestedTraces σ) (frame : Frame) (m : FramedMember)
    (args : List Value) : Trace σ :=
  match m with
  | .parseExpression | .baseUrl => silent
  | .evalExpression => andThen (discard (Eval.globals frame)) silent fun _ =>
    traces.evalExpression frame (args.getD 0 .nil) (args.getD 1 .nil)
  | .interpolate => traces.interpolate frame (args.getD 0 .nil) (args.getD 1 .nil)

def Function.trace (traces : NestedTraces σ) (frame : Frame) (f : Function) (args : List Value) :
    Trace σ :=
  match f with
  | .host key _ => fun w => [.call key args w]
  | .member m _ => andThen (Eval.liftHost (m.checkCount args)) silent fun _ =>
    match m with
    | .plain _ => silent
    | .framed m => m.trace traces frame args

def callTrace (traces : NestedTraces σ) (frame : Frame) (fn : Value) (args : List Value) :
    Trace σ :=
  match fn with
  | .function f => f.trace traces frame args
  | _ => silent

section

variable (hosts : HostFunctions σ) (nested : Nested σ) (traces : NestedTraces σ) (frame : Frame)
  (scope : ScopeChain)

mutual

def exprTrace : Expr → Trace σ
  | .literal value loc => entering (.expression (.literal value loc)) silent
  | .variable name loc => entering (.expression (.variable name loc)) silent
  | .paren inner loc => entering (.expression (.paren inner loc)) (exprTrace inner)
  | .index obj key loc =>
    entering (.expression (.index obj key loc)) <|
      andThen (evalExpr hosts nested frame scope obj) (exprTrace obj) fun _ => exprTrace key
  | .call fn args loc =>
    entering (.expression (.call fn args loc)) <|
      andThen (evalExpr hosts nested frame scope fn) (exprTrace fn) fun function =>
      andThen (evalArgs hosts nested frame scope args) (argsTrace args) fun values =>
      callTrace traces frame function.single values
  | .methodCall obj name args loc =>
    entering (.expression (.methodCall obj name args loc)) <|
      andThen (evalExpr hosts nested frame scope obj) (exprTrace obj) fun object =>
      andThen (Eval.liftFault (Operators.index frame (frame.globals.getD []) object.single
        (.str name) loc obj.subject)) silent fun function =>
      andThen (evalArgs hosts nested frame scope args) (argsTrace args) fun values =>
      callTrace traces frame function (object.single :: values)
  | .logical op left right loc =>
    entering (.expression (.logical op left right loc)) <|
      andThen (evalExpr hosts nested frame scope left) (exprTrace left) fun first =>
      match op with
      | .and => if first.single.isTruthy then exprTrace right else silent
      | _ => if first.single.isTruthy then silent else exprTrace right
  | .binary op left right loc =>
    entering (.expression (.binary op left right loc)) <|
      andThen (evalExpr hosts nested frame scope left) (exprTrace left) fun _ => exprTrace right
  | .unary op operand loc =>
    entering (.expression (.unary op operand loc)) (exprTrace operand)
  | .tableConstructor fields loc =>
    entering (.expression (.tableConstructor fields loc)) (fieldsTrace fields [] 1)
  | .bare loc => entering (.expression (.bare loc)) silent

def argsTrace : List Expr → Trace σ
  | [] => silent
  | arg :: rest =>
    andThen (evalExpr hosts nested frame scope arg) (exprTrace arg) fun _ => argsTrace rest

def fieldsTrace : List (Option Expr × Expr) → Slots → Nat → Trace σ
  | [], _, _ => silent
  | (none, e) :: rest, slots, position =>
    andThen (evalExpr hosts nested frame scope e) (exprTrace e) fun value =>
    let items := if rest.isEmpty then
        match value with
        | .multi items => items
        | value => [value]
      else [value.single]
    andThen (Eval.liftTable (assignPositions slots position items)) silent fun slots =>
    fieldsTrace rest slots (position + 1)
  | (some key, e) :: rest, slots, position =>
    andThen (evalExpr hosts nested frame scope e) (exprTrace e) fun value =>
    andThen (evalExpr hosts nested frame scope key) (exprTrace key) fun keyValue =>
    andThen (assignField frame slots keyValue.single value.single key.loc) silent fun slots =>
    fieldsTrace rest slots position

end

end

section

variable (hosts : HostFunctions σ) (nested : Nested σ) (traces : NestedTraces σ) (frame : Frame)

def parsedTrace (parsed augmentation : Value) : Trace σ :=
  match parsed with
  | .expression e =>
    andThen (Eval.liftFault (createScope frame augmentation)) silent fun bindings =>
    exprTrace hosts nested traces frame [bindings, frame.globals.getD []] e
  | _ => silent

def sourceTrace (source augmentation : Value) : Trace σ :=
  andThen (Eval.liftFault (parseValue source)) silent fun e =>
    parsedTrace hosts nested traces frame (.expression e) augmentation

/-- The trace of the evaluation of a text, of which the value is shown as a document. -/
def siteTrace (source : String) (augmentation : Value) : Trace σ :=
  andThen (discard (Eval.globals frame)) silent fun _ =>
    sourceTrace hosts nested traces (frame.child (some source)) (.str source) augmentation

/-- The trace of a visit of a node. -/
def visitTrace (augmentation : Value) (t : Tree) : Trace σ :=
  entering (.node t) <|
    match t.spliced? with
    | none => silent
    | some source => siteTrace hosts nested traces frame source augmentation

/-- The trace of a filling in order: those of the visits that the edit makes. -/
def fillTrace (augmentation : Value) (tree : Tree) : Trace σ := fun w =>
  (tree.edit (Tree.recording (visitor hosts nested frame augmentation)) ([], w)).2.1.flatMap
    fun (t, w) => visitTrace hosts nested traces frame augmentation t w

def interpolateTrace (template augmentation : Value) : Trace σ :=
  andThen (discard (Eval.globals frame)) silent fun _ =>
  andThen (Eval.liftFault (parseTemplate template)) silent fun tree =>
  fillTrace hosts nested traces frame augmentation tree

end

/-- The traces of evaluations nested up to a depth. -/
def nestedTracesTo (hosts : HostFunctions σ) : Nat → NestedTraces σ
  | 0 => { evalExpression := fun _ _ _ => silent, interpolate := fun _ _ _ => silent }
  | depth + 1 => {
      evalExpression := parsedTrace hosts (nestedTo hosts depth) (nestedTracesTo hosts depth)
      interpolate := interpolateTrace hosts (nestedTo hosts depth) (nestedTracesTo hosts depth) }

/-- What happens when a runner fills a template in order. -/
def Runner.trace (runner : Runner) (hosts : HostFunctions σ) (template augmentation : Value) :
    Trace σ :=
  interpolateTrace hosts (nestedTo hosts nestingLimit) (nestedTracesTo hosts nestingLimit)
    (runner.frame none) template augmentation

end TemplateScript
