import TemplateScript.Document.Parse
import TemplateScript.Document.Traversal
import TemplateScript.Evaluation.Interpreter

/-!
# Templates

Filling a template puts the text of a value in the place of each directive, a dollar sign in the
place of each escaped one, and does the same with a wiki link page that holds a directive. The
parts of a template are visited in order, and the first one that fails ends the filling. A
concurrent filling visits all parts, and the first fault counts; in which order parts that wait for
the host run beside each other is not told here.
-/

namespace TemplateScript

variable {σ : Type}

section

variable (hosts : HostFunctions σ) (nested : Nested σ)

/-- The value of a text in its own frame. -/
def evalSource (frame : Frame) (source augmentation : Value) : Eval σ Value := do
  let e ← Eval.liftFault (parseValue source)
  evalParsed hosts nested frame (.expression e) augmentation

/-- The value of an expression, which has to be a text, shown as a document. Faults name what is
given as the expression. -/
def evalToDocument (frame : Frame) (source augmentation : Value) : Eval σ Tree := do
  discard (Eval.globals frame)
  tryCatch
    (do
      let value ← evalSource hosts nested (frame.child source.string?) source augmentation
      return parseDocument (← Eval.liftHost value.display).toList)
    fun fault => throw (.ofSource source fault)

/-- The text of the first directive in a tree. -/
def Tree.directiveText? (t : Tree) : Option String :=
  (t.findKind? (some "DirectiveExpression")).map fun found => String.ofList found.render

/-- The expression that a node is to be replaced by, if it is one that is replaced. -/
def Tree.spliced? (t : Tree) : Option String :=
  if t.kind = some "Directive" then t.directiveText?
  else if t.kind = some "WikiLinkPage" then (parseDocument t.render).directiveText?
  else none

/-- Where a node stands in its text, if it was parsed. -/
def Tree.location? (t : Tree) : Option Location :=
  t.position?.map fun position => ⟨position, t.kind, some (String.ofList t.render)⟩

/-- What the filling of a template does with a node. -/
def visitNode (frame : Frame) (augmentation : Value) (t : Tree) : Eval σ Tree.Visit := do
  Eval.checkCancelled frame
  if t.kind = some "Escape" && t.render = ['\\', '$'] then
    return .replace (some (parseDocument ['$']))
  match t.spliced? with
  | none => return .descend
  | some source =>
    tryCatch
      (do return .replace (some (← evalToDocument hosts nested frame (.str source) augmentation)))
      fun fault => throw (match t.location? with
        | some loc => fault.locatedAt loc
        | none => fault)

/-- Parses a value, which has to be a text, as a template. -/
def parseTemplate (v : Value) : Except Fault Tree :=
  match v with
  | .str source => .ok (parseDocument source.toList)
  | v => .error (.parse (.notText "template" v.hostTypeName) none)

/-- The tree of a template with its parts filled in. -/
def fill (concurrent : Bool) (frame : Frame) (augmentation : Value) (tree : Tree) :
    StateM (World σ) (Tree.Edited Fault) :=
  let visit (t : Tree) := (visitNode hosts nested frame augmentation t).run
  if concurrent then tree.editTogether visit else tree.edit visit

/-- Fills a template. The parts are filled in the order of the document, also where they are to be
filled together: that parts wait, go on in another order, as an expression in a link page does that
has later siblings, or are cancelled by the fault of a sibling is left out. -/
def interpolate (concurrent : Bool) (frame : Frame) (template augmentation : Value) :
    Eval σ String := do
  discard (Eval.globals frame)
  let tree ← Eval.liftFault (parseTemplate template)
  let filled ← ExceptT.mk do
    return (← fill hosts nested concurrent frame augmentation tree).result
  return String.ofList ((filled.map Tree.render).getD [])

end

/-- Evaluations nested up to a depth, which stands for the depth of recursion that the host
allows. -/
def nestedTo (hosts : HostFunctions σ) : Nat → Nested σ
  | 0 => {
      evalExpression := fun _ _ _ => throw (.host .nestedTooDeep)
      interpolate := fun _ _ _ => throw (.host .nestedTooDeep) }
  | depth + 1 => {
      evalExpression := evalParsed hosts (nestedTo hosts depth)
      interpolate := fun frame template augmentation => do
        return .str (← interpolate hosts (nestedTo hosts depth) false frame template augmentation) }

end TemplateScript
