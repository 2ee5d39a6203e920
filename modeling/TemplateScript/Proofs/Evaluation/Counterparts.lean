import TemplateScript.Proofs.Evaluation.Correspondence
import TemplateScript.Proofs.Evaluation.Propagation
import TemplateScript.Proofs.Evaluation.Visit
import TemplateScript.Proofs.Expr.Literals
import TemplateScript.Runner

/-!
# Evaluations and their counterparts

Each evaluation corresponds to the same evaluation under other numbers: those of calls and operators
because what they do does not depend on numbers, that of an expression by induction over the
expression, that of a template visit by visit, and nested ones by induction over the depth to which
evaluations may start each other. A parsed expression is its own counterpart, as nothing in it has a
number.
-/

namespace TemplateScript

variable {σ τ α : Type}

namespace Correspondence

variable {c : Correspondence σ τ} {nested : Nested σ} {nested' : Nested τ} {frame : Frame}

/-! ### Calls -/

theorem related_globals (hframe : frame.Within c.known) :
    c.Related Holding.bindings (Eval.globals frame) (Eval.globals (frame.renumber c.number)) := by
  obtain ⟨globals, source, location⟩ := frame
  cases globals with
  | none => exact .throw .noGlobals
  | some globals => exact .pure (H := Holding.bindings) (hframe globals rfl)

/-- Programs that need the global environment, whatever is in it. -/
theorem related_withGlobals {H : Holding α} {x : Eval σ α} {y : Eval τ α}
    (hframe : frame.Within c.known) (h : c.Related H x y) :
    c.Related H (do discard (Eval.globals frame); x)
      (do discard (Eval.globals (frame.renumber c.number)); y) := by
  refine Related.bind (H := Holding.nothing) ?_ fun _ _ => h
  exact Related.bind (related_globals hframe) fun _ _ => .pure trivial

theorem parseValue_renumber (f : Nat → Nat) (v : Value) :
    parseValue (v.renumber f) = parseValue v := by
  cases v with
  | str s => rfl
  | _ =>
      rw [parseValue, parseValue, Value.hostTypeName_renumber]
      · rintro s ⟨⟩
      · rintro s ⟨⟩

theorem entities_of_parseValue {v : Value} {e : Expr} (h : parseValue v = .ok e) :
    e.entities = [] := by
  cases v with
  | str source => exact entities_of_parseExpr h
  | _ => cases h

theorem related_parse (v : Value) :
    c.Related Holding.expr (Eval.liftFault (parseValue v))
      (Eval.liftFault (parseValue (v.renumber c.number))) := by
  rw [parseValue_renumber]
  refine .liftFault ?_ fun e he => Expr.within_of_entities_eq_nil (entities_of_parseValue he)
  cases hparse : parseValue v with
  | error fault => rfl
  | ok e =>
      have he : e.renumber c.number = e :=
        Expr.renumber_of_entities_eq_nil (entities_of_parseValue hparse)
      exact congrArg Except.ok he.symm

theorem related_framed (hnested : nested.Related c nested') (m : FramedMember)
    (hframe : frame.Within c.known) {args : List Value} (hargs : ∀ arg ∈ args, arg.Within c.known) :
    c.Related Holding.value (m.run nested frame args)
      (m.run nested' (frame.renumber c.number) (args.map (Value.renumber c.number))) := by
  have harg (index : Nat) : (args.map (Value.renumber c.number)).getD index .nil =
      (args.getD index .nil).renumber c.number :=
    Value.getD_map_renumber args index rfl
  have hwithin (index : Nat) : (args.getD index .nil).Within c.known :=
    Value.all_getD hargs index Value.within_nil
  cases m with
  | parseExpression =>
      refine related_withGlobals hframe ?_
      dsimp only
      rw [harg]
      refine .bind (related_parse _) fun e he => ?_
      exact .pure (H := Holding.value) he
  | evalExpression =>
      refine related_withGlobals hframe ?_
      dsimp only
      rw [harg, harg]
      exact hnested.evalExpression hframe (hwithin 0) (hwithin 1)
  | interpolate =>
      simp only [FramedMember.run, harg]
      exact hnested.interpolate hframe (hwithin 0) (hwithin 1)
  | baseUrl =>
      refine related_withGlobals hframe ?_
      have hlocation : (frame.renumber c.number).location = frame.location := rfl
      rw [hlocation]
      cases frame.location with
      | none => exact .pure (H := Holding.value) Value.within_nil
      | some location =>
          refine .bind (.liftHost_same _) fun origin _ => ?_
          cases origin with
          | none => exact .pure (H := Holding.value) Value.within_nil
          | some url => exact .pure (H := Holding.value) (Value.within_str url)

theorem related_function (hnested : nested.Related c nested') (g : Function)
    (hframe : frame.Within c.known) {args : List Value} (hargs : ∀ arg ∈ args, arg.Within c.known) :
    c.Related Holding.value (g.run c.hosts nested frame args)
      ((g.renumber c.number).run c.hosts' nested' (frame.renumber c.number)
        (args.map (Value.renumber c.number))) := by
  cases g with
  | host key shown => exact c.rel_call key args hargs
  | member m home =>
      simp only [Function.renumber, Function.run, m.checkCount_renumber]
      refine .bind (.liftHost_same _) fun _ _ => ?_
      cases m with
      | plain m =>
          exact .liftFault (m.run_renumber c.injective args) fun v hv => m.within_run hargs hv
      | framed m => exact related_framed hnested m hframe hargs

theorem related_call (hnested : nested.Related c nested') (hframe : frame.Within c.known)
    {fn fn' : Value} (hfn : fn' = fn.renumber c.number) {args args' : List Value}
    (hargs : ∀ arg ∈ args, arg.Within c.known) (hargs' : args' = args.map (Value.renumber c.number))
    (loc : Option Location) (subject : Subject) :
    c.Related Holding.value (callValue c.hosts nested frame fn args loc subject)
      (callValue c.hosts' nested' (frame.renumber c.number) fn' args' loc subject) := by
  rw [hfn, hargs']
  cases fn with
  | function g =>
      rw [Value.renumber, callValue, callValue, Function.name_renumber]
      refine .rethrow (frame.attributed g loc) (related_function hnested g hframe hargs)
        (fun fault => ?_) fun fault => ?_
      · cases fault <;> rfl
      · cases fault <;> rfl
  | _ => exact .throw _

/-! ### Expressions -/

theorem related_assignField (frame : Frame) {slots : Slots} (hslots : slots.Within c.known)
    {key key' value value' : Value} (hkey : key.Within c.known)
    (hkey' : key' = key.renumber c.number) (hvalue : value.Within c.known)
    (hvalue' : value' = value.renumber c.number) (loc : Option Location) :
    c.Related Holding.slots (assignField frame slots key value loc)
      (assignField (frame.renumber c.number) (slots.renumber c.number) key' value' loc) := by
  have hassign (key : Value) (hkey : key.Within c.known) :
      c.Related Holding.slots (Eval.liftTable (slots.assign key value))
        (Eval.liftTable (Slots.assign (slots.renumber c.number) (key.renumber c.number)
          (value.renumber c.number))) :=
    .liftTable (Slots.assign_renumber c.injective slots key value)
      fun assigned h => hslots.assign hkey hvalue h
  rw [hkey', hvalue']
  cases key with
  | nil => exact .throw _
  | number n =>
      rw [Value.renumber, assignField, assignField]
      split
      · exact .throw _
      · exact hassign (.number n) hkey
  | _ => exact hassign _ hkey

theorem related_single {v : Value} (hv : v.Within c.known) :
    c.Related Holding.value (pure v.single) (pure (v.renumber c.number).single) :=
  .pure_of_eq (H := Holding.value) hv.single (v.single_renumber _)

theorem related_index (hframe : frame.Within c.known) {object object' key key' : Value}
    (hobject : object.Within c.known) (hobject' : object' = object.renumber c.number)
    (hkey' : key' = key.renumber c.number) (loc : Option Location) (obj : Expr) :
    c.Related Holding.value
      (Eval.liftFault
        (Operators.index frame (frame.globals.getD []) object key loc obj.subject))
      (Eval.liftFault
        (Operators.index (frame.renumber c.number) ((frame.renumber c.number).globals.getD [])
          object' key' loc (obj.renumber c.number).subject)) := by
  rw [hobject', hkey', Expr.subject_renumber, Frame.getD_globals_renumber]
  exact .liftFault (Operators.index_renumber frame loc c.injective _ object key obj.subject)
    fun v hv => Operators.within_index hframe.getD_globals hobject hv

variable {scope : ScopeChain}

mutual

theorem related_expr (hnested : nested.Related c nested') (hframe : frame.Within c.known)
    (hscope : scope.Within c.known) (e : Expr) (he : e.Within c.known) :
    c.Related Holding.value (evalExpr c.hosts nested frame scope e)
      (evalExpr c.hosts' nested' (frame.renumber c.number) (scope.renumber c.number)
        (e.renumber c.number)) := by
  match e with
  | .literal value loc =>
      rw [Expr.renumber, evalExpr, evalExpr]
      exact .checked (.pure (H := Holding.value) he)
  | .variable name loc =>
      rw [Expr.renumber, evalExpr, evalExpr, ScopeChain.get?_renumber]
      refine .checked ?_
      cases hfound : scope.get? name with
      | none => exact .pure (H := Holding.value) Value.within_nil
      | some v => exact .pure (H := Holding.value) (hscope.get? hfound)
  | .paren inner loc =>
      rw [Expr.renumber, evalExpr, evalExpr]
      exact .checked (.bind (related_expr hnested hframe hscope inner he) fun v hv =>
        related_single hv)
  | .index obj key loc =>
      rw [Expr.renumber, evalExpr, evalExpr]
      obtain ⟨hobj, hkey⟩ := List.forall_mem_append.mp he
      refine .checked (.bind (related_expr hnested hframe hscope obj hobj) fun object hobject => ?_)
      refine .bind (related_expr hnested hframe hscope key hkey) fun keyValue _ => ?_
      exact related_index hframe hobject.single (object.single_renumber _)
        (keyValue.single_renumber _) loc obj
  | .call fn args loc =>
      rw [Expr.renumber, evalExpr, evalExpr, Expr.subject_renumber]
      obtain ⟨hfn, hargs⟩ := List.forall_mem_append.mp he
      refine .checked (.bind (related_expr hnested hframe hscope fn hfn) fun function _ => ?_)
      refine .bind (related_args hnested hframe hscope args hargs) fun values hvalues => ?_
      exact related_call hnested hframe (function.single_renumber _) hvalues rfl loc fn.subject
  | .methodCall obj name args loc =>
      rw [Expr.renumber, evalExpr, evalExpr]
      obtain ⟨hobj, hargs⟩ := List.forall_mem_append.mp he
      refine .checked (.bind (related_expr hnested hframe hscope obj hobj) fun object hobject => ?_)
      have hname : Value.str name = (Value.str name).renumber c.number := rfl
      refine .bind (related_index hframe hobject.single (object.single_renumber _) hname loc obj)
        fun function _ => ?_
      refine .bind (related_args hnested hframe hscope args hargs) fun values hvalues => ?_
      refine related_call hnested hframe rfl (List.forall_mem_cons.mpr ⟨hobject.single, hvalues⟩)
        ?_ loc (.method name)
      exact congrArg (· :: _) (object.single_renumber _)
  | .logical op left right loc =>
      rw [Expr.renumber, evalExpr, evalExpr]
      obtain ⟨hleft, hright⟩ := List.forall_mem_append.mp he
      refine .checked (.bind (related_expr hnested hframe hscope left hleft) fun first hfirst => ?_)
      have hsecond : c.Related Holding.value
          (do return (← evalExpr c.hosts nested frame scope right).single)
          (do return (← evalExpr c.hosts' nested' (frame.renumber c.number)
            (scope.renumber c.number) (right.renumber c.number)).single) :=
        .bind (related_expr hnested hframe hscope right hright) fun second hsecond =>
          related_single hsecond
      have htruthy : (Holding.value.renumber c.number first).single.isTruthy =
          first.single.isTruthy :=
        (congrArg Value.isTruthy (first.single_renumber _)).trans (Value.isTruthy_renumber _ _)
      cases op with
      | and | or | unknown spelling =>
          dsimp only
          rw [htruthy]
          split
          · first | exact hsecond | exact related_single hfirst
          · first | exact hsecond | exact related_single hfirst
  | .binary op left right loc =>
      rw [Expr.renumber, evalExpr, evalExpr]
      obtain ⟨hleft, hright⟩ := List.forall_mem_append.mp he
      refine .checked (.bind (related_expr hnested hframe hscope left hleft) fun a _ => ?_)
      refine .bind (related_expr hnested hframe hscope right hright) fun b _ => ?_
      have hbinary := Operators.binary_renumber_eq frame loc c.injective op a.single b.single
      rw [← Value.single_renumber, ← Value.single_renumber] at hbinary
      exact hbinary ▸ .liftFault_plain (Operators.givesPlain_binary frame loc op _ _)
  | .unary op operand loc =>
      rw [Expr.renumber, evalExpr, evalExpr, Expr.subject_renumber]
      refine .checked (.bind (related_expr hnested hframe hscope operand he) fun v _ => ?_)
      have hunary := Operators.unary_renumber_eq (f := c.number) frame loc op v.single
        operand.subject
      rw [← Value.single_renumber] at hunary
      exact hunary ▸ .liftFault_plain (Operators.givesPlain_unary frame loc op _ _)
  | .tableConstructor fields loc =>
      rw [Expr.renumber, evalExpr, evalExpr]
      have hempty : Slots.Within c.known [] := List.forall_mem_nil _
      refine .checked (.bind (related_fields hnested hframe hscope fields he hempty 1) ?_)
      exact fun slots hslots => c.rel_newTable slots hslots
  | .bare loc =>
      rw [Expr.renumber, evalExpr, evalExpr]
      exact .checked (.throw _)

theorem related_args (hnested : nested.Related c nested') (hframe : frame.Within c.known)
    (hscope : scope.Within c.known) (es : List Expr) (hes : ∀ x ∈ entitiesOfExprs es, c.known x) :
    c.Related Holding.values (evalArgs c.hosts nested frame scope es)
      (evalArgs c.hosts' nested' (frame.renumber c.number) (scope.renumber c.number)
        (renumberExprs c.number es)) := by
  match es with
  | [] =>
      rw [renumberExprs, evalArgs, evalArgs]
      exact .pure (H := Holding.values) (List.forall_mem_nil _)
  | arg :: rest =>
      rw [renumberExprs, evalArgs, evalArgs]
      obtain ⟨harg, hrest⟩ := List.forall_mem_append.mp hes
      refine .bind (related_expr hnested hframe hscope arg harg) fun value hvalue => ?_
      cases rest with
      | nil =>
          have hspread := Related.pure_of_eq (c := c) (H := Holding.values) (hvalue.spread true)
            (value.spread_renumber c.number true)
          cases value <;> exact hspread
      | cons next others =>
          refine .bind (related_args hnested hframe hscope (next :: others) hrest)
            fun values hvalues => ?_
          exact .pure_of_eq (H := Holding.values)
            (List.forall_mem_cons.mpr ⟨hvalue.single, hvalues⟩)
            (congrArg (· :: _) (value.single_renumber _))

theorem related_fields (hnested : nested.Related c nested') (hframe : frame.Within c.known)
    (hscope : scope.Within c.known) (fields : List (Option Expr × Expr))
    (hfields : ∀ x ∈ entitiesOfFields fields, c.known x) {slots : Slots}
    (hslots : slots.Within c.known) (position : Nat) :
    c.Related Holding.slots (evalFields c.hosts nested frame scope fields slots position)
      (evalFields c.hosts' nested' (frame.renumber c.number) (scope.renumber c.number)
        (renumberFields c.number fields) (slots.renumber c.number) position) := by
  match fields with
  | [] =>
      rw [renumberFields, evalFields, evalFields]
      exact .pure (H := Holding.slots) hslots
  | (none, e) :: rest =>
      rw [renumberFields, evalFields, evalFields]
      obtain ⟨he, hrest⟩ := List.forall_mem_append.mp hfields
      refine .bind (related_expr hnested hframe hscope e he) fun value hvalue => ?_
      rw [isEmpty_renumberFields]
      have hassign := assignPositions_renumber c.injective slots position
        (value.spread rest.isEmpty)
      rw [← Value.spread_renumber] at hassign
      refine .bind (H := Holding.slots) (.liftTable hassign fun assigned h =>
        within_assignPositions hslots (hvalue.spread rest.isEmpty) h) fun assigned hassigned => ?_
      exact related_fields hnested hframe hscope rest hrest hassigned (position + 1)
  | (some key, e) :: rest =>
      rw [renumberFields, evalFields, evalFields]
      obtain ⟨hboth, hrest⟩ := List.forall_mem_append.mp hfields
      obtain ⟨hkey, he⟩ := List.forall_mem_append.mp hboth
      refine .bind (related_expr hnested hframe hscope e he) fun value hvalue => ?_
      refine .bind (related_expr hnested hframe hscope key hkey) fun keyValue hkeyValue => ?_
      rw [Expr.loc_renumber]
      refine .bind (related_assignField frame hslots hkeyValue.single (keyValue.single_renumber _)
        hvalue.single (value.single_renumber _) key.loc) fun assigned hassigned => ?_
      exact related_fields hnested hframe hscope rest hrest hassigned position

end

/-! ### Texts and templates -/

theorem related_parsed (hnested : nested.Related c nested') (hframe : frame.Within c.known)
    (parsed : Value) {augmentation : Value} (hparsed : parsed.Within c.known)
    (haugmentation : augmentation.Within c.known) :
    c.Related Holding.value (evalParsed c.hosts nested frame parsed augmentation)
      (evalParsed c.hosts' nested' (frame.renumber c.number) (parsed.renumber c.number)
        (augmentation.renumber c.number)) := by
  cases parsed with
  | expression e =>
      rw [Value.renumber, evalParsed, evalParsed, Frame.getD_globals_renumber]
      refine .bind (H := Holding.bindings)
        (.liftFault (createScope_renumber c.number frame augmentation)
          fun bindings h => within_createScope haugmentation h) fun bindings hbindings => ?_
      have hscope : ScopeChain.Within c.known [bindings, frame.globals.getD []] :=
        List.forall_mem_cons.mpr ⟨hbindings, List.forall_mem_singleton.mpr hframe.getD_globals⟩
      refine .bind (related_expr hnested hframe hscope e hparsed) fun value hvalue => ?_
      refine .pure_of_eq (H := Holding.value) hvalue.single.toHost ?_
      exact (congrArg Value.toHost (value.single_renumber _)).trans (Value.toHost_renumber _ _)
  | _ => exact .throw _

theorem related_source (hnested : nested.Related c nested') (hframe : frame.Within c.known)
    (source : Value) {augmentation : Value} (haugmentation : augmentation.Within c.known) :
    c.Related Holding.value (evalSource c.hosts nested frame source augmentation)
      (evalSource c.hosts' nested' (frame.renumber c.number) (source.renumber c.number)
        (augmentation.renumber c.number)) :=
  .bind (related_parse source) fun e he =>
    related_parsed hnested hframe (.expression e) he haugmentation

theorem related_document (hnested : nested.Related c nested') (hframe : frame.Within c.known)
    (source : String) {augmentation : Value} (haugmentation : augmentation.Within c.known) :
    c.Related Holding.nothing (evalToDocument c.hosts nested frame (.str source) augmentation)
      (evalToDocument c.hosts' nested' (frame.renumber c.number) (.str source)
        (augmentation.renumber c.number)) := by
  refine related_withGlobals hframe (.rethrow (.ofEvaluation source) ?_ (fun _ => rfl) fun _ => rfl)
  have hchild : (frame.child (some source)).Within c.known := hframe
  refine .bind (related_source hnested hchild (.str source) haugmentation) fun value _ => ?_
  have hdisplay : c.Related Holding.nothing (Eval.liftHost value.display)
      (Eval.liftHost (value.renumber c.number).display) := by
    rw [Value.display_renumber]
    exact .liftHost_same _
  exact hdisplay.bind fun shown _ => .pure_same _

theorem related_visit (hnested : nested.Related c nested') (hframe : frame.Within c.known)
    {augmentation : Value} (haugmentation : augmentation.Within c.known) (t : Tree) :
    c.Related Holding.nothing (visitNode c.hosts nested frame augmentation t)
      (visitNode c.hosts' nested' (frame.renumber c.number) (augmentation.renumber c.number)
        t) := by
  refine .checked ?_
  split
  · exact .pure_same _
  · cases t.spliced? with
    | none => exact .pure_same _
    | some source =>
        refine .rethrow t.blame ?_ (fun _ => rfl) fun _ => rfl
        exact .bind (related_document hnested hframe source haugmentation) fun _ _ => .pure_same _

/-- A program whose results have no numbers may be taken as one that does not fail. -/
theorem rel_nothing {x : Eval σ α} {y : Eval τ α} (h : c.Related Holding.nothing x y) :
    c.rel Holding.nothing x.run y.run := by
  rw [← bind_pure x.run, ← bind_pure y.run]
  refine c.rel_bind h fun result _ => ?_
  have hsame : Holding.nothing.outcome.renumber c.number result = result := by
    cases result <;> rfl
  rw [hsame]
  exact c.rel_pure (H := Holding.nothing) trivial

theorem related_fill (hnested : nested.Related c nested') (hframe : frame.Within c.known)
    {augmentation : Value} (haugmentation : augmentation.Within c.known) (concurrent : Bool)
    (tree : Tree) :
    c.rel Holding.nothing (fill c.hosts nested concurrent frame augmentation tree)
      (fill c.hosts' nested' concurrent (frame.renumber c.number)
        (augmentation.renumber c.number) tree) := by
  have hvisit (t : Tree) := rel_nothing (related_visit hnested hframe haugmentation t)
  cases concurrent with
  | false => exact Tree.edit_congr (c := c.toCongruence) hvisit tree
  | true => exact Tree.editTogether_congr (c := c.toCongruence) hvisit tree

theorem parseTemplate_renumber (f : Nat → Nat) (v : Value) :
    parseTemplate (v.renumber f) = parseTemplate v := by
  cases v with
  | str s => rfl
  | _ =>
      rw [parseTemplate, parseTemplate, Value.hostTypeName_renumber]
      · rintro s ⟨⟩
      · rintro s ⟨⟩

theorem related_interpolate (hnested : nested.Related c nested') (hframe : frame.Within c.known)
    (concurrent : Bool) (template : Value) {augmentation : Value}
    (haugmentation : augmentation.Within c.known) :
    c.Related Holding.nothing (interpolate c.hosts nested concurrent frame template augmentation)
      (interpolate c.hosts' nested' concurrent (frame.renumber c.number)
        (template.renumber c.number) (augmentation.renumber c.number)) := by
  refine related_withGlobals hframe ?_
  rw [parseTemplate_renumber]
  refine .bind (.liftFault_same _) fun tree _ => .bind (H := Holding.nothing) ?_ fun _ _ =>
    .pure_same _
  refine c.rel_bind (related_fill hnested hframe haugmentation concurrent tree) fun edited _ => ?_
  change c.rel Holding.nothing.outcome (pure edited.result) (pure edited.result)
  cases edited.result with
  | ok tree => exact Related.pure_same tree
  | error fault => exact Related.throw fault

theorem related_nestedTo (depth : Nat) :
    (nestedTo c.hosts depth).Related c (nestedTo c.hosts' depth) := by
  induction depth with
  | zero => exact ⟨fun _ _ _ => .throw _, fun _ _ _ => .throw _⟩
  | succ depth ih =>
      refine ⟨fun hframe hparsed haugmentation => related_parsed ih hframe _ hparsed haugmentation,
        fun {frame template augmentation} hframe _ haugmentation => ?_⟩
      refine .bind (related_interpolate ih hframe false template haugmentation) fun text _ => ?_
      exact .pure (H := Holding.value) (Value.within_str text)

/-! ### Runners -/

end Correspondence

/-- A runner in the same environment under other numbers. -/
def Runner.renumber (f : Nat → Nat) (runner : Runner) : Runner :=
  { runner with globals := runner.globals.map (Bindings.renumber f) }

def Runner.Within (known : Entity → Prop) (runner : Runner) : Prop :=
  ∀ globals ∈ runner.globals, globals.Within known

theorem Value.string?_renumber (f : Nat → Nat) (v : Value) :
    (v.renumber f).string? = v.string? := by
  cases v <;> rfl

theorem Value.hostText?_renumber (f : Nat → Nat) (v : Value) :
    (v.renumber f).hostText? = v.hostText? := by
  have htext : (v.renumber f).textIn? .description = v.textIn? .description := by
    rw [textIn?, textIn?, isWritable_renumber, text_renumber]
  cases v with
  | str s => rfl
  | date d => rfl
  | dateTime t => rfl
  | _ => exact htext

theorem Fault.ofSource_renumber (f : Nat → Nat) (source : Value) :
    ofSource (source.renumber f) = ofSource source := by
  funext cause
  have htext := source.hostText?_renumber f
  cases source with
  | str s => rfl
  | _ =>
      rw [ofSource, ofSource, htext]
      · exact nofun
      · exact nofun

namespace Correspondence

variable {c : Correspondence σ τ} {runner : Runner} {augmentation : Value}

theorem related_evaluate (hrunner : runner.Within c.known) (source : Value)
    (haugmentation : augmentation.Within c.known) :
    c.Related Holding.value (runner.evaluate c.hosts source augmentation)
      ((runner.renumber c.number).evaluate c.hosts' (source.renumber c.number)
        (augmentation.renumber c.number)) := by
  have hframe : (runner.frame source.string?).Within c.known := hrunner
  rw [Runner.evaluate, Runner.evaluate, Value.string?_renumber, Fault.ofSource_renumber]
  exact .rethrow (.ofSource source)
    (related_source (related_nestedTo nestingLimit) hframe source haugmentation)
    (fun _ => rfl) fun _ => rfl

theorem related_runner (hrunner : runner.Within c.known) (template : Value)
    (haugmentation : augmentation.Within c.known) :
    c.Related Holding.nothing (runner.interpolate c.hosts template augmentation)
      ((runner.renumber c.number).interpolate c.hosts' (template.renumber c.number)
        (augmentation.renumber c.number)) :=
  have hframe : (runner.frame none).Within c.known := hrunner
  related_interpolate (related_nestedTo nestingLimit) hframe runner.concurrent template
    haugmentation

theorem rel_handle (hrunner : runner.Within c.known) (template : Value)
    (haugmentation : augmentation.Within c.known) :
    c.rel Holding.nothing (runner.handle c.hosts template augmentation)
      ((runner.renumber c.number).handle c.hosts' (template.renumber c.number)
        (augmentation.renumber c.number)) := by
  refine c.rel_bind (rel_nothing (related_runner hrunner template haugmentation)) fun result _ => ?_
  cases result with
  | ok text => exact c.rel_pure (H := Holding.nothing) trivial
  | error fault => exact c.rel_pure (H := Holding.nothing) trivial

end Correspondence

end TemplateScript
