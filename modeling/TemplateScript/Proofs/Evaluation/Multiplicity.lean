import TemplateScript.Proofs.Evaluation.Adjustment
import TemplateScript.Proofs.Expr.Literals
import TemplateScript.Runner

/-!
# Several results in an evaluation

What an evaluation comes to is free of several results, as long as what it starts from is and the
host's functions give them as results of a call at most. Only calls come to several results, whose
contents are free of them; everything else takes the first one, or takes them apart.
-/

namespace TemplateScript

variable {σ α β : Type}

/-- All that a program comes to has a property, in whatever world it runs. -/
def Eval.Ensures (p : α → Prop) (x : Eval σ α) : Prop :=
  ∀ w a w', x.run w = (.ok a, w') → p a

namespace Eval.Ensures

variable {p q : α → Prop} {x : Eval σ α}

theorem pure {a : α} (h : p a) : (Pure.pure a : Eval σ α).Ensures p := by
  rintro w _ _ ⟨⟩
  exact h

theorem throw (fault : Fault) : (MonadExcept.throw fault : Eval σ α).Ensures p := by
  rintro w _ _ ⟨⟩

theorem mono (h : x.Ensures p) (hq : ∀ a, p a → q a) : x.Ensures q :=
  fun w a w' hrun => hq a (h w a w' hrun)

theorem bind {p : β → Prop} {x : Eval σ β} {next : β → Eval σ α} (h : x.Ensures p)
    (hnext : ∀ b, p b → (next b).Ensures q) : (x >>= next).Ensures q := by
  intro w a w' hrun
  obtain ⟨b, w₁, hx, hrest⟩ := Faulting.run_bind_eq_ok.mp hrun
  exact hnext b (h w b w₁ hx) w₁ a w' hrest

/-- What comes first does not matter. -/
theorem after {x : Eval σ β} {next : β → Eval σ α} (hnext : ∀ b, (next b).Ensures q) :
    (x >>= next).Ensures q :=
  bind (p := fun _ => True) (fun _ _ _ _ => trivial) fun b _ => hnext b

theorem liftFault {result : Except Fault α} (h : ∀ a, result = .ok a → p a) :
    (Eval.liftFault result : Eval σ α).Ensures p :=
  fun _ a _ hrun => h a (run_liftFault_eq_ok.mp hrun).1

theorem liftTable {result : Except TableFault α} (h : ∀ a, result = .ok a → p a) :
    (Eval.liftTable result : Eval σ α).Ensures p :=
  fun _ a _ hrun => h a (run_liftTable_eq_ok.mp hrun).1

theorem tryCatch {handler : Fault → Eval σ α} (h : x.Ensures p)
    (hhandler : ∀ fault, (handler fault).Ensures p) : (tryCatch x handler).Ensures p := by
  intro w a w' hrun
  rw [Faulting.run_tryCatch] at hrun
  rcases hx : x.run w with ⟨fault | b, w₁⟩
  · rw [hx] at hrun
    exact hhandler fault w₁ a w' hrun
  · rw [hx] at hrun
    cases hrun
    exact h w _ _ hx

end Eval.Ensures

/-! ### Functions -/

/-- What host functions give for arguments without several results is what a call may give. -/
def HostFunctions.MultiFree (hosts : HostFunctions σ) : Prop :=
  ∀ key args, (∀ arg ∈ args, arg.MultiFree) → (hosts key args).Ensures Value.IsResult

/-- What is global in a frame is free of several results. -/
abbrev Frame.MultiFree (frame : Frame) : Prop := frame.All Value.MultiFree

abbrev ScopeChain.MultiFree (scope : ScopeChain) : Prop := scope.All Value.MultiFree

/-- The evaluations that scripts start give no several results. -/
structure Nested.MultiFree (nested : Nested σ) : Prop where
  evalExpression {frame : Frame} {parsed augmentation : Value} (hframe : frame.MultiFree)
    (hparsed : parsed.MultiFree) (haugmentation : augmentation.MultiFree) :
    (nested.evalExpression frame parsed augmentation).Ensures Value.MultiFree
  interpolate (frame : Frame) (template augmentation : Value) :
    (nested.interpolate frame template augmentation).Ensures Value.MultiFree

theorem PlainMember.isResult_of_run {m : PlainMember} {args : List Value} {v : Value}
    (hargs : ∀ arg ∈ args, arg.MultiFree) (h : m.run args = .ok v) : v.IsResult := by
  obtain hv | ⟨items, rfl, hitems⟩ := run_cases h
  · exact .inl (Value.multiFree_of_isPlain hv)
  · exact .inr ⟨items, rfl, fun item hitem =>
      (hitems item hitem).elim (hargs item) Value.multiFree_of_isPlain⟩

theorem multiFree_of_parseValue {v : Value} {e : Expr} (h : parseValue v = .ok e) :
    e.MultiFree := by
  cases v with
  | str source => exact multiFree_of_parseExpr h
  | _ => cases h

section

variable {hosts : HostFunctions σ} {nested : Nested σ} {frame : Frame} {scope : ScopeChain}

theorem FramedMember.ensures_run (hnested : nested.MultiFree) (hframe : frame.MultiFree)
    (m : FramedMember) {args : List Value} (hargs : ∀ arg ∈ args, arg.MultiFree) :
    (m.run nested frame args).Ensures Value.MultiFree := by
  have harg (index : Nat) : (args.getD index .nil).MultiFree :=
    Value.all_getD hargs index rfl
  cases m with
  | parseExpression =>
      have hparse : (Eval.liftFault (parseValue (args.getD 0 .nil)) : Eval σ Expr).Ensures
          Expr.MultiFree :=
        .liftFault fun e he => multiFree_of_parseValue he
      exact .after fun _ => hparse.bind fun e he => .pure he
  | evalExpression => exact .after fun _ => hnested.evalExpression hframe (harg 0) (harg 1)
  | interpolate => exact hnested.interpolate frame _ _
  | baseUrl =>
      refine .after fun _ => ?_
      cases frame.location with
      | none => exact .pure rfl
      | some location =>
          refine .after fun origin => .pure ?_
          cases origin <;> rfl

theorem Function.ensures_run (hhosts : hosts.MultiFree) (hnested : nested.MultiFree)
    (hframe : frame.MultiFree) (f : Function) {args : List Value}
    (hargs : ∀ arg ∈ args, arg.MultiFree) :
    (f.run hosts nested frame args).Ensures Value.IsResult := by
  cases f with
  | host key shown => exact hhosts key args hargs
  | member m home =>
      refine .after fun _ => ?_
      cases m with
      | plain m => exact .liftFault fun v hv => m.isResult_of_run hargs hv
      | framed m => exact (m.ensures_run hnested hframe hargs).mono fun v hv => .inl hv

theorem ensures_callValue (hhosts : hosts.MultiFree) (hnested : nested.MultiFree)
    (hframe : frame.MultiFree) (fn : Value) {args : List Value}
    (hargs : ∀ arg ∈ args, arg.MultiFree) (loc : Option Location) (subject : Subject) :
    (callValue hosts nested frame fn args loc subject).Ensures Value.IsResult := by
  cases fn with
  | function f =>
      rw [callValue_function]
      exact .tryCatch (f.ensures_run hhosts hnested hframe hargs) fun fault => .throw _
  | _ => exact .throw _

/-! ### Expressions -/

def Expr.isCall : Expr → Bool
  | .call _ _ _ | .methodCall _ _ _ _ => true
  | _ => false

/-- What an expression may give: several results only if it is a call. -/
def Expr.Admits (e : Expr) (v : Value) : Prop :=
  v.MultiFree ∨ e.isCall ∧ v.IsResult

theorem Expr.Admits.isResult {e : Expr} {v : Value} (h : e.Admits v) : v.IsResult :=
  h.elim .inl And.right

theorem Expr.admits_of_call {e : Expr} {x : Eval σ Value} (he : e.isCall)
    (h : x.Ensures Value.IsResult) : x.Ensures e.Admits :=
  h.mono fun _ hv => .inr ⟨he, hv⟩

theorem ensures_single {e operand : Expr} {x : Eval σ Value} (h : x.Ensures operand.Admits) :
    (x >>= fun v => Pure.pure v.single).Ensures e.Admits :=
  h.bind fun _ hv => .pure (.inl hv.isResult.single)

theorem ensures_index (hframe : frame.MultiFree) {object : Value} (hobject : object.MultiFree)
    (key : Value) (loc : Option Location) (subject : Subject) :
    (Eval.liftFault (Operators.index frame (frame.globals.getD []) object key loc subject) :
      Eval σ Value).Ensures Value.MultiFree :=
  .liftFault fun _ hv =>
    Operators.all_index Value.inherited_multiFree hframe.getD_globals hobject hv

theorem ensures_plain {e : Expr} {result : Except Fault Value} (h : GivesPlain result) :
    (Eval.liftFault result : Eval σ Value).Ensures e.Admits :=
  .liftFault fun v hv => .inl (Value.multiFree_of_isPlain (h v hv))

theorem ensures_newTable {slots : Slots} (h : slots.All Value.MultiFree) :
    (Eval.newTable slots : Eval σ Value).Ensures Value.MultiFree := by
  rintro w _ _ ⟨⟩
  exact Value.multiFree_table h

theorem ensures_assignField (frame : Frame) {slots : Slots} (hslots : slots.All Value.MultiFree)
    {key value : Value} (hkey : key.MultiFree) (hvalue : value.MultiFree) (loc : Option Location) :
    (assignField frame slots key value loc : Eval σ Slots).Ensures
      (Slots.All Value.MultiFree) :=
  fun _ _ _ h => hslots.assign Value.inherited_multiFree hkey hvalue (assignField_eq_ok h).1

mutual

theorem ensures_evalExpr (hhosts : hosts.MultiFree) (hnested : nested.MultiFree)
    (hframe : frame.MultiFree) (hscope : scope.MultiFree) (e : Expr) (he : e.MultiFree) :
    (evalExpr hosts nested frame scope e).Ensures e.Admits := by
  match e with
  | .literal value _ =>
      rw [evalExpr]
      exact .after fun _ => .pure (.inl he)
  | .variable name _ =>
      rw [evalExpr]
      refine .after fun _ => .pure (.inl ?_)
      cases hfound : scope.get? name with
      | none => rfl
      | some v => exact hscope.get? hfound
  | .paren inner _ =>
      rw [evalExpr]
      exact .after fun _ => ensures_single
        (ensures_evalExpr hhosts hnested hframe hscope inner he)
  | .index obj key loc =>
      rw [evalExpr]
      obtain ⟨hobj, -⟩ := Bool.or_eq_false_iff.mp he
      have hobject := ensures_evalExpr hhosts hnested hframe hscope obj hobj
      refine .after fun _ => hobject.bind fun object hobject => .after fun key => ?_
      exact (ensures_index hframe hobject.isResult.single _ loc _).mono fun _ hv => .inl hv
  | .call fn args loc =>
      rw [evalExpr]
      obtain ⟨-, hargs⟩ := Bool.or_eq_false_iff.mp he
      have hvalues := ensures_evalArgs hhosts hnested hframe hscope args hargs
      refine .after fun _ => .after fun function => hvalues.bind fun values hvalues => ?_
      exact Expr.admits_of_call rfl (ensures_callValue hhosts hnested hframe _ hvalues loc _)
  | .methodCall obj name args loc =>
      rw [evalExpr]
      obtain ⟨hobj, hargs⟩ := Bool.or_eq_false_iff.mp he
      have hobject := ensures_evalExpr hhosts hnested hframe hscope obj hobj
      have hvalues := ensures_evalArgs hhosts hnested hframe hscope args hargs
      refine .after fun _ => hobject.bind fun object hobject => .after fun function => ?_
      refine hvalues.bind fun values hvalues => Expr.admits_of_call rfl ?_
      exact ensures_callValue hhosts hnested hframe _
        (List.forall_mem_cons.mpr ⟨hobject.isResult.single, hvalues⟩) loc _
  | .logical op left right _ =>
      rw [evalExpr]
      obtain ⟨hleft, hright⟩ := Bool.or_eq_false_iff.mp he
      have hfirst := ensures_evalExpr hhosts hnested hframe hscope left hleft
      have hsecond := ensures_evalExpr hhosts hnested hframe hscope right hright
      refine .after fun _ => hfirst.bind fun first hfirst => ?_
      cases op with
      | and | or | unknown spelling =>
          dsimp only
          split
          · first | exact ensures_single hsecond | exact .pure (.inl hfirst.isResult.single)
          · first | exact ensures_single hsecond | exact .pure (.inl hfirst.isResult.single)
  | .binary op left right loc =>
      rw [evalExpr]
      exact .after fun _ => .after fun a => .after fun b =>
        ensures_plain (Operators.givesPlain_binary frame loc op a.single b.single)
  | .unary op operand loc =>
      rw [evalExpr]
      exact .after fun _ => .after fun v =>
        ensures_plain (Operators.givesPlain_unary frame loc op v.single operand.subject)
  | .tableConstructor fields _ =>
      rw [evalExpr]
      have hslots := ensures_evalFields hhosts hnested hframe hscope fields he
        (List.forall_mem_nil _) 1
      exact .after fun _ => hslots.bind fun slots hslots =>
        (ensures_newTable hslots).mono fun _ hv => .inl hv
  | .bare _ =>
      rw [evalExpr]
      exact .after fun _ => .throw _

theorem ensures_evalArgs (hhosts : hosts.MultiFree) (hnested : nested.MultiFree)
    (hframe : frame.MultiFree) (hscope : scope.MultiFree) (es : List Expr)
    (hes : exprsHaveMulti es = false) :
    (evalArgs hosts nested frame scope es).Ensures fun values => ∀ v ∈ values, v.MultiFree := by
  match es with
  | [] =>
      rw [evalArgs]
      exact .pure (List.forall_mem_nil _)
  | arg :: rest =>
      rw [evalArgs_cons_eq]
      obtain ⟨harg, hrest⟩ := Bool.or_eq_false_iff.mp hes
      have hvalue := ensures_evalExpr hhosts hnested hframe hscope arg harg
      have hvalues := ensures_evalArgs hhosts hnested hframe hscope rest hrest
      refine hvalue.bind fun value hvalue => hvalues.bind fun values hvalues => .pure ?_
      exact List.forall_mem_append.mpr ⟨hvalue.isResult.spread rest.isEmpty, hvalues⟩

theorem ensures_evalFields (hhosts : hosts.MultiFree) (hnested : nested.MultiFree)
    (hframe : frame.MultiFree) (hscope : scope.MultiFree) (fields : List (Option Expr × Expr))
    (hfields : fieldsHaveMulti fields = false) {slots : Slots}
    (hslots : slots.All Value.MultiFree) (position : Nat) :
    (evalFields hosts nested frame scope fields slots position).Ensures
      (Slots.All Value.MultiFree) := by
  match fields with
  | [] =>
      rw [evalFields]
      exact .pure hslots
  | (none, e) :: rest =>
      rw [evalFields_positional]
      obtain ⟨he, hrest⟩ := Bool.or_eq_false_iff.mp hfields
      have hvalue := ensures_evalExpr hhosts hnested hframe hscope e he
      refine hvalue.bind fun value hvalue => ?_
      refine .bind (p := Slots.All Value.MultiFree) (.liftTable fun assigned h => ?_)
        fun assigned hassigned => ?_
      · exact all_assignPositions Value.inherited_multiFree hslots
          (hvalue.isResult.spread rest.isEmpty) h
      · exact ensures_evalFields hhosts hnested hframe hscope rest hrest hassigned (position + 1)
  | (some key, e) :: rest =>
      rw [evalFields]
      obtain ⟨hboth, hrest⟩ := Bool.or_eq_false_iff.mp hfields
      obtain ⟨hkey, he⟩ := Bool.or_eq_false_iff.mp hboth
      have hvalue := ensures_evalExpr hhosts hnested hframe hscope e he
      have hkeyValue := ensures_evalExpr hhosts hnested hframe hscope key hkey
      refine hvalue.bind fun value hvalue => hkeyValue.bind fun keyValue hkeyValue => ?_
      have hassign : (assignField frame slots keyValue.single value.single key.loc :
          Eval σ Slots).Ensures (Slots.All Value.MultiFree) :=
        ensures_assignField frame hslots hkeyValue.isResult.single hvalue.isResult.single key.loc
      exact hassign.bind fun assigned hassigned =>
        ensures_evalFields hhosts hnested hframe hscope rest hrest hassigned position

end

/-! ### Texts and nested evaluations -/

theorem all_openedScope {augmentation : Value} {bindings : Bindings} (hframe : frame.MultiFree)
    (haugmentation : augmentation.MultiFree)
    (hscope : createScope frame augmentation = .ok bindings) :
    ScopeChain.MultiFree [bindings, frame.globals.getD []] :=
  List.forall_mem_cons.mpr
    ⟨all_createScope Value.inherited_multiFree haugmentation hscope,
      List.forall_mem_singleton.mpr hframe.getD_globals⟩

theorem ensures_evalParsed (hhosts : hosts.MultiFree) (hnested : nested.MultiFree)
    (hframe : frame.MultiFree) {parsed augmentation : Value} (hparsed : parsed.MultiFree)
    (haugmentation : augmentation.MultiFree) :
    (evalParsed hosts nested frame parsed augmentation).Ensures Value.MultiFree := by
  cases parsed with
  | expression e =>
      have hscope : (Eval.liftFault (createScope frame augmentation) : Eval σ Bindings).Ensures
          fun bindings => ScopeChain.MultiFree [bindings, frame.globals.getD []] :=
        .liftFault fun _ h => all_openedScope hframe haugmentation h
      refine hscope.bind fun bindings hscope => ?_
      refine (ensures_evalExpr hhosts hnested hframe hscope e hparsed).bind fun v hv => .pure ?_
      exact Value.inherited_multiFree.toHost hv.isResult.single
  | _ => exact .throw _

end

theorem multiFree_nestedTo {hosts : HostFunctions σ} (hhosts : hosts.MultiFree) (depth : Nat) :
    (nestedTo hosts depth).MultiFree := by
  induction depth with
  | zero => exact ⟨fun _ _ _ => .throw _, fun _ _ _ => .throw _⟩
  | succ depth ih =>
      refine ⟨fun hframe hparsed haugmentation => ?_, fun _ _ _ => .after fun _ => .pure rfl⟩
      exact ensures_evalParsed hhosts ih hframe hparsed haugmentation

/-- The global environment of a runner is free of several results. -/
def Runner.MultiFree (runner : Runner) : Prop :=
  ∀ globals ∈ runner.globals, globals.All Value.MultiFree

theorem Runner.ensures_evaluate {hosts : HostFunctions σ} (hhosts : hosts.MultiFree)
    {runner : Runner} (hrunner : runner.MultiFree) (source : Value) {augmentation : Value}
    (haugmentation : augmentation.MultiFree) :
    (runner.evaluate hosts source augmentation).Ensures Value.MultiFree := by
  have hnested : (nestedTo hosts nestingLimit).MultiFree := multiFree_nestedTo hhosts nestingLimit
  have hframe : (runner.frame source.string?).MultiFree := hrunner
  have hparse : (Eval.liftFault (parseValue source) : Eval σ Expr).Ensures Expr.MultiFree :=
    .liftFault fun e he => multiFree_of_parseValue he
  refine .tryCatch (hparse.bind fun e he => ?_) fun fault => .throw _
  exact ensures_evalParsed hhosts hnested hframe he haugmentation

end TemplateScript
