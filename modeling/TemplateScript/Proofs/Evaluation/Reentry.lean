import TemplateScript.Proofs.Evaluation.Augmentation
import TemplateScript.Proofs.Evaluation.Cancellation
import TemplateScript.Proofs.Evaluation.Mirroring
import TemplateScript.Proofs.Evaluation.Nesting

/-!
# Evaluations that scripts start

A script fills a template, or evaluates an expression that it has parsed, by a call of the library,
and hands over an augmentation. In there names are looked up in that augmentation and in the global
environment, so the scope of the call takes no part, and the call comes to what a runner comes to
that is asked directly. It starts one level further down than the runner would. That shows only
where evaluations start each other as deep as they may.
-/

namespace TemplateScript

variable {σ α : Type}

/-! ### Ends of evaluations -/

/-- The same value in the same world, or a fault each. -/
inductive SameEnd : Except Fault α × World σ → Except Fault α × World σ → Prop
  | value (a : α) (w : World σ) : SameEnd (.ok a, w) (.ok a, w)
  | faults (fault fault' : Fault) (w w' : World σ) : SameEnd (.error fault, w) (.error fault', w')

/-- An evaluation that failed because it got too deep. -/
def EndsTooDeep (ended : Except Fault α × World σ) : Prop :=
  ∃ fault w, ended = (.error fault, w) ∧ fault.TooDeep

namespace Eval.Mirrors

variable {cut : Prop} {x y : Eval σ α}

theorem sameEnd (h : Mirrors cut x y) (w : World σ) :
    SameEnd (x.run w) (y.run w) ∨ cut ∧ EndsTooDeep (x.run w) := by
  rcases hx : x.run w with ⟨fault | a, w'⟩
  · refine (h.error hx).imp ?_ fun ⟨hcut, hdeep⟩ => ⟨hcut, fault, w', rfl, hdeep⟩
    rintro ⟨fault', w'', hy⟩
    rw [hy]
    exact .faults fault fault' w' w''
  · rw [h.ok hx]
    exact .inl (.value a w')

/-- Faults of the first program only are replaced. -/
theorem rethrow_left {handler : Fault → Eval σ α} (outer : Fault → Fault) (h : Mirrors cut x y)
    (hhandler : ∀ fault, handler fault = MonadExcept.throw (outer fault))
    (houter : ∀ fault, fault.TooDeep → (outer fault).TooDeep) :
    Mirrors cut (tryCatch x handler) y := by
  have hsame : tryCatch y MonadExcept.throw = y := by
    refine Faulting.ext fun w => ?_
    rw [Faulting.run_tryCatch]
    rcases y.run w with ⟨fault | a, w'⟩ <;> rfl
  rw [← hsame]
  exact h.rethrow outer id hhandler (fun _ => rfl) houter

end Eval.Mirrors

/-! ### Calls of the library -/

/-- A call of a member by its name in the table of the library. -/
inductive Expr.CallsMember (m : FramedMember) (args : List Expr) : Expr → Prop
  | byName (loc loc₁ loc₂ loc₃ : Option Location) :
      CallsMember m args (.call (.index (.variable "splice" loc₁)
        (.literal (.str (Member.framed m).name) loc₂) loc₃) args loc)

section

variable {hosts : HostFunctions σ} {nested : Nested σ} {frame : Frame} {scope : ScopeChain}
  {home id : Nat} {m : FramedMember} {args : List Expr} {values : List Value} {w w' : World σ}

theorem run_evalExpr_of_cancelled {reason : String} (hw : w.cancellation = some reason)
    (e : Expr) : (evalExpr hosts nested frame scope e).run w =
      (.error (.runtime (.cancelled reason) .cancelled frame.source none), w) := by
  -- every expression asks first
  cases e <;> rw [evalExpr] <;>
    exact Faulting.run_bind_of_error (Eval.run_checkCancelled_of_some hw)

theorem cancellation_of_evalExpr {e : Expr} {v : Value}
    (h : (evalExpr hosts nested frame scope e).run w = (.ok v, w')) : w.cancellation = none := by
  cases hw : w.cancellation with
  | none => rfl
  | some reason =>
      rw [run_evalExpr_of_cancelled hw] at h
      cases h

theorem cancellation_of_evalArgs {v : Value}
    (h : (evalArgs hosts nested frame scope args).run w = (.ok (v :: values), w')) :
    w.cancellation = none := by
  cases args with
  | nil => cases h
  | cons arg rest =>
      obtain ⟨_, _, hfirst, _⟩ := Faulting.run_bind_eq_ok.mp h
      exact cancellation_of_evalExpr hfirst

theorem run_memberFunction (hw : w.cancellation = none)
    (hscope : scope.get? "splice" = some (Library.splice.asTable home id))
    (loc₁ loc₂ loc₃ : Option Location) :
    (evalExpr hosts nested frame scope (.index (.variable "splice" loc₁)
      (.literal (.str (Member.framed m).name) loc₂) loc₃)).run w =
        (.ok (.function (.member (.framed m) home)), w) := by
  have hcheck : (Eval.checkCancelled frame).run w = (.ok (), w) :=
    Eval.run_checkCancelled_of_none hw
  have htable : (evalExpr hosts nested frame scope (.variable "splice" loc₁)).run w =
      (.ok (Library.splice.asTable home id), w) := by
    rw [evalExpr, Faulting.run_bind_of_ok hcheck, hscope]
    rfl
  have hname : (evalExpr hosts nested frame scope (.literal (.str (Member.framed m).name)
      loc₂)).run w = (.ok (.str (Member.framed m).name), w) := by
    rw [evalExpr, Faulting.run_bind_of_ok hcheck]
    rfl
  rw [evalExpr, Faulting.run_bind_of_ok hcheck, Faulting.run_bind_of_ok htable,
    Faulting.run_bind_of_ok hname]
  cases m <;> rfl

theorem evalArgs_cons (arg next : Expr) (rest : List Expr) :
    evalArgs hosts nested frame scope (arg :: next :: rest) = (do
      let value ← evalExpr hosts nested frame scope arg
      let values ← evalArgs hosts nested frame scope (next :: rest)
      return value.single :: values) := by
  rw [evalArgs]
  rfl

/-- Where the table is in scope, a call comes to what the function comes to, and the scope matters
to its arguments alone. -/
theorem run_callsMember {call : Expr} (hcall : call.CallsMember m args) :
    ∃ loc subject, ∀ (scope : ScopeChain) (w : World σ), w.cancellation = none →
      scope.get? "splice" = some (Library.splice.asTable home id) →
      (evalExpr hosts nested frame scope call).run w =
        (evalArgs hosts nested frame scope args >>= fun values =>
          callValue hosts nested frame (.function (.member (.framed m) home)) values loc
            subject).run w := by
  obtain ⟨loc, loc₁, loc₂, loc₃⟩ := hcall
  refine ⟨loc, (Expr.index (.variable "splice" loc₁) (.literal (.str (Member.framed m).name) loc₂)
    loc₃).subject, fun scope w hw hscope => ?_⟩
  rw [evalExpr, Faulting.run_bind_of_ok (Eval.run_checkCancelled_of_none hw),
    Faulting.run_bind_of_ok (run_memberFunction hw hscope loc₁ loc₂ loc₃)]
  rfl

theorem run_parseCall {e : Value} {globals : Bindings} (hglobals : frame.globals = some globals)
    (loc : Option Location) (subject : Subject) (w : World σ) :
    (callValue hosts nested frame (.function (.member (.framed .parseExpression) home)) [e] loc
      subject).run w =
        (((parseValue e).map Value.expression).mapError (frame.attributed
          (.member (.framed .parseExpression) home) loc), w) := by
  have hrun : (FramedMember.parseExpression.run nested frame [e]).run w =
      ((parseValue e).map Value.expression, w) := by
    simp only [FramedMember.run, Eval.globals, hglobals]
    change (Eval.liftFault (parseValue e) >>= fun e => pure (Value.expression e)).run w = _
    cases parseValue e <;> rfl
  rw [callValue_function, run_framed_of_count rfl, Faulting.run_tryCatch, hrun]
  cases parseValue e <;> rfl

/-- A call that parses a text gives its expression, or fails for it in every scope alike. -/
theorem run_parsesText {parse : Expr} {text : Value} {globals : Bindings}
    (hparse : parse.CallsMember .parseExpression args) (hglobals : frame.globals = some globals) :
    ∃ loc, ∀ (scope : ScopeChain) (w w₁ : World σ),
      scope.get? "splice" = some (Library.splice.asTable home id) →
      (evalArgs hosts nested frame scope args).run w = (.ok [text], w₁) →
      (evalExpr hosts nested frame scope parse).run w =
        (((parseValue text).map Value.expression).mapError (frame.attributed
          (.member (.framed .parseExpression) home) loc), w₁) := by
  obtain ⟨loc, subject, hrun⟩ := run_callsMember hparse
  refine ⟨loc, fun scope w w₁ hscope hargs => ?_⟩
  rw [hrun scope w (cancellation_of_evalArgs hargs) hscope, Faulting.run_bind_of_ok hargs]
  exact run_parseCall hglobals loc subject w₁

end

/-! ### A runner with less depth -/

namespace Runner

variable (runner : Runner) (hosts : HostFunctions σ) (depth : Nat)

/-- What `evaluate` does where evaluations start each other up to a depth. -/
def evaluateTo (source augmentation : Value) : Eval σ Value :=
  tryCatch
    (evalSource hosts (nestedTo hosts depth) (runner.frame source.string?) source augmentation)
    fun fault => throw (.ofSource source fault)

/-- What `interpolate` does where evaluations start each other up to a depth. -/
def interpolateTo (template augmentation : Value) : Eval σ String :=
  TemplateScript.interpolate hosts (nestedTo hosts depth) runner.concurrent (runner.frame none)
    template augmentation

theorem evaluateTo_nestingLimit :
    runner.evaluateTo hosts nestingLimit = runner.evaluate hosts := rfl

theorem interpolateTo_nestingLimit :
    runner.interpolateTo hosts nestingLimit = runner.interpolate hosts := rfl

/-- A text that does not parse is refused at any depth. -/
theorem sameEnd_of_parse {text : Value} {fault : Fault} (hparse : parseValue text = .error fault)
    (augmentation : Value) (w : World σ) (other : Fault) (w' : World σ) :
    SameEnd (.error other, w') ((runner.evaluateTo hosts depth text augmentation).run w) := by
  rw [evaluateTo, evalSource, hparse]
  exact .faults other _ w' w

variable {depth} {depth' : Nat} (h : depth ≤ depth') (source : Option String) (home : Nat)
  (loc : Option Location) (subject : Subject)
include h

theorem mirrors_interpolateCall (template augmentation : Value) :
    Eval.Mirrors (depth < depth')
      (callValue hosts (nestedTo hosts (depth + 1)) (runner.frame source)
        (.function (.member (.framed .interpolate) home)) [template, augmentation] loc subject)
      (Value.str <$> runner.interpolateTo hosts depth' template augmentation) := by
  rw [callValue_function, run_framed_of_count rfl]
  refine .rethrow_left _ ?_ (fun _ => rfl) fun _ hdeep => hdeep.attributed ..
  exact .map Value.str (mirrors_interpolate (runner.frame source) none
    (mirrors_nestedTo hosts h) runner.concurrent template augmentation)

theorem mirrors_evaluateCall {text augmentation : Value} {e : Expr} {globals : Bindings}
    (hglobals : runner.globals = some globals) (hparse : parseValue text = .ok e) :
    Eval.Mirrors (depth < depth')
      (callValue hosts (nestedTo hosts (depth + 1)) (runner.frame source)
        (.function (.member (.framed .evalExpression) home)) [.expression e, augmentation] loc
        subject)
      (runner.evaluateTo hosts depth' text augmentation) := by
  have hglobals : (runner.frame source).globals = some globals := hglobals
  rw [callValue_function, run_framed_of_count rfl, evaluateTo, evalSource, hparse,
    Eval.liftFault_ok, pure_bind]
  refine .rethrow _ (.ofSource text) ?_ (fun _ => rfl) (fun _ => rfl)
    fun _ hdeep => hdeep.attributed ..
  simp only [FramedMember.run, Eval.globals, hglobals]
  exact mirrors_parsed (runner.frame source) text.string? (mirrors_nestedTo hosts h)
    (.expression e) augmentation

end Runner

/-! ### Cancelled worlds -/

namespace Runner

variable (runner : Runner) (hosts : HostFunctions σ) {w : World σ} {reason : String}
  (hw : w.cancellation = some reason)
include hw

theorem interpolate_fails_of_cancelled {globals : Bindings}
    (hglobals : runner.globals = some globals) (template augmentation : Value) :
    ∃ fault, (runner.interpolate hosts template augmentation).Fails w fault := by
  have hglobals : (runner.frame none).globals = some globals := hglobals
  obtain ⟨fault, w', hfails⟩ : ∃ fault, (TemplateScript.interpolate hosts
      (nestedTo hosts nestingLimit) false (runner.frame none) template augmentation).Fails w
        fault := by
    cases hparse : parseTemplate template with
    | error fault => exact fails_interpolate hglobals hparse w
    | ok tree =>
        cases template with
        | str text => exact ⟨_, _, interpolate_of_cancelled_world hglobals hw text⟩
        | _ => cases hparse
  rcases (interpolate_agree hosts (nestedTo hosts nestingLimit) runner.concurrent
    (runner.frame none) template augmentation).run_cases w with ⟨_, _, hrun, _⟩ | ⟨_, _, _, _, hrun⟩
  · rw [hfails] at hrun
    cases hrun
  · exact ⟨_, _, hrun⟩

theorem evaluate_fails_of_cancelled (text augmentation : Value) :
    ∃ fault, (runner.evaluate hosts text augmentation).Fails w fault := by
  obtain ⟨fault, w', hfails⟩ : ∃ fault, (evalSource hosts (nestedTo hosts nestingLimit)
      (runner.frame text.string?) text augmentation).Fails w fault := by
    rw [evalSource]
    cases parseValue text with
    | error fault => exact ⟨fault, w, rfl⟩
    | ok e =>
        rw [Eval.liftFault_ok, pure_bind, evalParsed]
        cases createScope (runner.frame text.string?) augmentation with
        | error fault => exact ⟨fault, w, rfl⟩
        | ok bindings =>
            rw [Eval.liftFault_ok, pure_bind]
            exact ⟨_, .first ⟨w, run_evalExpr_of_cancelled hw e⟩⟩
  refine ⟨.ofSource text fault, w', ?_⟩
  rw [evaluate, Faulting.run_tryCatch, hfails]
  rfl

end Runner

/-! ### What the scope of a call does not matter to -/

/-- The scope in which a runner evaluates with an augmentation, where that does not bind the name
of the library's table. -/
inductive Runner.Opens (runner : Runner) (augmentation : Value) : ScopeChain → Prop
  | scope {globals bindings : Bindings} (hglobals : runner.globals = some globals)
      (hbindings : createScope (runner.frame none) augmentation = .ok bindings)
      (hfree : bindings.get? "splice" = none) : Opens runner augmentation [bindings, globals]

theorem Runner.Opens.get?_splice {runner : Runner} {augmentation : Value} {scope : ScopeChain}
    {globals : Bindings} (h : runner.Opens augmentation scope)
    (hglobals : runner.globals = some globals) :
    scope.get? "splice" = globals.get? "splice" := by
  obtain ⟨hown, _, hfree⟩ := h
  rw [ScopeChain.get?_pair, hfree, Option.none_or, Option.some.inj (hown.symm.trans hglobals)]

section

variable {runner : Runner} {hosts : HostFunctions σ} {globals : Bindings} {home id : Nat}
  {source : Option String} {depth : Nat} {scopes : List ScopeChain}

/-- Where the runner itself would get deeper, a call may be too deep. -/
theorem ends_of_mirrors {x : Eval σ α} {top : Nat → Eval σ α}
    (h : ∀ depth', depth ≤ depth' → Eval.Mirrors (depth < depth') x (top depth')) (w : World σ) :
    SameEnd (x.run w) ((top depth).run w) ∧
      (depth ≤ nestingLimit →
        SameEnd (x.run w) ((top nestingLimit).run w) ∨ EndsTooDeep (x.run w)) := by
  refine ⟨?_, fun hdepth => ((h nestingLimit hdepth).sameEnd w).imp_right And.right⟩
  exact ((h depth le_rfl).sameEnd w).resolve_right fun ⟨hcut, _⟩ => Nat.lt_irrefl depth hcut

/-- The filling of a template by a script. -/
theorem ends_interpolateCall {call : Expr} {args : List Expr} {template augmentation : Value}
    {w w' : World σ} (hcall : call.CallsMember .interpolate args)
    (hscopes : ∀ scope ∈ scopes,
      scope.get? "splice" = some (Library.splice.asTable home id))
    (hargs : ∀ scope ∈ scopes, (evalArgs hosts (nestedTo hosts (depth + 1)) (runner.frame source)
      scope args).run w = (.ok [template, augmentation], w')) :
    ∃ ended, (∀ scope ∈ scopes, (evalExpr hosts (nestedTo hosts (depth + 1)) (runner.frame source)
        scope call).run w = ended) ∧
      SameEnd ended
        ((Value.str <$> runner.interpolateTo hosts depth template augmentation).run w') ∧
      (depth ≤ nestingLimit →
        SameEnd ended ((Value.str <$> runner.interpolate hosts template augmentation).run w') ∨
          EndsTooDeep ended) := by
  rw [← runner.interpolateTo_nestingLimit]
  obtain ⟨loc, subject, hrun⟩ := run_callsMember hcall
  refine ⟨_, fun scope hscope => ?_, ends_of_mirrors (fun depth' h => runner.mirrors_interpolateCall
    hosts h source home loc subject template augmentation) w'⟩
  have hgiven := hargs scope hscope
  rw [hrun scope w (cancellation_of_evalArgs hgiven) (hscopes scope hscope),
    Faulting.run_bind_of_ok hgiven]

/-- The evaluation of an expression by a script that has parsed it. -/
theorem ends_evaluateCall {call parse rest : Expr} {args : List Expr} {text augmentation : Value}
    {w w₁ w' : World σ} (hglobals : runner.globals = some globals)
    (hparse : parse.CallsMember .parseExpression args)
    (hcall : call.CallsMember .evalExpression [parse, rest])
    (hscopes : ∀ scope ∈ scopes,
      scope.get? "splice" = some (Library.splice.asTable home id))
    (hargs : ∀ scope ∈ scopes, (evalArgs hosts (nestedTo hosts (depth + 1)) (runner.frame source)
      scope args).run w = (.ok [text], w₁))
    (hrest : ∀ scope ∈ scopes, (evalArgs hosts (nestedTo hosts (depth + 1)) (runner.frame source)
      scope [rest]).run w₁ = (.ok [augmentation], w')) :
    ∃ ended, (∀ scope ∈ scopes, (evalExpr hosts (nestedTo hosts (depth + 1)) (runner.frame source)
        scope call).run w = ended) ∧
      SameEnd ended ((runner.evaluateTo hosts depth text augmentation).run w') ∧
      (depth ≤ nestingLimit →
        SameEnd ended ((runner.evaluate hosts text augmentation).run w') ∨ EndsTooDeep ended) := by
  rw [← runner.evaluateTo_nestingLimit]
  obtain ⟨loc, subject, hrun⟩ := run_callsMember hcall
  have hframe : (runner.frame source).globals = some globals := hglobals
  obtain ⟨loc', hparsed⟩ := run_parsesText hparse hframe
  have hw : ∀ scope ∈ scopes, w.cancellation = none := fun scope hscope =>
    cancellation_of_evalArgs (hargs scope hscope)
  cases hvalue : parseValue text with
  | ok e =>
      refine ⟨_, fun scope hscope => ?_, ends_of_mirrors (fun depth' h =>
        runner.mirrors_evaluateCall hosts h source home loc subject hglobals hvalue) w'⟩
      have hfirst := hparsed scope w w₁ (hscopes scope hscope) (hargs scope hscope)
      rw [hvalue] at hfirst
      rw [hrun scope w (hw scope hscope) (hscopes scope hscope), evalArgs_cons, bind_assoc,
        Faulting.run_bind_of_ok hfirst, bind_assoc, Faulting.run_bind_of_ok (hrest scope hscope),
        pure_bind]
      rfl
  | error fault =>
      let refused : Fault := (runner.frame source).attributed
        (.member (.framed .parseExpression) home) loc' fault
      have hrefused (depth' : Nat) :=
        runner.sameEnd_of_parse hosts depth' hvalue augmentation w' refused w₁
      refine ⟨(.error refused, w₁), fun scope hscope => ?_, hrefused depth,
        fun _ => .inl (hrefused nestingLimit)⟩
      have hfirst := hparsed scope w w₁ (hscopes scope hscope) (hargs scope hscope)
      rw [hvalue] at hfirst
      rw [hrun scope w (hw scope hscope) (hscopes scope hscope), evalArgs_cons, bind_assoc,
        Faulting.run_bind_of_error hfirst]

end

/-- Filling a template and evaluating a parsed expression from a script come to the same in the
scopes of any two augmentations that do not bind the name of the library's table. With as much depth
they come to what the runner comes to with the same arguments, and fail where that fails; the runner
itself has more depth, so a call may also have been too deep for its own. In a cancelled world all
of them fail. -/
theorem Runner.nested_calls_scoped (runner : Runner) (hosts : HostFunctions σ) {globals : Bindings}
    {home id : Nat} (hglobals : runner.globals = some globals)
    (hsplice : globals.get? "splice" = some (Library.splice.asTable home id))
    {a₁ a₂ : Value} {scope₁ scope₂ : ScopeChain} (h₁ : runner.Opens a₁ scope₁)
    (h₂ : runner.Opens a₂ scope₂) (depth : Nat) (source : Option String) :
    let frame := runner.frame source
    let nested := nestedTo hosts (depth + 1)
    let Gives (args : List Expr) (w : World σ) (values : List Value) (w' : World σ) : Prop :=
      ∀ scope ∈ [scope₁, scope₂],
        (evalArgs hosts nested frame scope args).run w = (.ok values, w')
    let Comes (call : Expr) (w : World σ) (ended : Except Fault Value × World σ) : Prop :=
      ∀ scope ∈ [scope₁, scope₂], (evalExpr hosts nested frame scope call).run w = ended
    (∀ call args template b w w', call.CallsMember .interpolate args →
      Gives args w [template, b] w' →
      ∃ ended, Comes call w ended ∧
        SameEnd ended ((Value.str <$> runner.interpolateTo hosts depth template b).run w') ∧
        (depth ≤ nestingLimit →
          SameEnd ended ((Value.str <$> runner.interpolate hosts template b).run w') ∨
            EndsTooDeep ended)) ∧
    (∀ call parse rest args e b w w₁ w', parse.CallsMember .parseExpression args →
      call.CallsMember .evalExpression [parse, rest] →
      Gives args w [e] w₁ → Gives [rest] w₁ [b] w' →
      ∃ ended, Comes call w ended ∧ SameEnd ended ((runner.evaluateTo hosts depth e b).run w') ∧
        (depth ≤ nestingLimit →
          SameEnd ended ((runner.evaluate hosts e b).run w') ∨ EndsTooDeep ended)) ∧
    ∀ w reason, w.cancellation = some reason →
      (∀ call, ∃ fault w', Comes call w (.error fault, w')) ∧
      (∀ template b, ∃ fault, (runner.interpolate hosts template b).Fails w fault) ∧
      ∀ e b, ∃ fault, (runner.evaluate hosts e b).Fails w fault := by
  intro frame nested Gives Comes
  have hscopes : ∀ scope ∈ [scope₁, scope₂],
      scope.get? "splice" = some (Library.splice.asTable home id) := by
    intro scope hscope
    rcases List.mem_pair.mp hscope with rfl | rfl
    · exact (h₁.get?_splice hglobals).trans hsplice
    · exact (h₂.get?_splice hglobals).trans hsplice
  refine ⟨fun call args template b w w' hcall hargs => ends_interpolateCall hcall hscopes hargs,
    fun call parse rest args e b w w₁ w' hparse hcall hargs hrest =>
      ends_evaluateCall hglobals hparse hcall hscopes hargs hrest,
    fun w reason hw => ⟨fun call => ?_, fun template b => ?_, fun e b => ?_⟩⟩
  · exact ⟨_, w, fun scope _ => run_evalExpr_of_cancelled hw call⟩
  · exact runner.interpolate_fails_of_cancelled hosts hw hglobals _ _
  · exact runner.evaluate_fails_of_cancelled hosts hw e b

/-- Where `x` is bound to 5 and where it is not, the value of
`splice.evalExpression(splice.parseExpression('x'), {x = 7})` is 7, as the runner's is. -/
theorem Runner.nested_calls_scoped_evaluate :
    let runner : Runner := ⟨some (standardEnvironment 0), none, false⟩
    let hosts : HostFunctions Unit := fun _ _ => throw (.host (.raised .other ""))
    let augmentation : Value := .dict [(.str "x", .ofInt 5)]
    let scope₁ : ScopeChain := [[("_", augmentation), ("x", .ofInt 5)], standardEnvironment 0]
    let scope₂ : ScopeChain := [[], standardEnvironment 0]
    let member (name : String) : Expr :=
      .index (.variable "splice" none) (.literal (.str name) none) none
    let parse : Expr := .call (member "parseExpression") [.literal (.str "x") none] none
    let table : Expr :=
      .tableConstructor [(some (.literal (.str "x") none), .literal (.ofInt 7) none)] none
    let call : Expr := .call (member "evalExpression") [parse, table] none
    let w : World Unit := ⟨none, 4, ()⟩
    let w' : World Unit := ⟨none, 5, ()⟩
    runner.Opens augmentation scope₁ ∧ runner.Opens .nil scope₂ ∧
      (∀ scope ∈ [scope₁, scope₂], (evalExpr hosts (nestedTo hosts 3) (runner.frame none) scope
        call).run w = (.ok (.ofInt 7), w')) ∧
      (runner.evaluate hosts (.str "x") (.table 4 [(.str "x", .ofInt 7)])).run w' =
        (.ok (.ofInt 7), w') := by
  intro runner hosts augmentation scope₁ scope₂ member parse table call w w'
  have h₁ : runner.Opens augmentation scope₁ := .scope rfl rfl rfl
  have h₂ : runner.Opens .nil scope₂ := .scope rfl rfl rfl
  have htext : ∀ scope ∈ [scope₁, scope₂], (evalArgs hosts (nestedTo hosts 3) (runner.frame none)
      scope [.literal (.str "x") none]).run w = (.ok [.str "x"], w) :=
    fun _ _ => rfl
  have htable : ∀ scope ∈ [scope₁, scope₂], (evalArgs hosts (nestedTo hosts 3) (runner.frame none)
      scope [table]).run w = (.ok [.table 4 [(.str "x", .ofInt 7)]], w') :=
    fun _ _ => rfl
  have hown : (runner.evaluateTo hosts 2 (.str "x") (.table 4 [(.str "x", .ofInt 7)])).run w' =
      (.ok (.ofInt 7), w') :=
    rfl
  obtain ⟨ended, hcomes, hsame, _⟩ := (nested_calls_scoped runner hosts rfl rfl h₁ h₂ 2 none).2.1
    call parse table _ _ _ w w w' (.byName none none none none) (.byName none none none none) htext
    htable
  obtain rfl : (.ok (.ofInt 7), w') = ended := by
    rw [hown] at hsame
    cases hsame
    rfl
  exact ⟨h₁, h₂, hcomes, rfl⟩

end TemplateScript
