import Mathlib.Logic.Relation
import TemplateScript.Proofs.Evaluation.Filling
import TemplateScript.Proofs.Evaluation.Globals
import TemplateScript.Proofs.Evaluation.Pieces
import TemplateScript.Proofs.Evaluation.Propagation
import TemplateScript.Proofs.Library.Display

/-!
# Faults of nested evaluations

A template starts the evaluation of its expressions, an expression calls functions, and the
functions of the library fill templates and evaluate expressions in turn. Whatever fails in there,
what started it fails too. It adds words in front of the message, as does every evaluation of a text
with the name of the text, or passes the fault on. So the outermost message ends with the innermost
one, and a cancellation stays one. Only what is given as an expression and is no text leaves this
order: its fault carries no text as the expression, and where the host cannot even write it, the
fault is one of the host.
-/

namespace TemplateScript

variable {σ : Type}

/-! ### Evaluations of texts -/

section

variable {hosts : HostFunctions σ} {nested : Nested σ} {frame : Frame} {augmentation : Value}
  {globals : Bindings} {w : World σ} {fault : Fault}

theorem fails_evalToDocument (hglobals : frame.globals = some globals) {source : String} :
    (evalToDocument hosts nested frame (.str source) augmentation).Fails w fault ↔
      ∃ cause, (displayed hosts nested frame augmentation source).Fails w cause ∧
        fault = .ofEvaluation source cause := by
  unfold Eval.Fails
  rw [run_evalToDocument hglobals]
  rcases (displayed hosts nested frame augmentation source).run w with ⟨cause | shown, w'⟩
  · constructor
    · rintro ⟨_, ⟨⟩⟩
      exact ⟨cause, ⟨w', rfl⟩, rfl⟩
    · rintro ⟨_, ⟨_, ⟨⟩⟩, rfl⟩
      exact ⟨w', rfl⟩
  · constructor
    · rintro ⟨_, h⟩
      cases h
    · rintro ⟨_, ⟨_, h⟩, _⟩
      cases h

end

/-! ### Evaluations of other values -/

section

variable {hosts : HostFunctions σ} {nested : Nested σ} {frame : Frame} {augmentation : Value}

end

/-! ### Nested evaluations -/

/-- What may be under way, with the number of evaluations that may still be started one in another:
the filling of a template, the evaluation of a text or of a parsed expression, that of a part of an
expression, and the call of a function. -/
inductive Activity where
  | filling (concurrent : Bool) (depth : Nat) (frame : Frame) (template augmentation : Value)
  | evaluation (depth : Nat) (frame : Frame) (source : String) (augmentation : Value)
  | parsed (depth : Nat) (frame : Frame) (e : Expr) (augmentation : Value)
  | code (depth : Nat) (frame : Frame) (scope : ScopeChain) (part : Code)
  | call (depth : Nat) (frame : Frame) (f : Function) (args : List Value)

namespace Activity

variable (hosts : HostFunctions σ)

def Fails (activity : Activity) (w : World σ) (fault : Fault) : Prop :=
  match activity with
  | .filling concurrent depth frame template augmentation =>
    (interpolate hosts (nestedTo hosts depth) concurrent frame template augmentation).Fails w fault
  | .evaluation depth frame source augmentation =>
    (evalToDocument hosts (nestedTo hosts depth) frame (.str source) augmentation).Fails w fault
  | .parsed depth frame e augmentation =>
    (evalParsed hosts (nestedTo hosts depth) frame (.expression e) augmentation).Fails w fault
  | .code depth frame scope part => part.Fails hosts (nestedTo hosts depth) frame scope w fault
  | .call depth frame f args => (f.run hosts (nestedTo hosts depth) frame args).Fails w fault

/-- An activity starts another one, each in its own world. A template whose parts are filled
together starts all of them; the ones after a part that fails are left out, since their faults do
not count. -/
inductive Starts : Activity × World σ → Activity × World σ → Prop
  | directive {concurrent : Bool} {depth : Nat} {frame : Frame} {template source : String}
      {augmentation : Value} {before after : List Tree} {t : Tree} {out : List Char}
      {w w' : World σ} (hglobals : frame.globals.isSome) (hw : w.cancellation = none)
      (hparts : (parseDocument template.toList).parts = before ++ t :: after)
      (hbefore : Fills hosts (nestedTo hosts depth) frame augmentation w
        (before.map Tree.contribution) out w')
      (hw' : w'.cancellation = none) (hsource : t.contribution = .display source) :
      Starts (filling concurrent depth frame (.str template) augmentation, w)
        (evaluation depth frame source augmentation, w')
  | text {depth : Nat} {frame : Frame} {source : String} {augmentation : Value} {e : Expr}
      {w : World σ} (hglobals : frame.globals.isSome) (hparse : parseExpr source = .ok e) :
      Starts (evaluation depth frame source augmentation, w)
        (parsed depth (frame.child (some source)) e augmentation, w)
  | body {depth : Nat} {frame : Frame} {e : Expr} {augmentation : Value} {bindings : Bindings}
      {w : World σ} (hscope : createScope frame augmentation = .ok bindings) :
      Starts (parsed depth frame e augmentation, w)
        (code depth frame [bindings, frame.globals.getD []] (.expr e), w)
  | part {depth : Nat} {frame : Frame} {scope : ScopeChain} {whole part : Code} {w w' : World σ}
      (h : whole.Enters hosts (nestedTo hosts depth) frame scope w part w') :
      Starts (code depth frame scope whole, w) (code depth frame scope part, w')
  | call {depth : Nat} {frame : Frame} {scope : ScopeChain} {e : Expr} {f : Function}
      {values : List Value} {w w' : World σ}
      (h : e.Calls hosts (nestedTo hosts depth) frame scope w f values w') :
      Starts (code depth frame scope (.expr e), w) (call depth frame f values, w')
  | interpolate {depth home : Nat} {frame : Frame} {args : List Value} {w : World σ}
      (hcount : (Member.framed .interpolate).checkCount args = .ok ()) :
      Starts (call (depth + 1) frame (.member (.framed .interpolate) home) args, w)
        (filling false depth frame (args.getD 0 .nil) (args.getD 1 .nil), w)
  | evalExpression {depth home : Nat} {frame : Frame} {args : List Value} {e : Expr} {w : World σ}
      (hcount : (Member.framed .evalExpression).checkCount args = .ok ())
      (hglobals : frame.globals.isSome) (hparsed : args.getD 0 .nil = .expression e) :
      Starts (call (depth + 1) frame (.member (.framed .evalExpression) home) args, w)
        (parsed depth frame e (args.getD 1 .nil), w)

end Activity

section

variable {hosts : HostFunctions σ} {nested : Nested σ} {frame : Frame} {augmentation : Value}
  {w w' : World σ} {fault : Fault}

/-- The first fault of an expression in a template is the fault of the template, placed at the part
that shows the expression. -/
theorem interpolate_fails_of_part {concurrent : Bool} {template source : String}
    {before after : List Tree} {t : Tree} {out : List Char} (hglobals : frame.globals.isSome)
    (hw : w.cancellation = none)
    (hparts : (parseDocument template.toList).parts = before ++ t :: after)
    (hbefore : Fills hosts nested frame augmentation w (before.map Tree.contribution) out w')
    (hw' : w'.cancellation = none) (hsource : t.contribution = .display source)
    (h : (evalToDocument hosts nested frame (.str source) augmentation).Fails w' fault) :
    (interpolate hosts nested concurrent frame (.str template) augmentation).Fails w
      (t.blame fault) := by
  obtain ⟨globals, hglobals⟩ := Option.isSome_iff_exists.mp hglobals
  obtain ⟨cause, ⟨w'', hcause⟩, rfl⟩ := (fails_evalToDocument hglobals).mp h
  have hrun : (contributedAll hosts nested frame augmentation (before ++ t :: after)).run w =
      (.error (t.blame (.ofEvaluation source cause)), w'') := by
    rw [contributedAll_append, Faulting.run_bind_of_ok (fills_iff.mp hbefore), contributedAll,
      bind_assoc, Faulting.run_bind_of_error (run_contributed_of_fault hw' hsource hcause)]
  have hsequential :
      (interpolate hosts nested false frame (.str template) augmentation).run w =
        (.error (t.blame (.ofEvaluation source cause)), w'') := by
    rw [interpolate_eq hglobals, Faulting.run_bind_of_ok (Eval.run_checkCancelled_of_none hw),
      Faulting.run_map, hparts, hrun]
    rfl
  have hagree := (interpolate_agree hosts nested concurrent frame (.str template) augmentation w).1
  rw [hsequential] at hagree
  exact ⟨((interpolate hosts nested concurrent frame (.str template) augmentation).run w).2,
    Prod.ext hagree.symm rfl⟩

theorem displayed_fails_of_parsed {source : String} {e : Expr} (hparse : parseExpr source = .ok e)
    (h : (evalParsed hosts nested (frame.child (some source)) (.expression e) augmentation).Fails w
      fault) : (displayed hosts nested frame augmentation source).Fails w fault := by
  have hsource : evalSource hosts nested (frame.child (some source)) (.str source) augmentation =
      evalParsed hosts nested (frame.child (some source)) (.expression e) augmentation := by
    rw [evalSource, parseValue, hparse, Eval.liftFault_ok, pure_bind]
  rw [displayed, hsource]
  exact h.first

theorem evalParsed_fails_of_code {e : Expr} {bindings : Bindings}
    (hscope : createScope frame augmentation = .ok bindings)
    (h : (evalExpr hosts nested frame [bindings, frame.globals.getD []] e).Fails w fault) :
    (evalParsed hosts nested frame (.expression e) augmentation).Fails w fault := by
  rw [evalParsed, hscope, Eval.liftFault_ok, pure_bind]
  exact h.first

theorem run_framed_of_count {m : FramedMember} {home : Nat} {args : List Value}
    (hcount : (Member.framed m).checkCount args = .ok ()) :
    Function.run hosts nested frame (.member (.framed m) home) args = m.run nested frame args := by
  unfold Function.run
  simp only [hcount]
  rfl

end

namespace Activity

variable {hosts : HostFunctions σ}

/-- What starts an activity that fails fails with a fault that carries the one of the activity. -/
theorem Starts.fails {outer inner : Activity × World σ} (h : Starts hosts outer inner)
    {fault : Fault} (hinner : inner.1.Fails hosts inner.2 fault) :
    ∃ fault', outer.1.Fails hosts outer.2 fault' ∧ fault'.Carries fault := by
  cases h with
  | @directive _ _ _ _ _ _ _ _ t _ _ _ hglobals hw hparts hbefore hw' hsource =>
      exact ⟨t.blame fault,
        interpolate_fails_of_part hglobals hw hparts hbefore hw' hsource hinner,
        ⟨⟨"", (message_blame t fault).trans String.empty_append.symm⟩, kind_blame t fault⟩⟩
  | text hglobals hparse =>
      obtain ⟨globals, hglobals⟩ := Option.isSome_iff_exists.mp hglobals
      have hshown := displayed_fails_of_parsed hparse hinner
      exact ⟨_, (fails_evalToDocument hglobals).mpr ⟨fault, hshown, rfl⟩, .ofEvaluation _ fault⟩
  | body hscope => exact ⟨fault, evalParsed_fails_of_code hscope hinner, .refl fault⟩
  | part h => exact ⟨fault, h.fails hinner, .refl fault⟩
  | call h => exact ⟨_, h.fails hinner, attributed_carries ..⟩
  | interpolate hcount =>
      refine ⟨fault, ?_, .refl fault⟩
      rw [Fails, run_framed_of_count hcount]
      exact Eval.Fails.first hinner
  | evalExpression hcount hglobals hparsed =>
      obtain ⟨globals, hglobals⟩ := Option.isSome_iff_exists.mp hglobals
      refine ⟨fault, ?_, .refl fault⟩
      rw [Fails, run_framed_of_count hcount]
      simp only [FramedMember.run, Eval.globals, hglobals, hparsed]
      exact hinner

end Activity

/-! ### Faults that leave a template -/

section

variable {hosts : HostFunctions σ} {nested : Nested σ} {frame : Frame} {augmentation : Value}
  {w : World σ} {fault : Fault}

end

/-! ### All of it -/

theorem run_handle (runner : Runner) (hosts : HostFunctions σ) (template augmentation : Value)
    (w : World σ) :
    (runner.handle hosts template augmentation).run w =
      match (runner.interpolate hosts template augmentation).run w with
      | (.ok text, w') => (.success text, w')
      | (.error fault, w') => (.ofFault fault, w') := by
  have hrun : StateT.run (runner.interpolate hosts template augmentation).run w =
      (runner.interpolate hosts template augmentation).run w := rfl
  rw [Runner.handle, StateT.run_bind, hrun]
  rcases (runner.interpolate hosts template augmentation).run w with ⟨fault | text, w'⟩ <;> rfl

end TemplateScript
