import TemplateScript.Proofs.Evaluation.Run
import TemplateScript.Runner

/-!
# Evaluation without a global environment

A frame without a global environment is refused before anything is parsed or evaluated, and the
fault is that of the frame, whatever the arguments are. Two ways into an evaluation differ. A
runner that is asked for the value of an expression parses it first, and reports what it finds as
the failure of that expression. A value that should be a parsed expression and is none is refused
as that, before the frame is looked at.
-/

namespace TemplateScript

variable {σ α β : Type}

/-- A program that fails because there is no global environment and does nothing else. -/
def LacksGlobals (x : Eval σ α) : Prop :=
  ∀ w, x.run w = (.error .noGlobals, w)

theorem LacksGlobals.bind {x : Eval σ α} (h : LacksGlobals x) (next : α → Eval σ β) :
    LacksGlobals (x >>= next) := by
  intro w
  exact Faulting.run_bind_of_error (h w)

section

variable {frame : Frame} (hframe : frame.globals = none)
include hframe

theorem createScope_of_none (augmentation : Value) :
    createScope frame augmentation = .error .noGlobals := by
  unfold createScope
  rw [hframe]

theorem lacksGlobals_globals : LacksGlobals (discard (Eval.globals frame) : Eval σ Unit) := by
  intro w
  rw [Eval.globals, hframe]
  rfl

variable (hosts : HostFunctions σ) (nested : Nested σ)

theorem lacksGlobals_evalParsed (e : Expr) (augmentation : Value) :
    LacksGlobals (evalParsed hosts nested frame (.expression e) augmentation) := by
  unfold evalParsed
  refine LacksGlobals.bind ?_ _
  intro w
  rw [createScope_of_none hframe]
  rfl

theorem lacksGlobals_evalToDocument (source augmentation : Value) :
    LacksGlobals (evalToDocument hosts nested frame source augmentation) := by
  rw [evalToDocument]
  exact (lacksGlobals_globals hframe).bind _

theorem lacksGlobals_interpolate (concurrent : Bool) (template augmentation : Value) :
    LacksGlobals (interpolate hosts nested concurrent frame template augmentation) := by
  rw [interpolate]
  exact (lacksGlobals_globals hframe).bind _

/-- The library functions that work in a frame do not ask what their arguments are. -/
theorem lacksGlobals_framedMember (depth : Nat) (m : FramedMember) (args : List Value) :
    LacksGlobals (m.run (nestedTo hosts (depth + 1)) frame args) := by
  cases m with
  | interpolate =>
      -- the one that leaves the question to the evaluation that it starts
      exact (lacksGlobals_interpolate hframe hosts _ _ _ _).bind _
  | _ => exact (lacksGlobals_globals hframe).bind _

/-- The value of a text is asked for without a look at the frame, so that a text that does not parse
is refused first. -/
theorem run_evalSource_of_none (source augmentation : Value) (w : World σ) :
    (evalSource hosts nested frame source augmentation).run w =
      (.error (match parseValue source with
        | .ok _ => .noGlobals
        | .error fault => fault), w) := by
  rw [evalSource]
  cases parseValue source with
  | error fault => rfl
  | ok e =>
      rw [Eval.liftFault_ok, pure_bind]
      exact lacksGlobals_evalParsed hframe hosts nested e augmentation w

/-- Only a parsed expression is evaluated; anything else is refused as none, before the frame is
looked at. -/
theorem run_evalParsed_of_none (parsed augmentation : Value) (w : World σ) :
    (evalParsed hosts nested frame parsed augmentation).run w =
      (.error (match parsed with
        | .expression _ => .noGlobals
        | other => frame.fault (.notExpression other.typeName) none), w) := by
  cases parsed with
  | expression e => exact lacksGlobals_evalParsed hframe hosts nested e augmentation w
  | _ => rfl

end

theorem ofSource_ne_noGlobals (source : Value) (cause : Fault) :
    Fault.ofSource source cause ≠ .noGlobals := by
  intro h
  unfold Fault.ofSource at h
  split at h
  · cases h
  · split at h <;> cases h

/-- Without a global environment every evaluation and every filling fails with that, at once, and so
do the library functions that work in a frame, whatever they are given. There are two exceptions. A
value that is no parsed expression is refused as that. A runner's evaluation of an expression parses
first, and its fault is that of an expression. -/
theorem evaluation_without_globals (hosts : HostFunctions σ) (source location : Option String)
    (augmentation : Value) :
    let frame : Frame := ⟨none, source, location⟩
    createScope frame augmentation = .error .noGlobals ∧
    (∀ nested parsed w, (evalParsed hosts nested frame parsed augmentation).run w =
      (.error (match parsed with
        | .expression _ => .noGlobals
        | other => frame.fault (.notExpression other.typeName) none), w)) ∧
    (∀ nested source, LacksGlobals (evalToDocument hosts nested frame source augmentation)) ∧
    (∀ nested concurrent template,
      LacksGlobals (interpolate hosts nested concurrent frame template augmentation)) ∧
    (∀ depth (m : FramedMember) args,
      LacksGlobals (m.run (nestedTo hosts (depth + 1)) frame args)) ∧
    ∀ concurrent,
      let runner : Runner := ⟨none, location, concurrent⟩
      (∀ template, LacksGlobals (runner.interpolate hosts template augmentation)) ∧
      ∀ expression w, ∃ fault,
        (runner.evaluate hosts expression augmentation).run w = (.error fault, w) ∧
        fault = .ofSource expression
          (match parseValue expression with
            | .ok _ => .noGlobals
            | .error why => why) ∧
        fault ≠ .noGlobals := by
  intro frame
  have hframe : frame.globals = none := rfl
  refine ⟨createScope_of_none hframe augmentation,
    fun nested parsed w => run_evalParsed_of_none hframe hosts nested parsed augmentation w,
    fun nested source => lacksGlobals_evalToDocument hframe hosts nested source augmentation,
    fun nested concurrent template =>
      lacksGlobals_interpolate hframe hosts nested concurrent template augmentation,
    fun depth m args => lacksGlobals_framedMember hframe hosts depth m args, ?_⟩
  intro concurrent runner
  have hrunner (shown : Option String) : (runner.frame shown).globals = none := rfl
  refine ⟨fun template => lacksGlobals_interpolate (hrunner none) hosts _ _ template augmentation,
    fun expression w => ⟨_, ?_, rfl, ofSource_ne_noGlobals _ _⟩⟩
  rw [Runner.evaluate, Faulting.run_tryCatch,
    run_evalSource_of_none (hrunner expression.string?)]
  rfl

/-- A runner without a global environment that is asked for the value of `1` does not say that it
has none, but that the evaluation of `1` failed. -/
theorem evaluate_one_without_globals :
    let runner : Runner := ⟨none, none, false⟩
    let hosts : HostFunctions Unit := fun _ _ => throw (.host (.raised .other ""))
    (runner.evaluate hosts (.str "1") .nil).run ⟨none, 0, ()⟩ =
        (.error (.ofEvaluation "1" .noGlobals), ⟨none, 0, ()⟩) ∧
      ¬ LacksGlobals (runner.evaluate hosts (.str "1") .nil) := by
  intro runner hosts
  have hrun : (runner.evaluate hosts (.str "1") .nil).run ⟨none, 0, ()⟩ =
      (.error (.ofEvaluation "1" .noGlobals), ⟨none, 0, ()⟩) := by
    rw [Runner.evaluate, Faulting.run_tryCatch, run_evalSource_of_none rfl]
    rfl
  refine ⟨hrun, fun h => ?_⟩
  have hfault := (Prod.mk.inj (hrun.symm.trans (h _))).1
  exact ofSource_ne_noGlobals (.str "1") _ (Except.error.inj hfault)

end TemplateScript
