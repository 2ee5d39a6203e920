import TemplateScript.Proofs.Evaluation.Chronicle
import TemplateScript.Proofs.Evaluation.Nesting
import TemplateScript.Proofs.Evaluation.Turns

/-!
# The traces of all programs

The trace of each program accounts for its runs: that of an expression by induction over the
expression, that of a filling along the walk of its visits, and those of nested evaluations by
induction over the depth to which evaluations may start each other.
-/

namespace TemplateScript

variable {σ : Type}

open Trace

/-- The traces of nested evaluations account for them. -/
structure Nested.Accounted (hosts : HostFunctions σ) (nested : Nested σ) (traces : NestedTraces σ) :
    Prop where
  evalExpression (frame : Frame) (parsed augmentation : Value) :
    (traces.evalExpression frame parsed augmentation).AccountsFor hosts
      (nested.evalExpression frame parsed augmentation)
  interpolate (frame : Frame) (template augmentation : Value) :
    (traces.interpolate frame template augmentation).AccountsFor hosts
      (nested.interpolate frame template augmentation)

section

variable {hosts : HostFunctions σ} {nested : Nested σ} {traces : NestedTraces σ} {frame : Frame}

/-! ### Calls -/

theorem accountsFor_framed (hnested : nested.Accounted hosts traces) (m : FramedMember)
    (args : List Value) :
    (m.trace traces frame args).AccountsFor hosts (m.run nested frame args) := by
  cases m with
  | parseExpression =>
      refine .ofQuiet (.bind (.globals frame) fun _ => ?_)
      exact .bind (.liftFault _) fun e => .pure _
  | evalExpression =>
      exact .bind (.ofQuiet (.globals frame)) fun _ => hnested.evalExpression frame _ _
  | interpolate => exact hnested.interpolate frame _ _
  | baseUrl =>
      refine .ofQuiet (.bind (.globals frame) fun _ => ?_)
      cases frame.location with
      | none => exact .pure _
      | some location => exact .bind (.liftHost _) fun origin => .pure _

theorem accountsFor_function (hnested : nested.Accounted hosts traces) (f : Function)
    (args : List Value) :
    (f.trace traces frame args).AccountsFor hosts (f.run hosts nested frame args) := by
  cases f with
  | host key name => exact fun w => .called (.refl w) (.done (.refl _))
  | member m home =>
      refine .bind (.ofQuiet (.liftHost _)) fun _ => ?_
      cases m with
      | plain m => exact .ofQuiet (.liftFault _)
      | framed m => exact accountsFor_framed hnested m args

theorem accountsFor_call (hnested : nested.Accounted hosts traces) (fn : Value) (args : List Value)
    (loc : Option Location) (subject : Subject) :
    (callTrace traces frame fn args).AccountsFor hosts
      (callValue hosts nested frame fn args loc subject) := by
  cases fn with
  | function f =>
      refine .rethrow (frame.attributed f loc) (accountsFor_function hnested f args)
        (fun fault => ?_) fun fault => ?_
      · cases fault <;> rfl
      · exact (attributed_carries frame f loc fault).2
  | _ => exact .ofQuiet (.throw _)

/-! ### Expressions -/

variable {scope : ScopeChain}

mutual

theorem accountsFor_expr (hnested : nested.Accounted hosts traces) (e : Expr) :
    (exprTrace hosts nested traces frame scope e).AccountsFor hosts
      (evalExpr hosts nested frame scope e) := by
  match e with
  | .literal value loc =>
      rw [exprTrace, evalExpr]
      exact .entering (fun _ => ⟨rfl, rfl⟩) (.ofQuiet (.pure _))
  | .variable name loc =>
      rw [exprTrace, evalExpr]
      exact .entering (fun _ => ⟨rfl, rfl⟩) (.ofQuiet (.pure _))
  | .paren inner loc =>
      rw [exprTrace, evalExpr]
      exact .entering (fun _ => ⟨rfl, rfl⟩)
        ((accountsFor_expr hnested inner).bindQuiet fun _ => .pure _)
  | .index obj key loc =>
      rw [exprTrace, evalExpr]
      refine .entering (fun _ => ⟨rfl, rfl⟩) ?_
      refine .bind (accountsFor_expr hnested obj) fun object => ?_
      exact (accountsFor_expr hnested key).bindQuiet fun _ => .liftFault _
  | .call fn args loc =>
      rw [exprTrace, evalExpr]
      refine .entering (fun _ => ⟨rfl, rfl⟩) ?_
      refine .bind (accountsFor_expr hnested fn) fun function => ?_
      exact .bind (accountsFor_args hnested args) fun values => accountsFor_call hnested _ _ _ _
  | .methodCall obj name args loc =>
      rw [exprTrace, evalExpr]
      refine .entering (fun _ => ⟨rfl, rfl⟩) ?_
      refine .bind (accountsFor_expr hnested obj) fun object => ?_
      refine .bind (.ofQuiet (.liftFault _)) fun function => ?_
      exact .bind (accountsFor_args hnested args) fun values => accountsFor_call hnested _ _ _ _
  | .logical op left right loc =>
      rw [exprTrace, evalExpr]
      refine .entering (fun _ => ⟨rfl, rfl⟩) ?_
      refine .bind (accountsFor_expr hnested left) fun first => ?_
      have hright := (accountsFor_expr hnested right).bindQuiet
        fun value => Eval.IsQuiet.pure value.single
      have hleft : silent.AccountsFor hosts (pure first.single : Eval σ Value) :=
        .ofQuiet (.pure _)
      cases op with
      | and | or | unknown spelling =>
          by_cases htruthy : first.single.isTruthy
          · simp only [htruthy, if_true]
            first | exact hright | exact hleft
          · simp only [htruthy]
            first | exact hright | exact hleft
  | .binary op left right loc =>
      rw [exprTrace, evalExpr]
      refine .entering (fun _ => ⟨rfl, rfl⟩) ?_
      refine .bind (accountsFor_expr hnested left) fun first => ?_
      exact (accountsFor_expr hnested right).bindQuiet fun _ => .liftFault _
  | .unary op operand loc =>
      rw [exprTrace, evalExpr]
      exact .entering (fun _ => ⟨rfl, rfl⟩)
        ((accountsFor_expr hnested operand).bindQuiet fun _ => .liftFault _)
  | .tableConstructor fields loc =>
      rw [exprTrace, evalExpr]
      exact .entering (fun _ => ⟨rfl, rfl⟩)
        ((accountsFor_fields hnested fields [] 1).bindQuiet fun _ => .newTable _)
  | .bare loc =>
      rw [exprTrace, evalExpr]
      exact .entering (fun _ => ⟨rfl, rfl⟩) (.ofQuiet (.throw _))

theorem accountsFor_args (hnested : nested.Accounted hosts traces) (es : List Expr) :
    (argsTrace hosts nested traces frame scope es).AccountsFor hosts
      (evalArgs hosts nested frame scope es) := by
  match es with
  | [] =>
      rw [argsTrace, evalArgs]
      exact .ofQuiet (.pure _)
  | arg :: rest =>
      rw [argsTrace, evalArgs]
      refine .bind (accountsFor_expr hnested arg) fun value => ?_
      cases rest with
      | nil =>
          rw [argsTrace]
          refine .ofQuiet ?_
          cases value <;> exact .pure _
      | cons next others =>
          exact (accountsFor_args hnested (next :: others)).bindQuiet fun _ => .pure _

theorem accountsFor_fields (hnested : nested.Accounted hosts traces)
    (fields : List (Option Expr × Expr)) (slots : Slots) (position : Nat) :
    (fieldsTrace hosts nested traces frame scope fields slots position).AccountsFor hosts
      (evalFields hosts nested frame scope fields slots position) := by
  match fields with
  | [] =>
      rw [fieldsTrace, evalFields]
      exact .ofQuiet (.pure _)
  | (none, e) :: rest =>
      rw [fieldsTrace, evalFields]
      refine .bind (accountsFor_expr hnested e) fun value => ?_
      exact .bind (.ofQuiet (.liftTable _)) fun slots => accountsFor_fields hnested rest slots _
  | (some key, e) :: rest =>
      rw [fieldsTrace, evalFields]
      refine .bind (accountsFor_expr hnested e) fun value => ?_
      refine .bind (accountsFor_expr hnested key) fun keyValue => ?_
      refine .bind (.ofQuiet (.assignField _ _ _ _ _)) fun slots => ?_
      exact accountsFor_fields hnested rest slots position

end

/-! ### Texts and templates -/

theorem accountsFor_parsed (hnested : nested.Accounted hosts traces) (parsed augmentation : Value) :
    (parsedTrace hosts nested traces frame parsed augmentation).AccountsFor hosts
      (evalParsed hosts nested frame parsed augmentation) := by
  cases parsed with
  | expression e =>
      refine .bind (.ofQuiet (.liftFault _)) fun bindings => ?_
      exact (accountsFor_expr hnested e).bindQuiet fun value => .pure _
  | _ => exact .ofQuiet (.throw _)

theorem accountsFor_source (hnested : nested.Accounted hosts traces) (source augmentation : Value) :
    (sourceTrace hosts nested traces frame source augmentation).AccountsFor hosts
      (evalSource hosts nested frame source augmentation) :=
  .bind (.ofQuiet (.liftFault _)) fun e => accountsFor_parsed hnested (.expression e) augmentation

theorem accountsFor_site (hnested : nested.Accounted hosts traces) (source : String)
    (augmentation : Value) :
    (siteTrace hosts nested traces frame source augmentation).AccountsFor hosts
      (evalToDocument hosts nested frame (.str source) augmentation) := by
  refine .bind (.ofQuiet (.globals frame)) fun _ => ?_
  refine .rethrow (.ofEvaluation source) ?_ (fun fault => rfl) fun fault => rfl
  refine (accountsFor_source hnested (.str source) augmentation).bindQuiet fun value => ?_
  exact .bind (.liftHost _) fun shown => .pure _

theorem accountsFor_visit (hnested : nested.Accounted hosts traces) (augmentation : Value)
    (t : Tree) :
    (visitTrace hosts nested traces frame augmentation t).AccountsFor hosts
      (visitNode hosts nested frame augmentation t) := by
  refine .entering (fun _ => ⟨rfl, rfl⟩) ?_
  cases hspliced : t.spliced? with
  | none =>
      refine .ofQuiet ?_
      split
      · exact .pure _
      · exact .pure _
  | some source =>
      have hescape : ¬(t.kind = some "Escape" && t.render = ['\\', '$']) = true := by
        intro h
        simp [Tree.spliced?, (by simpa using h : _ ∧ _).1] at hspliced
      rw [if_neg hescape]
      refine .rethrow t.blame ?_ (fun fault => rfl) fun fault => kind_blame t fault
      exact (accountsFor_site hnested source augmentation).bindQuiet fun tree => .pure _

/-- The traces of the visits of a walk account for it. -/
theorem chronicle_walk (hnested : nested.Accounted hosts traces) (augmentation : Value)
    (nodes : List Tree) (w : World σ) :
    let walk := Tree.walk (visitor hosts nested frame augmentation) nodes w
    Chronicle hosts w
      (walk.visits.flatMap fun (t, w) => visitTrace hosts nested traces frame augmentation t w)
      (faultOf walk.outcome) walk.left := by
  induction nodes generalizing w with
  | nil => exact .done (.refl w)
  | cons t rest ih =>
      have hvisit : Chronicle hosts w (visitTrace hosts nested traces frame augmentation t w)
          (faultOf (visitor hosts nested frame augmentation t w).1)
          (visitor hosts nested frame augmentation t w).2 :=
        accountsFor_visit hnested augmentation t w
      intro walk
      rcases hrun : visitor hosts nested frame augmentation t w with ⟨fault | answer, w₁⟩
      · rw [hrun] at hvisit
        have hwalk : walk = _ := Tree.walk_cons_of_error hrun rest
        rw [hwalk, List.flatMap_singleton]
        exact hvisit
      · rw [hrun] at hvisit
        have hwalk : walk = _ := Tree.walk_cons_of_ok hrun rest
        rw [hwalk]
        exact hvisit.append (ih w₁)

theorem accountsFor_fill (hnested : nested.Accounted hosts traces) (augmentation : Value)
    (tree : Tree) :
    (fillTrace hosts nested traces frame augmentation tree).AccountsFor hosts
      (tree.edited (visitor hosts nested frame augmentation)) := by
  intro w
  have hfollows := follows_visitor hosts nested frame augmentation
  have hends := Tree.edited_endsAs hfollows tree w
  rw [fillTrace, Tree.edit_record hfollows]
  have hfault : faultOf ((tree.edited (visitor hosts nested frame augmentation)).run w).1 =
      faultOf (Tree.walk (visitor hosts nested frame augmentation)
        (tree.visited Tree.fillingVisit) w).outcome := by
    rw [← hends.outcome, faultOf_map]
  rw [hfault, hends.left]
  exact chronicle_walk hnested augmentation _ w

theorem accountsFor_interpolate (hnested : nested.Accounted hosts traces)
    (template augmentation : Value) :
    (interpolateTrace hosts nested traces frame template augmentation).AccountsFor hosts
      (interpolate hosts nested false frame template augmentation) := by
  refine .bind (.ofQuiet (.globals frame)) fun _ => ?_
  refine .bind (.ofQuiet (.liftFault _)) fun tree => ?_
  exact (accountsFor_fill hnested augmentation tree).bindQuiet fun filled => .pure _

end

/-! ### Runners -/

theorem accounted_nestedTo (hosts : HostFunctions σ) (depth : Nat) :
    (nestedTo hosts depth).Accounted hosts (nestedTracesTo hosts depth) := by
  induction depth with
  | zero => exact ⟨fun _ _ _ => .ofQuiet (.throw _), fun _ _ _ => .ofQuiet (.throw _)⟩
  | succ depth ih =>
      refine ⟨fun frame parsed augmentation => accountsFor_parsed ih parsed augmentation,
        fun frame template augmentation => ?_⟩
      exact (accountsFor_interpolate ih template augmentation).bindQuiet fun text => .pure _

theorem accountsFor_runner (hosts : HostFunctions σ) {runner : Runner}
    (hsequential : runner.concurrent = false) (template augmentation : Value) :
    (runner.trace hosts template augmentation).AccountsFor hosts
      (runner.interpolate hosts template augmentation) := by
  rw [Runner.interpolate, hsequential]
  exact accountsFor_interpolate (accounted_nestedTo hosts nestingLimit) template augmentation

end TemplateScript
