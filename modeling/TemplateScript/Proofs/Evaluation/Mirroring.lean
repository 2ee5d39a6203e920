import TemplateScript.Proofs.Evaluation.Filling
import TemplateScript.Proofs.Evaluation.Globals
import TemplateScript.Proofs.Evaluation.Pieces
import TemplateScript.Proofs.Evaluation.Propagation
import TemplateScript.Proofs.Expr.Writing

/-!
# Evaluations that differ in their faults only

The text of a frame and the locations in an expression are named in the faults of an evaluation and
decide nothing in it. How deep evaluations may start each other decides only whether one fails
because it is too deep. So an evaluation of the same expression at other places, in the frame of
another text and with at least as much depth, comes to the same value in the same world, and fails
where the first one fails, unless the first one is too deep.
-/

namespace TemplateScript

variable {σ α β : Type}

/-- Behind a fault lies that evaluations start each other too deep. -/
abbrev Fault.TooDeep : Fault → Prop := RestsOn .nestedTooDeep

theorem Fault.RestsOn.blame {why : HostFault} {fault : Fault} (h : fault.RestsOn why) (t : Tree) :
    (t.blame fault).RestsOn why := by
  rw [Tree.blame]
  split
  · exact h.locatedAt _
  · exact h

/-! ### Programs -/

/-- The second program does what the first one does but for the faults. The first one may also fail
because it is too deep, if it is `cut` short. -/
structure Eval.Mirrors (cut : Prop) (x y : Eval σ α) : Prop where
  ok {w w' : World σ} {a : α} (h : x.run w = (.ok a, w')) : y.run w = (.ok a, w')
  error {w w' : World σ} {fault : Fault} (h : x.run w = (.error fault, w')) :
    (∃ fault' w'', y.run w = (.error fault', w'')) ∨ cut ∧ fault.TooDeep

namespace Eval.Mirrors

variable {cut : Prop} {x y : Eval σ α}

theorem refl (x : Eval σ α) : Mirrors cut x x :=
  ⟨id, fun h => .inl ⟨_, _, h⟩⟩

theorem throw (fault fault' : Fault) :
    Mirrors cut (throw fault : Eval σ α) (MonadExcept.throw fault') :=
  ⟨fun h => (nomatch h), fun {w _ _} _ => .inl ⟨fault', w, rfl⟩⟩

theorem tooDeep (hcut : cut) (y : Eval σ α) :
    Mirrors cut (MonadExcept.throw (.host .nestedTooDeep)) y where
  ok h := nomatch h
  error h := by
    cases h
    exact .inr ⟨hcut, .host⟩

/-- Programs that fail in every world. -/
theorem ofFailing (hx : ∀ w, ∃ fault, x.Fails w fault) (hy : ∀ w, ∃ fault, y.Fails w fault) :
    Mirrors cut x y where
  ok {w _ _} hrun := by
    obtain ⟨_, _, hfails⟩ := hx w
    rw [hfails] at hrun
    cases hrun
  error {w _ _} _ := by
    obtain ⟨fault', w'', hfails⟩ := hy w
    exact .inl ⟨fault', w'', hfails⟩

theorem bind {next next' : α → Eval σ β} (h : Mirrors cut x y)
    (hnext : ∀ a, Mirrors cut (next a) (next' a)) : Mirrors cut (x >>= next) (y >>= next') where
  ok hrun := by
    obtain ⟨a, w₁, hfirst, hrest⟩ := Faulting.run_bind_eq_ok.mp hrun
    exact Faulting.run_bind_eq_ok.mpr ⟨a, w₁, h.ok hfirst, (hnext a).ok hrest⟩
  error {w w' fault} hrun := by
    rcases hx : x.run w with ⟨cause | a, w₁⟩
    · rw [Faulting.run_bind_of_error hx] at hrun
      obtain ⟨rfl, rfl⟩ := Prod.mk.inj hrun |>.imp_left Except.error.inj
      refine (h.error hx).imp_left ?_
      rintro ⟨fault', w'', hy⟩
      exact ⟨fault', w'', Faulting.run_bind_of_error hy⟩
    · rw [Faulting.run_bind_of_ok hx] at hrun
      rw [Faulting.run_bind_of_ok (h.ok hx)]
      exact (hnext a).error hrun

theorem map (f : α → β) (h : Mirrors cut x y) : Mirrors cut (f <$> x) (f <$> y) := by
  rw [map_eq_pure_bind, map_eq_pure_bind]
  exact h.bind fun _ => refl _

/-- Faults are replaced, and one that comes of too much depth by another such. -/
theorem rethrow {handler handler' : Fault → Eval σ α} (outer outer' : Fault → Fault)
    (h : Mirrors cut x y) (hhandler : ∀ fault, handler fault = MonadExcept.throw (outer fault))
    (hhandler' : ∀ fault, handler' fault = MonadExcept.throw (outer' fault))
    (houter : ∀ fault, fault.TooDeep → (outer fault).TooDeep) :
    Mirrors cut (tryCatch x handler) (tryCatch y handler') where
  ok {w w' a} hrun := by
    rw [Faulting.run_tryCatch] at hrun ⊢
    rcases hx : x.run w with ⟨cause | b, w₁⟩
    · rw [hx] at hrun
      simp only [hhandler] at hrun
      cases hrun
    · rw [hx] at hrun
      rw [h.ok hx]
      exact hrun
  error {w w' fault} hrun := by
    rw [Faulting.run_tryCatch] at hrun ⊢
    rcases hx : x.run w with ⟨cause | b, w₁⟩
    · rw [hx] at hrun
      simp only [hhandler] at hrun
      cases hrun
      refine (h.error hx).imp (fun ⟨fault', w'', hy⟩ => ?_) fun hdeep => ⟨hdeep.1, houter _ hdeep.2⟩
      rw [hy]
      simp only [hhandler']
      exact ⟨_, _, rfl⟩
    · rw [hx] at hrun
      cases hrun

theorem liftFault {result result' : Except Fault α} (h : result.toOption = result'.toOption) :
    Mirrors cut (liftFault result) (liftFault result' : Eval σ α) := by
  cases result with
  | ok a =>
      cases result' with
      | ok b =>
          cases h
          exact refl _
      | error fault => cases h
  | error fault =>
      cases result' with
      | ok b => cases h
      | error fault' => exact throw fault fault'

/-- The frame of another text shows in the fault of a cancellation only. -/
theorem checked (frame : Frame) (source : Option String) (h : Mirrors cut x y) :
    Mirrors cut (do Eval.checkCancelled frame; x)
      (do Eval.checkCancelled (frame.child source); y) := by
  refine .bind ⟨fun {w w' a} hrun => ?_, fun {w w' fault} hrun => ?_⟩ fun _ => h
  · obtain ⟨hw, rfl⟩ := run_checkCancelled_eq_ok.mp hrun
    exact run_checkCancelled_of_none hw
  · cases hw : w.cancellation with
    | none =>
        rw [run_checkCancelled_of_none hw] at hrun
        cases hrun
    | some reason => exact .inl ⟨_, _, run_checkCancelled_of_some hw⟩

theorem trans_agree {z : Eval σ α} (h : Mirrors cut x y) (hagree : Faulting.Agree y z) :
    Mirrors cut x z where
  ok hrun := (hagree _).2 _ _ (h.ok hrun)
  error {w _ _} hrun := by
    refine (h.error hrun).imp_left fun ⟨fault', w'', hy⟩ => ⟨fault', (z.run w).2, ?_⟩
    have hfirst := (hagree w).1
    rw [hy] at hfirst
    exact Prod.ext hfirst.symm rfl

end Eval.Mirrors

/-! ### Operators -/

theorem toOption_mapError {ε ε' : Type} (f : ε → ε') (x : Except ε α) :
    (x.mapError f).toOption = x.toOption := by
  cases x <;> rfl

theorem toOption_bind_congr {ε : Type} {x x' : Except ε α} {next next' : α → Except ε β}
    (h : x.toOption = x'.toOption) (hnext : ∀ a, (next a).toOption = (next' a).toOption) :
    (x >>= next).toOption = (x' >>= next').toOption := by
  cases x with
  | error fault =>
      cases x' with
      | error fault' => rfl
      | ok a => cases h
  | ok a =>
      cases x' with
      | error fault => cases h
      | ok b =>
          cases h
          exact hnext a

namespace Operators

variable (frame : Frame) (source : Option String) (loc loc' : Option Location)

theorem operand_child (v : Value) :
    (operand frame loc v).toOption = (operand (frame.child source) loc' v).toOption := by
  rw [operand, operand]
  cases v.toNumber? <;> rfl

theorem concatOperand_child (v : Value) :
    (concatOperand frame loc v).toOption =
      (concatOperand (frame.child source) loc' v).toOption := by
  rw [concatOperand, concatOperand]
  split <;> rfl

theorem binary_child (op : BinaryOp) (left right : Value) :
    (binary frame op left right loc).toOption =
      (binary (frame.child source) op left right loc').toOption := by
  cases op with
  | arithmetic op =>
      rw [binary, binary]
      refine toOption_bind_congr (operand_child frame source loc loc' left) fun a => ?_
      refine toOption_bind_congr (operand_child frame source loc loc' right) fun b => ?_
      refine toOption_bind_congr ?_ fun n => rfl
      rw [toOption_mapError, toOption_mapError]
  | concat =>
      rw [binary, binary]
      refine toOption_bind_congr (concatOperand_child frame source loc loc' left) fun _ => ?_
      exact toOption_bind_congr (concatOperand_child frame source loc loc' right) fun _ => rfl
  | comparison op =>
      simp only [binary.eq_def]
      split <;> rfl
  | equal | notEqual | unknown spelling => rfl

theorem unary_child (op : UnaryOp) (v : Value) (subject subject' : Subject) :
    (unary frame op v loc subject).toOption =
      (unary (frame.child source) op v loc' subject').toOption := by
  cases op with
  | neg => exact toOption_bind_congr (operand_child frame source loc loc' v) fun n => rfl
  | length => cases v <;> rfl
  | not | unknown spelling => rfl

theorem index_child (globals : Bindings) (obj key : Value) (subject subject' : Subject) :
    (index frame globals obj key loc subject).toOption =
      (index (frame.child source) globals obj key loc' subject').toOption := by
  cases obj <;> rfl

end Operators

/-! ### Calls -/

/-- The evaluations that scripts start differ in their faults only, whatever texts their frames
name. -/
structure Nested.Mirrors (cut : Prop) (nested nested' : Nested σ) : Prop where
  evalExpression (frame : Frame) (source : Option String) (parsed augmentation : Value) :
    Eval.Mirrors cut (nested.evalExpression frame parsed augmentation)
      (nested'.evalExpression (frame.child source) parsed augmentation)
  interpolate (frame : Frame) (source : Option String) (template augmentation : Value) :
    Eval.Mirrors cut (nested.interpolate frame template augmentation)
      (nested'.interpolate (frame.child source) template augmentation)

section

variable {cut : Prop} {hosts : HostFunctions σ} {nested nested' : Nested σ} (frame : Frame)
  (source : Option String)

theorem mirrors_framed (hnested : nested.Mirrors cut nested') (m : FramedMember)
    (args : List Value) :
    Eval.Mirrors cut (m.run nested frame args) (m.run nested' (frame.child source) args) := by
  cases m with
  | parseExpression => exact .refl _
  | evalExpression =>
      exact Eval.Mirrors.bind (.refl _) fun _ => hnested.evalExpression frame source _ _
  | interpolate => exact hnested.interpolate frame source _ _
  | baseUrl => exact .refl _

theorem mirrors_function (hnested : nested.Mirrors cut nested') (f : Function)
    (args : List Value) :
    Eval.Mirrors cut (f.run hosts nested frame args)
      (f.run hosts nested' (frame.child source) args) := by
  cases f with
  | host key shown => exact .refl _
  | member m home =>
      refine Eval.Mirrors.bind (.refl _) fun _ => ?_
      cases m with
      | plain m => exact .refl _
      | framed m => exact mirrors_framed frame source hnested m args

theorem mirrors_call (hnested : nested.Mirrors cut nested') (fn : Value) (args : List Value)
    (loc loc' : Option Location) (subject subject' : Subject) :
    Eval.Mirrors cut (callValue hosts nested frame fn args loc subject)
      (callValue hosts nested' (frame.child source) fn args loc' subject') := by
  cases fn with
  | function f =>
      rw [callValue_function, callValue_function]
      exact .rethrow _ _ (mirrors_function frame source hnested f args) (fun _ => rfl)
        (fun _ => rfl) fun fault h => h.attributed frame f loc
  | _ => exact .throw _ _

theorem mirrors_assignField (slots : Slots) (key value : Value) (loc loc' : Option Location) :
    Eval.Mirrors cut (assignField frame slots key value loc : Eval σ Slots)
      (assignField (frame.child source) slots key value loc') := by
  cases key with
  | nil => exact .throw _ _
  | number n =>
      rw [assignField, assignField]
      split
      · exact .throw _ _
      · exact .refl _
  | _ => exact .refl _

/-! ### Expressions -/

variable {scope : ScopeChain}

mutual

/-- Expressions that are the same but for their locations. -/
theorem mirrors_expr (hnested : nested.Mirrors cut nested') (e e' : Expr)
    (h : e.unlocated = e'.unlocated) :
    Eval.Mirrors cut (evalExpr hosts nested frame scope e)
      (evalExpr hosts nested' (frame.child source) scope e') := by
  match e with
  | .literal value _ =>
      cases e' with
      | literal value' _ =>
          obtain rfl : value = value' := (Expr.literal.inj h).1
          rw [evalExpr, evalExpr]
          exact .checked frame source (.refl _)
      | _ => cases h
  | .variable name _ =>
      cases e' with
      | «variable» name' _ =>
          obtain rfl : name = name' := (Expr.variable.inj h).1
          rw [evalExpr, evalExpr]
          exact .checked frame source (.refl _)
      | _ => cases h
  | .paren inner _ =>
      cases e' with
      | paren inner' _ =>
          have hinner := mirrors_expr hnested inner inner' (Expr.paren.inj h).1
          rw [evalExpr, evalExpr]
          exact .checked frame source (.bind hinner fun _ => .refl _)
      | _ => cases h
  | .index obj key loc =>
      cases e' with
      | index obj' key' loc' =>
          obtain ⟨hobj, hkey, -⟩ := Expr.index.inj h
          rw [evalExpr, evalExpr]
          refine .checked frame source (.bind (mirrors_expr hnested obj obj' hobj) fun object => ?_)
          refine .bind (mirrors_expr hnested key key' hkey) fun keyValue => ?_
          exact .liftFault (Operators.index_child frame source loc loc' _ _ _ _ _)
      | _ => cases h
  | .call fn args loc =>
      cases e' with
      | call fn' args' loc' =>
          obtain ⟨hfn, hargs, -⟩ := Expr.call.inj h
          rw [evalExpr, evalExpr]
          refine .checked frame source (.bind (mirrors_expr hnested fn fn' hfn) fun function => ?_)
          refine .bind (mirrors_args hnested args args' hargs) fun values => ?_
          exact mirrors_call frame source hnested _ _ _ _ _ _
      | _ => cases h
  | .methodCall obj name args loc =>
      cases e' with
      | methodCall obj' name' args' loc' =>
          obtain ⟨hobj, rfl, hargs, -⟩ := Expr.methodCall.inj h
          rw [evalExpr, evalExpr]
          refine .checked frame source (.bind (mirrors_expr hnested obj obj' hobj) fun object => ?_)
          refine .bind (.liftFault (Operators.index_child frame source loc loc' _ _ _ _ _))
            fun function => ?_
          refine .bind (mirrors_args hnested args args' hargs) fun values => ?_
          exact mirrors_call frame source hnested _ _ _ _ _ _
      | _ => cases h
  | .logical op left right _ =>
      cases e' with
      | logical op' left' right' _ =>
          obtain ⟨rfl, hleft, hright, -⟩ := Expr.logical.inj h
          rw [evalExpr, evalExpr]
          refine .checked frame source
            (.bind (mirrors_expr hnested left left' hleft) fun first => ?_)
          have hsecond : Eval.Mirrors cut
              (do return (← evalExpr hosts nested frame scope right).single)
              (do return (← evalExpr hosts nested' (frame.child source) scope right').single) :=
            .bind (mirrors_expr hnested right right' hright) fun _ => .refl _
          have hfirst : Eval.Mirrors cut (pure first.single : Eval σ Value) (pure first.single) :=
            .refl _
          cases op with
          | and | or | unknown spelling =>
              by_cases htruthy : first.single.isTruthy
              · simp only [htruthy, if_true]
                first | exact hsecond | exact hfirst
              · simp only [htruthy]
                first | exact hsecond | exact hfirst
      | _ => cases h
  | .binary op left right loc =>
      cases e' with
      | binary op' left' right' loc' =>
          obtain ⟨rfl, hleft, hright, -⟩ := Expr.binary.inj h
          rw [evalExpr, evalExpr]
          refine .checked frame source (.bind (mirrors_expr hnested left left' hleft) fun a => ?_)
          refine .bind (mirrors_expr hnested right right' hright) fun b => ?_
          exact .liftFault (Operators.binary_child frame source loc loc' _ _ _)
      | _ => cases h
  | .unary op operand loc =>
      cases e' with
      | unary op' operand' loc' =>
          obtain ⟨rfl, hoperand, -⟩ := Expr.unary.inj h
          rw [evalExpr, evalExpr]
          refine .checked frame source
            (.bind (mirrors_expr hnested operand operand' hoperand) fun v => ?_)
          exact .liftFault (Operators.unary_child frame source loc loc' _ _ _ _)
      | _ => cases h
  | .tableConstructor fields _ =>
      cases e' with
      | tableConstructor fields' _ =>
          have hfields := mirrors_fields hnested fields fields' (Expr.tableConstructor.inj h).1 [] 1
          rw [evalExpr, evalExpr]
          exact .checked frame source (.bind hfields fun _ => .refl _)
      | _ => cases h
  | .bare _ =>
      cases e' with
      | bare _ =>
          rw [evalExpr, evalExpr]
          exact .checked frame source (.throw _ _)
      | _ => cases h

theorem mirrors_args (hnested : nested.Mirrors cut nested') (es es' : List Expr)
    (h : unlocatedAll es = unlocatedAll es') :
    Eval.Mirrors cut (evalArgs hosts nested frame scope es)
      (evalArgs hosts nested' (frame.child source) scope es') := by
  match es, es' with
  | [], [] =>
      rw [evalArgs, evalArgs]
      exact .refl _
  | [], _ :: _ => cases h
  | _ :: _, [] => cases h
  | arg :: rest, arg' :: rest' =>
      obtain ⟨harg, hrest⟩ := List.cons.inj h
      rw [evalArgs, evalArgs]
      refine .bind (mirrors_expr hnested arg arg' harg) fun value => ?_
      have hempty : rest.isEmpty = rest'.isEmpty := by
        cases rest <;> cases rest' <;> first | rfl | cases hrest
      rw [hempty]
      split
      · exact .refl _
      · exact .bind (mirrors_args hnested rest rest' hrest) fun _ => .refl _

theorem mirrors_fields (hnested : nested.Mirrors cut nested')
    (fields fields' : List (Option Expr × Expr))
    (h : unlocatedFields fields = unlocatedFields fields') (slots : Slots) (position : Nat) :
    Eval.Mirrors cut (evalFields hosts nested frame scope fields slots position)
      (evalFields hosts nested' (frame.child source) scope fields' slots position) := by
  match fields, fields' with
  | [], [] =>
      rw [evalFields, evalFields]
      exact .refl _
  | [], (none, _) :: _ | [], (some _, _) :: _ => cases h
  | (none, _) :: _, [] | (some _, _) :: _, [] => cases h
  | (none, _) :: _, (some _, _) :: _ | (some _, _) :: _, (none, _) :: _ => cases h
  | (none, e) :: rest, (none, e') :: rest' =>
      obtain ⟨hfirst, hrest⟩ := List.cons.inj h
      rw [evalFields, evalFields]
      refine .bind (mirrors_expr hnested e e' (Prod.mk.inj hfirst).2) fun value => ?_
      have hempty : rest.isEmpty = rest'.isEmpty := by
        rcases rest with _ | ⟨⟨_ | _, _⟩, _⟩ <;> rcases rest' with _ | ⟨⟨_ | _, _⟩, _⟩ <;>
          first | rfl | cases hrest
      rw [hempty]
      exact .bind (.refl _) fun assigned => mirrors_fields hnested rest rest' hrest assigned _
  | (some key, e) :: rest, (some key', e') :: rest' =>
      obtain ⟨hfirst, hrest⟩ := List.cons.inj h
      obtain ⟨hkey, hvalue⟩ := Prod.mk.inj hfirst
      rw [evalFields, evalFields]
      refine .bind (mirrors_expr hnested e e' hvalue) fun value => ?_
      refine .bind (mirrors_expr hnested key key' (Option.some.inj hkey)) fun keyValue => ?_
      refine .bind (mirrors_assignField frame source slots _ _ key.loc key'.loc) fun assigned => ?_
      exact mirrors_fields hnested rest rest' hrest assigned position

end

/-! ### Texts and templates -/

theorem createScope_child (augmentation : Value) :
    (createScope (frame.child source) augmentation).toOption =
      (createScope frame augmentation).toOption := by
  obtain ⟨globals, own, location⟩ := frame
  cases globals with
  | none => rfl
  | some globals => cases augmentation <;> rfl

theorem mirrors_parsed (hnested : nested.Mirrors cut nested') (parsed augmentation : Value) :
    Eval.Mirrors cut (evalParsed hosts nested frame parsed augmentation)
      (evalParsed hosts nested' (frame.child source) parsed augmentation) := by
  cases parsed with
  | expression e =>
      have hscope := createScope_child frame source augmentation
      refine .bind (.liftFault hscope.symm) fun bindings => ?_
      exact .bind (mirrors_expr frame source hnested e e rfl) fun _ => .refl _
  | _ => exact .throw _ _

theorem mirrors_source (hnested : nested.Mirrors cut nested') (text augmentation : Value) :
    Eval.Mirrors cut (evalSource hosts nested frame text augmentation)
      (evalSource hosts nested' (frame.child source) text augmentation) :=
  .bind (.refl _) fun e => mirrors_parsed frame source hnested (.expression e) augmentation

/-- The texts in a template are evaluated in frames of their own. -/
theorem mirrors_contributed (hnested : nested.Mirrors cut nested') (augmentation : Value)
    (t : Tree) :
    Eval.Mirrors cut (contributed hosts nested frame augmentation t)
      (contributed hosts nested' (frame.child source) augmentation t) := by
  refine .checked frame source ?_
  cases t.contribution with
  | verbatim text => exact .refl _
  | display text =>
      refine .rethrow (fun fault => t.blame (.ofEvaluation text fault)) _ (.map _ ?_)
        (fun _ => rfl) (fun _ => rfl) fun fault h => (Fault.RestsOn.evaluation h).blame t
      exact .bind (mirrors_source (frame.child (some text)) (some text) hnested (.str text)
        augmentation) fun _ => .refl _

theorem mirrors_contributedAll (hnested : nested.Mirrors cut nested') (augmentation : Value)
    (trees : List Tree) :
    Eval.Mirrors cut (contributedAll hosts nested frame augmentation trees)
      (contributedAll hosts nested' (frame.child source) augmentation trees) := by
  induction trees with
  | nil => exact .refl _
  | cons t rest ih =>
      rw [contributedAll, contributedAll]
      exact .bind (mirrors_contributed frame source hnested augmentation t) fun _ =>
        .bind ih fun _ => .refl _

theorem fails_interpolate {frame : Frame} {globals : Bindings}
    (hglobals : frame.globals = some globals) {template augmentation : Value} {fault : Fault}
    (h : parseTemplate template = .error fault) (w : World σ) :
    ∃ fault, (interpolate hosts nested false frame template augmentation).Fails w fault := by
  rw [interpolate, h, Eval.globals, hglobals]
  exact ⟨fault, w, rfl⟩

theorem mirrors_interpolate (hnested : nested.Mirrors cut nested') (concurrent : Bool)
    (template augmentation : Value) :
    Eval.Mirrors cut (interpolate hosts nested false frame template augmentation)
      (interpolate hosts nested' concurrent (frame.child source) template augmentation) := by
  refine .trans_agree ?_ (interpolate_agree hosts nested' concurrent (frame.child source) template
    augmentation)
  cases hglobals : frame.globals with
  | none =>
      have hchild : (frame.child source).globals = none := hglobals
      exact .ofFailing
        (fun w => ⟨_, w, lacksGlobals_interpolate hglobals hosts nested false template _ w⟩)
        (fun w => ⟨_, w, lacksGlobals_interpolate hchild hosts nested' false template _ w⟩)
  | some globals =>
      have hchild : (frame.child source).globals = some globals := hglobals
      cases hparse : parseTemplate template with
      | error fault =>
          exact .ofFailing (fails_interpolate hglobals hparse) (fails_interpolate hchild hparse)
      | ok tree =>
          obtain ⟨text, rfl⟩ : ∃ text, template = .str text := by
            cases template with
            | str text => exact ⟨text, rfl⟩
            | _ => cases hparse
          rw [interpolate_eq hglobals, interpolate_eq hchild]
          exact .checked frame source (.map _ (mirrors_contributedAll frame source hnested
            augmentation _))

end

/-- Deeper evaluations come to the same, and to the same only. -/
theorem mirrors_nestedTo (hosts : HostFunctions σ) {depth depth' : Nat} (h : depth ≤ depth') :
    (nestedTo hosts depth).Mirrors (depth < depth') (nestedTo hosts depth') := by
  induction depth generalizing depth' with
  | zero =>
      cases depth' with
      | zero => exact ⟨fun _ _ _ _ => .throw _ _, fun _ _ _ _ => .throw _ _⟩
      | succ depth' =>
          have hcut : 0 < depth' + 1 := Nat.succ_pos depth'
          exact ⟨fun _ _ _ _ => .tooDeep hcut _, fun _ _ _ _ => .tooDeep hcut _⟩
  | succ depth ih =>
      cases depth' with
      | zero => exact absurd h (Nat.not_succ_le_zero depth)
      | succ depth' =>
          rw [Nat.add_lt_add_iff_right]
          have hnested := ih (Nat.le_of_succ_le_succ h)
          refine ⟨fun frame source parsed augmentation => ?_,
            fun frame source template augmentation => ?_⟩
          · exact mirrors_parsed frame source hnested parsed augmentation
          · exact .bind (mirrors_interpolate frame source hnested false template augmentation)
              fun _ => .refl _

end TemplateScript
