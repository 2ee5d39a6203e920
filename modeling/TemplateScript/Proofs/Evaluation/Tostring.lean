import TemplateScript.Proofs.Evaluation.Link
import TemplateScript.Proofs.Evaluation.Reentry
import TemplateScript.Proofs.Expr.Application
import TemplateScript.Proofs.Library.Display

/-!
# Directives that ask for the text of a value

A directive shows the text of the host's form of a value, and the library makes a text of the value
itself. The two are the same text, so a directive with an expression shows what it shows with the
library's function around the expression, and fails where it does.
-/

namespace TemplateScript

variable {σ α β : Type}

/-! ### Ends of programs -/

namespace SameEnd

variable {x y : Eval σ α} {w : World σ}

theorem refl (ended : Except Fault α × World σ) : SameEnd ended ended := by
  rcases ended with ⟨fault | a, w⟩
  · exact .faults fault fault w w
  · exact .value a w

theorem trans {first second third : Except Fault α × World σ} (h : SameEnd first second)
    (hthird : SameEnd second third) : SameEnd first third := by
  cases h with
  | value a w => exact hthird
  | faults fault fault' w w' =>
      cases hthird with
      | faults _ fault'' _ w'' => exact .faults fault fault'' w w''

theorem ends {ended ended' : Except Fault α × World σ} (h : SameEnd ended ended') :
    (∃ a w, ended = (.ok a, w) ∧ ended' = (.ok a, w)) ∨
      ∃ fault fault' w w', ended = (.error fault, w) ∧ ended' = (.error fault', w') := by
  cases h with
  | value a w => exact .inl ⟨a, w, rfl, rfl⟩
  | faults fault fault' w w' => exact .inr ⟨fault, fault', w, w', rfl, rfl⟩

theorem bind {next next' : α → Eval σ β} (h : SameEnd (x.run w) (y.run w))
    (hnext : ∀ a w', x.run w = (.ok a, w') → SameEnd ((next a).run w') ((next' a).run w')) :
    SameEnd ((x >>= next).run w) ((y >>= next').run w) := by
  rcases h.ends with ⟨a, w', hx, hy⟩ | ⟨fault, fault', w', w'', hx, hy⟩
  · rw [Faulting.run_bind_of_ok hx, Faulting.run_bind_of_ok hy]
    exact hnext a w' hx
  · rw [Faulting.run_bind_of_error hx, Faulting.run_bind_of_error hy]
    exact .faults fault fault' w' w''

theorem map (f : α → β) (h : SameEnd (x.run w) (y.run w)) :
    SameEnd ((f <$> x).run w) ((f <$> y).run w) := by
  rw [map_eq_pure_bind, map_eq_pure_bind]
  exact h.bind fun _ _ _ => refl _

/-- Faults are replaced. -/
theorem rethrow {handler handler' : Fault → Eval σ α} {outer outer' : Fault → Fault}
    (h : SameEnd (x.run w) (y.run w)) (hhandler : ∀ fault, handler fault = throw (outer fault))
    (hhandler' : ∀ fault, handler' fault = throw (outer' fault)) :
    SameEnd ((tryCatch x handler).run w) ((tryCatch y handler').run w) := by
  rw [Faulting.run_tryCatch, Faulting.run_tryCatch]
  rcases h.ends with ⟨a, w', hx, hy⟩ | ⟨fault, fault', w', w'', hx, hy⟩ <;> rw [hx, hy]
  · exact .value a w'
  · simp only [hhandler, hhandler']
    exact .faults _ _ w' w''

theorem of_agree {x' y' : Eval σ α} (hx : Faulting.Agree x x') (hy : Faulting.Agree y y')
    (h : SameEnd (x.run w) (y.run w)) : SameEnd (x'.run w) (y'.run w) := by
  rcases hx.run_cases w with ⟨a, w₁, hrun, hrun'⟩ | ⟨fault, w₁, w₂, hrun, hrun'⟩ <;>
    rcases hy.run_cases w with ⟨b, w₃, hend, hend'⟩ | ⟨fault', w₃, w₄, hend, hend'⟩ <;>
    rw [hrun, hend] at h <;> rw [hrun', hend']
  · exact h
  · cases h
  · cases h
  · exact .faults fault fault' w₂ w₄

end SameEnd

/-! ### Calls of the function -/

/-- The library's function that makes a text of a value. -/
def tostringFunction (home : Nat) : Value := .function (.member (.plain .tostring) home)

section

variable {hosts : HostFunctions σ} {nested : Nested σ} {frame : Frame} {scope : ScopeChain}
  {home : Nat} {e : Expr} {v : Value} {w w' : World σ}

theorem run_callTostring (v : Value) (loc : Option Location) (subject : Subject) (w : World σ) :
    (callValue hosts nested frame (tostringFunction home) [v] loc subject).run w =
      ((v.display.map Value.str).mapError fun why => frame.fault (.callFailed "tostring" why) loc,
        w) := by
  have hrun : (Function.run hosts nested frame (.member (.plain .tostring) home) [v]).run w =
      ((v.display.map Value.str).mapError .host, w) := by
    change (Eval.liftFault ((do return Value.str (← v.display)).mapError .host)).run w = _
    cases v.display <;> rfl
  rw [tostringFunction, callValue_function, Faulting.run_tryCatch, hrun]
  cases v.display <;> rfl

/-- An argument in parentheses is the first of the results. -/
theorem run_parenArg (hw : w.cancellation = none)
    (hrun : (evalExpr hosts nested frame scope e).run w = (.ok v, w'))
    (hsingle : ∀ items, v.single ≠ .multi items) :
    (evalArgs hosts nested frame scope [.paren e none]).run w = (.ok [v.single], w') := by
  have hparen : (evalExpr hosts nested frame scope (.paren e none)).run w = (.ok v.single, w') := by
    rw [evalExpr, Faulting.run_bind_of_ok (Eval.run_checkCancelled_of_none hw),
      Faulting.run_bind_of_ok hrun]
    rfl
  rw [evalArgs, Faulting.run_bind_of_ok hparen]
  cases hvalue : v.single with
  | multi items => exact absurd hvalue (hsingle items)
  | _ => rfl

theorem run_parenArg_of_error {fault : Fault} (hw : w.cancellation = none)
    (hrun : (evalExpr hosts nested frame scope e).run w = (.error fault, w')) :
    (evalArgs hosts nested frame scope [.paren e none]).run w = (.error fault, w') := by
  have hparen : (evalExpr hosts nested frame scope (.paren e none)).run w = (.error fault, w') := by
    rw [evalExpr, Faulting.run_bind_of_ok (Eval.run_checkCancelled_of_none hw),
      Faulting.run_bind_of_error hrun]
  rw [evalArgs, Faulting.run_bind_of_error hparen]

variable (hosts nested frame scope) in
/-- The text that the value of an expression is shown as. -/
def shownIn (e : Expr) : Eval σ String := do
  let value ← evalExpr hosts nested frame scope e
  Eval.liftHost value.single.toHost.display

/-- The function called on an expression. -/
def Expr.tostringOf (e : Expr) : Expr :=
  .call (.variable "tostring" none) [.paren e none] none

variable (hosts nested frame e) in
theorem run_tostringOf (hw : w.cancellation = none)
    (hscope : scope.get? "tostring" = some (tostringFunction home)) :
    (evalExpr hosts nested frame scope e.tostringOf).run w =
      (evalArgs hosts nested frame scope [.paren e none] >>= fun values =>
        callValue hosts nested frame (tostringFunction home) values none
          (.variable "tostring")).run w := by
  have hfunction : (evalExpr hosts nested frame scope (.variable "tostring" none)).run w =
      (.ok (tostringFunction home), w) := by
    rw [evalExpr, Faulting.run_bind_of_ok (Eval.run_checkCancelled_of_none hw), hscope]
    rfl
  rw [Expr.tostringOf, evalExpr, Faulting.run_bind_of_ok (Eval.run_checkCancelled_of_none hw),
    Faulting.run_bind_of_ok hfunction]
  rfl

/-- The text of a text is the text itself. -/
theorem run_shownIn_tostringOf (hw : w.cancellation = none)
    (hscope : scope.get? "tostring" = some (tostringFunction home))
    (hrun : (evalExpr hosts nested frame scope e).run w = (.ok v, w'))
    (hsingle : ∀ items, v.single ≠ .multi items) :
    (shownIn hosts nested frame scope e.tostringOf).run w =
      (v.single.display.mapError fun why => frame.fault (.callFailed "tostring" why) none, w') := by
  have hcall := run_tostringOf hosts nested frame e hw hscope
  rw [Faulting.run_bind_of_ok (run_parenArg hw hrun hsingle), run_callTostring] at hcall
  cases hdisplay : v.single.display with
  | error why =>
      rw [hdisplay] at hcall
      exact Faulting.run_bind_of_error hcall
  | ok text =>
      rw [hdisplay] at hcall
      have htext : (Value.str text).single.toHost.display = .ok text := Value.display_str text
      rw [shownIn, Faulting.run_bind_of_ok hcall, htext]
      rfl

/-- An expression shows what its text shows. -/
theorem sameEnd_shownIn_tostringOf
    (hscope : scope.get? "tostring" = some (tostringFunction home))
    (hsingle : ∀ v w', (evalExpr hosts nested frame scope e).run w = (.ok v, w') →
      ∀ items, v.single ≠ .multi items) :
    SameEnd ((shownIn hosts nested frame scope e).run w)
      ((shownIn hosts nested frame scope e.tostringOf).run w) := by
  cases hw : w.cancellation with
  | some reason =>
      rw [shownIn, shownIn, Faulting.run_bind_of_error (run_evalExpr_of_cancelled hw _),
        Faulting.run_bind_of_error (run_evalExpr_of_cancelled hw _)]
      exact .faults _ _ w w
  | none =>
      rcases hrun : (evalExpr hosts nested frame scope e).run w with ⟨fault | v, w'⟩
      · have hcall := run_tostringOf hosts nested frame e hw hscope
        rw [Faulting.run_bind_of_error (run_parenArg_of_error hw hrun)] at hcall
        rw [shownIn, shownIn, Faulting.run_bind_of_error hrun, Faulting.run_bind_of_error hcall]
        exact .faults _ _ w' w'
      · rw [run_shownIn_tostringOf hw hscope hrun (hsingle v w' hrun), shownIn,
          Faulting.run_bind_of_ok hrun, Value.display_toHost, Eval.run_liftHost]
        cases v.single.display with
        | ok text => exact .value text w'
        | error why => exact .faults _ _ w' w'

end

/-! ### Directives -/

/-- Something is true of the scope in which directives are evaluated. -/
def Frame.InScope (frame : Frame) (augmentation : Value) (property : ScopeChain → Prop) : Prop :=
  ∀ bindings ∈ (createScope frame augmentation).toOption,
    property [bindings, frame.globals.getD []]

section

variable {hosts : HostFunctions σ} {nested : Nested σ} {frame : Frame} {augmentation : Value}
  {source : String} {e : Expr} {w : World σ}

theorem displayed_eq (hparse : parseExpr source = .ok e) :
    displayed hosts nested frame augmentation source = (do
      let bindings ← Eval.liftFault (createScope (frame.child (some source)) augmentation)
      shownIn hosts nested (frame.child (some source)) [bindings, frame.globals.getD []] e) := by
  rw [displayed, evalSource, parseValue, hparse, Eval.liftFault_ok, pure_bind, evalParsed,
    bind_assoc]
  refine bind_congr fun bindings => ?_
  rw [bind_assoc]
  rfl

theorem sameEnd_createScope_child (source source' : Option String) :
    SameEnd
      ((Eval.liftFault (createScope (frame.child source) augmentation) : Eval σ Bindings).run w)
      ((Eval.liftFault (createScope (frame.child source') augmentation)).run w) := by
  have hscopes := (createScope_child frame source augmentation).trans
    (createScope_child frame source' augmentation).symm
  have hmirrors : Eval.Mirrors False
      (Eval.liftFault (createScope (frame.child source) augmentation) : Eval σ Bindings)
      (Eval.liftFault (createScope (frame.child source') augmentation)) := .liftFault hscopes
  exact (hmirrors.sameEnd w).resolve_right And.left

variable {depth home : Nat} (hparse : parseExpr source = .ok e)
  (htostring : frame.InScope augmentation (·.get? "tostring" = some (tostringFunction home)))
  (hsingle : frame.InScope augmentation fun scope => ∀ v w',
    (evalExpr hosts (nestedTo hosts depth) (frame.child (some source)) scope e).run w =
      (.ok v, w') → ∀ items, v.single ≠ .multi items)
include hparse htostring hsingle

theorem sameEnd_displayed_applied :
    SameEnd ((displayed hosts (nestedTo hosts depth) frame augmentation source).run w)
      ((displayed hosts (nestedTo hosts depth) frame augmentation
        (applied "tostring" source)).run w) := by
  have hname : Token.isName "tostring".toList := by decide
  obtain ⟨found, hfoundParse, hfound⟩ := parseExpr_applied hname hparse
  rw [displayed_eq hparse, displayed_eq hfoundParse]
  refine (sameEnd_createScope_child _ _).bind fun bindings w' hrun => ?_
  obtain ⟨hown, rfl⟩ := Eval.run_liftFault_eq_ok.mp hrun
  have hscope : bindings ∈ (createScope frame augmentation).toOption := by
    rw [← createScope_child frame (some source), hown]
    rfl
  refine (sameEnd_shownIn_tostringOf (htostring bindings hscope) (hsingle bindings hscope)).trans ?_
  have hmirrors : Eval.Mirrors (depth < depth)
      (shownIn hosts (nestedTo hosts depth) (frame.child (some source))
        [bindings, frame.globals.getD []] e.tostringOf)
      (shownIn hosts (nestedTo hosts depth) (frame.child (some (applied "tostring" source)))
        [bindings, frame.globals.getD []] found) :=
    .bind (mirrors_expr (frame.child (some source)) (some (applied "tostring" source))
      (mirrors_nestedTo hosts (Nat.le_refl depth)) e.tostringOf found hfound.symm) fun _ => .refl _
  exact (hmirrors.sameEnd w).resolve_right fun h => Nat.lt_irrefl depth h.1

theorem sameEnd_evalToDocument_applied :
    SameEnd ((evalToDocument hosts (nestedTo hosts depth) frame (.str source) augmentation).run w)
      ((evalToDocument hosts (nestedTo hosts depth) frame (.str (applied "tostring" source))
        augmentation).run w) := by
  cases hglobals : frame.globals with
  | none =>
      rw [lacksGlobals_evalToDocument hglobals, lacksGlobals_evalToDocument hglobals]
      exact .refl _
  | some globals =>
      rw [run_evalToDocument hglobals, run_evalToDocument hglobals]
      rcases (sameEnd_displayed_applied hparse htostring hsingle).ends with
        ⟨shown, w', hrun, hrun'⟩ | ⟨fault, fault', w', w'', hrun, hrun'⟩ <;> rw [hrun, hrun']
      · exact .value _ w'
      · exact .faults _ _ w' w''

end

/-- An expression in the marks of a directive stands alone. -/
theorem standsAlone_of_parseExpr {source : String} {e : Expr} (h : parseExpr source = .ok e) :
    StandsAlone source.toList := by
  have hread := readExpr_of_parseExpr h
  have hsplit := Segment.split_directive (balanced_of_readExpr hread) (ne_nil_of_readExpr hread) []
  rw [List.append_nil] at hsplit
  refine ⟨(Segment.directive source.toList).toTree .start, ?_, rfl⟩
  change some (Segment.toTrees .start (Segment.split _)) = _
  rw [hsplit]
  rfl

section

variable {hosts : HostFunctions σ} {nested : Nested σ} {frame : Frame} {augmentation : Value}
  {source source' : String} {w : World σ}

theorem sameEnd_contributed {t t' : Tree} (ht : t.contribution = .display source)
    (ht' : t'.contribution = .display source')
    (h : SameEnd ((displayed hosts nested frame augmentation source).run w)
      ((displayed hosts nested frame augmentation source').run w)) :
    SameEnd ((contributed hosts nested frame augmentation t).run w)
      ((contributed hosts nested frame augmentation t').run w) := by
  rw [contributed, contributed, ht, ht']
  refine (SameEnd.refl _).bind fun _ w' hrun => ?_
  obtain ⟨-, rfl⟩ := Eval.run_checkCancelled_eq_ok.mp hrun
  exact (h.map String.toList).rethrow (fun _ => rfl) fun _ => rfl

/-- Directives that show the same are filled alike. -/
theorem sameEnd_interpolate (halone : StandsAlone source.toList)
    (halone' : StandsAlone source'.toList)
    (h : SameEnd ((displayed hosts nested frame augmentation source).run w)
      ((displayed hosts nested frame augmentation source').run w)) (concurrent : Bool) :
    SameEnd
      ((interpolate hosts nested concurrent frame (.str ("$\x7b" ++ source ++ "\x7d"))
        augmentation).run w)
      ((interpolate hosts nested concurrent frame (.str ("$\x7b" ++ source' ++ "\x7d"))
        augmentation).run w) := by
  refine .of_agree (interpolate_agree hosts nested concurrent frame _ _)
    (interpolate_agree hosts nested concurrent frame _ _) ?_
  cases hglobals : frame.globals with
  | none =>
      rw [lacksGlobals_interpolate hglobals, lacksGlobals_interpolate hglobals]
      exact .refl _
  | some globals =>
      have hdirective (expression : String) : ("$\x7b" ++ expression ++ "\x7d").toList =
          (Segment.directive expression.toList).render := by
        simp [Segment.render]
      obtain ⟨t, hparts, ht⟩ := parts_of_standsAlone halone
      obtain ⟨t', hparts', ht'⟩ := parts_of_standsAlone halone'
      rw [String.ofList_toList] at ht ht'
      rw [interpolate_eq hglobals, interpolate_eq hglobals, hdirective, hdirective, hparts,
        hparts', contributedAll_singleton, contributedAll_singleton]
      refine (SameEnd.refl _).bind fun _ w' hrun => ?_
      obtain ⟨-, rfl⟩ := Eval.run_checkCancelled_eq_ok.mp hrun
      exact (sameEnd_contributed ht ht' h).map String.ofList

end

/-- A value shows the same text before and after the conversion for the host, or fails in both. So
an expression in a directive shows what it shows with the function around it that makes a text of a
value, or both fail. That is where the name of the function is not bound to something else, and
where the expression comes to a value rather than to several in the place of one. -/
theorem interpolate_tostring (hosts : HostFunctions σ) (depth : Nat) (frame : Frame)
    (augmentation : Value) {source : String} {e : Expr} (hparse : parseExpr source = .ok e)
    {home : Nat} (htostring : frame.InScope augmentation
      (·.get? "tostring" = some (tostringFunction home)))
    (w : World σ) (hsingle : frame.InScope augmentation fun scope => ∀ v w',
      (evalExpr hosts (nestedTo hosts depth) (frame.child (some source)) scope e).run w =
        (.ok v, w') → ∀ items, v.single ≠ .multi items) :
    (∀ v : Value, v.toHost.display = v.display) ∧
      SameEnd ((evalToDocument hosts (nestedTo hosts depth) frame (.str source) augmentation).run w)
        ((evalToDocument hosts (nestedTo hosts depth) frame (.str ("tostring((" ++ source ++ "))"))
          augmentation).run w) ∧
      ∀ concurrent, SameEnd
        ((interpolate hosts (nestedTo hosts depth) concurrent frame
          (.str ("$\x7b" ++ source ++ "\x7d")) augmentation).run w)
        ((interpolate hosts (nestedTo hosts depth) concurrent frame
          (.str ("$\x7b" ++ ("tostring((" ++ source ++ "))") ++ "\x7d")) augmentation).run w) := by
  have happlied : "tostring((" ++ source ++ "))" = applied "tostring" source := by
    simp [applied]
  have hname : Token.isName "tostring".toList := by decide
  obtain ⟨found, hfound, -⟩ := parseExpr_applied hname hparse
  rw [happlied]
  refine ⟨Value.display_toHost, sameEnd_evalToDocument_applied hparse htostring hsingle, ?_⟩
  exact sameEnd_interpolate (standsAlone_of_parseExpr hparse) (standsAlone_of_parseExpr hfound)
    (sameEnd_displayed_applied hparse htostring hsingle)

theorem interpolate_tostring_table :
    let hosts : HostFunctions Unit := fun _ _ => pure .nil
    let frame : Frame := ⟨some (standardEnvironment 0), none, none⟩
    let source := "\x7b1, 'a'\x7d"
    let w : World Unit := ⟨none, Library.tableCount, ()⟩
    ∃ e, parseExpr source = .ok e ∧
      frame.InScope .nil (·.get? "tostring" = some (tostringFunction 0)) ∧
      (frame.InScope .nil fun scope => ∀ v w',
        (evalExpr hosts (nestedTo hosts nestingLimit) (frame.child (some source)) scope e).run w =
          (.ok v, w') → ∀ items, v.single ≠ .multi items) ∧
      ∀ concurrent, SameEnd
        ((interpolate hosts (nestedTo hosts nestingLimit) concurrent frame
          (.str ("$\x7b" ++ source ++ "\x7d")) .nil).run w)
        ((interpolate hosts (nestedTo hosts nestingLimit) concurrent frame
          (.str ("$\x7b" ++ ("tostring((" ++ source ++ "))") ++ "\x7d")) .nil).run w) := by
  intro hosts frame source w
  have hkind : (parseExpr source).toOption.map Expr.kindName = some "TableConstructor" := by
    decide +kernel
  obtain ⟨fields, loc, hparse⟩ : ∃ fields loc, parseExpr source =
      .ok (.tableConstructor fields loc) := by
    cases hread : parseExpr source with
    | error fault =>
        rw [hread] at hkind
        cases hkind
    | ok e =>
        rw [hread] at hkind
        have hkind : e.kindName = "TableConstructor" := Option.some.inj hkind
        cases e with
        | tableConstructor fields loc => exact ⟨fields, loc, rfl⟩
        | _ => simp [Expr.kindName] at hkind
  have htostring : frame.InScope .nil (·.get? "tostring" = some (tostringFunction 0)) := by
    rintro bindings ⟨⟩
    rfl
  have hsingle : frame.InScope .nil fun scope => ∀ v w',
      (evalExpr hosts (nestedTo hosts nestingLimit) (frame.child (some source)) scope
        (.tableConstructor fields loc)).run w = (.ok v, w') → ∀ items, v.single ≠ .multi items := by
    intro bindings _ v w' hrun items heq
    rw [evalExpr] at hrun
    obtain ⟨_, _, -, hrun⟩ := Faulting.run_bind_eq_ok.mp hrun
    obtain ⟨_, _, -, hrun⟩ := Faulting.run_bind_eq_ok.mp hrun
    cases hrun
    cases heq
  exact ⟨_, hparse, htostring, hsingle, (interpolate_tostring hosts nestingLimit frame .nil hparse
    htostring w hsingle).2.2⟩

end TemplateScript
