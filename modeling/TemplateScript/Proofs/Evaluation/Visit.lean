import TemplateScript.Evaluation.Template
import TemplateScript.Proofs.Document.Edit
import TemplateScript.Proofs.Document.Placement
import TemplateScript.Proofs.Evaluation.Run

/-!
# What stands in the place of a node

A filling, node by node: the text of a value stands in the place of a directive and of a wiki link
page with a directive, a dollar sign in the place of an escaped one, and any other node is made up
of what its children are filled with. What is put in the place of a node is read as a document,
which renders as it was, and is not visited itself.
-/

namespace TemplateScript

/-- A fault at a node, if the node has a place. -/
def Tree.blame (t : Tree) (fault : Fault) : Fault :=
  match t.location? with
  | some loc => fault.locatedAt loc
  | none => fault

/-- A fault says the same wherever it is placed. -/
theorem message_locatedAt (fault : Fault) (loc : Location) :
    (fault.locatedAt loc).message = fault.message := by
  cases fault with
  | runtime why kind expression place =>
      cases place <;> simp only [Fault.locatedAt, Fault.message]
  | _ => rfl

theorem message_blame (t : Tree) (fault : Fault) : (t.blame fault).message = fault.message := by
  rw [Tree.blame]
  cases t.location? with
  | some loc => exact message_locatedAt fault loc
  | none => rfl

theorem kind_locatedAt (fault : Fault) (loc : Location) :
    (fault.locatedAt loc).kind = fault.kind := by
  cases fault with
  | runtime why kind expression place => cases place <;> rfl
  | _ => rfl

theorem kind_blame (t : Tree) (fault : Fault) : (t.blame fault).kind = fault.kind := by
  rw [Tree.blame]
  cases t.location? with
  | some loc => exact kind_locatedAt fault loc
  | none => rfl

variable {σ : Type}

section

variable (hosts : HostFunctions σ) (nested : Nested σ) (frame : Frame) (augmentation : Value)

/-- The text of the value of an expression. -/
def displayed (source : String) : Eval σ String := do
  let value ← evalSource hosts nested (frame.child (some source)) (.str source) augmentation
  Eval.liftHost value.display

/-- The visitor of a filling. -/
def visitor (t : Tree) : StateM (World σ) (Except Fault Tree.Visit) :=
  (visitNode hosts nested frame augmentation t).run

/-- The text of what stands in the place of a node. -/
def filled (t : Tree) : Eval σ (List Char) :=
  (fun tree => (tree.map Tree.render).getD []) <$>
    t.edited (visitor hosts nested frame augmentation)

def filledAll (trees : List Tree) : Eval σ (List Char) :=
  Tree.renderAll <$> Tree.editedAll (visitor hosts nested frame augmentation) trees

end

variable {hosts : HostFunctions σ} {nested : Nested σ} {frame : Frame} {augmentation : Value}
  {globals : Bindings}

/-! ### The text of a value -/

theorem run_displayed_eq_ok {source shown : String} {w w' : World σ} :
    (displayed hosts nested frame augmentation source).run w = (.ok shown, w') ↔
      ∃ value, (evalSource hosts nested (frame.child (some source)) (.str source)
        augmentation).run w = (.ok value, w') ∧ value.display = .ok shown := by
  rw [displayed, Faulting.run_bind_eq_ok]
  constructor
  · rintro ⟨value, w₁, hvalue, hlift⟩
    rw [Eval.run_liftHost] at hlift
    cases hdisplay : value.display with
    | error why =>
        rw [hdisplay] at hlift
        cases hlift
    | ok text =>
        rw [hdisplay] at hlift
        cases hlift
        exact ⟨value, hvalue, hdisplay⟩
  · rintro ⟨value, hvalue, hdisplay⟩
    refine ⟨value, w', hvalue, ?_⟩
    rw [hdisplay]
    rfl

theorem run_displayed_of_fault {source : String} {fault : Fault} {w w' : World σ}
    (hfault : (evalSource hosts nested (frame.child (some source)) (.str source)
      augmentation).run w = (.error fault, w')) :
    (displayed hosts nested frame augmentation source).run w = (.error fault, w') := by
  rw [displayed, Faulting.run_bind_of_error hfault]

theorem run_displayed_of_unshown {source : String} {value : Value} {why : HostFault}
    {w w' : World σ} (hvalue : (evalSource hosts nested (frame.child (some source)) (.str source)
      augmentation).run w = (.ok value, w'))
    (hwhy : value.display = .error why) :
    (displayed hosts nested frame augmentation source).run w = (.error (.host why), w') := by
  rw [displayed, Faulting.run_bind_of_ok hvalue, Eval.run_liftHost, hwhy]
  rfl

theorem run_evalToDocument (hglobals : frame.globals = some globals) (source : String)
    (w : World σ) :
    (evalToDocument hosts nested frame (.str source) augmentation).run w =
      match (displayed hosts nested frame augmentation source).run w with
      | (.ok shown, w') => (.ok (parseDocument shown.toList), w')
      | (.error fault, w') => (.error (.ofEvaluation source fault), w') := by
  have hpresent : (discard (Eval.globals frame) : Eval σ Unit).run w = (.ok (), w) := by
    rw [Eval.globals, hglobals]
    rfl
  have hbody : (do
      let value ← evalSource hosts nested (frame.child (Value.str source).string?) (.str source)
        augmentation
      return parseDocument (← Eval.liftHost value.display).toList : Eval σ Tree) =
      (fun shown => parseDocument shown.toList) <$>
        displayed hosts nested frame augmentation source := by
    simp only [displayed, Value.string?, map_bind, bind_pure_comp]
  rw [evalToDocument, Faulting.run_bind_of_ok hpresent, Faulting.run_tryCatch, hbody,
    Faulting.run_map]
  rcases (displayed hosts nested frame augmentation source).run w with ⟨fault | shown, w'⟩ <;> rfl

/-! ### What the visitor does -/

section

variable {t : Tree} {w w' : World σ}

theorem run_visitNode_of_cancelled {reason : String} (hw : w.cancellation = some reason) :
    (visitNode hosts nested frame augmentation t).run w =
      (.error (.runtime (.cancelled reason) .cancelled frame.source none), w) := by
  rw [visitNode, Faulting.run_bind_of_error (Eval.run_checkCancelled_of_some hw)]

theorem run_visitNode_dollar (hw : w.cancellation = none) (hkind : t.kind = some "Escape")
    (hdollar : t.render = ['\\', '$']) :
    (visitNode hosts nested frame augmentation t).run w =
      (.ok (.replace (some (parseDocument ['$']))), w) := by
  rw [visitNode, Faulting.run_bind_of_ok (Eval.run_checkCancelled_of_none hw), hkind, hdollar]
  rfl

theorem run_visitNode_descend (hw : w.cancellation = none)
    (hescape : ¬(t.kind = some "Escape" ∧ t.render = ['\\', '$'])) (hspliced : t.spliced? = none) :
    (visitNode hosts nested frame augmentation t).run w = (.ok .descend, w) := by
  rw [visitNode, Faulting.run_bind_of_ok (Eval.run_checkCancelled_of_none hw), hspliced,
    if_neg (by simpa using hescape)]
  rfl

theorem run_visitNode_of_shown (hglobals : frame.globals = some globals)
    (hw : w.cancellation = none) (hescape : ¬(t.kind = some "Escape" ∧ t.render = ['\\', '$']))
    {source shown : String} (hspliced : t.spliced? = some source)
    (hshown : (displayed hosts nested frame augmentation source).run w = (.ok shown, w')) :
    (visitNode hosts nested frame augmentation t).run w =
      (.ok (.replace (some (parseDocument shown.toList))), w') := by
  rw [visitNode, Faulting.run_bind_of_ok (Eval.run_checkCancelled_of_none hw), hspliced,
    if_neg (by simpa using hescape)]
  simp only [Faulting.run_tryCatch, bind_pure_comp, Faulting.run_map, run_evalToDocument hglobals,
    hshown]
  rfl

theorem run_visitNode_of_fault (hglobals : frame.globals = some globals)
    (hw : w.cancellation = none) (hescape : ¬(t.kind = some "Escape" ∧ t.render = ['\\', '$']))
    {source : String} {fault : Fault} (hspliced : t.spliced? = some source)
    (hfault : (displayed hosts nested frame augmentation source).run w = (.error fault, w')) :
    (visitNode hosts nested frame augmentation t).run w =
      (.error (t.blame (.ofEvaluation source fault)), w') := by
  rw [visitNode, Faulting.run_bind_of_ok (Eval.run_checkCancelled_of_none hw), hspliced,
    if_neg (by simpa using hescape)]
  simp only [Faulting.run_tryCatch, bind_pure_comp, Faulting.run_map, run_evalToDocument hglobals,
    hfault]
  rfl

end

/-! ### What a node is filled with -/

theorem edited_visitor (t : Tree) :
    t.edited (visitor hosts nested frame augmentation) =
      visitNode hosts nested frame augmentation t >>=
        t.afterVisit (Tree.editedAll (visitor hosts nested frame augmentation)) :=
  Tree.edited_eq ..

section

variable {t : Tree} {w w' : World σ}

theorem run_filled_of_error {fault : Fault}
    (h : (visitNode hosts nested frame augmentation t).run w = (.error fault, w')) :
    (filled hosts nested frame augmentation t).run w = (.error fault, w') := by
  rw [filled, Faulting.run_map, edited_visitor, Faulting.run_bind_of_error h]
  rfl

theorem run_filled_of_cancelled {reason : String} (hw : w.cancellation = some reason) :
    (filled hosts nested frame augmentation t).run w =
      (.error (.runtime (.cancelled reason) .cancelled frame.source none), w) :=
  run_filled_of_error (run_visitNode_of_cancelled hw)

theorem run_filled_of_fault (hglobals : frame.globals = some globals) (hw : w.cancellation = none)
    (hescape : ¬(t.kind = some "Escape" ∧ t.render = ['\\', '$'])) {source : String}
    {fault : Fault} (hspliced : t.spliced? = some source)
    (hfault : (displayed hosts nested frame augmentation source).run w = (.error fault, w')) :
    (filled hosts nested frame augmentation t).run w =
      (.error (t.blame (.ofEvaluation source fault)), w') :=
  run_filled_of_error (run_visitNode_of_fault hglobals hw hescape hspliced hfault)

theorem run_filled_of_replace {text : List Char}
    (h : (visitNode hosts nested frame augmentation t).run w =
      (.ok (.replace (some (parseDocument text))), w')) :
    (filled hosts nested frame augmentation t).run w = (.ok text, w') := by
  rw [filled, Faulting.run_map, edited_visitor, Faulting.run_bind_of_ok h, Tree.afterVisit,
    Faulting.run_pure]
  exact congrArg (fun rendered => (Except.ok rendered, w')) (render_parseDocument text)

theorem run_filled_dollar (hw : w.cancellation = none) (hkind : t.kind = some "Escape")
    (hdollar : t.render = ['\\', '$']) :
    (filled hosts nested frame augmentation t).run w = (.ok ['$'], w) :=
  run_filled_of_replace (run_visitNode_dollar hw hkind hdollar)

theorem run_filled_of_shown (hglobals : frame.globals = some globals) (hw : w.cancellation = none)
    (hescape : ¬(t.kind = some "Escape" ∧ t.render = ['\\', '$'])) {source shown : String}
    (hspliced : t.spliced? = some source)
    (hshown : (displayed hosts nested frame augmentation source).run w = (.ok shown, w')) :
    (filled hosts nested frame augmentation t).run w = (.ok shown.toList, w') :=
  run_filled_of_replace (run_visitNode_of_shown hglobals hw hescape hspliced hshown)

theorem run_filled_leaf (hw : w.cancellation = none) (hleaf : t.children? = none)
    (hescape : ¬(t.kind = some "Escape" ∧ t.render = ['\\', '$'])) (hspliced : t.spliced? = none) :
    (filled hosts nested frame augmentation t).run w = (.ok t.render, w) := by
  rw [filled, Faulting.run_map, edited_visitor,
    Faulting.run_bind_of_ok (run_visitNode_descend hw hescape hspliced)]
  obtain ⟨kind, children, text, position⟩ := t
  obtain rfl : children = none := hleaf
  rfl

theorem run_filled_branch {kind : String} {children : List Tree} {position : Position}
    (h : (visitNode hosts nested frame augmentation (.branch kind children position)).run w =
      (.ok .descend, w')) :
    (filled hosts nested frame augmentation (.branch kind children position)).run w =
      (filledAll hosts nested frame augmentation children).run w' := by
  rw [filled, Faulting.run_map, edited_visitor, Faulting.run_bind_of_ok h, filledAll,
    Faulting.run_map, Tree.branch, Tree.afterVisit, bind_pure_comp, Faulting.run_map]
  rcases (Tree.editedAll (visitor hosts nested frame augmentation) children).run w' with
    ⟨fault | trees, w''⟩ <;> rfl

end

theorem filledAll_nil : filledAll hosts nested frame augmentation [] = pure [] := by
  rw [filledAll, Tree.editedAll_nil]
  rfl

theorem filledAll_cons (t : Tree) (rest : List Tree) :
    filledAll hosts nested frame augmentation (t :: rest) = do
      let text ← filled hosts nested frame augmentation t
      let others ← filledAll hosts nested frame augmentation rest
      return text ++ others := by
  simp only [filledAll, filled, Tree.editedAll_cons, map_bind, bind_map_left, bind_pure_comp,
    Functor.map_map]
  refine congrArg _ (funext fun first => congrArg (· <$> _) (funext fun others => ?_))
  rw [Tree.renderAll_append]
  cases first <;> simp [Tree.renderAll]

/-! ### Kinds of nodes -/

/-- The kinds of nodes in the place of which something else may stand. -/
def fillableKinds : List (Option String) :=
  [some "Escape", some "Directive", some "WikiLinkPage"]

theorem spliced?_of_kind {t : Tree} (hkind : t.kind ∉ fillableKinds) : t.spliced? = none := by
  simp only [fillableKinds, List.mem_cons, List.not_mem_nil, or_false, not_or] at hkind
  simp only [Tree.spliced?, hkind, if_false]

theorem not_escape_of_kind {t : Tree} (hkind : t.kind ∉ fillableKinds) :
    ¬(t.kind = some "Escape" ∧ t.render = ['\\', '$']) :=
  fun h => hkind (h.1 ▸ List.mem_cons_self)

/-- A branch that is not replaced is filled with what its children are filled with. -/
theorem filled_branch {kind : String} (hkind : some kind ∉ fillableKinds) (children : List Tree)
    (position : Position) :
    filled hosts nested frame augmentation (.branch kind children position) =
      Eval.checkCancelled frame >>= fun _ =>
        filledAll hosts nested frame augmentation children := by
  refine Faulting.ext fun w => ?_
  cases hw : w.cancellation with
  | some reason =>
      rw [run_filled_of_cancelled hw,
        Faulting.run_bind_of_error (Eval.run_checkCancelled_of_some hw)]
  | none =>
      rw [Faulting.run_bind_of_ok (Eval.run_checkCancelled_of_none hw)]
      exact run_filled_branch
        (run_visitNode_descend hw (not_escape_of_kind hkind) (spliced?_of_kind hkind))

theorem run_filled_text {w : World σ} (hw : w.cancellation = none) (position : Position)
    (content : List Char) :
    (filled hosts nested frame augmentation ((Segment.text content).toTree position)).run w =
      (.ok content, w) := by
  have hkind : ((Segment.text content).toTree position).kind ∉ fillableKinds :=
    show some "Text" ∉ fillableKinds by decide
  rw [run_filled_leaf hw rfl (not_escape_of_kind hkind) (spliced?_of_kind hkind),
    Segment.render_toTree]
  rfl

theorem directive_spliced? (position : Position) (expression : List Char) :
    ((Segment.directive expression).toTree position).spliced? =
      some (String.ofList expression) := by
  simp [Tree.spliced?, Segment.toTree, Tree.consecutive, Tree.branch, Tree.leaf,
    Tree.directiveText?, Tree.findKind?, Tree.find?, Tree.findInAll?, Tree.kind, Tree.render]

theorem directive_not_escape (position : Position) (expression : List Char) :
    ¬(((Segment.directive expression).toTree position).kind = some "Escape" ∧
      ((Segment.directive expression).toTree position).render = ['\\', '$']) :=
  fun h => absurd h.1 (show some "Directive" ≠ some "Escape" by decide)

/-! ### Templates -/

/-- The text of a template that is filled in order. -/
theorem interpolate_eq_filled (hglobals : frame.globals = some globals) (source : String) :
    interpolate hosts nested false frame (.str source) augmentation =
      String.ofList <$> filled hosts nested frame augmentation (parseDocument source.toList) := by
  have hglobal : (discard (Eval.globals frame) : Eval σ Unit) = pure () := by
    rw [Eval.globals, hglobals]
    rfl
  rw [interpolate, hglobal, pure_bind, parseTemplate, Eval.liftFault_ok, pure_bind, filled,
    Functor.map_map, map_eq_pure_bind]
  rfl

/-- A template that is filled in order is made up of what its nodes are filled with. -/
theorem interpolate_eq_filledAll (hglobals : frame.globals = some globals) (source : String) :
    interpolate hosts nested false frame (.str source) augmentation =
      Eval.checkCancelled frame >>= fun _ =>
        String.ofList <$> filledAll hosts nested frame augmentation
          (Segment.toTrees .start (Segment.split source.toList)) := by
  rw [interpolate_eq_filled hglobals, parseDocument, filled_branch (by decide), map_bind]

end TemplateScript
