import TemplateScript.Proofs.Evaluation.Visit

/-!
# What a filled template is

The nodes of a document that are no links, and the parts of those that are, each contribute to the
filled template in turn: a text of their own, or the text of the value of an expression. A text that
an expression comes to is read as a document again, but nothing in it is filled, so that it stands
in the filled template as it is.
-/

namespace TemplateScript

/-- What a part of a template contributes to the filled one. -/
inductive Contribution where
  | verbatim (text : List Char)
  /-- The text of the value of an expression. -/
  | display (source : String)

namespace Tree

/-- A node of a document, but a link as the parts of it. -/
def spread (t : Tree) : List Tree :=
  if t.kind = some "WikiLink" then t.children?.getD [] else [t]

/-- The parts of a document, each of which contributes to the filled template. -/
def parts (document : Tree) : List Tree :=
  (document.children?.getD []).flatMap spread

def contribution (t : Tree) : Contribution :=
  if t.kind = some "Escape" ∧ t.render = ['\\', '$'] then .verbatim ['$']
  else if t.kind = some "Directive" then
    match t.directiveText? with
    | some source => .display source
    | none => .verbatim t.render
  else if t.kind = some "WikiLinkPage" then
    match (parseDocument t.render).directiveText? with
    | some source => .display source
    | none => .verbatim t.render
  else .verbatim t.render

end Tree

variable {σ : Type} (hosts : HostFunctions σ) (nested : Nested σ) (frame : Frame)
  (augmentation : Value)

namespace Contribution

/-- What a contribution comes to, in a world that is not cancelled. -/
inductive Gives : Contribution → World σ → List Char → World σ → Prop
  | verbatim {w : World σ} {text : List Char} (hw : w.cancellation = none) :
      Gives (.verbatim text) w text w
  | display {w w' : World σ} {source shown : String} {value : Value} (hw : w.cancellation = none)
      (hvalue : (evalSource hosts nested (frame.child (some source)) (.str source)
        augmentation).run w = (.ok value, w'))
      (hshown : value.display = .ok shown) : Gives (.display source) w shown.toList w'

end Contribution

/-- Contributions fill a template with what they come to, each in the world that the one before it
leaves. -/
inductive Fills : World σ → List Contribution → List Char → World σ → Prop
  | nil {w : World σ} : Fills w [] [] w
  | cons {w w₁ w' : World σ} {contribution : Contribution} {rest : List Contribution}
      {text out : List Char}
      (hfirst : contribution.Gives hosts nested frame augmentation w text w₁)
      (hrest : Fills w₁ rest out w') : Fills w (contribution :: rest) (text ++ out) w'

/-- The text that a part contributes. -/
def contributed (t : Tree) : Eval σ (List Char) := do
  Eval.checkCancelled frame
  match t.contribution with
  | .verbatim text => return text
  | .display source =>
    tryCatch (String.toList <$> displayed hosts nested frame augmentation source)
      fun fault => throw (t.blame (.ofEvaluation source fault))

def contributedAll : List Tree → Eval σ (List Char)
  | [] => return []
  | t :: rest => do
    let text ← contributed hosts nested frame augmentation t
    let others ← contributedAll rest
    return text ++ others

variable {hosts nested frame augmentation} {globals : Bindings}

theorem Tree.contribution_eq (t : Tree) :
    t.contribution =
      if t.kind = some "Escape" ∧ t.render = ['\\', '$'] then .verbatim ['$']
      else
        match t.spliced? with
        | some source => .display source
        | none => .verbatim t.render := by
  unfold contribution spliced?
  split_ifs <;> rfl

/-! ### What a part contributes -/

section

variable {t : Tree} {w w' : World σ}

theorem run_contributed_of_cancelled {reason : String} (hw : w.cancellation = some reason) :
    (contributed hosts nested frame augmentation t).run w =
      (.error (.runtime (.cancelled reason) .cancelled frame.source none), w) := by
  rw [contributed, Faulting.run_bind_of_error (Eval.run_checkCancelled_of_some hw)]

theorem run_contributed_verbatim (hw : w.cancellation = none) {text : List Char}
    (h : t.contribution = .verbatim text) :
    (contributed hosts nested frame augmentation t).run w = (.ok text, w) := by
  rw [contributed, Faulting.run_bind_of_ok (Eval.run_checkCancelled_of_none hw), h]
  rfl

theorem run_contributed_of_shown (hw : w.cancellation = none) {source shown : String}
    (h : t.contribution = .display source)
    (hshown : (displayed hosts nested frame augmentation source).run w = (.ok shown, w')) :
    (contributed hosts nested frame augmentation t).run w = (.ok shown.toList, w') := by
  rw [contributed, Faulting.run_bind_of_ok (Eval.run_checkCancelled_of_none hw), h]
  simp only [Faulting.run_tryCatch, Faulting.run_map, hshown]
  rfl

theorem run_contributed_of_fault (hw : w.cancellation = none) {source : String} {fault : Fault}
    (h : t.contribution = .display source)
    (hfault : (displayed hosts nested frame augmentation source).run w = (.error fault, w')) :
    (contributed hosts nested frame augmentation t).run w =
      (.error (t.blame (.ofEvaluation source fault)), w') := by
  rw [contributed, Faulting.run_bind_of_ok (Eval.run_checkCancelled_of_none hw), h]
  simp only [Faulting.run_tryCatch, Faulting.run_map, hfault]
  rfl

end

/-- A leaf, and a node in the place of which the value of an expression stands, is filled with what
it contributes. -/
theorem filled_eq_contributed (hglobals : frame.globals = some globals) {t : Tree}
    (ht : t.children? = none ∨ ∃ source, t.contribution = .display source) :
    filled hosts nested frame augmentation t = contributed hosts nested frame augmentation t := by
  refine Faulting.ext fun w => ?_
  cases hw : w.cancellation with
  | some reason =>
      rw [run_filled_of_cancelled hw, run_contributed_of_cancelled hw]
  | none =>
      -- the cases of the visitor, in its order
      have hcontribution := t.contribution_eq
      by_cases hescape : t.kind = some "Escape" ∧ t.render = ['\\', '$']
      · rw [if_pos hescape] at hcontribution
        rw [run_filled_dollar hw hescape.1 hescape.2, run_contributed_verbatim hw hcontribution]
      · rw [if_neg hescape] at hcontribution
        cases hspliced : t.spliced? with
        | some source =>
            rw [hspliced] at hcontribution
            rcases hrun : (displayed hosts nested frame augmentation source).run w with
              ⟨fault | shown, w'⟩
            · rw [run_filled_of_fault hglobals hw hescape hspliced hrun,
                run_contributed_of_fault hw hcontribution hrun]
            · rw [run_filled_of_shown hglobals hw hescape hspliced hrun,
                run_contributed_of_shown hw hcontribution hrun]
        | none =>
            rw [hspliced] at hcontribution
            have hleaf : t.children? = none := by
              refine ht.resolve_right fun ⟨source, hdisplay⟩ => ?_
              rw [hcontribution] at hdisplay
              cases hdisplay
            rw [run_filled_leaf hw hleaf hescape hspliced,
              run_contributed_verbatim hw hcontribution]

/-! ### Segments -/

theorem contributedAll_append (left right : List Tree) :
    contributedAll hosts nested frame augmentation (left ++ right) = do
      let text ← contributedAll hosts nested frame augmentation left
      let others ← contributedAll hosts nested frame augmentation right
      return text ++ others := by
  induction left with
  | nil => simp [contributedAll]
  | cons t rest ih =>
      simp only [List.cons_append, contributedAll, ih, bind_assoc, pure_bind, List.append_assoc]

theorem filledAll_leaves (hglobals : frame.globals = some globals) {trees : List Tree}
    (h : ∀ t ∈ trees, t.children? = none) :
    filledAll hosts nested frame augmentation trees =
      contributedAll hosts nested frame augmentation trees := by
  induction trees with
  | nil => exact filledAll_nil
  | cons t rest ih =>
      have hrest := ih fun u hu => h u (List.mem_cons_of_mem t hu)
      rw [filledAll_cons, filled_eq_contributed hglobals (.inl (h t List.mem_cons_self)), hrest,
        contributedAll]

theorem contribution_of_kind {t : Tree} (hkind : t.kind ∉ fillableKinds) :
    t.contribution = .verbatim t.render := by
  rw [Tree.contribution_eq, if_neg (not_escape_of_kind hkind), spliced?_of_kind hkind]

theorem contribution_directive (position : Position) (expression : List Char) :
    ((Segment.directive expression).toTree position).contribution =
      .display (String.ofList expression) := by
  rw [Tree.contribution_eq, directive_spliced?]
  exact if_neg (directive_not_escape position expression)

/-- Parts that contribute their own text leave it as it is. -/
theorem run_contributedAll_verbatim {trees : List Tree} {w : World σ} (hw : w.cancellation = none)
    (h : ∀ t ∈ trees, t.contribution = .verbatim t.render) :
    (contributedAll hosts nested frame augmentation trees).run w =
      (.ok (Tree.renderAll trees), w) := by
  induction trees with
  | nil => rfl
  | cons t rest ih =>
      have hfirst := h t List.mem_cons_self
      have hrest := ih fun u hu => h u (List.mem_cons_of_mem t hu)
      rw [contributedAll, Faulting.run_bind_of_ok (run_contributed_verbatim hw hfirst),
        Faulting.run_bind_of_ok hrest]
      rfl

theorem contributedAll_singleton (t : Tree) :
    contributedAll hosts nested frame augmentation [t] =
      contributed hosts nested frame augmentation t := by
  simp [contributedAll]

theorem checkCancelled_contributedAll (t : Tree) (rest : List Tree) :
    (Eval.checkCancelled frame >>= fun _ =>
      contributedAll hosts nested frame augmentation (t :: rest)) =
      contributedAll hosts nested frame augmentation (t :: rest) := by
  refine Faulting.ext fun w => ?_
  cases hw : w.cancellation with
  | some reason =>
      rw [Faulting.run_bind_of_error (Eval.run_checkCancelled_of_some hw), contributedAll,
        Faulting.run_bind_of_error (run_contributed_of_cancelled hw)]
  | none => rw [Faulting.run_bind_of_ok (Eval.run_checkCancelled_of_none hw)]

theorem consecutive_children {position : Position} {parts : List (String × List Char)} :
    ∀ t ∈ Tree.consecutive position parts, t.children? = none := by
  induction parts generalizing position with
  | nil => simp [Tree.consecutive]
  | cons part rest ih =>
      intro t ht
      rcases List.mem_cons.mp ht with rfl | hrest
      · rfl
      · exact ih t hrest

theorem consecutive_kind {position : Position} {parts : List (String × List Char)} :
    ∀ t ∈ Tree.consecutive position parts, t.kind ∈ parts.map fun part => some part.1 := by
  induction parts generalizing position with
  | nil => simp [Tree.consecutive]
  | cons part rest ih =>
      intro t ht
      rcases List.mem_cons.mp ht with rfl | hrest
      · exact List.mem_cons_self
      · exact List.mem_cons_of_mem _ (ih t hrest)

/-- An attribute has parts of its own, none of which is replaced. -/
theorem filled_attribute (hglobals : frame.globals = some globals) (position : Position)
    (name colon value : List Char) :
    filled hosts nested frame augmentation ((Segment.attribute name colon value).toTree position) =
      contributed hosts nested frame augmentation
        ((Segment.attribute name colon value).toTree position) := by
  refine Faulting.ext fun w => ?_
  rw [Segment.toTree.eq_def]
  simp only
  rw [filled_branch (by decide), filledAll_leaves hglobals consecutive_children]
  cases hw : w.cancellation with
  | some reason =>
      rw [Faulting.run_bind_of_error (Eval.run_checkCancelled_of_some hw),
        run_contributed_of_cancelled hw]
  | none =>
      have hparts : ∀ t ∈ Tree.consecutive position [("AttributeMark", ['[']),
          ("AttributeName", name), ("AttributeColon", colon), ("AttributeValue", value),
          ("AttributeEnd", [']'])], t.contribution = .verbatim t.render := by
        intro t ht
        have hkinds : ∀ kind ∈ [some "AttributeMark", some "AttributeName", some "AttributeColon",
            some "AttributeValue", some "AttributeEnd"], kind ∉ fillableKinds := by
          decide
        exact contribution_of_kind (hkinds _ (consecutive_kind t ht))
      rw [Faulting.run_bind_of_ok (Eval.run_checkCancelled_of_none hw),
        run_contributedAll_verbatim hw hparts,
        run_contributed_verbatim hw (contribution_of_kind (show some "Attribute" ∉ _ by decide))]
      rfl

theorem filled_toTree (hglobals : frame.globals = some globals) (position : Position)
    (segment : Segment) :
    filled hosts nested frame augmentation (segment.toTree position) =
      contributedAll hosts nested frame augmentation (segment.toTree position).spread := by
  cases segment with
  | directive expression =>
      rw [filled_eq_contributed hglobals (.inr ⟨_, contribution_directive position expression⟩)]
      exact (contributedAll_singleton _).symm
  | escape c =>
      rw [filled_eq_contributed hglobals (.inl rfl)]
      exact (contributedAll_singleton _).symm
  | wikiLink page label =>
      rw [Segment.toTree.eq_def]
      simp only
      rw [filled_branch (by decide),
        filledAll_leaves hglobals consecutive_children]
      exact checkCancelled_contributedAll ..
  | «attribute» name colon value =>
      rw [filled_attribute hglobals]
      exact (contributedAll_singleton _).symm
  | text content =>
      rw [filled_eq_contributed hglobals (.inl rfl)]
      exact (contributedAll_singleton _).symm

theorem filledAll_toTrees (hglobals : frame.globals = some globals) (position : Position)
    (segments : List Segment) :
    filledAll hosts nested frame augmentation (Segment.toTrees position segments) =
      contributedAll hosts nested frame augmentation
        ((Segment.toTrees position segments).flatMap Tree.spread) := by
  induction segments generalizing position with
  | nil => exact filledAll_nil
  | cons segment rest ih =>
      rw [Segment.toTrees, filledAll_cons, filled_toTree hglobals, ih, List.flatMap_cons,
        contributedAll_append]

/-! ### Templates -/

/-- A template that is filled in order is what its parts contribute, one after another. -/
theorem interpolate_eq (hglobals : frame.globals = some globals) (source : String) :
    interpolate hosts nested false frame (.str source) augmentation =
      Eval.checkCancelled frame >>= fun _ =>
        String.ofList <$> contributedAll hosts nested frame augmentation
          (parseDocument source.toList).parts := by
  rw [interpolate_eq_filledAll hglobals, filledAll_toTrees hglobals]
  rfl

theorem run_contributed_eq_ok {t : Tree} {w w' : World σ} {text : List Char} :
    (contributed hosts nested frame augmentation t).run w = (.ok text, w') ↔
      t.contribution.Gives hosts nested frame augmentation w text w' := by
  constructor
  · intro h
    cases hw : w.cancellation with
    | some reason =>
        rw [run_contributed_of_cancelled hw] at h
        cases h
    | none =>
        cases hcontribution : t.contribution with
        | verbatim own =>
            rw [run_contributed_verbatim hw hcontribution] at h
            cases h
            exact .verbatim hw
        | display source =>
            rcases hrun : (displayed hosts nested frame augmentation source).run w with
              ⟨fault | shown, w₁⟩
            · rw [run_contributed_of_fault hw hcontribution hrun] at h
              cases h
            · rw [run_contributed_of_shown hw hcontribution hrun] at h
              cases h
              obtain ⟨value, hvalue, hshown⟩ := run_displayed_eq_ok.mp hrun
              exact .display hw hvalue hshown
  · intro h
    cases hcontribution : t.contribution with
    | verbatim own =>
        rw [hcontribution] at h
        cases h with
        | verbatim hw => exact run_contributed_verbatim hw hcontribution
    | display source =>
        rw [hcontribution] at h
        cases h with
        | display hw hvalue hshown =>
            exact run_contributed_of_shown hw hcontribution
              (run_displayed_eq_ok.mpr ⟨_, hvalue, hshown⟩)

/-- The parts of a template fill it with a text exactly if their contributions, one after another,
are that text. -/
theorem fills_iff {trees : List Tree} {w w' : World σ} {out : List Char} :
    Fills hosts nested frame augmentation w (trees.map Tree.contribution) out w' ↔
      (contributedAll hosts nested frame augmentation trees).run w = (.ok out, w') := by
  induction trees generalizing w out with
  | nil =>
      rw [List.map_nil, contributedAll, Faulting.run_pure]
      constructor
      · rintro ⟨⟩
        rfl
      · rintro ⟨⟩
        exact .nil
  | cons t rest ih =>
      rw [List.map_cons, contributedAll]
      constructor
      · intro h
        cases h with
        | cons hfirst hrest =>
            rw [Faulting.run_bind_of_ok (run_contributed_eq_ok.mpr hfirst),
              Faulting.run_bind_of_ok (ih.mp hrest)]
            rfl
      · intro h
        obtain ⟨text, w₁, hfirst, htail⟩ := Faulting.run_bind_eq_ok.mp h
        obtain ⟨others, w₂, hrest, hout⟩ := Faulting.run_bind_eq_ok.mp htail
        cases hout
        exact .cons (run_contributed_eq_ok.mp hfirst) (ih.mpr hrest)

theorem renderAll_spread (position : Position) (segment : Segment) :
    Tree.renderAll (segment.toTree position).spread = (segment.toTree position).render := by
  cases segment with
  | wikiLink page label => rfl
  | _ => exact List.append_nil _

/-- The parts of a template make it up. -/
theorem renderAll_parts (source : List Char) :
    Tree.renderAll (parseDocument source).parts = source := by
  have hspread (position : Position) (segments : List Segment) :
      Tree.renderAll ((Segment.toTrees position segments).flatMap Tree.spread) =
        Tree.renderAll (Segment.toTrees position segments) := by
    induction segments generalizing position with
    | nil => rfl
    | cons segment rest ih =>
        rw [Segment.toTrees, List.flatMap_cons, Tree.renderAll_append, renderAll_spread, ih,
          Tree.renderAll]
  exact (hspread ..).trans (render_parseDocument source)

theorem Tree.contribution_eq_verbatim {t : Tree} (hdirective : t.kind ≠ some "Directive")
    (hescape : t.kind = some "Escape" → t.render ≠ ['\\', '$'])
    (hpage : t.kind = some "WikiLinkPage" → (parseDocument t.render).directiveText? = none) :
    t.contribution = .verbatim t.render := by
  rw [contribution, if_neg fun h => hescape h.1 h.2, if_neg hdirective]
  split_ifs with hkind
  · rw [hpage hkind]
  · rfl

variable (hosts nested frame augmentation)

/-- A template that is filled in order comes to a text exactly if the contributions of its parts do,
one after another. A template without a part in the place of which something else stands comes to
itself. -/
theorem interpolate_fills (source : String) (w : World σ) :
    (∀ result w', (interpolate hosts nested false frame (.str source) augmentation).run w =
        (.ok result, w') ↔
      frame.globals.isSome ∧ w.cancellation = none ∧ Fills hosts nested frame augmentation w
        ((parseDocument source.toList).parts.map Tree.contribution) result.toList w') ∧
      (frame.globals.isSome → w.cancellation = none →
        (∀ t ∈ (parseDocument source.toList).parts, t.kind ≠ some "Directive" ∧
          (t.kind = some "Escape" → t.render ≠ ['\\', '$']) ∧
          (t.kind = some "WikiLinkPage" → (parseDocument t.render).directiveText? = none)) →
        (interpolate hosts nested false frame (.str source) augmentation).run w =
          (.ok source, w)) := by
  cases hglobals : frame.globals with
  | none =>
      have hrun : (interpolate hosts nested false frame (.str source) augmentation).run w =
          (.error .noGlobals, w) := by
        rw [interpolate, Eval.globals, hglobals]
        rfl
      refine ⟨fun result w' => ⟨fun h => ?_, fun h => absurd h.1 (by simp)⟩,
        fun h => absurd h (by simp)⟩
      rw [hrun] at h
      cases h
  | some globals =>
      refine ⟨fun result w' => ?_, fun _ hw hparts => ?_⟩
      · rw [interpolate_eq hglobals, fills_iff]
        constructor
        · intro h
          obtain ⟨_, w₁, hcheck, hrest⟩ := Faulting.run_bind_eq_ok.mp h
          obtain ⟨out, hrun, rfl⟩ := Faulting.run_map_eq_ok.mp hrest
          obtain ⟨hw, rfl⟩ := Eval.run_checkCancelled_eq_ok.mp hcheck
          rw [String.toList_ofList]
          exact ⟨rfl, hw, hrun⟩
        · rintro ⟨-, hw, hrun⟩
          rw [Faulting.run_bind_of_ok (Eval.run_checkCancelled_of_none hw), Faulting.run_map, hrun]
          simp only [Except.map, String.ofList_toList]
      · have hverbatim : ∀ t ∈ (parseDocument source.toList).parts,
            t.contribution = .verbatim t.render := fun t ht =>
          Tree.contribution_eq_verbatim (hparts t ht).1 (hparts t ht).2.1 (hparts t ht).2.2
        rw [interpolate_eq hglobals,
          Faulting.run_bind_of_ok (Eval.run_checkCancelled_of_none hw), Faulting.run_map,
          run_contributedAll_verbatim hw hverbatim, renderAll_parts]
        simp only [Except.map, String.ofList_toList]

end TemplateScript
