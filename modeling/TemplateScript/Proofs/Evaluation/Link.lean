import TemplateScript.Proofs.Document.Link
import TemplateScript.Proofs.Evaluation.Filling
import TemplateScript.Proofs.Evaluation.Globals
import TemplateScript.Proofs.Evaluation.Pieces

/-!
# Directives in filled links

A link whose page is all of a directive is filled with what the directive by itself is filled with,
between the brackets, and fails in the same words. Where the page is not all of the directive, its
expression is no part of the template any more, and nothing comes to its value.
-/

namespace TemplateScript

/-! ### Expressions in documents -/

namespace Segment

/-- The expression of a directive. -/
def expression? : Segment → Option (List Char)
  | .directive expression => some expression
  | _ => none

/-- The part of a segment in which an expression may stand. -/
def core : Segment → List Char
  | .wikiLink page _ => page
  | segment => segment.render

theorem length_core_le (segment : Segment) : segment.core.length ≤ segment.render.length := by
  cases segment with
  | wikiLink page label =>
      simp only [core, render, List.length_cons, List.length_append, List.length_nil]
      omega
  | _ => exact Nat.le_refl _

theorem length_render_le {segment : Segment} {source : List Char} (h : segment ∈ split source) :
    segment.render.length ≤ source.length := by
  obtain ⟨before, after, hsplit⟩ := List.append_of_mem h
  have hlossless := congrArg List.length (split_lossless source)
  rw [hsplit, List.flatMap_append, List.flatMap_cons, List.length_append, List.length_append]
    at hlossless
  omega

theorem length_expression_of_mem {expression source : List Char}
    (h : (split source).findSome? expression? = some expression) :
    expression.length + 3 ≤ source.length := by
  obtain ⟨segment, hmem, hexpression⟩ := List.exists_of_findSome?_eq_some h
  have hrender := length_render_le hmem
  cases segment with
  | directive inner =>
      obtain rfl := Option.some.inj hexpression
      simp only [render, List.length_append, List.length_cons, List.length_nil] at hrender
      omega
  | _ => cases hexpression

end Segment

theorem findInAll?_toTrees (position : Position) (segments : List Segment) :
    (Tree.findInAll? (fun t => t.kind == some "DirectiveExpression")
      (Segment.toTrees position segments)).map Tree.render =
        segments.findSome? Segment.expression? := by
  induction segments generalizing position with
  | nil => rfl
  | cons segment rest ih =>
      have hfirst : ((segment.toTree position).findKind? (some "DirectiveExpression")).map
          Tree.render = segment.expression? := by
        cases segment with
        | directive expression =>
            simp [Segment.toTree, Tree.consecutive, Tree.branch, Tree.leaf, Tree.findKind?,
              Tree.find?, Tree.findInAll?, Tree.kind, Tree.render, Segment.expression?]
        | wikiLink page label => cases label <;> rfl
        | _ => rfl
      rw [Segment.toTrees, Tree.findInAll?, List.findSome?_cons, ← hfirst]
      cases hfound : (segment.toTree position).findKind? (some "DirectiveExpression") with
      | some found =>
          rw [Tree.findKind?] at hfound
          rw [hfound]
          rfl
      | none =>
          rw [Tree.findKind?] at hfound
          rw [hfound]
          exact ih _

/-- The text of a directive in a document is the expression of the first one. -/
theorem directiveText?_parseDocument (text : List Char) :
    (parseDocument text).directiveText? =
      ((Segment.split text).findSome? Segment.expression?).map String.ofList := by
  have hfind : (parseDocument text).findKind? (some "DirectiveExpression") =
      Tree.findInAll? (fun t => t.kind == some "DirectiveExpression")
        (Segment.toTrees .start (Segment.split text)) :=
    rfl
  rw [Tree.directiveText?, hfind, ← findInAll?_toTrees, Option.map_map]
  rfl

theorem contribution_leaf {kind : String} (hkind : some kind ∉ fillableKinds) {text : List Char}
    {position : Position} :
    (Tree.leaf kind text position).contribution = .verbatim text := by
  have hverbatim := contribution_of_kind (show (Tree.leaf kind text position).kind ∉ _ from hkind)
  rwa [Tree.render_leaf] at hverbatim

theorem contribution_text (position : Position) (content : List Char) :
    ((Segment.text content).toTree position).contribution = .verbatim content :=
  contribution_leaf (by decide)

theorem Tree.contribution_eq_display {t : Tree} {source : String}
    (h : t.contribution = .display source) :
    t.kind = some "Directive" ∨
      t.kind = some "WikiLinkPage" ∧ (parseDocument t.render).directiveText? = some source := by
  unfold contribution at h
  split_ifs at h with _ hdirective hpage
  · exact .inl hdirective
  · split at h
    · next found hfound =>
        cases h
        exact .inr ⟨hpage, hfound⟩
    · cases h

theorem consecutive_leaf {position : Position} {parts : List (String × List Char)} {t : Tree}
    (ht : t ∈ Tree.consecutive position parts) :
    ∃ part ∈ parts, t.kind = some part.1 ∧ t.render = part.2 := by
  induction parts generalizing position with
  | nil => cases ht
  | cons part rest ih =>
      rcases List.mem_cons.mp ht with rfl | hrest
      · exact ⟨part, List.mem_cons_self, rfl, Tree.render_leaf ..⟩
      · obtain ⟨found, hmem, hfound⟩ := ih hrest
        exact ⟨found, List.mem_cons_of_mem part hmem, hfound⟩

/-- The leaf of a link in the place of which an expression is shown is the page. -/
theorem render_of_display_link {position : Position} {page : List Char}
    {label : Option (List Char)} {t : Tree} {source : String}
    (ht : t ∈ ((Segment.wikiLink page label).toTree position).spread)
    (h : t.contribution = .display source) :
    t.render = page ∧ (parseDocument t.render).directiveText? = some source := by
  obtain ⟨part, hpart, hkind, hrender⟩ := consecutive_leaf ht
  have hpage : part.1 ≠ "Directive" ∧ (part.1 = "WikiLinkPage" → part.2 = page) := by
    cases label with
    | none =>
        simp only [List.append_nil, List.cons_append, List.nil_append, List.mem_cons,
          List.not_mem_nil, or_false] at hpart
        rcases hpart with rfl | rfl | rfl <;> simp
    | some text =>
        simp only [List.cons_append, List.nil_append, List.mem_cons, List.not_mem_nil,
          or_false] at hpart
        rcases hpart with rfl | rfl | rfl | rfl <;> simp
  rcases Tree.contribution_eq_display h with hdirective | ⟨hlinkPage, hfound⟩
  · rw [hdirective] at hkind
    exact absurd (Option.some.inj hkind).symm hpage.1
  · rw [hlinkPage] at hkind
    exact ⟨hrender.trans (hpage.2 (Option.some.inj hkind).symm), hfound⟩

/-- The expression that is shown in the place of a node is shorter than the text in which it may
stand, by the marks around it. -/
theorem length_of_display {segment : Segment} {position : Position} {t : Tree} {source : String}
    (ht : t ∈ (segment.toTree position).spread) (h : t.contribution = .display source) :
    source.toList.length + 3 ≤ segment.core.length := by
  cases segment with
  | directive expression =>
      obtain rfl := List.mem_singleton.mp ht
      rw [contribution_directive] at h
      cases h
      simp [Segment.core, Segment.render]
  | wikiLink page label =>
      obtain ⟨rfl, hfound⟩ := render_of_display_link ht h
      rw [directiveText?_parseDocument] at hfound
      obtain ⟨expression, hexpression, rfl⟩ := Option.map_eq_some_iff.mp hfound
      rw [String.toList_ofList]
      exact Segment.length_expression_of_mem hexpression
  | _ =>
      obtain rfl := List.mem_singleton.mp ht
      rcases Tree.contribution_eq_display h with hkind | ⟨hkind, -⟩ <;>
        simp [Segment.toTree, Tree.leaf, Tree.branch, Tree.kind] at hkind

/-- A part of a document is a part of one of its segments. -/
theorem exists_segment_of_mem {position : Position} {segments : List Segment} {t : Tree}
    (ht : t ∈ (Segment.toTrees position segments).flatMap Tree.spread) :
    ∃ segment ∈ segments, ∃ position, t ∈ (Segment.toTree position segment).spread := by
  induction segments generalizing position with
  | nil => cases ht
  | cons segment rest ih =>
      rw [Segment.toTrees, List.flatMap_cons, List.mem_append] at ht
      rcases ht with hfirst | hrest
      · exact ⟨segment, List.mem_cons_self, position, hfirst⟩
      · obtain ⟨found, hmem, hfound⟩ := ih hrest
        exact ⟨found, List.mem_cons_of_mem segment hmem, hfound⟩

/-! ### Directives by themselves and in links -/

/-- A text that is a single directive by itself. -/
def StandsAlone (expression : List Char) : Prop :=
  ∃ t, (parseDocument (Segment.directive expression).render).children? = some [t] ∧
    t.kind = some "Directive"

theorem split_of_standsAlone {expression : List Char} (h : StandsAlone expression) :
    Segment.split (Segment.directive expression).render = [.directive expression] := by
  obtain ⟨t, hchildren, hkind⟩ := h
  have htrees : Segment.toTrees .start (Segment.split (Segment.directive expression).render) =
      [t] :=
    Option.some.inj hchildren
  have hlossless := Segment.split_lossless (Segment.directive expression).render
  rcases hsplit : Segment.split (Segment.directive expression).render with
    _ | ⟨segment, _ | ⟨second, others⟩⟩
  · rw [hsplit] at htrees
    cases htrees
  · rw [hsplit] at htrees hlossless
    obtain rfl := (List.cons.inj htrees).1
    cases segment with
    | directive inner =>
        simp only [List.flatMap_cons, List.flatMap_nil, List.append_nil, Segment.render,
          List.cons_append, List.cons.injEq, true_and, List.append_cancel_right_eq] at hlossless
        rw [hlossless]
    | _ => simp [Segment.toTree, Tree.leaf, Tree.branch, Tree.kind] at hkind
  · rw [hsplit] at htrees
    cases htrees

theorem parts_of_standsAlone {expression : List Char} (h : StandsAlone expression) :
    ∃ t, (parseDocument (Segment.directive expression).render).parts = [t] ∧
      t.contribution = .display (String.ofList expression) := by
  refine ⟨(Segment.directive expression).toTree .start, ?_, contribution_directive _ _⟩
  show (Segment.toTrees .start (Segment.split (Segment.directive expression).render)).flatMap
    Tree.spread = _
  rw [split_of_standsAlone h]
  rfl

/-- The parts of a link whose page is all of a directive, or of one that is no link. -/
theorem parts_linkedDirective {expression : List Char} (halone : StandsAlone expression)
    (hkeeps : Segment.PageKeeps expression) :
    ∃ opening t closing,
      (parseDocument (Segment.linkedDirective expression)).parts = [opening, t, closing] ∧
        opening.contribution = .verbatim ['[', '['] ∧
        t.contribution = .display (String.ofList expression) ∧
        closing.contribution = .verbatim [']', ']'] := by
  have hsplit := split_of_standsAlone halone
  have hparts : (parseDocument (Segment.linkedDirective expression)).parts =
      (Segment.toTrees .start (Segment.split (Segment.linkedDirective expression))).flatMap
        Tree.spread :=
    rfl
  cases hlink : Segment.wikiLink? (Segment.linkedDirective expression) with
  | none =>
      rw [Segment.split_linkedDirective_of_not_link hsplit hlink] at hparts
      exact ⟨_, _, _, hparts, contribution_text _ _, contribution_directive _ _,
        contribution_text _ _⟩
  | some found =>
      obtain ⟨segment, after⟩ := found
      obtain ⟨page, label, rfl, -⟩ := Segment.wikiLink?_reads _ hlink
      obtain rfl := hkeeps page label after hlink
      rw [Segment.split_linkedDirective_of_page hlink] at hparts
      refine ⟨_, _, _, hparts, contribution_leaf (by decide), ?_, contribution_leaf (by decide)⟩
      rw [Tree.contribution_eq, Tree.spliced?]
      have hrender := Tree.render_leaf "WikiLinkPage" (Segment.directive expression).render
      simp [Tree.leaf, Tree.kind, Tree.render, directiveText?_parseDocument, hsplit,
        Segment.expression?]

/-- Where the page of a link is not all of the directive, the expression is shown nowhere. -/
theorem contribution_ne_display {expression : List Char} (h : ¬Segment.PageKeeps expression)
    {t : Tree} (ht : t ∈ (parseDocument (Segment.linkedDirective expression)).parts) :
    t.contribution ≠ .display (String.ofList expression) := by
  obtain ⟨page, label, after, hsplit, hpage, hafter⟩ :=
    Segment.split_linkedDirective_of_not_keeps h
  have ht : t ∈ (Segment.toTrees .start
      (Segment.split (Segment.linkedDirective expression))).flatMap Tree.spread := ht
  rw [hsplit] at ht
  obtain ⟨segment, hsegment, position, hmem⟩ := exists_segment_of_mem ht
  have hcore : segment.core.length < (Segment.directive expression).render.length := by
    rcases List.mem_cons.mp hsegment with rfl | hlater
    · exact hpage
    · have hrender := Segment.length_render_le hlater
      have hcore := Segment.length_core_le segment
      omega
  intro hdisplay
  have hlength := length_of_display hmem hdisplay
  simp only [String.toList_ofList, Segment.render, List.cons_append, List.length_cons,
    List.length_append, List.length_nil] at hlength hcore
  omega

/-! ### Filled templates -/

/-- The outcome with a link, as against the outcome with its page alone. -/
inductive BetweenBrackets {σ : Type} (frame : Frame) :
    Except Fault String × World σ → Except Fault String × World σ → Prop
  | text {text : String} {w : World σ} (hw : w.cancellation = none) :
      BetweenBrackets frame (.ok text, w) (.ok ("[[" ++ text ++ "]]"), w)
  /-- The closing brackets are one more part of the template, before which it is seen that the
  evaluation was cancelled in the meantime. -/
  | cancelled {text reason : String} {w w' : World σ} (hw : w.cancellation = some reason) :
      BetweenBrackets frame (.ok text, w)
        (.error (.runtime (.cancelled reason) .cancelled frame.source none), w')
  | fault {fault fault' : Fault} {w w' : World σ} (hmessage : fault'.message = fault.message)
      (hkind : fault'.kind = fault.kind) :
      BetweenBrackets frame (.error fault, w) (.error fault', w')

/-- What agrees with two outcomes is related as they are. -/
theorem BetweenBrackets.of_agree {σ : Type} {frame : Frame} {w : World σ}
    {alone alone' linked linked' : Eval σ String} (halone : Faulting.Agree alone alone')
    (hlinked : Faulting.Agree linked linked')
    (h : BetweenBrackets frame (alone.run w) (linked.run w)) :
    BetweenBrackets frame (alone'.run w) (linked'.run w) := by
  rcases halone.run_cases w with ⟨text, w₁, hrun, hrun'⟩ | ⟨fault, w₁, w₂, hrun, hrun'⟩ <;>
    rcases hlinked.run_cases w with ⟨text', w₃, hlink, hlink'⟩ | ⟨fault', w₃, w₄, hlink, hlink'⟩ <;>
    rw [hrun, hlink] at h <;> rw [hrun', hlink']
  · exact h
  · cases h with
    | cancelled hw => exact .cancelled hw
  · cases h
  · cases h with
    | fault hmessage hkind => exact .fault hmessage hkind

section

variable {σ : Type} {hosts : HostFunctions σ} {nested : Nested σ} {frame : Frame}
  {augmentation : Value} {globals : Bindings} {w : World σ}

/-- A part that shows an expression, by itself and between two parts that stand for brackets. -/
theorem run_contributedAll_between {opening t t' closing : Tree} {source : String}
    (hopening : opening.contribution = .verbatim ['[', '['])
    (ht : t.contribution = .display source) (ht' : t'.contribution = .display source)
    (hclosing : closing.contribution = .verbatim [']', ']']) :
    BetweenBrackets frame
      ((String.ofList <$> contributedAll hosts nested frame augmentation [t']).run w)
      ((String.ofList <$>
        contributedAll hosts nested frame augmentation [opening, t, closing]).run w) := by
  rw [contributedAll_singleton, Faulting.run_map, Faulting.run_map]
  cases hw : w.cancellation with
  | some reason =>
      rw [run_contributed_of_cancelled hw, contributedAll,
        Faulting.run_bind_of_error (run_contributed_of_cancelled hw)]
      exact .fault rfl rfl
  | none =>
      rw [contributedAll, Faulting.run_bind_of_ok (run_contributed_verbatim hw hopening),
        contributedAll, contributedAll_singleton]
      rcases hrun : (displayed hosts nested frame augmentation source).run w with
        ⟨fault | shown, w₁⟩
      · rw [run_contributed_of_fault hw ht' hrun, bind_assoc,
          Faulting.run_bind_of_error (run_contributed_of_fault hw ht hrun)]
        exact .fault (by rw [message_blame, message_blame]) (by rw [kind_blame, kind_blame])
      · rw [run_contributed_of_shown hw ht' hrun, bind_assoc,
          Faulting.run_bind_of_ok (run_contributed_of_shown hw ht hrun), bind_assoc]
        cases hw₁ : w₁.cancellation with
        | some reason =>
            rw [Faulting.run_bind_of_error (run_contributed_of_cancelled hw₁)]
            exact .cancelled hw₁
        | none =>
            rw [Faulting.run_bind_of_ok (run_contributed_verbatim hw₁ hclosing)]
            have htext : String.ofList (['[', '['] ++ (shown.toList ++ [']', ']'])) =
                "[[" ++ String.ofList shown.toList ++ "]]" := by
              rw [← List.append_assoc, String.ofList_append, String.ofList_append]
            have hbrackets : BetweenBrackets frame (.ok (String.ofList shown.toList), w₁)
                (.ok _, w₁) := .text hw₁
            rw [← htext] at hbrackets
            exact hbrackets

theorem interpolate_linkedDirective {source : String} (halone : StandsAlone source.toList)
    (hkeeps : Segment.PageKeeps source.toList) (concurrent : Bool) (w : World σ) :
    BetweenBrackets frame
      ((interpolate hosts nested concurrent frame (.str ("$\x7b" ++ source ++ "\x7d"))
        augmentation).run w)
      ((interpolate hosts nested concurrent frame (.str ("[[$\x7b" ++ source ++ "\x7d]]"))
        augmentation).run w) := by
  refine .of_agree (interpolate_agree hosts nested concurrent frame _ _)
    (interpolate_agree hosts nested concurrent frame _ _) ?_
  cases hglobals : frame.globals with
  | none =>
      rw [lacksGlobals_interpolate hglobals, lacksGlobals_interpolate hglobals]
      exact .fault rfl rfl
  | some globals =>
      have hdirective : ("$\x7b" ++ source ++ "\x7d").toList =
          (Segment.directive source.toList).render := by
        simp [Segment.render]
      have hlinked : ("[[$\x7b" ++ source ++ "\x7d]]").toList =
          Segment.linkedDirective source.toList := by
        simp [Segment.linkedDirective, Segment.render]
      obtain ⟨t', hparts', ht'⟩ := parts_of_standsAlone halone
      obtain ⟨opening, t, closing, hparts, hopening, ht, hclosing⟩ :=
        parts_linkedDirective halone hkeeps
      rw [interpolate_eq hglobals, interpolate_eq hglobals, hdirective, hlinked, hparts', hparts]
      cases hw : w.cancellation with
      | some reason =>
          rw [Faulting.run_bind_of_error (Eval.run_checkCancelled_of_some hw),
            Faulting.run_bind_of_error (Eval.run_checkCancelled_of_some hw)]
          exact .fault rfl rfl
      | none =>
          rw [Faulting.run_bind_of_ok (Eval.run_checkCancelled_of_none hw),
            Faulting.run_bind_of_ok (Eval.run_checkCancelled_of_none hw)]
          exact run_contributedAll_between hopening ht ht' hclosing

end

/-- A directive in a link is filled as it is by itself if the page of the link is all of it, or if
there is no link. Otherwise its expression is shown nowhere in the link. A directive in which there
is neither a bar nor a closing bracket is always kept whole. -/
theorem interpolate_linked {σ : Type} (hosts : HostFunctions σ) (nested : Nested σ)
    (concurrent : Bool) (frame : Frame) (augmentation : Value) (source : String)
    (halone : StandsAlone source.toList) :
    (Segment.PageKeeps source.toList → ∀ w, BetweenBrackets frame
      ((interpolate hosts nested concurrent frame (.str ("$\x7b" ++ source ++ "\x7d"))
        augmentation).run w)
      ((interpolate hosts nested concurrent frame (.str ("[[$\x7b" ++ source ++ "\x7d]]"))
        augmentation).run w)) ∧
      (¬Segment.PageKeeps source.toList →
        ∀ t ∈ (parseDocument ("[[$\x7b" ++ source ++ "\x7d]]").toList).parts,
          t.contribution ≠ .display source) ∧
      ((∀ c ∈ source.toList, c ≠ '|' ∧ c ≠ ']') → Segment.PageKeeps source.toList) := by
  refine ⟨fun hkeeps w => interpolate_linkedDirective halone hkeeps concurrent w,
    fun hnot t ht => ?_, Segment.pageKeeps_of_forall⟩
  have hlinked : ("[[$\x7b" ++ source ++ "\x7d]]").toList =
      Segment.linkedDirective source.toList := by
    simp [Segment.linkedDirective, Segment.render]
  rw [hlinked] at ht
  have hdisplay := contribution_ne_display hnot ht
  rwa [String.ofList_toList] at hdisplay

theorem interpolate_linked_name :
    let hosts : HostFunctions Unit := fun _ _ => throw .noGlobals
    let frame : Frame := ⟨some [("name", .str "N")], none, none⟩
    let fillIn (template : String) := (interpolate hosts (nestedTo hosts nestingLimit) false frame
      (.str template) .nil).run ⟨none, 0, ()⟩
    StandsAlone "name".toList ∧ Segment.PageKeeps "name".toList ∧
      BetweenBrackets frame (fillIn ("$\x7b" ++ "name" ++ "\x7d"))
        (fillIn ("[[$\x7b" ++ "name" ++ "\x7d]]")) := by
  intro hosts frame fillIn
  have halone : StandsAlone "name".toList := ⟨_, rfl, rfl⟩
  have hlinked := interpolate_linked hosts (nestedTo hosts nestingLimit) false frame .nil "name"
    halone
  have hplain : ∀ c ∈ "name".toList, c ≠ '|' ∧ c ≠ ']' := by
    have hall : "name".toList.all fun c => c != '|' && c != ']' := by decide
    intro c hc
    simpa only [Bool.and_eq_true, bne_iff_ne] using List.all_eq_true.mp hall c hc
  have hkeeps : Segment.PageKeeps "name".toList := hlinked.2.2 hplain
  have hbetween := hlinked.1 hkeeps ⟨none, 0, ()⟩
  exact ⟨halone, hkeeps, hbetween⟩

/-- A brace and a bar in a string. By itself the directive comes to the text of the string, but the
page of the link ends behind the brace, and the link comes to itself. -/
theorem interpolate_linked_brace_bar :
    let hosts : HostFunctions Unit := fun _ _ => throw .noGlobals
    let fillIn (template : String) := (interpolate hosts (nestedTo hosts nestingLimit) false
      ⟨some [], none, none⟩ (.str template) .nil).run ⟨none, 0, ()⟩
    StandsAlone "'\x7d|'".toList ∧
      fillIn ("$\x7b" ++ "'\x7d|'" ++ "\x7d") = (.ok "\x7d|", ⟨none, 0, ()⟩) ∧
      fillIn ("[[$\x7b" ++ "'\x7d|'" ++ "\x7d]]") =
        (.ok "[[$\x7b'\x7d|'\x7d]]", ⟨none, 0, ()⟩) ∧
      "[[$\x7b'\x7d|'\x7d]]" ≠ "[[" ++ "\x7d|" ++ "]]" := by
  intro hosts fillIn
  have halone : StandsAlone "'\x7d|'".toList := ⟨_, rfl, rfl⟩
  have hrun (template : String) : fillIn template =
      (String.ofList <$> contributedAll hosts (nestedTo hosts nestingLimit) ⟨some [], none, none⟩
        .nil (parseDocument template.toList).parts).run ⟨none, 0, ()⟩ := by
    simp only [fillIn]
    rw [interpolate_eq rfl, Faulting.run_bind_of_ok (Eval.run_checkCancelled_of_none rfl)]
  have hshown : (displayed hosts (nestedTo hosts nestingLimit) ⟨some [], none, none⟩ .nil
      "'\x7d|'").run ⟨none, 0, ()⟩ = (.ok "\x7d|", ⟨none, 0, ()⟩) := by
    rfl
  have hpage : (parseDocument "[[$\x7b'\x7d|'\x7d]]".toList).parts =
      [.leaf "WikiLinkMark" ['[', '['] ⟨1, 1⟩, .leaf "WikiLinkPage" "$\x7b'\x7d".toList ⟨1, 3⟩,
        .leaf "WikiLinkAlias" "|'\x7d".toList ⟨1, 7⟩, .leaf "WikiLinkEnd" [']', ']'] ⟨1, 10⟩] := by
    rfl
  have hverbatim : ∀ t ∈ (parseDocument "[[$\x7b'\x7d|'\x7d]]".toList).parts,
      t.contribution = .verbatim t.render := by
    rw [hpage]
    intro t ht
    simp only [List.mem_cons, List.not_mem_nil, or_false] at ht
    rcases ht with rfl | rfl | rfl | rfl <;> rfl
  refine ⟨halone, ?_, ?_, by decide⟩
  · obtain ⟨t, hparts, ht⟩ := parts_of_standsAlone halone
    have hdirective : ("$\x7b" ++ "'\x7d|'" ++ "\x7d").toList =
        (Segment.directive "'\x7d|'".toList).render := by
      decide
    rw [hrun, hdirective, hparts, contributedAll_singleton, Faulting.run_map,
      run_contributed_of_shown rfl ht hshown]
    rfl
  · have hlinked : "[[$\x7b" ++ "'\x7d|'" ++ "\x7d]]" = "[[$\x7b'\x7d|'\x7d]]" := by
      decide
    rw [hlinked, hrun, Faulting.run_map, run_contributedAll_verbatim rfl hverbatim,
      renderAll_parts]
    rfl

end TemplateScript
