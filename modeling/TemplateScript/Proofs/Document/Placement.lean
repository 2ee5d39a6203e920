import TemplateScript.Document.Parse
import TemplateScript.Evaluation.Template
import TemplateScript.Proofs.Document.Lossless

/-!
# Where the nodes of a document stand

A node occurs in a tree behind the text that the nodes before it render as. In the tree of a text
each node carries the line and the column of the place where its own rendering begins in the text,
and the renderings of its children, one after another, are its own.

`StandsAt` is what the parts of the tree are built with: the position that a node carries is the one
from which its children are counted on.
-/

namespace TemplateScript

namespace Position

/-- The line and the column of the place behind a text, both counted from one. -/
def behind (before : List Char) : Position :=
  ⟨before.count '\n' + 1, (before.reverse.takeWhile (· != '\n')).length + 1⟩

theorem start_advance (before : List Char) : start.advance before = behind before := by
  induction before using List.reverseRecOn with
  | nil => rfl
  | append_singleton before c ih =>
      rw [advance_append, ih, advance_cons, advance_nil, next]
      by_cases hline : c = '\n'
      · simp [behind, hline]
      · simp [behind, hline]

end Position

namespace Tree

/-- A node of a tree, with the text that is rendered before it. -/
inductive Occurs : Tree → List Char → Tree → Prop
  | root (t : Tree) : Occurs t [] t
  | child {kind : Option String} {left right : List Tree} {t u : Tree} {text : Option String}
      {position : Option Position} {before : List Char} (h : Occurs t before u) :
      Occurs (.node kind (some (left ++ t :: right)) text position) (renderAll left ++ before) u

mutual

theorem occurs_of_mem_nodes {t u : Tree} (h : u ∈ t.nodes) : ∃ before, Occurs t before u := by
  match t with
  | .node kind none text position =>
      rw [nodes, List.mem_singleton] at h
      exact ⟨[], h ▸ .root u⟩
  | .node kind (some children) text position =>
      rw [nodes] at h
      rcases List.mem_cons.mp h with hroot | hbelow
      · exact ⟨[], hroot ▸ .root u⟩
      · obtain ⟨left, t, right, before, rfl, hoccurs⟩ := occurs_of_mem_nodesOfAll hbelow
        exact ⟨_, .child hoccurs⟩

theorem occurs_of_mem_nodesOfAll {trees : List Tree} {u : Tree} (h : u ∈ nodesOfAll trees) :
    ∃ left t right before, trees = left ++ t :: right ∧ Occurs t before u := by
  match trees with
  | [] => cases h
  | t :: rest =>
      rw [nodesOfAll] at h
      rcases List.mem_append.mp h with hfirst | hrest
      · obtain ⟨before, hoccurs⟩ := occurs_of_mem_nodes hfirst
        exact ⟨[], t, rest, before, rfl, hoccurs⟩
      · obtain ⟨left, other, right, before, rfl, hoccurs⟩ := occurs_of_mem_nodesOfAll hrest
        exact ⟨t :: left, other, right, before, rfl, hoccurs⟩

end

theorem renderAll_append (left right : List Tree) :
    renderAll (left ++ right) = renderAll left ++ renderAll right := by
  induction left with
  | nil => rfl
  | cons t rest ih => rw [List.cons_append, renderAll, ih, renderAll, List.append_assoc]

mutual

/-- A node carries its position, and its children, if it has any, render as consecutive texts from
there on. -/
inductive StandsAt : Position → Tree → Prop
  | leaf {kind : Option String} {text : String} {position : Position} :
      StandsAt position (.node kind none (some text) (some position))
  | branch {kind : Option String} {children : List Tree} {position : Position}
      (h : StandFrom position children) :
      StandsAt position (.node kind (some children) none (some position))

inductive StandFrom : Position → List Tree → Prop
  | nil {position : Position} : StandFrom position []
  | cons {position : Position} {t : Tree} {rest : List Tree} (first : StandsAt position t)
      (others : StandFrom (position.advance t.render) rest) : StandFrom position (t :: rest)

end

theorem StandFrom.at_middle {position : Position} {left right : List Tree} {t : Tree}
    (h : StandFrom position (left ++ t :: right)) :
    StandsAt (position.advance (renderAll left)) t := by
  induction left generalizing position with
  | nil =>
      cases h with
      | cons first _ => exact first
  | cons first rest ih =>
      cases h with
      | cons _ others =>
          rw [renderAll, Position.advance_append]
          exact ih others

theorem StandsAt.of_occurs {position : Position} {t u : Tree} {before : List Char}
    (hoccurs : Occurs t before u) (h : StandsAt position t) :
    StandsAt (position.advance before) u := by
  induction hoccurs generalizing position with
  | root t => exact h
  | child _ ih =>
      cases h with
      | branch hchildren =>
          rw [Position.advance_append]
          exact ih hchildren.at_middle

theorem StandsAt.render_of_occurs {position : Position} {t u : Tree} {before : List Char}
    (hoccurs : Occurs t before u) (h : StandsAt position t) :
    ∃ after, t.render = before ++ u.render ++ after := by
  induction hoccurs generalizing position with
  | root t => exact ⟨[], by simp⟩
  | @child _ _ right _ _ _ _ _ _ ih =>
      cases h with
      | branch hchildren =>
          obtain ⟨after, hrender⟩ := ih hchildren.at_middle
          refine ⟨after ++ renderAll right, ?_⟩
          rw [render, renderAll_append, renderAll, hrender]
          simp only [List.append_assoc]

theorem StandsAt.position?_eq {position : Position} {t : Tree} (h : StandsAt position t) :
    t.position? = some position := by
  cases h <;> rfl

theorem StandsAt.render_eq_renderAll {position : Position} {t : Tree} (h : StandsAt position t)
    {children : List Tree} (hchildren : t.children? = some children) :
    t.render = renderAll children := by
  cases h with
  | leaf => simp [children?] at hchildren
  | branch _ =>
      obtain rfl := Option.some.inj hchildren
      rfl

theorem render_leaf (kind : String) (text : List Char) (position : Position) :
    (leaf kind text position).render = text := by
  simp [leaf, render]

theorem consecutive_standFrom (position : Position) (parts : List (String × List Char)) :
    StandFrom position (consecutive position parts) := by
  induction parts generalizing position with
  | nil => exact .nil
  | cons part rest ih =>
      refine .cons .leaf ?_
      rw [render_leaf]
      exact ih _

theorem renderAll_consecutive (position : Position) (parts : List (String × List Char)) :
    renderAll (consecutive position parts) = parts.flatMap (·.2) := by
  induction parts generalizing position with
  | nil => rfl
  | cons part rest ih => rw [consecutive, renderAll, render_leaf, ih, List.flatMap_cons]

end Tree

namespace Segment

theorem toTree_standsAt (position : Position) (segment : Segment) :
    (segment.toTree position).StandsAt position := by
  cases segment with
  | directive expression => exact .branch (Tree.consecutive_standFrom ..)
  | escape c => exact .leaf
  | wikiLink page label => exact .branch (Tree.consecutive_standFrom ..)
  | «attribute» name colon value => exact .branch (Tree.consecutive_standFrom ..)
  | text content => exact .leaf

theorem render_toTree (position : Position) (segment : Segment) :
    (segment.toTree position).render = segment.render := by
  cases segment with
  | wikiLink page label =>
      cases label <;>
        simp [toTree, Tree.branch, Tree.render, Tree.renderAll_consecutive, render]
  | _ =>
      simp [toTree, Tree.branch, Tree.render, Tree.renderAll_consecutive, Tree.render_leaf, render]

theorem toTrees_standFrom (position : Position) (segments : List Segment) :
    Tree.StandFrom position (toTrees position segments) := by
  induction segments generalizing position with
  | nil => exact .nil
  | cons segment rest ih =>
      refine .cons (toTree_standsAt position segment) ?_
      rw [render_toTree]
      exact ih _

theorem kind_toTree_eq_text {position : Position} {segment : Segment} :
    (segment.toTree position).kind = some "Text" ↔ segment.isText := by
  cases segment <;> simp [toTree, Tree.branch, Tree.leaf, Tree.kind, isText]

theorem toTrees_isChain (position : Position) {segments : List Segment}
    (h : segments.IsChain fun left right => ¬(left.isText ∧ right.isText)) :
    (toTrees position segments).IsChain fun left right =>
      ¬(left.kind = some "Text" ∧ right.kind = some "Text") := by
  induction segments generalizing position with
  | nil => exact .nil
  | cons segment rest ih =>
      have hchain := List.isChain_cons.mp h
      refine List.isChain_cons.mpr ⟨fun right hright => ?_, ih _ hchain.2⟩
      cases rest with
      | nil => simp [toTrees] at hright
      | cons first others =>
          obtain rfl := Option.some.inj hright
          rw [kind_toTree_eq_text, kind_toTree_eq_text]
          exact hchain.1 first rfl

theorem renderAll_toTrees (position : Position) (segments : List Segment) :
    Tree.renderAll (toTrees position segments) = segments.flatMap render := by
  induction segments generalizing position with
  | nil => rfl
  | cons segment rest ih => rw [toTrees, Tree.renderAll, render_toTree, ih, List.flatMap_cons]

end Segment

/-- The tree of a text renders as that text. -/
theorem render_parseDocument (source : List Char) : (parseDocument source).render = source := by
  rw [parseDocument, Tree.branch, Tree.render, Segment.renderAll_toTrees, Segment.split_lossless]

theorem parseDocument_standsAt (source : List Char) : (parseDocument source).StandsAt .start :=
  .branch (Segment.toTrees_standFrom ..)

namespace Tree

/-- A node behind the text `before` of a source. -/
structure Placed (source before : List Char) (u : Tree) : Prop where
  position : u.position? = some (.behind before)
  slice : ∃ after, source = before ++ u.render ++ after
  /-- The renderings of the children, in order and without gaps, are that of the node. -/
  siblings : ∀ children, u.children? = some children → u.render = renderAll children

theorem Occurs.placed {source before : List Char} {u : Tree}
    (h : (parseDocument source).Occurs before u) : u.Placed source before := by
  have hstands := parseDocument_standsAt source
  have hnode := hstands.of_occurs h
  refine ⟨?_, ?_, fun children => hnode.render_eq_renderAll⟩
  · rw [hnode.position?_eq, Position.start_advance]
  · obtain ⟨after, hrender⟩ := hstands.render_of_occurs h
    exact ⟨after, (render_parseDocument source).symm.trans hrender⟩

end Tree

/-- Every text is read as a document that renders as it. Each node carries the place at which its
rendering begins, and plain text beside plain text is one node. -/
theorem parseDocument_placed (source : String) :
    ∃ tree, parseTemplate (.str source) = .ok tree ∧ tree.render = source.toList ∧
      (∀ before u, tree.Occurs before u → u.Placed source.toList before) ∧
      ∃ children, tree.kind = some "Document" ∧ tree.children? = some children ∧
        children.IsChain fun left right =>
          ¬(left.kind = some "Text" ∧ right.kind = some "Text") := by
  refine ⟨parseDocument source.toList, rfl, render_parseDocument source.toList,
    fun before u hoccurs => hoccurs.placed, _, rfl, rfl, ?_⟩
  exact Segment.toTrees_isChain .start (Segment.merge_isChain _)

end TemplateScript
