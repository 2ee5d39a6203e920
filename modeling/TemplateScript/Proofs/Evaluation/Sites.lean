import TemplateScript.Proofs.Document.Visits
import TemplateScript.Proofs.Evaluation.Visit

/-!
# The sites of a template

A site is a part of a template in the place of which the value of an expression stands: a directive,
or a wiki link page that reads as a document with a directive in it. What a filling does with a node
of a document is told by the node, as far as it settles which nodes are visited, and no site of a
document is left out.
-/

namespace TemplateScript

namespace Tree

/-- A directive, or a wiki link page that reads as a document with a directive in it. -/
def isSite (t : Tree) : Bool :=
  t.kind == some "Directive" ||
    (t.kind == some "WikiLinkPage" && (parseDocument t.render).directiveText?.isSome)

/-- What a filling does with a node that it reaches, as far as the node alone tells. -/
def fillingVisit (t : Tree) : Visit :=
  if (t.kind = some "Escape" ∧ t.render = ['\\', '$']) ∨ t.spliced?.isSome then .replace none
  else .descend

end Tree

theorem Tree.isSome_spliced?_of_kind {t : Tree} (hkind : t.kind ≠ some "Directive") :
    t.spliced?.isSome = t.isSite := by
  rw [spliced?, if_neg hkind, isSite, beq_false_of_ne hkind, Bool.false_or]
  by_cases hpage : t.kind = some "WikiLinkPage"
  · rw [if_pos hpage, hpage, beq_self_eq_true, Bool.true_and]
  · rw [if_neg hpage, beq_false_of_ne hpage, Bool.false_and]
    rfl

theorem Tree.isSite_of_kind {t : Tree} (hkind : t.kind ∉ fillableKinds) : t.isSite = false := by
  have hdirective : t.kind ≠ some "Directive" := fun h => hkind (by simp [h, fillableKinds])
  rw [← isSome_spliced?_of_kind hdirective, spliced?_of_kind hkind]
  rfl

theorem Tree.descends_fillingVisit {t : Tree} (hkind : t.kind ∉ fillableKinds) :
    t.fillingVisit.descends := by
  rw [fillingVisit, if_neg (by simp [not_escape_of_kind hkind, spliced?_of_kind hkind])]
  rfl

namespace Tree

theorem kind_of_mem_consecutive {parts : List (String × List Char)} {position : Position}
    {t : Tree} (h : t ∈ consecutive position parts) :
    ∃ kind ∈ parts.map Prod.fst, t.kind = some kind := by
  induction parts generalizing position with
  | nil => cases h
  | cons part rest ih =>
      rcases List.mem_cons.mp h with hpart | hrest
      · exact ⟨part.1, List.mem_cons_self, by rw [hpart]; rfl⟩
      · obtain ⟨kind, hmem, hkind⟩ := ih hrest
        exact ⟨kind, List.mem_cons_of_mem part.1 hmem, hkind⟩

theorem nodesOfAll_consecutive (position : Position) (parts : List (String × List Char)) :
    nodesOfAll (consecutive position parts) = consecutive position parts := by
  induction parts generalizing position with
  | nil => rw [consecutive, nodesOfAll]
  | cons part rest ih =>
      rw [consecutive, nodesOfAll, ih, leaf, nodes]
      rfl

theorem visited_consecutive (f : Tree → Visit) (position : Position)
    (parts : List (String × List Char)) :
    (consecutive position parts).flatMap (visited f) = consecutive position parts := by
  induction parts generalizing position with
  | nil => rfl
  | cons part rest ih =>
      rw [consecutive, List.flatMap_cons, ih, leaf, visited_leaf]
      rfl

/-- Where nothing stands in the place of a branch, all of it is visited. -/
theorem visited_branch {kind : String} (hkind : some kind ∉ fillableKinds) (position : Position)
    (parts : List (String × List Char)) :
    (branch kind (consecutive position parts) position).visited fillingVisit =
      (branch kind (consecutive position parts) position).nodes := by
  have hdescends : (fillingVisit (branch kind (consecutive position parts) position)).descends :=
    descends_fillingVisit hkind
  rw [branch, visited_of_descends hdescends, visited_consecutive, nodes, nodesOfAll_consecutive]

theorem mem_nodes_branch {kind : String} {position : Position} {parts : List (String × List Char)}
    {t : Tree} (h : t ∈ (branch kind (consecutive position parts) position).nodes) :
    t = branch kind (consecutive position parts) position ∨
      ∃ part ∈ parts.map Prod.fst, t.kind = some part := by
  rw [branch, nodes, nodesOfAll_consecutive] at h
  rcases List.mem_cons.mp h with hroot | hpart
  · exact .inl hroot
  · exact .inr (kind_of_mem_consecutive hpart)

end Tree

namespace Segment

/-- The only directive in the tree of a segment is the root of it. -/
theorem eq_directive_of_kind {position : Position} {segment : Segment} {t : Tree}
    (h : t ∈ (segment.toTree position).nodes) (hkind : t.kind = some "Directive") :
    ∃ expression, t = (directive expression).toTree position := by
  cases segment with
  | directive expression =>
      rcases Tree.mem_nodes_branch h with hroot | ⟨part, hpart, hkind'⟩
      · exact ⟨expression, hroot⟩
      · obtain rfl := Option.some.inj (hkind.symm.trans hkind')
        simp at hpart
  | escape c | text content =>
      rw [toTree, Tree.leaf, Tree.nodes, List.mem_singleton] at h
      simp [h, Tree.kind] at hkind
  | wikiLink page label =>
      rcases Tree.mem_nodes_branch h with hroot | ⟨part, hpart, hkind'⟩
      · simp [hroot, Tree.branch, Tree.kind] at hkind
      · obtain rfl := Option.some.inj (hkind.symm.trans hkind')
        cases label <;> simp at hpart
  | «attribute» name colon value =>
      rcases Tree.mem_nodes_branch h with hroot | ⟨part, hpart, hkind'⟩
      · simp [hroot, Tree.branch, Tree.kind] at hkind
      · obtain rfl := Option.some.inj (hkind.symm.trans hkind')
        simp at hpart

/-- In the tree of a segment the sites are what is spliced. -/
theorem isSome_spliced?_toTree {position : Position} {segment : Segment} {t : Tree}
    (h : t ∈ (segment.toTree position).nodes) : t.spliced?.isSome = t.isSite := by
  by_cases hkind : t.kind = some "Directive"
  · obtain ⟨expression, rfl⟩ := eq_directive_of_kind h hkind
    rw [directive_spliced?]
    rfl
  · exact Tree.isSome_spliced?_of_kind hkind

theorem sites_toTree (position : Position) (segment : Segment) :
    ((segment.toTree position).visited Tree.fillingVisit).filter Tree.isSite =
      (segment.toTree position).nodes.filter Tree.isSite := by
  cases segment with
  | directive expression =>
      have hturns : ((directive expression).toTree position).fillingVisit.descends = false := by
        rw [Tree.fillingVisit, if_pos (.inr (by rw [directive_spliced?]; rfl))]
        rfl
      have hparts : ∀ part ∈ ["DirectiveMark", "DirectiveExpression", "DirectiveEnd"],
          some part ∉ fillableKinds := by
        decide
      have hnone : (Tree.consecutive position [("DirectiveMark", ['$', '\x7b']),
          ("DirectiveExpression", expression), ("DirectiveEnd", ['\x7d'])]).filter Tree.isSite =
          [] := by
        rw [List.filter_eq_nil_iff]
        intro t ht
        obtain ⟨part, hpart, hkind⟩ := Tree.kind_of_mem_consecutive ht
        have hfillable : t.kind ∉ fillableKinds := hkind ▸ hparts part hpart
        simp [Tree.isSite_of_kind hfillable]
      rw [toTree, Tree.branch] at hturns ⊢
      rw [Tree.visited_of_turns hturns, Tree.nodes, Tree.nodesOfAll_consecutive,
        List.filter_cons, List.filter_cons, hnone]
      rfl
  | escape c => rw [toTree, Tree.leaf, Tree.visited_leaf, Tree.nodes]
  | text content => rw [toTree, Tree.leaf, Tree.visited_leaf, Tree.nodes]
  | wikiLink page label | «attribute» name colon value =>
      exact congrArg (List.filter Tree.isSite) (Tree.visited_branch (by decide) position _)

theorem sites_toTrees (position : Position) (segments : List Segment) :
    ((toTrees position segments).flatMap (Tree.visited Tree.fillingVisit)).filter Tree.isSite =
      (Tree.nodesOfAll (toTrees position segments)).filter Tree.isSite := by
  induction segments generalizing position with
  | nil => rfl
  | cons segment rest ih =>
      rw [toTrees, List.flatMap_cons, Tree.nodesOfAll, List.filter_append, List.filter_append,
        sites_toTree, ih]

theorem isSome_spliced?_toTrees {position : Position} {segments : List Segment} {t : Tree}
    (h : t ∈ Tree.nodesOfAll (toTrees position segments)) : t.spliced?.isSome = t.isSite := by
  induction segments generalizing position with
  | nil => cases h
  | cons segment rest ih =>
      rw [toTrees, Tree.nodesOfAll] at h
      rcases List.mem_append.mp h with hfirst | hrest
      · exact isSome_spliced?_toTree hfirst
      · exact ih hrest

end Segment

/-- In a document the sites are what is spliced. -/
theorem isSome_spliced?_parseDocument {source : List Char} {t : Tree}
    (h : t ∈ (parseDocument source).nodes) : t.spliced?.isSome = t.isSite := by
  rw [parseDocument, Tree.branch, Tree.nodes] at h
  rcases List.mem_cons.mp h with hroot | hbelow
  · rw [hroot]
    exact Tree.isSome_spliced?_of_kind (show some "Document" ≠ some "Directive" by decide)
  · exact Segment.isSome_spliced?_toTrees hbelow

/-- A filling reaches all sites of a document unless it fails. -/
theorem sites_parseDocument (source : List Char) :
    ((parseDocument source).visited Tree.fillingVisit).filter (fun t => t.spliced?.isSome) =
      (parseDocument source).nodes.filter Tree.isSite := by
  have hsplice : ((parseDocument source).visited Tree.fillingVisit).filter
      (fun t => t.spliced?.isSome) =
        ((parseDocument source).visited Tree.fillingVisit).filter Tree.isSite :=
    List.filter_congr fun t ht =>
      isSome_spliced?_parseDocument ((Tree.visited_sublist _ _).subset ht)
  have hdescends : (parseDocument source).fillingVisit.descends :=
    Tree.descends_fillingVisit (show some "Document" ∉ fillableKinds by decide)
  rw [hsplice, parseDocument, Tree.branch, Tree.visited_of_descends hdescends, Tree.nodes,
    List.filter_cons, List.filter_cons, Segment.sites_toTrees]

end TemplateScript
