import Mathlib.Data.List.Induction
import Mathlib.Data.List.Nodup
import TemplateScript.Document.Attributes
import TemplateScript.Proofs.Document.Visits
import TemplateScript.Proofs.Evaluation.Augmentation

/-!
# The attributes of a document

The attributes of a text stand side by side: none is inside another one, and each has a name and a
written value. Extraction goes through them in order. A malformed value leaves what was found as it
is, a value that loads is kept under its name and takes the place of an earlier one, and a value
that is well-formed but wrong ends the extraction. So the entry of a name is that of the last
attribute of this name that loads, whatever stands under other names. All this is so whichever
values the loader reads and whichever it refuses.
-/

namespace TemplateScript

/-! ### Entries in turn -/

namespace Bindings

/-- Binds names to values in turn. -/
def setAll (bindings : Bindings) (entries : List (String × Value)) : Bindings :=
  entries.foldl (fun bindings entry => bindings.set entry.1 entry.2) bindings

/-- The last value that entries give to a name. -/
def lastOf? (entries : List (String × Value)) (name : String) : Option Value :=
  (entries.filter fun entry => entry.1 = name).getLast?.map Prod.snd

theorem lastOf?_concat (entries : List (String × Value)) (own name : String) (v : Value) :
    lastOf? (entries ++ [(own, v)]) name =
      if name = own then some v else lastOf? entries name := by
  by_cases h : name = own
  · simp [lastOf?, h]
  · simp [lastOf?, h, Ne.symm h]

theorem get?_setAll (entries : List (String × Value)) (name : String) :
    (setAll [] entries).get? name = lastOf? entries name := by
  induction entries using List.reverseRecOn with
  | nil => rfl
  | append_singleton entries entry ih =>
      obtain ⟨own, v⟩ := entry
      have hlast : setAll [] (entries ++ [(own, v)]) = (setAll [] entries).set own v := by
        simp [setAll]
      rw [hlast, get?_set, lastOf?_concat, ih]

theorem names_set (bindings : Bindings) (name : String) (v : Value) :
    (bindings.set name v).names =
      if name ∈ bindings.names then bindings.names else bindings.names ++ [name] := by
  induction bindings with
  | nil => rfl
  | cons binding rest ih =>
      rw [set]
      by_cases h : binding.1 = name
      · simp [names, h]
      · rw [if_neg h]
        simp only [names, List.map_cons, List.mem_cons, Ne.symm h, false_or] at ih ⊢
        by_cases hmem : name ∈ rest.map fun binding => binding.1
        · simp [ih, hmem]
        · simp [ih, hmem]

theorem nodup_names_set {bindings : Bindings} (h : bindings.names.Nodup) (name : String)
    (v : Value) : (bindings.set name v).names.Nodup := by
  rw [names_set]
  split
  · exact h
  · next hnew => simpa using List.Nodup.concat hnew h

theorem nodup_names_setAll (entries : List (String × Value)) :
    (setAll [] entries).names.Nodup := by
  have hstep (bindings : Bindings) (h : bindings.names.Nodup) :
      (bindings.setAll entries).names.Nodup := by
    induction entries generalizing bindings with
    | nil => exact h
    | cons entry rest ih => exact ih _ (nodup_names_set h entry.1 entry.2)
  exact hstep [] .nil

end Bindings

namespace Tree

/-! ### One attribute after another -/

section

variable (load : List Char → Except Yaml.LoadFault Value)

/-- The name and the value that an attribute gives, if its text has a value. -/
def given? (a : Tree) : Option (String × Value) :=
  match a.nameAndValue? with
  | none => none
  | some (name, text) =>
    match load text with
    | .ok v => some (String.ofList name, v.withoutDates)
    | .error _ => none

/-- Why the text of an attribute has no value although it is well-formed. -/
def contentFault? (a : Tree) : Option Yaml.ContentFault :=
  match a.nameAndValue? with
  | none => none
  | some (_, text) =>
    match load text with
    | .error (.content why) => some why
    | _ => none

theorem addAttribute_eq (found : Bindings) (a : Tree) :
    addAttribute load found a =
      match a.contentFault? load with
      | some why => .error why
      | none => .ok (found.setAll (a.given? load).toList) := by
  unfold addAttribute contentFault? given?
  cases a.nameAndValue? with
  | none => rfl
  | some parts =>
      obtain ⟨name, text⟩ := parts
      simp only [attributeValue?]
      cases load text with
      | ok v => rfl
      | error fault => cases fault <;> rfl

/-- The first fault ends the extraction; without one every attribute that has a value is bound. -/
theorem foldlM_addAttribute (nodes : List Tree) (found : Bindings) :
    nodes.foldlM (addAttribute load) found =
      match nodes.findSome? (contentFault? load) with
      | some why => .error why
      | none => .ok (found.setAll (nodes.filterMap (given? load))) := by
  induction nodes generalizing found with
  | nil => rfl
  | cons a rest ih =>
      rw [List.foldlM_cons, List.findSome?_cons]
      cases hfault : a.contentFault? load with
      | some why =>
          rw [addAttribute_eq, hfault]
          rfl
      | none =>
          have hentries : (found.setAll (a.given? load).toList).setAll
              (rest.filterMap (given? load)) =
                found.setAll ((a :: rest).filterMap (given? load)) := by
            rw [Bindings.setAll, Bindings.setAll, ← List.foldl_append, List.filterMap_cons]
            cases a.given? load <;> rfl
          rw [addAttribute_eq, hfault]
          show rest.foldlM (addAttribute load) (found.setAll (a.given? load).toList) = _
          rw [ih, hentries]

end

/-! ### Attributes of a text -/

/-- The parts of a node are leaves, none of which is an attribute. -/
def HasPlainParts (t : Tree) : Prop :=
  ∀ children ∈ t.children?, ∀ part ∈ children, part.isLeaf = true ∧ part.isAttribute = false

theorem nodes_of_isLeaf {t : Tree} (h : t.isLeaf = true) : t.nodes = [t] := by
  obtain ⟨kind, _ | children, text, position⟩ := t
  · rfl
  · cases h

theorem nodesOfAll_eq_flatMap (trees : List Tree) : nodesOfAll trees = trees.flatMap nodes := by
  induction trees with
  | nil => rfl
  | cons t rest ih => rw [nodesOfAll, ih, List.flatMap_cons]

theorem attributeNodesOfAll_eq_flatMap (trees : List Tree) :
    attributeNodesOfAll trees = trees.flatMap attributeNodes := by
  induction trees with
  | nil => rfl
  | cons t rest ih => rw [attributeNodesOfAll, ih, List.flatMap_cons]

theorem attributeNodes_of_isLeaf {t : Tree} (h : t.isLeaf = true) :
    t.attributeNodes = if t.isAttribute then [t] else [] := by
  obtain ⟨kind, _ | children, text, position⟩ := t
  · rfl
  · cases h

/-- A node with plain parts is the only attribute in it, or there is none. -/
theorem HasPlainParts.filter_nodes {t : Tree} (h : t.HasPlainParts) :
    t.nodes.filter isAttribute = if t.isAttribute then [t] else [] := by
  obtain ⟨kind, _ | children, text, position⟩ := t
  · rw [nodes, List.filter_singleton]
    cases isAttribute _ <;> rfl
  · have hparts : (nodesOfAll children).filter isAttribute = [] := by
      rw [nodesOfAll_eq_flatMap, List.filter_eq_nil_iff]
      intro n hn hattribute
      obtain ⟨part, hpart, hmem⟩ := List.mem_flatMap.mp hn
      obtain ⟨hleaf, hplain⟩ := h children rfl part hpart
      rw [nodes_of_isLeaf hleaf, List.mem_singleton] at hmem
      rw [hmem, hplain] at hattribute
      cases hattribute
    rw [nodes, List.filter_cons, hparts]

theorem HasPlainParts.attributeNodes {t : Tree} (h : t.HasPlainParts) :
    t.attributeNodes = if t.isAttribute then [t] else [] := by
  obtain ⟨kind, _ | children, text, position⟩ := t
  · rfl
  · have hparts : attributeNodesOfAll children = [] := by
      rw [attributeNodesOfAll_eq_flatMap, List.flatMap_eq_nil_iff]
      intro part hpart
      obtain ⟨hleaf, hplain⟩ := h children rfl part hpart
      rw [attributeNodes_of_isLeaf hleaf, hplain]
      rfl
    rw [Tree.attributeNodes, hparts]

/-- Beside one another, trees with plain parts are the only attributes that there are. -/
theorem filter_nodesOfAll {trees : List Tree} (h : ∀ t ∈ trees, t.HasPlainParts) :
    (nodesOfAll trees).filter isAttribute = trees.filter isAttribute := by
  induction trees with
  | nil => rfl
  | cons t rest ih =>
      obtain ⟨ht, hrest⟩ := List.forall_mem_cons.mp h
      rw [nodesOfAll, List.filter_append, ht.filter_nodes, ih hrest, List.filter_cons]
      split <;> rfl

theorem attributeNodesOfAll_eq_filter {trees : List Tree} (h : ∀ t ∈ trees, t.HasPlainParts) :
    attributeNodesOfAll trees = trees.filter isAttribute := by
  induction trees with
  | nil => rfl
  | cons t rest ih =>
      obtain ⟨ht, hrest⟩ := List.forall_mem_cons.mp h
      rw [attributeNodesOfAll, ht.attributeNodes, ih hrest, List.filter_cons]
      split <;> rfl

theorem plain_of_mem_consecutive {position : Position} {parts : List (String × List Char)}
    (h : ∀ part ∈ parts, part.1 ≠ "Attribute") {t : Tree} (ht : t ∈ consecutive position parts) :
    t.isLeaf = true ∧ t.isAttribute = false := by
  induction parts generalizing position with
  | nil => cases ht
  | cons part rest ih =>
      obtain ⟨hpart, hrest⟩ := List.forall_mem_cons.mp h
      rw [consecutive] at ht
      rcases List.mem_cons.mp ht with rfl | ht
      · simp [leaf, isLeaf, children?, isAttribute, kind, hpart]
      · exact ih hrest ht

end Tree

namespace Segment

theorem toTree_hasPlainParts (position : Position) (segment : Segment) :
    (segment.toTree position).HasPlainParts := by
  intro children hchildren part hpart
  cases segment with
  | escape c => cases hchildren
  | text content => cases hchildren
  | wikiLink page label =>
      cases hchildren
      cases label <;> exact Tree.plain_of_mem_consecutive (by simp) hpart
  | _ =>
      cases hchildren
      exact Tree.plain_of_mem_consecutive (by simp) hpart

theorem toTrees_havePlainParts (position : Position) (segments : List Segment) :
    ∀ t ∈ toTrees position segments, t.HasPlainParts := by
  induction segments generalizing position with
  | nil => exact List.forall_mem_nil _
  | cons segment rest ih =>
      exact List.forall_mem_cons.mpr ⟨toTree_hasPlainParts position segment, ih _⟩

theorem exists_of_mem_toTrees {position : Position} {segments : List Segment} {t : Tree}
    (h : t ∈ toTrees position segments) : ∃ position segment, t = toTree position segment := by
  induction segments generalizing position with
  | nil => cases h
  | cons segment rest ih =>
      rcases List.mem_cons.mp h with rfl | h
      · exact ⟨position, segment, rfl⟩
      · exact ih h

/-- An attribute in a text has a name and a written value. -/
theorem nameAndValue?_toTree {position : Position} {segment : Segment}
    (h : (segment.toTree position).isAttribute = true) :
    ∃ name colon value, segment = .attribute name colon value ∧
      (segment.toTree position).nameAndValue? = some (name, value) := by
  cases segment with
  | «attribute» name colon value =>
      refine ⟨name, colon, value, rfl, ?_⟩
      simp [toTree, Tree.branch, Tree.leaf, Tree.consecutive, Tree.nameAndValue?, Tree.findKind?,
        Tree.find?, Tree.findInAll?, Tree.kind, Tree.render]
  | _ => simp [toTree, Tree.branch, Tree.leaf, Tree.isAttribute, Tree.kind] at h

end Segment

theorem filter_nodes_parseDocument (source : List Char) :
    (parseDocument source).nodes.filter Tree.isAttribute =
      (Segment.toTrees .start (Segment.split source)).filter Tree.isAttribute := by
  have hroot : (parseDocument source).isAttribute = false := rfl
  rw [parseDocument, Tree.branch] at hroot ⊢
  rw [Tree.nodes, List.filter_cons, hroot,
    Tree.filter_nodesOfAll (Segment.toTrees_havePlainParts _ _)]
  rfl

/-- No attribute of a text is inside another one. -/
theorem attributeNodes_parseDocument (source : List Char) :
    (parseDocument source).attributeNodes =
      (parseDocument source).nodes.filter Tree.isAttribute := by
  have hroot : (parseDocument source).isAttribute = false := rfl
  rw [filter_nodes_parseDocument]
  rw [parseDocument, Tree.branch] at hroot ⊢
  rw [Tree.attributeNodes, hroot,
    Tree.attributeNodesOfAll_eq_filter (Segment.toTrees_havePlainParts _ _)]
  rfl

/-- The attributes of a text each have a name and a written value. With any loader of values: if
none of the values is well-formed and yet wrong, each name has the value of the last attribute of
this name that loads, and there are no other names; otherwise the first wrong one is the fault. -/
theorem attributes_parseDocument (load : List Char → Except Yaml.LoadFault Value)
    (source : List Char) :
    let nodes := (parseDocument source).nodes.filter Tree.isAttribute
    (∀ a ∈ nodes, ∃ name text, a.nameAndValue? = some (name, text)) ∧
      match nodes.findSome? (Tree.contentFault? load) with
      | some why => (parseDocument source).attributesBy load = .error why
      | none => ∃ found, (parseDocument source).attributesBy load = .ok found ∧
          found.names.Nodup ∧ ∀ name,
            found.get? name = Bindings.lastOf? (nodes.filterMap (Tree.given? load)) name := by
  intro nodes
  refine ⟨fun a ha => ?_, ?_⟩
  · have hnodes : nodes = _ := filter_nodes_parseDocument source
    rw [hnodes, List.mem_filter] at ha
    obtain ⟨position, segment, rfl⟩ := Segment.exists_of_mem_toTrees ha.1
    obtain ⟨name, colon, text, -, hparts⟩ := Segment.nameAndValue?_toTree ha.2
    exact ⟨name, text, hparts⟩
  · have hrun : (parseDocument source).attributesBy load =
        match nodes.findSome? (Tree.contentFault? load) with
        | some why => .error why
        | none => .ok (Bindings.setAll [] (nodes.filterMap (Tree.given? load))) := by
      rw [Tree.attributesBy, attributeNodes_parseDocument, Tree.foldlM_addAttribute]
    cases hfault : nodes.findSome? (Tree.contentFault? load) with
    | some why => rw [hrun, hfault]
    | none =>
        refine ⟨Bindings.setAll [] (nodes.filterMap (Tree.given? load)), ?_, ?_, ?_⟩
        · rw [hrun, hfault]
        · exact Bindings.nodup_names_setAll _
        · intro name
          exact Bindings.get?_setAll _ name

/-- The 30th of February is written well and is no date, and `b` has no entry either. -/
theorem attributes_parseDocument_wrong_date :
    let tree := parseDocument "[b: 1] [a: 2024-02-30]".toList
    (tree.attributeNodes.map Tree.nameAndValue? =
      [some ("b".toList, "1".toList), some ("a".toList, "2024-02-30".toList)]) ∧
      (Yaml.load "1".toList).isOk = true ∧
      tree.attributes.map (fun _ => ()) = .error (.calendar .day) := by
  decide +kernel

end TemplateScript
