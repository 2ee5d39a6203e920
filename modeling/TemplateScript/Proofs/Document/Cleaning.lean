import TemplateScript.Document.Pruning
import TemplateScript.Proofs.Document.Extraction
import TemplateScript.Proofs.Document.Placement
import TemplateScript.Proofs.Document.Replacement

/-!
# Documents without their attributes

Taking the attributes out of a tree keeps every node that is no attribute and stands in none, in
its order and below the same ancestors, and nothing else of a node changes. So none is left, and
taking them out again does nothing. In the tree of a text the attributes are nodes below the root,
side by side with the others, so the text of what is left is the source with their slices cut out.
-/

namespace TemplateScript

namespace Tree

/-- What a node is apart from its children. -/
structure Outline where
  kind : Option String
  text : Option String
  position : Option Position
  isLeaf : Bool

def outline (t : Tree) : Outline := ⟨t.kind, t.text?, t.position?, t.isLeaf⟩

/-- The outlines of a node and of its ancestors. -/
def outlines (lineage : List Tree × Tree) : List Outline × Outline :=
  (lineage.1.map outline, lineage.2.outline)

/-- A node that is no attribute and has none among its ancestors. -/
def isOutside (lineage : List Tree × Tree) : Bool :=
  lineage.1.all (fun ancestor => !ancestor.isAttribute) && !lineage.2.isAttribute

theorem isAttribute_eq_of_outline {t u : Tree} (h : t.outline = u.outline) :
    t.isAttribute = u.isAttribute := by
  have hkind : t.kind = u.kind := congrArg Outline.kind h
  rw [isAttribute, isAttribute, hkind]

/-! ### Taking attributes out -/

theorem pruneAll_eq_filterMap (p : Tree → Bool) (trees : List Tree) :
    pruneAll p trees = trees.filterMap (prune p) := by
  induction trees with
  | nil => rfl
  | cons t rest ih =>
      rw [pruneAll, ih, List.filterMap_cons]
      cases t.prune p <;> rfl

theorem withoutAttributes_of_isAttribute {t : Tree} (h : t.isAttribute = true) :
    t.withoutAttributes = none := by
  obtain ⟨kind, _ | children, text, position⟩ := t
  · rw [withoutAttributes, prune, if_pos h]
  · rw [withoutAttributes, prune, if_pos h]

/-- A node that stays keeps all but the attributes among its children. -/
theorem withoutAttributes_node {kind : Option String} {children : Option (List Tree)}
    {text : Option String} {position : Option Position}
    (h : (node kind children text position).isAttribute = false) :
    (node kind children text position).withoutAttributes =
      some (.node kind (children.map (List.filterMap withoutAttributes)) text position) := by
  cases children with
  | none => rw [withoutAttributes, prune, h]; rfl
  | some children =>
      rw [withoutAttributes, prune, h, pruneAll_eq_filterMap]
      rfl

/-- The visitor that removes attributes. -/
def removing (t : Tree) : Visit :=
  if t.isAttribute then .replace none else .descend

theorem rewritten_removing_of_isAttribute {t : Tree} (h : t.isAttribute = true) :
    t.rewritten removing = none :=
  rewritten_of_replace (if_pos h)

theorem rewritten_removing_node {kind : Option String} {children : Option (List Tree)}
    {text : Option String} {position : Option Position}
    (h : (node kind children text position).isAttribute = false) :
    (node kind children text position).rewritten removing =
      some (.node kind (children.map (List.filterMap (rewritten removing))) text position) :=
  rewritten_of_descend (if_neg (Bool.eq_false_iff.mp h))

mutual

/-- An edit that removes attributes comes to the tree without them. -/
theorem rewritten_removing (t : Tree) : t.rewritten removing = t.withoutAttributes := by
  match t with
  | .node kind none text position =>
      cases h : (node kind none text position).isAttribute with
      | true => rw [rewritten_removing_of_isAttribute h, withoutAttributes_of_isAttribute h]
      | false =>
          rw [rewritten_removing_node h, withoutAttributes_node h]
          rfl
  | .node kind (some children) text position =>
      cases h : (node kind (some children) text position).isAttribute with
      | true => rw [rewritten_removing_of_isAttribute h, withoutAttributes_of_isAttribute h]
      | false =>
          rw [rewritten_removing_node h, withoutAttributes_node h, Option.map_some,
            filterMap_rewritten_removing children]
          rfl

theorem filterMap_rewritten_removing (trees : List Tree) :
    trees.filterMap (rewritten removing) = trees.filterMap withoutAttributes := by
  match trees with
  | [] => rfl
  | t :: rest =>
      rw [List.filterMap_cons, List.filterMap_cons, rewritten_removing t,
        filterMap_rewritten_removing rest]

end

/-! ### What is left -/

theorem lineagesOfAll_append (left right : List Tree) :
    lineagesOfAll (left ++ right) = lineagesOfAll left ++ lineagesOfAll right := by
  induction left with
  | nil => rfl
  | cons t rest ih => rw [List.cons_append, lineagesOfAll, ih, lineagesOfAll, List.append_assoc]

/-- A lineage that begins one node higher. -/
def beneath (t : Tree) (lineage : List Tree × Tree) : List Tree × Tree :=
  (t :: lineage.1, lineage.2)

theorem lineages_branch (kind text : Option String) (children : List Tree)
    (position : Option Position) :
    (node kind (some children) text position).lineages =
      ([], .node kind (some children) text position) ::
        (lineagesOfAll children).map (beneath (.node kind (some children) text position)) := rfl

/-- Nothing in an attribute is outside it. -/
theorem filter_lineages_of_isAttribute {t : Tree} (h : t.isAttribute = true) :
    t.lineages.filter isOutside = [] := by
  rw [List.filter_eq_nil_iff]
  intro lineage hlineage
  obtain ⟨kind, _ | children, text, position⟩ := t
  · rw [lineages, List.mem_singleton] at hlineage
    simp [hlineage, isOutside, h]
  · rw [lineages_branch, List.mem_cons, List.mem_map] at hlineage
    rcases hlineage with rfl | ⟨lower, -, rfl⟩
    · simp [isOutside, h]
    · simp [isOutside, beneath, h]

/-- What is outside the attributes in a node that is none: the node, and what is so below it. -/
theorem filter_lineages_branch {kind : Option String} {children : List Tree} {text : Option String}
    {position : Option Position}
    (h : (node kind (some children) text position).isAttribute = false) :
    (node kind (some children) text position).lineages.filter isOutside =
      ([], .node kind (some children) text position) ::
        ((lineagesOfAll children).filter isOutside).map
          (beneath (.node kind (some children) text position)) := by
  have hbeneath : isOutside ∘ beneath (.node kind (some children) text position) = isOutside := by
    funext lineage
    simp [isOutside, beneath, h]
  have hroot : isOutside ([], .node kind (some children) text position) = true := by
    simp [isOutside, h]
  rw [lineages_branch, List.filter_cons_of_pos hroot, List.filter_map, hbeneath]

theorem outlines_beneath (t : Tree) (lineages : List (List Tree × Tree)) :
    (lineages.map (beneath t)).map outlines =
      (lineages.map outlines).map fun lineage => (t.outline :: lineage.1, lineage.2) := by
  rw [List.map_map, List.map_map]
  rfl

mutual

/-- The nodes outside attributes stay, in their order and each below the ancestors that it had. -/
theorem outlines_withoutAttributes (t : Tree) :
    (lineagesOfAll t.withoutAttributes.toList).map outlines =
      (t.lineages.filter isOutside).map outlines := by
  match t with
  | .node kind none text position =>
      cases h : (node kind none text position).isAttribute with
      | true =>
          rw [withoutAttributes_of_isAttribute h, filter_lineages_of_isAttribute h]
          rfl
      | false =>
          have hroot : isOutside ([], .node kind none text position) = true := by
            simp [isOutside, h]
          rw [withoutAttributes_node h, lineages, List.filter_cons_of_pos hroot]
          rfl
  | .node kind (some children) text position =>
      cases h : (node kind (some children) text position).isAttribute with
      | true =>
          rw [withoutAttributes_of_isAttribute h, filter_lineages_of_isAttribute h]
          rfl
      | false =>
          rw [withoutAttributes_node h, filter_lineages_branch h, List.map_cons, outlines_beneath,
            ← outlines_filterMap_withoutAttributes children, Option.map_some, Option.toList_some,
            lineagesOfAll, lineagesOfAll, List.append_nil, lineages_branch, List.map_cons,
            outlines_beneath]
          rfl

theorem outlines_filterMap_withoutAttributes (trees : List Tree) :
    (lineagesOfAll (trees.filterMap withoutAttributes)).map outlines =
      ((lineagesOfAll trees).filter isOutside).map outlines := by
  match trees with
  | [] => rfl
  | t :: rest =>
      have hcons : (t :: rest).filterMap withoutAttributes =
          t.withoutAttributes.toList ++ rest.filterMap withoutAttributes := by
        rw [List.filterMap_cons]
        cases t.withoutAttributes <;> rfl
      rw [hcons, lineagesOfAll_append, lineagesOfAll, List.filter_append, List.map_append,
        List.map_append, outlines_withoutAttributes t, outlines_filterMap_withoutAttributes rest]

end

theorem outlines_of_withoutAttributes {t cleaned : Tree} (h : t.withoutAttributes = some cleaned) :
    cleaned.lineages.map outlines = (t.lineages.filter isOutside).map outlines := by
  rw [← outlines_withoutAttributes, h, Option.toList_some, lineagesOfAll, lineagesOfAll,
    List.append_nil]

/-- No attribute is left. -/
theorem not_isAttribute_of_withoutAttributes {t cleaned n : Tree}
    (h : t.withoutAttributes = some cleaned) (hn : n ∈ cleaned.nodes) : n.isAttribute = false := by
  rw [← map_lineages] at hn
  obtain ⟨lineage, hlineage, rfl⟩ := List.mem_map.mp hn
  have hmem : outlines lineage ∈ (t.lineages.filter isOutside).map outlines := by
    rw [← outlines_of_withoutAttributes h]
    exact List.mem_map_of_mem hlineage
  obtain ⟨before, hbefore, houtlines⟩ := List.mem_map.mp hmem
  have houtside : isOutside before = true := (List.mem_filter.mp hbefore).2
  rw [← isAttribute_eq_of_outline (congrArg Prod.snd houtlines)]
  simpa using (Bool.and_eq_true_iff.mp houtside).2

mutual

theorem withoutAttributes_of_forall (t : Tree) (h : ∀ n ∈ t.nodes, n.isAttribute = false) :
    t.withoutAttributes = some t := by
  match t with
  | .node kind none text position =>
      rw [withoutAttributes_node (h _ (List.mem_singleton_self _))]
      rfl
  | .node kind (some children) text position =>
      obtain ⟨hroot, hchildren⟩ := List.forall_mem_cons.mp h
      rw [withoutAttributes_node hroot, Option.map_some,
        filterMap_withoutAttributes_of_forall children hchildren]

theorem filterMap_withoutAttributes_of_forall (trees : List Tree)
    (h : ∀ n ∈ nodesOfAll trees, n.isAttribute = false) :
    trees.filterMap withoutAttributes = trees := by
  match trees with
  | [] => rfl
  | t :: rest =>
      obtain ⟨ht, hrest⟩ := List.forall_mem_append.mp h
      rw [List.filterMap_cons_some (withoutAttributes_of_forall t ht),
        filterMap_withoutAttributes_of_forall rest hrest]

end

mutual

theorem attributeNodes_of_forall (t : Tree) (h : ∀ n ∈ t.nodes, n.isAttribute = false) :
    t.attributeNodes = [] := by
  match t with
  | .node kind none text position =>
      rw [attributeNodes, h _ (List.mem_singleton_self _)]
      rfl
  | .node kind (some children) text position =>
      obtain ⟨hroot, hchildren⟩ := List.forall_mem_cons.mp h
      rw [attributeNodes, hroot, attributeNodesOfAll_of_forall children hchildren]
      rfl

theorem attributeNodesOfAll_of_forall (trees : List Tree)
    (h : ∀ n ∈ nodesOfAll trees, n.isAttribute = false) : attributeNodesOfAll trees = [] := by
  match trees with
  | [] => rfl
  | t :: rest =>
      obtain ⟨ht, hrest⟩ := List.forall_mem_append.mp h
      rw [attributeNodesOfAll, attributeNodes_of_forall t ht,
        attributeNodesOfAll_of_forall rest hrest]
      rfl

end

/-! ### The text of what is left -/

/-- A place of the text of a tree that is in the slice of an attribute. -/
def IsInAttribute (t : Tree) (i : Nat) : Prop :=
  ∃ before u, t.Occurs before u ∧ u.isAttribute = true ∧
    before.length ≤ i ∧ i < before.length + u.render.length

/-- For each character of the text of trees, whether it stays: those of an attribute do not. -/
def stays (trees : List Tree) : List Bool :=
  trees.flatMap fun t => List.replicate t.render.length (!t.isAttribute)

theorem length_stays (trees : List Tree) : (stays trees).length = (renderAll trees).length := by
  induction trees with
  | nil => rfl
  | cons t rest ih =>
      simp only [stays, List.flatMap_cons, List.length_append, List.length_replicate, renderAll]
        at ih ⊢
      omega

/-- The characters that stay are the text of the trees that are no attributes. -/
theorem filter_zip_stays (trees : List Tree) :
    (((renderAll trees).zip (stays trees)).filter Prod.snd).map Prod.fst =
      renderAll (trees.filter fun t => !t.isAttribute) := by
  have hsame (text : List Char) (flag : Bool) :
      ((text.zip (List.replicate text.length flag)).filter Prod.snd).map Prod.fst =
        if flag then text else [] := by
    induction text with
    | nil => cases flag <;> rfl
    | cons c rest ih => cases flag <;> simp_all [List.replicate_succ]
  induction trees with
  | nil => rfl
  | cons t rest ih =>
      rw [renderAll, stays, List.flatMap_cons, List.zip_append (by rw [List.length_replicate]),
        List.filter_append, List.map_append, hsame, List.filter_cons]
      rw [stays] at ih
      rw [ih]
      cases t.isAttribute <;> rfl

/-- A character does not stay exactly if it is in the slice of an attribute. -/
theorem getElem?_stays {trees : List Tree} {i : Nat} :
    (stays trees)[i]? = some false ↔ ∃ left u right, trees = left ++ u :: right ∧
      u.isAttribute = true ∧ (renderAll left).length ≤ i ∧
        i < (renderAll left).length + u.render.length := by
  induction trees generalizing i with
  | nil => simp [stays]
  | cons t rest ih =>
      have hcons : stays (t :: rest) =
          List.replicate t.render.length (!t.isAttribute) ++ stays rest := List.flatMap_cons
      by_cases hi : i < t.render.length
      · have hfirst : (stays (t :: rest))[i]? = some (!t.isAttribute) := by
          rw [hcons, List.getElem?_append_left (by simpa using hi), List.getElem?_replicate,
            if_pos hi]
        rw [hfirst, Option.some.injEq, Bool.not_eq_false']
        constructor
        · intro hattribute
          exact ⟨[], t, rest, rfl, hattribute, Nat.zero_le i, by simpa [renderAll] using hi⟩
        · rintro ⟨left, u, right, heq, hattribute, hle, -⟩
          cases left with
          | nil =>
              obtain ⟨rfl, -⟩ := List.cons.inj heq
              exact hattribute
          | cons first left =>
              obtain ⟨rfl, -⟩ := List.cons.inj heq
              rw [renderAll, List.length_append] at hle
              omega
      · have hlater : (stays (t :: rest))[i]? = (stays rest)[i - t.render.length]? := by
          rw [hcons, List.getElem?_append_right (by simpa using hi), List.length_replicate]
        rw [hlater, ih]
        constructor
        · rintro ⟨left, u, right, rfl, hattribute, hle, hlt⟩
          refine ⟨t :: left, u, right, rfl, hattribute, ?_, ?_⟩ <;>
            rw [renderAll, List.length_append] <;> omega
        · rintro ⟨left, u, right, heq, hattribute, hle, hlt⟩
          cases left with
          | nil =>
              obtain ⟨rfl, -⟩ := List.cons.inj heq
              rw [renderAll, List.length_nil] at hlt
              omega
          | cons first left =>
              obtain ⟨rfl, rfl⟩ := List.cons.inj heq
              rw [renderAll, List.length_append] at hle hlt
              exact ⟨left, u, right, rfl, hattribute, by omega, by omega⟩

/-- In a node with plain parts an attribute is the node itself. -/
theorem HasPlainParts.eq_of_occurs {t u : Tree} {before : List Char} (h : t.HasPlainParts)
    (hoccurs : Occurs t before u) (hattribute : u.isAttribute = true) : before = [] ∧ u = t := by
  cases hoccurs with
  | root t => exact ⟨rfl, rfl⟩
  | @child kind left right part _ text position _ hpart =>
      obtain ⟨hleaf, hplain⟩ := h _ rfl part (by simp)
      cases hpart with
      | root part =>
          rw [hplain] at hattribute
          cases hattribute
      | child _ => cases hleaf

theorem HasPlainParts.withoutAttributes {t : Tree} (h : t.HasPlainParts) :
    t.withoutAttributes = if t.isAttribute then none else some t := by
  cases hattribute : t.isAttribute with
  | true => exact withoutAttributes_of_isAttribute hattribute
  | false =>
      have hnone : t.nodes.filter isAttribute = [] := by
        rw [h.filter_nodes, hattribute]
        rfl
      apply withoutAttributes_of_forall
      intro n hn
      exact Bool.eq_false_iff.mpr (List.filter_eq_nil_iff.mp hnone n hn)

theorem filterMap_withoutAttributes {trees : List Tree} (h : ∀ t ∈ trees, t.HasPlainParts) :
    trees.filterMap withoutAttributes = trees.filter fun t => !t.isAttribute := by
  induction trees with
  | nil => rfl
  | cons t rest ih =>
      obtain ⟨ht, hrest⟩ := List.forall_mem_cons.mp h
      rw [List.filterMap_cons, ht.withoutAttributes, List.filter_cons, ih hrest]
      cases t.isAttribute <;> rfl

end Tree

/-- The attributes of a text are among the nodes below its root. -/
theorem isInAttribute_parseDocument {source : List Char} {i : Nat} :
    (parseDocument source).IsInAttribute i ↔
      (Tree.stays (Segment.toTrees .start (Segment.split source)))[i]? = some false := by
  rw [Tree.getElem?_stays]
  constructor
  · rintro ⟨before, u, hoccurs, hattribute, hle, hlt⟩
    generalize htree : parseDocument source = tree at hoccurs
    cases hoccurs with
    | root tree =>
        subst htree
        cases hattribute
    | @child kind left right t _ text position before hoccurs =>
        have hchildren : Segment.toTrees .start (Segment.split source) = left ++ t :: right := by
          rw [parseDocument, Tree.branch, Tree.node.injEq] at htree
          exact Option.some.inj htree.2.1
        have hplain := Segment.toTrees_havePlainParts .start (Segment.split source) t
          (by rw [hchildren]; simp)
        obtain ⟨rfl, rfl⟩ := hplain.eq_of_occurs hoccurs hattribute
        rw [List.append_nil] at hle hlt
        exact ⟨left, u, right, hchildren, hattribute, hle, hlt⟩
  · rintro ⟨left, u, right, hchildren, hattribute, hle, hlt⟩
    refine ⟨Tree.renderAll left ++ [], u, ?_, hattribute, by simpa using hle, by simpa using hlt⟩
    rw [parseDocument, hchildren]
    exact .child (.root u)

theorem withoutAttributes_parseDocument (source : List Char) :
    (parseDocument source).withoutAttributes =
      some (.branch "Document" ((Segment.toTrees .start (Segment.split source)).filter
        fun t => !t.isAttribute) .start) := by
  have hroot : (parseDocument source).isAttribute = false := rfl
  rw [parseDocument, Tree.branch] at hroot ⊢
  rw [Tree.withoutAttributes_node hroot, Option.map_some,
    Tree.filterMap_withoutAttributes (Segment.toTrees_havePlainParts _ _), Tree.branch]

/-- Without its attributes a text renders as the source with their slices cut out. In any tree that
is not itself an attribute no attribute is left, everything outside them stays as it was, in its
order and with its ancestors, there is nothing more to take out, and no attribute to be found. That
is what an edit comes to that removes attributes. -/
theorem withoutAttributes_removes :
    (∀ source : List Char, ∃ cleaned, (parseDocument source).withoutAttributes = some cleaned ∧
      ∃ kept : List Bool, kept.length = source.length ∧
        (∀ i, kept[i]? = some false ↔ (parseDocument source).IsInAttribute i) ∧
        cleaned.render = ((source.zip kept).filter Prod.snd).map Prod.fst) ∧
    ∀ t : Tree,
      (t.edit (Tree.answering (ε := Unit) Tree.removing fun (s : Unit) _ => s) ()).1.result =
        .ok t.withoutAttributes ∧
      (t.isAttribute = false → ∃ cleaned, t.withoutAttributes = some cleaned ∧
        (∀ n ∈ cleaned.nodes, n.isAttribute = false) ∧
        cleaned.lineages.map Tree.outlines =
          (t.lineages.filter Tree.isOutside).map Tree.outlines ∧
        cleaned.withoutAttributes = some cleaned ∧
        cleaned.attributes = .ok []) := by
  refine ⟨fun source => ?_, fun t => ⟨?_, fun hroot => ?_⟩⟩
  · have hsource : Tree.renderAll (Segment.toTrees .start (Segment.split source)) = source := by
      rw [Segment.renderAll_toTrees, Segment.split_lossless]
    refine ⟨_, withoutAttributes_parseDocument source,
      Tree.stays (Segment.toTrees .start (Segment.split source)), ?_, ?_, ?_⟩
    · rw [Tree.length_stays, hsource]
    · exact fun i => isInAttribute_parseDocument.symm
    · rw [Tree.branch, Tree.render, ← Tree.filter_zip_stays, hsource]
  · rw [← Tree.rewritten_removing]
    exact Tree.edited_answering Tree.removing (fun s _ => s) t ()
  · obtain ⟨kind, children, text, position⟩ := t
    have hcleaned := Tree.withoutAttributes_node hroot
    have hnone {n : Tree} := Tree.not_isAttribute_of_withoutAttributes (n := n) hcleaned
    refine ⟨_, hcleaned, fun n hn => hnone hn, Tree.outlines_of_withoutAttributes hcleaned, ?_, ?_⟩
    · exact Tree.withoutAttributes_of_forall _ fun n hn => hnone hn
    · rw [Tree.attributes, Tree.attributesBy, Tree.attributeNodes_of_forall _ fun n hn => hnone hn]
      rfl

/-- Two attributes side by side, and one with another one inside beside a text. -/
theorem withoutAttributes_removes_nested :
    let note : Tree := .node (some "Attribute") none (some "[a: 1]") none
    let text : Tree := .node (some "Text") none (some "b") none
    let group : Tree := .node (some "Group")
      (some [.node (some "Attribute") (some [note]) none none, text]) none none
    let t : Tree := .node (some "Document") (some [note, note, group]) none none
    t.isAttribute = false ∧ ∃ cleaned, t.withoutAttributes = some cleaned ∧
      (∀ n ∈ cleaned.nodes, n.isAttribute = false) ∧
      cleaned.lineages.map Tree.outlines = (t.lineages.filter Tree.isOutside).map Tree.outlines ∧
      cleaned.withoutAttributes = some cleaned ∧ cleaned.attributes = .ok [] := by
  intro note text group t
  exact ⟨rfl, (withoutAttributes_removes.2 t).2 rfl⟩

end TemplateScript
