import TemplateScript.Proofs.Document.Visits

/-!
# Edits by a function of the node

A visitor whose answer depends on nothing but the node it is shown. Then it makes no difference
whether siblings are edited in order or together, and both come to what the plain recursion over the
tree comes to, which has no state at all. What the visitor notes about the nodes shows which ones it
saw: those without a replaced or stopped proper ancestor, each once.
-/

namespace TemplateScript

namespace Tree

mutual

/-- What stands in the place of a tree after an edit by a function, by plain recursion. -/
def rewritten (f : Tree → Visit) : Tree → Option Tree
  | .node kind children text position =>
    match f (.node kind children text position) with
    | .replace tree => tree
    | .stop => some (.node kind children text position)
    | .descend =>
      match children with
      | none => some (.node kind none text position)
      | some children => some (.node kind (some (rewrittenAll f children)) text position)

/-- What is left of siblings; a removed one leaves no gap. -/
def rewrittenAll (f : Tree → Visit) : List Tree → List Tree
  | [] => []
  | t :: rest => (t.rewritten f).toList ++ rewrittenAll f rest

end

theorem rewrittenAll_eq_filterMap (f : Tree → Visit) (trees : List Tree) :
    rewrittenAll f trees = trees.filterMap (rewritten f) := by
  induction trees with
  | nil => rfl
  | cons t rest ih =>
      rw [rewrittenAll, ih, List.filterMap_cons]
      cases t.rewritten f <;> rfl

section

variable {f : Tree → Visit}

theorem rewritten_of_replace {t : Tree} {tree : Option Tree} (h : f t = .replace tree) :
    t.rewritten f = tree := by
  obtain ⟨kind, children, text, position⟩ := t
  rw [rewritten.eq_def]
  simp only [h]

theorem rewritten_of_stop {t : Tree} (h : f t = .stop) : t.rewritten f = some t := by
  obtain ⟨kind, children, text, position⟩ := t
  rw [rewritten.eq_def]
  simp only [h]

/-- A node that is kept and entered keeps its kind, its text and its position, and of its children
in their order what is left of each. -/
theorem rewritten_of_descend {kind : Option String} {children : Option (List Tree)}
    {text : Option String} {position : Option Position}
    (h : f (.node kind children text position) = .descend) :
    (node kind children text position).rewritten f =
      some (.node kind (children.map (List.filterMap (rewritten f))) text position) := by
  rw [rewritten.eq_def]
  simp only [h]
  cases children with
  | none => rfl
  | some children => rw [Option.map_some, ← rewrittenAll_eq_filterMap]

end

section

variable {ε σ : Type}

/-- A visitor that answers by a function of the node and notes something about it. -/
def answering (f : Tree → Visit) (note : σ → Tree → σ) (t : Tree) :
    StateM σ (Except ε Visit) :=
  fun s => (.ok (f t), note s t)

variable (f : Tree → Visit) (note : σ → Tree → σ)

theorem follows_answering : Follows (ε := ε) (answering f note) f := by
  intro t s answer s' hvisit
  cases hvisit
  rfl

theorem walk_answering (nodes : List Tree) (s : σ) :
    (walk (ε := ε) (answering f note) nodes s).outcome = .ok () ∧
      (walk (ε := ε) (answering f note) nodes s).left = nodes.foldl note s := by
  induction nodes generalizing s with
  | nil => exact ⟨rfl, rfl⟩
  | cons t rest ih => exact ih (note s t)

mutual

/-- An edit in order comes to what the plain recursion comes to. -/
theorem edited_answering (t : Tree) (s : σ) :
    ((t.edited (ε := ε) (answering f note)).run s).1 = .ok (t.rewritten f) := by
  obtain ⟨kind, children, text, position⟩ := t
  have hvisit : (ExceptT.mk (answering f note (.node kind children text position)) :
      Faulting ε σ Visit).run s =
        (.ok (f (.node kind children text position)), note s (.node kind children text position)) :=
    rfl
  rw [edited_eq, Faulting.run_bind_of_ok hvisit]
  cases hanswer : f (.node kind children text position) with
  | replace tree =>
      rw [rewritten_of_replace hanswer]
      rfl
  | stop =>
      rw [rewritten_of_stop hanswer]
      rfl
  | descend =>
      rw [rewritten_of_descend hanswer]
      cases children with
      | none => rfl
      | some children =>
          rw [afterVisit, bind_pure_comp, Faulting.run_map, editedAll_answering children,
            rewrittenAll_eq_filterMap]
          rfl

theorem editedAll_answering (trees : List Tree) (s : σ) :
    ((editedAll (ε := ε) (answering f note) trees).run s).1 = .ok (rewrittenAll f trees) := by
  match trees with
  | [] =>
      rw [editedAll_nil]
      rfl
  | t :: rest =>
      have hfirst := edited_answering t s
      have hrest := editedAll_answering rest
        ((t.edited (ε := ε) (answering f note)).run s).2
      rw [editedAll_cons, Faulting.run_bind_of_ok (Prod.ext hfirst rfl), bind_pure_comp,
        Faulting.run_map, hrest]
      rfl

end

/-- An edit by a function of the node comes to the same in order, together and by plain recursion.
The visitor sees exactly the nodes of the tree that have no replaced and no stopped proper ancestor,
each once, and in order each before its children. A replacement stands in the place of its node as
it is, and a node that is entered keeps everything but the children that are removed. -/
theorem edits_by_function (t : Tree) (s : σ) :
    let visit : Tree → StateM σ (Except ε Visit) := answering f note
    ((t.edit visit s).1.result = .ok (t.rewritten f) ∧
      (t.edit visit s).2 = (t.visited f).foldl note s) ∧
    ((t.editTogether visit s).1.result = .ok (t.rewritten f) ∧
      ∃ order : List Tree, order.Perm (t.visited f) ∧
        (t.editTogether visit s).2 = order.foldl note s) ∧
    t.lineages.map Prod.snd = t.nodes ∧
    (∀ u tree, f u = .replace tree → u.rewritten f = tree) ∧
    (∀ u, f u = .stop → u.rewritten f = some u) ∧
    ∀ kind children text position, f (.node kind children text position) = .descend →
      (node kind children text position).rewritten f =
        some (.node kind (children.map (List.filterMap (rewritten f))) text position) := by
  intro visit
  have hresult : (t.edit visit s).1.result = .ok (t.rewritten f) := edited_answering f note t s
  have hends := edited_endsAs (follows_answering (ε := ε) f note) t s
  have hstate : (t.edit visit s).2 = (t.visited f).foldl note s :=
    hends.left.trans (walk_answering f note (t.visited f) s).2
  have htogether := (edited_agree visit t s).2 _ _ (Prod.ext hresult hstate)
  exact ⟨⟨hresult, hstate⟩,
    ⟨congrArg Prod.fst htogether, t.visited f, .refl _, congrArg Prod.snd htogether⟩,
    map_lineages t, fun u tree => rewritten_of_replace, fun u => rewritten_of_stop,
    fun kind children text position => rewritten_of_descend⟩

end

end Tree

end TemplateScript
