import TemplateScript.Proofs.Document.Edit

/-!
# Edits by related visitors

A relation between programs on two states is a congruence if it is kept when the programs are put
together in the same way. Edits by visitors that are related are related too, whether siblings are
edited in order or together.
-/

namespace TemplateScript

/-- A relation that programs put together from related parts are in. -/
structure Congruence (σ τ : Type) where
  rel : {α : Type} → StateM σ α → StateM τ α → Prop
  pure {α : Type} (a : α) : rel (Pure.pure a) (Pure.pure a)
  bind {α β : Type} {x : StateM σ α} {y : StateM τ α} {next : α → StateM σ β}
    {next' : α → StateM τ β} (h : rel x y) (hnext : ∀ a, rel (next a) (next' a)) :
    rel (x >>= next) (y >>= next')

namespace Tree

variable {ε σ τ : Type} {c : Congruence σ τ} {visit : Tree → StateM σ (Except ε Visit)}
  {visit' : Tree → StateM τ (Except ε Visit)}

/-- Nodes are edited alike if their children are. -/
theorem editNode_congr (hvisit : ∀ t, c.rel (visit t) (visit' t))
    {below : List Tree → StateM σ (EditedAll ε)} {below' : List Tree → StateM τ (EditedAll ε)}
    (kind : Option String) (children : Option (List Tree)) (text : Option String)
    (position : Option Position)
    (hbelow : ∀ trees ∈ children, c.rel (below trees) (below' trees)) :
    c.rel (editNode visit below (.node kind children text position))
      (editNode visit' below' (.node kind children text position)) := by
  refine c.bind (hvisit _) fun answer => ?_
  rcases answer with fault | (tree | _ | _)
  · exact c.pure _
  · exact c.pure _
  · exact c.pure _
  · cases children with
    | none => exact c.pure _
    | some children =>
        refine c.bind (hbelow children rfl) fun edited => ?_
        cases edited <;> exact c.pure _

mutual

theorem edit_congr (hvisit : ∀ t, c.rel (visit t) (visit' t)) (t : Tree) :
    c.rel (t.edit visit) (t.edit visit') := by
  rw [edit_eq_editNode, edit_eq_editNode]
  match t with
  | .node kind none text position =>
      exact editNode_congr hvisit kind none text position fun _ h => nomatch h
  | .node kind (some children) text position =>
      refine editNode_congr hvisit kind (some children) text position fun trees h => ?_
      cases h
      exact editAll_congr hvisit children

theorem editAll_congr (hvisit : ∀ t, c.rel (visit t) (visit' t)) (trees : List Tree) :
    c.rel (editAll visit trees) (editAll visit' trees) := by
  match trees with
  | [] =>
      rw [editAll.eq_def, editAll.eq_def]
      exact c.pure _
  | t :: rest =>
      rw [editAll.eq_def, editAll.eq_def]
      refine c.bind (edit_congr hvisit t) fun first => ?_
      cases first.result with
      | error fault => exact c.pure _
      | ok tree =>
          refine c.bind (editAll_congr hvisit rest) fun others => ?_
          cases others <;> exact c.pure _

end

mutual

theorem editTogether_congr (hvisit : ∀ t, c.rel (visit t) (visit' t)) (t : Tree) :
    c.rel (t.editTogether visit) (t.editTogether visit') := by
  rw [editTogether_eq_editNode, editTogether_eq_editNode]
  match t with
  | .node kind none text position =>
      exact editNode_congr hvisit kind none text position fun _ h => nomatch h
  | .node kind (some children) text position =>
      refine editNode_congr hvisit kind (some children) text position fun trees h => ?_
      cases h
      exact c.bind (editEach_congr hvisit children) fun _ => c.pure _

theorem editEach_congr (hvisit : ∀ t, c.rel (visit t) (visit' t)) (trees : List Tree) :
    c.rel (editEach visit trees) (editEach visit' trees) := by
  match trees with
  | [] =>
      rw [editEach.eq_def, editEach.eq_def]
      exact c.pure _
  | t :: rest =>
      rw [editEach.eq_def, editEach.eq_def]
      exact c.bind (editTogether_congr hvisit t) fun first =>
        c.bind (editEach_congr hvisit rest) fun _ => c.pure _

end

end Tree

end TemplateScript
