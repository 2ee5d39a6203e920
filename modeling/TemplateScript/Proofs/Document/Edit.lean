import TemplateScript.Document.Traversal
import TemplateScript.Proofs.Faulting

/-!
# The outcome of an edit

An edit, seen as a program that may fail: it visits a node, and where the visitor says so it goes on
to the children in order. An edit of siblings together agrees with it. All siblings are visited, but
what comes of the edit is settled by the first fault.
-/

namespace TemplateScript

namespace Tree

variable {ε σ : Type} (visit : Tree → StateM σ (Except ε Visit))

namespace EditedAll

def result : EditedAll ε → Except ε (List Tree)
  | .done trees => .ok trees
  | .failed fault _ => .error fault

end EditedAll

/-- What an edit puts in the place of a tree. -/
def edited (t : Tree) : Faulting ε σ (Option Tree) :=
  ExceptT.mk do return (← t.edit visit).result

def editedAll (trees : List Tree) : Faulting ε σ (List Tree) :=
  ExceptT.mk do return (← editAll visit trees).result

def editedTogether (t : Tree) : Faulting ε σ (Option Tree) :=
  ExceptT.mk do return (← t.editTogether visit).result

def editedEach (trees : List Tree) : Faulting ε σ (List Tree) :=
  ExceptT.mk do return (← Edited.collect trees <$> editEach visit trees).result

/-- The edit of a node, given that of its children. -/
def editNode (below : List Tree → StateM σ (EditedAll ε)) : Tree → StateM σ (Edited ε)
  | .node kind children text position => do
    match ← visit (.node kind children text position) with
    | .error fault => return .failed fault (.node kind children text position)
    | .ok (.replace tree) => return .replaced tree
    | .ok .stop => return .kept (.node kind children text position)
    | .ok .descend =>
      match children with
      | none => return .kept (.node kind none text position)
      | some children =>
        match ← below children with
        | .done trees => return .kept (.node kind (some trees) text position)
        | .failed fault left => return .failed fault (.node kind (some left) text position)

/-- What stands in the place of a node that was visited, once its children are edited. -/
def afterVisit (below : List Tree → Faulting ε σ (List Tree)) (t : Tree) :
    Visit → Faulting ε σ (Option Tree)
  | .replace tree => return tree
  | .stop => return some t
  | .descend =>
    match t with
    | .node _ none _ _ => return some t
    | .node kind (some children) text position => do
      return some (.node kind (some (← below children)) text position)

theorem result_editNode (below : List Tree → StateM σ (EditedAll ε)) (t : Tree) :
    (ExceptT.mk do return (← t.editNode visit below).result) =
      ExceptT.mk (visit t) >>= t.afterVisit fun children =>
        ExceptT.mk do return (← below children).result := by
  obtain ⟨kind, children, text, position⟩ := t
  funext s
  rw [editNode.eq_def]
  simp only [ExceptT.mk, bind, ExceptT.bind, StateT.bind, ExceptT.bindCont]
  rcases visit (.node kind children text position) s with ⟨fault | (tree | _ | _), s'⟩
  · rfl
  · rfl
  · rfl
  · cases children with
    | none => rfl
    | some children =>
        simp only [afterVisit, ExceptT.mk, bind, ExceptT.bind, StateT.bind]
        rcases below children s' with ⟨trees | ⟨fault, left⟩, s''⟩ <;> rfl

theorem edit_eq_editNode (t : Tree) : t.edit visit = t.editNode visit (editAll visit) := by
  obtain ⟨kind, children, text, position⟩ := t
  rw [edit.eq_def]
  rfl

theorem editTogether_eq_editNode (t : Tree) :
    t.editTogether visit =
      t.editNode visit fun children => Edited.collect children <$> editEach visit children := by
  obtain ⟨kind, children, text, position⟩ := t
  rw [editTogether.eq_def, editNode.eq_def]
  refine bind_congr fun answer => ?_
  rcases answer with fault | (tree | _ | _)
  · rfl
  · rfl
  · rfl
  · cases children with
    | none => rfl
    | some children => rfl

theorem edited_eq (t : Tree) :
    t.edited visit = ExceptT.mk (visit t) >>= t.afterVisit (editedAll visit) := by
  rw [edited, edit_eq_editNode, result_editNode]
  rfl

theorem editedTogether_eq (t : Tree) :
    t.editedTogether visit = ExceptT.mk (visit t) >>= t.afterVisit (editedEach visit) := by
  rw [editedTogether, editTogether_eq_editNode, result_editNode]
  rfl

theorem editedAll_nil : editedAll visit [] = pure [] := by
  rw [editedAll, editAll.eq_def]
  rfl

theorem editedAll_cons (t : Tree) (rest : List Tree) :
    editedAll visit (t :: rest) = do
      let first ← t.edited visit
      let others ← editedAll visit rest
      return first.toList ++ others := by
  funext s
  have hpure {α : Type} (a : α) (s : σ) : (pure a : StateM σ α) s = (a, s) := rfl
  rw [editedAll, editAll.eq_def]
  simp only [edited, editedAll, ExceptT.mk, bind, ExceptT.bind, StateT.bind]
  rcases t.edit visit s with ⟨tree | tree | ⟨fault, left⟩, s'⟩
  · simp only [Edited.result, bind, StateT.bind, hpure, ExceptT.bindCont]
    rcases editAll visit rest s' with ⟨trees | ⟨fault, left⟩, s''⟩ <;> rfl
  · simp only [Edited.result, bind, StateT.bind, hpure, ExceptT.bindCont]
    rcases editAll visit rest s' with ⟨trees | ⟨fault, left⟩, s''⟩ <;> rfl
  · rfl

theorem editedEach_nil : editedEach visit [] = pure [] := by
  rw [editedEach, editEach.eq_def]
  rfl

theorem result_collect (before : List Tree) (siblings : List (Edited ε)) :
    (Edited.collect before siblings).result =
      match siblings.findSome? Edited.fault? with
      | some fault => .error fault
      | none => .ok (siblings.flatMap Edited.trees) := by
  rw [Edited.collect]
  cases siblings.findSome? Edited.fault? <;> rfl

/-- What siblings become is settled by the first of them that fails. -/
theorem result_collect_cons (t : Tree) (rest : List Tree) (first : Edited ε)
    (others : List (Edited ε)) :
    (Edited.collect (t :: rest) (first :: others)).result =
      first.result.bind fun tree =>
        (Edited.collect rest others).result.map (tree.toList ++ ·) := by
  rw [result_collect, result_collect, List.findSome?_cons, List.flatMap_cons]
  cases first with
  | failed fault left => rfl
  | kept tree => cases others.findSome? Edited.fault? <;> rfl
  | replaced tree => cases others.findSome? Edited.fault? <;> rfl

/-- The siblings behind a failed one are still visited, but what they come to does not count. -/
theorem editedEach_cons (t : Tree) (rest : List Tree) :
    Faulting.Agree
      (do
        let first ← t.editedTogether visit
        let others ← editedEach visit rest
        return first.toList ++ others)
      (editedEach visit (t :: rest)) := by
  intro s
  have heach : (editedEach visit (t :: rest)).run s =
      ((Edited.collect (t :: rest)
          (((t.editTogether visit).run s).1 ::
            ((editEach visit rest).run ((t.editTogether visit).run s).2).1)).result,
        ((editEach visit rest).run ((t.editTogether visit).run s).2).2) := by
    rw [editedEach, editEach.eq_def]
    rfl
  have hfirst : (t.editedTogether visit).run s =
      (((t.editTogether visit).run s).1.result, ((t.editTogether visit).run s).2) := rfl
  rw [heach, result_collect_cons]
  -- the siblings behind a failed one leave another state, but a fault has no state to agree on
  cases hresult : ((t.editTogether visit).run s).1.result with
  | error fault =>
      rw [hresult] at hfirst
      rw [Faulting.run_bind_of_error hfirst]
      exact ⟨rfl, fun _ _ h => nomatch h⟩
  | ok tree =>
      rw [hresult] at hfirst
      rw [Faulting.run_bind_of_ok hfirst, bind_pure_comp, Faulting.run_map]
      exact ⟨rfl, fun a s' h => h⟩

mutual

theorem edited_agree (t : Tree) : Faulting.Agree (t.edited visit) (t.editedTogether visit) := by
  -- both ask the visitor about the node first, and differ only in how they go on to its children
  rw [edited_eq, editedTogether_eq]
  refine (Faulting.Agree.refl _).bind fun answer => ?_
  cases answer with
  | replace tree => exact .refl _
  | stop => exact .refl _
  | descend =>
      cases t with
      | node kind children text position =>
          cases children with
          | none => exact .refl _
          | some children => exact (editedAll_agree children).bind fun trees => .refl _

theorem editedAll_agree (trees : List Tree) :
    Faulting.Agree (editedAll visit trees) (editedEach visit trees) := by
  cases trees with
  | nil =>
      rw [editedAll_nil, editedEach_nil]
      exact .refl _
  | cons t rest =>
      rw [editedAll_cons]
      refine .trans ?_ (editedEach_cons visit t rest)
      exact (edited_agree t).bind fun first => (editedAll_agree rest).bind fun others => .refl _

end

end Tree

end TemplateScript
