import TemplateScript.Proofs.Document.Congruence

/-!
# Which nodes an edit visits

An edit in order shows the visitor one node after another. If the visitor goes by the node alone
where it decides whether the children are visited, then the nodes are known before the edit: they
are the nodes of the tree that have no ancestor at which the visitor turned back, each once and each
before its children. The edit is then a walk along this list, which ends at the first node at which
the visitor fails. For a visitor whose whole answer depends on the node alone the three ways to
edit a tree come to the same: in order, together, and by plain recursion.
-/

namespace TemplateScript

namespace Tree

/-- Whether the visitor goes on to the children. -/
def Visit.descends : Visit → Bool
  | .descend => true
  | _ => false

/-! ### Nodes and their ancestors -/

mutual

/-- The nodes of a tree, each before its children and each with its proper ancestors, of which the
root is the first. -/
def lineages : Tree → List (List Tree × Tree)
  | .node kind none text position => [([], .node kind none text position)]
  | .node kind (some children) text position =>
    ([], .node kind (some children) text position) ::
      (lineagesOfAll children).map fun lineage =>
        (.node kind (some children) text position :: lineage.1, lineage.2)

def lineagesOfAll : List Tree → List (List Tree × Tree)
  | [] => []
  | t :: rest => t.lineages ++ lineagesOfAll rest

end

mutual

theorem map_lineages (t : Tree) : t.lineages.map Prod.snd = t.nodes := by
  match t with
  | .node kind none text position => rw [lineages, nodes]; rfl
  | .node kind (some children) text position =>
      rw [lineages, nodes, List.map_cons, List.map_map, ← map_lineagesOfAll children]
      rfl

theorem map_lineagesOfAll (trees : List Tree) :
    (lineagesOfAll trees).map Prod.snd = nodesOfAll trees := by
  match trees with
  | [] => rfl
  | t :: rest =>
      rw [lineagesOfAll, nodesOfAll, List.map_append, map_lineages t, map_lineagesOfAll rest]

end

/-- The nodes of a tree without a proper ancestor at which the visitor turns back. -/
def visited (f : Tree → Visit) (t : Tree) : List Tree :=
  (t.lineages.filter fun lineage => lineage.1.all fun ancestor => (f ancestor).descends).map
    Prod.snd

theorem visited_sublist (f : Tree → Visit) (t : Tree) : (visited f t).Sublist t.nodes := by
  rw [← map_lineages]
  exact List.filter_sublist.map Prod.snd

section

variable {f : Tree → Visit} {kind : Option String} {children : List Tree} {text : Option String}
  {position : Option Position}

theorem visited_leaf (f : Tree → Visit) (kind text : Option String) (position : Option Position) :
    visited f (.node kind none text position) = [.node kind none text position] := by
  rw [visited, lineages]
  rfl

theorem visited_lineagesOfAll (f : Tree → Visit) (trees : List Tree) :
    ((lineagesOfAll trees).filter fun lineage =>
      lineage.1.all fun ancestor => (f ancestor).descends).map Prod.snd =
        trees.flatMap (visited f) := by
  induction trees with
  | nil => rfl
  | cons t rest ih =>
      rw [lineagesOfAll, List.filter_append, List.map_append, ih, List.flatMap_cons]
      rfl

theorem visited_of_descends (h : (f (.node kind (some children) text position)).descends) :
    visited f (.node kind (some children) text position) =
      .node kind (some children) text position :: children.flatMap (visited f) := by
  have hall (lineage : List Tree × Tree) :
      ((.node kind (some children) text position :: lineage.1).all fun ancestor =>
        (f ancestor).descends) = lineage.1.all fun ancestor => (f ancestor).descends := by
    rw [List.all_cons, h, Bool.true_and]
  rw [visited, lineages, List.filter_cons_of_pos rfl, List.filter_map, ← visited_lineagesOfAll,
    List.map_cons, List.map_map]
  simp only [Function.comp_def, hall]

theorem visited_of_turns (h : (f (.node kind (some children) text position)).descends = false) :
    visited f (.node kind (some children) text position) =
      [.node kind (some children) text position] := by
  have hnone : ((lineagesOfAll children).map fun lineage =>
      ((.node kind (some children) text position :: lineage.1, lineage.2) :
        List Tree × Tree)).filter
        (fun lineage => lineage.1.all fun ancestor => (f ancestor).descends) = [] := by
    rw [List.filter_eq_nil_iff]
    intro lineage hlineage
    obtain ⟨below, -, rfl⟩ := List.mem_map.mp hlineage
    simp [h]
  rw [visited, lineages, List.filter_cons_of_pos rfl, hnone]
  rfl

end

/-! ### Walks -/

/-- Visits of nodes in turn: each with the state in which it was made, how they ended, and the state
that they leave. -/
structure Walk (ε σ : Type) where
  visits : List (Tree × σ)
  outcome : Except ε Unit
  left : σ

section

variable {ε σ : Type} (visit : Tree → StateM σ (Except ε Visit))

/-- Visits nodes in turn, up to the first one at which the visitor fails. -/
def walk : List Tree → σ → Walk ε σ
  | [], s => ⟨[], .ok (), s⟩
  | t :: rest, s =>
    match visit t s with
    | (.error fault, s') => ⟨[(t, s)], .error fault, s'⟩
    | (.ok _, s') => { walk rest s' with visits := (t, s) :: (walk rest s').visits }

/-- A visitor that keeps a record of the nodes that it is shown, each with the state in which it is
shown. -/
def recording (t : Tree) : StateM (List (Tree × σ) × σ) (Except ε Visit) :=
  fun (record, s) => ((visit t s).1, (record ++ [(t, s)], (visit t s).2))

end

section

variable {ε σ : Type} {visit : Tree → StateM σ (Except ε Visit)} {t : Tree} {s s' : σ}

theorem walk_cons_of_error {fault : ε} (h : visit t s = (.error fault, s')) (rest : List Tree) :
    walk visit (t :: rest) s = ⟨[(t, s)], .error fault, s'⟩ := by
  rw [walk, h]

theorem walk_cons_of_ok {answer : Visit} (h : visit t s = (.ok answer, s')) (rest : List Tree) :
    walk visit (t :: rest) s =
      { walk visit rest s' with visits := (t, s) :: (walk visit rest s').visits } := by
  rw [walk, h]

/-- A walk goes on behind a front of its nodes only if it comes to the end of the front. -/
theorem walk_append (front rest : List Tree) (s : σ) :
    walk visit (front ++ rest) s =
      match (walk visit front s).outcome with
      | .error _ => walk visit front s
      | .ok () =>
        { walk visit rest (walk visit front s).left with
          visits := (walk visit front s).visits ++
            (walk visit rest (walk visit front s).left).visits } := by
  induction front generalizing s with
  | nil => rfl
  | cons t front ih =>
      rcases hvisit : visit t s with ⟨fault | answer, s'⟩
      · rw [List.cons_append, walk_cons_of_error hvisit, walk_cons_of_error hvisit]
      · rw [List.cons_append, walk_cons_of_ok hvisit, walk_cons_of_ok hvisit, ih]
        cases (walk visit front s').outcome <;> rfl

/-- What a visitor records is what it visits, and the record changes nothing else. -/
theorem walk_recording (nodes : List Tree) (record : List (Tree × σ)) (s : σ) :
    (walk (recording visit) nodes (record, s)).outcome = (walk visit nodes s).outcome ∧
      (walk (recording visit) nodes (record, s)).left =
        (record ++ (walk visit nodes s).visits, (walk visit nodes s).left) := by
  induction nodes generalizing record s with
  | nil => exact ⟨rfl, by rw [walk, walk, List.append_nil]⟩
  | cons t rest ih =>
      have hrecording : recording visit t (record, s) =
          ((visit t s).1, (record ++ [(t, s)], (visit t s).2)) := rfl
      rcases hvisit : visit t s with ⟨fault | answer, s'⟩
      · rw [hvisit] at hrecording
        rw [walk_cons_of_error hrecording, walk_cons_of_error hvisit]
        exact ⟨rfl, rfl⟩
      · rw [hvisit] at hrecording
        rw [walk_cons_of_ok hrecording, walk_cons_of_ok hvisit]
        obtain ⟨houtcome, hleft⟩ := ih (record ++ [(t, s)]) s'
        refine ⟨houtcome, hleft.trans ?_⟩
        rw [List.append_assoc]
        rfl

end

/-! ### Edits as walks -/

section

variable {ε σ α β : Type}

/-- A run ends as a walk does: with the same fault or with none, and in the same state. -/
structure EndsAs (run : Except ε α × σ) (walk : Walk ε σ) : Prop where
  outcome : run.1.map (fun _ => ()) = walk.outcome
  left : run.2 = walk.left

theorem EndsAs.map {run : Except ε α × σ} {walk : Walk ε σ} (h : EndsAs run walk) (g : α → β) :
    EndsAs (run.1.map g, run.2) walk := by
  obtain ⟨houtcome, hleft⟩ := h
  refine ⟨?_, hleft⟩
  rw [← houtcome]
  cases run.1 <;> rfl

theorem EndsAs.ok_iff {run : Except ε α × σ} {walk : Walk ε σ} (h : EndsAs run walk) :
    (∃ a, run.1 = .ok a) ↔ walk.outcome = .ok () := by
  rw [← h.outcome]
  cases run.1 <;> simp [Except.map]

theorem EndsAs.error_iff {run : Except ε α × σ} {walk : Walk ε σ} (h : EndsAs run walk)
    {fault : ε} : run.1 = .error fault ↔ walk.outcome = .error fault := by
  rw [← h.outcome]
  cases run.1 <;> simp [Except.map]

variable {visit : Tree → StateM σ (Except ε Visit)} {f : Tree → Visit}

/-- Two programs one after the other end as a walk along the nodes of both. -/
theorem EndsAs.bind {x : Faulting ε σ α} {next : α → Faulting ε σ β} {front rest : List Tree}
    {s : σ} (h : EndsAs (x.run s) (walk visit front s))
    (hnext : ∀ a s', x.run s = (.ok a, s') → EndsAs ((next a).run s') (walk visit rest s')) :
    EndsAs ((x >>= next).run s) (walk visit (front ++ rest) s) := by
  obtain ⟨houtcome, hleft⟩ := h
  rw [walk_append]
  rcases hrun : x.run s with ⟨fault | a, s'⟩
  · rw [hrun] at houtcome hleft
    rw [Faulting.run_bind_of_error hrun, ← houtcome]
    exact ⟨houtcome, hleft⟩
  · rw [hrun] at houtcome hleft
    rw [Faulting.run_bind_of_ok hrun, ← houtcome, ← hleft]
    obtain ⟨hrest, hend⟩ := hnext a s' hrun
    exact ⟨hrest, hend⟩

/-- Whether the visitor goes on to the children of a node is the same as for `f`, whatever state it
is in. -/
def Follows (visit : Tree → StateM σ (Except ε Visit)) (f : Tree → Visit) : Prop :=
  ∀ t s answer s', visit t s = (.ok answer, s') → answer.descends = (f t).descends

theorem endsAs_visit (t : Tree) (s : σ) :
    EndsAs ((ExceptT.mk (visit t) : Faulting ε σ Visit).run s) (walk visit [t] s) := by
  have hrun : (ExceptT.mk (visit t) : Faulting ε σ Visit).run s = visit t s := rfl
  rw [hrun]
  rcases hvisit : visit t s with ⟨fault | answer, s'⟩
  · rw [walk_cons_of_error hvisit]
    exact ⟨rfl, rfl⟩
  · rw [walk_cons_of_ok hvisit]
    exact ⟨rfl, rfl⟩

mutual

/-- An edit in order is a walk along the nodes above which the visitor goes on. -/
theorem edited_endsAs (hfollows : Follows visit f) (t : Tree) (s : σ) :
    EndsAs ((t.edited visit).run s) (walk visit (t.visited f) s) := by
  match t with
  | .node kind none text position =>
      rw [edited_eq, visited_leaf, ← List.append_nil [_]]
      refine (endsAs_visit _ s).bind fun answer s' _ => ?_
      cases answer <;> exact ⟨rfl, rfl⟩
  | .node kind (some children) text position =>
      rw [edited_eq]
      cases hdescends : (f (.node kind (some children) text position)).descends with
      | true =>
          rw [visited_of_descends hdescends, ← List.singleton_append]
          refine (endsAs_visit _ s).bind fun answer s' hvisit => ?_
          have hanswer := (hfollows _ _ _ _ hvisit).trans hdescends
          cases answer with
          | replace tree => cases hanswer
          | stop => cases hanswer
          | descend =>
              rw [afterVisit, bind_pure_comp, Faulting.run_map]
              exact (editedAll_endsAs hfollows children s').map _
      | false =>
          rw [visited_of_turns hdescends, ← List.append_nil [_]]
          refine (endsAs_visit _ s).bind fun answer s' hvisit => ?_
          have hanswer := (hfollows _ _ _ _ hvisit).trans hdescends
          cases answer with
          | replace tree => exact ⟨rfl, rfl⟩
          | stop => exact ⟨rfl, rfl⟩
          | descend => cases hanswer

theorem editedAll_endsAs (hfollows : Follows visit f) (trees : List Tree) (s : σ) :
    EndsAs ((editedAll visit trees).run s) (walk visit (trees.flatMap (visited f)) s) := by
  match trees with
  | [] =>
      rw [editedAll_nil]
      exact ⟨rfl, rfl⟩
  | t :: rest =>
      rw [editedAll_cons, List.flatMap_cons]
      refine (edited_endsAs hfollows t s).bind fun first s' _ => ?_
      rw [bind_pure_comp, Faulting.run_map]
      exact (editedAll_endsAs hfollows rest s').map _

end

/-! ### Records -/

theorem Follows.recording (h : Follows visit f) : Follows (recording visit) f := by
  rintro t ⟨record, s⟩ answer s' hvisit
  have hanswer : (visit t s).1 = .ok answer := congrArg Prod.fst hvisit
  exact h t s answer (visit t s).2 (Prod.ext hanswer rfl)

/-- A program that keeps a record beside the state does to the state what one without does. -/
def Forgets {ρ : Type} (x : StateM (ρ × σ) α) (y : StateM σ α) : Prop :=
  ∀ record s, (x (record, s)).1 = (y s).1 ∧ (x (record, s)).2.2 = (y s).2

namespace Forgets

variable {ρ : Type} {x : StateM (ρ × σ) α} {y : StateM σ α}

theorem pure (a : α) : Forgets (pure a : StateM (ρ × σ) α) (pure a) :=
  fun _ _ => ⟨rfl, rfl⟩

theorem bind {next : α → StateM (ρ × σ) β} {next' : α → StateM σ β} (h : Forgets x y)
    (hnext : ∀ a, Forgets (next a) (next' a)) : Forgets (x >>= next) (y >>= next') := by
  intro record s
  obtain ⟨hvalue, hstate⟩ := h record s
  have hrun : y s = ((x (record, s)).1, (x (record, s)).2.2) :=
    Prod.ext hvalue.symm hstate.symm
  have hthen : (y >>= next') s = next' (x (record, s)).1 (x (record, s)).2.2 := by
    change (next' (y s).1) (y s).2 = _
    rw [hrun]
  rw [hthen]
  exact hnext _ (x (record, s)).2.1 (x (record, s)).2.2

/-- Keeping a record is a congruence. -/
def congruence (ρ σ : Type) : Congruence (ρ × σ) σ where
  rel := Forgets
  pure := .pure
  bind := .bind

end Forgets

/-- A visitor that keeps a record edits a tree as it does without one. -/
theorem edit_forgets (t : Tree) : Forgets (t.edit (recording visit)) (t.edit visit) :=
  edit_congr (c := Forgets.congruence _ σ) (fun _ _ _ => ⟨rfl, rfl⟩) t

/-- An edit in order records the visits of the walk. -/
theorem edit_record (hfollows : Follows visit f) (t : Tree) (s : σ) :
    (t.edit (recording visit)) ([], s) =
      ((t.edit visit s).1, ((walk visit (t.visited f) s).visits, (t.edit visit s).2)) := by
  have hforgets : Forgets (t.edit (recording visit)) (t.edit visit) := edit_forgets t
  obtain ⟨hresult, hstate⟩ := hforgets [] s
  have hleft : (t.edit (recording visit) ([], s)).2 = _ :=
    (edited_endsAs hfollows.recording t ([], s)).left
  rw [(walk_recording (t.visited f) [] s).2, List.nil_append] at hleft
  have hrecord : (t.edit (recording visit) ([], s)).2.1 = (walk visit (t.visited f) s).visits :=
    congrArg Prod.fst hleft
  exact Prod.ext hresult (Prod.ext hrecord hstate)

end

end Tree

end TemplateScript
