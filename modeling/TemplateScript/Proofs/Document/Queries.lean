import TemplateScript.Proofs.Document.Tours

/-!
# Queries of trees

All queries go through the nodes of a tree in one order. The nodes of a kind are collected in it,
the one that is found is the first of them, and traversals are shown nodes in it, whether or not
they await their visitors.
-/

namespace TemplateScript

namespace Tree

section

variable {ε σ : Type} {visit : Tree → StateM σ (Except ε Visit)} {places : List (List Nat × Tree)}
  {nodes : List Tree} {s : σ}

/-! ### Records of traversals -/

theorem EndsAs.eq {run : Except ε Unit × σ} {walk : Walk ε σ} (h : EndsAs run walk) :
    run = (walk.outcome, walk.left) := by
  obtain ⟨houtcome, hleft⟩ := h
  refine Prod.ext ?_ hleft
  rw [← houtcome]
  cases run.1 <;> rfl

/-- A visitor that keeps a record goes through a tree as it does without one. -/
theorem traverse_forgets (replaced : ε) (t : Tree) :
    Forgets (t.traverse (recording visit) replaced) (t.traverse visit replaced) :=
  traverse_congr (c := Forgets.congruence _ σ) (fun _ _ _ => ⟨rfl, rfl⟩) replaced t

theorem Keeps.recording (h : Keeps visit) : Keeps (recording visit) :=
  fun t s tree => h t s.2 tree

theorem walk_recording_visits (nodes : List Tree) (record : List (Tree × σ)) (s : σ) :
    (walk (Tree.recording visit) nodes (record, s)).visits.map (fun v => (v.1, v.2.2)) =
      (walk visit nodes s).visits := by
  induction nodes generalizing record s with
  | nil => rfl
  | cons t rest ih =>
      have hrecording : Tree.recording visit t (record, s) =
          ((visit t s).1, (record ++ [(t, s)], (visit t s).2)) := rfl
      rcases hvisit : visit t s with ⟨fault | answer, s'⟩
      · rw [hvisit] at hrecording
        rw [walk_cons_of_error hrecording, walk_cons_of_error hvisit]
        rfl
      · rw [hvisit] at hrecording
        rw [walk_cons_of_ok hrecording, walk_cons_of_ok hvisit, List.map_cons, ih]

/-- A visitor that notes the nodes of a kind notes all of them. -/
theorem walk_collector (kind : Option String) (nodes found : List Tree) :
    (walk (collector kind) nodes found).outcome = .ok () ∧
      (walk (collector kind) nodes found).left =
        found ++ nodes.filter fun t => t.kind == kind := by
  induction nodes generalizing found with
  | nil => exact ⟨rfl, (List.append_nil found).symm⟩
  | cons t rest ih =>
      cases hkind : t.kind == kind with
      | true =>
          have hvisit : collector kind t found = (.ok .descend, found ++ [t]) := by
            rw [collector, hkind]
            rfl
          obtain ⟨houtcome, hleft⟩ := ih (found ++ [t])
          rw [walk_cons_of_ok hvisit, List.filter_cons_of_pos (by exact hkind)]
          exact ⟨houtcome, hleft.trans (List.append_cons found t _).symm⟩
      | false =>
          have hvisit : collector kind t found = (.ok .descend, found) := by
            rw [collector, hkind]
            rfl
          rw [walk_cons_of_ok hvisit, List.filter_cons_of_neg (by simp [hkind])]
          exact ih found

mutual

/-- A visitor that never turns back goes through all nodes. -/
theorem traversed_endsAs
    (hdescends : ∀ t s answer, (visit t s).1 = .ok answer → answer = .descend) (replaced : ε)
    (t : Tree) (s : σ) :
    EndsAs ((t.traversed visit replaced).run s) (walk visit t.nodes s) := by
  match t with
  | .node kind none text position =>
      rw [traversed_eq, nodes, ← List.append_nil [_]]
      refine (endsAs_visit _ s).bind fun answer s' hvisit => ?_
      obtain rfl := hdescends _ s answer (congrArg Prod.fst hvisit)
      simp only [children?, Option.getD_none, traversedAll_nil]
      exact ⟨rfl, rfl⟩
  | .node kind (some children) text position =>
      rw [traversed_eq, nodes, ← List.singleton_append]
      refine (endsAs_visit _ s).bind fun answer s' hvisit => ?_
      obtain rfl := hdescends _ s answer (congrArg Prod.fst hvisit)
      exact traversedAll_endsAs hdescends replaced children s'

theorem traversedAll_endsAs
    (hdescends : ∀ t s answer, (visit t s).1 = .ok answer → answer = .descend) (replaced : ε)
    (trees : List Tree) (s : σ) :
    EndsAs ((traversedAll visit replaced trees).run s) (walk visit (nodesOfAll trees) s) := by
  match trees with
  | [] =>
      rw [traversedAll_nil]
      exact ⟨rfl, rfl⟩
  | t :: rest =>
      rw [traversedAll_cons, nodesOfAll]
      exact (traversed_endsAs hdescends replaced t s).bind fun _ s' _ =>
        traversedAll_endsAs hdescends replaced rest s'

end

/-- The nodes of a kind are collected in order, and none is missed. -/
theorem collectKind_eq (kind : Option String) (t : Tree) :
    t.collectKind kind = .ok (t.nodes.filter fun u => u.kind == kind) := by
  have hdescends (u : Tree) (found : List Tree) (answer : Visit)
      (h : (collector kind u found).1 = .ok answer) : answer = .descend := by
    rw [collector] at h
    split at h <;> cases h <;> rfl
  obtain ⟨houtcome, hleft⟩ := walk_collector kind t.nodes []
  have hend := (traversed_endsAs hdescends (.replacement false) t []).eq
  rw [houtcome, hleft, List.nil_append] at hend
  have hrun : (t.traverse (collector kind) (.replacement false)).run [] =
      (.ok (), t.nodes.filter fun u => u.kind == kind) := hend
  rw [collectKind, hrun]

/-! ### The order of all queries -/

/-- The visits of a walk along some places, each with its place. -/
def placedVisits (places : List (List Nat × Tree)) (visits : List (Tree × σ)) :
    List ((List Nat × Tree) × σ) :=
  (places.zip visits).map fun visited => (visited.1, visited.2.2)

theorem map_placedVisits (places : List (List Nat × Tree)) (visits : List (Tree × σ)) :
    (placedVisits places visits).map Prod.fst = places.take visits.length := by
  rw [placedVisits, List.map_map]
  change (places.zip visits).map Prod.fst = _
  rw [List.zip_eq_zip_take_min, List.map_fst_zip (by simp)]
  exact List.take_eq_take_iff.mpr (by omega)

/-- The nodes of a walk are those at its places. -/
theorem placedVisits_nodes {visits : List (Tree × σ)}
    (h : visits.map Prod.fst <+: places.map Prod.snd) :
    (placedVisits places visits).map (fun v => (v.1.2, v.2)) = visits := by
  induction visits generalizing places with
  | nil => rw [placedVisits, List.zip_nil_right, List.map_nil, List.map_nil]
  | cons v visits ih =>
      cases places with
      | nil => exact absurd h.length_le (by simp)
      | cons place places =>
          obtain ⟨hnode, hrest⟩ := List.cons_prefix_cons.mp h
          rw [placedVisits, List.zip_cons_cons, List.map_cons, List.map_cons, ← hnode]
          exact congrArg _ (ih hrest)

/-- All queries go through a tree in the order of places. The nodes of a kind are collected in that
order, and the first of them is the one that is found. A visitor that replaces nothing is shown the
same nodes in every traversal: those at the places with none above at which it turned back, up to
the first at which it fails, each once and in that order. -/
theorem queries_agree (kind : Option String) (t : Tree) (hkeeps : Keeps visit) (s : σ) :
    t.collectKind kind = .ok (t.nodes.filter fun u => u.kind == kind) ∧
    t.findKind? kind = (t.nodes.filter fun u => u.kind == kind).head? ∧
    t.places.map Prod.snd = t.nodes ∧ (t.places.Pairwise fun p q => p.1 < q.1) ∧
    (∀ path u, (path, u) ∈ t.places ↔ t.subtree? path = some u) ∧
    ∃ stops : List Nat → Bool, ∃ visits : List ((List Nat × Tree) × σ),
      visits.map Prod.fst <+: (t.places.filter fun place => reached stops place.1) ∧
      (∀ v ∈ visits, stops v.1.1 ↔ (visit v.1.2 v.2).1 = .ok .stop) ∧
      ∃ outcome left,
        (outcome = .ok () → visits.map Prod.fst =
          t.places.filter fun place => reached stops place.1) ∧
        (∀ fault, outcome = .error fault →
          ∃ v, visits.getLast? = some v ∧ (visit v.1.2 v.2).1 = .error fault) ∧
        ∀ replaced : ε, (t.traverse visit replaced).run s = (outcome, left) ∧
          (t.traverse (recording visit) replaced).run ([], s) =
            (outcome, (visits.map fun v => (v.1.2, v.2)), left) := by
  obtain ⟨stops, tour⟩ := exists_tour hkeeps.recording t (([] : List (Tree × σ)), s)
  obtain ⟨places, hplaces⟩ : ∃ places, places = reachedPlaces stops t.places := ⟨_, rfl⟩
  obtain ⟨nodes, hnodes⟩ : ∃ nodes, nodes = places.map Prod.snd := ⟨_, rfl⟩
  have hvisits : (placedVisits places (walk visit nodes s).visits).map (fun v => (v.1.2, v.2)) =
      (walk visit nodes s).visits :=
    placedVisits_nodes (hnodes ▸ walk_visits_front visit nodes s)
  obtain ⟨houtcome, hleft⟩ := @walk_recording ε σ visit nodes [] s
  have hrun (replaced : ε) : (t.traverse (Tree.recording visit) replaced).run ([], s) =
      ((walk visit nodes s).outcome, (walk visit nodes s).visits, (walk visit nodes s).left) := by
    have hend := (tour.endsAs replaced).eq
    rw [← hplaces, ← hnodes, houtcome, hleft, List.nil_append] at hend
    exact hend
  refine ⟨collectKind_eq kind t, ?_, map_places t, places_ordered t, mem_places t, stops,
    placedVisits places (walk visit nodes s).visits, ?_, ?_, (walk visit nodes s).outcome,
    (walk visit nodes s).left, ?_, ?_, fun replaced => ⟨?_, ?_⟩⟩
  · rw [findKind?, find?_eq, List.head?_filter]
  · rw [map_placedVisits, hplaces]
    exact List.take_prefix ..
  · intro v hv
    obtain ⟨visited, hvisited, rfl⟩ := List.mem_map.mp hv
    rw [← walk_recording_visits nodes [] s, List.zip_map_right] at hvisited
    obtain ⟨shown, hshown, rfl⟩ := List.mem_map.mp hvisited
    rw [hnodes, hplaces] at hshown
    exact tour.stops_iff shown hshown
  · intro hok
    have hlength := congrArg List.length (walk_visits_of_ok hok)
    rw [hnodes, List.length_map, List.length_map, ← hnodes] at hlength
    rw [map_placedVisits, hlength, List.take_length, hplaces]
    rfl
  · intro fault hfault
    obtain ⟨v, hlast, hfails⟩ := walk_visits_of_error hfault
    rw [← hvisits, List.getLast?_map, Option.map_eq_some_iff] at hlast
    obtain ⟨placed, hplaced, rfl⟩ := hlast
    exact ⟨placed, hplaced, hfails⟩
  · have hforgets : Forgets (t.traverse (Tree.recording visit) replaced)
        (t.traverse visit replaced) := traverse_forgets replaced t
    obtain ⟨hresult, hstate⟩ := hforgets [] s
    have hrecorded := hrun replaced
    exact Prod.ext (hresult.symm.trans (congrArg Prod.fst hrecorded))
      (hstate.symm.trans (congrArg (fun run => run.2.2) hrecorded))
  · rw [hvisits]
    exact hrun replaced

end

/-- A tree with two nodes of a kind, and with one node below that has no children and one whose
children are none. -/
def family : Tree :=
  .node (some "root") (some [
    .node (some "a") (some [.node (some "b") none (some "x") none]) none none,
    .node (some "c") (some []) none none,
    .node (some "b") none (some "y") none]) none none

/-- A visitor that turns back at the second node that it is shown, whichever that is. -/
def turnsAtSecond (_ : Tree) : StateM Nat (Except VisitFault Visit) :=
  fun shown => (.ok (if shown = 1 then .stop else .descend), shown + 1)

theorem turnsAtSecond_keeps : Keeps turnsAtSecond := by
  intro t shown tree
  rw [turnsAtSecond]
  by_cases h : shown = 1 <;> simp [h]

theorem queries_agree_family :
    ∃ stops : List Nat → Bool, ∃ visits : List ((List Nat × Tree) × Nat),
    visits.map Prod.fst = (family.places.filter fun place => reached stops place.1) ∧
    (∀ v ∈ visits, stops v.1.1 ↔ (turnsAtSecond v.1.2 v.2).1 = .ok .stop) ∧
    ∀ replaced : VisitFault,
      (family.traverse (recording turnsAtSecond) replaced).run ([], 0) =
        (.ok (), (visits.map fun v => (v.1.2, v.2)), 4) := by
  obtain ⟨-, -, -, -, -, stops, visits, -, hstops, outcome, left, hall, -, hruns⟩ :=
    queries_agree (some "b") family turnsAtSecond_keeps 0
  have hrun := (hruns (.replacement false)).1
  cases hrun
  exact ⟨stops, visits, hall rfl, hstops, fun replaced => (hruns replaced).2⟩

end Tree

end TemplateScript
