import TemplateScript.Proofs.Document.Places
import TemplateScript.Proofs.Document.Visits

/-!
# What a traversal visits

A visitor may turn back at any node, by whatever it keeps in its state. One that replaces nothing is
shown the nodes at the places with none above at which it turned back: a traversal is a walk along
these. It is a tour of all places of the tree, put together from tours of the children.
-/

namespace TemplateScript

namespace Tree

/-! ### Traversals as programs that may fail -/

section

variable {ε σ : Type} (visit : Tree → StateM σ (Except ε Visit)) (replaced : ε)

def traversed (t : Tree) : Faulting ε σ Unit :=
  ExceptT.mk (t.traverse visit replaced)

def traversedAll (trees : List Tree) : Faulting ε σ Unit :=
  ExceptT.mk (traverseAll visit replaced trees)

theorem traversed_eq (t : Tree) : t.traversed visit replaced = do
    match ← (ExceptT.mk (visit t) : Faulting ε σ Visit) with
    | .descend => traversedAll visit replaced (t.children?.getD [])
    | .replace _ => throw replaced
    | .stop => return () := by
  obtain ⟨kind, children, text, position⟩ := t
  funext s
  rw [traversed, traverse.eq_def]
  simp only [ExceptT.mk, bind, ExceptT.bind, StateT.bind, ExceptT.bindCont]
  rcases visit (.node kind children text position) s with ⟨fault | (tree | _ | _), s'⟩
  · rfl
  · rfl
  · rfl
  · cases children with
    | none =>
        rw [children?, Option.getD_none, traversedAll, traverseAll.eq_def]
        rfl
    | some children => rfl

theorem traversedAll_nil : traversedAll visit replaced [] = pure () := by
  rw [traversedAll, traverseAll.eq_def]
  rfl

theorem traversedAll_cons (t : Tree) (rest : List Tree) :
    traversedAll visit replaced (t :: rest) =
      t.traversed visit replaced >>= fun _ => traversedAll visit replaced rest := by
  funext s
  rw [traversedAll, traverseAll.eq_def]
  simp only [traversed, ExceptT.mk, bind, ExceptT.bind, StateT.bind]
  rcases t.traverse visit replaced s with ⟨fault | _, s'⟩ <;> rfl

end

section

variable {ε σ τ : Type} {c : Congruence σ τ} {visit : Tree → StateM σ (Except ε Visit)}
  {visit' : Tree → StateM τ (Except ε Visit)}

mutual

theorem traverse_congr (hvisit : ∀ t, c.rel (visit t) (visit' t)) (replaced : ε) (t : Tree) :
    c.rel (t.traverse visit replaced) (t.traverse visit' replaced) := by
  match t with
  | .node kind none text position =>
      rw [traverse.eq_def, traverse.eq_def]
      refine c.bind (hvisit _) fun answer => ?_
      rcases answer with fault | (tree | _ | _) <;> exact c.pure _
  | .node kind (some children) text position =>
      rw [traverse.eq_def, traverse.eq_def]
      refine c.bind (hvisit _) fun answer => ?_
      rcases answer with fault | (tree | _ | _)
      · exact c.pure _
      · exact c.pure _
      · exact c.pure _
      · exact traverseAll_congr hvisit replaced children

theorem traverseAll_congr (hvisit : ∀ t, c.rel (visit t) (visit' t)) (replaced : ε)
    (trees : List Tree) :
    c.rel (traverseAll visit replaced trees) (traverseAll visit' replaced trees) := by
  match trees with
  | [] =>
      rw [traverseAll.eq_def, traverseAll.eq_def]
      exact c.pure _
  | t :: rest =>
      rw [traverseAll.eq_def, traverseAll.eq_def]
      refine c.bind (traverse_congr hvisit replaced t) fun ended => ?_
      rcases ended with fault | _
      · exact c.pure _
      · exact traverseAll_congr hvisit replaced rest

end

end

/-! ### Tours -/

section

variable {ε σ : Type} {visit : Tree → StateM σ (Except ε Visit)} {nodes : List Tree} {s : σ}

theorem walk_visits_front (visit : Tree → StateM σ (Except ε Visit)) (nodes : List Tree)
    (s : σ) : (walk visit nodes s).visits.map Prod.fst <+: nodes := by
  induction nodes generalizing s with
  | nil => exact List.nil_prefix
  | cons t rest ih =>
      rcases hvisit : visit t s with ⟨fault | answer, s'⟩
      · rw [walk_cons_of_error hvisit]
        exact ⟨rest, rfl⟩
      · rw [walk_cons_of_ok hvisit]
        exact List.cons_prefix_cons.mpr ⟨rfl, ih s'⟩

/-- A walk without a fault visits all of its nodes. -/
theorem walk_visits_of_ok (h : (walk visit nodes s).outcome = .ok ()) :
    (walk visit nodes s).visits.map Prod.fst = nodes := by
  induction nodes generalizing s with
  | nil => rfl
  | cons t rest ih =>
      rcases hvisit : visit t s with ⟨fault | answer, s'⟩
      · rw [walk_cons_of_error hvisit] at h
        cases h
      · rw [walk_cons_of_ok hvisit] at h ⊢
        rw [List.map_cons, ih h]

/-- A walk ends with a fault only where the visitor fails. -/
theorem walk_visits_of_error {fault : ε} (h : (walk visit nodes s).outcome = .error fault) :
    ∃ v, (walk visit nodes s).visits.getLast? = some v ∧ (visit v.1 v.2).1 = .error fault := by
  induction nodes generalizing s with
  | nil => cases h
  | cons t rest ih =>
      rcases hvisit : visit t s with ⟨other | answer, s'⟩
      · rw [walk_cons_of_error hvisit] at h ⊢
        cases h
        exact ⟨(t, s), rfl, congrArg Prod.fst hvisit⟩
      · rw [walk_cons_of_ok hvisit] at h ⊢
        obtain ⟨v, hlast, hfails⟩ := ih h
        exact ⟨v, by rw [List.getLast?_cons, hlast]; rfl, hfails⟩

theorem zip_append_of_length_le {α β : Type} {front : List α} {others : List β}
    (h : others.length ≤ front.length) (rest : List α) :
    (front ++ rest).zip others = front.zip others := by
  have hlength : others.length ≤ (front ++ rest).length := by
    rw [List.length_append]
    exact Nat.le_add_right_of_le h
  have hzip : front.zip others = (front.take others.length).zip (others.take others.length) := by
    rw [List.zip_eq_zip_take_min, Nat.min_eq_right h]
  rw [List.zip_eq_zip_take_min, Nat.min_eq_right hlength, List.take_append_of_le_length h, hzip]

/-- How a traversal goes through the nodes at some places. It is a walk along those to which the
visitor comes, and `stops` says at which of them the visitor turns back. -/
structure Tour (visit : Tree → StateM σ (Except ε Visit)) (stops : List Nat → Bool)
    (places : List (List Nat × Tree)) (s : σ) (run : ε → Faulting ε σ Unit) : Prop where
  endsAs (replaced : ε) :
    EndsAs ((run replaced).run s) (walk visit ((reachedPlaces stops places).map Prod.snd) s)
  stops_iff : ∀ visited ∈ (reachedPlaces stops places).zip
      (walk visit ((reachedPlaces stops places).map Prod.snd) s).visits,
    stops visited.1.1 ↔ (visit visited.1.2 visited.2.2).1 = .ok .stop

variable {stops stops' : List Nat → Bool} {places front rest : List (List Nat × Tree)}
  {run next : ε → Faulting ε σ Unit}

namespace Tour

theorem nil (visit : Tree → StateM σ (Except ε Visit)) (stops : List Nat → Bool) (s : σ) :
    Tour visit stops [] s fun _ => pure () where
  endsAs _ := ⟨rfl, rfl⟩
  stops_iff _ h := nomatch h

/-- Nodes may be placed elsewhere. -/
theorem placed (h : Tour visit stops places s run) (embed : List Nat → List Nat)
    (hreached : ∀ place ∈ places, reached stops' (embed place.1) = reached stops place.1)
    (hstops : ∀ place ∈ places, stops' (embed place.1) = stops place.1) :
    Tour visit stops' (places.map fun place => (embed place.1, place.2)) s run := by
  have hplaces : reachedPlaces stops' (places.map fun place => (embed place.1, place.2)) =
      (reachedPlaces stops places).map fun place => (embed place.1, place.2) := by
    rw [reachedPlaces, List.filter_map, reachedPlaces]
    exact congrArg _ (List.filter_congr hreached)
  have hnodes : ((reachedPlaces stops places).map fun place => (embed place.1, place.2)).map
      Prod.snd = (reachedPlaces stops places).map Prod.snd := by
    rw [List.map_map]
    rfl
  refine ⟨fun replaced => ?_, fun visited hvisited => ?_⟩
  · rw [hplaces, hnodes]
    exact h.endsAs replaced
  · rw [hplaces, hnodes, List.zip_map_left] at hvisited
    obtain ⟨before, hbefore, rfl⟩ := List.mem_map.mp hvisited
    have hplace : before.1 ∈ places := (List.mem_filter.mp (List.of_mem_zip hbefore).1).1
    exact (hstops before.1 hplace).symm ▸ h.stops_iff before hbefore

/-- Two tours one after the other. -/
theorem append (h : Tour visit stops front s run)
    (hrest : Tour visit stops rest
      (walk visit ((reachedPlaces stops front).map Prod.snd) s).left next) :
    Tour visit stops (front ++ rest) s fun replaced => run replaced >>= fun _ => next replaced := by
  have hplaces : reachedPlaces stops (front ++ rest) =
      reachedPlaces stops front ++ reachedPlaces stops rest := List.filter_append ..
  refine ⟨fun replaced => ?_, fun visited hvisited => ?_⟩
  · rw [hplaces, List.map_append]
    refine (h.endsAs replaced).bind fun _ s' hrun => ?_
    have hleft := (h.endsAs replaced).left
    rw [hrun] at hleft
    change s' = _ at hleft
    rw [hleft]
    exact hrest.endsAs replaced
  · rw [hplaces, List.map_append, walk_append] at hvisited
    split at hvisited
    · next hfault =>
        have hle :=
          (walk_visits_front visit ((reachedPlaces stops front).map Prod.snd) s).length_le
        rw [List.length_map, List.length_map] at hle
        rw [zip_append_of_length_le hle] at hvisited
        exact h.stops_iff visited hvisited
    · next hok =>
        have hlength := congrArg List.length (walk_visits_of_ok hok)
        rw [List.length_map, List.length_map] at hlength
        rw [List.zip_append hlength.symm, List.mem_append] at hvisited
        exact hvisited.elim (h.stops_iff visited) (hrest.stops_iff visited)

end Tour

/-- A visitor that replaces no node. -/
def Keeps (visit : Tree → StateM σ (Except ε Visit)) : Prop :=
  ∀ t s tree, (visit t s).1 ≠ .ok (.replace tree)

variable {t : Tree} {s' : σ}

namespace Tour

/-- A node at which the visitor fails ends the tour. -/
theorem of_error {fault : ε} (h : visit t s = (.error fault, s')) :
    Tour visit (fun _ => false) t.places s fun replaced => t.traversed visit replaced := by
  have hrun : (ExceptT.mk (visit t) : Faulting ε σ Visit).run s = (.error fault, s') := h
  refine ⟨fun replaced => ?_, fun visited hvisited => ?_⟩
  · rw [reachedPlaces_eq, List.map_cons, walk_cons_of_error h, traversed_eq,
      Faulting.run_bind_of_error hrun]
    exact ⟨rfl, rfl⟩
  · rw [reachedPlaces_eq, List.map_cons, walk_cons_of_error h, List.zip_cons_cons,
      List.zip_nil_right, List.mem_singleton] at hvisited
    rw [hvisited, h]
    exact ⟨fun hstop => (nomatch hstop), fun hstop => (nomatch hstop)⟩

/-- A visitor that turns back at the root sees no more. -/
theorem of_stop (h : visit t s = (.ok .stop, s')) :
    Tour visit (fun _ => true) t.places s fun replaced => t.traversed visit replaced := by
  have hrun : (ExceptT.mk (visit t) : Faulting ε σ Visit).run s = (.ok .stop, s') := h
  refine ⟨fun replaced => ?_, fun visited hvisited => ?_⟩
  · rw [reachedPlaces_eq, reachedPlaces_of_stop rfl, List.map_cons, walk_cons_of_ok h,
      traversed_eq, Faulting.run_bind_of_ok hrun]
    exact ⟨rfl, rfl⟩
  · rw [reachedPlaces_eq, reachedPlaces_of_stop rfl, List.map_cons, walk_cons_of_ok h,
      List.zip_cons_cons, List.zip_nil_left, List.mem_singleton] at hvisited
    rw [hvisited, h]
    exact ⟨fun _ => rfl, fun _ => rfl⟩

theorem of_descend (h : visit t s = (.ok .descend, s')) (hroot : stops [] = false)
    (hbelow : Tour visit stops (placesOfAll 0 (t.children?.getD [])) s' fun replaced =>
      traversedAll visit replaced (t.children?.getD [])) :
    Tour visit stops t.places s fun replaced => t.traversed visit replaced := by
  have hrun : (ExceptT.mk (visit t) : Faulting ε σ Visit).run s = (.ok .descend, s') := h
  refine ⟨fun replaced => ?_, fun visited hvisited => ?_⟩
  · obtain ⟨houtcome, hleft⟩ := hbelow.endsAs replaced
    rw [reachedPlaces_eq, List.map_cons, walk_cons_of_ok h, traversed_eq,
      Faulting.run_bind_of_ok hrun]
    exact ⟨houtcome, hleft⟩
  · rw [reachedPlaces_eq, List.map_cons, walk_cons_of_ok h, List.zip_cons_cons, List.mem_cons]
      at hvisited
    rcases hvisited with rfl | hvisited
    · rw [hroot, h]
      exact ⟨fun hstop => (nomatch hstop), fun hstop => (nomatch hstop)⟩
    · exact hbelow.stops_iff visited hvisited

/-- Tours of the first and of the other siblings are one of all. -/
theorem cons {first others : List Nat → Bool} {number : Nat} {trees : List Tree}
    (hfirst : Tour visit first t.places s run) (hroot : others [] = false)
    (hothers : Tour visit others (placesOfAll (number + 1) trees)
      (walk visit ((reachedPlaces first t.places).map Prod.snd) s).left next) :
    Tour visit (joined number first others) (placesOfAll number (t :: trees)) s
      fun replaced => run replaced >>= fun _ => next replaced := by
  have hplaced : Tour visit (joined number first others)
      (t.places.map fun place => (number :: place.1, place.2)) s run :=
    hfirst.placed (number :: ·) (fun place _ => reached_joined_this place.1) fun place _ =>
      joined_this place.1
  have hnodes : (reachedPlaces (joined number first others)
      (t.places.map fun place => (number :: place.1, place.2))).map Prod.snd =
        (reachedPlaces first t.places).map Prod.snd := by
    simp only [reachedPlaces, List.filter_map, List.map_map, Function.comp_def, reached_joined_this]
  rw [placesOfAll]
  refine hplaced.append ?_
  rw [hnodes]
  refine (List.map_id' (placesOfAll (number + 1) trees)) ▸ hothers.placed id ?_ ?_
  · intro place hplace
    obtain ⟨index, below, hle, hpath⟩ := exists_of_mem_placesOfAll hplace
    rw [id, hpath, reached_joined_other below hroot hle]
  · intro place hplace
    obtain ⟨index, below, hle, hpath⟩ := exists_of_mem_placesOfAll hplace
    rw [id, hpath, joined_other below hle]

end Tour

mutual

/-- A traversal by a visitor that replaces nothing is a tour of all places of a tree. -/
theorem exists_tour (hkeeps : Keeps visit) (t : Tree) (s : σ) :
    ∃ stops, Tour visit stops t.places s fun replaced => t.traversed visit replaced := by
  rcases hvisit : visit t s with ⟨fault | (tree | _ | _), s'⟩
  · exact ⟨_, .of_error hvisit⟩
  · exact absurd (congrArg Prod.fst hvisit) (hkeeps t s tree)
  · exact ⟨_, .of_stop hvisit⟩
  · match t with
    | .node kind none text position =>
        exact ⟨fun _ => false, .of_descend hvisit rfl (by
          simpa only [children?, Option.getD_none, traversedAll_nil] using .nil ..)⟩
    | .node kind (some children) text position =>
        obtain ⟨stops, hroot, hbelow⟩ := exists_tourOfAll hkeeps 0 children s'
        exact ⟨stops, .of_descend hvisit hroot hbelow⟩

theorem exists_tourOfAll (hkeeps : Keeps visit) (number : Nat) (trees : List Tree) (s : σ) :
    ∃ stops, stops [] = false ∧ Tour visit stops (placesOfAll number trees) s
      fun replaced => traversedAll visit replaced trees := by
  match trees with
  | [] =>
      refine ⟨fun _ => false, rfl, ?_⟩
      simp only [traversedAll_nil]
      exact .nil ..
  | t :: rest =>
      obtain ⟨first, hfirst⟩ := exists_tour hkeeps t s
      obtain ⟨others, hroot, hothers⟩ := exists_tourOfAll hkeeps (number + 1) rest
        (walk visit ((reachedPlaces first t.places).map Prod.snd) s).left
      simp only [traversedAll_cons]
      exact ⟨_, rfl, hfirst.cons hroot hothers⟩

end

end

end Tree

end TemplateScript
