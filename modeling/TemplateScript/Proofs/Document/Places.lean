import TemplateScript.Document.Tree

/-!
# Places in trees

A place is the way to a node from the root. Places are ordered as words are, and that is the order
of the nodes of a tree in which each is before its children. Where something turns back at some
places, it comes to those with none of them above.
-/

namespace TemplateScript

namespace Tree

mutual

/-- The nodes of a tree, each before its children and with its place: which child to go to at each
step from the root. -/
def places : Tree → List (List Nat × Tree)
  | .node kind none text position => [([], .node kind none text position)]
  | .node kind (some children) text position =>
    ([], .node kind (some children) text position) :: placesOfAll 0 children

/-- The nodes of siblings, of which the first has the given number. -/
def placesOfAll (number : Nat) : List Tree → List (List Nat × Tree)
  | [] => []
  | t :: rest =>
    t.places.map (fun place => (number :: place.1, place.2)) ++ placesOfAll (number + 1) rest

end

/-- The node at a place. -/
def subtree? : Tree → List Nat → Option Tree
  | t, [] => some t
  | t, number :: place => do (← (← t.children?)[number]?).subtree? place

mutual

theorem map_places (t : Tree) : t.places.map Prod.snd = t.nodes := by
  match t with
  | .node kind none text position => rw [places, nodes, List.map_singleton]
  | .node kind (some children) text position =>
      rw [places, nodes, List.map_cons, map_placesOfAll 0 children]

theorem map_placesOfAll (number : Nat) (trees : List Tree) :
    (placesOfAll number trees).map Prod.snd = nodesOfAll trees := by
  match trees with
  | [] => rfl
  | t :: rest =>
      rw [placesOfAll, nodesOfAll, List.map_append, List.map_map, ← map_places t,
        map_placesOfAll (number + 1) rest]
      rfl

end

mutual

/-- The places of a tree are all those at which it has a node. -/
theorem mem_places (t : Tree) (path : List Nat) (u : Tree) :
    (path, u) ∈ t.places ↔ t.subtree? path = some u := by
  match t with
  | .node kind none text position =>
      rw [places, List.mem_singleton]
      cases path with
      | nil => simp [subtree?, eq_comm]
      | cons number place => simp [subtree?, children?]
  | .node kind (some children) text position =>
      rw [places, List.mem_cons, mem_placesOfAll 0 children]
      cases path with
      | nil => simp [subtree?, eq_comm]
      | cons number place =>
          simp only [subtree?, children?, Option.bind_eq_bind, Option.bind_some,
            Option.bind_eq_some_iff, Nat.zero_add, List.cons.injEq, reduceCtorEq, Prod.mk.injEq,
            false_and, false_or]
          constructor
          · rintro ⟨_, _, ⟨rfl, rfl⟩, below⟩
            exact below
          · intro below
            exact ⟨number, place, ⟨rfl, rfl⟩, below⟩

theorem mem_placesOfAll (number : Nat) (trees : List Tree) (path : List Nat) (u : Tree) :
    (path, u) ∈ placesOfAll number trees ↔ ∃ index place, path = (number + index) :: place ∧
      ∃ t, trees[index]? = some t ∧ t.subtree? place = some u := by
  match trees with
  | [] => simp [placesOfAll]
  | t :: rest =>
      rw [placesOfAll, List.mem_append, mem_placesOfAll (number + 1) rest]
      constructor
      · rintro (hfirst | ⟨index, place, rfl, below⟩)
        · obtain ⟨⟨place, v⟩, hplace, heq⟩ := List.mem_map.mp hfirst
          cases heq
          exact ⟨0, place, rfl, t, rfl, (mem_places t place v).mp hplace⟩
        · exact ⟨index + 1, place, by rw [Nat.add_right_comm, Nat.add_assoc], below⟩
      · rintro ⟨index, place, rfl, v, hv, hu⟩
        cases index with
        | zero =>
            cases hv
            exact .inl (List.mem_map.mpr ⟨(place, u), (mem_places t place u).mpr hu, rfl⟩)
        | succ index =>
            exact .inr ⟨index, place, by rw [Nat.add_right_comm, Nat.add_assoc], v, hv, hu⟩

end

theorem exists_of_mem_placesOfAll {number : Nat} {trees : List Tree}
    {place : List Nat × Tree} (h : place ∈ placesOfAll number trees) :
    ∃ index below, number ≤ index ∧ place.1 = index :: below := by
  obtain ⟨index, below, hpath, -⟩ := (mem_placesOfAll number trees place.1 place.2).mp h
  exact ⟨number + index, below, Nat.le_add_right .., hpath⟩

mutual

/-- Places come in the order of words, and so no place comes twice. -/
theorem places_ordered (t : Tree) : t.places.Pairwise fun p q => p.1 < q.1 := by
  match t with
  | .node kind none text position =>
      rw [places]
      exact List.pairwise_singleton ..
  | .node kind (some children) text position =>
      rw [places, List.pairwise_cons]
      refine ⟨fun place hplace => ?_, placesOfAll_ordered 0 children⟩
      obtain ⟨index, below, -, hpath⟩ := exists_of_mem_placesOfAll hplace
      rw [hpath]
      exact List.nil_lt_cons ..

theorem placesOfAll_ordered (number : Nat) (trees : List Tree) :
    (placesOfAll number trees).Pairwise fun p q => p.1 < q.1 := by
  match trees with
  | [] => exact .nil
  | t :: rest =>
      rw [placesOfAll, List.pairwise_append, List.pairwise_map]
      refine ⟨(places_ordered t).imp fun hlt => List.cons_lt_cons_self.mpr hlt,
        placesOfAll_ordered (number + 1) rest, fun p hp q hq => ?_⟩
      obtain ⟨place, -, rfl⟩ := List.mem_map.mp hp
      obtain ⟨index, below, hle, hpath⟩ := exists_of_mem_placesOfAll hq
      rw [hpath]
      exact List.cons_lt_cons_iff.mpr (.inl hle)

end

/-! ### Finding -/

section

variable (p : Tree → Bool)

mutual

theorem find?_eq (t : Tree) : t.find? p = t.nodes.find? p := by
  match t with
  | .node kind none text position =>
      rw [find?, nodes, List.find?_singleton]
  | .node kind (some children) text position =>
      rw [find?, nodes, List.find?_cons, findInAll?_eq children]
      cases p (.node kind (some children) text position) <;> rfl

theorem findInAll?_eq (trees : List Tree) : findInAll? p trees = (nodesOfAll trees).find? p := by
  match trees with
  | [] => rfl
  | t :: rest =>
      rw [findInAll?, nodesOfAll, List.find?_append, ← find?_eq t, ← findInAll?_eq rest]
      cases t.find? p <;> rfl

end

end

/-! ### Turning back -/

section

variable {stops : List Nat → Bool}

/-- Whether a visitor comes to a place: it turns back at none above. -/
def reached (stops : List Nat → Bool) : List Nat → Bool
  | [] => true
  | number :: place => !stops [] && reached (fun below => stops (number :: below)) place

/-- Where a visitor turns back among siblings, by where it does below the one of a number and among
the others. -/
def joined (number : Nat) (first others : List Nat → Bool) : List Nat → Bool
  | [] => false
  | index :: below => if index = number then first below else others (index :: below)

section

variable {number index : Nat} {first others : List Nat → Bool}

theorem joined_this (below : List Nat) :
    joined number first others (number :: below) = first below := if_pos rfl

theorem joined_other (below : List Nat) (h : number + 1 ≤ index) :
    joined number first others (index :: below) = others (index :: below) := by
  rw [joined, if_neg (by omega)]

theorem reached_joined_this (below : List Nat) :
    reached (joined number first others) (number :: below) = reached first below := by
  have hroot : joined number first others [] = false := rfl
  simp only [reached, joined_this, hroot, Bool.not_false, Bool.true_and]

theorem reached_joined_other (below : List Nat) (hroot : others [] = false)
    (h : number + 1 ≤ index) :
    reached (joined number first others) (index :: below) = reached others (index :: below) := by
  have hjoined : joined number first others [] = false := rfl
  simp only [reached, joined_other _ h, hroot, hjoined]

end

/-- The places among those of a tree to which a visitor comes. -/
def reachedPlaces (stops : List Nat → Bool) (places : List (List Nat × Tree)) :
    List (List Nat × Tree) :=
  places.filter fun place => reached stops place.1

/-- The places of a tree are its root and those of its children. -/
theorem places_eq (t : Tree) : t.places = ([], t) :: placesOfAll 0 (t.children?.getD []) := by
  obtain ⟨kind, children, text, position⟩ := t
  cases children <;> rw [places] <;> rfl

theorem reachedPlaces_eq (stops : List Nat → Bool) (t : Tree) :
    reachedPlaces stops t.places =
      ([], t) :: reachedPlaces stops (placesOfAll 0 (t.children?.getD [])) := by
  rw [places_eq, reachedPlaces, List.filter_cons_of_pos rfl]
  rfl

theorem reachedPlaces_of_stop (h : stops []) (number : Nat) (trees : List Tree) :
    reachedPlaces stops (placesOfAll number trees) = [] := by
  refine List.filter_eq_nil_iff.mpr fun place hplace => ?_
  obtain ⟨index, below, -, hpath⟩ := exists_of_mem_placesOfAll hplace
  rw [hpath, reached, h]
  exact Bool.false_ne_true

end

end Tree

end TemplateScript
