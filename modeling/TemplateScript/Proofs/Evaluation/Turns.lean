import TemplateScript.Proofs.Evaluation.Sites
import TemplateScript.Runner

/-!
# Sites in turn

The sites of a template are evaluated in the order of the document, each in the world that the one
before it leaves, up to the first that fails. The fault of a site is placed at the site, wherever
the fault of its expression came from.

A filling visits the nodes of the document in turn, so its visits are a walk; the evaluations of
sites are the visits of sites in a world that is not cancelled.
-/

namespace TemplateScript

variable {σ : Type}

section

variable (hosts : HostFunctions σ) (nested : Nested σ) (frame : Frame) (augmentation : Value)

/-- Sites are evaluated in turn, each in its world and the next in the world that it leaves, up to
one that fails. -/
inductive Turns : World σ → List (Tree × World σ) → Option (Tree × Fault) → World σ → Prop
  | done {w : World σ} : Turns w [] none w
  | next {t tree : Tree} {source : String} {w w₁ w' : World σ} {rest : List (Tree × World σ)}
      {failure : Option (Tree × Fault)} (hsource : t.spliced? = some source)
      (hvalue : (evalToDocument hosts nested frame (.str source) augmentation).run w =
        (.ok tree, w₁))
      (hrest : Turns w₁ rest failure w') : Turns w ((t, w) :: rest) failure w'
  | failed {t : Tree} {source : String} {w w' : World σ} {fault : Fault}
      (hsource : t.spliced? = some source)
      (hfault : (evalToDocument hosts nested frame (.str source) augmentation).run w =
        (.error fault, w')) :
      Turns w [(t, w)] (some (t, fault)) w'

end

/-- The visits at which a site is evaluated. -/
def evaluations (visits : List (Tree × World σ)) : List (Tree × World σ) :=
  visits.filter fun visit => visit.1.spliced?.isSome && visit.2.cancellation.isNone

/-- How visits end: all of them are made in worlds that are not cancelled and nothing fails, a site
fails, or a node is reached in a cancelled world. -/
inductive VisitsEnd (frame : Frame) :
    List (Tree × World σ) → Option (Tree × Fault) → Except Fault Unit → Prop
  | complete {visits : List (Tree × World σ)} (h : ∀ visit ∈ visits, visit.2.cancellation = none) :
      VisitsEnd frame visits none (.ok ())
  | failed {visits : List (Tree × World σ)} {t : Tree} {fault : Fault}
      (h : ∀ visit ∈ visits, visit.2.cancellation = none) :
      VisitsEnd frame visits (some (t, fault)) (.error (t.blame fault))
  | cancelled {visits : List (Tree × World σ)} {visit : Tree × World σ} {reason : String}
      (hvisit : visit ∈ visits) (hreason : visit.2.cancellation = some reason) :
      VisitsEnd frame visits none
        (.error (.runtime (.cancelled reason) .cancelled frame.source none))

theorem VisitsEnd.cons {frame : Frame} {visit : Tree × World σ} {visits : List (Tree × World σ)}
    {failure : Option (Tree × Fault)} {outcome : Except Fault Unit}
    (hvisit : visit.2.cancellation = none) (h : VisitsEnd frame visits failure outcome) :
    VisitsEnd frame (visit :: visits) failure outcome := by
  cases h with
  | complete hall => exact .complete (List.forall_mem_cons.mpr ⟨hvisit, hall⟩)
  | failed hall => exact .failed (List.forall_mem_cons.mpr ⟨hvisit, hall⟩)
  | cancelled hmem hreason => exact .cancelled (List.mem_cons_of_mem visit hmem) hreason

/-- A walk along nodes among which are the given sites: it evaluates a front of them in turn, and
all of them unless it fails. -/
structure InTurn (hosts : HostFunctions σ) (nested : Nested σ) (frame : Frame)
    (augmentation : Value) (sites : List Tree) (w : World σ) (walk : Tree.Walk Fault (World σ))
    (failure : Option (Tree × Fault)) : Prop where
  turns : Turns hosts nested frame augmentation w (evaluations walk.visits) failure walk.left
  front : (evaluations walk.visits).map Prod.fst <+: sites
  all : walk.outcome = .ok () → (evaluations walk.visits).map Prod.fst = sites
  ends : VisitsEnd frame walk.visits failure walk.outcome

section

variable {hosts : HostFunctions σ} {nested : Nested σ} {frame : Frame} {augmentation : Value}

/-! ### One visit -/

theorem visitor_of_cancelled {t : Tree} {w : World σ} {reason : String}
    (hw : w.cancellation = some reason) :
    visitor hosts nested frame augmentation t w =
      (.error (.runtime (.cancelled reason) .cancelled frame.source none), w) :=
  run_visitNode_of_cancelled hw

section

variable (hosts nested frame augmentation)

/-- A visit of a site evaluates it, and that is all it does. -/
theorem visitor_site {t : Tree} {source : String} {w : World σ}
    (hw : w.cancellation = none) (hsource : t.spliced? = some source) :
    visitor hosts nested frame augmentation t w =
      match (evalToDocument hosts nested frame (.str source) augmentation).run w with
      | (.ok tree, w') => (.ok (.replace (some tree)), w')
      | (.error fault, w') => (.error (t.blame fault), w') := by
  have hescape : ¬(t.kind = some "Escape" ∧ t.render = ['\\', '$']) := by
    intro h
    simp [Tree.spliced?, h.1] at hsource
  rw [visitor, visitNode, Faulting.run_bind_of_ok (Eval.run_checkCancelled_of_none hw), hsource,
    if_neg (by simpa using hescape)]
  simp only [Faulting.run_tryCatch, bind_pure_comp, Faulting.run_map]
  rcases (evalToDocument hosts nested frame (.str source) augmentation).run w with
    ⟨fault | tree, w'⟩ <;> rfl

/-- A visit of any other node leaves the world as it is. -/
theorem visitor_other {t : Tree} {w : World σ} (hw : w.cancellation = none)
    (hspliced : t.spliced? = none) :
    ∃ answer, visitor hosts nested frame augmentation t w = (.ok answer, w) ∧
      answer.descends = t.fillingVisit.descends := by
  by_cases hescape : t.kind = some "Escape" ∧ t.render = ['\\', '$']
  · refine ⟨_, run_visitNode_dollar hw hescape.1 hescape.2, ?_⟩
    rw [Tree.fillingVisit, if_pos (.inl hescape)]
    rfl
  · refine ⟨_, run_visitNode_descend hw hescape hspliced, ?_⟩
    rw [Tree.fillingVisit, if_neg (by simp [hescape, hspliced])]

theorem follows_visitor :
    Tree.Follows (visitor hosts nested frame augmentation) Tree.fillingVisit := by
  intro t w answer w' hvisit
  cases hw : w.cancellation with
  | some reason => cases hvisit.symm.trans (visitor_of_cancelled hw)
  | none =>
      cases hsource : t.spliced? with
      | none =>
          obtain ⟨answer', hrun, hdescends⟩ :=
            visitor_other hosts nested frame augmentation hw hsource
          cases hvisit.symm.trans hrun
          exact hdescends
      | some source =>
          have hrun := hvisit.symm.trans (visitor_site hosts nested frame augmentation hw hsource)
          rcases hvalue : (evalToDocument hosts nested frame (.str source) augmentation).run w with
            ⟨fault | tree, w₁⟩
          · rw [hvalue] at hrun
            cases hrun
          · rw [hvalue] at hrun
            cases hrun
            rw [Tree.fillingVisit, if_pos (.inr (by rw [hsource]; rfl))]
            rfl

end

/-! ### The visits of a walk -/

variable (hosts nested frame augmentation) in
/-- Along a walk the sites are evaluated in turn, and the walk fails as the last of them does or
where it finds the world cancelled. -/
theorem walk_inTurn (nodes : List Tree) (w : World σ) :
    ∃ failure, InTurn hosts nested frame augmentation (nodes.filter fun t => t.spliced?.isSome) w
      (Tree.walk (visitor hosts nested frame augmentation) nodes w) failure := by
  induction nodes generalizing w with
  | nil => exact ⟨none, .done, List.prefix_rfl, fun _ => rfl, .complete fun _ h => nomatch h⟩
  | cons t rest ih =>
      cases hw : w.cancellation with
      | some reason =>
          rw [Tree.walk_cons_of_error (visitor_of_cancelled hw) rest]
          have hnone : evaluations [(t, w)] = [] := by simp [evaluations, hw]
          refine ⟨none, ?_, ?_, (fun h => nomatch h), .cancelled List.mem_cons_self hw⟩
          · rw [hnone]
            exact .done
          · rw [hnone]
            exact List.nil_prefix
      | none =>
          cases hsource : t.spliced? with
          | none =>
              obtain ⟨answer, hrun, -⟩ :=
                visitor_other hosts nested frame augmentation hw hsource
              rw [Tree.walk_cons_of_ok hrun rest, List.filter_cons_of_neg (by simp [hsource])]
              obtain ⟨failure, hturns, hfront, hall, hend⟩ := ih w
              have hskip (visits : List (Tree × World σ)) :
                  evaluations ((t, w) :: visits) = evaluations visits := by
                simp [evaluations, hsource]
              refine ⟨failure, ?_, ?_, ?_, .cons hw hend⟩
              · rwa [hskip]
              · rwa [hskip]
              · rwa [hskip]
          | some source =>
              have hrun := visitor_site hosts nested frame augmentation hw hsource
              have hkeep (visits : List (Tree × World σ)) :
                  evaluations ((t, w) :: visits) = (t, w) :: evaluations visits := by
                simp [evaluations, hsource, hw]
              rw [List.filter_cons_of_pos (by simp [hsource])]
              rcases hvalue :
                (evalToDocument hosts nested frame (.str source) augmentation).run w with
                ⟨fault | tree, w₁⟩
              · rw [hvalue] at hrun
                rw [Tree.walk_cons_of_error hrun rest]
                refine ⟨some (t, fault), ?_, ?_, (fun h => nomatch h), .failed (by simpa using hw)⟩
                · rw [hkeep]
                  exact .failed hsource hvalue
                · rw [hkeep]
                  exact List.prefix_append [t] _
              · rw [hvalue] at hrun
                rw [Tree.walk_cons_of_ok hrun rest]
                obtain ⟨failure, hturns, hfront, hall, hend⟩ := ih w₁
                refine ⟨failure, ?_, ?_, fun h => ?_, .cons hw hend⟩
                · rw [hkeep]
                  exact .next hsource hvalue hturns
                · rw [hkeep]
                  exact List.cons_prefix_cons.mpr ⟨rfl, hfront⟩
                · rw [hkeep]
                  exact congrArg (t :: ·) (hall h)

/-- What is last in turn is among the evaluations, and its fault is that of its text. -/
theorem Turns.last {w w' : World σ} {visits : List (Tree × World σ)} {t : Tree} {fault : Fault}
    (h : Turns hosts nested frame augmentation w visits (some (t, fault)) w') :
    ∃ source w₁, (t, w₁) ∈ visits ∧
      (evalToDocument hosts nested frame (.str source) augmentation).run w₁ =
        (.error fault, w') := by
  generalize hfailure : some (t, fault) = failure at h
  induction h with
  | done => cases hfailure
  | next _ _ _ ih =>
      obtain ⟨source, w₁, hmem, hrun⟩ := ih hfailure
      exact ⟨source, w₁, List.mem_cons_of_mem _ hmem, hrun⟩
  | @failed t source w w' fault hsource hfault =>
      cases hfailure
      exact ⟨source, w, List.mem_cons_self, hfault⟩

theorem VisitsEnd.fails_iff {visits : List (Tree × World σ)} {failure : Option (Tree × Fault)}
    {outcome : Except Fault Unit} (h : VisitsEnd frame visits failure outcome) :
    (∃ fault, outcome = .error fault) ↔
      failure.isSome ∨ ∃ reached ∈ visits, reached.2.cancellation.isSome := by
  cases h with
  | complete hall =>
      constructor
      · intro h
        obtain ⟨fault, hfault⟩ := h
        cases hfault
      · intro h
        rcases h with hsome | ⟨visit, hvisit, hcancelled⟩
        · cases hsome
        · rw [hall visit hvisit] at hcancelled
          cases hcancelled
  | failed _ => exact ⟨fun _ => .inl rfl, fun _ => ⟨_, rfl⟩⟩
  | cancelled hvisit hreason =>
      exact ⟨fun _ => .inr ⟨_, hvisit, by rw [hreason]; rfl⟩, fun _ => ⟨_, rfl⟩⟩

theorem VisitsEnd.eq_of_failure {visits : List (Tree × World σ)} {t : Tree} {fault : Fault}
    {outcome : Except Fault Unit} (h : VisitsEnd frame visits (some (t, fault)) outcome) :
    outcome = .error (t.blame fault) := by
  cases h with
  | failed _ => rfl

end

/-! ### Faults of sites -/

/-- Where a node stands that is rendered behind `before` in a source. -/
def Tree.placeBehind (t : Tree) (before : List Char) : Location :=
  ⟨.behind before, t.kind, some (String.ofList t.render)⟩

theorem Tree.Placed.location? {source before : List Char} {t : Tree} (h : t.Placed source before) :
    t.location? = some (t.placeBehind before) := by
  rw [Tree.location?, h.position]
  rfl

theorem blame_ofEvaluation {t : Tree} {loc : Location} (hloc : t.location? = some loc)
    (expression : String) (cause : Fault) :
    t.blame (.ofEvaluation expression cause) =
      .runtime (.evaluation expression cause) cause.kind (some expression) (some loc) := by
  rw [Tree.blame, hloc]
  rfl

/-- A fault of an expression that has a place is shown behind its line and its column. -/
theorem format_evaluation (expression : String) (cause : Fault) (loc : Location) :
    (Report.ofFault (.runtime (.evaluation expression cause) cause.kind (some expression)
      (some loc))).format =
        s!"Error on line {loc.position.line}, col {loc.position.column}: " ++
          (Fault.ofEvaluation expression cause).message := by
  have hmessage : (RuntimeFault.evaluation expression cause).message =
      "Error evaluating \"" ++ expression ++ "\": " ++ cause.message := rfl
  have hfront : "Error on line ".toList.isPrefixOf
      (RuntimeFault.evaluation expression cause).message.toList = false := by
    rw [hmessage]
    simp [List.isPrefixOf]
  have hne : (RuntimeFault.evaluation expression cause).message ≠ "" := by
    rw [hmessage]
    simp
  simp only [Report.ofFault, Report.format, Option.map_some, formatFailure, if_neg hne, hfront,
    Bool.false_eq_true, if_false]
  have hnumber (n : Nat) : toString (n : Int) = toString n := rfl
  rw [hnumber, hnumber]
  simp only [String.append_assoc]
  rfl

/-! ### Templates -/

section

variable (hosts : HostFunctions σ) (nested : Nested σ) {frame : Frame} (augmentation : Value)
  {globals : Bindings}

/-- The filling of a template in order is a walk along the nodes that it reaches. -/
theorem interpolate_endsAs (hglobals : frame.globals = some globals) (source : String)
    (w : World σ) :
    Tree.EndsAs ((interpolate hosts nested false frame (.str source) augmentation).run w)
      (Tree.walk (visitor hosts nested frame augmentation)
        ((parseDocument source.toList).visited Tree.fillingVisit) w) := by
  have hedited := Tree.edited_endsAs (follows_visitor hosts nested frame augmentation)
    (parseDocument source.toList) w
  rw [interpolate_eq_filled hglobals, Faulting.run_map, filled, Faulting.run_map]
  exact (hedited.map _).map _

theorem interpolate_record (hglobals : frame.globals = some globals) (source : String)
    (w : World σ) :
    (parseDocument source.toList).edit
        (Tree.recording (visitor hosts nested frame augmentation)) ([], w) =
      (((parseDocument source.toList).edit (visitor hosts nested frame augmentation) w).1,
        (Tree.walk (visitor hosts nested frame augmentation)
          ((parseDocument source.toList).visited Tree.fillingVisit) w).visits,
        ((interpolate hosts nested false frame (.str source) augmentation).run w).2) := by
  have hfollows := follows_visitor hosts nested frame augmentation
  have hleft : ((parseDocument source.toList).edit (visitor hosts nested frame augmentation) w).2 =
      ((interpolate hosts nested false frame (.str source) augmentation).run w).2 :=
    (Tree.edited_endsAs hfollows (parseDocument source.toList) w).left.trans
      (interpolate_endsAs hosts nested augmentation hglobals source w).left.symm
  rw [Tree.edit_record hfollows, hleft]

variable {hosts nested augmentation}

/-- The fault of a site is that of its expression, placed where the site stands. -/
theorem Turns.located (hglobals : frame.globals = some globals) {source : List Char}
    {w w' : World σ} {visits : List (Tree × World σ)} {t : Tree} {fault : Fault}
    (h : Turns hosts nested frame augmentation w visits (some (t, fault)) w')
    (hsites : visits.map Prod.fst <+: (parseDocument source).nodes.filter Tree.isSite) :
    ∃ before after expression cause, t.isSite ∧ (parseDocument source).Occurs before t ∧
      source = before ++ t.render ++ after ∧ fault = .ofEvaluation expression cause ∧
      t.blame fault = .runtime (.evaluation expression cause) cause.kind (some expression)
        (some (t.placeBehind before)) := by
  obtain ⟨expression, w₁, hmem, hrun⟩ := h.last
  have hnode : t ∈ (parseDocument source).nodes.filter Tree.isSite :=
    hsites.subset (List.mem_map_of_mem hmem)
  obtain ⟨hmem, hsite⟩ := List.mem_filter.mp hnode
  obtain ⟨before, hoccurs⟩ := Tree.occurs_of_mem_nodes hmem
  obtain ⟨after, hslice⟩ := hoccurs.placed.slice
  rw [run_evalToDocument hglobals] at hrun
  rcases hshown : (displayed hosts nested frame augmentation expression).run w₁ with
    ⟨cause | shown, w₂⟩
  · rw [hshown] at hrun
    cases hrun
    exact ⟨before, after, expression, cause, hsite, hoccurs, hslice, rfl,
      blame_ofEvaluation hoccurs.placed.location? expression cause⟩
  · rw [hshown] at hrun
    cases hrun

end

/-- The sites of a template are evaluated in the order of the document, each once and each in the
world that the one before it leaves, up to the first that fails. The template fails if and only if
a site fails or a node is reached in a cancelled world, and with a site it fails where the site
stands, whatever place the fault of the expression has. -/
theorem interpolate_in_turn (hosts : HostFunctions σ) (nested : Nested σ) (globals : Bindings)
    (shown location : Option String) (augmentation : Value) (source : String) (w : World σ) :
    let frame : Frame := ⟨some globals, shown, location⟩
    let document := parseDocument source.toList
    let visit := visitor hosts nested frame augmentation
    let run := (interpolate hosts nested false frame (.str source) augmentation).run w
    ∃ visits failure,
      document.edit (Tree.recording visit) ([], w) = ((document.edit visit w).1, visits, run.2) ∧
      (evaluations visits).map Prod.fst <+: document.nodes.filter Tree.isSite ∧
      ((∃ text, run.1 = .ok text) →
        (evaluations visits).map Prod.fst = document.nodes.filter Tree.isSite) ∧
      Turns hosts nested frame augmentation w (evaluations visits) failure run.2 ∧
      ((∃ fault, run.1 = .error fault) ↔
        failure.isSome ∨ ∃ reached ∈ visits, reached.2.cancellation.isSome) ∧
      ∀ t fault, failure = some (t, fault) → ∃ before after expression cause,
        t.isSite ∧ document.Occurs before t ∧ source.toList = before ++ t.render ++ after ∧
          fault = .ofEvaluation expression cause ∧
          let place := Position.behind before
          let located : Fault := .runtime (.evaluation expression cause) cause.kind
            (some expression) (some ⟨place, t.kind, some (String.ofList t.render)⟩)
          run.1 = .error located ∧ (Report.ofFault located).format =
            s!"Error on line {place.line}, col {place.column}: " ++ fault.message := by
  intro frame document visit run
  have hglobals : frame.globals = some globals := rfl
  have hends := interpolate_endsAs hosts nested augmentation hglobals source w
  obtain ⟨failure, hturn⟩ := walk_inTurn hosts nested frame augmentation
    (document.visited Tree.fillingVisit) w
  rw [sites_parseDocument] at hturn
  have hrecord := interpolate_record hosts nested augmentation hglobals source w
  refine ⟨_, failure, hrecord, hturn.front, fun hok => hturn.all (hends.ok_iff.mp hok),
    hends.left ▸ hturn.turns, ?_, ?_⟩
  · rw [← hturn.ends.fails_iff]
    exact exists_congr fun fault => hends.error_iff
  · intro t fault hfailure
    rw [hfailure] at hturn
    obtain ⟨before, after, expression, cause, hsite, hoccurs, hslice, hfault, hblame⟩ :=
      hturn.turns.located hglobals hturn.front
    have hfault' : run.1 = .error (t.blame fault) := hends.error_iff.mpr hturn.ends.eq_of_failure
    rw [hblame] at hfault'
    refine ⟨before, after, expression, cause, hsite, hoccurs, hslice, hfault, hfault', ?_⟩
    rw [hfault]
    exact format_evaluation expression cause _

end TemplateScript
