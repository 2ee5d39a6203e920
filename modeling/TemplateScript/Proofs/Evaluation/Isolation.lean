import TemplateScript.Library.Environment
import TemplateScript.Proofs.Evaluation.Construction
import TemplateScript.Proofs.Evaluation.Matching
import TemplateScript.Proofs.Scope

/-!
# Calls of a runner that do not touch each other

A runner is called again and again: for the values of expressions, the texts of templates and
reports. Nothing that was there before a call is changed by it, and each call has the answer that it
has alone in an environment of its own, which is newly built and in which everything has another
number. What a call brings along from the runner's environment stands for its counterpart in the new
one; a call that brings nothing of it along is the same in both.
-/

namespace TemplateScript

namespace Runner

inductive Call where
  | evaluate (source augmentation : Value)
  | interpolate (template augmentation : Value)
  | handle (template augmentation : Value)

inductive Answer where
  | value (result : Except Fault Value)
  | text (result : Except Fault String)
  | report (outcome : Report)

namespace Call

def entities : Call → List Entity
  | .evaluate text augmentation | .interpolate text augmentation | .handle text augmentation =>
    text.entities ++ augmentation.entities

def renumber (f : Nat → Nat) : Call → Call
  | .evaluate source augmentation => .evaluate (source.renumber f) (augmentation.renumber f)
  | .interpolate template augmentation =>
    .interpolate (template.renumber f) (augmentation.renumber f)
  | .handle template augmentation => .handle (template.renumber f) (augmentation.renumber f)

theorem renumber_of_fixed {f : Nat → Nat} {call : Call}
    (h : ∀ x ∈ call.entities, f x.number = x.number) : call.renumber f = call := by
  cases call with
  | evaluate text augmentation | interpolate text augmentation | handle text augmentation =>
      obtain ⟨htext, haugmentation⟩ := List.forall_mem_append.mp h
      rw [renumber, text.renumber_of_fixed htext, augmentation.renumber_of_fixed haugmentation]

end Call

namespace Answer

def entities : Answer → List Entity
  | .value (.ok v) => v.entities
  | .value (.error _) => []
  | .text _ => []
  | .report _ => []

def renumber (f : Nat → Nat) : Answer → Answer
  | .value result => .value (result.map (Value.renumber f))
  | .text result => .text result
  | .report outcome => .report outcome

theorem renumber_of_fixed {f : Nat → Nat} {answer : Answer}
    (h : ∀ x ∈ answer.entities, f x.number = x.number) : answer.renumber f = answer := by
  cases answer with
  | value result =>
      cases result with
      | error fault => rfl
      | ok v => exact congrArg (fun v => value (.ok v)) (v.renumber_of_fixed h)
  | text result => rfl
  | report outcome => rfl

end Answer

variable {σ : Type}

/-- The answer to a call. -/
def answer (runner : Runner) (hosts : HostFunctions σ) : Call → StateM (World σ) Answer
  | .evaluate source augmentation => do
    return .value (← (runner.evaluate hosts source augmentation).run)
  | .interpolate template augmentation => do
    return .text (← (runner.interpolate hosts template augmentation).run)
  | .handle template augmentation => do
    return .report (← runner.handle hosts template augmentation)

/-- The answers to calls, one after the other. -/
def answers (runner : Runner) (hosts : HostFunctions σ) :
    List Call → StateM (World σ) (List Answer)
  | [] => return []
  | call :: rest => do return (← runner.answer hosts call) :: (← runner.answers hosts rest)

/-- No host function is called: where each would leave a mark, no mark is left. Up to the first call
of a host function a run does not depend on what they do. -/
def CallsNoHost (runner : Runner) (calls : List Call) (w : World σ) : Prop :=
  ((runner.answers marking calls).run w.unmarked).2.host = false

end Runner

/-! ### Calls and their counterparts -/

def Holding.answer : Holding Runner.Answer where
  renumber := Runner.Answer.renumber
  Within known answer := ∀ x ∈ answer.entities, known x
  within_all _ _ _ := trivial

def Holding.answers : Holding (List Runner.Answer) where
  renumber f := List.map (Runner.Answer.renumber f)
  Within known answers := ∀ answer ∈ answers, ∀ x ∈ answer.entities, known x
  within_all _ _ _ _ _ := trivial

namespace Correspondence

variable {σ τ : Type} {c : Correspondence σ τ} {runner : Runner}

theorem rel_answer (hrunner : runner.Within c.known) {call : Runner.Call}
    (hcall : ∀ x ∈ call.entities, c.known x) :
    c.rel Holding.answer (runner.answer c.hosts call)
      ((runner.renumber c.number).answer c.hosts' (call.renumber c.number)) := by
  cases call with
  | evaluate source augmentation =>
      have haugmentation := (List.forall_mem_append.mp hcall).2
      refine c.rel_bind (related_evaluate hrunner source haugmentation) fun result hresult => ?_
      refine c.rel_pure (H := Holding.answer) (a := .value result) ?_
      cases result with
      | error fault => exact List.forall_mem_nil _
      | ok v => exact hresult v rfl
  | interpolate template augmentation =>
      have haugmentation := (List.forall_mem_append.mp hcall).2
      refine c.rel_bind (rel_nothing (related_runner hrunner template haugmentation))
        fun result _ => ?_
      exact c.rel_pure (H := Holding.answer) (a := .text result) (List.forall_mem_nil _)
  | handle template augmentation =>
      have haugmentation := (List.forall_mem_append.mp hcall).2
      refine c.rel_bind (rel_handle hrunner template haugmentation) fun report _ => ?_
      exact c.rel_pure (H := Holding.answer) (a := .report report) (List.forall_mem_nil _)

theorem rel_answers (hrunner : runner.Within c.known) (calls : List Runner.Call)
    (hcalls : ∀ call ∈ calls, ∀ x ∈ call.entities, c.known x) :
    c.rel Holding.answers (runner.answers c.hosts calls)
      ((runner.renumber c.number).answers c.hosts'
        (calls.map (Runner.Call.renumber c.number))) := by
  induction calls with
  | nil => exact c.rel_pure (H := Holding.answers) (a := []) (List.forall_mem_nil _)
  | cons call rest ih =>
      obtain ⟨hcall, hrest⟩ := List.forall_mem_cons.mp hcalls
      refine c.rel_bind (rel_answer hrunner hcall) fun answer hanswer => ?_
      refine c.rel_bind (ih hrest) fun answers hanswers => ?_
      exact c.rel_pure (H := Holding.answers) (a := answer :: answers)
        (List.forall_mem_cons.mpr ⟨hanswer, hanswers⟩)

end Correspondence

/-! ### Numbers in a new environment -/

/-- The number in a new environment, which takes the next numbers: those of the old environment
become its numbers, and what is made from there on is numbered behind it. -/
def freshNumber (home next id : Nat) : Nat :=
  if home ≤ id ∧ id < home + Library.tableCount then next + (id - home)
  else if next ≤ id then id + Library.tableCount
  else id

theorem freshNumber_injective {home next : Nat} (h : home + Library.tableCount ≤ next) :
    (freshNumber home next).Injective := by
  intro a b hab
  have htables : Library.tableCount = 4 := rfl
  simp only [freshNumber, htables] at hab h
  split_ifs at hab <;> omega

/-- The numbers in a new environment, with everything from the next number on made in a run. -/
def Renumbering.fresh (home next : Nat) (h : home + Library.tableCount ≤ next) : Renumbering where
  number := freshNumber home next
  injective := freshNumber_injective h
  start := next
  offset := Library.tableCount
  number_of_le {id} hid := by
    rw [freshNumber, if_neg (by omega), if_pos hid]

/-- The same numbers again. -/
def Renumbering.same (start : Nat) : Renumbering where
  number := id
  injective := Function.injective_id
  start := start
  offset := 0
  number_of_le _ := rfl

theorem Library.renumber_entries (f : Nat → Nat) (library : Library) (home : Nat) :
    Bindings.renumber f (library.entries home) = library.entries (f home) := by
  rw [Bindings.renumber, Library.entries, List.map_map]
  rfl

theorem Library.renumber_contents (f : Nat → Nat) (library : Library) (home : Nat) :
    Bindings.renumber f (library.entries home ++ library.constants) =
      library.entries (f home) ++ library.constants := by
  have hconstants : Bindings.renumber f library.constants = library.constants := by
    cases library <;> rfl
  rw [← library.renumber_entries f, Bindings.renumber, List.map_append]
  exact congrArg (Bindings.renumber f (library.entries home) ++ ·) hconstants

theorem Library.renumber_asTable (f : Nat → Nat) (library : Library) (home id : Nat) :
    (library.asTable home id).renumber f = library.asTable (f home) (f id) := by
  rw [asTable, asTable, ← library.renumber_contents f, Value.renumber, renumberEntries_eq_map,
    Slots.renumber, List.map_map, Bindings.renumber, List.map_map]
  rfl

/-- The standard environment under other numbers is another one. -/
theorem renumber_standardEnvironment {f : Nat → Nat} {home next : Nat}
    (h : ∀ i < Library.tableCount, f (home + i) = next + i) :
    Bindings.renumber f (standardEnvironment home) = standardEnvironment next := by
  have hhome : f home = next := h 0 (by decide)
  have hmath : f (home + 1) = next + 1 := h 1 (by decide)
  have htable : f (home + 2) = next + 2 := h 2 (by decide)
  have hsplice : f (home + 3) = next + 3 := h 3 (by decide)
  rw [standardEnvironment, Bindings.renumber, List.map_append, ← Bindings.renumber,
    Library.renumber_entries, hhome, standardEnvironment]
  simp only [List.map_cons, List.map_nil, Prod.map, id_eq, Library.renumber_asTable, hhome, hmath,
    htable, hsplice]

/-! ### Runs and the same calls alone -/

/-- What an environment holds. -/
def Bindings.entities (bindings : Bindings) : List Entity :=
  bindings.flatMap fun binding => binding.2.entities

/-- Neither of the environment of number `home` nor made from the next number on. -/
def Entity.Foreign (home next : Nat) (x : Entity) : Prop :=
  x.number < next ∧ ¬(home ≤ x.number ∧ x.number < home + Library.tableCount)

theorem Entity.Foreign.freshNumber_eq {home next : Nat} {x : Entity} (h : x.Foreign home next) :
    freshNumber home next x.number = x.number := by
  rw [freshNumber, if_neg h.2, if_neg (Nat.not_le.mpr h.1)]

theorem Bindings.renumber_id (bindings : Bindings) : bindings.renumber id = bindings := by
  have hvalue (v : Value) : v.renumber id = v := v.renumber_of_fixed fun _ _ => rfl
  induction bindings with
  | nil => rfl
  | cons binding rest ih =>
      change (binding.1, binding.2.renumber id) :: Bindings.renumber id rest = binding :: rest
      rw [hvalue, ih]

/-- A run without marks under the same numbers is the run. -/
theorem Matches.run_unmarked {α : Type} {H : Holding α} {x : StateM (World Bool) α}
    {y : StateM (World σ) α} {w : World σ} (h : Matches (.same w.nextTable) H x y)
    (hid : ∀ a, H.renumber id a = a) (hquiet : (x w.unmarked).2.host = false) :
    x w.unmarked = ((y w).1, (y w).2.unmarked) ∧ w.Alike (y w).2 := by
  have hw : w.unmarked.Parallel (.same w.nextTable) w := ⟨rfl, rfl, Nat.le_refl _⟩
  have hresult : (y w).1 = (x w.unmarked).1 := (h.result hw hquiet).trans (hid _)
  have hafter := h.parallel hw hquiet
  have hworld : (y w).2.unmarked = (x w.unmarked).2 := by
    change World.mk (y w).2.cancellation (y w).2.nextTable false = _
    rw [hafter.cancellation, hafter.nextTable, ← hquiet]
    rfl
  exact ⟨Prod.ext hresult.symm hworld.symm, h.alike hw hquiet⟩

namespace Runner

/-- The same runner in a new environment. -/
def renewed (runner : Runner) (home : Nat) : Runner :=
  { runner with globals := some (standardEnvironment home) }

/-- The answer that a call has alone in a new environment, which takes the next numbers. -/
def answerAlone (runner : Runner) (hosts : HostFunctions σ) (w : World σ) (call : Call) : Answer :=
  ((runner.renewed w.nextTable).answer hosts call
    { w with nextTable := w.nextTable + Library.tableCount }).1

/-- An answer in the environment of number `home` that does not depend on what was done there
before. -/
structure Isolated (runner : Runner) (hosts : HostFunctions σ) (home : Nat) (w : World σ)
    (call : Call) (answer : Answer) : Prop where
  /-- Alone, the counterpart of the call has the counterpart of the answer. -/
  alone : runner.answerAlone hosts w (call.renumber (freshNumber home w.nextTable)) =
    answer.renumber (freshNumber home w.nextTable)
  /-- A call that brings nothing of the environment along is its own counterpart. -/
  alone_of_foreign : (∀ x ∈ call.entities, x.Foreign home w.nextTable) →
    runner.answerAlone hosts w call = answer.renumber (freshNumber home w.nextTable)
  /-- So is an answer without things of the environment and new tables. -/
  renumber_of_foreign : (∀ x ∈ answer.entities, x.Foreign home w.nextTable) →
    answer.renumber (freshNumber home w.nextTable) = answer
  /-- What was there before the call is in the answer as it was. -/
  entities : ∀ x ∈ answer.entities, knownFrom w.nextTable
    (fun x => x ∈ call.entities ∨ x ∈ (standardEnvironment home).entities) x

variable {runner : Runner} {hosts : HostFunctions σ} {home : Nat} {call : Call} {calls : List Call}
  {w : World σ}

theorem renumber_id (runner : Runner) : runner.renumber id = runner := by
  obtain ⟨globals, location, concurrent⟩ := runner
  cases globals with
  | none => rfl
  | some globals =>
      exact congrArg (fun bindings => Runner.mk (some bindings) location concurrent)
        globals.renumber_id

theorem renumber_freshNumber (hglobals : runner.globals = some (standardEnvironment home))
    (next : Nat) : runner.renumber (freshNumber home next) = runner.renewed next := by
  have hfresh (i : Nat) (hi : i < Library.tableCount) :
      freshNumber home next (home + i) = next + i := by
    rw [freshNumber, if_pos ⟨Nat.le_add_right _ _, Nat.add_lt_add_left hi home⟩,
      Nat.add_sub_cancel_left]
  rw [renumber, renewed, hglobals, Option.map_some, renumber_standardEnvironment hfresh]

theorem within_all (runner : Runner) : runner.Within fun _ => True :=
  fun _ _ _ _ _ _ => trivial

theorem matches_answer (r : Renumbering) (hosts : HostFunctions σ) (runner : Runner)
    (call : Call) :
    Matches r Holding.answer (runner.answer marking call)
      ((runner.renumber r.number).answer hosts (call.renumber r.number)) :=
  (Correspondence.matching r hosts).rel_answer runner.within_all fun _ _ => trivial

/-- A call without marks answers as every other does, and leaves the host alone. -/
theorem answer_unmarked (hosts : HostFunctions σ)
    (hquiet : (runner.answer marking call w.unmarked).2.host = false) :
    runner.answer marking call w.unmarked =
        ((runner.answer hosts call w).1, (runner.answer hosts call w).2.unmarked) ∧
      w.Alike (runner.answer hosts call w).2 := by
  have hmatches := matches_answer (.same w.nextTable) hosts runner call
  have hcall : call.renumber id = call := Call.renumber_of_fixed fun _ _ => rfl
  change Matches _ _ _ ((runner.renumber id).answer hosts (call.renumber id)) at hmatches
  rw [runner.renumber_id, hcall] at hmatches
  exact hmatches.run_unmarked (fun answer => Answer.renumber_of_fixed fun _ _ => rfl) hquiet

theorem contains_answer (hglobals : runner.globals = some (standardEnvironment home))
    (start : Nat) (call : Call) :
    Contains start
      (knownFrom start fun x => x ∈ call.entities ∨ x ∈ (standardEnvironment home).entities)
      Holding.answer (runner.answer marking call) := by
  refine (Correspondence.containing start _).rel_answer ?_ fun x hx => .inl (.inl hx)
  intro globals hmem binding hbinding x hx
  rw [hglobals] at hmem
  cases hmem
  exact .inl (.inr (List.mem_flatMap.mpr ⟨binding, hbinding, hx⟩))

/-- One call. -/
theorem isolated_answer (hosts : HostFunctions σ)
    (hglobals : runner.globals = some (standardEnvironment home))
    (hhome : home + Library.tableCount ≤ w.nextTable)
    (hquiet : (runner.answer marking call w.unmarked).2.host = false) :
    runner.Isolated hosts home w call (runner.answer hosts call w).1 ∧
      w.nextTable ≤ (runner.answer hosts call w).2.nextTable := by
  obtain ⟨hrun, -⟩ := answer_unmarked hosts hquiet
  have halone : runner.answerAlone hosts w (call.renumber (freshNumber home w.nextTable)) =
      (runner.answer hosts call w).1.renumber (freshNumber home w.nextTable) := by
    have hmatches := matches_answer (.fresh home w.nextTable hhome) hosts runner call
    have hparallel : w.unmarked.Parallel (.fresh home w.nextTable hhome)
        { w with nextTable := w.nextTable + Library.tableCount } :=
      ⟨rfl, rfl, Nat.le_refl _⟩
    have hresult := hmatches.result hparallel hquiet
    rw [hrun] at hresult
    change ((runner.renumber (freshNumber home w.nextTable)).answer _ _ _).1 = _ at hresult
    rwa [renumber_freshNumber hglobals] at hresult
  obtain ⟨hle, hwithin⟩ := contains_answer hglobals w.nextTable call w.unmarked (Nat.le_refl _)
  rw [hrun] at hle hwithin
  refine ⟨⟨halone, fun hforeign => ?_, fun hforeign => ?_, hwithin⟩, hle⟩
  · rwa [Call.renumber_of_fixed fun x hx => (hforeign x hx).freshNumber_eq] at halone
  · exact Answer.renumber_of_fixed fun x hx => (hforeign x hx).freshNumber_eq

/-- Marks stay from call to call. -/
theorem unmarked_of_answers (calls : List Call) {w : World Bool}
    (h : (runner.answers marking calls w).2.host = false) : w.host = false :=
  ((Correspondence.matching (.same 0) marking).rel_answers runner.within_all calls
    fun _ _ _ _ => trivial).unmarked w h

/-- Calls one after the other: each is isolated at the place at which it is made. -/
theorem isolated_answers (hosts : HostFunctions σ)
    (hglobals : runner.globals = some (standardEnvironment home))
    (hhome : home + Library.tableCount ≤ w.nextTable) (hquiet : runner.CallsNoHost calls w) :
    w.Alike (runner.answers hosts calls w).2 ∧
      w.nextTable ≤ (runner.answers hosts calls w).2.nextTable ∧
      List.Forall₂ (fun call answer => ∃ next, w.nextTable ≤ next ∧
          next ≤ (runner.answers hosts calls w).2.nextTable ∧
          runner.Isolated hosts home { w with nextTable := next } call answer)
        calls (runner.answers hosts calls w).1 := by
  induction calls generalizing w with
  | nil => exact ⟨.refl _, Nat.le_refl _, .nil⟩
  | cons call rest ih =>
      have hfirst : (runner.answer marking call w.unmarked).2.host = false :=
        unmarked_of_answers rest hquiet
      obtain ⟨hrun, halike⟩ := answer_unmarked hosts hfirst
      obtain ⟨hisolated, hle⟩ := isolated_answer hosts hglobals hhome hfirst
      have hrest : runner.CallsNoHost rest (runner.answer hosts call w).2 := by
        change (runner.answers marking rest (runner.answer marking call w.unmarked).2).2.host =
          false at hquiet
        rwa [hrun] at hquiet
      obtain ⟨hafter, hlater, hanswers⟩ := ih (Nat.le_trans hhome hle) hrest
      refine ⟨halike.trans hafter, Nat.le_trans hle hlater,
        .cons ⟨w.nextTable, Nat.le_refl _, Nat.le_trans hle hlater, hisolated⟩ ?_⟩
      -- the worlds of the other calls differ from the first one in their next number only
      refine hanswers.imp fun call answer ⟨next, hnext, hlast, h⟩ =>
        ⟨next, Nat.le_trans hle hnext, hlast, ?_⟩
      rwa [halike.cancellation, halike.host] at h

/-- Calls that call library functions only leave everything as it was: the host, the cancellation,
and the tables and functions that they meet. Each call answers as its counterpart does alone in a
new environment. An evaluation adds one scope behind the others, in which names are looked up as in
its bindings and then in the environment; and the tables that it fills are new. -/
theorem calls_isolated (hosts : HostFunctions σ)
    (hglobals : runner.globals = some (standardEnvironment home))
    (hhome : home + Library.tableCount ≤ w.nextTable) (hquiet : runner.CallsNoHost calls w) :
    w.Alike (runner.answers hosts calls w).2 ∧
    List.Forall₂ (fun call answer => ∃ next, w.nextTable ≤ next ∧
        next ≤ (runner.answers hosts calls w).2.nextTable ∧
        runner.Isolated hosts home { w with nextTable := next } call answer)
      calls (runner.answers hosts calls w).1 ∧
    (∀ (source : Option String) (augmentation : Value) (bindings : Bindings) (scopes : Scopes)
      (outer : Nat), createScope (runner.frame source) augmentation = .ok bindings →
      scopes.all[outer]? = some ⟨none, standardEnvironment home⟩ →
      (scopes.openScope outer augmentation).all = scopes.all ++ [⟨some outer, bindings⟩] ∧
      ∀ name, (scopes.openScope outer augmentation).get? scopes.all.length name =
        ScopeChain.get? [bindings, standardEnvironment home] name) ∧
    ∀ (nested : Nested σ) (frame : Frame) (scope : ScopeChain) (id : Nat)
      (fields : List (Option Expr × Expr)) (tables : Workspace) (before : World σ),
      let (outcome, after) := (evalFields hosts nested frame scope fields [] 1).run before
      ∃ slots, (InPlace.fillTable hosts nested frame scope id fields 1).run
            (tables.setSlots id [], before) =
          (outcome.map fun _ => (), tables.setSlots id slots, after) ∧
        (∀ filled, outcome = .ok filled → slots = filled) ∧
        ∀ other, other ≠ id →
          (tables.setSlots id slots).tables.lookup other = tables.tables.lookup other := by
  obtain ⟨halike, -, hanswers⟩ := isolated_answers hosts hglobals hhome hquiet
  refine ⟨halike, hanswers, fun source augmentation bindings scopes outer hcreated houter => ?_,
    fun nested frame scope id fields tables before =>
      InPlace.run_fillTable hosts nested frame scope id fields tables before⟩
  have hopened : (scopes.openScope outer augmentation).all =
      scopes.all ++ [⟨some outer, bindings⟩] :=
    Scopes.openScope_all hcreated outer
  exact ⟨hopened, Scopes.get?_of_last houter hopened⟩

/-- A value, a fault and a text, each as it is alone. -/
theorem calls_isolated_session :
    let runner : Runner := ⟨some (standardEnvironment 0), none, false⟩
    let calls : List Call := [.evaluate (.str "{math.floor(2.5)}") .nil,
      .evaluate (.str "nope()") .nil,
      .interpolate (.str "${n .. tostring(n)}") (.dict [(.str "n", .str "a")])]
    let w : World Bool := ⟨none, 4, false⟩
    runner.CallsNoHost calls w ∧ w.Alike (runner.answers marking calls w).2 ∧
      List.Forall₂ (fun call answer => ∃ next, 4 ≤ next ∧
          runner.Isolated marking 0 ⟨none, next, false⟩ call answer)
        calls (runner.answers marking calls w).1 := by
  intro runner calls w
  have hquiet : runner.CallsNoHost calls w := by
    unfold CallsNoHost
    decide +kernel
  have hglobals : runner.globals = some (standardEnvironment 0) := rfl
  have hhome : 0 + Library.tableCount ≤ w.nextTable := Nat.le_refl 4
  obtain ⟨halike, hanswers, -⟩ := calls_isolated marking hglobals hhome hquiet
  exact ⟨hquiet, halike, hanswers.imp fun _ _ ⟨next, hnext, _, h⟩ => ⟨next, hnext, h⟩⟩

/-- A call itself may have another answer alone: the function that an earlier call gave is one of
the environment, and none of a new one. On a runner `f == tostring` is true for the function that
its evaluation of `tostring` gave, and in a new environment it is false. -/
theorem calls_tell_environments :
    let runner : Runner := ⟨some (standardEnvironment 0), none, false⟩
    let own : Value := .function (.member (.plain .tostring) 0)
    let compared : Call := .evaluate (.str "f == tostring") (.dict [(.str "f", own)])
    let calls : List Call := [.evaluate (.str "tostring") .nil, compared]
    let w : World Bool := ⟨none, 4, false⟩
    let gives (answer : Answer) (v : Value) : Bool := match answer with
      | .value (.ok found) => found.scriptEq v
      | _ => false
    runner.CallsNoHost calls w ∧
      (runner.answers marking calls w).2.nextTable = 4 ∧
      (∃ first second, (runner.answers marking calls w).1 = [first, second] ∧
        gives first own ∧ gives second (.bool true)) ∧
      gives (runner.answerAlone marking { w with nextTable := 4 } compared) (.bool false) := by
  intro runner own compared calls w gives
  have hquiet : runner.CallsNoHost calls w := by
    unfold CallsNoHost
    decide +kernel
  exact ⟨hquiet, by decide +kernel, ⟨_, _, rfl, by decide +kernel, by decide +kernel⟩,
    by decide +kernel⟩

end Runner

end TemplateScript
