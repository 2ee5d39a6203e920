import TemplateScript.Proofs.Evaluation.Accounts

/-!
# Cancelled evaluations

A cancelled evaluation ends at the next node that it comes to, of an expression or of a document, at
whatever depth, and the runner reports the cancellation. The trace of a run tells what comes after
what, and since it accounts for the run, an entry in a cancelled world is the last event in it.
-/

namespace TemplateScript

variable {σ : Type} {hosts : HostFunctions σ}

/-- Nothing takes a cancellation back. -/
def KeepsCancellation (hosts : HostFunctions σ) : Prop :=
  ∀ key args (w : World σ), w.cancellation.isSome →
    ((hosts key args).run w).2.cancellation.isSome

theorem Event.after_of_isEntry {event : Event σ} (hentry : event.isEntry) :
    event.after hosts = event.before := by
  cases event with
  | call => cases hentry
  | _ => rfl

namespace Chronicle

variable {w w' : World σ} {event : Event σ} {front events rest : List (Event σ)}
  {failure : Option Fault}

/-- An entry in a cancelled world is the end. -/
theorem refuses (h : Chronicle hosts w (front ++ event :: rest) failure w')
    (hentry : event.isEntry) (hcancelled : event.before.cancellation.isSome) :
    rest = [] ∧ ∃ fault, failure = some fault ∧ fault.kind = .cancelled := by
  induction front generalizing w with
  | nil =>
      cases h with
      | refused _ _ _ hkind _ => exact ⟨rfl, _, rfl, hkind⟩
      | entered _ _ hopen _ =>
          rw [hopen] at hcancelled
          cases hcancelled
      | called _ _ => cases hentry
  | cons first front ih =>
      rw [List.cons_append] at h
      generalize hevents : front ++ event :: rest = others at h
      cases h with
      | refused => simp at hevents
      | entered _ _ _ hrest => exact ih (hevents ▸ hrest)
      | called _ hrest => exact ih (hevents ▸ hrest)

/-- What is behind an event goes on in the world that it leaves. -/
theorem behind (h : Chronicle hosts w (front ++ event :: rest) failure w') :
    ∃ failure, Chronicle hosts (event.after hosts) rest failure w' := by
  induction front generalizing w with
  | nil =>
      cases h with
      | refused hentry _ _ _ hafter =>
          exact ⟨failure, .done (Event.after_of_isEntry hentry ▸ hafter)⟩
      | entered hentry _ _ hrest => exact ⟨failure, Event.after_of_isEntry hentry ▸ hrest⟩
      | called _ hrest => exact ⟨failure, hrest⟩
  | cons first front ih =>
      rw [List.cons_append] at h
      generalize hevents : front ++ event :: rest = others at h
      cases h with
      | refused => simp at hevents
      | entered _ _ _ hrest => exact ih (hevents ▸ hrest)
      | called _ hrest => exact ih (hevents ▸ hrest)

theorem stays_cancelled (hkeeps : KeepsCancellation hosts)
    (h : Chronicle hosts w events failure w') (hw : w.cancellation.isSome) :
    ∀ event ∈ events, event.before.cancellation.isSome := by
  induction h with
  | done _ => exact fun _ h => nomatch h
  | refused _ hbefore hcancelled _ _ => simpa using hcancelled
  | entered _ hbefore hopen _ _ =>
      rw [← hbefore.cancellation, hopen] at hw
      cases hw
  | @called w w₁ _ key args _ _ hbefore _ ih =>
      have hw₁ : w₁.cancellation.isSome := by rwa [hbefore.cancellation]
      exact List.forall_mem_cons.mpr ⟨hw₁, ih (hkeeps key args w₁ hw₁)⟩

end Chronicle

/-! ### Cancelled beforehand -/

theorem Tree.edit_of_error {ε σ : Type} {visit : Tree → StateM σ (Except ε Visit)} {t : Tree}
    {s s' : σ} {fault : ε} (h : visit t s = (.error fault, s')) :
    t.edit visit s = (.failed fault t, s') := by
  obtain ⟨kind, children, text, position⟩ := t
  rw [edit_eq_editNode, editNode.eq_def]
  simp only [bind, StateT.bind, h]
  rfl

section

variable {nested : Nested σ} {traces : NestedTraces σ} {frame : Frame} {augmentation : Value}
  {globals : Bindings} {w : World σ} {reason : String}

theorem fillTrace_of_cancelled (hw : w.cancellation = some reason) (tree : Tree) :
    fillTrace hosts nested traces frame augmentation tree w = [.node tree w] := by
  have hrecord : Tree.recording (visitor hosts nested frame augmentation) tree ([], w) =
      (.error (.runtime (.cancelled reason) .cancelled frame.source none), ([(tree, w)], w)) := by
    rw [Tree.recording, visitor_of_cancelled hw]
    rfl
  rw [fillTrace, Tree.edit_of_error hrecord, List.flatMap_singleton]
  exact Trace.entering_of_cancelled hw

theorem interpolateTrace_of_cancelled (hglobals : frame.globals = some globals)
    (hw : w.cancellation = some reason) (template : String) :
    interpolateTrace hosts nested traces frame (.str template) augmentation w =
      [.node (parseDocument template.toList) w] := by
  have hpresent : (discard (Eval.globals frame) : Eval σ Unit).run w = (.ok (), w) := by
    rw [Eval.globals, hglobals]
    rfl
  rw [interpolateTrace, Trace.andThen_silent hpresent]
  exact fillTrace_of_cancelled hw (parseDocument template.toList)

theorem interpolate_of_cancelled_world (hglobals : frame.globals = some globals)
    (hw : w.cancellation = some reason) (template : String) :
    (interpolate hosts nested false frame (.str template) augmentation).run w =
      (.error (.runtime (.cancelled reason) .cancelled frame.source none), w) := by
  rw [interpolate_eq_filled hglobals, Faulting.run_map, run_filled_of_cancelled hw]
  rfl

end

theorem ofReason_eq (given : Option String) :
    Cancellation.ofReason given = some ((given.filter (· ≠ "")).getD "evaluation cancelled") := by
  cases given with
  | none => rfl
  | some reason =>
      by_cases hempty : reason = ""
      · rw [hempty]
        rfl
      · simp [Cancellation.ofReason, Option.filter, hempty]

/-! ### Reports -/

theorem ofFault_of_cancelled {fault : Fault} (h : fault.kind = .cancelled) :
    ∃ message place, Report.ofFault fault = .failure message place true := by
  cases fault with
  | runtime why kind expression place =>
      obtain rfl : kind = .cancelled := h
      exact ⟨why.message, place, rfl⟩
  | _ => cases h

theorem handle_of_faultOf {runner : Runner} {template augmentation : Value} {w : World σ}
    {fault : Fault}
    (h : faultOf ((runner.interpolate hosts template augmentation).run w).1 = some fault) :
    ((runner.handle hosts template augmentation).run w).1 = .ofFault fault := by
  rw [run_handle]
  rcases hrun : (runner.interpolate hosts template augmentation).run w with ⟨cause | text, w'⟩
  · rw [hrun] at h
    cases h
    rfl
  · rw [hrun] at h
    cases h

theorem handle_left (runner : Runner) (template augmentation : Value) (w : World σ) :
    ((runner.handle hosts template augmentation).run w).2 =
      ((runner.interpolate hosts template augmentation).run w).2 := by
  rw [run_handle]
  rcases (runner.interpolate hosts template augmentation).run w with ⟨cause | text, w'⟩ <;> rfl

theorem handle_of_cancelled {runner : Runner} {globals : Bindings}
    (hglobals : runner.globals = some globals) (hsequential : runner.concurrent = false)
    {w : World σ} {reason : String} (hw : w.cancellation = some reason) (template : String)
    (augmentation : Value) :
    (runner.handle hosts (.str template) augmentation).run w = (.failure reason none true, w) := by
  have hrun : (runner.interpolate hosts (.str template) augmentation).run w =
      (.error (.runtime (.cancelled reason) .cancelled none none), w) := by
    rw [Runner.interpolate, hsequential]
    exact interpolate_of_cancelled_world hglobals hw template
  rw [run_handle, hrun]
  rfl

/-- Once an evaluation is cancelled, it goes into no expression and no node of a document: the next
one that it comes to, at whatever depth, raises the cancellation, nothing happens after it, and the
runner reports the cancellation. A template that is cancelled beforehand calls nothing. -/
theorem handle_cancelled (hkeeps : KeepsCancellation hosts) (globals : Bindings)
    (location : Option String) (template : String) (augmentation : Value) (w : World σ) :
    let runner : Runner := ⟨some globals, location, false⟩
    let events := runner.trace hosts (.str template) augmentation w
    let run := (runner.handle hosts (.str template) augmentation).run w
    (∃ failure, Chronicle hosts w events failure run.2) ∧
    (∀ front entry rest, events = front ++ entry :: rest → entry.isEntry →
      entry.before.cancellation.isSome →
        rest = [] ∧ ∃ message place, run.1 = .failure message place true) ∧
    (∀ front event rest, events = front ++ event :: rest →
      (event.after hosts).cancellation.isSome → ∀ entry ∈ rest, entry.isEntry →
        entry.before.cancellation.isSome ∧ (∃ middle, rest = middle ++ [entry]) ∧
          ∃ message place, run.1 = .failure message place true) ∧
    (∀ nested frame scope e (w : World σ) reason, w.cancellation = some reason →
      (evalExpr hosts nested frame scope e).run w =
        (.error (.runtime (.cancelled reason) .cancelled frame.source none), w)) ∧
    (∀ nested frame augmentation t (w : World σ) reason, w.cancellation = some reason →
      visitor hosts nested frame augmentation t w =
        (.error (.runtime (.cancelled reason) .cancelled frame.source none), w)) ∧
    ∀ given, w.cancellation = Cancellation.ofReason given →
      run = (.failure ((given.filter (· ≠ "")).getD "evaluation cancelled") none true, w) ∧
        events = [.node (parseDocument template.toList) w] := by
  intro runner events run
  have haccount : Chronicle hosts w events
      (faultOf ((runner.interpolate hosts (.str template) augmentation).run w).1) run.2 :=
    (handle_left runner (.str template) augmentation w).symm ▸
      accountsFor_runner hosts rfl (.str template) augmentation w
  have hlast (front entry rest) (hevents : events = front ++ entry :: rest)
      (hentry : entry.isEntry) (hcancelled : entry.before.cancellation.isSome) :
      rest = [] ∧ ∃ message place, run.1 = .failure message place true := by
    obtain ⟨hrest, fault, hfault, hkind⟩ :=
      (hevents ▸ haccount).refuses hentry hcancelled
    obtain ⟨message, place, hreport⟩ := ofFault_of_cancelled hkind
    exact ⟨hrest, message, place, (handle_of_faultOf hfault).trans hreport⟩
  refine ⟨⟨_, haccount⟩, hlast, ?_, ?_, ?_, ?_⟩
  · intro front event rest hevents hcancelled entry hmem hentry
    obtain ⟨failure, hbehind⟩ := (hevents ▸ haccount).behind
    have hbefore := hbehind.stays_cancelled hkeeps hcancelled entry hmem
    obtain ⟨middle, others, hrest⟩ := List.append_of_mem hmem
    obtain ⟨hnil, hreport⟩ := hlast (front ++ event :: middle) entry others
      (by rw [hevents, hrest, List.append_assoc, List.cons_append]) hentry hbefore
    exact ⟨hbefore, ⟨middle, by rw [hrest, hnil]⟩, hreport⟩
  · intro nested frame scope e w reason hw
    cases e <;> rw [evalExpr, Faulting.run_bind_of_error (Eval.run_checkCancelled_of_some hw)]
  · intro nested frame augmentation t w reason hw
    exact visitor_of_cancelled hw
  · intro given hgiven
    rw [ofReason_eq] at hgiven
    exact ⟨handle_of_cancelled rfl rfl hgiven template augmentation,
      interpolateTrace_of_cancelled rfl hgiven template⟩

/-- Host functions that cancel what calls them. -/
def closing : HostFunctions Unit := fun _ _ => do
  modify fun world => { world with cancellation := some "closed" }
  return .nil

/-- Of a directive that cancels and the text behind it, the text is not visited any more. -/
theorem handle_cancelled_within :
    let globals : Bindings := [("stop", .function (.host "stop" "stop"))]
    let w : World Unit := ⟨none, 4, ()⟩
    KeepsCancellation closing ∧ ∃ message place,
      ((Runner.handle ⟨some globals, none, false⟩ closing (.str "$\x7bstop()\x7d.") .nil).run w).1 =
        .failure message place true := by
  intro globals w
  have hkeeps : KeepsCancellation closing := fun key args w _ => rfl
  have hall := handle_cancelled hkeeps globals none "$\x7bstop()\x7d." .nil w
  have hlast : ((Runner.trace ⟨some [("stop", .function (.host "stop" "stop"))], none, false⟩
      closing (.str "$\x7bstop()\x7d.") .nil ⟨none, 4, ()⟩).drop 5).map
        (fun event => event.isEntry && event.before.cancellation.isSome) = [true] := by
    decide +kernel
  obtain ⟨entry, hdrop, hentry⟩ := List.map_eq_singleton_iff.mp hlast
  obtain ⟨hisEntry, hcancelled⟩ := Bool.and_eq_true_iff.mp hentry
  have hevents := (List.take_append_drop 5 _).symm.trans (congrArg _ hdrop)
  exact ⟨hkeeps, (hall.2.1 _ entry [] hevents hisEntry hcancelled).2⟩

end TemplateScript
