import TemplateScript.Proofs.Evaluation.Propagation
import TemplateScript.Proofs.Evaluation.Trace

/-!
# Traces as accounts of runs

A trace accounts for a run: nothing but its calls changes the host or the cancellation, and an entry
in a cancelled world is the last event and ends the run with a cancellation. This is so for the
small programs, which have no events, and is kept when programs are put together, whatever they do
in between.
-/

namespace TemplateScript

variable {σ α β : Type}

/-- Two worlds in which the host is in the same state and the cancellation is the same. -/
structure World.Alike (w w' : World σ) : Prop where
  cancellation : w'.cancellation = w.cancellation
  host : w'.host = w.host

namespace World.Alike

theorem refl (w : World σ) : w.Alike w := ⟨rfl, rfl⟩

theorem trans {w w₁ w' : World σ} (h : w.Alike w₁) (h' : w₁.Alike w') : w.Alike w' :=
  ⟨h'.cancellation.trans h.cancellation, h'.host.trans h.host⟩

end World.Alike

/-- Events one after the other, from one world to another: between them nothing happens to the host
or the cancellation, and an entry in a cancelled world is the last event, with which the run fails
as cancelled. -/
inductive Chronicle (hosts : HostFunctions σ) :
    World σ → List (Event σ) → Option Fault → World σ → Prop
  | done {w w' : World σ} {failure : Option Fault} (h : w.Alike w') :
      Chronicle hosts w [] failure w'
  | refused {w w' : World σ} {event : Event σ} {fault : Fault} (hentry : event.isEntry)
      (hbefore : w.Alike event.before) (hcancelled : event.before.cancellation.isSome)
      (hkind : fault.kind = .cancelled) (hafter : event.before.Alike w') :
      Chronicle hosts w [event] (some fault) w'
  | entered {w w' : World σ} {event : Event σ} {rest : List (Event σ)} {failure : Option Fault}
      (hentry : event.isEntry) (hbefore : w.Alike event.before)
      (hopen : event.before.cancellation = none)
      (hrest : Chronicle hosts event.before rest failure w') :
      Chronicle hosts w (event :: rest) failure w'
  | called {w w₁ w' : World σ} {key : String} {args : List Value} {rest : List (Event σ)}
      {failure : Option Fault} (hbefore : w.Alike w₁)
      (hrest : Chronicle hosts ((hosts key args).run w₁).2 rest failure w') :
      Chronicle hosts w (.call key args w₁ :: rest) failure w'

namespace Chronicle

variable {hosts : HostFunctions σ} {w w₁ w' : World σ} {events rest : List (Event σ)}
  {failure : Option Fault}

theorem of_alike (hw : w.Alike w₁) (h : Chronicle hosts w₁ events failure w') :
    Chronicle hosts w events failure w' := by
  cases h with
  | done h => exact .done (hw.trans h)
  | refused hentry hbefore hcancelled hkind hafter =>
      exact .refused hentry (hw.trans hbefore) hcancelled hkind hafter
  | entered hentry hbefore hopen hrest => exact .entered hentry (hw.trans hbefore) hopen hrest
  | called hbefore hrest => exact .called (hw.trans hbefore) hrest

theorem append (h : Chronicle hosts w events none w₁)
    (hrest : Chronicle hosts w₁ rest failure w') :
    Chronicle hosts w (events ++ rest) failure w' := by
  generalize hnone : (none : Option Fault) = unfailed at h
  induction h with
  | done hw => exact hrest.of_alike hw
  | refused => cases hnone
  | entered hentry hbefore hopen _ ih => exact .entered hentry hbefore hopen (ih hrest hnone)
  | called hbefore _ ih => exact .called hbefore (ih hrest hnone)

/-- What a fault says and where it is does not matter. -/
theorem of_kind {fault fault' : Fault} (h : Chronicle hosts w events (some fault) w')
    (hkind : fault'.kind = fault.kind) : Chronicle hosts w events (some fault') w' := by
  generalize hfault : some fault = failure at h
  induction h with
  | done hw => exact .done hw
  | refused hentry hbefore hcancelled hkind' hafter =>
      cases hfault
      exact .refused hentry hbefore hcancelled (hkind.trans hkind') hafter
  | entered hentry hbefore hopen _ ih => exact .entered hentry hbefore hopen (ih hfault)
  | called hbefore _ ih => exact .called hbefore (ih hfault)

end Chronicle

namespace Trace

theorem entering_of_cancelled {event : World σ → Event σ} {inside : Trace σ} {w : World σ}
    {reason : String} (hw : w.cancellation = some reason) :
    entering event inside w = [event w] := by
  rw [entering, hw]
  rfl

theorem andThen_silent {x : Eval σ α} {a : α} {w w' : World σ} (h : x.run w = (.ok a, w'))
    (next : α → Trace σ) : andThen x silent next w = next a w' := by
  rw [andThen, h]
  rfl

end Trace

def faultOf : Except Fault α → Option Fault
  | .ok _ => none
  | .error fault => some fault

theorem faultOf_map (result : Except Fault α) (f : α → β) :
    faultOf (result.map f) = faultOf result := by
  cases result <;> rfl

/-- A trace accounts for the runs of a program. -/
def Trace.AccountsFor (hosts : HostFunctions σ) (trace : Trace σ) (x : Eval σ α) : Prop :=
  ∀ w, Chronicle hosts w (trace w) (faultOf (x.run w).1) (x.run w).2

/-- A program that leaves the host and the cancellation as they are. -/
def Eval.IsQuiet (x : Eval σ α) : Prop :=
  ∀ w : World σ, w.Alike (x.run w).2

namespace Eval.IsQuiet

theorem pure (a : α) : (pure a : Eval σ α).IsQuiet := fun w => .refl w

theorem throw (fault : Fault) : (throw fault : Eval σ α).IsQuiet := fun w => .refl w

theorem liftFault (result : Except Fault α) : (liftFault result : Eval σ α).IsQuiet := by
  cases result with
  | ok a => exact pure a
  | error fault => exact throw fault

theorem liftHost (result : Except HostFault α) : (liftHost result : Eval σ α).IsQuiet := by
  cases result with
  | ok a => exact pure a
  | error why => exact throw (.host why)

theorem liftTable (result : Except TableFault α) : (liftTable result : Eval σ α).IsQuiet := by
  cases result with
  | ok a => exact pure a
  | error why => exact throw (.ofTable why)

theorem globals (frame : Frame) : (discard (globals frame) : Eval σ Unit).IsQuiet := by
  rw [Eval.globals]
  cases frame.globals with
  | none => exact throw .noGlobals
  | some globals => exact pure ()

theorem newTable (slots : Slots) : (newTable slots : Eval σ Value).IsQuiet := fun _ => ⟨rfl, rfl⟩

theorem assignField (frame : Frame) (slots : Slots) (key value : Value) (loc : Option Location) :
    (assignField frame slots key value loc : Eval σ Slots).IsQuiet := by
  rw [TemplateScript.assignField.eq_def]
  split
  · exact throw _
  · split
    · exact throw _
    · exact liftTable _
  · exact liftTable _

theorem bind {x : Eval σ α} {next : α → Eval σ β} (h : x.IsQuiet)
    (hnext : ∀ a, (next a).IsQuiet) : (x >>= next).IsQuiet := by
  intro w
  have hx := h w
  rcases hrun : x.run w with ⟨fault | a, w₁⟩
  · rw [hrun] at hx
    rw [Faulting.run_bind_of_error hrun]
    exact hx
  · rw [hrun] at hx
    rw [Faulting.run_bind_of_ok hrun]
    exact hx.trans (hnext a w₁)

end Eval.IsQuiet

namespace Trace.AccountsFor

variable {hosts : HostFunctions σ} {x : Eval σ α} {trace : Trace σ}

theorem ofQuiet (h : x.IsQuiet) : silent.AccountsFor hosts x := fun w => .done (h w)

/-- Programs one after the other. -/
theorem bind {next : α → Eval σ β} {nextTrace : α → Trace σ} (h : trace.AccountsFor hosts x)
    (hnext : ∀ a, (nextTrace a).AccountsFor hosts (next a)) :
    (andThen x trace nextTrace).AccountsFor hosts (x >>= next) := by
  intro w
  have hx := h w
  rw [andThen]
  rcases hrun : x.run w with ⟨fault | a, w₁⟩
  · rw [hrun] at hx
    rw [Faulting.run_bind_of_error hrun, List.append_nil]
    exact hx
  · rw [hrun] at hx
    rw [Faulting.run_bind_of_ok hrun]
    exact hx.append (hnext a w₁)

theorem bindQuiet {next : α → Eval σ β} (h : trace.AccountsFor hosts x)
    (hnext : ∀ a, (next a).IsQuiet) : trace.AccountsFor hosts (x >>= next) := by
  intro w
  have hx := h w
  rcases hrun : x.run w with ⟨fault | a, w₁⟩
  · rw [hrun] at hx
    rw [Faulting.run_bind_of_error hrun]
    exact hx
  · rw [hrun] at hx
    rw [Faulting.run_bind_of_ok hrun, ← List.append_nil (trace w)]
    exact hx.append (.done (hnext a w₁))

/-- A fault may be replaced by another one of the same kind. -/
theorem rethrow {handler : Fault → Eval σ α} (outer : Fault → Fault)
    (h : trace.AccountsFor hosts x) (hhandler : ∀ fault, handler fault = throw (outer fault))
    (hkind : ∀ fault, (outer fault).kind = fault.kind) :
    trace.AccountsFor hosts (tryCatch x handler) := by
  intro w
  have hx := h w
  rw [Faulting.run_tryCatch]
  rcases hrun : x.run w with ⟨fault | a, w₁⟩
  · rw [hrun] at hx
    dsimp only
    rw [hhandler fault]
    exact hx.of_kind (hkind fault)
  · rw [hrun] at hx
    exact hx

/-- What is entered is checked for a cancellation first. -/
theorem entering {frame : Frame} {event : World σ → Event σ} {next : Unit → Eval σ α}
    (hentry : ∀ w, (event w).isEntry ∧ (event w).before = w)
    (h : trace.AccountsFor hosts (next ())) :
    (Trace.entering event trace).AccountsFor hosts (Eval.checkCancelled frame >>= next) := by
  intro w
  obtain ⟨hisEntry, hbefore⟩ := hentry w
  have halike : w.Alike (event w).before := hbefore.symm ▸ .refl w
  rw [Trace.entering]
  cases hw : w.cancellation with
  | some reason =>
      rw [Faulting.run_bind_of_error (Eval.run_checkCancelled_of_some hw)]
      refine .refused hisEntry halike ?_ rfl (hbefore.symm ▸ .refl w)
      rw [hbefore, hw]
      rfl
  | none =>
      rw [Faulting.run_bind_of_ok (Eval.run_checkCancelled_of_none hw)]
      refine .entered hisEntry halike (by rw [hbefore, hw]) ?_
      rw [hbefore]
      exact h w

end Trace.AccountsFor

end TemplateScript
