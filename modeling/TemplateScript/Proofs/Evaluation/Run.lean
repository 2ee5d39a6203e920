import TemplateScript.Evaluation.Frame
import TemplateScript.Proofs.Faulting

/-!
# Running evaluations

What the small evaluations come to in a world. A cancelled world ends an evaluation where it asks
whether it is cancelled, and nothing else about the world matters to it there.
-/

namespace TemplateScript

namespace Eval

variable {σ α : Type} {frame : Frame} {w : World σ}

theorem run_checkCancelled_of_none (h : w.cancellation = none) :
    (checkCancelled frame).run w = (.ok (), w) := by
  rw [checkCancelled, Faulting.run_bind, Faulting.run_get]
  simp only [h]
  rfl

theorem run_checkCancelled_of_some {reason : String} (h : w.cancellation = some reason) :
    (checkCancelled frame).run w =
      (.error (.runtime (.cancelled reason) .cancelled frame.source none), w) := by
  rw [checkCancelled, Faulting.run_bind, Faulting.run_get]
  simp only [h]
  rfl

theorem run_checkCancelled_eq_ok {w' : World σ} :
    (checkCancelled frame).run w = (.ok (), w') ↔ w.cancellation = none ∧ w = w' := by
  cases hw : w.cancellation with
  | none =>
      rw [run_checkCancelled_of_none hw]
      exact ⟨fun h => ⟨rfl, (Prod.mk.inj h).2⟩, fun h => congrArg _ h.2⟩
  | some reason =>
      rw [run_checkCancelled_of_some hw]
      refine ⟨fun h => ?_, fun h => ?_⟩
      · cases h
      · cases h.1

theorem run_liftHost (result : Except HostFault α) (w : World σ) :
    (liftHost result : Eval σ α).run w = (result.mapError .host, w) := by
  cases result <;> rfl

theorem liftFault_ok (a : α) : (liftFault (.ok a) : Eval σ α) = pure a := rfl

theorem run_liftFault_eq_ok {result : Except Fault α} {a : α} {w' : World σ} :
    (liftFault result : Eval σ α).run w = (.ok a, w') ↔ result = .ok a ∧ w = w' := by
  cases result with
  | ok b =>
      constructor
      · rintro ⟨⟩
        exact ⟨rfl, rfl⟩
      · rintro ⟨⟨⟩, rfl⟩
        rfl
  | error cause =>
      constructor
      · rintro ⟨⟩
      · rintro ⟨⟨⟩, _⟩

/-! The faults of tables and of the host are lifted as faults of the language. -/

theorem mapError_eq_ok {ε ε' : Type} {f : ε → ε'} {result : Except ε α} {a : α} :
    result.mapError f = .ok a ↔ result = .ok a := by
  cases result with
  | ok b =>
      constructor
      · rintro ⟨⟩
        rfl
      · rintro ⟨⟩
        rfl
  | error why =>
      constructor
      · rintro ⟨⟩
      · rintro ⟨⟩

theorem liftTable_eq (result : Except TableFault α) :
    (liftTable result : Eval σ α) = liftFault (result.mapError .ofTable) := by
  cases result <;> rfl

theorem liftHost_eq (result : Except HostFault α) :
    (liftHost result : Eval σ α) = liftFault (result.mapError .host) := by
  cases result <;> rfl

theorem run_liftTable_eq_ok {result : Except TableFault α} {a : α} {w' : World σ} :
    (liftTable result : Eval σ α).run w = (.ok a, w') ↔ result = .ok a ∧ w = w' := by
  rw [liftTable_eq, run_liftFault_eq_ok, mapError_eq_ok]

end Eval

end TemplateScript
