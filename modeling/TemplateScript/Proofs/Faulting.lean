/-!
# Programs that may fail

A program changes a state and ends with a value or with a fault. A fault ends a run and keeps the
changes of the state.

Two programs agree when they end with the same fault or with the same value, and with a value also
in the same state. What a program did to the state before it failed is left open.
-/

namespace TemplateScript

abbrev Faulting (ε σ : Type) := ExceptT ε (StateM σ)

namespace Faulting

variable {ε σ α β γ : Type}

theorem ext {x y : Faulting ε σ α} (h : ∀ s, x.run s = y.run s) : x = y :=
  funext h

theorem run_pure (a : α) (s : σ) : (pure a : Faulting ε σ α).run s = (.ok a, s) := rfl

theorem run_get (s : σ) : (get : Faulting ε σ σ).run s = (.ok s, s) := rfl

theorem run_bind (x : Faulting ε σ α) (next : α → Faulting ε σ β) (s : σ) :
    (x >>= next).run s =
      match x.run s with
      | (.ok a, s') => (next a).run s'
      | (.error fault, s') => (.error fault, s') := by
  simp only [ExceptT.run, bind, ExceptT.bind, ExceptT.mk, StateT.bind, ExceptT.bindCont]
  rcases x s with ⟨fault | a, s'⟩ <;> rfl

theorem run_map (f : α → β) (x : Faulting ε σ α) (s : σ) :
    (f <$> x).run s = ((x.run s).1.map f, (x.run s).2) := by
  simp only [ExceptT.run, Functor.map, ExceptT.map, ExceptT.mk, bind, StateT.bind]
  rcases x s with ⟨fault | a, s'⟩ <;> rfl

theorem run_tryCatch (x : Faulting ε σ α) (handler : ε → Faulting ε σ α) (s : σ) :
    (tryCatch x handler).run s =
      match x.run s with
      | (.ok a, s') => (.ok a, s')
      | (.error fault, s') => (handler fault).run s' := by
  simp only [ExceptT.run, tryCatch, tryCatchThe, MonadExceptOf.tryCatch, ExceptT.tryCatch,
    ExceptT.mk, bind, StateT.bind]
  rcases x s with ⟨fault | a, s'⟩ <;> rfl

theorem run_bind_of_ok {x : Faulting ε σ α} {next : α → Faulting ε σ β} {s s' : σ} {a : α}
    (h : x.run s = (.ok a, s')) : (x >>= next).run s = (next a).run s' := by
  rw [run_bind, h]

theorem run_map_bind_of_ok {x : Faulting ε σ α} {next : α → Faulting ε σ β} {s s' : σ} {a : α}
    (h : x.run s = (.ok a, s')) (f : β → γ) :
    (f <$> (x >>= next)).run s = (f <$> next a).run s' := by
  rw [run_map, run_map, run_bind_of_ok h]

theorem run_bind_of_error {x : Faulting ε σ α} {next : α → Faulting ε σ β} {s s' : σ} {fault : ε}
    (h : x.run s = (.error fault, s')) : (x >>= next).run s = (.error fault, s') := by
  rw [run_bind, h]

theorem run_bind_eq_ok {x : Faulting ε σ α} {next : α → Faulting ε σ β} {s s' : σ} {b : β} :
    (x >>= next).run s = (.ok b, s') ↔
      ∃ a s₁, x.run s = (.ok a, s₁) ∧ (next a).run s₁ = (.ok b, s') := by
  rw [run_bind]
  rcases x.run s with ⟨fault | a, s₁⟩
  · refine ⟨fun h => ?_, fun ⟨_, _, h, _⟩ => ?_⟩ <;> cases h
  · refine ⟨fun h => ⟨a, s₁, rfl, h⟩, fun ⟨_, _, h, hnext⟩ => ?_⟩
    cases h
    exact hnext

theorem run_map_eq_ok {f : α → β} {x : Faulting ε σ α} {s s' : σ} {b : β} :
    (f <$> x).run s = (.ok b, s') ↔ ∃ a, x.run s = (.ok a, s') ∧ f a = b := by
  rw [run_map]
  rcases x.run s with ⟨fault | a, s₁⟩
  · refine ⟨fun h => ?_, fun ⟨_, h, _⟩ => ?_⟩ <;> cases h
  · constructor
    · rintro ⟨⟩
      exact ⟨a, rfl, rfl⟩
    · rintro ⟨a, ⟨⟩, rfl⟩
      rfl

/-- The same value in the same state, or the same fault. -/
def Agree (x y : Faulting ε σ α) : Prop :=
  ∀ s, (x.run s).1 = (y.run s).1 ∧ ∀ a s', x.run s = (.ok a, s') → y.run s = (.ok a, s')

namespace Agree

theorem refl (x : Faulting ε σ α) : Agree x x :=
  fun _ => ⟨rfl, fun _ _ h => h⟩

theorem trans {x y z : Faulting ε σ α} (h : Agree x y) (hyz : Agree y z) : Agree x z :=
  fun s => ⟨(h s).1.trans (hyz s).1, fun a s' hx => (hyz s).2 a s' ((h s).2 a s' hx)⟩

/-- Where the first program ends with a value or a fault, so does the second. -/
theorem run_cases {x y : Faulting ε σ α} (h : Agree x y) (s : σ) :
    (∃ a s', x.run s = (.ok a, s') ∧ y.run s = (.ok a, s')) ∨
      ∃ fault s₁ s₂, x.run s = (.error fault, s₁) ∧ y.run s = (.error fault, s₂) := by
  obtain ⟨hfirst, hok⟩ := h s
  rcases hx : x.run s with ⟨fault | a, s'⟩
  · rw [hx] at hfirst
    exact .inr ⟨fault, s', (y.run s).2, rfl, Prod.ext hfirst.symm rfl⟩
  · exact .inl ⟨a, s', rfl, hok a s' hx⟩

theorem bind {x y : Faulting ε σ α} {f g : α → Faulting ε σ β} (h : Agree x y)
    (hnext : ∀ a, Agree (f a) (g a)) : Agree (x >>= f) (y >>= g) := by
  intro s
  rcases h.run_cases s with ⟨a, s', hx, hy⟩ | ⟨fault, s₁, s₂, hx, hy⟩
  · rw [run_bind_of_ok hx, run_bind_of_ok hy]
    exact hnext a s'
  · rw [run_bind_of_error hx, run_bind_of_error hy]
    exact ⟨rfl, fun _ _ hrun => nomatch hrun⟩

end Agree

end Faulting

end TemplateScript
