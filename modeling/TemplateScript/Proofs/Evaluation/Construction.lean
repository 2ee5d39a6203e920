import TemplateScript.Proofs.Evaluation.Renumbering
import TemplateScript.Proofs.Faulting
import TemplateScript.Value.Workspace

/-!
# Tables that are filled in place

Tables are shared, and a table is there before its fields are: each field is put into it in place.
This is the evaluation of the slots on their own. Only the new table changes, also where a field
fails, and in the end it has these slots.
-/

namespace TemplateScript

variable {σ α : Type}

namespace Workspace

def slotsOf (tables : Workspace) (id : Nat) : Slots :=
  (tables.tables.lookup id).getD []

variable (tables : Workspace)

theorem slotsOf_setSlots (id : Nat) (slots : Slots) :
    (tables.setSlots id slots).slotsOf id = slots := by
  rw [slotsOf, setSlots, List.lookup_cons, BEq.rfl]
  rfl

theorem lookup_setSlots_of_ne {id other : Nat} (h : other ≠ id) (slots : Slots) :
    (tables.setSlots id slots).tables.lookup other = tables.tables.lookup other := by
  rw [setSlots, List.lookup_cons, beq_eq_false_iff_ne.mpr h]
  change List.lookup other (tables.tables.filter fun table => table.1 != id) = _
  induction tables.tables with
  | nil => rfl
  | cons table rest ih =>
      obtain ⟨number, held⟩ := table
      by_cases hnumber : number = id
      · have hother : other ≠ number := hnumber ▸ h
        rw [List.filter_cons_of_neg (by simp [hnumber]), List.lookup_cons,
          beq_eq_false_iff_ne.mpr hother]
        exact ih
      · rw [List.filter_cons_of_pos (by simp [hnumber]), List.lookup_cons, List.lookup_cons, ih]

theorem setSlots_setSlots (id : Nat) (slots slots' : Slots) :
    (tables.setSlots id slots).setSlots id slots' = tables.setSlots id slots' := by
  rw [setSlots, setSlots, setSlots, List.filter_cons_of_neg (by simp), List.filter_filter]
  simp only [Bool.and_self]

end Workspace

/-- Evaluations beside tables that change in place. The changes stay where an evaluation fails. -/
abbrev InPlace (σ : Type) := Faulting Fault (Workspace × World σ)

namespace InPlace

/-- An evaluation that leaves all tables alone. -/
def ofEval (x : Eval σ α) : InPlace σ α :=
  ExceptT.mk fun (tables, w) => ((x.run w).1, tables, (x.run w).2)

/-- Gives a table other slots for those that it has. -/
def change (id : Nat) (f : Slots → Eval σ Slots) : InPlace σ Unit := do
  let (tables, _) ← get
  let slots ← ofEval (f (tables.slotsOf id))
  modify fun (tables, w) => (tables.setSlots id slots, w)

/-- Puts the fields of a table into it; `position` is that of the next positional one. -/
def fillTable (hosts : HostFunctions σ) (nested : Nested σ) (frame : Frame) (scope : ScopeChain)
    (id : Nat) : List (Option Expr × Expr) → Nat → InPlace σ Unit
  | [], _ => return ()
  | (none, e) :: rest, position => do
    let value ← ofEval (evalExpr hosts nested frame scope e)
    change id fun slots =>
      Eval.liftTable (assignPositions slots position (value.spread rest.isEmpty))
    fillTable hosts nested frame scope id rest (position + 1)
  | (some key, e) :: rest, position => do
    let value ← ofEval (evalExpr hosts nested frame scope e)
    let keyValue ← ofEval (evalExpr hosts nested frame scope key)
    change id fun slots => assignField frame slots keyValue.single value.single key.loc
    fillTable hosts nested frame scope id rest position

theorem run_ofEval (x : Eval σ α) (tables : Workspace) (w : World σ) :
    (ofEval x).run (tables, w) = ((x.run w).1, tables, (x.run w).2) := rfl

theorem run_change (id : Nat) (f : Slots → Eval σ Slots) (tables : Workspace) (w : World σ) :
    (change id f).run (tables, w) =
      match (f (tables.slotsOf id)).run w with
      | (.ok slots, w') => (.ok (), tables.setSlots id slots, w')
      | (.error fault, w') => (.error fault, tables, w') := by
  rw [change, Faulting.run_bind, Faulting.run_get]
  dsimp only
  rw [Faulting.run_bind, run_ofEval]
  rcases (f (tables.slotsOf id)).run w with ⟨fault | slots, w'⟩ <;> rfl

/-- A table with some slots is filled in place with what comes to be its slots. Nothing else
changes but the world, and that alike. -/
def Fills (id : Nat) (slots : Slots) (x : InPlace σ Unit) (y : Eval σ Slots) : Prop :=
  ∀ (tables : Workspace) (w : World σ), ∃ left,
    x.run (tables.setSlots id slots, w) =
        ((y.run w).1.map fun _ => (), tables.setSlots id left, (y.run w).2) ∧
      ∀ filled, (y.run w).1 = .ok filled → left = filled

namespace Fills

variable {id : Nat} {slots : Slots}

theorem done : Fills id slots (pure () : InPlace σ Unit) (pure slots) :=
  fun _ _ => ⟨slots, rfl, fun _ h => Except.ok.inj h⟩

theorem after {x : Eval σ α} {next : α → InPlace σ Unit} {next' : α → Eval σ Slots}
    (h : ∀ a, Fills id slots (next a) (next' a)) :
    Fills id slots (ofEval x >>= next) (x >>= next') := by
  intro tables w
  rw [Faulting.run_bind, run_ofEval, Faulting.run_bind]
  rcases x.run w with ⟨fault | a, w'⟩
  · exact ⟨slots, rfl, fun _ hok => nomatch hok⟩
  · exact h a tables w'

theorem change {f : Slots → Eval σ Slots} {rest : InPlace σ Unit} {next : Slots → Eval σ Slots}
    (h : ∀ slots', Fills id slots' rest (next slots')) :
    Fills id slots (do InPlace.change id f; rest) (f slots >>= next) := by
  intro tables w
  rw [Faulting.run_bind, run_change, tables.slotsOf_setSlots, Faulting.run_bind]
  rcases (f slots).run w with ⟨fault | slots', w'⟩
  · exact ⟨slots, rfl, fun _ hok => nomatch hok⟩
  · dsimp only
    rw [tables.setSlots_setSlots]
    exact h slots' tables w'

end Fills

variable (hosts : HostFunctions σ) (nested : Nested σ) (frame : Frame) (scope : ScopeChain)

theorem fills_fillTable (id : Nat) (fields : List (Option Expr × Expr)) (slots : Slots)
    (position : Nat) :
    Fills id slots (fillTable hosts nested frame scope id fields position)
      (evalFields hosts nested frame scope fields slots position) := by
  induction fields generalizing slots position with
  | nil =>
      rw [fillTable, evalFields]
      exact .done
  | cons field rest ih =>
      obtain ⟨_ | key, e⟩ := field
      · rw [fillTable, evalFields]
        refine .after fun value => ?_
        exact .change fun slots' => ih slots' (position + 1)
      · rw [fillTable, evalFields]
        refine .after fun value => .after fun keyValue => ?_
        exact .change fun slots' => ih slots' position

/-- A table that is filled in place has the slots that the evaluation comes to, and no other table
changes, also where a field fails. -/
theorem run_fillTable (id : Nat) (fields : List (Option Expr × Expr)) (tables : Workspace)
    (w : World σ) :
    let (outcome, after) := (evalFields hosts nested frame scope fields [] 1).run w
    ∃ left, (fillTable hosts nested frame scope id fields 1).run (tables.setSlots id [], w) =
        (outcome.map fun _ => (), tables.setSlots id left, after) ∧
      (∀ filled, outcome = .ok filled → left = filled) ∧
      ∀ other, other ≠ id →
        (tables.setSlots id left).tables.lookup other = tables.tables.lookup other := by
  obtain ⟨left, hrun, hleft⟩ := fills_fillTable hosts nested frame scope id fields [] 1 tables w
  exact ⟨left, hrun, hleft, fun other hother => tables.lookup_setSlots_of_ne hother left⟩

end InPlace

end TemplateScript
