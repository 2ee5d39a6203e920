import TemplateScript.Proofs.Evaluation.Chronicle
import TemplateScript.Proofs.Evaluation.Counterparts

/-!
# Runs without host functions

Host functions that only leave a mark tell whether a run calls any. A run that leaves no mark goes
as any other run of the same program does, whatever the host functions are and under whatever
numbers: it comes to the same under these numbers, makes as many tables, and leaves the host and the
cancellation alone. And it comes to nothing but what was known before and the tables that it makes.
-/

namespace TemplateScript

variable {σ α β : Type}

/-- Host functions that leave a mark where they are called, and do nothing else. -/
def marking : HostFunctions Bool := fun _ _ => do
  modify fun w => { w with host := true }
  return .nil

/-- A world without a mark, like another one otherwise. -/
def World.unmarked (w : World σ) : World Bool := ⟨w.cancellation, w.nextTable, false⟩

/-- Other numbers for all things. Those that are made from a start on are numbered in the same order
as before, higher by an offset. -/
structure Renumbering where
  number : Nat → Nat
  injective : number.Injective
  start : Nat
  offset : Nat
  number_of_le {id : Nat} (h : start ≤ id) : number id = id + offset

/-- Two worlds of which the second goes on under other numbers where the first goes on. -/
structure World.Parallel (r : Renumbering) (w : World Bool) (w' : World σ) : Prop where
  cancellation : w'.cancellation = w.cancellation
  nextTable : w'.nextTable = w.nextTable + r.offset
  start : r.start ≤ w.nextTable

/-- A program does under other numbers what another one does that leaves no mark. -/
structure Matches (r : Renumbering) (H : Holding α) (x : StateM (World Bool) α)
    (y : StateM (World σ) α) : Prop where
  /-- A mark stays. -/
  unmarked (w : World Bool) (h : (x w).2.host = false) : w.host = false
  result {w : World Bool} {w' : World σ} (hw : w.Parallel r w') (h : (x w).2.host = false) :
    (y w').1 = H.renumber r.number (x w).1
  parallel {w : World Bool} {w' : World σ} (hw : w.Parallel r w') (h : (x w).2.host = false) :
    (x w).2.Parallel r (y w').2
  alike {w : World Bool} {w' : World σ} (hw : w.Parallel r w') (h : (x w).2.host = false) :
    w'.Alike (y w').2

namespace Matches

variable {r : Renumbering} {H : Holding α} {H' : Holding β}

theorem pure (a : α) :
    Matches r H (pure a) (pure (H.renumber r.number a) : StateM (World σ) α) where
  unmarked _ h := h
  result _ _ := rfl
  parallel hw _ := hw
  alike _ _ := .refl _

theorem bind {x : StateM (World Bool) α} {y : StateM (World σ) α}
    {next : α → StateM (World Bool) β} {next' : α → StateM (World σ) β} (h : Matches r H x y)
    (hnext : ∀ a, Matches r H' (next a) (next' (H.renumber r.number a))) :
    Matches r H' (x >>= next) (y >>= next') := by
  have hrun {w : World Bool} {w' : World σ} (hw : w.Parallel r w')
      (hmark : (x w).2.host = false) :
      (y >>= next') w' = next' (H.renumber r.number (x w).1) (y w').2 :=
    congrArg (fun a => next' a (y w').2) (h.result hw hmark)
  refine ⟨fun w hmark => ?_, fun {w w'} hw hmark => ?_, fun {w w'} hw hmark => ?_,
    fun {w w'} hw hmark => ?_⟩
  · exact h.unmarked w ((hnext (x w).1).unmarked (x w).2 hmark)
  all_goals
    have hfirst : (x w).2.host = false := (hnext (x w).1).unmarked (x w).2 hmark
    have hmiddle := h.parallel hw hfirst
    rw [hrun hw hfirst]
  · exact (hnext (x w).1).result hmiddle hmark
  · exact (hnext (x w).1).parallel hmiddle hmark
  · exact (h.alike hw hfirst).trans ((hnext (x w).1).alike hmiddle hmark)

theorem checkCancelled (r : Renumbering) (frame : Frame) :
    Matches r Holding.nothing.outcome (Eval.checkCancelled frame).run
      (Eval.checkCancelled (frame.renumber r.number) : Eval σ Unit).run := by
  -- neither world changes, and what comes out depends on the cancellation
  have hrun {τ : Type} (frame : Frame) (w : World τ) :
      (Eval.checkCancelled frame).run w = (match w.cancellation with
        | none => .ok ()
        | some reason => .error (.runtime (.cancelled reason) .cancelled frame.source none),
          w) := by
    cases hw : w.cancellation with
    | none => exact Eval.run_checkCancelled_of_none hw
    | some reason => exact Eval.run_checkCancelled_of_some hw
  refine ⟨fun w h => ?_, fun {w w'} hw _ => ?_, fun {w w'} hw _ => ?_, fun {w w'} hw _ => ?_⟩
  · rwa [hrun frame w] at h
  · rw [hrun, hrun frame w, hw.cancellation]
    cases w.cancellation <;> rfl
  · rwa [hrun frame w, hrun _ w']
  · rw [hrun]
    exact .refl _

theorem newTable (r : Renumbering) (slots : Slots) :
    Matches r Holding.value.outcome (Eval.newTable slots).run
      (Eval.newTable (slots.renumber r.number) : Eval σ Value).run where
  unmarked _ h := h
  result {w w'} hw _ := by
    have hid : w'.nextTable = r.number w.nextTable :=
      hw.nextTable.trans (r.number_of_le hw.start).symm
    change Except.ok (Value.table w'.nextTable (slots.renumber r.number)) =
      .ok (.table (r.number w.nextTable) (renumberEntries r.number slots))
    rw [hid, renumberEntries_eq_map]
  parallel {w w'} hw _ := by
    refine ⟨hw.cancellation, ?_, Nat.le_succ_of_le hw.start⟩
    change w'.nextTable + 1 = w.nextTable + 1 + r.offset
    rw [hw.nextTable, Nat.add_right_comm]
  alike _ _ := ⟨rfl, rfl⟩

theorem marking_call (key : String) (args : List Value)
    (y : StateM (World σ) (Except Fault Value)) :
    Matches r Holding.value.outcome (marking key args).run y := by
  have hmark (w : World Bool) : ((marking key args).run w).2.host = true := rfl
  refine ⟨fun w h => ?_, fun _ h => ?_, fun _ h => ?_, fun _ h => ?_⟩
  · exact nomatch h
  · exact nomatch h
  · exact nomatch h
  · exact nomatch h

end Matches

/-- Runs that leave no mark correspond to all others. -/
def Correspondence.matching (r : Renumbering) (hosts : HostFunctions σ) :
    Correspondence Bool σ where
  number := r.number
  injective := r.injective
  known _ := True
  hosts := marking
  hosts' := hosts
  rel := Matches r
  rel_pure _ := .pure _
  rel_bind h hnext := h.bind fun a => hnext a (Holding.within_all _ a)
  rel_check := .checkCancelled r
  rel_newTable slots _ := .newTable r slots
  rel_call key args _ := .marking_call key args _

/-! ### What a run comes to -/

/-- The results of a program in which tables are made from a start on hold known things only. -/
def Contains (start : Nat) (known : Entity → Prop) (H : Holding α)
    (x : StateM (World Bool) α) : Prop :=
  ∀ w : World Bool, start ≤ w.nextTable → start ≤ (x w).2.nextTable ∧ H.Within known (x w).1

/-- What is known, and the tables that are made from a start on. -/
def knownFrom (start : Nat) (known : Entity → Prop) (x : Entity) : Prop :=
  known x ∨ ∃ id slots, x = .table id slots ∧ start ≤ id

/-- A run without marks comes to nothing but what was known and what it makes. -/
def Correspondence.containing (start : Nat) (known : Entity → Prop) :
    Correspondence Bool Bool where
  number := id
  injective := Function.injective_id
  known := knownFrom start known
  hosts := marking
  hosts' := marking
  rel H x _ := Contains start (knownFrom start known) H x
  rel_pure h := fun w hw => ⟨hw, h⟩
  rel_bind {α β H H' x y next next'} h hnext := fun w hw => by
    obtain ⟨hmiddle, hresult⟩ := h w hw
    exact hnext (x w).1 hresult (x w).2 hmiddle
  rel_check frame := fun w hw => by
    cases hcancelled : w.cancellation with
    | none =>
        rw [Eval.run_checkCancelled_of_none hcancelled]
        exact ⟨hw, fun _ _ => trivial⟩
    | some reason =>
        rw [Eval.run_checkCancelled_of_some hcancelled]
        exact ⟨hw, fun _ _ => trivial⟩
  rel_newTable slots h := fun w hw => by
    refine ⟨Nat.le_succ_of_le hw, ?_⟩
    rintro _ ⟨⟩
    exact Value.within_table.mpr ⟨.inr ⟨_, _, rfl, hw⟩, h⟩
  rel_call key args _ := fun w hw => by
    refine ⟨hw, ?_⟩
    rintro _ ⟨⟩
    exact Value.within_nil

end TemplateScript
