import TemplateScript.Library.Plain
import TemplateScript.Proofs.Value.Inheritance

/-!
# Results of plain library functions

Most plain library functions give nil, a boolean, a number or a text. The others hand on some of
their arguments, as several results.
-/

namespace TemplateScript

/-- A value that comes out is nil, a boolean, a number or a text. -/
def GivesPlain {ε : Type} (x : Except ε Value) : Prop :=
  ∀ v, x = .ok v → v.isPlain

namespace GivesPlain

variable {ε ε' α : Type}

theorem ok {v : Value} (h : v.isPlain) : GivesPlain (.ok v : Except ε Value) := by
  rintro _ ⟨⟩
  exact h

theorem error (why : ε) : GivesPlain (.error why : Except ε Value) := fun _ h => nomatch h

theorem bind {x : Except ε α} {next : α → Except ε Value} (h : ∀ a, GivesPlain (next a)) :
    GivesPlain (x >>= next) := by
  cases x with
  | error why => exact error why
  | ok a => exact h a

theorem mapError {x : Except ε Value} (h : GivesPlain x) (g : ε → ε') :
    GivesPlain (x.mapError g) := by
  cases x with
  | error why => exact error (g why)
  | ok v => exact ok (h v rfl)

end GivesPlain

namespace PlainMember

/-! ### Members that hand on nothing -/

/-- The position up to which contents are joined, by default all of them. -/
def lastPosition (j : Value) (length : Nat) : Except HostFault Int :=
  match j with
  | .nil => .ok length
  | j => Argument.integer "concat" 4 j

/-- The joined contents of a container. -/
def joined (t : Value) (separator : String) (i : Int) (last : Nat → Except HostFault Int) :
    Except HostFault Value :=
  match t with
  | .table _ slots => do
    return .str (← Tables.concat (Tables.slotValue slots) separator i (← last (border slots)))
  | .list items | .tuple items | .multi items => do
    return .str (← Tables.concat (Tables.itemAt items) separator i (← last items.length))
  | t => throw (.badArgument 1 "concat" "table" t.typeName)

theorem concatenation_eq (t separator i j : Value) :
    concatenation t separator i j = (do
      let separator ← Argument.text "concat" 2 separator
      let i ← Argument.integer "concat" 3 i
      joined t separator i (lastPosition j)) :=
  rfl

/-- The number that a value stands for, in a base if there is one. -/
def numberOf (v base : Value) : Except Fault Value :=
  match base with
  | .nil => .ok ((v.toNumber?.map .number).getD .nil)
  | base => (do numberInBase v (← Argument.integer "tonumber" 2 base)).mapError .host

/-- Whether a member hands on arguments. -/
def handsOn : PlainMember → Bool
  | .select | .assert => true
  | _ => false

theorem givesPlain_numberOf (v base : Value) : GivesPlain (numberOf v base) := by
  rw [numberOf.eq_def]
  split
  · exact .ok (by cases v.toNumber? <;> rfl)
  · refine .mapError (.bind fun n => ?_) _
    rw [numberInBase]
    split
    · split
      · exact .ok rfl
      · exact .error _
    · split
      · split <;> exact .ok rfl
      · exact .ok rfl

theorem givesPlain_concatenation (t separator i j : Value) :
    GivesPlain (concatenation t separator i j) := by
  rw [concatenation_eq]
  refine .bind fun separator => .bind fun i => ?_
  rw [joined.eq_def]
  split
  case h_5 => exact .error _
  all_goals
    refine .bind fun stop => .bind fun text => ?_
    exact .ok rfl

theorem givesPlain_run (m : PlainMember) (hm : m.handsOn = false) (args : List Value) :
    GivesPlain (m.run args) := by
  cases m with
  | select | assert => cases hm
  | tonumber => exact givesPlain_numberOf (args.getD 0 .nil) (args.getD 1 .nil)
  | type => exact .ok rfl
  | tostring | upper | lower | len | floor | ceil | abs =>
      refine .mapError (.bind fun _ => ?_) _
      exact .ok rfl
  | error => exact .bind fun _ => .error _
  | rep =>
      refine .mapError (.bind fun s => .bind fun n => ?_) _
      split
      · exact .ok rfl
      · refine .bind fun separator => .bind fun _ => ?_
        exact .ok rfl
  | sub =>
      refine .mapError (.bind fun s => .bind fun i => .bind fun j => ?_) _
      exact .ok rfl
  | format | sqrt =>
      refine .mapError (.bind fun n => .bind fun _ => ?_) _
      exact .ok rfl
  | max | min =>
      refine .mapError (.bind fun numbers => ?_) _
      cases numbers with
      | nil => exact .error _
      | cons first rest => exact .ok rfl
  | concat => exact .mapError (givesPlain_concatenation _ _ _ _) _

/-! ### Members that hand on arguments -/

/-- The number of the arguments behind the first one, or those of them that it selects. -/
def selected (n : Value) (rest : List Value) (count : Nat) : Except Fault Value :=
  match n with
  | .str "#" => .ok (.ofInt count)
  | n => (do selection (← Argument.integer "select" 1 n) rest).mapError .host

/-- The arguments of an assertion that holds. -/
def asserted (v message : Value) (rest : List Value) : Except Fault Value := do
  if v.isTruthy then return .multi (v :: message :: rest)
  throw (.plain (.raised (← message.display.mapError .host)))

theorem run_select (args : List Value) :
    run .select args = selected (args.getD 0 .nil) (args.drop 1) (args.length - 1) := rfl

theorem run_assert (args : List Value) :
    run .assert args =
      asserted (args.getD 0 .nil) (args.getD 1 (.str "assertion failed!")) (args.drop 2) := rfl

theorem selection_eq_ok {n : Int} {args : List Value} {v : Value}
    (h : selection n args = .ok v) : ∃ dropped, v = .multi (args.drop dropped) := by
  simp only [selection] at h
  split at h
  · split at h
    · cases h
    · exact ⟨_, (Except.ok.inj h).symm⟩
  · split at h
    · cases h
    · exact ⟨_, (Except.ok.inj h).symm⟩

theorem selected_of_ne {n : Value} (h : n ≠ .str "#") (rest : List Value) (count : Nat) :
    selected n rest count =
      (do selection (← Argument.integer "select" 1 n) rest).mapError .host := by
  rw [selected.eq_def]
  split
  · contradiction
  · rfl

theorem selected_eq_ok {n v : Value} {rest : List Value} {count : Nat}
    (h : selected n rest count = .ok v) :
    v = .ofInt count ∨ ∃ dropped, v = .multi (rest.drop dropped) := by
  by_cases hn : n = .str "#"
  · rw [hn] at h
    exact .inl (Except.ok.inj h).symm
  · rw [selected_of_ne hn] at h
    cases hindex : Argument.integer "select" 1 n with
    | error why =>
        rw [hindex] at h
        cases h
    | ok index =>
        rw [hindex] at h
        cases hselection : selection index rest with
        | error why =>
            simp only [bind, Except.bind, hselection] at h
            cases h
        | ok found =>
            simp only [bind, Except.bind, hselection] at h
            cases h
            exact .inr (selection_eq_ok hselection)

theorem asserted_eq_ok {v message result : Value} {rest : List Value}
    (h : asserted v message rest = .ok result) : result = .multi (v :: message :: rest) := by
  rw [asserted] at h
  cases htruthy : v.isTruthy with
  | true =>
      rw [htruthy] at h
      exact (Except.ok.inj h).symm
  | false =>
      rw [htruthy] at h
      cases hdisplay : message.display <;> rw [hdisplay] at h <;> cases h

/-- A plain member gives a plain value, or several results, each an argument or plain. -/
theorem run_cases {m : PlainMember} {args : List Value} {v : Value} (h : m.run args = .ok v) :
    v.isPlain ∨ ∃ items, v = .multi items ∧ ∀ item ∈ items, item ∈ args ∨ item.isPlain := by
  cases hm : m.handsOn with
  | false => exact .inl (givesPlain_run m hm args v h)
  | true =>
      cases m with
      | select =>
          obtain rfl | ⟨dropped, rfl⟩ := selected_eq_ok (run_select args ▸ h)
          · exact .inl rfl
          · exact .inr ⟨_, rfl, fun item hitem =>
              .inl (List.mem_of_mem_drop (List.mem_of_mem_drop hitem))⟩
      | assert =>
          have hgetD (index : Nat) {default : Value} (hdefault : default.isPlain) :
              args.getD index default ∈ args ∨ (args.getD index default).isPlain :=
            (Value.getD_cases args index default).imp_right fun heq => by rwa [heq]
          refine .inr ⟨_, asserted_eq_ok (run_assert args ▸ h), ?_⟩
          refine List.forall_mem_cons.mpr ⟨hgetD 0 rfl, ?_⟩
          refine List.forall_mem_cons.mpr ⟨hgetD 1 rfl, fun item hitem => ?_⟩
          exact .inl (List.mem_of_mem_drop hitem)
      | _ => cases hm

end PlainMember

end TemplateScript
