import Mathlib.Logic.Relation
import TemplateScript.Proofs.Evaluation.Propagation
import TemplateScript.Proofs.Library.Display
import TemplateScript.Proofs.Value.Sameness

/-!
# Where faults come from

An expression that fails does so because one of its parts does, while the parts before it have
values. That part fails on its own account: the evaluation was cancelled there, an operator, an
index or a field refused its operands, or a call failed. Its fault names the text of the frame and
the place of the part, with two exceptions. Operators, indices and fields let some faults of the
host through, and a call passes on the faults that its function raises as faults of the language.
-/

namespace TemplateScript

variable {σ α β : Type}

/-! ### How programs fail -/

section

variable {ε ε' : Type} {fault : ε}

theorem except_bind_eq_error {x : Except ε α} {next : α → Except ε β} :
    x >>= next = .error fault ↔ x = .error fault ∨ ∃ a, x = .ok a ∧ next a = .error fault := by
  cases x <;> simp [bind, Except.bind]

theorem mapError_eq_error {x : Except ε' α} {f : ε' → ε} :
    x.mapError f = .error fault ↔ ∃ why, x = .error why ∧ fault = f why := by
  cases x with
  | error why => simp [Except.mapError, eq_comm]
  | ok a => simp [Except.mapError]

end

namespace Eval

variable {x : Eval σ α} {next : α → Eval σ β} {w : World σ} {fault : Fault} {frame : Frame}

theorem fails_bind :
    (x >>= next).Fails w fault ↔
      x.Fails w fault ∨ ∃ a w', x.run w = (.ok a, w') ∧ (next a).Fails w' fault := by
  constructor
  · rintro ⟨w', hrun⟩
    rw [Faulting.run_bind] at hrun
    rcases hx : x.run w with ⟨cause | a, w₁⟩
    · rw [hx] at hrun
      cases hrun
      exact .inl ⟨_, hx⟩
    · rw [hx] at hrun
      exact .inr ⟨a, w₁, rfl, w', hrun⟩
  · rintro (h | ⟨a, w', hrun, h⟩)
    · exact h.first
    · exact .after hrun h

theorem not_fails_pure {a : α} : ¬(pure a : Eval σ α).Fails w fault := by
  rintro ⟨w', hrun⟩
  cases hrun

theorem fails_throw {cause : Fault} : (throw cause : Eval σ α).Fails w fault ↔ fault = cause := by
  constructor
  · rintro ⟨w', hrun⟩
    cases hrun
    rfl
  · rintro rfl
    exact ⟨w, rfl⟩

theorem fails_liftFault {result : Except Fault α} :
    (liftFault result : Eval σ α).Fails w fault ↔ result = .error fault := by
  cases result with
  | ok a => exact ⟨fun h => absurd h not_fails_pure, fun h => nomatch h⟩
  | error cause => exact fails_throw.trans ⟨fun h => h ▸ rfl, fun h => (Except.error.inj h).symm⟩

theorem fails_liftTable {result : Except TableFault α} :
    (liftTable result : Eval σ α).Fails w fault ↔
      ∃ why, result = .error why ∧ fault = .ofTable why := by
  rw [liftTable_eq, fails_liftFault, mapError_eq_error]

theorem fails_liftHost {result : Except HostFault α} :
    (liftHost result : Eval σ α).Fails w fault ↔
      ∃ why, result = .error why ∧ fault = .host why := by
  rw [liftHost_eq, fails_liftFault, mapError_eq_error]

theorem fails_checkCancelled :
    (checkCancelled frame).Fails w fault ↔
      ∃ reason, w.cancellation = some reason ∧
        fault = .runtime (.cancelled reason) .cancelled frame.source none := by
  cases hw : w.cancellation with
  | none =>
      refine ⟨fun ⟨w', hrun⟩ => ?_, fun ⟨_, h, _⟩ => nomatch h⟩
      rw [run_checkCancelled_of_none hw] at hrun
      cases hrun
  | some reason =>
      constructor
      · rintro ⟨w', hrun⟩
        rw [run_checkCancelled_of_some hw] at hrun
        cases hrun
        exact ⟨reason, rfl, rfl⟩
      · rintro ⟨_, ⟨⟩, rfl⟩
        exact ⟨w, run_checkCancelled_of_some hw⟩

/-- Every evaluation of an expression begins with the question whether it is cancelled. -/
theorem fails_checkCancelled_bind {next : Unit → Eval σ α} :
    (checkCancelled frame >>= next).Fails w fault ↔
      (∃ reason, w.cancellation = some reason ∧
        fault = .runtime (.cancelled reason) .cancelled frame.source none) ∨
      w.cancellation = none ∧ (next ()).Fails w fault := by
  rw [fails_bind, fails_checkCancelled]
  refine or_congr_right ⟨?_, fun ⟨hw, h⟩ => ⟨(), w, run_checkCancelled_of_none hw, h⟩⟩
  rintro ⟨_, w', hrun, h⟩
  obtain ⟨hw, rfl⟩ := run_checkCancelled_eq_ok.mp hrun
  exact ⟨hw, h⟩

end Eval

/-! ### Operators -/

/-- A fault names the text of the frame and a place. -/
def Frame.Blames (frame : Frame) (loc : Option Location) (fault : Fault) : Prop :=
  ∃ why, fault = frame.fault why loc

/-- The faults of the host that a part of an expression lets through: numbers too large for what is
computed with them or for being written, and values that are no keys, which are containers and
parsed expressions with such a number. -/
def Code.LetsThrough : Code → HostFault → Prop
  | .expr (.binary (.arithmetic op) _ _ _), why =>
    op ≠ .pow ∧ (why = .integerTooLarge ∨ why = .quotientTooLarge)
  | .expr (.binary .concat _ _ _), why => why = .tooManyDigits
  | .expr (.index _ _ _), why => why = .integerTooLarge ∨ ∃ refusal, why = .ofUnhashable refusal
  | .fields ((some _, _) :: _) _ _, why => ∃ refusal, why = .ofUnhashable refusal
  | _, _ => False

theorem Value.display_eq_error {v : Value} {why : HostFault} (h : v.display = .error why) :
    why = .tooManyDigits := by
  rw [display] at h
  split at h <;> cases h
  rfl

theorem Number.toFloat_eq_error {n : Number} {why : NumberFault} (h : n.toFloat = .error why) :
    why = .integerTooLarge := by
  cases n with
  | int i =>
      rw [toFloat] at h
      split at h <;> cases h
      rfl
  | float x => cases h

namespace Operators

variable {frame : Frame} {loc : Option Location} {fault : Fault}

theorem blames_of_operand {v : Value} (h : operand frame loc v = .error fault) :
    frame.Blames loc fault := by
  rw [operand] at h
  split at h <;> cases h
  exact ⟨_, rfl⟩

theorem blames_of_concatOperand {v : Value} (h : concatOperand frame loc v = .error fault) :
    frame.Blames loc fault := by
  rw [concatOperand] at h
  split at h <;> cases h
  exact ⟨_, rfl⟩

/-- What the operators let through of the faults of the host. -/
theorem blames_of_binary {op : BinaryOp} {left right : Value} (l r : Expr)
    (h : binary frame op left right loc = .error fault) :
    frame.Blames loc fault ∨
      ∃ why, (Code.expr (.binary op l r loc)).LetsThrough why ∧ fault = .host why := by
  cases op with
  | arithmetic op =>
      simp only [binary, except_bind_eq_error, mapError_eq_error] at h
      obtain h | ⟨a, -, h | ⟨b, -, ⟨why, hwhy, rfl⟩ | ⟨_, _, h⟩⟩⟩ := h
      · exact .inl (blames_of_operand h)
      · exact .inl (blames_of_operand h)
      · have hpow : op ≠ .pow := by
          rintro rfl
          cases hwhy
        cases why with
        | integerTooLarge => exact .inr ⟨.integerTooLarge, ⟨hpow, .inl rfl⟩, rfl⟩
        | quotientTooLarge => exact .inr ⟨.quotientTooLarge, ⟨hpow, .inr rfl⟩, rfl⟩
        | integerDivisionByZero | integerModuloByZero => exact .inl ⟨_, rfl⟩
      · cases h
  | concat =>
      simp only [binary, except_bind_eq_error, mapError_eq_error] at h
      obtain h | ⟨_, -, h | ⟨_, -, ⟨why, hwhy, rfl⟩ | ⟨a, -, ⟨why, hwhy, rfl⟩ | ⟨_, _, h⟩⟩⟩⟩ := h
      · exact .inl (blames_of_concatOperand h)
      · exact .inl (blames_of_concatOperand h)
      · exact .inr ⟨why, Value.display_eq_error hwhy, rfl⟩
      · exact .inr ⟨why, Value.display_eq_error hwhy, rfl⟩
      · cases h
  | equal => cases h
  | notEqual => cases h
  | comparison op =>
      simp only [binary.eq_def] at h
      split at h <;> cases h
      exact .inl ⟨_, rfl⟩
  | unknown spelling =>
      cases h
      exact .inl ⟨_, rfl⟩

theorem blames_of_unary {op : UnaryOp} {v : Value} {subject : Subject}
    (h : unary frame op v loc subject = .error fault) : frame.Blames loc fault := by
  cases op with
  | not => cases h
  | neg =>
      rw [unary, except_bind_eq_error] at h
      obtain h | ⟨n, -, h⟩ := h
      · exact blames_of_operand h
      · cases h
  | length =>
      simp only [unary.eq_def] at h
      split at h <;> cases h
      exact ⟨_, rfl⟩
  | unknown spelling =>
      cases h
      exact ⟨_, rfl⟩

theorem asKey_eq_error {key : Value} {why : TableFault} (h : key.asKey = .error why) :
    ∃ refusal, key.unhashable? = some refusal ∧ why = .unhashable refusal := by
  rw [Value.asKey] at h
  split at h <;> cases h
  next refusal hrefusal => exact ⟨refusal, hrefusal, rfl⟩

theorem slot_eq_error {slots : Slots} {key : Value} (h : slot slots key = .error fault) :
    ∃ refusal, fault = .host (.ofUnhashable refusal) := by
  rw [slot, Slots.read] at h
  cases hkey : key.slotKey.asKey with
  | ok found =>
      rw [hkey] at h
      cases h
  | error why =>
      rw [hkey] at h
      obtain ⟨refusal, -, rfl⟩ := asKey_eq_error hkey
      cases h
      exact ⟨refusal, rfl⟩

theorem entry_eq_error {entries : Slots} {key : Value} (h : entry entries key = .error fault) :
    ∃ refusal, key.unhashable? = some refusal ∧ fault = .host (.ofUnhashable refusal) := by
  rw [entry] at h
  split at h
  · cases h
  · next refusal _ hrefusal =>
      cases h
      exact ⟨refusal, hrefusal, rfl⟩
  · cases h

theorem item_eq_error {items : List Value} {key : Value} (h : item items key = .error fault) :
    fault = .host .integerTooLarge := by
  cases key with
  | number n =>
      simp only [item.eq_def] at h
      cases hfloat : n.toFloat with
      | ok x =>
          rw [hfloat] at h
          cases hint : n.toInt? <;> rw [hint] at h <;> cases h
      | error why =>
          rw [hfloat] at h
          cases h
          rw [Number.toFloat_eq_error hfloat]
          rfl
  | _ => cases h

/-- What an index lets through of the faults of the host. -/
theorem blames_of_index {globals : Bindings} {obj key : Value} {subject : Subject} (o k : Expr)
    (h : index frame globals obj key loc subject = .error fault) :
    frame.Blames loc fault ∨
      ∃ why, (Code.expr (.index o k loc)).LetsThrough why ∧ fault = .host why := by
  have hslot {slots : Slots} (h : slot slots key = .error fault) :
      ∃ why, (Code.expr (.index o k loc)).LetsThrough why ∧ fault = .host why := by
    obtain ⟨refusal, rfl⟩ := slot_eq_error h
    exact ⟨_, .inr ⟨refusal, rfl⟩, rfl⟩
  simp only [index.eq_def] at h
  split at h
  · exact .inr (hslot h)
  · split at h
    · exact .inr (hslot h)
    · cases h
  · obtain ⟨refusal, -, rfl⟩ := entry_eq_error h
    exact .inr ⟨_, .inr ⟨refusal, rfl⟩, rfl⟩
  · exact .inr ⟨_, .inl rfl, item_eq_error h⟩
  · exact .inr ⟨_, .inl rfl, item_eq_error h⟩
  · exact .inr ⟨_, .inl rfl, item_eq_error h⟩
  · cases h
    exact .inl ⟨_, rfl⟩

/-- A text is a key, and no position. -/
theorem blames_of_index_str {globals : Bindings} {obj : Value} {name : String} {subject : Subject}
    (h : index frame globals obj (.str name) loc subject = .error fault) :
    frame.Blames loc fault := by
  simp only [index.eq_def] at h
  split at h
  · cases h
  · split at h <;> cases h
  · obtain ⟨refusal, hrefusal, -⟩ := entry_eq_error h
    cases hrefusal
  · cases h
  · cases h
  · cases h
  · cases h
    exact ⟨_, rfl⟩

end Operators

/-! ### Fields -/

/-- An assignment to anything but nil is refused for a key that is none only. -/
theorem Slots.assign_eq_error {slots : Slots} {key value : Value} {why : TableFault}
    (hkey : key ≠ .nil) (h : slots.assign key value = .error why) :
    ∃ refusal, key.slotKey.unhashable? = some refusal ∧ why = .unhashable refusal := by
  have hslot := Value.slotKey_ne_nil hkey
  have hasKey : key.slotKey.asKey = .error why := by
    by_cases hvalue : value = .nil
    · rw [hvalue, assign_nil hslot] at h
      split at h
      · cases h
      · cases hasKey : key.slotKey.asKey <;> rw [hasKey] at h <;> cases h
        rfl
    · rw [assign_of_ne_nil hslot hvalue] at h
      cases hasKey : key.slotKey.asKey <;> rw [hasKey] at h <;> cases h
      rfl
  exact Operators.asKey_eq_error hasKey

/-- Positions are keys. -/
theorem assignPositions_ne_error {slots : Slots} {position : Nat} {items : List Value}
    {why : TableFault} : assignPositions slots position items ≠ .error why := by
  induction items generalizing slots position with
  | nil => exact fun h => nomatch h
  | cons item rest ih =>
      intro h
      rw [assignPositions, except_bind_eq_error] at h
      obtain h | ⟨_, -, h⟩ := h
      · have hkey : Value.ofInt position ≠ .nil := nofun
        obtain ⟨refusal, hrefusal, -⟩ := Slots.assign_eq_error hkey h
        cases hrefusal
      · exact ih h

theorem blames_of_assignField {frame : Frame} {slots : Slots} {key value : Value}
    {loc : Option Location} {w : World σ} {fault : Fault}
    (h : (assignField frame slots key value loc : Eval σ Slots).Fails w fault) :
    frame.Blames loc fault ∨ ∃ refusal, fault = .host (.ofUnhashable refusal) := by
  have hassign (hkey : key ≠ .nil)
      (h : (Eval.liftTable (slots.assign key value) : Eval σ Slots).Fails w fault) :
      ∃ refusal, fault = .host (.ofUnhashable refusal) := by
    obtain ⟨why, hwhy, rfl⟩ := Eval.fails_liftTable.mp h
    obtain ⟨refusal, -, rfl⟩ := Slots.assign_eq_error hkey hwhy
    exact ⟨refusal, rfl⟩
  cases key with
  | nil => exact .inl ⟨.nilKey, Eval.fails_throw.mp h⟩
  | number n =>
      rw [assignField] at h
      split at h
      · exact .inl ⟨.nanKey, Eval.fails_throw.mp h⟩
      · exact .inr (hassign nofun h)
  | _ => exact .inr (hassign nofun h)

/-! ### Calls -/

/-- The library functions fail with faults of the host, but for the two that raise one of the
language. -/
theorem PlainMember.run_eq_error {m : PlainMember} {args : List Value} {fault : Fault}
    (h : m.run args = .error fault) :
    (∃ why, fault = .host why) ∨
      (m = .error ∨ m = .assert) ∧ ∃ message, fault = .plain (.raised message) := by
  have hhost {result : Except HostFault Value} (h : result.mapError .host = .error fault) :
      ∃ why, fault = .host why := by
    obtain ⟨why, -, hfault⟩ := mapError_eq_error.mp h
    exact ⟨why, hfault⟩
  have hraised {v : Value}
      (h : (do throw (.plain (.raised (← v.display.mapError .host))) : Except Fault Value) =
        .error fault) :
      (∃ why, fault = .host why) ∨ ∃ message, fault = .plain (.raised message) := by
    obtain h | ⟨text, -, h⟩ := except_bind_eq_error.mp h
    · obtain ⟨why, -, hfault⟩ := mapError_eq_error.mp h
      exact .inl ⟨why, hfault⟩
    · cases h
      exact .inr ⟨text, rfl⟩
  cases m with
  | error => exact (hraised h).imp_right fun hmessage => ⟨.inl rfl, hmessage⟩
  | assert =>
      cases htruthy : (args.getD 0 .nil).isTruthy with
      | true =>
          simp only [run, htruthy] at h
          cases h
      | false =>
          simp only [run, htruthy] at h
          exact (hraised h).imp_right fun hmessage => ⟨.inr rfl, hmessage⟩
  | type => cases h
  | tonumber =>
      simp only [run] at h
      split at h
      · cases h
      · exact .inl (hhost h)
  | select =>
      simp only [run] at h
      split at h
      · cases h
      · exact .inl (hhost h)
  | _ => exact .inl (hhost h)

section

variable (hosts : HostFunctions σ) (nested : Nested σ) (frame : Frame)

/-- The faults that a function raises as faults of the language: those of the two library functions
that raise one, of a text that does not parse, of further evaluations, and of the host's
functions. -/
inductive Function.Passes : Function → List Value → World σ → Fault → Prop
  | raised {m : PlainMember} {home : Nat} {args : List Value} {w : World σ} {message : String}
      (hm : m = .error ∨ m = .assert) :
      Passes (.member (.plain m) home) args w (.plain (.raised message))
  | parseExpression {home : Nat} {args : List Value} {w : World σ} {why : ParseFault}
      {source : Option String} :
      Passes (.member (.framed .parseExpression) home) args w (.parse why source)
  | evalExpression {home : Nat} {args : List Value} {w : World σ} {fault : Fault}
      (h : (nested.evalExpression frame (args.getD 0 .nil) (args.getD 1 .nil)).Fails w fault) :
      Passes (.member (.framed .evalExpression) home) args w fault
  | interpolate {home : Nat} {args : List Value} {w : World σ} {fault : Fault}
      (h : (nested.interpolate frame (args.getD 0 .nil) (args.getD 1 .nil)).Fails w fault) :
      Passes (.member (.framed .interpolate) home) args w fault
  | host {key shown : String} {args : List Value} {w : World σ} {fault : Fault}
      (h : (hosts key args).Fails w fault) : Passes (.host key shown) args w fault

end

variable {hosts : HostFunctions σ} {nested : Nested σ} {frame : Frame} {scope : ScopeChain}

theorem parseValue_eq_error {v : Value} {fault : Fault} (h : parseValue v = .error fault) :
    ∃ why source, fault = .parse why source := by
  cases v with
  | str source =>
      obtain ⟨why, -, hfault⟩ := mapError_eq_error.mp h
      exact ⟨why, some source, hfault⟩
  | _ =>
      cases h
      exact ⟨_, none, rfl⟩

/-- A function fails with a fault of the host or with one that its call passes on. -/
theorem Function.passes_of_fails {globals : Bindings} (hglobals : frame.globals = some globals)
    {f : Function} {args : List Value} {w : World σ} {fault : Fault}
    (h : (f.run hosts nested frame args).Fails w fault) :
    (∃ why, fault = .host why) ∨ f.Passes hosts nested frame args w fault := by
  have hpresent : (discard (Eval.globals frame) : Eval σ Unit) = pure () := by
    rw [Eval.globals, hglobals]
    rfl
  cases f with
  | host key shown => exact .inr (.host h)
  | member m home =>
      unfold Function.run at h
      cases hcount : m.checkCount args with
      | error why =>
          simp only [hcount] at h
          exact .inl ⟨why, Eval.fails_throw.mp h⟩
      | ok counted =>
          have hcounted : (Eval.liftHost (.ok counted) : Eval σ Unit) = pure counted := rfl
          simp only [hcount, hcounted, pure_bind] at h
          cases m with
          | plain m =>
              have hrun := Eval.fails_liftFault.mp h
              obtain hhost | ⟨hm, message, rfl⟩ := PlainMember.run_eq_error hrun
              · exact .inl hhost
              · exact .inr (.raised hm)
          | framed m =>
              cases m with
              | parseExpression =>
                  simp only [FramedMember.run, hpresent, pure_bind, Eval.fails_bind,
                    Eval.fails_liftFault] at h
                  obtain h | ⟨_, _, _, h⟩ := h
                  · obtain ⟨why, source, rfl⟩ := parseValue_eq_error h
                    exact .inr .parseExpression
                  · exact absurd h Eval.not_fails_pure
              | evalExpression =>
                  simp only [FramedMember.run, hpresent, pure_bind] at h
                  exact .inr (.evalExpression h)
              | interpolate => exact .inr (.interpolate h)
              | baseUrl =>
                  simp only [FramedMember.run, hpresent, pure_bind] at h
                  split at h
                  · exact absurd h Eval.not_fails_pure
                  · simp only [Eval.fails_bind, Eval.fails_liftHost] at h
                    obtain ⟨why, -, hfault⟩ | ⟨_, _, _, h⟩ := h
                    · exact .inl ⟨why, hfault⟩
                    · exact absurd h Eval.not_fails_pure

theorem fails_callValue {fn : Value} {values : List Value} {loc : Option Location}
    {subject : Subject} {w : World σ} {fault : Fault} :
    (callValue hosts nested frame fn values loc subject).Fails w fault ↔
      ((∀ f, fn ≠ .function f) ∧ fault = frame.fault (.call fn.typeName subject) loc) ∨
        ∃ f cause, fn = .function f ∧ (f.run hosts nested frame values).Fails w cause ∧
          fault = frame.attributed f loc cause := by
  cases fn with
  | function f =>
      constructor
      · rintro ⟨w', hrun⟩
        rw [callValue_function, Faulting.run_tryCatch] at hrun
        rcases hf : (f.run hosts nested frame values).run w with ⟨cause | v, w₁⟩
        · rw [hf] at hrun
          exact .inr ⟨f, cause, rfl, ⟨w₁, hf⟩, (Except.error.inj (Prod.mk.inj hrun).1).symm⟩
        · rw [hf] at hrun
          cases hrun
      · rintro (⟨hf, -⟩ | ⟨_, cause, ⟨⟩, h, rfl⟩)
        · exact absurd rfl (hf f)
        · exact callValue_fails rfl h
  | _ =>
      refine Eval.fails_throw.trans ⟨fun h => .inl ⟨fun f hf => ?_, h⟩, ?_⟩
      · cases hf
      · rintro (⟨-, h⟩ | ⟨f, _, hf, _⟩)
        · exact h
        · cases hf

/-! ### Parts that fail on their own account -/

section

variable (hosts nested frame scope)

/-- A part fails while the parts of it have values. -/
inductive Code.Raises : Code → World σ → Fault → Prop
  | cancelled {e : Expr} {reason : String} {w : World σ} (hw : w.cancellation = some reason) :
      Raises (.expr e) w (.runtime (.cancelled reason) .cancelled frame.source none)
  | index {obj key : Expr} {loc : Option Location} {object keyValue : Value} {w w₁ w' : World σ}
      {fault : Fault} (hw : w.cancellation = none)
      (hobject : obj.Gives hosts nested frame scope w object w₁)
      (hkey : key.Gives hosts nested frame scope w₁ keyValue w')
      (h : Operators.index frame (frame.globals.getD []) object.single keyValue.single loc
        obj.subject = .error fault) :
      Raises (.expr (.index obj key loc)) w fault
  | method {obj : Expr} {name : String} {args : List Expr} {loc : Option Location} {object : Value}
      {w w' : World σ} {fault : Fault} (hw : w.cancellation = none)
      (hobject : obj.Gives hosts nested frame scope w object w')
      (h : Operators.index frame (frame.globals.getD []) object.single (.str name) loc
        obj.subject = .error fault) :
      Raises (.expr (.methodCall obj name args loc)) w fault
  | binary {op : BinaryOp} {left right : Expr} {loc : Option Location} {a b : Value}
      {w w₁ w' : World σ} {fault : Fault} (hw : w.cancellation = none)
      (hleft : left.Gives hosts nested frame scope w a w₁)
      (hright : right.Gives hosts nested frame scope w₁ b w')
      (h : Operators.binary frame op a.single b.single loc = .error fault) :
      Raises (.expr (.binary op left right loc)) w fault
  | unary {op : UnaryOp} {operand : Expr} {loc : Option Location} {v : Value} {w w' : World σ}
      {fault : Fault} (hw : w.cancellation = none)
      (hoperand : operand.Gives hosts nested frame scope w v w')
      (h : Operators.unary frame op v.single loc operand.subject = .error fault) :
      Raises (.expr (.unary op operand loc)) w fault
  | bare {loc : Option Location} {w : World σ} (hw : w.cancellation = none) :
      Raises (.expr (.bare loc)) w (frame.fault (.notEvaluable (Expr.bare loc).kindName) loc)
  | field {key e : Expr} {rest : List (Option Expr × Expr)} {slots : Slots} {position : Nat}
      {value keyValue : Value} {w w₁ w' : World σ} {fault : Fault}
      (hvalue : e.Gives hosts nested frame scope w value w₁)
      (hkey : key.Gives hosts nested frame scope w₁ keyValue w')
      (h : (assignField frame slots keyValue.single value.single key.loc : Eval σ Slots).Fails w'
        fault) :
      Raises (.fields ((some key, e) :: rest) slots position) w fault
  | call {fn : Expr} {args : List Expr} {loc : Option Location} {function : Value}
      {values : List Value} {w w₁ w' : World σ} {fault : Fault} (hw : w.cancellation = none)
      (hfunction : fn.Gives hosts nested frame scope w function w₁)
      (hvalues : (evalArgs hosts nested frame scope args).run w₁ = (.ok values, w'))
      (h : (callValue hosts nested frame function.single values loc fn.subject).Fails w' fault) :
      Raises (.expr (.call fn args loc)) w fault
  | methodCall {obj : Expr} {name : String} {args : List Expr} {loc : Option Location}
      {object function : Value} {values : List Value} {w w₁ w' : World σ} {fault : Fault}
      (hw : w.cancellation = none) (hobject : obj.Gives hosts nested frame scope w object w₁)
      (hfunction : Operators.index frame (frame.globals.getD []) object.single (.str name) loc
        obj.subject = .ok function)
      (hvalues : (evalArgs hosts nested frame scope args).run w₁ = (.ok values, w'))
      (h : (callValue hosts nested frame function (object.single :: values) loc
        (.method name)).Fails w' fault) :
      Raises (.expr (.methodCall obj name args loc)) w fault

end

/-- A part that fails on its own account fails. -/
theorem Code.Raises.fails {code : Code} {w : World σ} {fault : Fault}
    (h : code.Raises hosts nested frame scope w fault) :
    code.Fails hosts nested frame scope w fault := by
  cases h with
  | @cancelled e _ _ hw =>
      cases e <;> rw [Code.Fails, evalExpr] <;>
        exact Eval.fails_checkCancelled_bind.mpr (.inl ⟨_, hw, rfl⟩)
  | index hw hobject hkey h =>
      rw [Code.Fails, evalExpr]
      exact .afterCheck hw (.after hobject (.after hkey (Eval.fails_liftFault.mpr h)))
  | method hw hobject h =>
      rw [Code.Fails, evalExpr]
      exact .afterCheck hw (.after hobject (.first (Eval.fails_liftFault.mpr h)))
  | binary hw hleft hright h =>
      rw [Code.Fails, evalExpr]
      exact .afterCheck hw (.after hleft (.after hright (Eval.fails_liftFault.mpr h)))
  | unary hw hoperand h =>
      rw [Code.Fails, evalExpr]
      exact .afterCheck hw (.after hoperand (Eval.fails_liftFault.mpr h))
  | bare hw =>
      rw [Code.Fails, evalExpr]
      exact .afterCheck hw (Eval.fails_throw.mpr rfl)
  | field hvalue hkey h =>
      rw [Code.Fails, evalFields]
      exact .after hvalue (.after hkey (.first h))
  | call hw hfunction hvalues h =>
      rw [Code.Fails, evalExpr]
      exact .afterCheck hw (.after hfunction (.after hvalues h))
  | methodCall hw hobject hfunction hvalues h =>
      rw [Code.Fails, evalExpr]
      refine .afterCheck hw (.after hobject ?_)
      simp only [hfunction, Eval.liftFault_ok, pure_bind]
      exact .after hvalues h

theorem Expr.fails_cases {e : Expr} {w : World σ} {fault : Fault}
    (h : (evalExpr hosts nested frame scope e).Fails w fault) :
    (Code.expr e).Raises hosts nested frame scope w fault ∨
      ∃ part w', (Code.expr e).Enters hosts nested frame scope w part w' ∧
        part.Fails hosts nested frame scope w' fault := by
  cases hw : w.cancellation with
  | some reason =>
      have hcancelled : (Code.expr e).Raises hosts nested frame scope w _ := .cancelled hw
      obtain ⟨w₁, hrun⟩ := h
      obtain ⟨w₂, hrun'⟩ := hcancelled.fails
      rw [hrun] at hrun'
      cases hrun'
      exact .inl hcancelled
  | none =>
      have hcheck {next : Unit → Eval σ Value}
          (h : (Eval.checkCancelled frame >>= next).Fails w fault) : (next ()).Fails w fault := by
        obtain ⟨reason, hreason, -⟩ | ⟨-, h⟩ := Eval.fails_checkCancelled_bind.mp h
        · rw [hw] at hreason
          cases hreason
        · exact h
      cases e with
      | literal value loc | «variable» name loc =>
          rw [evalExpr] at h
          exact absurd (hcheck h) Eval.not_fails_pure
      | paren inner loc =>
          rw [evalExpr] at h
          obtain h | ⟨_, _, -, h⟩ := Eval.fails_bind.mp (hcheck h)
          · exact .inr ⟨_, w, .paren hw, h⟩
          · exact absurd h Eval.not_fails_pure
      | index obj key loc =>
          rw [evalExpr] at h
          obtain h | ⟨object, w₁, hobject, h⟩ := Eval.fails_bind.mp (hcheck h)
          · exact .inr ⟨_, w, .indexObject hw, h⟩
          obtain h | ⟨keyValue, w₂, hkey, h⟩ := Eval.fails_bind.mp h
          · exact .inr ⟨_, w₁, .indexKey hw hobject, h⟩
          · exact .inl (.index hw hobject hkey (Eval.fails_liftFault.mp h))
      | call fn args loc =>
          rw [evalExpr] at h
          obtain h | ⟨function, w₁, hfunction, h⟩ := Eval.fails_bind.mp (hcheck h)
          · exact .inr ⟨_, w, .callee hw, h⟩
          obtain h | ⟨values, w₂, hvalues, h⟩ := Eval.fails_bind.mp h
          · exact .inr ⟨_, w₁, .callArgs hw hfunction, h⟩
          · exact .inl (.call hw hfunction hvalues h)
      | methodCall obj name args loc =>
          rw [evalExpr] at h
          obtain h | ⟨object, w₁, hobject, h⟩ := Eval.fails_bind.mp (hcheck h)
          · exact .inr ⟨_, w, .methodObject hw, h⟩
          obtain h | ⟨function, w₂, hfunction, h⟩ := Eval.fails_bind.mp h
          · exact .inl (.method hw hobject (Eval.fails_liftFault.mp h))
          obtain ⟨hindex, rfl⟩ := Eval.run_liftFault_eq_ok.mp hfunction
          obtain h | ⟨values, w₃, hvalues, h⟩ := Eval.fails_bind.mp h
          · exact .inr ⟨_, w₁, .methodArgs hw hobject hindex, h⟩
          · exact .inl (.methodCall hw hobject hindex hvalues h)
      | logical op left right loc =>
          rw [evalExpr] at h
          obtain h | ⟨first, w₁, hleft, h⟩ := Eval.fails_bind.mp (hcheck h)
          · exact .inr ⟨_, w, .logicalLeft hw, h⟩
          -- the right operand decides if the operator is `and` exactly where the left one is true
          have hright (hneeded : op = .and ↔ first.single.isTruthy)
              (h : (evalExpr hosts nested frame scope right >>= fun v => pure v.single).Fails w₁
                fault) :
              ∃ part w', (Code.expr (.logical op left right loc)).Enters hosts nested frame scope w
                part w' ∧ part.Fails hosts nested frame scope w' fault := by
            obtain h | ⟨_, _, _, h⟩ := Eval.fails_bind.mp h
            · exact ⟨_, w₁, .logicalRight hw hleft hneeded, h⟩
            · exact absurd h Eval.not_fails_pure
          cases op <;> cases htruthy : first.single.isTruthy <;>
            simp only [htruthy, Bool.false_eq_true, if_true, if_false] at h <;>
            first
              | exact absurd h Eval.not_fails_pure
              | exact .inr (hright (by simp [htruthy]) h)
      | binary op left right loc =>
          rw [evalExpr] at h
          obtain h | ⟨a, w₁, hleft, h⟩ := Eval.fails_bind.mp (hcheck h)
          · exact .inr ⟨_, w, .binaryLeft hw, h⟩
          obtain h | ⟨b, w₂, hright, h⟩ := Eval.fails_bind.mp h
          · exact .inr ⟨_, w₁, .binaryRight hw hleft, h⟩
          · exact .inl (.binary hw hleft hright (Eval.fails_liftFault.mp h))
      | unary op operand loc =>
          rw [evalExpr] at h
          obtain h | ⟨v, w₁, hoperand, h⟩ := Eval.fails_bind.mp (hcheck h)
          · exact .inr ⟨_, w, .unary hw, h⟩
          · exact .inl (.unary hw hoperand (Eval.fails_liftFault.mp h))
      | tableConstructor fields loc =>
          rw [evalExpr] at h
          obtain h | ⟨slots, w₁, -, h⟩ := Eval.fails_bind.mp (hcheck h)
          · exact .inr ⟨_, w, .tableConstructor hw, h⟩
          · obtain ⟨_, hrun⟩ := h
            cases hrun
      | bare loc =>
          rw [evalExpr] at h
          rw [Eval.fails_throw.mp (hcheck h)]
          exact .inl (.bare hw)

/-- What fails does so on its own account or because of a part. -/
theorem Code.fails_cases {code : Code} {w : World σ} {fault : Fault}
    (h : code.Fails hosts nested frame scope w fault) :
    code.Raises hosts nested frame scope w fault ∨
      ∃ part w', code.Enters hosts nested frame scope w part w' ∧
        part.Fails hosts nested frame scope w' fault := by
  cases code with
  | expr e => exact Expr.fails_cases h
  | args es =>
      cases es with
      | nil => exact absurd h Eval.not_fails_pure
      | cons arg rest =>
          rw [Fails, evalArgs] at h
          obtain h | ⟨value, w₁, hfirst, h⟩ := Eval.fails_bind.mp h
          · exact .inr ⟨_, w, .firstArg, h⟩
          cases rest with
          | nil =>
              rw [if_pos List.isEmpty_nil] at h
              split at h <;> exact absurd h Eval.not_fails_pure
          | cons next rest =>
              obtain h | ⟨_, _, _, h⟩ := Eval.fails_bind.mp h
              · exact .inr ⟨_, w₁, .laterArgs (List.cons_ne_nil _ _) hfirst, h⟩
              · exact absurd h Eval.not_fails_pure
  | fields fs slots position =>
      cases fs with
      | nil => exact absurd h Eval.not_fails_pure
      | cons field rest =>
          obtain ⟨_ | key, e⟩ := field
          · rw [Fails, evalFields] at h
            obtain h | ⟨value, w₁, hvalue, h⟩ := Eval.fails_bind.mp h
            · exact .inr ⟨_, w, .fieldValue, h⟩
            obtain h | ⟨slots', w₂, hassign, h⟩ := Eval.fails_bind.mp h
            · obtain ⟨why, hwhy, -⟩ := Eval.fails_liftTable.mp h
              exact absurd hwhy assignPositions_ne_error
            cases rest with
            | nil => exact absurd h Eval.not_fails_pure
            | cons next rest =>
                obtain ⟨hslots, rfl⟩ := Eval.run_liftTable_eq_ok.mp hassign
                exact .inr ⟨_, w₁, .laterFields (List.cons_ne_nil _ _) hvalue hslots, h⟩
          · rw [Fails, evalFields] at h
            obtain h | ⟨value, w₁, hvalue, h⟩ := Eval.fails_bind.mp h
            · exact .inr ⟨_, w, .fieldValue, h⟩
            obtain h | ⟨keyValue, w₂, hkey, h⟩ := Eval.fails_bind.mp h
            · exact .inr ⟨_, w₁, .fieldKey hvalue, h⟩
            obtain h | ⟨slots', w₃, hassign, h⟩ := Eval.fails_bind.mp h
            · exact .inl (.field hvalue hkey h)
            · exact .inr ⟨_, w₃, .laterKeyedFields hvalue hkey hassign, h⟩

/-! ### The part that fails -/

/-- How much there is to evaluate. -/
noncomputable def Code.size : Code → Nat
  | .expr e => sizeOf e
  | .args es => sizeOf es
  | .fields fs _ _ => sizeOf fs

theorem Code.Enters.size_lt {code part : Code} {w w' : World σ}
    (h : code.Enters hosts nested frame scope w part w') : part.size < code.size := by
  cases h <;> simp only [Code.size] <;> simp <;> omega

variable (hosts nested frame scope) in
/-- The evaluation comes to a part, in a world that the parts before it leave. -/
def Code.Reaches (code : Code) (w : World σ) (part : Code) (w' : World σ) : Prop :=
  Relation.ReflTransGen
    (fun x y : Code × World σ => x.1.Enters hosts nested frame scope x.2 y.1 y.2) (code, w)
    (part, w')

/-- What fails does so because of a part that fails on its own account, and nothing catches the
fault of a part. -/
theorem Code.fails_iff {code : Code} {w : World σ} {fault : Fault} :
    code.Fails hosts nested frame scope w fault ↔
      ∃ part w', code.Reaches hosts nested frame scope w part w' ∧
        part.Raises hosts nested frame scope w' fault := by
  constructor
  · -- by induction on how much there is to evaluate
    intro h
    induction hsize : code.size using Nat.strongRecOn generalizing code w with
    | ind size ih =>
        subst hsize
        obtain h | ⟨part, w', henters, h⟩ := fails_cases h
        · exact ⟨code, w, .refl, h⟩
        · obtain ⟨last, w'', hreaches, hraises⟩ := ih _ henters.size_lt h rfl
          exact ⟨last, w'', .head henters hreaches, hraises⟩
  · rintro ⟨part, w', hreaches, hraises⟩
    have hfails := hraises.fails
    rw [Reaches] at hreaches
    generalize hlast : (part, w') = last at hreaches
    generalize hfirst : (code, w) = first at hreaches
    induction hreaches using Relation.ReflTransGen.head_induction_on generalizing code w with
    | refl =>
        cases hlast
        cases hfirst
        exact hfails
    | head henters _ ih =>
        cases hfirst
        exact henters.fails (ih rfl)

/-! ### What the fault says -/

/-- Where a part stands, a keyed field where its key does. -/
def Code.loc : Code → Option Location
  | .expr e => e.loc
  | .fields ((some key, _) :: _) _ _ => key.loc
  | _ => none

theorem Code.Raises.blames {globals : Bindings} (hglobals : frame.globals = some globals)
    {code : Code} {w : World σ} {fault : Fault} (h : code.Raises hosts nested frame scope w fault) :
    (∃ reason, w.cancellation = some reason ∧
        fault = .runtime (.cancelled reason) .cancelled frame.source none) ∨
      frame.Blames code.loc fault ∨
      (∃ why, code.LetsThrough why ∧ fault = .host why) ∨
      ∃ e, code = .expr e ∧ ∃ f args w', e.Calls hosts nested frame scope w f args w' ∧
        f.Passes hosts nested frame args w' fault := by
  have hcall {e : Expr} {fn : Value} {args : List Value} {subject : Subject} {w w' : World σ}
      (hcalls : ∀ f, fn = .function f → e.Calls hosts nested frame scope w f args w')
      (h : (callValue hosts nested frame fn args e.loc subject).Fails w' fault) :
      frame.Blames e.loc fault ∨ ∃ f args w'', e.Calls hosts nested frame scope w f args w'' ∧
        f.Passes hosts nested frame args w'' fault := by
    obtain ⟨-, hfault⟩ | ⟨f, cause, hf, hrun, hfault⟩ := fails_callValue.mp h
    · exact .inl ⟨_, hfault⟩
    · cases cause with
      | host why => exact .inl ⟨_, hfault⟩
      | _ =>
          obtain ⟨why, hwhy⟩ | hpasses := Function.passes_of_fails hglobals hrun
          · cases hwhy
          · exact .inr ⟨f, args, w', hcalls f hf, hfault ▸ hpasses⟩
  cases h with
  | cancelled hw => exact .inl ⟨_, hw, rfl⟩
  | index hw hobject hkey h =>
      exact .inr ((Operators.blames_of_index _ _ h).imp_right .inl)
  | method hw hobject h => exact .inr (.inl (Operators.blames_of_index_str h))
  | binary hw hleft hright h =>
      exact .inr ((Operators.blames_of_binary _ _ h).imp_right .inl)
  | unary hw hoperand h => exact .inr (.inl (Operators.blames_of_unary h))
  | bare hw => exact .inr (.inl ⟨_, rfl⟩)
  | field hvalue hkey h =>
      obtain h | ⟨refusal, rfl⟩ := blames_of_assignField h
      · exact .inr (.inl h)
      · exact .inr (.inr (.inl ⟨_, ⟨refusal, rfl⟩, rfl⟩))
  | call hw hfunction hvalues h =>
      obtain h | hpasses := hcall (fun f hf => .call hw hfunction hvalues hf) h
      · exact .inr (.inl h)
      · exact .inr (.inr (.inr ⟨_, rfl, hpasses⟩))
  | methodCall hw hobject hfunction hvalues h =>
      obtain h | hpasses := hcall (fun f hf => .methodCall hw hobject hfunction hvalues hf) h
      · exact .inr (.inl h)
      · exact .inr (.inr (.inr ⟨_, rfl, hpasses⟩))

/-- Behind a fault lies that a text would hold the half of a surrogate pair, with which the host
goes on. -/
def Fault.BeyondTexts (fault : Fault) : Prop :=
  ∃ code, fault.RestsOn (.surrogate code)

/-- An expression fails exactly if a part of it that its evaluation comes to fails on its own
account, with the same fault. That is a cancellation or names the place of the part, both with the
text of the frame, but for the faults of the host that operators, indices and fields let through,
and for those that a called function raises as faults of the language. Nothing is said of what
follows where a text would hold the half of a surrogate pair. -/
theorem evalExpr_fails_iff {globals : Bindings} (hglobals : frame.globals = some globals) (e : Expr)
    (w : World σ) : ∀ fault : Fault, ¬ fault.BeyondTexts →
    ((evalExpr hosts nested frame scope e).Fails w fault ↔
      ∃ part w', (Code.expr e).Reaches hosts nested frame scope w part w' ∧
        part.Raises hosts nested frame scope w' fault) ∧
      ∀ (part : Code) (w' : World σ), part.Raises hosts nested frame scope w' fault →
        (∃ reason, w'.cancellation = some reason ∧
            fault = .runtime (.cancelled reason) .cancelled frame.source none) ∨
          (∃ why, fault = .runtime why .error frame.source part.loc) ∨
          (∃ why, part.LetsThrough why ∧ fault = .host why) ∨
          ∃ e', part = .expr e' ∧ ∃ f args w'', e'.Calls hosts nested frame scope w' f args w'' ∧
            f.Passes hosts nested frame args w'' fault := by
  intro fault _
  have hfails : (Code.expr e).Fails hosts nested frame scope w fault ↔ _ := Code.fails_iff
  exact ⟨hfails, fun _ _ h => h.blames hglobals⟩

theorem evalExpr_fails_iff_operand :
    let hosts : HostFunctions Unit := fun _ _ => pure .nil
    let frame : Frame := ⟨some [], some "1 + nil", none⟩
    let e : Expr := .binary (.arithmetic .add) (.literal (.ofInt 1) none) (.literal .nil none) none
    let w : World Unit := ⟨none, 0, ()⟩
    ∃ part w', (Code.expr e).Reaches hosts (nestedTo hosts 0) frame [] w part w' ∧
      part.Raises hosts (nestedTo hosts 0) frame [] w' (frame.fault (.arithmetic "nil") none) := by
  intro hosts frame e w
  have hglobals : frame.globals = some [] := rfl
  have hfault : ¬ (frame.fault (.arithmetic "nil") none).BeyondTexts := by
    rintro ⟨code, ⟨⟩⟩
  exact (evalExpr_fails_iff hglobals e w _ hfault).1.mp ⟨w, rfl⟩

/-- The library function that raises a fault does so outside any frame, and an index lets faults of
the host through: that of a list, and that of a parsed integer of one digit more than can be
written. -/
theorem evalExpr_fails_unblamed :
    let hosts : HostFunctions Unit := fun _ _ => pure .nil
    let frame : Frame := ⟨some [], some "text", none⟩
    let scope : ScopeChain := [[("error", .function (.member (.plain .error) 0)), ("x", .list []),
      ("parsed", .expression (.literal (.ofInt (10 ^ digitLimit)) none))]]
    let w : World Unit := ⟨none, 0, ()⟩
    let indexed (name : String) : Expr :=
      .index (.tableConstructor [] none) (.variable name none) none
    (∃ fault, (evalExpr hosts (nestedTo hosts 0) frame scope
        (.call (.variable "error" none) [.literal (.str "boom") none] none)).Fails w fault ∧
      ∀ why kind loc, fault ≠ .runtime why kind frame.source loc) ∧
    (evalExpr hosts (nestedTo hosts 0) frame scope (indexed "x")).Fails w
      (.host (.unhashable "list")) ∧
    (evalExpr hosts (nestedTo hosts 0) frame scope (indexed "parsed")).Fails w
      (.host .tooManyDigits) := by
  intro hosts frame scope w indexed
  have hlong : (Value.ofInt (10 ^ digitLimit)).isWritable = false :=
    Value.isWritable_of_long Value.digitLimit_lt_length_power
  let parsed : Value := .expression (.literal (.ofInt (10 ^ digitLimit)) none)
  have hkey : parsed.slotKey.unhashable? = some .tooManyDigits := by
    simp only [parsed, Value.slotKey, Value.unhashable?, Expr.isWritable, hlong]
    rfl
  have hslot : Operators.slot [] parsed = .error (.host .tooManyDigits) := by
    rw [Operators.slot, Slots.read, Value.asKey, hkey]
    rfl
  have hraises : (Code.expr (indexed "parsed")).Raises hosts (nestedTo hosts 0) frame scope w
      (.host .tooManyDigits) :=
    .index rfl rfl rfl hslot
  have hraised (why : RuntimeFault) (kind : FaultKind) (loc : Option Location) :
      Fault.plain (.raised "boom") ≠ .runtime why kind frame.source loc := by
    intro heq
    cases heq
  exact ⟨⟨.plain (.raised "boom"), ⟨_, rfl⟩, hraised⟩, ⟨_, rfl⟩, hraises.fails⟩

end TemplateScript
