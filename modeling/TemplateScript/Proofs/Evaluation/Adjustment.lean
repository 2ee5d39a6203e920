import TemplateScript.Library.Environment
import TemplateScript.Proofs.Evaluation.Blame
import TemplateScript.Proofs.Evaluation.Constructor

/-!
# Several results in lists of expressions

A list of expressions is evaluated to the same values whether it is that of the arguments of a call
or that of the positional fields of a table: each expression counts as one value, but the last one
as all its results. The two go through their lists apart, the arguments from the back and the fields
with a position that counts on; after some fields the slots are those of the values so far, so the
position is always that of the next value.
-/

namespace TemplateScript

variable {σ : Type}

/-- What a list of expressions with these results counts as: each as its first result, and the last
as all of them. -/
def adjusted (results : List Value) : List Value :=
  results.dropLast.map Value.single ++ (results.getLast?.elim [] (Value.spread true))

theorem adjusted_cons (first : Value) (results : List Value) :
    adjusted (first :: results) = first.spread results.isEmpty ++ adjusted results := by
  cases results with
  | nil => exact (List.append_nil _).symm
  | cons next rest => rfl

theorem assignPositions_ofList (before items : List Value) :
    assignPositions (Slots.ofList before) (before.length + 1) items =
      .ok (Slots.ofList (before ++ items)) := by
  induction items generalizing before with
  | nil => rw [assignPositions, List.append_nil]
  | cons item rest ih =>
      have hlater := ih (before ++ [item])
      rw [List.length_append, List.length_singleton, List.append_assoc,
        List.singleton_append] at hlater
      rw [assignPositions, Value.assign_ofList]
      exact hlater

/-! ### The slots of values -/

theorem Slots.mem_ofList {values : List Value} {slot : Value × Value} :
    slot ∈ Slots.ofList values ↔
      ∃ i : Nat, values[i]? = some slot.2 ∧ slot.2 ≠ .nil ∧ slot.1 = .ofInt (i + 1 : Nat) := by
  have hposition (i : Nat) : (1 : Int) + i = (i + 1 : Nat) := by omega
  simp only [Slots.ofList, Value.mem_ofListFrom, hposition]

theorem Slots.read_ofList_eq_some {values : List Value} {i : Nat} {value : Value} :
    (Slots.ofList values).read (.ofInt (i + 1 : Nat)) = .ok (some value) ↔
      values[i]? = some value ∧ value ≠ .nil := by
  have hregular : (Slots.ofList values).Regular := Value.regular_ofListFrom values 1
  rw [Slots.read_ofInt hregular.hashable, Except.ok.injEq, Value.slotAt?_ofList_eq_some]
  refine ⟨fun ⟨j, hj, hfound⟩ => ?_, fun hfound => ⟨i, rfl, hfound⟩⟩
  obtain rfl : i = j := by omega
  exact hfound

/-! ### Lists of expressions -/

section

variable {hosts : HostFunctions σ} {nested : Nested σ} {frame : Frame} {scope : ScopeChain}

section

variable (hosts nested frame scope)

/-- The expressions of a list have values one after the other. -/
inductive Expr.GiveInTurn : List Expr → World σ → List Value → World σ → Prop
  | nil {w : World σ} : GiveInTurn [] w [] w
  | cons {e : Expr} {rest : List Expr} {first : Value} {results : List Value}
      {w w₁ w' : World σ} (hfirst : e.Gives hosts nested frame scope w first w₁)
      (hrest : GiveInTurn rest w₁ results w') : GiveInTurn (e :: rest) w (first :: results) w'

end

theorem evalArgs_cons_eq (arg : Expr) (rest : List Expr) :
    evalArgs hosts nested frame scope (arg :: rest) = (do
      let value ← evalExpr hosts nested frame scope arg
      let values ← evalArgs hosts nested frame scope rest
      return value.spread rest.isEmpty ++ values) := by
  rw [evalArgs]
  cases rest with
  | nil =>
      congr 1
      funext value
      rw [evalArgs]
      cases value with
      | multi items => exact congrArg pure (List.append_nil items).symm
      | _ => rfl
  | cons next rest => rfl

theorem Expr.GiveInTurn.isEmpty_eq {es : List Expr} {w : World σ} {results : List Value}
    {w' : World σ} (h : Expr.GiveInTurn hosts nested frame scope es w results w') :
    results.isEmpty = es.isEmpty := by
  cases h <;> rfl

/-- The arguments of a call are what the results in turn count as. -/
theorem run_evalArgs_eq_ok {es : List Expr} {w : World σ} {values : List Value} {w' : World σ} :
    (evalArgs hosts nested frame scope es).run w = (.ok values, w') ↔
      ∃ results, Expr.GiveInTurn hosts nested frame scope es w results w' ∧
        values = adjusted results := by
  induction es generalizing w values w' with
  | nil =>
      rw [evalArgs]
      constructor
      · rintro ⟨⟩
        exact ⟨[], .nil, rfl⟩
      · rintro ⟨_, ⟨⟩, rfl⟩
        rfl
  | cons arg rest ih =>
      rw [evalArgs_cons_eq, Faulting.run_bind_eq_ok]
      constructor
      · rintro ⟨first, w₁, hfirst, h⟩
        obtain ⟨later, w₂, hlater, h⟩ := Faulting.run_bind_eq_ok.mp h
        obtain ⟨results, hrest, rfl⟩ := ih.mp hlater
        cases h
        refine ⟨first :: results, .cons hfirst hrest, ?_⟩
        rw [adjusted_cons, hrest.isEmpty_eq]
      · rintro ⟨_, h, rfl⟩
        cases h with
        | @cons _ _ first results _ w₁ _ hfirst hrest =>
            refine ⟨first, w₁, hfirst, ?_⟩
            rw [Faulting.run_bind_of_ok (ih.mpr ⟨results, hrest, rfl⟩), adjusted_cons,
              hrest.isEmpty_eq]
            rfl

/-- Positional fields fill the positions after those of the values before them with the values that
the arguments of a call would be. -/
theorem evalFields_ofList_eq (es : List Expr) (before : List Value) :
    evalFields hosts nested frame scope (es.map fun e => (none, e)) (Slots.ofList before)
        (before.length + 1) =
      (fun values => Slots.ofList (before ++ values)) <$> evalArgs hosts nested frame scope es := by
  induction es generalizing before with
  | nil => rw [List.map_nil, evalFields, evalArgs, map_pure, List.append_nil]
  | cons e rest ih =>
      rw [List.map_cons, evalFields_positional, evalArgs_cons_eq, map_bind]
      congr 1
      funext value
      rw [List.isEmpty_map, assignPositions_ofList, map_bind]
      simp only [map_pure]
      cases rest with
      | nil =>
          rw [List.map_nil, evalArgs, pure_bind, List.append_nil]
          change evalFields hosts nested frame scope [] _ (before.length + 1 + 1) = _
          rw [evalFields]
      | cons next rest =>
          have hposition : (before ++ [value.single]).length + 1 = before.length + 1 + 1 := by
            rw [List.length_append, List.length_singleton]
          have hrest := ih (before ++ [value.single])
          rw [hposition] at hrest
          refine Eq.trans hrest ?_
          rw [map_eq_pure_bind]
          simp only [List.append_assoc]
          rfl

/-- What a constructor of positional fields makes of the values that would be the arguments. -/
theorem evalExpr_positional (es : List Expr) (loc : Option Location) :
    evalExpr hosts nested frame scope (.tableConstructor (es.map fun e => (none, e)) loc) = (do
      Eval.checkCancelled frame
      Eval.newTable (Slots.ofList (← evalArgs hosts nested frame scope es))) := by
  have hfields : evalFields hosts nested frame scope (es.map fun e => (none, e)) [] 1 = _ :=
    evalFields_ofList_eq es []
  rw [evalExpr]
  congr 1
  funext _
  refine (congrArg (· >>= Eval.newTable) hfields).trans ?_
  rw [map_eq_pure_bind, bind_assoc]
  rfl

theorem run_tableConstructor (es : List Expr) (loc : Option Location) {w : World σ}
    (hw : w.cancellation = none) :
    (evalExpr hosts nested frame scope (.tableConstructor (es.map fun e => (none, e)) loc)).run w =
      (evalArgs hosts nested frame scope es >>= fun values =>
        Eval.newTable (Slots.ofList values)).run w := by
  rw [evalExpr_positional, Faulting.run_bind_of_ok (Eval.run_checkCancelled_of_none hw)]

theorem tableConstructor_fails_iff (es : List Expr) (loc : Option Location) {w : World σ}
    (hw : w.cancellation = none) (fault : Fault) :
    (evalExpr hosts nested frame scope
        (.tableConstructor (es.map fun e => (none, e)) loc)).Fails w fault ↔
      (evalArgs hosts nested frame scope es).Fails w fault := by
  rw [Eval.Fails, run_tableConstructor es loc hw, ← Eval.Fails, Eval.fails_bind]
  refine or_iff_left ?_
  rintro ⟨values, w₁, -, w', hrun⟩
  cases hrun

/-- Where a call gives a function these arguments, the constructor of a table from the same list
holds each argument that is not nil under its number and nothing else; and the constructor fails
where the arguments do. Each expression gives one of the arguments, but the last one all its
results. -/
theorem tableConstructor_of_arguments (hosts : HostFunctions σ) (nested : Nested σ) (frame : Frame)
    (scope : ScopeChain) (es : List Expr) (name : String) (loc₁ loc₂ loc₃ : Option Location)
    {w : World σ} (hw : w.cancellation = none) :
    (∀ f values w', (Expr.call (.variable name loc₁) es loc₂).Calls hosts nested frame scope w f
        values w' →
      ∃ slots : Slots, (Expr.tableConstructor (es.map fun e => (none, e)) loc₃).Gives hosts nested
          frame scope w (.table w'.nextTable slots) { w' with nextTable := w'.nextTable + 1 } ∧
        (∀ slot, slot ∈ slots ↔ ∃ i : Nat,
          values[i]? = some slot.2 ∧ slot.2 ≠ .nil ∧ slot.1 = .ofInt (i + 1 : Nat)) ∧
        (∀ (i : Nat) value, slots.read (.ofInt (i + 1 : Nat)) = .ok (some value) ↔
          values[i]? = some value ∧ value ≠ .nil)) ∧
    (∀ fault, (evalExpr hosts nested frame scope
        (.tableConstructor (es.map fun e => (none, e)) loc₃)).Fails w fault ↔
      (evalArgs hosts nested frame scope es).Fails w fault) ∧
    ∀ values w', (evalArgs hosts nested frame scope es).run w = (.ok values, w') ↔
      ∃ results, Expr.GiveInTurn hosts nested frame scope es w results w' ∧
        values = adjusted results := by
  refine ⟨fun f values w' hcalls => ?_, tableConstructor_fails_iff es loc₃ hw,
    fun values w' => run_evalArgs_eq_ok⟩
  refine ⟨Slots.ofList values, ?_, fun slot => Slots.mem_ofList,
    fun i value => Slots.read_ofList_eq_some⟩
  cases hcalls with
  | call _ hfunction hvalues _ =>
      -- To look the function up changes nothing, so both begin in the same world.
      rw [Expr.Gives, evalExpr, Faulting.run_bind_of_ok (Eval.run_checkCancelled_of_none hw)]
        at hfunction
      cases hfunction
      rw [Expr.Gives, run_tableConstructor es loc₃ hw, Faulting.run_bind_of_ok hvalues]
      rfl

/-- A call among the expressions counts as its first result; the last one counts as all of its
results, of which nil leaves a gap. -/
theorem tableConstructor_of_arguments_select :
    let hosts : HostFunctions Unit := fun _ _ => throw .noGlobals
    let nested : Nested Unit := ⟨fun _ _ _ => throw .noGlobals, fun _ _ _ => throw .noGlobals⟩
    let frame : Frame := ⟨some [], none, none⟩
    let select (items : List Value) : Expr := .call (.variable "select" none)
      ((Value.ofInt 1 :: items).map fun v => .literal v none) none
    let es : List Expr := [select [.str "a", .str "b"], .literal .nil none,
      select [.str "c", .nil, .str "d"]]
    let w : World Unit := ⟨none, 4, ()⟩
    ∃ slots : Slots, (Expr.tableConstructor (es.map fun e => (none, e)) none).Gives hosts nested
        frame [standardEnvironment 0] w (.table 4 slots) ⟨none, 5, ()⟩ ∧
      (Value.ofInt 3, Value.str "c") ∈ slots ∧ (Value.ofInt 5, Value.str "d") ∈ slots ∧
      ∀ value, slots.read (.ofInt 2) ≠ .ok (some value) := by
  intro hosts nested frame select es w
  have hmain := tableConstructor_of_arguments hosts nested frame [standardEnvironment 0] es "type"
    none none none (w := w) rfl
  have hcalls : (Expr.call (.variable "type" none) es none).Calls hosts nested frame
      [standardEnvironment 0] w (.member (.plain .type) 0)
      [.str "a", .nil, .str "c", .nil, .str "d"] w :=
    .call rfl rfl rfl rfl
  obtain ⟨slots, hgives, hslots, hread⟩ := hmain.1 _ _ _ hcalls
  refine ⟨slots, hgives, (hslots _).mpr ⟨2, rfl, nofun, rfl⟩, (hslots _).mpr ⟨4, rfl, nofun, rfl⟩,
    fun value hfound => ?_⟩
  obtain ⟨hitem, hvalue⟩ := (hread 1 value).mp hfound
  cases hitem
  exact hvalue rfl

end

end TemplateScript
