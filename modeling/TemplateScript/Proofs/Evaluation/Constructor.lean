import TemplateScript.Proofs.Evaluation.Renumbering
import TemplateScript.Proofs.Evaluation.Run
import TemplateScript.Proofs.Value.HostForm

/-!
# Table constructors

The fields of a table are assigned in turn to slots that were empty, those without a key to the
positions from one on. So what a constructor makes is made by assignments, and fields whose keys
differ stay in their order.
-/

namespace TemplateScript

variable {σ : Type}

/-! ### Fields are assignments -/

namespace Slots

theorem assignAll_append (slots fields more : Slots) :
    slots.assignAll (fields ++ more) = slots.assignAll fields >>= (assignAll · more) := by
  induction fields generalizing slots with
  | nil => rfl
  | cons field rest ih =>
      rw [List.cons_append, assignAll, assignAll]
      cases slots.assign field.1 field.2 with
      | error why => rfl
      | ok assigned => exact ih assigned

end Slots

/-- Items under their positions, of which this is the first. -/
def positioned (position : Nat) (items : List Value) : Slots :=
  (items.zipIdx position).map fun item => (.ofInt item.2, item.1)

theorem assignPositions_eq_assignAll (slots : Slots) (position : Nat) (items : List Value) :
    assignPositions slots position items = slots.assignAll (positioned position items) := by
  induction items generalizing slots position with
  | nil => rfl
  | cons item rest ih =>
      rw [assignPositions, positioned, List.zipIdx_cons, List.map_cons, Slots.assignAll]
      cases slots.assign (.ofInt position) item with
      | error why => rfl
      | ok assigned => exact ih assigned (position + 1)

section

variable {hosts : HostFunctions σ} {nested : Nested σ} {frame : Frame} {scope : ScopeChain}
  {fields : List (Option Expr × Expr)}

theorem assignField_eq_ok {slots assigned : Slots} {key value : Value} {loc : Option Location}
    {w w' : World σ} (h : (assignField frame slots key value loc).run w = (.ok assigned, w')) :
    slots.assign key value = .ok assigned ∧ w = w' := by
  cases key with
  | nil => cases h
  | number n =>
      rw [assignField] at h
      split at h
      · cases h
      · exact Eval.run_liftTable_eq_ok.mp h
  | _ => exact Eval.run_liftTable_eq_ok.mp h

theorem evalFields_positional (e : Expr) (rest : List (Option Expr × Expr)) (slots : Slots)
    (position : Nat) :
    evalFields hosts nested frame scope ((none, e) :: rest) slots position = (do
      let value ← evalExpr hosts nested frame scope e
      let slots ← Eval.liftTable (assignPositions slots position (value.spread rest.isEmpty))
      evalFields hosts nested frame scope rest slots (position + 1)) := by
  rw [evalFields]
  rfl

/-- What a value has that an expression among the fields may come to, each assigned value has. -/
theorem evalFields_eq_ok {p : Value → Prop}
    (hfields : ∀ field ∈ fields, ∀ (w : World σ) v w',
      (evalExpr hosts nested frame scope field.2).run w = (.ok v, w') →
        ∀ last, ∀ item ∈ v.spread last, p item)
    {slots assigned : Slots} {position : Nat} {w w' : World σ}
    (h : (evalFields hosts nested frame scope fields slots position).run w = (.ok assigned, w')) :
    ∃ made : Slots, slots.assignAll made = .ok assigned ∧ ∀ field ∈ made, p field.2 := by
  induction fields generalizing slots position w with
  | nil =>
      rw [evalFields] at h
      cases h
      exact ⟨[], rfl, List.forall_mem_nil _⟩
  | cons field rest ih =>
      obtain ⟨hfirst, hrest⟩ := List.forall_mem_cons.mp hfields
      obtain ⟨_ | key, e⟩ := field
      · rw [evalFields_positional] at h
        obtain ⟨value, w₁, hvalue, h⟩ := Faulting.run_bind_eq_ok.mp h
        obtain ⟨middle, w₂, hassign, h⟩ := Faulting.run_bind_eq_ok.mp h
        obtain ⟨hassigned, -⟩ := Eval.run_liftTable_eq_ok.mp hassign
        rw [assignPositions_eq_assignAll] at hassigned
        obtain ⟨made, hmade, hcontents⟩ := ih hrest h
        refine ⟨positioned position (value.spread rest.isEmpty) ++ made, ?_,
          List.forall_mem_append.mpr ⟨fun field hfield => ?_, hcontents⟩⟩
        · rw [Slots.assignAll_append, hassigned]
          exact hmade
        · obtain ⟨⟨item, place⟩, hitem, rfl⟩ := List.mem_map.mp hfield
          have hspread : item ∈ value.spread rest.isEmpty := List.fst_mem_of_mem_zipIdx hitem
          exact hfirst w value w₁ hvalue _ item hspread
      · rw [evalFields] at h
        obtain ⟨value, w₁, hvalue, h⟩ := Faulting.run_bind_eq_ok.mp h
        obtain ⟨keyValue, w₂, -, h⟩ := Faulting.run_bind_eq_ok.mp h
        obtain ⟨middle, w₃, hassign, h⟩ := Faulting.run_bind_eq_ok.mp h
        obtain ⟨hassigned, -⟩ := assignField_eq_ok hassign
        obtain ⟨made, hmade, hcontents⟩ := ih hrest h
        refine ⟨(keyValue.single, value.single) :: made, ?_, List.forall_mem_cons.mpr
          ⟨hfirst w value w₁ hvalue false _ (List.mem_singleton.mpr rfl), hcontents⟩⟩
        rw [Slots.assignAll, hassigned]
        exact hmade

/-- What a table constructor makes of values that constructors made is one of them. -/
theorem constructed_of_evalExpr {loc : Option Location}
    (hfields : ∀ field ∈ fields, ∀ (w : World σ) v w',
      (evalExpr hosts nested frame scope field.2).run w = (.ok v, w') →
        ∀ last, ∀ item ∈ v.spread last, item.Constructed)
    {v : Value} {w w' : World σ}
    (h : (evalExpr hosts nested frame scope (.tableConstructor fields loc)).run w = (.ok v, w')) :
    v.Constructed := by
  rw [evalExpr] at h
  obtain ⟨-, w₁, -, h⟩ := Faulting.run_bind_eq_ok.mp h
  obtain ⟨slots, w₂, hslots, h⟩ := Faulting.run_bind_eq_ok.mp h
  obtain ⟨made, hmade, hcontents⟩ := evalFields_eq_ok hfields hslots
  cases h
  exact .table _ hcontents hmade

/-! ### Fields in their order -/

variable (hosts nested frame scope)

/-- Where nothing is cancelled the expression comes to a value with the host's form of this one, and
nothing happens but that tables are made. -/
def Rebuilds (e : Expr) (v : Value) : Prop :=
  ∀ w : World σ, w.cancellation = none → ∃ built next,
    (evalExpr hosts nested frame scope e).run w = (.ok built, { w with nextTable := next }) ∧
      built.toHost = v.toHost

/-- Where nothing is cancelled the expression comes to the value, and nothing happens. -/
def EvaluatesTo (e : Expr) (v : Value) : Prop :=
  ∀ w : World σ, w.cancellation = none → (evalExpr hosts nested frame scope e).run w = (.ok v, w)

variable {hosts nested frame scope}

theorem evaluatesTo_literal (v : Value) (loc : Option Location) :
    EvaluatesTo hosts nested frame scope (.literal v loc) v := by
  intro w hw
  rw [evalExpr, Faulting.run_bind_of_ok (Eval.run_checkCancelled_of_none hw)]
  rfl

theorem EvaluatesTo.neg {e : Expr} {n : Number}
    (h : EvaluatesTo hosts nested frame scope e (.number n)) (loc : Option Location) :
    EvaluatesTo hosts nested frame scope (.unary .neg e loc) (.number n.neg) := by
  intro w hw
  rw [evalExpr, Faulting.run_bind_of_ok (Eval.run_checkCancelled_of_none hw),
    Faulting.run_bind_of_ok (h w hw)]
  rfl

theorem EvaluatesTo.rebuilds {e : Expr} {v : Value} (h : EvaluatesTo hosts nested frame scope e v) :
    Rebuilds hosts nested frame scope e v :=
  fun w hw => ⟨v, w.nextTable, h w hw, rfl⟩

section

variable {value built : Value} {slots done assigned : Slots} {position : Nat}

/-- A value that fills one slot wherever it stands among the fields. -/
def Value.isItem : Value → Bool
  | .nil | .multi _ => false
  | _ => true

theorem Value.isItem_toHost (v : Value) : v.toHost.isItem = v.isItem := by
  cases v with
  | table id slots =>
      rw [toHost]
      split <;> rfl
  | _ => rfl

theorem Value.isItem_of_toHost_eq (h : built.toHost = value.toHost) (hvalue : value.isItem) :
    built.isItem := by
  rw [← isItem_toHost, h, isItem_toHost, hvalue]

theorem Value.spread_of_isItem (h : value.isItem) (last : Bool) : value.spread last = [value] := by
  cases last <;> cases value <;> first | rfl | cases h

theorem Value.single_of_isItem (h : value.isItem) : value.single = value :=
  (List.cons.inj (spread_of_isItem h false)).1

theorem Value.ne_nil_of_isItem (h : value.isItem) : value ≠ .nil := by
  rintro rfl
  cases h

theorem assignField_of_isKey {key : Value} (h : key.isKey) (slots : Slots) (value : Value)
    (loc : Option Location) :
    (assignField frame slots key value loc : Eval σ Slots) =
      Eval.liftTable (slots.assign key value) := by
  cases key with
  | number n =>
      have hnan : n.isNan = false := by simpa [Value.isKey] using h
      rw [assignField, hnan]
      rfl
  | nil => cases h
  | _ => rfl

theorem Value.isItem_of_isKey {key : Value} (h : key.isKey) : key.isItem := by
  cases key <;> first | rfl | cases h

/-- A field with a key that is not there yet puts its value at the end of the slots. -/
theorem run_evalFields_keyed {key e : Expr} {k : Value} {rest : List (Option Expr × Expr)}
    {w : World σ} (hw : w.cancellation = none) (hkey : EvaluatesTo hosts nested frame scope key k)
    (hisKey : k.isKey) (hvalue : Rebuilds hosts nested frame scope e value) (hitem : value.isItem)
    (hregular : Slots.Regular (done ++ [(k, value)])) :
    ∃ built next, built.toHost = value.toHost ∧
      (evalFields hosts nested frame scope ((some key, e) :: rest) done position).run w =
        (evalFields hosts nested frame scope rest (done ++ [(k, built)]) position).run
          { w with nextTable := next } := by
  obtain ⟨built, next, hrun, hbuilt⟩ := hvalue w hw
  have hbuiltItem : built.isItem := Value.isItem_of_toHost_eq hbuilt hitem
  have hassign : done.assign k built = .ok (done ++ [(k, built)]) := by
    have hkeys : (done ++ [(k, built)]).map Prod.fst = (done ++ [(k, value)]).map Prod.fst := by
      rw [List.map_append, List.map_append]
      rfl
    exact (hregular.of_keys hkeys).assign_snoc hisKey (Value.ne_nil_of_isItem hbuiltItem)
  have hkeyRun := hkey { w with nextTable := next } hw
  refine ⟨built, next, hbuilt, ?_⟩
  rw [evalFields, Faulting.run_bind_of_ok hrun, Faulting.run_bind_of_ok hkeyRun,
    Value.single_of_isItem (Value.isItem_of_isKey hisKey), Value.single_of_isItem hbuiltItem,
    assignField_of_isKey hisKey, hassign]
  rfl

/-- A field without a key puts its value at the next position. -/
theorem run_evalFields_positional {e : Expr} {items : List Value}
    {rest : List (Option Expr × Expr)} {w : World σ} (hw : w.cancellation = none)
    (hvalue : Rebuilds hosts nested frame scope e value) (hitem : value.isItem) :
    ∃ built next, built.toHost = value.toHost ∧
      (evalFields hosts nested frame scope ((none, e) :: rest) (Slots.ofList items)
          (items.length + 1)).run w =
        (evalFields hosts nested frame scope rest (Slots.ofList (items ++ [built]))
          (items.length + 1 + 1)).run { w with nextTable := next } := by
  obtain ⟨built, next, hrun, hbuilt⟩ := hvalue w hw
  have hbuiltItem : built.isItem := Value.isItem_of_toHost_eq hbuilt hitem
  have hassign : assignPositions (Slots.ofList items) (items.length + 1) [built] =
      .ok (Slots.ofList (items ++ [built])) := by
    rw [assignPositions, Value.assign_ofList]
    rfl
  refine ⟨built, next, hbuilt, ?_⟩
  rw [evalFields_positional, Faulting.run_bind_of_ok hrun, Value.spread_of_isItem hbuiltItem,
    hassign]
  rfl

section

variable {f g : Value → Expr} {slots built : Slots} {items : List Value}

/-- Fields with keys that differ fill slots in their order. -/
theorem evalFields_keyed
    (hkeys : ∀ slot ∈ slots, slot.1.isKey ∧ EvaluatesTo hosts nested frame scope (f slot.1) slot.1)
    (hcontents : ∀ slot ∈ slots,
      slot.2.isItem ∧ Rebuilds hosts nested frame scope (g slot.2) slot.2)
    (hregular : Slots.Regular (done ++ slots))
    (hdone : Value.toHostSlots built = Value.toHostSlots done) (position : Nat) {w : World σ}
    (hw : w.cancellation = none) :
    ∃ made next, (evalFields hosts nested frame scope
        (slots.map fun slot => (some (f slot.1), g slot.2)) built position).run w =
          (.ok made, { w with nextTable := next }) ∧
      Value.toHostSlots made = Value.toHostSlots (done ++ slots) := by
  induction slots generalizing done built w with
  | nil =>
      refine ⟨built, w.nextTable, ?_, by rw [List.append_nil, hdone]⟩
      rw [List.map_nil, evalFields]
      rfl
  | cons slot rest ih =>
      obtain ⟨⟨hkey, hgives⟩, hkeys⟩ := List.forall_mem_cons.mp hkeys
      obtain ⟨⟨hitem, hrebuilds⟩, hcontents⟩ := List.forall_mem_cons.mp hcontents
      rw [List.append_cons] at hregular ⊢
      have hfront : Slots.Regular (built ++ [(slot.1, slot.2)]) := by
        refine (hregular.sublist (List.sublist_append_left _ _)).of_keys ?_
        have hsame := congrArg (List.map Prod.fst) hdone
        rw [Value.toHostSlots_eq_map, Value.toHostSlots_eq_map, List.map_map, List.map_map] at hsame
        rw [List.map_append, List.map_append]
        exact congrArg (· ++ [slot.1]) hsame
      obtain ⟨value, next, hvalue, hrun⟩ :=
        run_evalFields_keyed hw hgives hkey hrebuilds hitem hfront
      have hmore : Value.toHostSlots (built ++ [(slot.1, value)]) =
          Value.toHostSlots (done ++ [slot]) := by
        rw [Value.toHostSlots_eq_map, Value.toHostSlots_eq_map] at hdone ⊢
        rw [List.map_append, List.map_append, hdone, List.map_singleton, hvalue]
        rfl
      rw [List.map_cons, hrun]
      exact ih hkeys hcontents hregular hmore hw

/-- Fields without keys fill the positions in their order. -/
theorem evalFields_ofList
    (hcontents : ∀ item ∈ items, item.isItem ∧ Rebuilds hosts nested frame scope (g item) item)
    (before : List Value) {w : World σ} (hw : w.cancellation = none) :
    ∃ made next, (evalFields hosts nested frame scope (items.map fun item => (none, g item))
        (Slots.ofList before) (before.length + 1)).run w =
          (.ok (Slots.ofList (before ++ made)), { w with nextTable := next }) ∧
      made.map Value.toHost = items.map Value.toHost := by
  induction items generalizing before w with
  | nil =>
      refine ⟨[], w.nextTable, ?_, rfl⟩
      rw [List.map_nil, evalFields, List.append_nil]
      rfl
  | cons item rest ih =>
      obtain ⟨⟨hitem, hrebuilds⟩, hcontents⟩ := List.forall_mem_cons.mp hcontents
      obtain ⟨value, next, hvalue, hrun⟩ := run_evalFields_positional hw hrebuilds hitem
      have hlater : { w with nextTable := next }.cancellation = none := hw
      obtain ⟨made, last, hrest, hmade⟩ := ih hcontents (before ++ [value]) hlater
      refine ⟨value :: made, last, ?_, ?_⟩
      · rw [List.length_append, List.length_singleton] at hrest
        rw [List.map_cons, hrun, hrest, List.append_assoc, List.singleton_append]
      · rw [List.map_cons, List.map_cons, hvalue, hmade]

theorem rebuilds_tableConstructor {loc : Option Location}
    (h : ∀ w : World σ, w.cancellation = none → ∃ made next,
      (evalFields hosts nested frame scope fields [] 1).run w =
        (.ok made, { w with nextTable := next }) ∧
      ∀ number, (Value.table number made).toHost = value.toHost) :
    Rebuilds hosts nested frame scope (.tableConstructor fields loc) value := by
  intro w hw
  obtain ⟨made, next, hrun, hmade⟩ := h w hw
  refine ⟨.table next made, next + 1, ?_, hmade next⟩
  rw [evalExpr, Faulting.run_bind_of_ok (Eval.run_checkCancelled_of_none hw),
    Faulting.run_bind_of_ok hrun]
  rfl

/-- A table whose keys differ is made again with its keys in their order. -/
theorem rebuilds_keyed
    (hkeys : ∀ slot ∈ slots, slot.1.isKey ∧ EvaluatesTo hosts nested frame scope (f slot.1) slot.1)
    (hcontents : ∀ slot ∈ slots,
      slot.2.isItem ∧ Rebuilds hosts nested frame scope (g slot.2) slot.2)
    (hregular : slots.Regular) (number : Nat) (loc : Option Location) :
    Rebuilds hosts nested frame scope
      (.tableConstructor (slots.map fun slot => (some (f slot.1), g slot.2)) loc)
      (.table number slots) := by
  refine rebuilds_tableConstructor fun w hw => ?_
  obtain ⟨made, next, hrun, hmade⟩ := evalFields_keyed hkeys hcontents
    (List.nil_append slots ▸ hregular) rfl 1 hw
  refine ⟨made, next, hrun, fun number => ?_⟩
  rw [Value.toHost, Value.toHost, hmade, List.nil_append]

/-- A sequence is made again from its items. -/
theorem rebuilds_sequence (hsequence : isSequence slots)
    (hcontents : ∀ item ∈ sequenceOf slots,
      item.isItem ∧ Rebuilds hosts nested frame scope (g item) item)
    (number : Nat) (loc : Option Location) :
    Rebuilds hosts nested frame scope
      (.tableConstructor ((sequenceOf slots).map fun item => (none, g item)) loc)
      (.table number slots) := by
  refine rebuilds_tableConstructor fun w hw => ?_
  obtain ⟨made, next, hrun, hmade⟩ := evalFields_ofList hcontents [] hw
  have hitems : ∀ item ∈ made, item ≠ .nil := by
    intro item hitem
    have hform : item.toHost ∈ (sequenceOf slots).map Value.toHost :=
      hmade ▸ List.mem_map_of_mem hitem
    obtain ⟨old, hold, hsame⟩ := List.mem_map.mp hform
    exact Value.ne_nil_of_isItem (Value.isItem_of_toHost_eq hsame.symm (hcontents old hold).1)
  refine ⟨Slots.ofList made, next, hrun, fun number => ?_⟩
  rw [Value.toHost_ofList hitems, hmade, Value.toHost_table, if_pos hsequence]

end

end

end

end TemplateScript
