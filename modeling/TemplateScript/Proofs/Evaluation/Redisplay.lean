import TemplateScript.Proofs.Evaluation.Constructor
import TemplateScript.Proofs.Evaluation.Mirroring
import TemplateScript.Proofs.Expr.Displayed
import TemplateScript.Proofs.Library.Display

/-!
# Displayed tables are read back

A table of truth values, integers, texts and such tables shows as a table constructor, in which each
key and each value stands as it would be written. If no key is a word that the host takes for an
identifier and the grammar does not take for a name, then evaluating the text makes a table with the
same form for the host. The proof is by induction on the value, once for what is read and once for
what the expression that was read comes to.
-/

namespace TemplateScript

open Token

namespace Value

/-- A key that shows as it is written: an integer that has a text, or a text that is no identifier
of the host or is a name of the language. -/
def isLegibleKey : Value → Bool
  | .number (.int n) => (integerText? n).isSome
  | .str s => !isIdentifier s.toList || Token.isName s.toList
  | _ => false

/-- A truth value, an integer that has a text, a text, or a table of such values. -/
inductive Legible : Value → Prop
  | bool (b : Bool) : Legible (.bool b)
  | int {n : Int} (h : (integerText? n).isSome) : Legible (.number (.int n))
  | str (s : String) : Legible (.str s)
  | table (number : Nat) {slots : Slots} (hregular : slots.Regular)
      (hkeys : ∀ slot ∈ slots, slot.1.isLegibleKey)
      (hcontents : ∀ slot ∈ slots, Legible slot.2) : Legible (.table number slots)

/-- The key as an expression. -/
def keyExpr : Value → Expr
  | .number (.int n) => integerExpr n
  | key => .literal key none

/-- The fields that slots show as. -/
def fieldsOf (slots : List (Value × Expr)) : List (Option Expr × Expr) :=
  if isSequence slots then (sequenceOf slots).map fun e => (none, e)
  else slots.map fun slot => (some slot.1.keyExpr, slot.2)

mutual

/-- The expression that a value shows as. -/
def shownExpr : Value → Expr
  | .number (.int n) => integerExpr n
  | .table _ slots => .tableConstructor (fieldsOf (shownSlots slots)) none
  | v => .literal v none

def shownSlots : List (Value × Value) → List (Value × Expr)
  | [] => []
  | (key, value) :: rest => (key, value.shownExpr) :: shownSlots rest

end

theorem shownSlots_eq_map (slots : Slots) :
    shownSlots slots = slots.map (Prod.map id shownExpr) := by
  induction slots with
  | nil => rfl
  | cons slot rest ih => rw [shownSlots, ih, List.map_cons]; rfl

theorem fieldsOf_shownSlots (slots : Slots) : fieldsOf (shownSlots slots) =
    if isSequence slots then (sequenceOf slots).map fun v => (none, v.shownExpr)
    else slots.map fun slot => (some slot.1.keyExpr, slot.2.shownExpr) := by
  rw [fieldsOf, isSequence_map (fun _ _ => rfl) (shownSlots_eq_map slots),
    sequenceOf_map (fun _ _ => rfl) (shownSlots_eq_map slots), shownSlots_eq_map, List.map_map,
    List.map_map]
  rfl

variable {v key value : Value}

/-! ### Reading -/

theorem length_le_of_integerText? {n : Int} (h : (integerText? n).isSome) :
    (decimalDigits n.natAbs).length ≤ digitLimit := by
  by_contra hlong
  rw [integerText?, if_neg hlong] at h
  cases h

theorem displaysAs_str (s : String) :
    DisplaysAs ((str s).text .nested) (.literal (.str s) none) := by
  rw [text, stringText]
  exact displaysAs_doubleQuoted s

/-- A key stands for itself, or between brackets as it would be written. -/
theorem fieldDisplaysAs_entryText (hkey : key.isLegibleKey)
    (hvalue : DisplaysAs (value.text .nested) value.shownExpr) :
    FieldDisplaysAs (entryText (key, ⟨key.text .nested, value.text .nested⟩))
      (some key.keyExpr, value.shownExpr) := by
  cases key with
  | number n =>
      cases n with
      | int n => exact .keyed (displaysAs_integerText (length_le_of_integerText? hkey)) hvalue
      | float x => cases hkey
  | str s =>
      dsimp only [entryText, keyText]
      split
      · next hidentifier =>
          have hname : isName s.toList := by simpa [isLegibleKey, hidentifier] using hkey
          exact .named hname hvalue
      · exact .keyed (displaysAs_str s) hvalue
  | _ => cases hkey

theorem Legible.displaysAs (h : v.Legible) : DisplaysAs (v.text .nested) v.shownExpr := by
  induction h with
  | bool b => exact displaysAs_boolText b
  | int h => exact displaysAs_integerText (length_le_of_integerText? h)
  | str s => exact displaysAs_str s
  | @table number slots hregular hkeys _ ih =>
      rw [text, shownExpr, slotsText, isSequence_nestedSlots, contents_sequenceOf_nestedSlots,
        fieldsOf_shownSlots]
      split
      · rw [textList_eq_map]
        refine displaysAs_inBraces
          (List.forall₂_map_left_iff.mpr (List.forall₂_map_right_iff.mpr ?_))
        refine List.forall₂_same.mpr fun item hitem => .positional ?_
        obtain ⟨slot, hslot, rfl⟩ := mem_sequenceOf hitem
        exact ih slot hslot
      · rw [nestedSlots_eq_map, List.map_map]
        refine displaysAs_inBraces
          (List.forall₂_map_left_iff.mpr (List.forall₂_map_right_iff.mpr ?_))
        exact List.forall₂_same.mpr fun slot hslot =>
          fieldDisplaysAs_entryText (hkeys slot hslot) (ih slot hslot)

/-! ### Evaluation -/

section

variable {σ : Type} {hosts : HostFunctions σ} {nested : Nested σ} {frame : Frame}
  {scope : ScopeChain}

theorem evaluatesTo_integerExpr (n : Int) :
    EvaluatesTo hosts nested frame scope (integerExpr n) (.number (.int n)) := by
  rw [integerExpr]
  split
  · next hnegative =>
      have hneg : Number.neg (.int n.natAbs) = .int n := by
        rw [Number.neg, Int.ofNat_natAbs_of_nonpos (Int.le_of_lt hnegative), Int.neg_neg]
      rw [← hneg]
      exact (evaluatesTo_literal _ none).neg none
  · next hnegative =>
      have habs : Value.ofInt n.natAbs = .number (.int n) := by
        rw [Value.ofInt, Int.natAbs_of_nonneg (Int.not_lt.mp hnegative)]
      rw [← habs]
      exact evaluatesTo_literal _ none

theorem isKey_of_isLegibleKey (h : key.isLegibleKey) : key.isKey := by
  cases key with
  | number n =>
      cases n with
      | int n => rfl
      | float x => cases h
  | str s => rfl
  | _ => cases h

theorem evaluatesTo_keyExpr (h : key.isLegibleKey) :
    EvaluatesTo hosts nested frame scope key.keyExpr key := by
  cases key with
  | number n =>
      cases n with
      | int n => exact evaluatesTo_integerExpr n
      | float x => cases h
  | str s => exact evaluatesTo_literal _ none
  | _ => cases h

theorem Legible.isItem (h : v.Legible) : v.isItem := by
  cases h <;> rfl

variable (hosts nested) in
/-- The expression that a value shows as comes to a value with the same form for the host. -/
theorem Legible.rebuilds (h : v.Legible) : Rebuilds hosts nested frame scope v.shownExpr v := by
  induction h with
  | bool b => exact (evaluatesTo_literal _ none).rebuilds
  | @int n _ => exact (evaluatesTo_integerExpr n).rebuilds
  | str s => exact (evaluatesTo_literal _ none).rebuilds
  | @table number slots hregular hkeys hcontents ih =>
      rw [shownExpr, fieldsOf_shownSlots]
      split
      · next hsequence =>
          refine rebuilds_sequence hsequence (fun item hitem => ?_) number none
          obtain ⟨slot, hslot, rfl⟩ := mem_sequenceOf hitem
          exact ⟨(hcontents slot hslot).isItem, ih slot hslot⟩
      · exact rebuilds_keyed
          (fun slot hslot => ⟨isKey_of_isLegibleKey (hkeys slot hslot),
            evaluatesTo_keyExpr (hkeys slot hslot)⟩)
          (fun slot hslot => ⟨(hcontents slot hslot).isItem, ih slot hslot⟩) hregular number none

end

/-! ### The display of a table -/

theorem Legible.isWritable (h : v.Legible) : v.isWritable := by
  induction h with
  | bool | str => rfl
  | int h => exact h
  | @table number slots _ hkeys _ ih =>
      rw [Value.isWritable]
      split
      · rw [writableContents_eq_all, List.all_map, List.all_eq_true]
        exact ih
      · rw [writableEntries_eq_all, List.all_eq_true]
        intro slot hslot
        have hkey : slot.1.isWritable := by
          have hlegible := hkeys slot hslot
          cases hkind : slot.1 with
          | number n =>
              cases n with
              | int n => rwa [hkind] at hlegible
              | float x => rfl
          | str s => rfl
          | _ => rw [hkind] at hlegible; cases hlegible
        rw [hkey, ih slot hslot]
        rfl

variable {number : Nat} {slots : Slots}

theorem Legible.display (h : (Value.table number slots).Legible) :
    (Value.table number slots).display =
      .ok (String.ofList ((Value.table number slots).text .nested)) := by
  have htext : (Value.table number slots).displayText =
      (Value.table number slots).text .nested := by
    rw [displayText_eq_text fun _ h => Value.noConfusion h, text, text]
  rw [display_eq, if_pos h.isWritable, htext]

/-- A text that is read as the expression, but for locations, comes to what the expression
rebuilds. -/
theorem run_evalSource_of_rebuilds {σ : Type} {hosts : HostFunctions σ} {depth : Nat}
    {frame : Frame} {globals : Bindings} (hglobals : frame.globals = some globals) {text : String}
    {e found : Expr} (hparse : parseExpr text = .ok found) (hfound : found.unlocated = e.unlocated)
    (h : Rebuilds hosts (nestedTo hosts depth) frame [[], globals] e v) (hitem : v.isItem)
    {w : World σ} (hw : w.cancellation = none) :
    ∃ next, (evalSource hosts (nestedTo hosts depth) frame (.str text) .nil).run w =
      (.ok v.toHost, { w with nextTable := next }) := by
  obtain ⟨built, next, hrun, hbuilt⟩ := h w hw
  have hmirrors : Eval.Mirrors (depth < depth)
      (evalExpr hosts (nestedTo hosts depth) frame [[], globals] e)
      (evalExpr hosts (nestedTo hosts depth) (frame.child frame.source) [[], globals] found) :=
    mirrors_expr frame frame.source (mirrors_nestedTo hosts (Nat.le_refl depth)) e found hfound.symm
  have hfoundRun : (evalExpr hosts (nestedTo hosts depth) frame [[], globals] found).run w =
      (.ok built, { w with nextTable := next }) := hmirrors.ok hrun
  have hscope : createScope frame .nil = .ok [] := by
    rw [createScope.eq_def, hglobals]
  have hglobal : frame.globals.getD [] = globals := by rw [hglobals, Option.getD_some]
  have hsingle : built.single = built := single_of_isItem (isItem_of_toHost_eq hbuilt hitem)
  refine ⟨next, ?_⟩
  rw [evalSource, parseValue, hparse, Eval.liftFault_ok, pure_bind, evalParsed, hscope,
    Eval.liftFault_ok, pure_bind, hglobal, Faulting.run_bind_of_ok hfoundRun, hsingle, hbuilt]
  rfl

/-- The display of a table with legible keys and contents evaluates to the host's form of the
table. -/
theorem Legible.evaluate_display {σ : Type} (h : (Value.table number slots).Legible)
    (runner : Runner) {globals : Bindings} (hglobals : runner.globals = some globals)
    (hosts : HostFunctions σ) {w : World σ} (hw : w.cancellation = none) :
    ∃ text next, (Value.table number slots).display = .ok text ∧
      (runner.evaluate hosts (.str text) .nil).run w =
        (.ok (Value.table number slots).toHost, { w with nextTable := next }) := by
  obtain ⟨found, hparse, hfound⟩ := h.displaysAs.parseExpr
  let text := String.ofList ((Value.table number slots).text .nested)
  have hglobal : (runner.frame (some text)).globals = some globals := hglobals
  obtain ⟨next, hrun⟩ :=
    run_evalSource_of_rebuilds hglobal hparse hfound (h.rebuilds hosts _) h.isItem hw
  refine ⟨text, next, h.display, ?_⟩
  rw [Runner.evaluate, Faulting.run_tryCatch, Value.string?, hrun]

/-- A name for a key, a key in brackets beside a sequence, and a text and a negative number between
signs. -/
theorem evaluate_display_nested :
    let inner : Slots := [(.ofInt 1, .str "x\"y"), (.ofInt 2, .bool true)]
    let slots : Slots :=
      [(.str "a", .ofInt 1), (.ofInt 5, .table 1 inner), (.str "b c", .ofInt (-3))]
    let runner : Runner := ⟨some [], none, false⟩
    let w : World Unit := ⟨none, 2, ()⟩
    (Value.table 0 slots).Legible ∧ runner.globals = some [] ∧ w.cancellation = none ∧
      ∃ text next, (Value.table 0 slots).display = .ok text ∧
        (runner.evaluate (fun _ _ => pure .nil) (.str text) .nil).run w =
          (.ok (Value.table 0 slots).toHost, { w with nextTable := next }) := by
  intro inner slots runner w
  have hinnerMade : Slots.assignAll [] inner = .ok inner := rfl
  have hmade : Slots.assignAll [] slots = .ok slots := rfl
  have hinner : (Value.table 1 inner).Legible := by
    refine .table 1 (Slots.regular_of_assignAll hinnerMade) (by decide) ?_
    simp only [inner, List.mem_cons, List.not_mem_nil, or_false, forall_eq_or_imp, forall_eq]
    exact ⟨.str _, .bool _⟩
  have hlegible : (Value.table 0 slots).Legible := by
    refine .table 0 (Slots.regular_of_assignAll hmade) (by decide +kernel) ?_
    simp only [slots, List.mem_cons, List.not_mem_nil, or_false, forall_eq_or_imp, forall_eq]
    exact ⟨.int (by decide), hinner, .int (by decide)⟩
  exact ⟨hlegible, rfl, rfl, hlegible.evaluate_display runner rfl _ rfl⟩

/-- A keyword is an identifier of the host and no name of the language. -/
theorem evaluate_display_keyword :
    let slots : Slots := [(.str "and", .ofInt 1)]
    let text := "\x7band = 1\x7d"
    slots.Regular ∧ (Value.table 0 slots).display = .ok text ∧
      ∀ (runner : Runner) (hosts : HostFunctions Unit) (w : World Unit), ∃ fault w',
        (runner.evaluate hosts (.str text) .nil).run w = (.error fault, w') := by
  intro slots text
  have hdisplay : (Value.table 0 slots).display = .ok text := by
    have htext : String.ofList (Value.table 0 slots).displayText = text := by decide +kernel
    rw [display_eq, htext]
    rfl
  have hmade : Slots.assignAll [] slots = .ok slots := rfl
  refine ⟨Slots.regular_of_assignAll hmade, hdisplay, fun runner hosts w => ?_⟩
  have hrefused : (parseExpr text).isOk = false := by decide +kernel
  cases hparse : parseExpr text with
  | ok e =>
      rw [hparse] at hrefused
      cases hrefused
  | error fault =>
      refine ⟨.ofEvaluation text fault, w, ?_⟩
      rw [Runner.evaluate, Faulting.run_tryCatch, evalSource, parseValue, hparse]
      rfl

end Value

end TemplateScript
