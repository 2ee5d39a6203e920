import TemplateScript.Evaluation.Interpreter
import TemplateScript.Proofs.Evaluation.Run
import TemplateScript.Proofs.Scope
import TemplateScript.Proofs.Value.Keys

/-!
# Augmentations

An augmentation is bound twice in the scope of an evaluation: as a whole under a name of its own,
and key by key. The keys are bound after the whole, so a key of the name of the whole takes its
place. Every other name is looked up among the keys and then in the global environment, and a key
that is bound to nil hides a global name as well.
-/

namespace TemplateScript

/-! ### Texts among keys -/

/-- The entries of a mapping of the host or of a table. -/
def Value.entries? : Value → Option Slots
  | .dict entries | .table _ entries => some entries
  | _ => none

theorem Value.str_sameKey_iff {name : String} {key : Value} :
    (str name).sameKey key = true ↔ key = .str name := by
  rw [sameKey, agrees_str_iff]
  cases key with
  | number n => simp [keyIdentity?]
  | _ => simp [keyIdentity?]

namespace Slots

variable {slots : Slots} {name : String}

/-- The texts among the keys; those of a mapping are all different. -/
def names (slots : Slots) : List String :=
  slots.filterMap fun slot =>
    match slot.1 with
    | .str name => some name
    | _ => none

theorem find?_str_of_not_mem (h : name ∉ slots.names) : slots.find? (.str name) = none := by
  rw [find?, Option.map_eq_none_iff, List.find?_eq_none]
  intro slot hslot hsame
  refine h (List.mem_filterMap.mpr ⟨slot, hslot, ?_⟩)
  rw [Value.str_sameKey_iff.mp hsame]

end Slots

/-! ### Binding the entries -/

namespace Bindings

variable {bindings : Bindings} {entries : Slots}

theorem get?_cons (binding : String × Value) (rest : Bindings) (name : String) :
    get? (binding :: rest) name = if name = binding.1 then some binding.2 else rest.get? name := by
  rw [get?, List.lookup_cons]
  by_cases h : name = binding.1
  · rw [if_pos h, h, beq_self_eq_true]
  · rw [if_neg h, beq_false_of_ne h]
    rfl

theorem get?_set (bindings : Bindings) (name other : String) (value : Value) :
    (bindings.set name value).get? other =
      if other = name then some value else bindings.get? other := by
  induction bindings with
  | nil => exact get?_cons (name, value) [] other
  | cons binding rest ih =>
      rw [set]
      split
      · next hname =>
          rw [get?_cons, get?_cons, hname]
          split <;> rfl
      · next hname =>
          rw [get?_cons, get?_cons, ih]
          split
          · next hother => rw [if_neg fun h => hname (hother.symm.trans h)]
          · rfl

/-- What is found after the entries of a mapping were bound. -/
theorem get?_foldl_bindEntry (hnames : entries.names.Nodup) (name : String) :
    (entries.foldl bindEntry bindings).get? name =
      (entries.find? (.str name)).or (bindings.get? name) := by
  induction entries generalizing bindings with
  | nil => rfl
  | cons entry rest ih =>
      obtain ⟨key, value⟩ := entry
      rw [List.foldl_cons, Slots.find?_cons]
      cases key with
      | str own =>
          obtain ⟨hown, hrest⟩ := List.nodup_cons.mp hnames
          rw [ih hrest, bindEntry, get?_set]
          by_cases hname : name = own
          · rw [if_pos hname, hname, Slots.find?_str_of_not_mem hown,
              if_pos (Value.str_sameKey_iff.mpr rfl)]
            rfl
          · have hother : ¬(Value.str name).sameKey (.str own) = true := fun hsame =>
              hname (Value.str.inj (Value.str_sameKey_iff.mp hsame)).symm
            rw [if_neg hname, if_neg hother]
      | _ => exact ih hnames

end Bindings

theorem ScopeChain.get?_pair (inner outer : Bindings) (name : String) :
    ScopeChain.get? [inner, outer] name = (inner.get? name).or (outer.get? name) := by
  rw [get?, List.findSome?_cons, List.findSome?_singleton]
  cases inner.get? name <;> rfl

theorem get?_bindAugmentation {augmentation : Value} {entries : Slots}
    (hnames : entries.names.Nodup) (name : String) :
    (bindAugmentation augmentation entries).get? name =
      (entries.find? (.str name)).or
        (if name = augmentationName then some augmentation else none) := by
  rw [bindAugmentation_eq, Bindings.get?_foldl_bindEntry hnames, Bindings.get?_cons]
  rfl

/-! ### The two ways to an entry -/

section

variable {frame : Frame} {globals : Bindings} {augmentation : Value} {entries : Slots}

theorem createScope_mapping (hglobals : frame.globals = some globals)
    (hentries : augmentation.entries? = some entries) :
    createScope frame augmentation = .ok (bindAugmentation augmentation entries) := by
  rw [createScope.eq_def, hglobals]
  cases augmentation with
  | dict | table =>
      cases hentries
      rfl
  | _ => cases hentries

/-- A text as a key of a mapping. -/
theorem index_mapping (hentries : augmentation.entries? = some entries) (globals : Bindings)
    (name : String) (loc : Option Location) (subject : Subject) :
    Operators.index frame globals augmentation (.str name) loc subject =
      .ok ((entries.find? (.str name)).getD .nil) := by
  cases augmentation with
  | dict | table =>
      cases hentries
      rfl
  | _ => cases hentries

theorem single_mapping (hentries : augmentation.entries? = some entries) :
    augmentation.single = augmentation := by
  cases augmentation with
  | multi => cases hentries
  | _ => rfl

variable {σ : Type} {hosts : HostFunctions σ} {nested : Nested σ} {scope : ScopeChain}

/-- A name and the key of the same text in the whole augmentation, where the scope finds both. -/
theorem evalExpr_index_augmentation (hentries : augmentation.entries? = some entries)
    {name : String} {value : Value} (hkey : entries.find? (.str name) = some value)
    (hwhole : scope.get? augmentationName = some augmentation)
    (hname : scope.get? name = some value) (loc loc₁ loc₂ loc₃ : Option Location) :
    evalExpr hosts nested frame scope
        (.index (.variable augmentationName loc₁) (.literal (.str name) loc₂) loc) =
      evalExpr hosts nested frame scope (.variable name loc₃) := by
  refine Faulting.ext fun w => ?_
  simp only [evalExpr, hwhole, hname, Option.getD_some]
  cases hw : w.cancellation with
  | some reason =>
      rw [Faulting.run_bind_of_error (Eval.run_checkCancelled_of_some hw),
        Faulting.run_bind_of_error (Eval.run_checkCancelled_of_some hw)]
  | none =>
      have hcheck : (Eval.checkCancelled frame).run w = (.ok (), w) :=
        Eval.run_checkCancelled_of_none hw
      have htext : (Value.str name).single = .str name := rfl
      simp only [Faulting.run_bind, hcheck, Faulting.run_pure, single_mapping hentries, htext,
        index_mapping hentries, hkey, Option.getD_some, Eval.liftFault_ok]

/-- The expression is what a name behind a point is read as. -/
example : ∃ loc loc₁ loc₂, parseExpr "_.user" =
    .ok (.index (.variable augmentationName loc₁) (.literal (.str "user") loc₂) loc) :=
  ⟨_, _, _, rfl⟩

/-- The scope of an evaluation with an augmentation. Its keys are bound to their values, with nil
too and where a global name is the same; the name of the whole is bound to the augmentation unless
it is a key itself, and all other names are the global ones. The scopes that were there before
stay as they are, and a key is reached by its name as through the whole. -/
theorem createScope_augmentation (hglobals : frame.globals = some globals)
    (hentries : augmentation.entries? = some entries) (hnames : entries.names.Nodup) :
    ∃ bindings, createScope frame augmentation = .ok bindings ∧
      (∀ name value, entries.find? (.str name) = some value →
        ScopeChain.get? [bindings, globals] name = some value) ∧
      (entries.find? (.str augmentationName) = none →
        ScopeChain.get? [bindings, globals] augmentationName = some augmentation) ∧
      (∀ name, name ≠ augmentationName → entries.find? (.str name) = none →
        ScopeChain.get? [bindings, globals] name = globals.get? name) ∧
      (∀ (scopes : Scopes) (number : Nat), scopes.all[number]? = some ⟨none, globals⟩ →
        (scopes.openScope number augmentation).all = scopes.all ++ [⟨some number, bindings⟩] ∧
          ∀ name, (scopes.openScope number augmentation).get? scopes.all.length name =
            ScopeChain.get? [bindings, globals] name) ∧
      (entries.find? (.str augmentationName) = none →
        ∀ name value, entries.find? (.str name) = some value →
          ∀ (hosts : HostFunctions σ) (nested : Nested σ) (loc loc₁ loc₂ loc₃ : Option Location),
            evalExpr hosts nested frame [bindings, globals]
                (.index (.variable augmentationName loc₁) (.literal (.str name) loc₂) loc) =
              evalExpr hosts nested frame [bindings, globals] (.variable name loc₃)) := by
  have hscope := createScope_mapping hglobals hentries
  have hget : ∀ name, ScopeChain.get? [bindAugmentation augmentation entries, globals] name =
      ((entries.find? (.str name)).or
        (if name = augmentationName then some augmentation else none)).or (globals.get? name) := by
    intro name
    rw [ScopeChain.get?_pair, get?_bindAugmentation hnames]
  have hkeys : ∀ name value, entries.find? (.str name) = some value →
      ScopeChain.get? [bindAugmentation augmentation entries, globals] name = some value := by
    intro name value hkey
    rw [hget, hkey]
    rfl
  have hwhole : entries.find? (.str augmentationName) = none → ScopeChain.get?
      [bindAugmentation augmentation entries, globals] augmentationName = some augmentation := by
    intro hunbound
    rw [hget, hunbound, if_pos rfl]
    rfl
  refine ⟨_, hscope, hkeys, hwhole, ?_, ?_, ?_⟩
  · intro name hname hunbound
    rw [hget, hunbound, if_neg hname]
    rfl
  · intro scopes number hnumber
    have hopened : (scopes.openScope number augmentation).all =
        scopes.all ++ [⟨some number, bindAugmentation augmentation entries⟩] :=
      Scopes.openScope_all hscope number
    exact ⟨hopened, Scopes.get?_of_last hnumber hopened⟩
  · intro hunbound name value hkey hosts nested loc loc₁ loc₂ loc₃
    exact evalExpr_index_augmentation hentries hkey (hwhole hunbound) (hkeys name value hkey) ..

/-- A key that is bound to nil hides a global name. -/
theorem createScope_augmentation_nil :
    let globals : Bindings := [("x", .str "global")]
    let augmentation : Value := .dict [(.ofInt 1, .str "one"), (.str "x", .nil)]
    ∃ bindings, createScope ⟨some globals, none, none⟩ augmentation = .ok bindings ∧
      ScopeChain.get? [bindings, globals] "x" = some .nil ∧
      ScopeChain.get? [bindings, globals] "_" = some augmentation := by
  intro globals augmentation
  have hglobals : (⟨some globals, none, none⟩ : Frame).globals = some globals := rfl
  have hentries : augmentation.entries? = some [(.ofInt 1, .str "one"), (.str "x", .nil)] := rfl
  obtain ⟨bindings, hscope, hkeys, hwhole, -⟩ :=
    createScope_augmentation (σ := Unit) hglobals hentries (by decide)
  exact ⟨bindings, hscope, hkeys "x" .nil rfl, hwhole rfl⟩

/-- A key of the name of the whole takes its place. -/
theorem createScope_augmentation_named :
    let augmentation : Value := .dict [(.str "_", .ofInt 5)]
    ∃ bindings, createScope ⟨some [], none, none⟩ augmentation = .ok bindings ∧
      ScopeChain.get? [bindings, []] "_" = some (.ofInt 5) ∧
      ScopeChain.get? [bindings, []] "_" ≠ some augmentation :=
  ⟨_, rfl, rfl, nofun⟩

end

end TemplateScript
