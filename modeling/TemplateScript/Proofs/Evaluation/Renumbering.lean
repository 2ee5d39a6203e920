import TemplateScript.Proofs.Evaluation.Inheritance
import TemplateScript.Proofs.Library.Renumbering

/-!
# Operators and scopes under other numbers

The operators of the language, the assignments of a table and the look-ups in a scope come to the
same under other numbers, and to nothing that was not in their operands or in the global
environment.
-/

namespace TemplateScript

variable {f : Nat → Nat} {known : Entity → Prop}

/-! ### Scopes -/

namespace Bindings

def renumber (f : Nat → Nat) (bindings : Bindings) : Bindings :=
  bindings.map (Prod.map id (Value.renumber f))

def Within (known : Entity → Prop) (bindings : Bindings) : Prop :=
  ∀ binding ∈ bindings, binding.2.Within known

theorem get?_renumber (f : Nat → Nat) (bindings : Bindings) (name : String) :
    (bindings.renumber f).get? name = (bindings.get? name).map (Value.renumber f) := by
  induction bindings with
  | nil => rfl
  | cons binding rest ih =>
      obtain ⟨bound, v⟩ := binding
      change List.lookup name ((bound, v.renumber f) :: renumber f rest) =
        (List.lookup name ((bound, v) :: rest)).map (Value.renumber f)
      rw [List.lookup_cons, List.lookup_cons]
      split
      · rfl
      · exact ih

theorem set_renumber (f : Nat → Nat) (name : String) (v : Value) (bindings : Bindings) :
    (bindings.renumber f).set name (v.renumber f) = (bindings.set name v).renumber f := by
  induction bindings with
  | nil => rfl
  | cons binding rest ih =>
      rw [renumber, List.map_cons, set, set, Prod.map_fst, id_eq]
      split
      · rfl
      · exact congrArg _ ih

end Bindings

namespace ScopeChain

def renumber (f : Nat → Nat) (chain : ScopeChain) : ScopeChain :=
  chain.map (Bindings.renumber f)

def Within (known : Entity → Prop) (chain : ScopeChain) : Prop :=
  ∀ bindings ∈ chain, bindings.Within known

theorem get?_renumber (f : Nat → Nat) (chain : ScopeChain) (name : String) :
    (chain.renumber f).get? name = (chain.get? name).map (Value.renumber f) := by
  induction chain with
  | nil => rfl
  | cons bindings rest ih =>
      have hfirst := bindings.get?_renumber f name
      rw [get?] at ih ⊢
      rw [renumber, List.map_cons, List.findSome?_cons, hfirst, get?, List.findSome?_cons]
      cases bindings.get? name with
      | none => exact ih
      | some v => rfl

theorem Within.get? {chain : ScopeChain} {name : String} {v : Value} (h : chain.Within known)
    (hfound : chain.get? name = some v) : v.Within known :=
  ScopeChain.All.get? h hfound

end ScopeChain

/-! ### Frames -/

namespace Frame

def renumber (f : Nat → Nat) (frame : Frame) : Frame :=
  { frame with globals := frame.globals.map (Bindings.renumber f) }

def Within (known : Entity → Prop) (frame : Frame) : Prop :=
  ∀ globals ∈ frame.globals, globals.Within known

theorem getD_globals_renumber (f : Nat → Nat) (frame : Frame) :
    (frame.renumber f).globals.getD [] = (frame.globals.getD []).renumber f := by
  rw [renumber]
  cases frame.globals <;> rfl

theorem Within.getD_globals {frame : Frame} (h : frame.Within known) :
    (frame.globals.getD []).Within known :=
  Frame.All.getD_globals h

end Frame

theorem Bindings.bindEntry_renumber (f : Nat → Nat) (bindings : Bindings)
    (entry : Value × Value) :
    (bindings.renumber f).bindEntry (entry.map (Value.renumber f) (Value.renumber f)) =
      (bindings.bindEntry entry).renumber f := by
  obtain ⟨key, v⟩ := entry
  cases key with
  | str name => exact Bindings.set_renumber f name v bindings
  | _ => rfl

theorem bindAugmentation_renumber (f : Nat → Nat) (v : Value) (entries : Slots) :
    bindAugmentation (v.renumber f) (entries.renumber f) =
      (bindAugmentation v entries).renumber f := by
  have hfold (bindings : Bindings) :
      (entries.renumber f).foldl Bindings.bindEntry (bindings.renumber f) =
        Bindings.renumber f (entries.foldl Bindings.bindEntry bindings) := by
    induction entries generalizing bindings with
    | nil => rfl
    | cons entry rest ih =>
        rw [Slots.renumber, List.map_cons, List.foldl_cons, List.foldl_cons,
          Bindings.bindEntry_renumber]
        exact ih _
  exact hfold [(augmentationName, v)]

theorem createScope_renumber (f : Nat → Nat) (frame : Frame) (augmentation : Value) :
    createScope (frame.renumber f) (augmentation.renumber f) =
      (createScope frame augmentation).map (Bindings.renumber f) := by
  obtain ⟨globals, source, location⟩ := frame
  cases globals with
  | none => rfl
  | some globals =>
      cases augmentation with
      | dict entries =>
          have hbound := bindAugmentation_renumber f (.dict entries) entries
          rw [Value.renumber, renumberEntries_eq_map] at hbound ⊢
          exact congrArg Except.ok hbound
      | table id entries =>
          have hbound := bindAugmentation_renumber f (.table id entries) entries
          rw [Value.renumber, renumberEntries_eq_map] at hbound ⊢
          exact congrArg Except.ok hbound
      | _ => rfl

theorem within_createScope {frame : Frame} {augmentation : Value} {bindings : Bindings}
    (h : augmentation.Within known) (hscope : createScope frame augmentation = .ok bindings) :
    bindings.Within known :=
  all_createScope Value.inherited_within h hscope

/-! ### Operators -/

theorem Expr.subject_renumber (f : Nat → Nat) (e : Expr) : (e.renumber f).subject = e.subject := by
  cases e with
  | literal value loc => cases value <;> rfl
  | index obj key loc =>
      cases key with
      | literal value loc => cases value <;> rfl
      | _ => rfl
  | _ => rfl

namespace Operators

variable (frame : Frame) (loc : Option Location)

theorem operand_renumber (v : Value) :
    operand (frame.renumber f) loc (v.renumber f) = operand frame loc v := by
  rw [operand, operand, Value.toNumber?_renumber, Value.typeName_renumber]
  rfl

theorem concatOperand_renumber (v : Value) :
    concatOperand (frame.renumber f) loc (v.renumber f) = concatOperand frame loc v := by
  rw [concatOperand, concatOperand, Value.isConcatenable_renumber, Value.typeName_renumber]
  rfl

theorem binary_renumber_eq (hf : f.Injective) (op : BinaryOp) (left right : Value) :
    binary (frame.renumber f) op (left.renumber f) (right.renumber f) loc =
      binary frame op left right loc := by
  cases op with
  | arithmetic op =>
      simp only [binary, operand_renumber]
      rfl
  | concat => simp only [binary, concatOperand_renumber, Value.display_renumber]
  | equal | notEqual => simp only [binary, Value.scriptEq_renumber hf]
  | comparison op => cases left <;> cases right <;> rfl
  | unknown spelling => rfl

theorem unary_renumber_eq (op : UnaryOp) (v : Value) (subject : Subject) :
    unary (frame.renumber f) op (v.renumber f) loc subject = unary frame op v loc subject := by
  cases op with
  | not => simp only [unary, Value.isTruthy_renumber]
  | neg => simp only [unary, operand_renumber]
  | length =>
      cases v with
      | table id slots =>
          simp only [Value.renumber, renumberEntries_eq_map, unary,
            border_renumber (g := Value.renumber f) rfl]
      | list items | tuple items | multi items =>
          simp only [Value.renumber, unary, length_renumberList]
      | dict entries => simp only [Value.renumber, unary, length_renumberEntries]
      | _ => rfl
  | unknown spelling => rfl

theorem item_renumber (items : List Value) (key : Value) :
    item (items.map (Value.renumber f)) (key.renumber f) =
      (item items key).map (Value.renumber f) := by
  cases key with
  | number n =>
      rw [Value.renumber, item, item]
      cases n.toFloat with
      | error why => rfl
      | ok x =>
          cases n.toInt? with
          | none => rfl
          | some i =>
              have hitem := Tables.itemAt_renumber (f := f) items i
              exact congrArg Except.ok hitem
  | _ => rfl

theorem slot_renumber (hf : f.Injective) (slots : Slots) (key : Value) :
    slot (slots.renumber f) (key.renumber f) = (slot slots key).map (Value.renumber f) := by
  rw [slot, slot, Slots.read_renumber hf]
  cases slots.read key with
  | error why => rfl
  | ok found => cases found <;> rfl

theorem entry_renumber (hf : f.Injective) (entries : Slots) (key : Value) :
    entry (entries.renumber f) (key.renumber f) = (entry entries key).map (Value.renumber f) := by
  rw [entry, entry, Value.unhashable?_renumber, Slots.find?_renumber hf]
  cases key.unhashable? with
  | some why => cases why <;> rfl
  | none => cases entries.find? key <;> rfl

theorem index_renumber (hf : f.Injective) (globals : Bindings) (obj key : Value)
    (subject : Subject) :
    index (frame.renumber f) (globals.renumber f) (obj.renumber f) (key.renumber f) loc subject =
      (index frame globals obj key loc subject).map (Value.renumber f) := by
  cases obj with
  | table id slots =>
      rw [Value.renumber, renumberEntries_eq_map]
      exact slot_renumber hf slots key
  | str s =>
      rw [Value.renumber, index, index, Bindings.get?_renumber]
      cases globals.get? "string" with
      | none => rfl
      | some found =>
          cases found with
          | table id slots =>
              rw [Option.map, Value.renumber, renumberEntries_eq_map]
              exact slot_renumber hf slots key
          | _ => rfl
  | dict entries =>
      rw [Value.renumber, renumberEntries_eq_map]
      exact entry_renumber hf entries key
  | list items | tuple items | multi items =>
      rw [Value.renumber, renumberList_eq_map]
      exact item_renumber items key
  | _ => rfl

variable {frame loc}

theorem within_index {globals : Bindings} {obj key v : Value} {subject : Subject}
    (hglobals : globals.Within known) (hobj : obj.Within known)
    (hindex : index frame globals obj key loc subject = .ok v) : v.Within known :=
  all_index Value.inherited_within hglobals hobj hindex

end Operators

/-! ### Assignments -/

theorem Value.spread_renumber (f : Nat → Nat) (last : Bool) (v : Value) :
    (v.renumber f).spread last = (v.spread last).map (Value.renumber f) := by
  cases last with
  | false => exact congrArg (fun v => [v]) (v.single_renumber f)
  | true =>
      cases v with
      | multi items => exact renumberList_eq_map f items
      | _ => rfl

theorem Value.Within.spread {v : Value} (h : v.Within known) (last : Bool) :
    ∀ item ∈ v.spread last, item.Within known :=
  inherited_within.spread h last

theorem assignPositions_renumber (hf : f.Injective) (slots : Slots) (position : Nat)
    (items : List Value) :
    assignPositions (slots.renumber f) position (items.map (Value.renumber f)) =
      (assignPositions slots position items).map (Slots.renumber f) := by
  induction items generalizing slots position with
  | nil => rfl
  | cons item rest ih =>
      have hassign : Slots.assign (slots.renumber f) (.ofInt position) (item.renumber f) =
          (slots.assign (.ofInt position) item).map (Slots.renumber f) :=
        Slots.assign_renumber hf slots (.ofInt position) item
      rw [List.map_cons, assignPositions, assignPositions, hassign]
      cases slots.assign (.ofInt position) item with
      | error why => rfl
      | ok assigned => exact ih assigned (position + 1)

theorem within_assignPositions {slots assigned : Slots} {position : Nat} {items : List Value}
    (h : slots.Within known) (hitems : ∀ item ∈ items, item.Within known)
    (hassign : assignPositions slots position items = .ok assigned) : assigned.Within known :=
  all_assignPositions Value.inherited_within h hitems hassign

end TemplateScript
