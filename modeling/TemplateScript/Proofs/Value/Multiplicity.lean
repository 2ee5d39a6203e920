import TemplateScript.Proofs.Value.Inheritance

/-!
# Several results

The results of one call may be several. They are one value then, which counts as its first one or as
all of them, but is not to be met anywhere else. `hasMulti` finds such a value in another one, at
any depth. What a call may give is free of them, or is one of them with contents that are.
-/

namespace TemplateScript

mutual

/-- Whether several results are in a value, with what is in the slots of tables. -/
def Value.hasMulti : Value → Bool
  | .multi _ => true
  | .list items | .tuple items | .set items => haveMulti items
  | .dict entries | .table _ entries => entriesHaveMulti entries
  | .expression e => e.hasMulti
  | .nil | .bool _ | .number _ | .str _ | .function _ | .bytes _ | .date _ | .dateTime _ => false

def haveMulti : List Value → Bool
  | [] => false
  | v :: rest => v.hasMulti || haveMulti rest

def entriesHaveMulti : List (Value × Value) → Bool
  | [] => false
  | (k, v) :: rest => k.hasMulti || v.hasMulti || entriesHaveMulti rest

/-- Whether several results are in a literal of an expression. -/
def Expr.hasMulti : Expr → Bool
  | .literal value _ => value.hasMulti
  | .variable _ _ | .bare _ => false
  | .index left right _ | .binary _ left right _ | .logical _ left right _ =>
    left.hasMulti || right.hasMulti
  | .call e args _ | .methodCall e _ args _ => e.hasMulti || exprsHaveMulti args
  | .unary _ inner _ | .paren inner _ => inner.hasMulti
  | .tableConstructor fields _ => fieldsHaveMulti fields

def exprsHaveMulti : List Expr → Bool
  | [] => false
  | e :: rest => e.hasMulti || exprsHaveMulti rest

def fieldsHaveMulti : List (Option Expr × Expr) → Bool
  | [] => false
  | (none, value) :: rest => value.hasMulti || fieldsHaveMulti rest
  | (some key, value) :: rest => key.hasMulti || value.hasMulti || fieldsHaveMulti rest

end

def Value.MultiFree (v : Value) : Prop := v.hasMulti = false

def Expr.MultiFree (e : Expr) : Prop := e.hasMulti = false

theorem haveMulti_eq_false {values : List Value} :
    haveMulti values = false ↔ ∀ v ∈ values, v.MultiFree := by
  induction values with
  | nil => simp [haveMulti]
  | cons v rest ih =>
      rw [haveMulti, Bool.or_eq_false_iff, ih, List.forall_mem_cons]
      rfl

theorem entriesHaveMulti_eq_false {slots : Slots} :
    entriesHaveMulti slots = false ↔ slots.All Value.MultiFree := by
  induction slots with
  | nil => simp [entriesHaveMulti, Slots.All]
  | cons slot rest ih =>
      rw [entriesHaveMulti, Bool.or_eq_false_iff, Bool.or_eq_false_iff, ih, Slots.All, Slots.All,
        List.forall_mem_cons]
      rfl

namespace Value

variable {items : List Value} {v : Value}

instance : DecidablePred MultiFree :=
  fun v => inferInstanceAs (Decidable (v.hasMulti = false))

theorem not_multiFree_multi (items : List Value) : ¬(multi items).MultiFree :=
  fun h => nomatch h

theorem multiFree_of_isPlain (h : v.isPlain) : v.MultiFree := by
  cases v with
  | nil | bool b | number n | str s => rfl
  | _ => cases h

theorem inherited_multiFree : Inherited MultiFree where
  nil := rfl
  number _ := rfl
  list := haveMulti_eq_false
  tuple := haveMulti_eq_false.mp
  multi h := absurd h (not_multiFree_multi _)
  dict := entriesHaveMulti_eq_false
  table := entriesHaveMulti_eq_false.mp

theorem multiFree_table {id : Nat} {slots : Slots} (h : slots.All MultiFree) :
    (table id slots).MultiFree :=
  entriesHaveMulti_eq_false.mpr h

/-- What a call may give: no several results, or several that have none in them. -/
def IsResult (v : Value) : Prop :=
  v.MultiFree ∨ ∃ items, v = .multi items ∧ ∀ item ∈ items, item.MultiFree

theorem IsResult.single (h : v.IsResult) : v.single.MultiFree := by
  obtain h | ⟨items, rfl, hitems⟩ := h
  · exact inherited_multiFree.single h
  · cases items with
    | nil => rfl
    | cons first rest => exact hitems first List.mem_cons_self

theorem IsResult.spread (h : v.IsResult) (last : Bool) :
    ∀ item ∈ v.spread last, item.MultiFree := by
  obtain h | ⟨items, rfl, hitems⟩ := h
  · exact inherited_multiFree.spread h last
  · cases last with
    | false => exact List.forall_mem_singleton.mpr (single (.inr ⟨items, rfl, hitems⟩))
    | true => exact hitems

end Value

end TemplateScript
