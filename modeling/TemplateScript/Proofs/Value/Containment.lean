import TemplateScript.Proofs.Value.Inheritance

/-!
# What values are made of

A value lies within some things if these are all that has a number in it. That is inherited: what is
taken out of a value or put together from values lies within the same things. A value in which
nothing has a number lies within any.
-/

namespace TemplateScript

variable {known : Entity → Prop}

/-- Everything that has a number in the value is known. -/
def Value.Within (known : Entity → Prop) (v : Value) : Prop :=
  ∀ x ∈ v.entities, known x

def Expr.Within (known : Entity → Prop) (e : Expr) : Prop :=
  ∀ x ∈ e.entities, known x

def Slots.Within (known : Entity → Prop) (slots : Slots) : Prop :=
  ∀ slot ∈ slots, slot.1.Within known ∧ slot.2.Within known

theorem Value.within_of_entities_eq_nil {v : Value} (h : v.entities = []) : v.Within known := by
  rw [Value.Within, h]
  exact List.forall_mem_nil _

theorem Value.entities_of_isPlain {v : Value} (h : v.isPlain) : v.entities = [] := by
  cases v with
  | nil | bool b | number n | str s => rfl
  | _ => cases h

theorem Value.within_of_isPlain {v : Value} (h : v.isPlain) : v.Within known :=
  within_of_entities_eq_nil (entities_of_isPlain h)

theorem Expr.within_of_entities_eq_nil {e : Expr} (h : e.entities = []) : e.Within known := by
  rw [Expr.Within, h]
  exact List.forall_mem_nil _

theorem Value.renumber_of_entities_eq_nil {f : Nat → Nat} {v : Value} (h : v.entities = []) :
    v.renumber f = v :=
  v.renumber_of_fixed (h ▸ List.forall_mem_nil _)

theorem Expr.renumber_of_entities_eq_nil {f : Nat → Nat} {e : Expr} (h : e.entities = []) :
    e.renumber f = e :=
  e.renumber_of_fixed (h ▸ List.forall_mem_nil _)

/-! ### Containers -/

theorem forall_mem_entitiesOfAll {values : List Value} :
    (∀ x ∈ entitiesOfAll values, known x) ↔ ∀ v ∈ values, v.Within known := by
  induction values with
  | nil => simp [entitiesOfAll]
  | cons v rest ih =>
      rw [entitiesOfAll, List.forall_mem_append, ih, List.forall_mem_cons]
      rfl

theorem forall_mem_entitiesOfEntries {slots : Slots} :
    (∀ x ∈ entitiesOfEntries slots, known x) ↔ slots.Within known := by
  induction slots with
  | nil => simp [entitiesOfEntries, Slots.Within]
  | cons slot rest ih =>
      rw [entitiesOfEntries, List.forall_mem_append, List.forall_mem_append, ih, Slots.Within,
        Slots.Within, List.forall_mem_cons]
      rfl

namespace Value

variable {items : List Value} {entries slots : Slots} {id : Nat} {v : Value}

theorem within_list : (list items).Within known ↔ ∀ v ∈ items, v.Within known :=
  forall_mem_entitiesOfAll

theorem within_tuple : (tuple items).Within known ↔ ∀ v ∈ items, v.Within known :=
  forall_mem_entitiesOfAll

theorem within_multi : (multi items).Within known ↔ ∀ v ∈ items, v.Within known :=
  forall_mem_entitiesOfAll

theorem within_dict : (dict entries).Within known ↔ entries.Within known :=
  forall_mem_entitiesOfEntries

theorem within_table :
    (table id slots).Within known ↔ known (.table id slots) ∧ slots.Within known := by
  rw [Within, entities, List.forall_mem_cons, forall_mem_entitiesOfEntries]

theorem within_nil : nil.Within known := within_of_entities_eq_nil rfl

theorem within_str (s : String) : (str s).Within known := within_of_entities_eq_nil rfl

theorem within_number (n : Number) : (number n).Within known := within_of_entities_eq_nil rfl

theorem inherited_within : Inherited (Within known) where
  nil := within_nil
  number := within_number
  list := within_list
  tuple := within_tuple.mp
  multi := within_multi.mp
  dict := within_dict
  table h := (within_table.mp h).2

theorem Within.single (h : v.Within known) : v.single.Within known :=
  inherited_within.single h

theorem Within.toHost (h : v.Within known) : v.toHost.Within known :=
  inherited_within.toHost h

end Value

theorem Slots.Within.assign {slots assigned : Slots} {key value : Value} (h : slots.Within known)
    (hkey : key.Within known) (hvalue : value.Within known)
    (hassign : slots.assign key value = .ok assigned) : assigned.Within known :=
  Slots.All.assign Value.inherited_within h hkey hvalue hassign

end TemplateScript
