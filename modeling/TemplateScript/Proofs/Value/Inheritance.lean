import TemplateScript.Proofs.Value.Sameness

/-!
# Properties of values and of what is in them

A property of values is inherited if a container that has it hands it on to its contents, and a
list or a mapping gets it from them. Then all that is taken out of values with the property has it
too, and so has what assignments and conversions make of them.
-/

namespace TemplateScript

variable {p : Value → Prop}

/-- Nil, the booleans, numbers and texts, in which there is nothing else. -/
def Value.isPlain : Value → Bool
  | .nil | .bool _ | .number _ | .str _ => true
  | _ => false

/-- The values that a value counts as in a list; the last one may count as several. -/
def Value.spread (last : Bool) (v : Value) : List Value :=
  if last then
    match v with
    | .multi items => items
    | v => [v]
  else [v.single]

/-- The keys and the contents of all slots have a property. -/
def Slots.All (p : Value → Prop) (slots : Slots) : Prop :=
  ∀ slot ∈ slots, p slot.1 ∧ p slot.2

/-- A property that nil and numbers have, and that containers and their contents share. -/
structure Value.Inherited (p : Value → Prop) : Prop where
  nil : p .nil
  number (n : Number) : p (.number n)
  list {items : List Value} : p (.list items) ↔ ∀ item ∈ items, p item
  tuple {items : List Value} (h : p (.tuple items)) : ∀ item ∈ items, p item
  multi {items : List Value} (h : p (.multi items)) : ∀ item ∈ items, p item
  dict {entries : Slots} : p (.dict entries) ↔ entries.All p
  table {id : Nat} {slots : Slots} (h : p (.table id slots)) : slots.All p

theorem Value.getD_cases (values : List Value) (index : Nat) (default : Value) :
    values.getD index default ∈ values ∨ values.getD index default = default := by
  rw [List.getD_eq_getElem?_getD]
  cases hfound : values[index]? with
  | none => exact .inr rfl
  | some v => exact .inl (List.mem_of_getElem? hfound)

theorem Value.all_getD {values : List Value} (h : ∀ v ∈ values, p v) (index : Nat)
    {default : Value} (hdefault : p default) : p (values.getD index default) := by
  obtain hmem | heq := getD_cases values index default
  · exact h _ hmem
  · rwa [heq]

namespace Value.Inherited

variable {v : Value} (hp : Inherited p)

include hp

theorem single (h : p v) : p v.single := by
  cases v with
  | multi items =>
      cases items with
      | nil => exact hp.nil
      | cons first rest => exact hp.multi h first List.mem_cons_self
  | _ => exact h

theorem spread (h : p v) (last : Bool) : ∀ item ∈ v.spread last, p item := by
  cases last with
  | false => exact List.forall_mem_singleton.mpr (hp.single h)
  | true =>
      cases v with
      | multi items => exact hp.multi h
      | _ => exact List.forall_mem_singleton.mpr h

theorem slotKey (h : p v) : p v.slotKey := by
  cases v with
  | number n =>
      rw [Value.slotKey]
      cases n.toInt? <;> exact hp.number _
  | _ => exact h

end Value.Inherited

/-! ### Slots -/

namespace Slots

variable {slots : Slots} {key value : Value}

theorem All.find? (h : slots.All p) (hfound : slots.find? key = some value) : p value := by
  rw [Slots.find?, Option.map_eq_some_iff] at hfound
  obtain ⟨slot, hslot, rfl⟩ := hfound
  exact (h slot (List.mem_of_find?_eq_some hslot)).2

theorem All.put (h : slots.All p) (hkey : p key) (hvalue : p value) :
    (slots.put key value).All p := by
  induction slots with
  | nil => exact List.forall_mem_singleton.mpr ⟨hkey, hvalue⟩
  | cons slot rest ih =>
      obtain ⟨hslot, hrest⟩ := List.forall_mem_cons.mp h
      rw [Slots.put]
      split
      · exact List.forall_mem_cons.mpr ⟨⟨hslot.1, hvalue⟩, hrest⟩
      · exact List.forall_mem_cons.mpr ⟨hslot, ih hrest⟩

theorem All.erase (h : slots.All p) (key : Value) : (slots.erase key).All p := by
  induction slots with
  | nil => exact h
  | cons slot rest ih =>
      obtain ⟨hslot, hrest⟩ := List.forall_mem_cons.mp h
      rw [Slots.erase]
      split
      · exact hrest
      · exact List.forall_mem_cons.mpr ⟨hslot, ih hrest⟩

theorem All.read (h : slots.All p) (hread : slots.read key = .ok (some value)) : p value := by
  rw [Slots.read] at hread
  cases hasKey : key.slotKey.asKey with
  | error why =>
      rw [hasKey] at hread
      cases hread
  | ok found =>
      rw [hasKey] at hread
      exact h.find? (Except.ok.inj hread)

theorem asKey_eq_ok {key found : Value} (h : key.asKey = .ok found) :
    key.unhashable? = none ∧ found = key := by
  rw [Value.asKey] at h
  cases hcontainer : key.unhashable? with
  | some container =>
      rw [hcontainer] at h
      cases h
  | none =>
      rw [hcontainer] at h
      exact ⟨rfl, (Except.ok.inj h).symm⟩

/-- An assignment leaves the slots as they are, takes one out, or fills one of a hashable key. -/
theorem assign_cases {assigned : Slots} (h : slots.assign key value = .ok assigned) :
    assigned = slots ∨ assigned = slots.erase key.slotKey ∨
      key.slotKey.unhashable? = none ∧ assigned = slots.put key.slotKey value := by
  by_cases hnil : key.slotKey = .nil
  · rw [assign_of_nilKey hnil] at h
    cases h
  by_cases hempties : value = .nil
  · rw [hempties, assign_nil hnil] at h
    split at h
    · exact .inl (Except.ok.inj h).symm
    · cases hasKey : key.slotKey.asKey with
      | error why =>
          rw [hasKey] at h
          cases h
      | ok found =>
          obtain ⟨-, rfl⟩ := asKey_eq_ok hasKey
          rw [hasKey] at h
          exact .inr (.inl (Except.ok.inj h).symm)
  · rw [assign_of_ne_nil hnil hempties] at h
    cases hasKey : key.slotKey.asKey with
    | error why =>
        rw [hasKey] at h
        cases h
    | ok found =>
        obtain ⟨hhashable, rfl⟩ := asKey_eq_ok hasKey
        rw [hasKey] at h
        exact .inr (.inr ⟨hhashable, (Except.ok.inj h).symm⟩)

theorem All.assign (hp : Value.Inherited p) {assigned : Slots} (h : slots.All p) (hkey : p key)
    (hvalue : p value) (hassign : slots.assign key value = .ok assigned) : assigned.All p := by
  obtain rfl | rfl | ⟨-, rfl⟩ := assign_cases hassign
  · exact h
  · exact h.erase _
  · exact h.put (hp.slotKey hkey) hvalue

theorem All.sequenceOf (h : slots.All p) : ∀ v ∈ sequenceOf slots, p v := by
  intro v hv
  obtain ⟨i, -, hslot⟩ := List.mem_filterMap.mp hv
  rw [slotAt?, Option.map_eq_some_iff] at hslot
  obtain ⟨slot, hfound, rfl⟩ := hslot
  exact (h slot (List.mem_of_find?_eq_some hfound)).2

end Slots

/-! ### The host's form -/

mutual

theorem Value.Inherited.toHost (hp : Value.Inherited p) {v : Value} (h : p v) : p v.toHost := by
  match v with
  | .table id slots =>
      have hslots := Slots.All.toHost hp (hp.table h)
      rw [Value.toHost]
      split
      · exact hp.list.mpr hslots.sequenceOf
      · exact hp.dict.mpr hslots
  | .nil | .bool _ | .number _ | .str _ | .list _ | .tuple _ | .multi _ | .dict _ | .expression _
  | .function _ | .bytes _ | .date _ | .dateTime _ | .set _ => exact h

theorem Slots.All.toHost (hp : Value.Inherited p) {slots : Slots} (h : slots.All p) :
    Slots.All p (Value.toHostSlots slots) := by
  match slots with
  | [] => exact List.forall_mem_nil _
  | (key, value) :: rest =>
      obtain ⟨hslot, hrest⟩ := List.forall_mem_cons.mp h
      exact List.forall_mem_cons.mpr
        ⟨⟨hslot.1, Value.Inherited.toHost hp hslot.2⟩, Slots.All.toHost hp hrest⟩

end

end TemplateScript
