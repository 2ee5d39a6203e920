import Mathlib.Data.List.Nodup
import TemplateScript.Proofs.Value.Keys

/-!
# Slots that assignments make

An assignment fills one slot in its place or at the end of the order, or takes one out. So slots
that were made by assignments have keys that can be looked up, each in the form in which it stands
in a slot, and no two keys that address the same slot.
-/

namespace TemplateScript

namespace Value

variable {key : Value}

theorem slotKey_slotKey (key : Value) : key.slotKey.slotKey = key.slotKey := by
  cases key with
  | number n =>
      rw [slotKey]
      cases hint : n.toInt? with
      | none =>
          show slotKey (number n) = number n
          rw [slotKey, hint]
      | some k => rfl
  | _ => rfl

end Value

namespace Slots

variable {slots assigned : Slots} {key value : Value}

/-! ### Filling and emptying one slot -/

/-- A slot is filled anew in its place, or at the end of the order if there is none of the key. -/
theorem put_cases (slots : Slots) (key value : Value) :
    (∃ front slot back, slots = front ++ slot :: back ∧ key.sameKey slot.1 = true ∧
      slots.put key value = front ++ (slot.1, value) :: back) ∨
    (∀ slot ∈ slots, key.sameKey slot.1 = false) ∧
      slots.put key value = slots ++ [(key, value)] := by
  induction slots with
  | nil => exact .inr ⟨List.forall_mem_nil _, rfl⟩
  | cons slot rest ih =>
      rw [put]
      by_cases hsame : key.sameKey slot.1
      · rw [if_pos hsame]
        exact .inl ⟨[], slot, rest, rfl, hsame, rfl⟩
      · rw [if_neg hsame]
        rcases ih with ⟨front, found, back, rfl, hfound, hput⟩ | ⟨habsent, hput⟩
        · rw [hput]
          exact .inl ⟨slot :: front, found, back, rfl, hfound, rfl⟩
        · rw [hput]
          exact .inr ⟨List.forall_mem_cons.mpr ⟨Bool.eq_false_iff.mpr hsame, habsent⟩, rfl⟩

theorem erase_sublist (slots : Slots) (key : Value) : (slots.erase key).Sublist slots := by
  induction slots with
  | nil => exact .slnil
  | cons slot rest ih =>
      rw [erase]
      split
      · exact List.sublist_cons_self slot rest
      · exact ih.cons_cons slot

/-- An assignment leaves no contents but what was there and the value. -/
theorem forall_contents_assign {p : Value → Prop} (h : ∀ slot ∈ slots, p slot.2) (hvalue : p value)
    (hassign : slots.assign key value = .ok assigned) : ∀ slot ∈ assigned, p slot.2 := by
  obtain rfl | rfl | ⟨-, rfl⟩ := assign_cases hassign
  · exact h
  · exact fun slot hslot => h slot ((erase_sublist slots _).mem hslot)
  · rcases put_cases slots key.slotKey value with ⟨front, old, back, rfl, -, hput⟩ | ⟨-, hput⟩
    · rw [hput]
      rw [List.forall_mem_append, List.forall_mem_cons] at h ⊢
      exact ⟨h.1, hvalue, h.2.2⟩
    · rw [hput, List.forall_mem_append, List.forall_mem_singleton]
      exact ⟨h, hvalue⟩

/-- The slot of a key that is not among those of the slots is put at the end. -/
theorem put_of_absent (h : ∀ slot ∈ slots, key.sameKey slot.1 = false) (value : Value) :
    slots.put key value = slots ++ [(key, value)] := by
  rcases put_cases slots key value with ⟨front, slot, back, rfl, hsame, -⟩ | ⟨-, hput⟩
  · have habsent := h slot (List.mem_append_right _ List.mem_cons_self)
    rw [hsame] at habsent
    cases habsent
  · exact hput

theorem erase_of_absent (h : ∀ slot ∈ slots, key.sameKey slot.1 = false) :
    slots.erase key = slots := by
  induction slots with
  | nil => rfl
  | cons slot rest ih =>
      obtain ⟨hslot, hrest⟩ := List.forall_mem_cons.mp h
      rw [erase, hslot, if_neg Bool.false_ne_true, ih hrest]

/-! ### Slots that assignments make -/

/-- Every key can be looked up and stands as it does in a slot, and no two address the same slot. -/
structure Regular (slots : Slots) : Prop where
  hashable : slots.IsHashable
  normal : ∀ slot ∈ slots, slot.1.slotKey = slot.1
  distinct : (slots.filterMap fun slot => slot.1.keyIdentity?).Nodup

theorem Regular.nil : Regular [] :=
  ⟨List.forall_mem_nil _, List.forall_mem_nil _, .nil⟩

theorem Regular.sublist (h : slots.Regular) {fewer : Slots} (hfewer : fewer.Sublist slots) :
    fewer.Regular :=
  ⟨fun slot hslot => h.hashable slot (hfewer.mem hslot),
    fun slot hslot => h.normal slot (hfewer.mem hslot), h.distinct.sublist (hfewer.filterMap _)⟩

/-- Whether slots are regular depends on their keys alone. -/
theorem Regular.of_keys (h : slots.Regular) {other : Slots}
    (hkeys : other.map Prod.fst = slots.map Prod.fst) : other.Regular := by
  have hmem : ∀ slot ∈ other, ∃ old ∈ slots, old.1 = slot.1 := by
    intro slot hslot
    have hkey : slot.1 ∈ slots.map Prod.fst := hkeys ▸ List.mem_map_of_mem hslot
    exact List.mem_map.mp hkey
  refine ⟨fun slot hslot => ?_, fun slot hslot => ?_, ?_⟩
  · obtain ⟨old, hold, heq⟩ := hmem slot hslot
    exact heq ▸ h.hashable old hold
  · obtain ⟨old, hold, heq⟩ := hmem slot hslot
    exact heq ▸ h.normal old hold
  · have hidentities : other.filterMap (fun slot => slot.1.keyIdentity?) =
        slots.filterMap fun slot => slot.1.keyIdentity? := by
      have hmap := congrArg (List.filterMap Value.keyIdentity?) hkeys
      rwa [List.filterMap_map, List.filterMap_map] at hmap
    exact hidentities ▸ h.distinct

theorem Regular.absent_of_cons {slot : Value × Value} {rest : Slots} {i : KeyIdentity}
    (h : Regular (slot :: rest)) (hslot : slot.1.keyIdentity? = some i) :
    ∀ other ∈ rest, other.1.keyIdentity? ≠ some i := by
  intro other hother hsame
  have hapart := h.distinct
  rw [List.filterMap_cons, hslot] at hapart
  exact (List.nodup_cons.mp hapart).1 (List.mem_filterMap.mpr ⟨other, hother, hsame⟩)

theorem Regular.snoc (h : slots.Regular) (hkey : key.unhashable? = none)
    (hnormal : key.slotKey = key) (habsent : ∀ slot ∈ slots, key.sameKey slot.1 = false)
    (value : Value) : Regular (slots ++ [(key, value)]) := by
  refine ⟨?_, ?_, ?_⟩
  · rw [IsHashable, List.forall_mem_append, List.forall_mem_singleton]
    exact ⟨h.hashable, hkey⟩
  · rw [List.forall_mem_append, List.forall_mem_singleton]
    exact ⟨h.normal, hnormal⟩
  · rw [List.filterMap_append, List.nodup_append]
    refine ⟨h.distinct, ?_, ?_⟩
    · cases hidentity : key.keyIdentity? <;> simp [hidentity]
    · intro identity hslot other hother
      obtain ⟨slot, hslot, hfirst⟩ := List.mem_filterMap.mp hslot
      have hlast : key.keyIdentity? = some other := by simpa using hother
      rintro rfl
      have hagrees := (Value.sameKey_iff hlast (h.hashable slot hslot)).mpr hfirst
      rw [habsent slot hslot] at hagrees
      cases hagrees

theorem Regular.assign (h : slots.Regular) (hassign : slots.assign key value = .ok assigned) :
    assigned.Regular := by
  obtain rfl | rfl | ⟨hhashable, rfl⟩ := assign_cases hassign
  · exact h
  · exact h.sublist (erase_sublist slots _)
  · rcases put_cases slots key.slotKey value with ⟨front, old, back, rfl, -, hput⟩ | ⟨habsent, hput⟩
    · refine h.of_keys ?_
      rw [hput, List.map_append, List.map_append, List.map_cons, List.map_cons]
    · rw [hput]
      exact h.snoc hhashable (Value.slotKey_slotKey key) habsent value

/-- A value is put at the end of the order under a key with which the slots stay regular. -/
theorem Regular.assign_snoc (h : Regular (slots ++ [(key, value)])) (hkey : key.isKey)
    (hvalue : value ≠ .nil) : slots.assign key value = .ok (slots ++ [(key, value)]) := by
  have hnormal : key.slotKey = key := h.normal _ (List.mem_append_right _ List.mem_cons_self)
  obtain ⟨i, hi⟩ := Value.isKey_iff.mp hkey
  have habsent : ∀ slot ∈ slots, key.sameKey slot.1 = false := by
    intro slot hslot
    rw [Bool.eq_false_iff]
    intro hsame
    have hagrees := (Value.sameKey_iff hi (h.hashable slot (List.mem_append_left _ hslot))).mp hsame
    have hapart := h.distinct
    rw [List.filterMap_append, List.nodup_append] at hapart
    refine hapart.2.2 i (List.mem_filterMap.mpr ⟨slot, hslot, hagrees⟩) i ?_ rfl
    simp [hi]
  rw [assign_of_isKey hkey hvalue, hnormal, put_of_absent habsent]

/-- What holds of the slots after each assignment holds of them in the end. -/
theorem assignAll_induction {p : Slots → Prop} {fields : Slots} (h : p slots)
    (hstep : ∀ field ∈ fields, ∀ before after : Slots, p before →
      before.assign field.1 field.2 = .ok after → p after)
    (hassigned : slots.assignAll fields = .ok assigned) : p assigned := by
  induction fields generalizing slots with
  | nil =>
      cases hassigned
      exact h
  | cons field rest ih =>
      rw [assignAll] at hassigned
      cases hfirst : slots.assign field.1 field.2 with
      | error why =>
          rw [hfirst] at hassigned
          cases hassigned
      | ok after =>
          rw [hfirst] at hassigned
          have hafter : p after := hstep field List.mem_cons_self slots after h hfirst
          exact ih hafter (fun other hother => hstep other (List.mem_cons_of_mem field hother))
            hassigned

/-- Slots that were made from nothing are regular. -/
theorem regular_of_assignAll {fields : Slots} (h : assignAll [] fields = .ok assigned) :
    assigned.Regular :=
  assignAll_induction .nil (fun _ _ _ _ hbefore => hbefore.assign) h

end Slots

end TemplateScript
