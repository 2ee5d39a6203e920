import TemplateScript.Proofs.Number.Exact
import TemplateScript.Proofs.Value.Inheritance

/-!
# Keys of slots

What a table finds under a key is decided by the identity of the key: the exact value of a number,
the characters of a text, the number of a table, the name of a function. True and false have the
identities of one and zero. The language compares by the same identities, but only values of one
kind. So an assignment shows under the keys that equal its own and, beside them, under those that
count as it across the kinds of numbers and truth values; every other key reads what it read before.
-/

namespace TemplateScript

/-- What makes two keys address the same slot. -/
inductive KeyIdentity where
  | number (v : ExactValue)
  | text (s : String)
  | table (id : Nat)
  | function (f : Function)
deriving DecidableEq

namespace Value

variable {a b : Value} {i : KeyIdentity}

def keyIdentity? : Value → Option KeyIdentity
  | .bool b => some (.number (.fraction (if b then 1 else 0)))
  | .number n => n.exactValue?.map .number
  | .str s => some (.text s)
  | .table id _ => some (.table id)
  | .function f => some (.function f)
  | _ => none

/-- The keys that a script can use: all but a NaN, of the kinds that do not change. -/
def isKey : Value → Bool
  | .bool _ | .str _ | .table _ _ | .function _ => true
  | .number n => !n.isNan
  | _ => false

/-- A truth value and a number that is one for true and zero for false. -/
def countsAs : Value → Value → Bool
  | .bool b, .number n | .number n, .bool b => n.beq (.int (if b then 1 else 0))
  | _, _ => false

theorem isKey_iff : a.isKey = true ↔ ∃ i, a.keyIdentity? = some i := by
  cases a with
  | number n =>
      rw [isKey, Bool.not_eq_true', ← Number.isSome_exactValue?, Option.isSome_iff_exists]
      simp [keyIdentity?]
  | _ => simp [isKey, keyIdentity?]

theorem unhashable?_of_isKey (h : a.isKey) : a.unhashable? = none := by
  cases a <;> first | rfl | cases h

/-! ### The three equalities by identities -/

theorem keyIdentity?_of_asNumber? {n : Number} (h : a.asNumber? = some n) :
    a.keyIdentity? = n.exactValue?.map .number := by
  cases a with
  | bool b =>
      cases h
      cases b <;> rfl
  | number m =>
      cases h
      rfl
  | _ => cases h

/-- A number and any other value: the identities decide where the other value counts as a number,
and differ where it does not. -/
theorem keyIdentity?_eq_number {v : ExactValue} :
    b.keyIdentity? = some (.number v) ↔ ∃ n, b.asNumber? = some n ∧ n.exactValue? = some v := by
  cases b with
  | bool b => cases b <;> simp [keyIdentity?, asNumber?, Number.exactValue?]
  | number n => simp [keyIdentity?, asNumber?]
  | _ => simp [keyIdentity?, asNumber?]

theorem agrees_number_iff {comparing : Comparing} {m : Number} {v : ExactValue}
    (h : m.exactValue? = some v) :
    (number m).agrees comparing b = true ↔ b.keyIdentity? = some (.number v) := by
  rw [keyIdentity?_eq_number]
  cases hnumber : b.asNumber? with
  | some n => simp [agrees, hnumber, Number.isSame_iff h]
  | none => simp [agrees, hnumber]

theorem agrees_bool (comparing : Comparing) (truth : Bool) :
    (bool truth).agrees comparing b =
      (number (.int (if truth then 1 else 0))).agrees comparing b := by
  rw [agrees, agrees]

theorem agrees_str_iff {comparing : Comparing} {s : String} :
    (str s).agrees comparing b = true ↔ b.keyIdentity? = some (.text s) := by
  cases b with
  | str t => simpa [agrees, keyIdentity?] using eq_comm
  | _ => simp [agrees, keyIdentity?]

theorem agrees_function_iff {comparing : Comparing} {f : Function} :
    (function f).agrees comparing b = true ↔ b.keyIdentity? = some (.function f) := by
  cases b with
  | function g => simpa [agrees, keyIdentity?] using eq_comm
  | _ => simp [agrees, keyIdentity?]

/-- A mapping of the host may agree with a table, but is no key. -/
theorem agrees_table_iff {comparing : Comparing} {id : Nat} {slots : Slots}
    (hb : b.unhashable? = none) :
    (table id slots).agrees comparing b = true ↔ b.keyIdentity? = some (.table id) := by
  cases b with
  | table id' slots' => simpa [agrees, keyIdentity?] using eq_comm
  | dict entries => cases hb
  | _ => simp [agrees, keyIdentity?]

/-- A hashable value agrees with a key exactly if it has the identity of the key. -/
theorem agrees_iff {comparing : Comparing} (ha : a.keyIdentity? = some i)
    (hb : b.unhashable? = none) : a.agrees comparing b = true ↔ b.keyIdentity? = some i := by
  cases a with
  | bool truth =>
      rw [agrees_bool, agrees_number_iff (v := .fraction (if truth then 1 else 0)), ← ha]
      · rfl
      · cases truth <;> rfl
  | number m =>
      obtain ⟨v, hv, rfl⟩ := Option.map_eq_some_iff.mp ha
      exact agrees_number_iff hv
  | str s =>
      cases ha
      exact agrees_str_iff
  | table id slots =>
      cases ha
      exact agrees_table_iff hb
  | function f =>
      cases ha
      exact agrees_function_iff
  | _ => cases ha

theorem sameKey_iff (ha : a.keyIdentity? = some i) (hb : b.unhashable? = none) :
    a.sameKey b = true ↔ b.keyIdentity? = some i :=
  agrees_iff ha hb

theorem hostEq_iff {j : KeyIdentity} (ha : a.keyIdentity? = some i)
    (hb : b.keyIdentity? = some j) : a.hostEq b = true ↔ i = j := by
  have hagrees : a.agrees .contents b = true ↔ i = j := by
    rw [agrees_iff ha (unhashable?_of_isKey (isKey_iff.mpr ⟨j, hb⟩)), hb, Option.some.injEq,
      eq_comm]
  rw [hostEq]
  split
  · next m n hm hn =>
      rw [keyIdentity?_of_asNumber? hm, Option.map_eq_some_iff] at ha
      rw [keyIdentity?_of_asNumber? hn, Option.map_eq_some_iff] at hb
      obtain ⟨v, hv, rfl⟩ := ha
      obtain ⟨w, hw, rfl⟩ := hb
      rw [Number.beq_iff, hv, hw, KeyIdentity.number.injEq]
      simp [eq_comm]
  · exact hagrees

theorem bool_countsAs_number_iff {truth : Bool} {n : Number}
    (hb : (number n).keyIdentity? = some i) :
    (bool truth).countsAs (number n) = true ↔ (bool truth).keyIdentity? = some i := by
  obtain ⟨v, hv, rfl⟩ := Option.map_eq_some_iff.mp hb
  rw [countsAs, Number.beq_iff, hv, keyIdentity?, Number.exactValue?]
  cases truth <;> simp

theorem countsAs_comm (a b : Value) : a.countsAs b = b.countsAs a := by
  cases a <;> cases b <;> rfl

/-- Keys of different kinds have the same identity exactly if one counts as the other. -/
theorem countsAs_iff {j : KeyIdentity} (ha : a.keyIdentity? = some i)
    (hb : b.keyIdentity? = some j) : a.countsAs b = true ↔ a.kind ≠ b.kind ∧ i = j := by
  cases a with
  | bool truth =>
      cases b with
      | number n => simp [bool_countsAs_number_iff hb, kind, ha]
      | _ => grind [countsAs, kind, keyIdentity?, Option.map_eq_some_iff]
  | number n =>
      cases b with
      | bool truth => simp [countsAs_comm, bool_countsAs_number_iff ha, kind, hb, eq_comm]
      | _ => grind [countsAs, kind, keyIdentity?, Option.map_eq_some_iff]
  | _ => cases b <;> grind [countsAs, kind, keyIdentity?, Option.map_eq_some_iff]

/-- The identities of two keys are equal exactly if the language finds the keys equal or one
counts as the other. -/
theorem keyIdentity_eq_iff {j : KeyIdentity} (ha : a.keyIdentity? = some i)
    (hb : b.keyIdentity? = some j) : i = j ↔ a.scriptEq b || a.countsAs b := by
  rw [scriptEq, Bool.or_eq_true, Bool.and_eq_true, beq_iff_eq, hostEq_iff ha hb,
    countsAs_iff ha hb, ← or_and_right]
  exact ⟨fun h => ⟨Decidable.em _, h⟩, And.right⟩

theorem keyIdentity?_slotKey (a : Value) : a.slotKey.keyIdentity? = a.keyIdentity? := by
  cases a with
  | number n =>
      rw [slotKey]
      cases hint : n.toInt? with
      | none => rfl
      | some k => exact congrArg (Option.map _) (Number.exactValue?_of_toInt? hint).symm
  | _ => rfl

theorem asKey_slotKey (h : a.isKey) : a.slotKey.asKey = .ok a.slotKey := by
  have hkey : a.slotKey.isKey := by rwa [isKey_iff, keyIdentity?_slotKey, ← isKey_iff]
  rw [asKey, unhashable?_of_isKey hkey]

end Value

/-! ### Slots with keys that are hashable -/

namespace Slots

variable {slots assigned : Slots} {key value : Value}

/-- Every key can be looked up; the slots that assignments make are such. -/
def IsHashable (slots : Slots) : Prop :=
  ∀ slot ∈ slots, slot.1.unhashable? = none

theorem IsHashable.put (h : slots.IsHashable) (hkey : key.unhashable? = none) (value : Value) :
    (slots.put key value).IsHashable := by
  induction slots with
  | nil => exact List.forall_mem_singleton.mpr hkey
  | cons slot rest ih =>
      obtain ⟨hslot, hrest⟩ := List.forall_mem_cons.mp h
      rw [Slots.put]
      split
      · exact List.forall_mem_cons.mpr ⟨hslot, hrest⟩
      · exact List.forall_mem_cons.mpr ⟨hslot, ih hrest⟩

theorem IsHashable.erase (h : slots.IsHashable) (key : Value) : (slots.erase key).IsHashable := by
  induction slots with
  | nil => exact h
  | cons slot rest ih =>
      obtain ⟨hslot, hrest⟩ := List.forall_mem_cons.mp h
      rw [Slots.erase]
      split
      · exact hrest
      · exact List.forall_mem_cons.mpr ⟨hslot, ih hrest⟩

/-- An assignment that succeeds keeps the keys hashable, whatever the key and the value. -/
theorem IsHashable.assign (h : slots.IsHashable) (hassign : slots.assign key value = .ok assigned) :
    assigned.IsHashable := by
  obtain rfl | rfl | ⟨hhashable, rfl⟩ := assign_cases hassign
  · exact h
  · exact h.erase _
  · exact h.put hhashable value

theorem find?_cons (slot : Value × Value) (rest : Slots) (key : Value) :
    find? (slot :: rest) key = if key.sameKey slot.1 then some slot.2 else find? rest key := by
  rw [find?, List.find?_cons]
  split <;> simp_all [find?]

/-- What is found after a slot was filled. -/
theorem find?_put {a b : Value} {i j : KeyIdentity} (h : slots.IsHashable)
    (ha : a.keyIdentity? = some i) (hb : b.keyIdentity? = some j) (value : Value) :
    (slots.put a value).find? b = if i = j then some value else slots.find? b := by
  have hsame : b.sameKey a = true ↔ i = j := by
    rw [Value.sameKey_iff hb (Value.unhashable?_of_isKey (Value.isKey_iff.mpr ⟨i, ha⟩)), ha,
      Option.some.injEq]
  induction slots with
  | nil =>
      rw [put, find?_cons]
      simp only [hsame]
  | cons slot rest ih =>
      obtain ⟨hslot, hrest⟩ := List.forall_mem_cons.mp h
      have hasame : a.sameKey slot.1 = true ↔ slot.1.keyIdentity? = some i :=
        Value.sameKey_iff ha hslot
      have hbsame : b.sameKey slot.1 = true ↔ slot.1.keyIdentity? = some j :=
        Value.sameKey_iff hb hslot
      rw [put]
      split
      · next hfills =>
          rw [find?_cons, find?_cons]
          simp only [hbsame, hasame.mp hfills, Option.some.injEq]
          split <;> rfl
      · next hother =>
          rw [find?_cons, find?_cons, ih hrest]
          split
          · next hfound =>
              rw [if_neg]
              rintro rfl
              exact hother (hasame.mpr (hbsame.mp hfound))
          · rfl

theorem read_of_isKey (h : key.isKey) : slots.read key = .ok (slots.find? key.slotKey) := by
  rw [read, Value.asKey_slotKey h]
  rfl

theorem assign_of_isKey (h : key.isKey) (hvalue : value ≠ .nil) :
    slots.assign key value = .ok (slots.put key.slotKey value) := by
  have hnil : key ≠ .nil := by
    rintro rfl
    cases h
  rw [assign_of_ne_nil (Value.slotKey_ne_nil hnil) hvalue, Value.asKey_slotKey h]
  rfl

/-- After an assignment to a key the value is read under the keys that equal it in the language and
under those that count as it; every other key reads what it read before. -/
theorem read_assign (hslots : slots.IsHashable) {k₁ k₂ : Value} (hk₁ : k₁.isKey) (hk₂ : k₂.isKey)
    (hvalue : value ≠ .nil) :
    ∃ assigned, slots.assign k₁ value = .ok assigned ∧ assigned.IsHashable ∧
      assigned.read k₂ =
        if k₁.scriptEq k₂ || k₁.countsAs k₂ then .ok (some value) else slots.read k₂ := by
  have hassign : slots.assign k₁ value = .ok (slots.put k₁.slotKey value) :=
    assign_of_isKey hk₁ hvalue
  refine ⟨_, hassign, hslots.assign hassign, ?_⟩
  obtain ⟨i, hi⟩ := Value.isKey_iff.mp hk₁
  obtain ⟨j, hj⟩ := Value.isKey_iff.mp hk₂
  rw [read_of_isKey hk₂, read_of_isKey hk₂,
    find?_put hslots ((Value.keyIdentity?_slotKey k₁).trans hi)
      ((Value.keyIdentity?_slotKey k₂).trans hj)]
  simp only [Value.keyIdentity_eq_iff hi hj]
  split <;> rfl

theorem read_assign_float : ∃ assigned,
    assign [(.ofInt 1, .str "a")] (.ofFloat (.ofInt 2)) (.str "b") = .ok assigned ∧
      assigned.IsHashable ∧ assigned.read (.ofInt 2) = .ok (some (.str "b")) :=
  read_assign (List.forall_mem_singleton.mpr rfl) rfl rfl nofun

/-- True is not one, and yet addresses its slot. -/
theorem read_assign_true :
    Value.scriptEq (.bool true) (.ofInt 1) = false ∧
      assign [] (.bool true) (.str "a") = .ok [(.bool true, .str "a")] ∧
      read [(.bool true, .str "a")] (.ofInt 1) = .ok (some (.str "a")) ∧
      read [] (.ofInt 1) = .ok none :=
  ⟨rfl, rfl, rfl, rfl⟩

end Slots

end TemplateScript
