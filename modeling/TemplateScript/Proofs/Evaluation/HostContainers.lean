import Mathlib.Algebra.Ring.Int.Defs
import TemplateScript.Evaluation.Operators
import TemplateScript.Proofs.Value.TableForm

/-!
# Containers of the host beside their tables

A list of the host and the table it becomes read alike under every key but two kinds: true, which
addresses the first slot of the table and nothing in the list, and an integer past the largest
floating-point number, which the list fails to look at. Their lengths are the same. A mapping with
texts as keys and its table read alike under every key, but the length of the mapping is the number
of its entries and that of the table is zero.
-/

namespace TemplateScript

open Operators

section

variable (frame : Frame) (globals : Bindings) (loc : Option Location) (subject : Subject)

/-- Indexing the two under a key gives two values of which the second is what the first becomes as
a table; nil on one side is nil on the other. -/
def ReadAlike (v t key : Value) : Prop :=
  ∃ a b, index frame globals v key loc subject = .ok a ∧
    index frame globals t key loc subject = .ok b ∧ a.BecomesTable b ∧ (a = .nil ↔ b = .nil)

end

namespace Operators

theorem slot_of_hashable {slots : Slots} {key : Value} (h : key.unhashable? = none) :
    slot slots key = .ok ((slots.find? key.slotKey).getD .nil) := by
  rw [slot, Slots.read, Value.asKey, Value.unhashable?_slotKey, h]
  rfl

theorem slot_ofList_of_isIndex (items : List Value) {key : Value} {i : Int} (h : key.isIndex i) :
    slot (Slots.ofList items) key = .ok (Tables.itemAt items i) := by
  have hkey : key.isKey := Value.isKey_iff.mpr ⟨_, Value.isIndex_iff.mp h⟩
  rw [slot_of_hashable (Value.unhashable?_of_isKey hkey),
    Value.find?_ofList_of_isIndex items ((Value.isIndex_slotKey key i).trans h)]

theorem slot_ofList_of_not_isIndex (items : List Value) {key : Value}
    (hkey : key.unhashable? = none) (h : ∀ i, key.isIndex i = false) :
    slot (Slots.ofList items) key = .ok .nil := by
  rw [slot_of_hashable hkey, Value.find?_ofList_eq_none items fun i =>
    (Value.isIndex_slotKey key i).trans (h i)]
  rfl

theorem item_of_toInt? (items : List Value) {n : Number} {x : Binary64} {i : Int}
    (hfloat : n.toFloat = .ok x) (hint : n.toInt? = some i) :
    item items (.number n) = .ok (Tables.itemAt items i) := by
  rw [item, hfloat, hint]
  rfl

theorem item_of_not_toInt? (items : List Value) {n : Number} {x : Binary64}
    (hfloat : n.toFloat = .ok x) (hint : n.toInt? = none) :
    item items (.number n) = .ok .nil := by
  rw [item, hfloat, hint]
  rfl

theorem item_of_toFloat_error (items : List Value) {n : Number} {why : NumberFault}
    (h : n.toFloat = .error why) : item items (.number n) = .error (.host (.ofNumber why)) := by
  rw [item, h]
  rfl

end Operators

theorem Value.isIndex_number_iff {n : Number} {i : Int} :
    (number n).isIndex i = true ↔ n.toInt? = some i := by
  rw [isIndex_iff, keyIdentity?, Option.map_eq_some_iff]
  constructor
  · rintro ⟨v, hv, hi⟩
    obtain rfl := KeyIdentity.number.inj hi
    exact Number.toInt?_of_exactValue? hv
  · intro hint
    exact ⟨_, Number.exactValue?_of_toInt? hint, rfl⟩

theorem Value.unhashable?_of_isScalar {key : Value} (h : key.isScalar) :
    key.unhashable? = none := by
  cases key <;> first | rfl | cases h

section

variable {frame : Frame} {globals : Bindings} {loc : Option Location} {subject : Subject}
  {items converted : List Value} {key : Value}

theorem ReadAlike.of_becomesTable {v t a b : Value}
    (hv : index frame globals v key loc subject = .ok a)
    (ht : index frame globals t key loc subject = .ok b) (h : a.BecomesTable b) :
    ReadAlike frame globals loc subject v t key :=
  ⟨a, b, hv, ht, h, h.nil_iff⟩

/-- Numbers that are no position and keys of the other kinds read nothing. -/
theorem readAlike_list (h : List.Forall₂ Value.BecomesTable items converted) (number : Nat)
    (hkey : key.isScalar) (htrue : key ≠ .bool true)
    (hsmall : ∀ n, key = .number n → ∃ x, n.toFloat = .ok x) :
    ReadAlike frame globals loc subject (.list items) (.table number (Slots.ofList converted))
      key := by
  have hhashable := Value.unhashable?_of_isScalar hkey
  have hnothing (hitem : item items key = .ok .nil) (hno : ∀ i, key.isIndex i = false) :
      ReadAlike frame globals loc subject (.list items) (.table number (Slots.ofList converted))
        key :=
    .of_becomesTable hitem (slot_ofList_of_not_isIndex converted hhashable hno)
      Value.becomesTable_nil
  cases key with
  | number n =>
      obtain ⟨x, hx⟩ := hsmall n rfl
      cases hint : n.toInt? with
      | some i =>
          exact .of_becomesTable (item_of_toInt? items hx hint)
            (slot_ofList_of_isIndex converted (Value.isIndex_number_iff.mpr hint))
            (Value.itemAt_becomesTable h i)
      | none =>
          refine hnothing (item_of_not_toInt? items hx hint) fun i => ?_
          rw [Bool.eq_false_iff, ne_eq, Value.isIndex_number_iff, hint]
          exact nofun
  | bool b =>
      cases b with
      | true => exact absurd rfl htrue
      | false =>
          have hzero : (Value.bool false).isIndex 0 := rfl
          exact .of_becomesTable rfl (slot_ofList_of_isIndex converted hzero)
            Value.becomesTable_nil
  | nil | str _ | function _ => exact hnothing rfl fun _ => rfl
  | _ => cases hkey

theorem readAlike_dict {entries converted : Slots}
    (h : List.Forall₂ (fun entry slot => slot.1 = entry.1 ∧ entry.2.BecomesTable slot.2) entries
      converted) (htexts : entries.HasTexts) (number : Nat) (hkey : key.isScalar) :
    ReadAlike frame globals loc subject (.dict entries)
      (.table number (converted.filter fun slot => !slot.2.isNil)) key := by
  have hhashable := Value.unhashable?_of_isScalar hkey
  refine .of_becomesTable ?_ (slot_of_hashable hhashable) (Slots.find?_texts h htexts key)
  rw [index, entry, hhashable]

end

/-! ### Both kinds of containers -/

/-- A list without nil and its table read alike but under true, where the list has nothing and the
table its first item, and under integers that are too large for the list; their lengths are the
same. A mapping with texts as keys and its table read alike under all keys; the mapping has the
number of its entries as length, and the table zero. -/
theorem hostContainers_read (frame : Frame) (globals : Bindings) (loc : Option Location)
    (subject : Subject) :
    (∀ items, (∀ item ∈ items, item ≠ .nil) → Value.allConvertible items → ∀ n, ∃ t n',
      (Value.list items).toTable.run n = .ok (t, n') ∧
      (∀ key, key.isScalar → ∃ b, index frame globals t key loc subject = .ok b) ∧
      (∀ key, key.isScalar → key ≠ .bool true →
        (∀ m, key = .number m → ∃ x, m.toFloat = .ok x) →
          ReadAlike frame globals loc subject (.list items) t key) ∧
      index frame globals (.list items) (.bool true) loc subject = .ok .nil ∧
      index frame globals t (.bool true) loc subject =
        index frame globals t (.ofInt 1) loc subject ∧
      (∀ m why, m.toFloat = .error why →
        index frame globals (.list items) (.number m) loc subject =
          .error (.host (.ofNumber why))) ∧
      unary frame .length (.list items) loc subject = .ok (.ofInt items.length) ∧
      unary frame .length t loc subject = .ok (.ofInt items.length)) ∧
    (∀ entries : Slots, entries.HasTexts → Value.areConvertible entries → ∀ n, ∃ t n',
      (Value.dict entries).toTable.run n = .ok (t, n') ∧
      (∀ key, key.isScalar → ReadAlike frame globals loc subject (.dict entries) t key) ∧
      unary frame .length (.dict entries) loc subject = .ok (.ofInt entries.length) ∧
      unary frame .length t loc subject = .ok (.ofInt 0)) := by
  refine ⟨fun items hitems hconvertible n => ?_, fun entries htexts hconvertible n => ?_⟩
  · obtain ⟨converted, n', hrun, hconverted⟩ := Value.exists_toTableList hconvertible (n + 1)
    refine ⟨.table n (Slots.ofList converted), n', Value.run_toTable_list hrun,
      fun key hkey => ⟨_, slot_of_hashable (Value.unhashable?_of_isScalar hkey)⟩,
      fun key => readAlike_list hconverted n, rfl, ?_,
      fun m why hlarge => item_of_toFloat_error items hlarge, rfl, ?_⟩
    · have htrue : (Value.bool true).isIndex 1 := rfl
      have hone : (Value.ofInt 1).isIndex 1 := rfl
      exact (slot_ofList_of_isIndex converted htrue).trans
        (slot_ofList_of_isIndex converted hone).symm
    · rw [unary, Value.border_ofList (Value.ne_nil_of_becomesTable hconverted hitems),
        hconverted.length_eq]
  · obtain ⟨converted, n', hrun, hconverted, -⟩ :=
      Value.exists_toTableSlots hconvertible (n + 1)
    have hkeys : Slots.HasTexts converted := htexts.of_converted hconverted
    have hslots : Slots.assignAll [] converted =
        .ok ([] ++ converted.filter fun slot => !slot.2.isNil) := Slots.assignAll_texts hkeys
    refine ⟨_, n', Value.run_toTable_dict hrun hslots,
      fun key => readAlike_dict hconverted htexts n, rfl, ?_⟩
    rw [List.nil_append, unary, Slots.border_texts]
    · rfl
    · exact fun slot hslot => hkeys.texts slot (List.mem_of_mem_filter hslot)

/-- An item that is a list becomes a table inside the table. -/
theorem hostContainers_read_nested :
    let frame : Frame := ⟨some [], none, none⟩
    let items : List Value := [.str "a", .list [.ofInt 1]]
    let entries : Slots := [(.str "a", .ofInt 1), (.str "b", .nil)]
    (∃ t n', (Value.list items).toTable.run 0 = .ok (t, n') ∧
      ReadAlike frame [] none .anonymous (.list items) t (.ofInt 2) ∧
      unary frame .length t none .anonymous = .ok (.ofInt 2)) ∧
    ∃ t n', (Value.dict entries).toTable.run 0 = .ok (t, n') ∧
      ReadAlike frame [] none .anonymous (.dict entries) t (.str "a") ∧
      unary frame .length (.dict entries) none .anonymous = .ok (.ofInt 2) ∧
      unary frame .length t none .anonymous = .ok (.ofInt 0) := by
  intro frame items entries
  obtain ⟨hlist, hdict⟩ := hostContainers_read frame [] none .anonymous
  have hitems : ∀ item ∈ items, item ≠ .nil := by
    simp [items, Value.ofInt]
  have htexts : entries.HasTexts := by
    refine ⟨?_, ?_⟩
    · simp [entries]
    · simp [entries]
  refine ⟨?_, ?_⟩
  · obtain ⟨t, n', hrun, -, halike, -, -, -, -, hlength⟩ := hlist items hitems rfl 0
    have hkey : Value.ofInt 2 ≠ .bool true := Value.noConfusion
    refine ⟨t, n', hrun, halike (.ofInt 2) rfl hkey fun m hm => ?_, hlength⟩
    obtain rfl := Value.number.inj hm
    exact ⟨_, rfl⟩
  · obtain ⟨t, n', hrun, halike, hlength, hzero⟩ := hdict entries htexts rfl 0
    exact ⟨t, n', hrun, halike (.str "a") rfl, hlength, hzero⟩

/-- An integer that no floating-point number reaches reads nil in the table of a list, and fails in
the list itself; a mapping and its table have different lengths. -/
theorem hostContainers_read_apart :
    let frame : Frame := ⟨some [], none, none⟩
    let large : Value := .ofInt (10 ^ 309)
    (Value.list [.ofInt 1]).toTable.run 0 = .ok (.table 0 [(.ofInt 1, .ofInt 1)], 1) ∧
      index frame [] (.list [.ofInt 1]) large none .anonymous =
        .error (.host .integerTooLarge) ∧
      index frame [] (.table 0 [(.ofInt 1, .ofInt 1)]) large none .anonymous = .ok .nil ∧
      (Value.dict [(.str "a", .ofInt 1)]).toTable.run 0 =
        .ok (.table 0 [(.str "a", .ofInt 1)], 1) ∧
      unary frame .length (.dict [(.str "a", .ofInt 1)]) none .anonymous = .ok (.ofInt 1) ∧
      unary frame .length (.table 0 [(.str "a", .ofInt 1)]) none .anonymous = .ok (.ofInt 0) := by
  refine ⟨rfl, ?_, ?_, rfl, rfl, rfl⟩
  · have hinfinite : Binary64.ofInt (10 ^ 309) = .infinite false := by decide +kernel
    have hlarge : (Number.int (10 ^ 309)).toFloat = .error .integerTooLarge := by
      rw [Number.toFloat, hinfinite]
    exact item_of_toFloat_error _ hlarge
  · have hindex : (Value.ofInt (10 ^ 309)).isIndex (10 ^ 309) := Value.isIndex_number_iff.mpr rfl
    have hlength : (([Value.ofInt 1].length : Nat) : Int) < 10 ^ 309 := by decide +kernel
    exact (slot_ofList_of_isIndex [.ofInt 1] hindex).trans
      (congrArg Except.ok (Value.itemAt_of_length_lt hlength))

end TemplateScript
