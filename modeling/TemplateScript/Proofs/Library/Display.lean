import Mathlib.Algebra.Ring.Int.Defs
import TemplateScript.Library.Arguments
import TemplateScript.Proofs.Value.HostForm

/-!
# Texts of the host's forms

A value and its form for the host show the same text: the list of a table shows the contents of its
positions as the table does, a mapping shows the keys and the contents of its slots, and what is
nested in them shows the same by the same argument. One has a text exactly if the other does.
-/

namespace TemplateScript

/-! ### Texts of slots -/

theorem nestedSlots_eq_map (slots : Slots) :
    nestedSlots slots =
      slots.map fun slot => (slot.1, ⟨slot.1.text .nested, slot.2.text .nested⟩) := by
  induction slots with
  | nil => rfl
  | cons slot rest ih => rw [nestedSlots, ih, List.map_cons]

theorem textList_eq_map (form : TextForm) (items : List Value) :
    textList form items = items.map (Value.text form) := by
  induction items with
  | nil => rfl
  | cons v rest ih => rw [textList, ih, List.map_cons]

theorem isSequence_nestedSlots (slots : Slots) :
    isSequence (nestedSlots slots) = isSequence slots := by
  have hleft := isSequence_map (g := SlotTexts.contents) (fun _ _ => rfl)
    (rfl : (nestedSlots slots).map (Prod.map id SlotTexts.contents) = _)
  have hright := isSequence_map (g := Value.text .nested) (fun _ _ => rfl)
    (rfl : slots.map (Prod.map id (Value.text .nested)) = _)
  rw [← hleft, ← hright, nestedSlots_eq_map, List.map_map]
  rfl

/-- The contents of the positions show as the items of a list. -/
theorem contents_sequenceOf_nestedSlots (slots : Slots) :
    (sequenceOf (nestedSlots slots)).map SlotTexts.contents =
      textList .nested (sequenceOf slots) := by
  have hleft := sequenceOf_map (g := SlotTexts.contents) (fun _ _ => rfl)
    (rfl : (nestedSlots slots).map (Prod.map id SlotTexts.contents) = _)
  have hright := sequenceOf_map (g := Value.text .nested) (fun _ _ => rfl)
    (rfl : slots.map (Prod.map id (Value.text .nested)) = _)
  rw [← hleft, textList_eq_map, ← hright, nestedSlots_eq_map, List.map_map]
  rfl

/-- A table shows as the list or the mapping that it is. -/
theorem slotsText_nestedSlots {form : TextForm} (h : form ≠ .description) (slots : Slots) :
    slotsText (nestedSlots slots) =
      (if isSequence slots then Value.list (sequenceOf slots) else .dict slots).text form := by
  rw [slotsText, isSequence_nestedSlots, contents_sequenceOf_nestedSlots]
  split
  · rw [Value.text, if_neg h]
  · rw [Value.text, if_neg h]

/-! ### The host's form -/

mutual

/-- The description alone tells a list from a table. -/
theorem Value.text_toHost {form : TextForm} (h : form ≠ .description) (v : Value) :
    v.toHost.text form = v.text form := by
  match v with
  | .table id slots =>
      have hslots : nestedSlots (Value.toHostSlots slots) = nestedSlots slots :=
        nestedSlots_toHostSlots slots
      rw [Value.toHost, ← slotsText_nestedSlots h, hslots, Value.text]
  | .nil | .bool _ | .number _ | .str _ | .list _ | .tuple _ | .multi _ | .dict _ | .expression _
  | .function _ | .bytes _ | .date _ | .dateTime _ | .set _ => rfl

theorem nestedSlots_toHostSlots (slots : List (Value × Value)) :
    nestedSlots (Value.toHostSlots slots) = nestedSlots slots := by
  match slots with
  | [] => rfl
  | (key, value) :: rest =>
      rw [Value.toHostSlots, nestedSlots, nestedSlots, Value.text_toHost (by decide) value,
        nestedSlots_toHostSlots rest]

end

theorem writableList_eq_all (items : List Value) :
    writableList items = items.all Value.isWritable := by
  induction items with
  | nil => rfl
  | cons v rest ih => rw [writableList, ih, List.all_cons]

theorem writableContents_eq_all (slots : Slots) :
    writableContents slots = (slots.map Prod.snd).all Value.isWritable := by
  induction slots with
  | nil => rfl
  | cons slot rest ih => rw [writableContents, ih, List.map_cons, List.all_cons]

theorem writableEntries_eq_all (entries : Slots) : writableEntries entries =
    entries.all fun slot => slot.1.isWritable && slot.2.isWritable := by
  induction entries with
  | nil => rfl
  | cons slot rest ih => rw [writableEntries, ih, List.all_cons]

/-- All contents of a sequence stand at its positions. -/
theorem writableList_sequenceOf {slots : Slots} (h : isSequence slots) :
    writableList (sequenceOf slots) = writableContents slots := by
  rw [writableList_eq_all, writableContents_eq_all]
  exact (sequenceOf_perm h).all_eq

mutual

theorem Value.isWritable_toHost (v : Value) : v.toHost.isWritable = v.isWritable := by
  match v with
  | .table id slots =>
      have hmap : Value.toHostSlots slots = slots.map (Prod.map (fun key => key) Value.toHost) :=
        Value.toHostSlots_eq_map slots
      have hsequence : isSequence (Value.toHostSlots slots) = isSequence slots :=
        isSequence_map (fun _ _ => rfl) hmap
      rw [Value.toHost, Value.isWritable, ← hsequence]
      split
      · next h =>
          rw [Value.isWritable, writableList_sequenceOf h, writableContents_toHostSlots slots]
      · rw [Value.isWritable, writableEntries_toHostSlots slots]
  | .nil | .bool _ | .number _ | .str _ | .list _ | .tuple _ | .multi _ | .dict _ | .expression _
  | .function _ | .bytes _ | .date _ | .dateTime _ | .set _ => rfl

theorem writableContents_toHostSlots (slots : List (Value × Value)) :
    writableContents (Value.toHostSlots slots) = writableContents slots := by
  match slots with
  | [] => rfl
  | (key, value) :: rest =>
      rw [Value.toHostSlots, writableContents, writableContents, Value.isWritable_toHost value,
        writableContents_toHostSlots rest]

theorem writableEntries_toHostSlots (slots : List (Value × Value)) :
    writableEntries (Value.toHostSlots slots) = writableEntries slots := by
  match slots with
  | [] => rfl
  | (key, value) :: rest =>
      rw [Value.toHostSlots, writableEntries, writableEntries, Value.isWritable_toHost value,
        writableEntries_toHostSlots rest]

end

namespace Value

theorem displayText_eq_text {v : Value} (h : ∀ e, v ≠ .expression e) :
    v.displayText = v.text .plain := by
  cases v with
  | expression e => exact absurd rfl (h e)
  | _ => rfl

theorem display_eq (v : Value) : v.display =
    if v.isWritable then .ok (String.ofList v.displayText) else .error .tooManyDigits := by
  rw [display, display?]
  cases v.isWritable <;> rfl

theorem display_str (s : String) : (str s).display = .ok s := by
  have htext : String.ofList (str s).displayText = s := String.ofList_toList
  rw [display_eq, htext]
  rfl

theorem displayText_toHost (v : Value) : v.toHost.displayText = v.displayText := by
  cases v with
  | table id slots =>
      have htext : (table id slots).toHost.text .plain = (table id slots).text .plain :=
        text_toHost (by decide) _
      rw [displayText_eq_text, displayText_eq_text, htext]
      · exact fun e => nofun
      · intro e heq
        rw [toHost] at heq
        split at heq <;> cases heq
  | _ => rfl

/-- A value shows the same text before and after the conversion, or fails in both. -/
theorem display_toHost (v : Value) : v.toHost.display = v.display := by
  rw [display_eq, display_eq, isWritable_toHost, displayText_toHost]

/-- An integer with one digit more than can be written. -/
theorem digitLimit_lt_length_power :
    digitLimit < (decimalDigits ((10 : Int) ^ digitLimit).natAbs).length := by
  have hten : (10 : Int).natAbs = 10 := rfl
  refine Nat.lt_of_not_le fun hle => ?_
  rw [decimalDigits, Nat.length_toDigits_le_iff (by decide) (by decide), Int.natAbs_pow,
    hten] at hle
  exact Nat.lt_irrefl _ hle

theorem isWritable_of_long {n : Int} (h : digitLimit < (decimalDigits n.natAbs).length) :
    (ofInt n).isWritable = false := by
  rw [ofInt, isWritable, integerText?, if_neg (Nat.not_le.mpr h)]
  rfl

theorem display_of_long {n : Int} (h : digitLimit < (decimalDigits n.natAbs).length) :
    (ofInt n).display = .error .tooManyDigits := by
  rw [display_eq, isWritable_of_long h]
  rfl

end Value

end TemplateScript
