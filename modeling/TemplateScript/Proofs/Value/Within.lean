import TemplateScript.Proofs.Expr.Displayed
import TemplateScript.Proofs.Library.Display

/-!
# Values within containers

What a container shows of a value at any depth is the nested text of that value, and it stands
between delimiters: behind a brace, a bracket or a blank, and before a comma, a brace or a bracket.
-/

namespace TemplateScript

/-! ### Delimited texts -/

/-- A piece stands in a text between delimiters. -/
def Delimits (text piece : List Char) : Prop :=
  ∃ before after, text = before ++ piece ++ after ∧
    (∃ c ∈ before.getLast?, c ∈ ['\x7b', '[', ' ']) ∧ ∃ c ∈ after.head?, c ∈ [',', ']', '\x7d']

theorem Delimits.trans {text middle piece : List Char} (h : Delimits text middle)
    (hmiddle : Delimits middle piece) : Delimits text piece := by
  obtain ⟨before, after, rfl, -, -⟩ := h
  obtain ⟨front, back, rfl, ⟨c, hlast, hc⟩, ⟨d, hfirst, hd⟩⟩ := hmiddle
  refine ⟨before ++ front, back ++ after, by simp, ⟨c, ?_, hc⟩, ⟨d, ?_, hd⟩⟩
  · rw [List.getLast?_append, Option.mem_def.mp hlast]
    rfl
  · rw [List.head?_append, Option.mem_def.mp hfirst]
    rfl

section

variable {part : List Char} {parts : List (List Char)}

theorem commaSeparated_split (h : part ∈ parts) :
    ∃ before after, commaSeparated parts = before ++ part ++ after ∧
      (before = [] ∨ ∃ front, before = front ++ [' ']) ∧
      (after = [] ∨ ∃ back, after = ',' :: back) := by
  obtain ⟨front, back, rfl⟩ := List.append_of_mem h
  have hback : back.flatMap ([',', ' '] ++ ·) = [] ∨
      ∃ rest, back.flatMap ([',', ' '] ++ ·) = ',' :: rest := by
    cases back with
    | nil => exact .inl rfl
    | cons next rest => exact .inr ⟨_, rfl⟩
  cases front with
  | nil =>
      exact ⟨[], back.flatMap ([',', ' '] ++ ·), commaSeparated_cons part back, .inl rfl, hback⟩
  | cons first front =>
      refine ⟨first ++ front.flatMap ([',', ' '] ++ ·) ++ [',', ' '],
        back.flatMap ([',', ' '] ++ ·), ?_, .inr ⟨_, List.append_cons _ ',' [' ']⟩, hback⟩
      rw [List.cons_append, commaSeparated_cons, List.flatMap_append, List.flatMap_cons]
      simp

theorem delimits_inBraces (h : part ∈ parts) : Delimits (inBraces parts) part := by
  obtain ⟨before, after, hsplit, hbefore, hafter⟩ := commaSeparated_split h
  refine ⟨'\x7b' :: before, after ++ ['\x7d'], ?_, ?_, ?_⟩
  · rw [inBraces, hsplit]
    simp
  · rcases hbefore with rfl | ⟨front, rfl⟩
    · exact ⟨'\x7b', rfl, by decide⟩
    · exact ⟨' ', by rw [← List.cons_append, List.getLast?_append]; rfl, by decide⟩
  · rcases hafter with rfl | ⟨back, rfl⟩
    · exact ⟨'\x7d', rfl, by decide⟩
    · exact ⟨',', rfl, by decide⟩

/-- What is behind the sign of a slot stands before a delimiter if the slot does. -/
theorem delimits_contents (h : part ∈ parts) {key contents : List Char}
    (hslot : part = slotText key contents) : Delimits (inBraces parts) contents := by
  obtain ⟨before, after, hbraces, -, hafter⟩ := delimits_inBraces h
  refine ⟨before ++ key ++ " = ".toList, after, ?_, ⟨' ', ?_, by decide⟩, hafter⟩
  · rw [hbraces, hslot, slotText]
    simp
  · rw [List.getLast?_append]
    rfl

theorem delimits_key (h : part ∈ parts) {key contents : List Char}
    (hslot : part = slotText ('[' :: key ++ [']']) contents) : Delimits (inBraces parts) key := by
  obtain ⟨before, after, hbraces, -⟩ := delimits_inBraces h
  refine ⟨before ++ ['['], ']' :: " = ".toList ++ contents ++ after, ?_, ⟨'[', ?_, by decide⟩,
    ⟨']', rfl, by decide⟩⟩
  · rw [hbraces, hslot, slotText]
    simp
  · rw [List.getLast?_append]
    rfl

end

/-! ### Parts of containers -/

namespace Value

/-- What a list shows its items, a mapping its contents and its keys in brackets, and a table what
the list or the mapping shows that it is. -/
inductive IsPart (v : Value) : Value → Prop
  | item {items : List Value} (h : v ∈ items) : IsPart v (.list items)
  | component {items : List Value} (h : v ∈ items) : IsPart v (.tuple items)
  | contents {key : Value} {entries : List (Value × Value)} (h : (key, v) ∈ entries) :
      IsPart v (.dict entries)
  | key {contents : Value} {entries : List (Value × Value)} (hbrackets : ∀ s, v ≠ .str s)
      (h : (v, contents) ∈ entries) : IsPart v (.dict entries)
  | slot {key : Value} {id : Nat} {slots : List (Value × Value)} (h : (key, v) ∈ slots) :
      IsPart v (.table id slots)
  | slotKey {contents : Value} {id : Nat} {slots : List (Value × Value)}
      (hkeys : isSequence slots = false) (hbrackets : ∀ s, v ≠ .str s)
      (h : (v, contents) ∈ slots) : IsPart v (.table id slots)

/-- A value is in a container at some depth. -/
inductive ShownWithin (v : Value) : Value → Prop
  | part {w : Value} (h : IsPart v w) : ShownWithin v w
  | deeper {u w : Value} (h : ShownWithin v u) (hpart : IsPart u w) : ShownWithin v w

variable {v w : Value} {form : TextForm}

theorem keyText_of_brackets (h : ∀ s, v ≠ .str s) (text : List Char) :
    keyText v text = '[' :: text ++ [']'] := by
  cases v with
  | str s => exact absurd rfl (h s)
  | _ => rfl

theorem delimits_list {items : List Value} (h : v ∈ items) :
    Delimits (inBraces (textList .nested items)) (v.text .nested) := by
  rw [textList_eq_map]
  exact delimits_inBraces (List.mem_map_of_mem h)

theorem delimits_dict_contents {key : Value} {entries : List (Value × Value)}
    (h : (key, v) ∈ entries) :
    Delimits (inBraces ((nestedSlots entries).map entryText)) (v.text .nested) := by
  rw [nestedSlots_eq_map, List.map_map]
  exact delimits_contents (List.mem_map_of_mem h) rfl

theorem delimits_dict_key {contents : Value} {entries : List (Value × Value)}
    (hbrackets : ∀ s, v ≠ .str s) (h : (v, contents) ∈ entries) :
    Delimits (inBraces ((nestedSlots entries).map entryText)) (v.text .nested) := by
  have hslot : entryText (v, ⟨v.text .nested, contents.text .nested⟩) =
      slotText ('[' :: v.text .nested ++ [']']) (contents.text .nested) := by
    rw [entryText, keyText_of_brackets hbrackets]
  rw [nestedSlots_eq_map, List.map_map]
  exact delimits_key (List.mem_map_of_mem h) hslot

theorem IsPart.delimits (h : IsPart v w) (hform : form ≠ .description) :
    Delimits (w.text form) (v.text .nested) := by
  cases h with
  | item h =>
      rw [Value.text, if_neg hform]
      exact delimits_list h
  | component h =>
      rw [Value.text, if_neg hform]
      exact delimits_list h
  | contents h =>
      rw [Value.text, if_neg hform]
      exact delimits_dict_contents h
  | key hbrackets h =>
      rw [Value.text, if_neg hform]
      exact delimits_dict_key hbrackets h
  | @slot key id slots h =>
      rw [Value.text, slotsText_nestedSlots hform]
      split
      · next hsequence =>
          rw [Value.text, if_neg hform]
          refine delimits_list ((sequenceOf_perm hsequence).mem_iff.mpr ?_)
          exact List.mem_map.mpr ⟨(key, v), h, rfl⟩
      · rw [Value.text, if_neg hform]
        exact delimits_dict_contents h
  | slotKey hkeys hbrackets h =>
      rw [Value.text, slotsText_nestedSlots hform, if_neg (by rw [hkeys]; exact Bool.false_ne_true),
        Value.text, if_neg hform]
      exact delimits_dict_key hbrackets h

/-- What a container shows of a value at any depth is the nested text of it. -/
theorem ShownWithin.delimits (h : ShownWithin v w) (hform : form ≠ .description) :
    Delimits (w.text form) (v.text .nested) := by
  induction h generalizing form with
  | part h => exact h.delimits hform
  | deeper _ hpart ih => exact (hpart.delimits hform).trans (ih (by decide))

theorem IsPart.displayText (h : IsPart v w) : w.displayText = w.text .plain := by
  cases h <;> rfl

theorem ShownWithin.displayText (h : ShownWithin v w) : w.displayText = w.text .plain := by
  cases h with
  | part h => exact h.displayText
  | deeper _ hpart => exact hpart.displayText

end Value

end TemplateScript
