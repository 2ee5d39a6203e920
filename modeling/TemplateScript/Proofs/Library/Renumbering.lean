import TemplateScript.Proofs.Library.Results
import TemplateScript.Proofs.Value.Containment

/-!
# Library functions under other numbers

What a plain library function does with its arguments does not depend on the numbers in them. Most
have a result in which nothing has a number, and the others hand on some of their arguments.
-/

namespace TemplateScript

variable (f : Nat → Nat)

/-! ### Arguments -/

@[simp] theorem Value.display_renumber (v : Value) : (v.renumber f).display = v.display := by
  rw [display, display, display?_renumber]

@[simp] theorem Value.isConcatenable_renumber (v : Value) :
    (v.renumber f).isConcatenable = v.isConcatenable := by
  cases v <;> rfl

theorem Value.getD_map_renumber {f : Nat → Nat} (args : List Value) (index : Nat)
    {default : Value} (h : default.renumber f = default) :
    (args.map (renumber f)).getD index default = (args.getD index default).renumber f := by
  simp only [List.getD_eq_getElem?_getD, List.getElem?_map]
  cases args[index]? with
  | none => exact h.symm
  | some v => rfl

theorem Member.checkCount_renumber (m : Member) (args : List Value) :
    m.checkCount (args.map (Value.renumber f)) = m.checkCount args := by
  rw [checkCount, checkCount, List.length_map]

namespace Argument

variable (function : String) (position : Nat) (v : Value)

@[simp] theorem text_renumber :
    text function position (v.renumber f) = text function position v := by
  cases v <;> rfl

@[simp] theorem number_renumber :
    number function position (v.renumber f) = number function position v := by
  simp only [number, Value.toNumber?_renumber, Value.typeName_renumber]

@[simp] theorem integer_renumber :
    integer function position (v.renumber f) = integer function position v := by
  simp only [integer, number_renumber]

end Argument

/-! ### Formats and joined texts -/

namespace Format

theorem convert_renumber (options : List Char) (letter : Char) (position : Nat) (v : Value) :
    convert options letter position (v.renumber f) = convert options letter position v := by
  simp only [convert, Value.display_renumber, Argument.integer_renumber, Argument.number_renumber]

theorem fill_renumber (pieces : List FormatPiece) (position : Nat) (values : List Value) :
    fill pieces position (values.map (Value.renumber f)) = fill pieces position values := by
  induction pieces generalizing position values with
  | nil => rfl
  | cons piece rest ih =>
      cases piece with
      | literal c => rw [fill, fill, ih]
      | conversion options letter =>
          rw [fill.eq_def, fill.eq_def]
          dsimp only
          split
          · rw [ih]
          · cases values with
            | nil => rfl
            | cons v values =>
                rw [List.map_cons]
                dsimp only
                rw [convert_renumber, ih]

theorem format_renumber (pattern : String) (values : List Value) :
    format pattern (values.map (Value.renumber f)) = format pattern values := by
  rw [format, format, fill_renumber]

end Format

namespace Tables

/-- What stands at the positions is read under other numbers. -/
theorem concat_renumber {read read' : Int → Value}
    (h : ∀ index, read' index = (read index).renumber f) (separator : String) (i j : Int) :
    concat read' separator i j = concat read separator i j := by
  have hparts (count : Nat) (index : Int) :
      partsFrom read' count index = partsFrom read count index := by
    induction count generalizing index with
    | zero => rfl
    | succ count ih =>
        simp only [partsFrom, h, Value.isConcatenable_renumber, Value.display_renumber, ih]
  rw [concat, concat, hparts]

variable {f}

theorem slotValue_renumber (hf : f.Injective) (slots : Slots) (index : Int) :
    slotValue (slots.renumber f) index = (slotValue slots index).renumber f := by
  have hfind : Slots.find? (slots.renumber f) (.ofInt index) = _ :=
    Slots.find?_renumber hf slots (.ofInt index)
  rw [slotValue, slotValue, hfind]
  cases Slots.find? slots (.ofInt index) <;> rfl

theorem itemAt_renumber (items : List Value) (index : Int) :
    itemAt (items.map (Value.renumber f)) index = (itemAt items index).renumber f := by
  rw [itemAt, itemAt]
  split
  · rw [List.getElem?_map]
    cases items[(index - 1).toNat]? <;> rfl
  · rfl

end Tables

/-! ### Plain members -/

namespace PlainMember

theorem numberInBase_renumber (v : Value) (base : Int) :
    numberInBase (v.renumber f) base = numberInBase v base := by
  rw [numberInBase, numberInBase, Argument.text_renumber]

theorem numbersFrom_renumber (function : String) (position : Nat) (args : List Value) :
    numbersFrom function position (args.map (Value.renumber f)) =
      numbersFrom function position args := by
  induction args generalizing position with
  | nil => rfl
  | cons v rest ih => simp only [List.map_cons, numbersFrom, Argument.number_renumber, ih]

theorem ofNumbers_renumber (function : String) (choose : Number → List Number → Number)
    (args : List Value) :
    ofNumbers function choose (args.map (Value.renumber f)) = ofNumbers function choose args := by
  rw [ofNumbers, ofNumbers, numbersFrom_renumber]

variable {f}

theorem concatenation_renumber (hf : f.Injective) (t separator i j : Value) :
    concatenation (t.renumber f) (separator.renumber f) (i.renumber f) (j.renumber f) =
      concatenation t separator i j := by
  have hlast : lastPosition (j.renumber f) = lastPosition j := by cases j <;> rfl
  have hjoined (separator : String) (i : Int) (last : Nat → Except HostFault Int) :
      joined (t.renumber f) separator i last = joined t separator i last := by
    cases t with
    | table id slots =>
        have hconcat := Tables.concat_renumber f (Tables.slotValue_renumber hf slots)
        simp only [Value.renumber, renumberEntries_eq_map, joined, hconcat,
          border_renumber (g := Value.renumber f) rfl]
    | list items | tuple items | multi items =>
        have hconcat := Tables.concat_renumber f (Tables.itemAt_renumber (f := f) items)
        simp only [Value.renumber, renumberList_eq_map, joined, hconcat, List.length_map]
    | _ => rfl
  simp only [concatenation_eq, Argument.text_renumber, Argument.integer_renumber, hlast, hjoined]

theorem selection_renumber (n : Int) (args : List Value) :
    selection n (args.map (Value.renumber f)) = (selection n args).map (Value.renumber f) := by
  simp only [selection, List.length_map, ← List.map_drop]
  split
  · split
    · rfl
    · rw [Except.map, Value.renumber, renumberList_eq_map]
  · split
    · rfl
    · rw [Except.map, Value.renumber, renumberList_eq_map]

theorem numberOf_renumber (v base : Value) :
    numberOf (v.renumber f) (base.renumber f) = numberOf v base := by
  cases base with
  | nil => rw [Value.renumber, numberOf, numberOf, Value.toNumber?_renumber]
  | _ =>
      simp only [numberOf, numberInBase_renumber]
      rfl

theorem run_renumber_eq (hf : f.Injective) (m : PlainMember) (hm : m.handsOn = false)
    (args : List Value) : m.run (args.map (Value.renumber f)) = m.run args := by
  have harg (index : Nat) {d : Value} (h : d.renumber f = d) :
      (args.map (Value.renumber f)).getD index d = (args.getD index d).renumber f :=
    Value.getD_map_renumber args index h
  cases m with
  | select | assert => cases hm
  | tonumber =>
      have htonumber (args : List Value) : run .tonumber args =
          numberOf (args.getD 0 .nil) (args.getD 1 .nil) := rfl
      rw [htonumber, htonumber, harg 0 rfl, harg 1 rfl, numberOf_renumber]
  | tostring | type | error | upper | lower | len | rep | sub | format | floor | ceil | abs
  | sqrt =>
      simp only [run, harg _ (d := .nil) rfl, harg _ (d := .str "") rfl,
        harg _ (d := .ofInt 1) rfl, harg _ (d := .ofInt (-1)) rfl,
        Value.display_renumber, Value.typeName_renumber, Argument.text_renumber,
        Argument.integer_renumber, Argument.number_renumber, ← List.map_drop,
        Format.format_renumber]
  | max | min => simp only [run, ofNumbers_renumber]
  | concat =>
      simp only [run, harg _ (d := .nil) rfl, harg _ (d := .str "") rfl,
        harg _ (d := .ofInt 1) rfl, concatenation_renumber hf]

/-! ### Members that hand on arguments -/

theorem selected_renumber (n : Value) (rest : List Value) (count : Nat) :
    selected (n.renumber f) (rest.map (Value.renumber f)) count =
      (selected n rest count).map (Value.renumber f) := by
  by_cases hn : n = .str "#"
  · rw [hn]
    rfl
  · have hn' : n.renumber f ≠ .str "#" := by
      intro h
      cases n with
      | str s => exact hn h
      | _ => cases h
    rw [selected_of_ne hn, selected_of_ne hn', Argument.integer_renumber]
    cases Argument.integer "select" 1 n with
    | error why => rfl
    | ok index =>
        have hselection := selection_renumber (f := f) index rest
        simp only [bind, Except.bind, hselection]
        cases selection index rest <;> rfl

theorem asserted_renumber (v message : Value) (rest : List Value) :
    asserted (v.renumber f) (message.renumber f) (rest.map (Value.renumber f)) =
      (asserted v message rest).map (Value.renumber f) := by
  rw [asserted, asserted, Value.isTruthy_renumber, Value.display_renumber]
  cases v.isTruthy with
  | true =>
      have hmulti : (Value.multi (v :: message :: rest)).renumber f =
          .multi (v.renumber f :: message.renumber f :: rest.map (Value.renumber f)) := by
        rw [Value.renumber, renumberList_eq_map]
        rfl
      exact congrArg Except.ok hmulti.symm
  | false => cases message.display <;> rfl

/-- A plain member comes to the same under other numbers. -/
theorem run_renumber (hf : f.Injective) (m : PlainMember) (args : List Value) :
    m.run (args.map (Value.renumber f)) = (m.run args).map (Value.renumber f) := by
  cases hm : m.handsOn with
  | false =>
      rw [run_renumber_eq hf m hm]
      cases hrun : m.run args with
      | error why => rfl
      | ok v =>
          have hv := Value.entities_of_isPlain (givesPlain_run m hm args v hrun)
          rw [Except.map, Value.renumber_of_entities_eq_nil hv]
  | true =>
      cases m with
      | select =>
          rw [run_select, run_select, Value.getD_map_renumber args 0 rfl, ← List.map_drop,
            List.length_map, selected_renumber]
      | assert =>
          rw [run_assert, run_assert, Value.getD_map_renumber args 0 rfl,
            Value.getD_map_renumber args 1 rfl, ← List.map_drop, asserted_renumber]
      | _ => cases hm

/-- A plain member gives nothing that was not given to it. -/
theorem within_run {known : Entity → Prop} {m : PlainMember} {args : List Value} {v : Value}
    (hargs : ∀ arg ∈ args, arg.Within known) (h : m.run args = .ok v) : v.Within known := by
  obtain hv | ⟨items, rfl, hitems⟩ := run_cases h
  · exact Value.within_of_isPlain hv
  · exact Value.within_multi.mpr fun item hitem =>
      (hitems item hitem).elim (hargs item) Value.within_of_isPlain

end PlainMember

end TemplateScript
