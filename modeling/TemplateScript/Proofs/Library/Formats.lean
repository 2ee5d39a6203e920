import TemplateScript.Library.Plain
import TemplateScript.Proofs.Library.Display

/-!
# Formats of literal texts and shown values

A format that is written from literal texts, with every percent sign doubled, and conversions `%s`
is read as just these: the letter behind a percent sign ends each conversion, so none takes a
character of the text behind it. The conversions take the values in turn and show them as scripts
see them, and the first one without a value ends the whole.
-/

namespace TemplateScript

/-! ### Segments of a format -/

/-- A part of a format: text that stands for itself, or the place of a shown value. -/
inductive FormatSegment where
  | literal (text : String)
  | shown
deriving DecidableEq, Repr

namespace FormatSegment

/-- A segment as it is written in a format. -/
def spelling : FormatSegment → List Char
  | .literal text => text.toList.flatMap fun c => if c = '%' then ['%', '%'] else [c]
  | .shown => ['%', 's']

def pattern (segments : List FormatSegment) : String :=
  String.ofList (segments.flatMap spelling)

/-- How many values the segments take. -/
def conversions (segments : List FormatSegment) : Nat :=
  segments.count .shown

/-- The literal texts, with further texts in the places between them. -/
def filledWith : List FormatSegment → List String → List Char
  | [], _ => []
  | .literal text :: rest, texts => text.toList ++ filledWith rest texts
  | .shown :: rest, [] => filledWith rest []
  | .shown :: rest, text :: texts => text.toList ++ filledWith rest texts

/-- What a character of literal text is read as. -/
def literalPiece (c : Char) : FormatPiece :=
  if c = '%' then .conversion [] '%' else .literal c

/-- What a segment is read as. -/
def pieces : FormatSegment → List FormatPiece
  | .literal text => text.toList.map literalPiece
  | .shown => [.conversion [] 's']

end FormatSegment

namespace Format

/-! ### Reading a format -/

/-- A letter right behind the percent sign makes a conversion without options. -/
theorem conversion?_letter {c : Char} (rest : List Char) (hflag : isFlag c = false)
    (hdigit : isDecimalDigit c = false) (hpoint : c ≠ '.') (hletter : isLetter c) :
    conversion? (c :: rest) = some ([], c, rest) := by
  have hoptions : optionLength (c :: rest) = 0 := by
    rw [optionLength, List.takeWhile_cons_of_neg (by simp [hflag])]
    simp only [List.length_nil, List.drop_zero]
    rw [List.takeWhile_cons_of_neg (by simp [hdigit])]
    split
    · next heq => exact absurd (List.cons.inj heq).1 hpoint
    · rfl
  rw [conversion?, hoptions, List.drop_zero, List.take_zero]
  exact if_pos hletter

theorem conversion?_percent (rest : List Char) :
    conversion? ('%' :: rest) = some ([], '%', rest) :=
  conversion?_letter rest (by decide) (by decide) (by decide) (by decide)

theorem conversion?_shown (rest : List Char) :
    conversion? ('s' :: rest) = some ([], 's', rest) :=
  conversion?_letter rest (by decide) (by decide) (by decide) (by decide)

theorem conversion?_length_lt {text options rest : List Char} {letter : Char}
    (h : conversion? text = some (options, letter, rest)) : rest.length < text.length := by
  rw [conversion?] at h
  split at h
  · next c behind hdrop =>
      have hlength := congrArg List.length hdrop
      rw [List.length_drop, List.length_cons] at hlength
      split at h
      · cases h
        omega
      · cases h
  · cases h

/-- Rounds beyond the length of a text change nothing. -/
theorem piecesUpTo_eq {limit other : Nat} {text : List Char} (h : text.length ≤ limit)
    (hother : text.length ≤ other) : piecesUpTo limit text = piecesUpTo other text := by
  induction limit generalizing other text with
  | zero =>
      rw [List.length_eq_zero_iff.mp (Nat.le_zero.mp h)]
      cases other <;> rfl
  | succ limit ih =>
      cases text with
      | nil => cases other <;> rfl
      | cons c rest =>
          rw [List.length_cons] at h hother
          obtain ⟨fewer, rfl⟩ := Nat.exists_eq_succ_of_ne_zero (n := other) (by omega)
          have hrest : piecesUpTo limit rest = piecesUpTo fewer rest := ih (by omega) (by omega)
          rw [piecesUpTo, piecesUpTo, hrest]
          cases hconversion : conversion? rest with
          | none => rfl
          | some found =>
              obtain ⟨options, letter, behind⟩ := found
              have hshorter := conversion?_length_lt hconversion
              have hbehind : piecesUpTo limit behind = piecesUpTo fewer behind :=
                ih (by omega) (by omega)
              dsimp only
              rw [hbehind]

theorem pieces_cons_of_ne {c : Char} (h : c ≠ '%') (rest : List Char) :
    pieces (c :: rest) = .literal c :: pieces rest := by
  rw [pieces, List.length_cons, piecesUpTo, if_neg h]
  rfl

theorem pieces_of_conversion {text options rest : List Char} {letter : Char}
    (h : conversion? text = some (options, letter, rest)) :
    pieces ('%' :: text) = .conversion options letter :: pieces rest := by
  rw [pieces, List.length_cons, piecesUpTo, if_pos rfl, h]
  exact congrArg (_ :: ·) (piecesUpTo_eq (conversion?_length_lt h).le (Nat.le_refl _))

/-- A segment is read as itself, whatever stands behind it. -/
theorem pieces_spelling_append (segment : FormatSegment) (behind : List Char) :
    pieces (segment.spelling ++ behind) = segment.pieces ++ pieces behind := by
  cases segment with
  | shown => exact pieces_of_conversion (conversion?_shown behind)
  | literal text =>
      rw [FormatSegment.spelling, FormatSegment.pieces]
      induction text.toList with
      | nil => rfl
      | cons c rest ih =>
          rw [List.flatMap_cons, List.map_cons, List.append_assoc, List.cons_append, ← ih]
          by_cases hc : c = '%'
          · rw [if_pos hc, FormatSegment.literalPiece, if_pos hc]
            exact pieces_of_conversion (conversion?_percent _)
          · rw [if_neg hc, FormatSegment.literalPiece, if_neg hc]
            exact pieces_cons_of_ne hc _

theorem pieces_pattern (segments : List FormatSegment) :
    pieces (segments.flatMap FormatSegment.spelling) =
      segments.flatMap FormatSegment.pieces := by
  induction segments with
  | nil => rfl
  | cons segment rest ih =>
      rw [List.flatMap_cons, List.flatMap_cons, pieces_spelling_append, ih]

example : pieces "%%%ss%%".toList =
    [.conversion [] '%', .conversion [] 's', .literal 's', .conversion [] '%'] := by decide

/-! ### Filling a format -/

/-- A conversion without options shows a value and adds nothing. -/
theorem convert_shown (position : Nat) (v : Value) :
    convert [] 's' position v = String.toList <$> v.display := by
  have hlayout : layout [] = .ok ⟨false, false, false, false, false, 0, none⟩ := rfl
  have htext (s : List Char) : text ⟨false, false, false, false, false, 0, none⟩ s = s := by
    rw [text, aligned, Nat.zero_sub]
    rfl
  rw [convert, if_pos rfl, hlayout]
  cases v.display with
  | error why => rfl
  | ok shown => exact congrArg Except.ok (htext shown.toList)

theorem fill_literalPiece (c : Char) (behind : List FormatPiece) (position : Nat)
    (values : List Value) :
    fill (FormatSegment.literalPiece c :: behind) position values =
      (c :: ·) <$> fill behind position values := by
  rw [FormatSegment.literalPiece]
  by_cases hc : c = '%'
  · rw [if_pos hc, hc, fill.eq_def]
    dsimp only
    rw [if_pos rfl]
    cases fill behind position values <;> rfl
  · rw [if_neg hc, fill]
    cases fill behind position values <;> rfl

/-- Literal text stands as it is, with one percent sign for two. -/
theorem fill_literal (text : String) (behind : List FormatPiece) (position : Nat)
    (values : List Value) :
    fill ((FormatSegment.literal text).pieces ++ behind) position values =
      (text.toList ++ ·) <$> fill behind position values := by
  rw [FormatSegment.pieces]
  induction text.toList with
  | nil => exact (id_map _).symm
  | cons c rest ih =>
      rw [List.map_cons, List.cons_append, fill_literalPiece, ih, ← comp_map]
      rfl

theorem fill_shown_nil (behind : List FormatPiece) (position : Nat) :
    fill (FormatSegment.shown.pieces ++ behind) position [] =
      .error (.noArgument position "format") :=
  rfl

theorem fill_shown_cons (behind : List FormatPiece) (position : Nat) (v : Value)
    (values : List Value) :
    fill (FormatSegment.shown.pieces ++ behind) position (v :: values) = (do
      let text ← v.display
      (text.toList ++ ·) <$> fill behind (position + 1) values) := by
  change (do
    let shown ← convert [] 's' position v
    return shown ++ (← fill behind (position + 1) values)) = _
  rw [convert_shown]
  cases v.display with
  | error why => rfl
  | ok text => cases fill behind (position + 1) values <;> rfl

/-- What is done with a filled format is done once all values are shown and none is missing. -/
theorem map_filled {α : Type} (shown : Except HostFault (List String)) (missing : Prop)
    [Decidable missing] (why : HostFault) (filled : List String → List Char)
    (use : List Char → α) :
    use <$> (do
      let texts ← shown
      if missing then .error why else return filled texts) = (do
      let texts ← shown
      if missing then .error why else return use (filled texts)) := by
  cases shown with
  | error why => rfl
  | ok texts => exact apply_ite (use <$> ·) missing _ _

/-- The values that the conversions take are shown in turn. Then a conversion may be left without a
value, which is the one whose number follows that of the last value. -/
theorem fill_segments (segments : List FormatSegment) (position : Nat) (values : List Value) :
    fill (segments.flatMap FormatSegment.pieces) position values = (do
      let texts ← (values.take (FormatSegment.conversions segments)).mapM Value.display
      if values.length < FormatSegment.conversions segments then
        .error (.noArgument (position + values.length) "format")
      else return FormatSegment.filledWith segments texts) := by
  induction segments generalizing position values with
  | nil => rfl
  | cons segment rest ih =>
      rw [List.flatMap_cons]
      cases segment with
      | literal text =>
          have hcount : FormatSegment.conversions (.literal text :: rest) =
              FormatSegment.conversions rest := List.count_cons_of_ne (by simp)
          rw [fill_literal, ih, hcount, map_filled]
          rfl
      | shown =>
          have hcount : FormatSegment.conversions (.shown :: rest) =
              FormatSegment.conversions rest + 1 := List.count_cons_self
          cases values with
          | nil =>
              have hfew : ([] : List Value).length < FormatSegment.conversions rest + 1 :=
                Nat.succ_pos _
              rw [fill_shown_nil, hcount, List.take_nil, List.mapM_nil, pure_bind, if_pos hfew]
              rfl
          | cons v values =>
              have hposition : position + 1 + values.length = position + (v :: values).length := by
                rw [List.length_cons]
                omega
              rw [fill_shown_cons, ih, hcount, hposition, List.take_succ_cons, List.mapM_cons]
              simp only [List.length_cons, Nat.add_lt_add_iff_right, map_filled, bind_assoc,
                pure_bind]
              rfl

end Format

/-! ### Calls -/

theorem PlainMember.run_format (segments : List FormatSegment) (values : List Value) :
    format.run (.str (FormatSegment.pattern segments) :: values) =
      ((Format.fill (segments.flatMap FormatSegment.pieces) 2 values).map fun text =>
        Value.str (String.ofList text)).mapError .host := by
  change Except.mapError Fault.host
    (do return Value.str (← Format.format (FormatSegment.pattern segments) values)) = _
  rw [Format.format, FormatSegment.pattern, String.toList_ofList, Format.pieces_pattern]
  cases Format.fill (segments.flatMap FormatSegment.pieces) 2 values <;> rfl

theorem message_noArgument_format (position : Nat) :
    (HostFault.noArgument position "format").message =
      s!"bad argument #{position} to 'format' (no value)" := by
  have hend : " to '" ++ ("format" ++ "' (no value)") = " to 'format' (no value)" := by decide
  change "bad argument #" ++ toString position ++ " to '" ++ "format" ++ "' (no value)" =
    "bad argument #" ++ toString position ++ " to 'format' (no value)"
  rw [String.append_assoc, String.append_assoc, hend]

/-- A format of literal texts, with every percent sign doubled, and conversions `%s` gives the
literal texts with the texts of the values between them, from left to right; further values are
ignored. If there are too few values, the call fails and names the position of the first missing
one. A value that a conversion takes and that has no text fails before that. -/
theorem format_of_segments (segments : List FormatSegment) (values : List Value) :
    PlainMember.format.run (.str (FormatSegment.pattern segments) :: values) =
      (do
        let texts ← (values.take (FormatSegment.conversions segments)).mapM Value.display
        if values.length < FormatSegment.conversions segments then
          .error (.noArgument (values.length + 2) "format")
        else
          return Value.str (String.ofList (FormatSegment.filledWith segments texts))).mapError
            .host ∧
    (HostFault.noArgument (values.length + 2) "format").message =
      s!"bad argument #{values.length + 2} to 'format' (no value)" := by
  refine ⟨?_, message_noArgument_format _⟩
  rw [PlainMember.run_format, Format.fill_segments, Nat.add_comm 2 values.length]
  exact congrArg (Except.mapError Fault.host) (Format.map_filled _ _ _ _ _)

/-- An integer that is too long to be written fails before the value that is missing. -/
theorem format_of_segments_long_integer :
    ¬ ∀ (segments : List FormatSegment) (values : List Value),
      values.length < FormatSegment.conversions segments →
        PlainMember.format.run (.str (FormatSegment.pattern segments) :: values) =
          .error (.host (.noArgument (values.length + 2) "format")) := by
  intro h
  have hmissing := h [.shown, .shown] [.ofInt (10 ^ digitLimit)] (by decide)
  rw [PlainMember.run_format, List.flatMap_cons, Format.fill_shown_cons,
    Value.display_of_long Value.digitLimit_lt_length_power] at hmissing
  cases hmissing

end TemplateScript
