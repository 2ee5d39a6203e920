import TemplateScript.Proofs.Expr.Displayed
import TemplateScript.Proofs.Library.Display
import TemplateScript.Proofs.Number.Digits

/-!
# Numerals and texts that are numbers

What the grammar takes as a number is a hexadecimal numeral, or digits with a fraction and an
exponent, each of which may be missing. A text that is such a numeral as a whole stands for the same
number where a number is wanted as its literal does in an expression. A decimal integer with too
many digits is no number in either place.
-/

namespace TemplateScript

/-! ### The number of a numeral -/

section

variable {text whole fraction digits exponent : List Char} {shift : Int}

theorem startsWith_hexMark (h : 'x' ∉ text) (p : Char → Bool) :
    startsWith ['0', 'x'] (text.dropWhile p) = false := by
  rw [startsWith, Bool.eq_false_iff]
  intro hprefix
  obtain ⟨rest, hrest⟩ := List.isPrefixOf_iff_prefix.mp hprefix
  refine h ((List.dropWhile_sublist p).mem ?_)
  rw [← hrest]
  exact List.mem_append_left rest (List.mem_cons_of_mem '0' List.mem_cons_self)

theorem numeralValue_of_unmarked (hlower : 'x' ∉ text) (hupper : 'X' ∉ text) :
    numeralValue text =
      if text.any fun c => c == '.' || c == 'e' || c == 'E' then
        .float ((readFloat? text).getD (.zeroOf false))
      else .int (valueOfDigits 10 (text.filterMap alphanumericDigit?)) := by
  unfold numeralValue
  split
  · exact absurd (List.mem_cons_of_mem '0' List.mem_cons_self) hlower
  · exact absurd (List.mem_cons_of_mem '0' List.mem_cons_self) hupper
  · rfl

/-- No hexadecimal mark stands in a decimal numeral. -/
theorem not_mem_of_decimal {marks : List Char} {c : Char}
    (h : ∀ c ∈ text, isDecimalDigit c ∨ c ∈ marks) (hdigit : isDecimalDigit c = false)
    (hmarks : c ∉ marks) : c ∉ text := by
  intro hc
  rcases h c hc with hc | hc
  · rw [hdigit] at hc
    cases hc
  · exact hmarks hc

theorem readNumber?_of_lowered {lowered : List Char} (hchars : ∀ c ∈ text, IsNumeralChar c)
    (hlowered : text.map Char.toLower = lowered) : readNumber? (String.ofList text) =
      if startsWith ['0', 'x'] (lowered.dropWhile fun c => c == '+' || c == '-') then
        (readInteger 16 lowered).toOption.map .int
      else if lowered.any fun c => c == '.' || c == 'e' then (readFloat? lowered).map .float
      else (readInteger 10 lowered).toOption.map .int := by
  rw [readNumber?, String.toList_ofList, strip_of_numeralChars hchars,
    toLowerCase_of_numeralChars hchars, hlowered]

theorem readNumber?_hexadecimal {mark : Char} (hmark : mark = 'x' ∨ mark = 'X')
    (hne : digits ≠ []) (hdigits : ∀ c ∈ digits, isHexDigit c) :
    readNumber? (String.ofList ('0' :: mark :: digits)) =
      some (numeralValue ('0' :: mark :: digits)) := by
  have hchars : ∀ c ∈ '0' :: mark :: digits, IsNumeralChar c := by
    refine List.forall_mem_cons.mpr ⟨.inl (by decide), List.forall_mem_cons.mpr ⟨.inr ?_, ?_⟩⟩
    · rcases hmark with rfl | rfl <;> decide
    · exact fun c hc => isNumeralChar_of_isHexDigit (hdigits c hc)
  have hlowered : ('0' :: mark :: digits).map Char.toLower =
      '0' :: 'x' :: digits.map Char.toLower := by
    rcases hmark with rfl | rfl <;> rfl
  have hdigits' : ∀ c ∈ digits.map Char.toLower, isHexDigit c :=
    List.forall_mem_map.mpr fun c hc => (toLower_of_isHexDigit (hdigits c hc)).1
  have hvalues : (digits.map Char.toLower).filterMap alphanumericDigit? =
      digits.filterMap alphanumericDigit? := by
    rw [List.filterMap_map]
    exact List.filterMap_congr fun c hc => (toLower_of_isHexDigit (hdigits c hc)).2
  have hvalue : numeralValue ('0' :: mark :: digits) =
      .int (valueOfDigits 16 (digits.filterMap alphanumericDigit?)) := by
    rcases hmark with rfl | rfl <;> rfl
  have hmarked : startsWith ['0', 'x'] (('0' :: 'x' :: digits.map Char.toLower).dropWhile
      fun c => c == '+' || c == '-') = true := rfl
  rw [readNumber?_of_lowered hchars hlowered, if_pos hmarked,
    readInteger_hexadecimal (mt List.map_eq_nil_iff.mp hne) hdigits', hvalues, hvalue]
  rfl

theorem readNumber?_of_unmarked {lowered : List Char} (hchars : ∀ c ∈ text, IsNumeralChar c)
    (hlowered : text.map Char.toLower = lowered) (hmark : 'x' ∉ lowered) :
    readNumber? (String.ofList text) =
      if lowered.any fun c => c == '.' || c == 'e' then (readFloat? lowered).map .float
      else (readInteger 10 lowered).toOption.map .int := by
  rw [readNumber?_of_lowered hchars hlowered, startsWith_hexMark hmark, if_neg Bool.false_ne_true]

theorem any_point_iff :
    (text.any fun c => c == '.' || c == 'e') = true ↔ '.' ∈ text ∨ 'e' ∈ text := by
  simp only [List.any_eq_true, Bool.or_eq_true, beq_iff_eq, and_or_left, exists_or,
    exists_eq_right]

theorem any_mark_iff : (text.any fun c => c == '.' || c == 'e' || c == 'E') = true ↔
    ('.' ∈ text ∨ 'e' ∈ text) ∨ 'E' ∈ text := by
  simp only [List.any_eq_true, Bool.or_eq_true, beq_iff_eq, and_or_left, exists_or,
    exists_eq_right]

/-- Digits of a decimal integer hold no other character of a numeral. -/
theorem not_mem_of_digits (hwhole : ∀ c ∈ whole, isDecimalDigit c) {c : Char}
    (hc : isDecimalDigit c = false) : c ∉ whole :=
  not_mem_of_decimal (fun d hd => .inl (hwhole d hd)) hc List.not_mem_nil

theorem numeralValue_whole (hwhole : ∀ c ∈ whole, isDecimalDigit c) :
    numeralValue whole = .int (valueOfDigits 10 (whole.filterMap alphanumericDigit?)) := by
  have habsent {c : Char} (hc : isDecimalDigit c = false) : c ∉ whole :=
    not_mem_of_digits hwhole hc
  have hunmarked : ¬ (('.' ∈ whole ∨ 'e' ∈ whole) ∨ 'E' ∈ whole) :=
    not_or.mpr ⟨not_or.mpr ⟨habsent (by decide), habsent (by decide)⟩, habsent (by decide)⟩
  rw [numeralValue_of_unmarked (habsent (by decide)) (habsent (by decide)),
    if_neg (any_mark_iff.not.mpr hunmarked)]

/-- A sign may stand in front of an integer. -/
theorem readNumber?_integer {sign : List Char} (hsign : IsSign sign) (hne : digits ≠ [])
    (hdigits : ∀ c ∈ digits, isDecimalDigit c) :
    readNumber? (String.ofList (sign ++ digits)) =
      if digits.length ≤ digitLimit then
        some (.int (Binary64.signed (sign == ['-'])
          (valueOfDigits 10 (digits.filterMap alphanumericDigit?))))
      else none := by
  have hlowered : (sign ++ digits).map Char.toLower = sign ++ digits := by
    rw [List.map_append, hsign.map_toLower, map_toLower_of_digits hdigits]
  have habsent {c : Char} (hc : isDecimalDigit c = false) (hother : c ≠ '+' ∧ c ≠ '-') :
      c ∉ sign ++ digits := by
    rw [List.mem_append]
    have hsigned : ∀ d ∈ sign, d ≠ c := hsign.forall_mem hother.1.symm hother.2.symm
    exact not_or.mpr ⟨fun hmem => hsigned c hmem rfl, not_mem_of_digits hdigits hc⟩
  have hunmarked : ¬ ('.' ∈ sign ++ digits ∨ 'e' ∈ sign ++ digits) :=
    not_or.mpr ⟨habsent (by decide) (by decide), habsent (by decide) (by decide)⟩
  rw [readNumber?_of_unmarked (isNumeralChar_of_signed hsign hdigits) hlowered
      (habsent (by decide) (by decide)), if_neg (any_point_iff.not.mpr hunmarked),
    readInteger_decimal hsign hne hdigits]
  split <;> rfl

theorem readNumber?_float (hwhole : ∀ c ∈ whole, isDecimalDigit c)
    (hfraction : IsFraction fraction digits) (hne : whole ++ digits ≠ [])
    (hexponent : IsExponent exponent shift)
    (hmarked : '.' ∈ fraction ∨ 'e' ∈ exponent ∨ 'E' ∈ exponent) :
    readNumber? (String.ofList (whole ++ fraction ++ exponent)) =
      some (numeralValue (whole ++ fraction ++ exponent)) := by
  have hcases := mem_decimal_cases hwhole hfraction hexponent
  have hlowered : (whole ++ fraction ++ exponent).map Char.toLower =
      whole ++ fraction ++ exponent.map Char.toLower := by
    rw [List.map_append, List.map_append, map_toLower_of_digits hwhole, hfraction.map_toLower]
  have hcases' := mem_decimal_cases hwhole hfraction hexponent.map_toLower
  have hlower : (whole ++ fraction ++ exponent.map Char.toLower).any
      (fun c => c == '.' || c == 'e') = true := by
    rw [any_point_iff]
    simp only [List.mem_append]
    rcases hmarked with hpoint | hlow | hhigh
    · exact .inl (.inl (.inr hpoint))
    · exact .inr (.inr (List.mem_map_of_mem hlow))
    · exact .inr (.inr (List.mem_map_of_mem hhigh))
  have heither : (whole ++ fraction ++ exponent).any
      (fun c => c == '.' || c == 'e' || c == 'E') = true := by
    rw [any_mark_iff]
    simp only [List.mem_append]
    tauto
  have hmark : 'x' ∉ whole ++ fraction ++ exponent.map Char.toLower :=
    not_mem_of_decimal hcases' (by decide) (by decide)
  rw [readNumber?_of_unmarked (isNumeralChar_of_mem (by decide) hcases) hlowered hmark, hlower,
    if_pos rfl, numeralValue_of_unmarked (not_mem_of_decimal hcases (by decide) (by decide))
      (not_mem_of_decimal hcases (by decide) (by decide)), heither, if_pos rfl, readFloat?,
    readFloat?, readScientific?_decimal hwhole hfraction hne hexponent,
    readScientific?_decimal hwhole hfraction hne hexponent.map_toLower]
  rfl

theorem isDecimalInteger_eq_false {c : Char} (hc : c ∈ text) (hdigit : isDecimalDigit c = false) :
    isDecimalInteger text = false := by
  rw [Bool.eq_false_iff]
  intro hall
  rw [List.all_eq_true.mp hall c hc] at hdigit
  cases hdigit

/-- A numeral stands for the number of its literal, but a decimal integer with too many digits is
none. -/
theorem readNumber?_numeral (h : IsNumeral text) : readNumber? (String.ofList text) =
    if isDecimalInteger text && decide (digitLimit < text.length) then none
    else some (numeralValue text) := by
  cases h with
  | @hexadecimal mark digits hmark hne hdigits =>
      have hmark' : isDecimalDigit mark = false := by rcases hmark with rfl | rfl <;> decide
      rw [readNumber?_hexadecimal hmark hne hdigits,
        isDecimalInteger_eq_false (List.mem_cons_of_mem '0' List.mem_cons_self) hmark']
      rfl
  | @decimal whole fraction digits exponent shift hwhole hfraction hne hexponent =>
      have hread := readNumber?_float hwhole hfraction hne hexponent
      rcases hfraction.eq_nil_or with rfl | hpoint
      · rcases hexponent.eq_nil_or with rfl | hmark
        · rw [List.append_nil, List.append_nil]
          have hfilled : whole ≠ [] := by
            cases hfraction
            rwa [List.append_nil] at hne
          have hall : isDecimalInteger whole = true := List.all_eq_true.mpr hwhole
          have hinteger := readNumber?_integer .none hfilled hwhole
          rw [List.nil_append] at hinteger
          rw [hinteger, hall, numeralValue_whole hwhole, Bool.true_and]
          simp only [decide_eq_true_eq, ← Nat.not_le, ite_not]
          rfl
        · rw [hread (.inr hmark)]
          rcases hmark with hlow | hhigh
          · rw [isDecimalInteger_eq_false (List.mem_append_right _ hlow) (by decide)]
            rfl
          · rw [isDecimalInteger_eq_false (List.mem_append_right _ hhigh) (by decide)]
            rfl
      · rw [hread (.inl hpoint), isDecimalInteger_eq_false
          (List.mem_append_left _ (List.mem_append_right _ hpoint)) (by decide)]
        rfl

end

/-! ### The literal of a numeral -/

open Token Reader Grammar

section

variable {text : List Char}

/-- A numeral begins with a digit or a point. -/
theorem number_eq_cons (hne : text ≠ []) (h : Token.number text = text.length) :
    ∃ c rest, text = c :: rest ∧ (isDecimalDigit c ∨ c = '.') := by
  obtain ⟨c, rest, rfl⟩ := List.exists_cons_of_ne_nil hne
  refine ⟨c, rest, rfl, ?_⟩
  by_contra hother
  obtain ⟨hdigit, hpoint⟩ := not_or.mp hother
  rw [absentAt_number c rest ⟨Bool.eq_false_iff.mpr hdigit, hpoint⟩] at h
  cases h

theorem opensNoWord_of_number {c : Char} (h : isDecimalDigit c ∨ c = '.') :
    OpensNoWord c ∧ isBlank c = false := by
  rcases h with hdigit | rfl
  · have hrange := isDecimalDigit_iff.mp hdigit
    refine ⟨⟨not_isWordStart_of_inRanges (by decide) hrange, ?_, ?_⟩,
      inRanges_eq_false (by decide) hrange⟩
    · rintro rfl
      exact absurd hdigit (by decide)
    · rintro rfl
      exact absurd hdigit (by decide)
  · exact ⟨⟨by decide, by decide, by decide⟩, by decide⟩

/-- The literal of a numeral with its place. -/
def IsLiteralOf (text : List Char) (e : Expr) : Prop :=
  ∃ position, e = .literal (.number (numeralValue text))
    (some ⟨position, some "number", some (String.ofList text)⟩)

theorem takesText_number {rules : Rules} (hne : text ≠ []) (h : Token.number text = text.length) :
    TakesText (primary rules) text [] (IsLiteralOf text) := by
  have hlength : Token.number (text ++ []) = text.length := by rwa [List.append_nil]
  have hread : TakesText numberLiteral text [] (IsLiteralOf text) := by
    refine (takesText_locatedToken hlength hne "number").last ?_
    rintro ⟨spelling, position, tag, shown⟩ ⟨rfl, htag, hshown⟩
    refine takesText_pure ⟨position, ?_⟩
    obtain rfl : tag = some "number" := htag
    obtain rfl : shown = some (String.ofList text) := hshown
    rw [String.toList_ofList]
  obtain ⟨c, rest, htext, hc⟩ := number_eq_cons hne h
  exact takesText_primary (opensNoWord_of_number hc).1.1 ((List.append_nil text).trans htext)
    (hread.orElse _)

theorem overlongInteger?_of_isLiteralOf {e : Expr} (h : IsLiteralOf text e) :
    e.overlongInteger? =
      if isDecimalInteger text && decide (digitLimit < text.length) then some text.length
      else none := by
  obtain ⟨position, rfl⟩ := h
  rw [Expr.overlongInteger?, String.toList_ofList, ← String.length_toList, String.toList_ofList]

theorem readExpr_number (hne : text ≠ []) (h : Token.number text = text.length) :
    ∃ e, IsLiteralOf text e ∧ readExpr text =
      if isDecimalInteger text && decide (digitLimit < text.length) then
        .error (.tooManyDigits text.length)
      else .ok e := by
  obtain ⟨c, rest, htext, hc⟩ := number_eq_cons hne h
  obtain ⟨hword, hblank⟩ := opensNoWord_of_number hc
  have hstart : StartsIn (isBlank · = false) text := htext ▸ startsIn_cons hblank rest
  have hsign : unaryOp (text ++ []) = 0 := by
    rw [List.append_nil, htext]
    exact absentAt_unaryOp c rest hword
  have hexpression : TakesText (rules (text.length + 1)).expression text [] (IsLiteralOf text) :=
    takesText_expression startsIn_nil
      (takesText_unary startsIn_nil hsign (takesText_number hne h))
  obtain ⟨found, later, hroot, hend, hliteral⟩ := gives_root_of_takesText hstart hexpression
  obtain ⟨reach, hrun⟩ := hroot Reach.start
  refine ⟨found, hliteral, ?_⟩
  rw [readExpr, hrun]
  simp only [hend, List.isEmpty_nil, if_true, overlongInteger?_of_isLiteralOf hliteral]
  split_ifs <;> rfl

/-! ### Numbers in texts -/

theorem valueOfDigits_decimalDigits (n : Nat) :
    valueOfDigits 10 ((decimalDigits n).filterMap alphanumericDigit?) = n := by
  have hvalue := numeralValue_whole fun c hc =>
    isDecimalDigit_of_isDigit (isDigit_of_mem_numeral (n := n) hc)
  rw [numeralValue_numeral] at hvalue
  exact (Int.ofNat_inj.mp (Number.int.inj hvalue)).symm

/-- The integer that is displayed is read from its text. -/
theorem toNumber?_display {n : Int} (h : (decimalDigits n.natAbs).length ≤ digitLimit) :
    ∃ shown, (Value.ofInt n).display = .ok shown ∧ (Value.str shown).toNumber? = some (.int n) := by
  have hwritable : (Value.ofInt n).isWritable = true := by
    rw [Value.ofInt, Value.isWritable, integerText?, if_pos h]
    rfl
  refine ⟨String.ofList (integerText n), ?_, ?_⟩
  · rw [Value.display_eq, if_pos hwritable]
    rfl
  · have hfilled : decimalDigits n.natAbs ≠ [] := Nat.toDigits_ne_nil
    have hdigits : ∀ c ∈ decimalDigits n.natAbs, isDecimalDigit c :=
      fun c hc => isDecimalDigit_of_isDigit (isDigit_of_mem_numeral hc)
    have hread {sign : List Char} (hsign : IsSign sign) :
        readNumber? (String.ofList (sign ++ decimalDigits n.natAbs)) =
          some (.int (Binary64.signed (sign == ['-']) n.natAbs)) := by
      rw [readNumber?_integer hsign hfilled hdigits, if_pos h, valueOfDigits_decimalDigits]
    rw [Value.toNumber?, integerText]
    split_ifs with hnegative
    · have hvalue : Binary64.signed true n.natAbs = n := by
        rw [Binary64.signed, if_pos rfl]
        omega
      exact (hread .minus).trans (congrArg (some ∘ Number.int) hvalue)
    · have hvalue : Binary64.signed false n.natAbs = n := by
        rw [Binary64.signed, if_neg Bool.false_ne_true]
        omega
      exact (hread .none).trans (congrArg (some ∘ Number.int) hvalue)

/-- A numeral is read as the same number in an expression and from a text. A decimal integer with
too many digits is no expression, and its text is no number. An integer that is displayed is read
from its text. -/
theorem parseExpr_number_agrees :
    (∀ source : String, source.toList ≠ [] →
      Token.number source.toList = source.toList.length →
        (∃ x loc, parseExpr source = .ok (.literal (.number x) loc) ∧
          (Value.str source).toNumber? = some x) ∨
        (∀ c ∈ source.toList, isDecimalDigit c) ∧ digitLimit < source.toList.length ∧
          parseExpr source =
            .error (.parse (.tooManyDigits source.toList.length) (some source)) ∧
          (Value.str source).toNumber? = none) ∧
    ∀ n : Int, (decimalDigits n.natAbs).length ≤ digitLimit → ∃ shown,
      (Value.ofInt n).display = .ok shown ∧ (Value.str shown).toNumber? = some (.int n) := by
  refine ⟨fun source hne h => ?_, fun n => toNumber?_display⟩
  have hnumber := readNumber?_numeral (isNumeral_of_number hne h)
  rw [String.ofList_toList] at hnumber
  obtain ⟨e, ⟨position, rfl⟩, hread⟩ := readExpr_number hne h
  rw [parseExpr, hread, Value.toNumber?, hnumber]
  split_ifs with hlong
  · rw [Bool.and_eq_true, decide_eq_true_eq] at hlong
    exact .inr ⟨List.all_eq_true.mp hlong.1, hlong.2, rfl, rfl⟩
  · exact .inl ⟨_, _, rfl, rfl⟩

theorem parseExpr_number_agrees_exponent :
    "1.5E+3".toList ≠ [] ∧ Token.number "1.5E+3".toList = "1.5E+3".toList.length ∧
      (∃ x loc, parseExpr "1.5E+3" = .ok (.literal (.number x) loc) ∧
        (Value.str "1.5E+3").toNumber? = some x) ∧
      (decimalDigits (-70 : Int).natAbs).length ≤ digitLimit ∧
      ∃ shown, (Value.ofInt (-70)).display = .ok shown ∧
        (Value.str shown).toNumber? = some (.int (-70)) := by
  have hne : "1.5E+3".toList ≠ [] := by decide
  have hnumber : Token.number "1.5E+3".toList = "1.5E+3".toList.length := by decide
  have hshort : (decimalDigits (-70 : Int).natAbs).length ≤ digitLimit := by decide
  obtain ⟨hnumeral, hdisplay⟩ := parseExpr_number_agrees
  refine ⟨hne, hnumber, ?_, hshort, hdisplay (-70) hshort⟩
  exact (hnumeral "1.5E+3" hne hnumber).resolve_right fun h => absurd h.2.1 (by decide)

end

end TemplateScript
