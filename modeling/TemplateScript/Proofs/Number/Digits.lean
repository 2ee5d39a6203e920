import Mathlib.Data.List.TakeDrop
import TemplateScript.Number.Reading
import TemplateScript.Proofs.Expr.Lexeme
import TemplateScript.Proofs.Expr.NumberToken

/-!
# What is read from digits

Texts of digits are read as integers, and digits with a point or an exponent as floating-point
numbers. The characters of a numeral stay themselves in lower case but for the letters of ASCII, and
none of them is a margin.
-/

namespace TemplateScript

variable {c : Char} {text digits rest before after : List Char}

/-! ### Characters of numerals -/

/-- The characters of numerals beside decimal digits. -/
def numeralMarks : List Char := "abcdefxABCDEFX.+-".toList

def IsNumeralChar (c : Char) : Prop := isDecimalDigit c ∨ c ∈ numeralMarks

theorem forall_ascii {p : Char → Prop} (h : ∀ n < 128, p (Char.ofNat n)) (hc : c.toNat < 128) :
    p c :=
  Char.ofNat_toNat c ▸ h c.toNat hc

theorem toNat_lt_of_isHexDigit (h : isHexDigit c) : c.toNat < 128 := by
  simp only [isHexDigit, Bool.or_eq_true, Bool.and_eq_true, decide_eq_true_eq] at h
  rcases h with (hdigit | ⟨-, hletter⟩) | ⟨-, hletter⟩
  · exact lt_of_le_of_lt (Char.isDigit_iff_toNat.mp hdigit).2 (by decide)
  · exact lt_of_le_of_lt (show c.toNat ≤ 'f'.toNat from hletter) (by decide)
  · exact lt_of_le_of_lt (show c.toNat ≤ 'F'.toNat from hletter) (by decide)

theorem isNumeralChar_of_isHexDigit (h : isHexDigit c) : IsNumeralChar c := by
  have hall : ∀ n < 128, isHexDigit (Char.ofNat n) →
      isDecimalDigit (Char.ofNat n) ∨ Char.ofNat n ∈ numeralMarks := by
    decide +kernel
  exact forall_ascii (p := fun c => isHexDigit c → IsNumeralChar c) hall
    (toNat_lt_of_isHexDigit h) h

theorem IsNumeralChar.not_isMargin (h : IsNumeralChar c) : isMargin c = false := by
  rcases h with hdigit | hmark
  · exact inRanges_eq_false (by decide) (isDecimalDigit_iff.mp hdigit)
  · have hall : (numeralMarks.all fun c => !isMargin c) = true := by decide
    exact (Bool.not_eq_true' _).mp (List.all_eq_true.mp hall c hmark)

theorem isNumeralChar_of_signed {sign : List Char} (hsign : IsSign sign)
    (hdigits : ∀ c ∈ digits, isDecimalDigit c) : ∀ c ∈ sign ++ digits, IsNumeralChar c :=
  List.forall_mem_append.mpr ⟨hsign.forall_mem (.inr (by decide)) (.inr (by decide)),
    fun c hc => .inl (hdigits c hc)⟩

theorem toLower_of_isDecimalDigit (h : isDecimalDigit c) : c.toLower = c := by
  refine dif_neg fun hbounds => ?_
  have hupper : c.isUpper = true := decide_eq_true hbounds
  have halpha : c.isAlpha = true := (Bool.or_eq_true ..).mpr (.inl hupper)
  have hword : Token.isWordStart c = true := (Bool.or_eq_true ..).mpr (.inl halpha)
  rw [not_isDecimalDigit_of_isWordStart hword] at h
  cases h

/-- Characters outside the table have no case. -/
theorem CaseMap.apply_of_outside {map : CaseMap}
    (hruns : inRanges (map.runs.map fun run => (run.first, run.last)) c.toNat = false)
    (hexpansions : inRanges (map.expansions.map fun entry => (entry.1, entry.1)) c.toNat = false) :
    map.apply c = [c] := by
  have hexpansion : map.expansions.find? (fun entry => entry.1 == c.toNat) = none := by
    refine List.find?_eq_none.mpr fun entry hentry heq => ?_
    have hrange : entry.1 = c.toNat := beq_iff_eq.mp heq
    rw [Bool.eq_false_iff, ne_eq, inRanges_iff] at hexpansions
    exact hexpansions ⟨_, List.mem_map_of_mem hentry, hrange.le, hrange.ge⟩
  have hrun : map.runs.find? (fun run => run.contains c.toNat) = none := by
    refine List.find?_eq_none.mpr fun run hrun hcontains => ?_
    simp only [CaseRun.contains, Bool.and_eq_true, decide_eq_true_eq] at hcontains
    rw [Bool.eq_false_iff, ne_eq, inRanges_iff] at hruns
    exact hruns ⟨_, List.mem_map_of_mem hrun, hcontains.1⟩
  rw [apply, hexpansion, hrun]

theorem IsNumeralChar.lowerAt (h : IsNumeralChar c) (before after : List Char) :
    lowerAt before c after = [c.toLower] := by
  rcases h with hdigit | hmark
  · have hrange := isDecimalDigit_iff.mp hdigit
    have hsigma : c ≠ 'Σ' := by
      rintro rfl
      exact absurd hdigit (by decide)
    rw [TemplateScript.lowerAt, if_neg hsigma, toLower_of_isDecimalDigit hdigit]
    exact CaseMap.apply_of_outside (inRanges_eq_false (by decide +kernel) hrange)
      (inRanges_eq_false (by decide +kernel) hrange)
  · have hall : (numeralMarks.all fun c =>
        decide (c ≠ 'Σ' ∧ lowerCaseMap.apply c = [c.toLower])) = true := by
      decide +kernel
    obtain ⟨hsigma, happly⟩ := of_decide_eq_true (List.all_eq_true.mp hall c hmark)
    rw [TemplateScript.lowerAt, if_neg hsigma, happly]

theorem toLowerCase_of_numeralChars (h : ∀ c ∈ text, IsNumeralChar c) :
    toLowerCase text = text.map Char.toLower := by
  have hall (before : List Char) : lowerAfter before text = text.map Char.toLower := by
    induction text generalizing before with
    | nil => rfl
    | cons c rest ih =>
        obtain ⟨hc, hrest⟩ := List.forall_mem_cons.mp h
        rw [lowerAfter, hc.lowerAt, ih hrest]
        rfl
  exact hall []

theorem dropWhile_eq_self {p : Char → Bool} (h : ∀ c ∈ text, p c = false) :
    text.dropWhile p = text :=
  List.dropWhile_eq_self_iff.mpr fun hlength =>
    Bool.eq_false_iff.mp (h _ (List.getElem_mem hlength))

theorem strip_of_numeralChars (h : ∀ c ∈ text, IsNumeralChar c) : strip text = text := by
  have hmargin : ∀ c ∈ text, isMargin c = false := fun c hc => (h c hc).not_isMargin
  rw [strip, dropWhile_eq_self hmargin, trimEnd,
    dropWhile_eq_self fun c hc => hmargin c (List.mem_reverse.mp hc), List.reverse_reverse]

/-! ### Digits of a base -/

def IsDigitOf (base : Nat) (c : Char) : Prop :=
  ∃ d < base, alphanumericDigit? c = some d

theorem isDigitOf_of_isDecimalDigit (h : isDecimalDigit c) : IsDigitOf 10 c := by
  obtain ⟨d, hd⟩ := Option.isSome_iff_exists.mp h
  refine ⟨d, ?_, by rw [alphanumericDigit?, hd]⟩
  rw [decimalDigit?, Option.map_eq_some_iff] at hd
  obtain ⟨first, hfirst, rfl⟩ := hd
  have hrange := List.find?_some hfirst
  rw [decide_eq_true_eq] at hrange
  omega

theorem isDigitOf_of_isHexDigit (h : isHexDigit c) : IsDigitOf 16 c := by
  have hall : ∀ n < 128, isHexDigit (Char.ofNat n) →
      ∃ d < 16, alphanumericDigit? (Char.ofNat n) = some d := by
    decide +kernel
  exact forall_ascii (p := fun c => isHexDigit c → IsDigitOf 16 c) hall
    (toNat_lt_of_isHexDigit h) h

/-- The case of a hexadecimal digit does not matter. -/
theorem toLower_of_isHexDigit (h : isHexDigit c) :
    isHexDigit c.toLower ∧ alphanumericDigit? c.toLower = alphanumericDigit? c := by
  have hall : ∀ n < 128, isHexDigit (Char.ofNat n) → isHexDigit (Char.ofNat n).toLower ∧
      alphanumericDigit? (Char.ofNat n).toLower = alphanumericDigit? (Char.ofNat n) := by
    decide +kernel
  exact forall_ascii (p := fun c => isHexDigit c →
    isHexDigit c.toLower ∧ alphanumericDigit? c.toLower = alphanumericDigit? c) hall
      (toNat_lt_of_isHexDigit h) h

theorem not_isDigitOf_underscore (base : Nat) : ¬ IsDigitOf base '_' := by
  rintro ⟨d, -, hd⟩
  have hnone : alphanumericDigit? '_' = none := by decide
  rw [hnone] at hd
  cases hd

/-- No underscore stands between digits. -/
theorem digitsOf?_of_digits {base : Nat} (hne : text ≠ []) (h : ∀ c ∈ text, IsDigitOf base c) :
    digitsOf? base text = some (text.filterMap alphanumericDigit?) := by
  fun_induction digitsOf? base text with
  | case1 => exact absurd rfl hne
  | case2 c =>
      obtain ⟨d, hlt, hd⟩ := h c List.mem_cons_self
      rw [List.filterMap_cons_some hd, List.filterMap_nil, hd]
      exact if_pos hlt
  | case3 c rest ih =>
      exact absurd (h '_' (List.mem_cons_of_mem c List.mem_cons_self))
        (not_isDigitOf_underscore base)
  | case4 c rest hrest _ ih =>
      obtain ⟨⟨d, hlt, hd⟩, hmore⟩ := List.forall_mem_cons.mp h
      rw [List.filterMap_cons_some hd, hd, ih hrest hmore]
      exact if_pos hlt

theorem length_filterMap_digits {base : Nat} (h : ∀ c ∈ text, IsDigitOf base c) :
    (text.filterMap alphanumericDigit?).length = text.length := by
  refine List.filterMap_length_eq_length.mpr fun c hc => ?_
  obtain ⟨d, -, hd⟩ := h c hc
  rw [hd]
  rfl

/-! ### Integers -/

theorem splitSign_of_unsigned (hminus : c ≠ '-') (hplus : c ≠ '+') :
    splitSign (c :: rest) = (false, c :: rest) := by
  unfold splitSign
  split
  · next heq => exact absurd (List.cons.inj heq).1 hminus
  · next heq => exact absurd (List.cons.inj heq).1 hplus
  · rfl

theorem not_sign_of_isDecimalDigit (h : isDecimalDigit c) : c ≠ '-' ∧ c ≠ '+' := by
  constructor
  · rintro rfl
    exact absurd h (by decide)
  · rintro rfl
    exact absurd h (by decide)

theorem announcedBase?_ne_ten (text : List Char) : announcedBase? text ≠ some 10 := by
  unfold announcedBase?
  split
  · split_ifs <;> decide
  · exact nofun

theorem readInteger_of_splitSign {base : Nat} {negative : Bool} {digits : List Char}
    {result : Except IntegerFault Nat} (hchars : ∀ c ∈ text, IsNumeralChar c)
    (hsign : splitSign text = (negative, digits)) (h : readUnsigned base digits = result) :
    readInteger base text = result.map (Binary64.signed negative) := by
  rw [readInteger, strip_of_numeralChars hchars, hsign]
  dsimp only
  rw [h]
  cases result <;> rfl

theorem readInteger_hexadecimal (hne : text ≠ []) (hdigits : ∀ c ∈ text, isHexDigit c) :
    readInteger 16 ('0' :: 'x' :: text) =
      .ok (valueOfDigits 16 (text.filterMap alphanumericDigit?)) := by
  have hchars : ∀ c ∈ '0' :: 'x' :: text, IsNumeralChar c :=
    List.forall_mem_cons.mpr ⟨.inl (by decide), List.forall_mem_cons.mpr
      ⟨.inr (by decide), fun c hc => isNumeralChar_of_isHexDigit (hdigits c hc)⟩⟩
  have hsixteen : ∀ c ∈ text, IsDigitOf 16 c := fun c hc => isDigitOf_of_isHexDigit (hdigits c hc)
  have hmark : dropBaseMark ('0' :: 'x' :: text) = text := by
    unfold dropBaseMark
    split
    · next more heq =>
        obtain rfl : text = '_' :: more := heq
        exact absurd (hsixteen '_' List.mem_cons_self) (not_isDigitOf_underscore 16)
    · rfl
  have hannounced : announcedBase? ('0' :: 'x' :: text) = some 16 := rfl
  have hread : readUnsigned 16 ('0' :: 'x' :: text) =
      .ok (valueOfDigits 16 (text.filterMap alphanumericDigit?)) := by
    rw [readUnsigned, if_neg (by decide), if_pos hannounced, hmark, readDigits,
      digitsOf?_of_digits hne hsixteen]
    rfl
  exact readInteger_of_splitSign hchars rfl hread

theorem splitSign_digits {sign : List Char} (hsign : IsSign sign) (hne : digits ≠ [])
    (hdigits : ∀ c ∈ digits, isDecimalDigit c) :
    splitSign (sign ++ digits) = (sign == ['-'], digits) := by
  cases hsign with
  | none =>
      obtain ⟨c, rest, rfl⟩ := List.exists_cons_of_ne_nil hne
      obtain ⟨hminus, hplus⟩ := not_sign_of_isDecimalDigit (hdigits c List.mem_cons_self)
      exact splitSign_of_unsigned hminus hplus
  | plus | minus => rfl

theorem readInteger_decimal {sign : List Char} (hsign : IsSign sign) (hne : digits ≠ [])
    (hdigits : ∀ c ∈ digits, isDecimalDigit c) :
    readInteger 10 (sign ++ digits) =
      if digits.length ≤ digitLimit then
        .ok (Binary64.signed (sign == ['-'])
          (valueOfDigits 10 (digits.filterMap alphanumericDigit?)))
      else .error (.tooManyDigits digits.length) := by
  have hten : ∀ c ∈ digits, IsDigitOf 10 c :=
    fun c hc => isDigitOf_of_isDecimalDigit (hdigits c hc)
  have hread : readUnsigned 10 digits =
      if digits.length ≤ digitLimit then
        .ok (valueOfDigits 10 (digits.filterMap alphanumericDigit?))
      else .error (.tooManyDigits digits.length) := by
    rw [readUnsigned, if_neg (by decide), if_neg (announcedBase?_ne_ten digits), readDigits,
      digitsOf?_of_digits hne hten]
    simp only [length_filterMap_digits hten, show isUnlimitedBase 10 = false by decide,
      Bool.false_or, decide_eq_true_eq]
  rw [readInteger_of_splitSign (isNumeralChar_of_signed hsign hdigits)
    (splitSign_digits hsign hne hdigits) hread]
  split <;> rfl

/-! ### Floating-point numbers -/

theorem splitAtFirst_of_absent {p : Char → Bool} (h : ∀ c ∈ text, p c = false) :
    splitAtFirst p text = (text, none) := by
  have hall : ∀ c ∈ text, (!p c) = true := fun c hc => by rw [h c hc]; rfl
  rw [splitAtFirst, List.span_eq_takeWhile_dropWhile, List.takeWhile_eq_self_iff.mpr hall,
    List.dropWhile_eq_nil_iff.mpr hall]

theorem splitAtFirst_append {p : Char → Bool} (hbefore : ∀ c ∈ before, p c = false) (hc : p c) :
    splitAtFirst p (before ++ c :: after) = (before, some after) := by
  have hall : ∀ d ∈ before, (!p d) = true := fun d hd => by rw [hbefore d hd]; rfl
  rw [splitAtFirst, List.span_eq_takeWhile_dropWhile, List.takeWhile_append_of_pos hall,
    List.dropWhile_append_of_pos hall]
  simp [hc]

variable {whole fraction exponent : List Char} {shift : Int}

theorem IsFraction.forall_digits (h : IsFraction fraction digits) :
    ∀ c ∈ digits, isDecimalDigit c := by
  cases h with
  | none => exact List.forall_mem_nil _
  | point _ hdigits => exact hdigits

theorem splitAtFirst_fraction (hwhole : ∀ c ∈ whole, isDecimalDigit c)
    (h : IsFraction fraction digits) : ∃ rest,
      splitAtFirst (· == '.') (whole ++ fraction) = (whole, rest) ∧ rest.getD [] = digits := by
  have habsent : ∀ c ∈ whole, (c == '.') = false := by
    intro c hc
    rw [beq_eq_false_iff_ne]
    rintro rfl
    exact absurd (hwhole '.' hc) (by decide)
  cases h with
  | none => exact ⟨none, by rw [List.append_nil, splitAtFirst_of_absent habsent], rfl⟩
  | point => exact ⟨some digits, splitAtFirst_append habsent rfl, rfl⟩

theorem IsFraction.eq_nil_or (h : IsFraction fraction digits) :
    fraction = [] ∨ '.' ∈ fraction := by
  cases h with
  | none => exact .inl rfl
  | point => exact .inr List.mem_cons_self

theorem IsExponent.eq_nil_or (h : IsExponent exponent shift) :
    exponent = [] ∨ 'e' ∈ exponent ∨ 'E' ∈ exponent := by
  cases h with
  | none => exact .inl rfl
  | mark hmark =>
      rcases hmark with rfl | rfl
      · exact .inr (.inl List.mem_cons_self)
      · exact .inr (.inr List.mem_cons_self)

theorem isNumeralChar_of_mem {marks : List Char} (hmarks : marks ⊆ numeralMarks)
    (h : ∀ c ∈ text, isDecimalDigit c ∨ c ∈ marks) : ∀ c ∈ text, IsNumeralChar c :=
  fun c hc => (h c hc).imp_right fun hmark => hmarks hmark

theorem map_toLower_of_digits (h : ∀ c ∈ text, isDecimalDigit c) :
    text.map Char.toLower = text :=
  (List.map_congr_left fun c hc => toLower_of_isDecimalDigit (h c hc)).trans (List.map_id' text)

theorem IsSign.map_toLower {sign : List Char} (h : IsSign sign) : sign.map Char.toLower = sign := by
  cases h <;> decide

theorem IsFraction.map_toLower (h : IsFraction fraction digits) :
    fraction.map Char.toLower = fraction := by
  cases h with
  | none => rfl
  | point _ hdigits => rw [List.map_cons, map_toLower_of_digits hdigits]; rfl

/-- The case of the mark does not matter. -/
theorem IsExponent.map_toLower (h : IsExponent exponent shift) :
    IsExponent (exponent.map Char.toLower) shift := by
  cases h with
  | none => exact .none
  | @mark mark sign digits hmark hsign hne hdigits =>
      have hfirst : mark.toLower = 'e' := by rcases hmark with rfl | rfl <;> decide
      rw [List.map_cons, hfirst, List.map_append, hsign.map_toLower,
        map_toLower_of_digits hdigits]
      exact .mark (.inl rfl) hsign hne hdigits

theorem optionalDigits?_of_digits (h : ∀ c ∈ text, isDecimalDigit c) :
    optionalDigits? text = some (text.filterMap alphanumericDigit?) := by
  rw [optionalDigits?]
  by_cases hne : text = []
  · rw [hne]
    rfl
  · rw [if_neg (by simpa using hne)]
    exact digitsOf?_of_digits hne fun c hc => isDigitOf_of_isDecimalDigit (h c hc)

/-- No letter that marks an exponent stands in front of one. -/
theorem splitAtFirst_exponent (hbody : ∀ c ∈ text, isDecimalDigit c ∨ c = '.')
    (h : IsExponent exponent shift) : ∃ rest,
      splitAtFirst (fun c => c == 'e' || c == 'E') (text ++ exponent) = (text, rest) ∧
        (rest = none ∧ shift = 0 ∨ ∃ exponentText negative digits, rest = some exponentText ∧
          splitSign exponentText = (negative, digits) ∧ ∃ ds, digitsOf? 10 digits = some ds ∧
            shift = Binary64.signed negative (valueOfDigits 10 ds)) := by
  have habsent : ∀ c ∈ text, (c == 'e' || c == 'E') = false := by
    intro c hc
    rw [Bool.or_eq_false_iff, beq_eq_false_iff_ne, beq_eq_false_iff_ne]
    constructor
    · rintro rfl
      exact absurd (hbody 'e' hc) (by decide)
    · rintro rfl
      exact absurd (hbody 'E' hc) (by decide)
  cases h with
  | none => exact ⟨none, by rw [List.append_nil, splitAtFirst_of_absent habsent], .inl ⟨rfl, rfl⟩⟩
  | @mark mark sign digits hmark hsign hne hdigits =>
      have hstop : (mark == 'e' || mark == 'E') = true := by
        rw [Bool.or_eq_true, beq_iff_eq, beq_iff_eq]
        exact hmark
      exact ⟨some (sign ++ digits), splitAtFirst_append habsent hstop, .inr ⟨_, _, _, rfl,
        splitSign_digits hsign hne hdigits, _,
        digitsOf?_of_digits hne fun c hc => isDigitOf_of_isDecimalDigit (hdigits c hc), rfl⟩⟩

/-- The decimal number of digits before and after a point and an exponent. -/
def Scientific.ofDigits (whole fraction : List Nat) (exponent : Int) : Scientific where
  negative := false
  mantissa := valueOfDigits 10 (whole ++ fraction)
  digitCount := ((whole ++ fraction).dropWhile (· == 0)).length
  exponent := exponent - fraction.length

section

variable (hwhole : ∀ c ∈ whole, isDecimalDigit c) (hfraction : IsFraction fraction digits)

include hwhole hfraction

variable (hne : whole ++ digits ≠ [])

include hne

theorem splitSign_decimal (exponent : List Char) : splitSign (whole ++ fraction ++ exponent) =
    (false, whole ++ fraction ++ exponent) := by
  have hbody : ∀ c ∈ whole ++ fraction, isDecimalDigit c ∨ c = '.' :=
    List.forall_mem_append.mpr ⟨fun c hc => .inl (hwhole c hc), hfraction.mem_cases⟩
  have hfilled : whole ++ fraction ≠ [] := by
    cases hfraction with
    | none => exact hne
    | point => simp
  obtain ⟨c, rest, hfront⟩ := List.exists_cons_of_ne_nil hfilled
  rw [hfront, List.cons_append]
  rcases hbody c (hfront ▸ List.mem_cons_self) with hdigit | rfl
  · obtain ⟨hminus, hplus⟩ := not_sign_of_isDecimalDigit hdigit
    exact splitSign_of_unsigned hminus hplus
  · rfl

theorem readScientific?_decimal (hexponent : IsExponent exponent shift) :
    readScientific? (whole ++ fraction ++ exponent) =
      some (.ofDigits (whole.filterMap alphanumericDigit?) (digits.filterMap alphanumericDigit?)
        shift) := by
  have hbody : ∀ c ∈ whole ++ fraction, isDecimalDigit c ∨ c = '.' :=
    List.forall_mem_append.mpr ⟨fun c hc => .inl (hwhole c hc), hfraction.mem_cases⟩
  have hstrip : strip (whole ++ fraction ++ exponent) = whole ++ fraction ++ exponent :=
    strip_of_numeralChars (isNumeralChar_of_mem (by decide)
      (mem_decimal_cases hwhole hfraction hexponent))
  have hten : ∀ c ∈ whole ++ digits, IsDigitOf 10 c := by
    have hall := List.forall_mem_append.mpr ⟨hwhole, hfraction.forall_digits⟩
    exact fun c hc => isDigitOf_of_isDecimalDigit (hall c hc)
  have hfilled : (whole.filterMap alphanumericDigit? ++
      digits.filterMap alphanumericDigit?).isEmpty = false := by
    rw [← List.filterMap_append, List.isEmpty_eq_false_iff, ← List.length_pos_iff,
      length_filterMap_digits hten]
    exact List.length_pos_iff.mpr hne
  obtain ⟨fractionText, hpoint, hdigits⟩ := splitAtFirst_fraction hwhole hfraction
  obtain ⟨exponentText, hmark, hshift⟩ := splitAtFirst_exponent hbody hexponent
  rw [readScientific?, hstrip, splitSign_decimal hwhole hfraction hne]
  dsimp only
  rw [hmark]
  dsimp only
  rw [hpoint]
  dsimp only
  rw [optionalDigits?_of_digits hwhole, hdigits,
    optionalDigits?_of_digits hfraction.forall_digits]
  simp only [Option.bind_eq_bind, Option.bind_some, hfilled]
  obtain ⟨rfl, rfl⟩ | ⟨text, negative, ds, rfl, hsplit, values, hvalues, rfl⟩ := hshift
  · rfl
  · simp only [hsplit, hvalues]
    rfl

end

end TemplateScript
