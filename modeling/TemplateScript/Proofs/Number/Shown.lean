import TemplateScript.Proofs.Expr.Numeral
import TemplateScript.Proofs.Number.Significant
import TemplateScript.Proofs.Value.HostForm
import TemplateScript.Proofs.Value.Within

/-!
# How floating-point numbers show

A finite number shows as digits with a fraction and an exponent, each of which may be missing. Where
both are missing, an integral number has a fraction put behind it. What is left without a mark is a
number that is no integer and becomes one in fourteen digits: it shows as that integer. All other
texts are read as floating-point numbers again.
-/

namespace TemplateScript

/-! ### Shapes -/

/-- Digits with a fraction and an exponent, each of which may be missing. -/
inductive IsDecimalText : List Char → Prop
  | mk {whole fraction digits exponent : List Char} {shift : Int} (hne : whole ≠ [])
      (hwhole : ∀ c ∈ whole, isDecimalDigit c) (hfraction : IsFraction fraction digits)
      (hexponent : IsExponent exponent shift) (hmark : exponent = [] ∨ 'e' ∈ exponent) :
      IsDecimalText (whole ++ fraction ++ exponent)

theorem isDecimalDigit_decimalDigits (n : Nat) : ∀ c ∈ decimalDigits n, isDecimalDigit c :=
  fun _ hc => isDecimalDigit_of_isDigit (isDigit_of_mem_numeral hc)

theorem isDecimalDigit_zeros (count : Nat) : ∀ c ∈ List.replicate count '0', isDecimalDigit c := by
  intro c hc
  rw [List.eq_of_mem_replicate hc]
  decide

section

variable {fraction : List Char}

theorem isFraction_withPoint (h : ∀ c ∈ fraction, isDecimalDigit c) (whole : List Char) :
    ∃ shown, withPoint false whole fraction = whole ++ shown ∧ IsFraction shown fraction := by
  by_cases hfraction : fraction = []
  · exact ⟨[], by rw [hfraction, List.append_nil]; rfl, hfraction ▸ .none⟩
  · refine ⟨'.' :: fraction, ?_, .point hfraction h⟩
    rw [withPoint, if_neg (by simpa using hfraction)]

theorem isExponent_exponentSuffix (exponent : Int) :
    ∃ shift, IsExponent (exponentSuffix exponent) shift ∧ 'e' ∈ exponentSuffix exponent := by
  have hdigits := isDecimalDigit_decimalDigits exponent.natAbs
  have hne : decimalDigits exponent.natAbs ≠ [] := Nat.toDigits_ne_nil
  have hshape (sign digits : List Char) (hsign : IsSign sign) (hne : digits ≠ [])
      (hdigits : ∀ c ∈ digits, isDecimalDigit c) : ∃ shift,
        IsExponent ('e' :: (sign ++ digits)) shift ∧ 'e' ∈ 'e' :: (sign ++ digits) :=
    ⟨_, .mark (.inl rfl) hsign hne hdigits, List.mem_cons_self⟩
  have hsign : IsSign [if exponent < 0 then '-' else '+'] := by
    split_ifs
    · exact .minus
    · exact .plus
  refine hshape [if exponent < 0 then '-' else '+'] _ hsign ?_ ?_
  · split_ifs
    · exact List.cons_ne_nil _ _
    · exact hne
  · split_ifs
    · exact List.forall_mem_cons.mpr ⟨by decide, hdigits⟩
    · exact hdigits

namespace Decimal

variable {d : Decimal} (hne : d.digits ≠ []) (hdigits : ∀ c ∈ d.digits, isDecimalDigit c)

include hdigits

theorem isDecimalText_positional : IsDecimalText (positional false d) := by
  have hplain (whole fraction : List Char) (hne : whole ≠ [])
      (hwhole : ∀ c ∈ whole, isDecimalDigit c) (hfraction : ∀ c ∈ fraction, isDecimalDigit c) :
      IsDecimalText (withPoint false whole fraction) := by
    obtain ⟨shown, hshown, hfraction⟩ := isFraction_withPoint hfraction whole
    rw [hshown, ← List.append_nil (whole ++ shown)]
    exact .mk hne hwhole hfraction .none (.inl rfl)
  rw [positional]
  split_ifs
  · refine hplain _ _ (List.cons_ne_nil _ _) (isDecimalDigit_zeros 1) ?_
    exact List.forall_mem_append.mpr ⟨isDecimalDigit_zeros _, hdigits⟩
  · refine hplain _ _ ?_ (List.forall_mem_append.mpr ⟨fun c hc => ?_, isDecimalDigit_zeros _⟩)
      fun c hc => ?_
    · intro hnil
      have hlength := congrArg List.length hnil
      simp only [List.length_append, List.length_take, List.length_replicate, List.length_nil]
        at hlength
      omega
    · exact hdigits c (List.mem_of_mem_take hc)
    · exact hdigits c (List.mem_of_mem_drop hc)

include hne

theorem isDecimalText_scientific :
    IsDecimalText (scientific false d) ∧ 'e' ∈ scientific false d := by
  obtain ⟨shown, hshown, hfraction⟩ := isFraction_withPoint
    (fun c hc => hdigits c (List.mem_of_mem_drop hc)) (d.digits.take 1)
  obtain ⟨shift, hexponent, hmark⟩ := isExponent_exponentSuffix d.exponent
  rw [scientific, hshown]
  refine ⟨.mk ?_ (fun c hc => hdigits c (List.mem_of_mem_take hc)) hfraction hexponent (.inr hmark),
    List.mem_append_right _ hmark⟩
  simpa using hne

end Decimal

end

section

variable {count num den : Nat}

theorem significant_digits (hcount : 0 < count) (num : Nat) (hden : 0 < den) :
    (significant count num den).digits ≠ [] ∧
      ∀ c ∈ (significant count num den).digits, isDecimalDigit c := by
  rw [significant]
  split_ifs with hnum
  · exact ⟨by simp [hcount.ne'], isDecimalDigit_zeros count⟩
  · obtain ⟨n, hrounds⟩ :=
      Decimal.ofSignificant_rounds hcount (Nat.pos_of_ne_zero hnum) hden
    rw [hrounds.digits]
    exact ⟨Nat.toDigits_ne_nil, isDecimalDigit_decimalDigits n⟩

theorem Decimal.withoutTrailingZeros_digits {d : Decimal}
    (hdigits : ∀ c ∈ d.digits, isDecimalDigit c) : d.withoutTrailingZeros.digits ≠ [] ∧
      ∀ c ∈ d.withoutTrailingZeros.digits, isDecimalDigit c := by
  obtain ⟨-, ⟨count, hd, c, hlast, -⟩ | ⟨hzero, -⟩⟩ := d.withoutTrailingZeros_cases
  · refine ⟨fun hnil => ?_, fun c hc => hdigits c (hd ▸ List.mem_append_left _ hc)⟩
    rw [hnil] at hlast
    cases hlast
  · rw [hzero]
    exact ⟨List.cons_ne_nil _ _, isDecimalDigit_zeros 1⟩

theorem isDecimalText_generalNotation (hcount : 0 < count) (num : Nat) (hden : 0 < den) :
    IsDecimalText (generalNotation count false num den) := by
  have hmax : max count 1 = count := by omega
  obtain ⟨-, hdigits⟩ := significant_digits hcount num hden
  obtain ⟨hne, hshown⟩ := Decimal.withoutTrailingZeros_digits hdigits
  rw [generalNotation, hmax]
  simp only [Bool.false_eq_true, if_false]
  split_ifs
  · exact (Decimal.isDecimalText_scientific hne hshown).1
  · exact Decimal.isDecimalText_positional hshown

/-- A decimal stands for an integer that shows without an exponent among `count` digits. -/
def Decimal.IsShortInteger (d : Decimal) (count : Nat) : Prop :=
  0 ≤ d.exponent ∧ d.exponent < count ∧ ∃ k : Nat, d.value = k

/-- General notation is without a mark if and only if the digits that are kept are those of a short
integer. It is then this integer. -/
theorem generalNotation_cases (hcount : 0 < count) (hnum : 0 < num) (hden : 0 < den) :
    ((significant count num den).IsShortInteger count ∧
        ∃ whole : Nat, 0 < whole ∧ (decimalDigits whole).length ≤ count ∧
          generalNotation count false num den = decimalDigits whole) ∨
      ¬ (significant count num den).IsShortInteger count ∧
        ('.' ∈ generalNotation count false num den ∨
          'e' ∈ generalNotation count false num den) := by
  have hmax : max count 1 = count := by omega
  obtain ⟨-, hdigits⟩ := significant_digits hcount num hden
  obtain ⟨hne, hshown⟩ := Decimal.withoutTrailingZeros_digits hdigits
  have hexponent := (significant count num den).withoutTrailingZeros_cases.1
  have hdef : significant count num den = Decimal.ofSignificant count num den := by
    rw [significant, if_neg hnum.ne']
  obtain ⟨n, hrounds⟩ := Decimal.ofSignificant_rounds hcount hnum hden
  rw [← hdef] at hrounds
  rw [generalNotation, hmax]
  generalize significant count num den = d at *
  simp only [Bool.false_eq_true, if_false]
  split_ifs with hlarge
  · refine .inr ⟨?_, .inr (Decimal.isDecimalText_scientific hne hshown).2⟩
    rintro ⟨hlow, hhigh, -⟩
    omega
  · by_cases hlow : 0 ≤ d.exponent
    · have hhigh : d.exponent < count := by omega
      obtain ⟨whole, tail, hpos, hsplit, hlength, hzeros⟩ := hrounds.exists_split hlow hhigh
      have hfilled : decimalDigits whole ≠ [] := Nat.toDigits_ne_nil
      by_cases htail : ∀ c ∈ tail, c = '0'
      · exact .inl ⟨⟨hlow, hhigh, hzeros.mp htail⟩, whole, hpos, by omega,
          Decimal.positional_of_zeros hsplit hlength hfilled htail⟩
      · refine .inr ⟨fun h => htail (hzeros.mpr h.2.2), .inl ?_⟩
        exact Decimal.point_mem_positional hsplit hlength hfilled htail
    · refine .inr ⟨fun h => hlow h.1, .inl ?_⟩
      rw [positional, if_pos (by omega), withPoint, if_neg (by simp [hne])]
      exact List.mem_cons_of_mem _ List.mem_cons_self

end

/-! ### Reading -/

section

variable {text sign : List Char}

theorem IsDecimalText.numeralChars (h : IsDecimalText text) : ∀ c ∈ text, IsNumeralChar c := by
  cases h with
  | mk _ hwhole hfraction hexponent _ =>
      exact isNumeralChar_of_mem (by decide) (mem_decimal_cases hwhole hfraction hexponent)

theorem readScientific?_minus (h : ∀ c ∈ text, IsNumeralChar c)
    (hsplit : splitSign text = (false, text)) : readScientific? ('-' :: text) =
      (readScientific? text).map fun s => { s with negative := true } := by
  have hminus : ∀ c ∈ '-' :: text, IsNumeralChar c :=
    List.forall_mem_cons.mpr ⟨.inr (by decide), h⟩
  have hsign : splitSign ('-' :: text) = (true, text) := rfl
  rw [readScientific?, readScientific?, strip_of_numeralChars h, strip_of_numeralChars hminus,
    hsplit, hsign]
  dsimp only
  obtain ⟨body, exponentText⟩ := splitAtFirst (fun c => c == 'e' || c == 'E') text
  obtain ⟨wholeText, fractionText⟩ := splitAtFirst (· == '.') body
  dsimp only
  cases optionalDigits? wholeText with
  | none => rfl
  | some whole =>
      cases optionalDigits? (fractionText.getD []) with
      | none => rfl
      | some fraction =>
          simp only [Option.bind_eq_bind, Option.bind_some]
          by_cases hempty : (whole ++ fraction).isEmpty = true
          · rw [if_pos hempty, if_pos hempty]
            rfl
          · rw [if_neg hempty, if_neg hempty]
            cases exponentText with
            | none => rfl
            | some text =>
                dsimp only
                cases digitsOf? 10 (splitSign text).2 <;> rfl

/-- A text of a decimal with a mark is a floating-point number, also with a minus in front. -/
theorem IsDecimalText.readNumber? (h : IsDecimalText text) (hmarked : '.' ∈ text ∨ 'e' ∈ text)
    (hsign : sign = [] ∨ sign = ['-']) :
    ∃ y, TemplateScript.readNumber? (String.ofList (sign ++ text)) = some (.float y) := by
  have hnumeral := h.numeralChars
  cases h with
  | @mk whole fraction digits exponent shift hne hwhole hfraction hexponent hmark =>
      obtain ⟨lowered, hlowered⟩ : ∃ lowered, lowered =
        whole ++ fraction ++ exponent.map Char.toLower := ⟨_, rfl⟩
      have hlowercase : (whole ++ fraction ++ exponent).map Char.toLower = lowered := by
        rw [List.map_append, List.map_append, map_toLower_of_digits hwhole, hfraction.map_toLower,
          hlowered]
      have hcases := mem_decimal_cases hwhole hfraction hexponent.map_toLower
      rw [← hlowered] at hcases
      have hmarked' : (lowered.any fun c => c == '.' || c == 'e') = true := by
        rw [any_point_iff, ← hlowercase]
        exact hmarked.imp (List.mem_map_of_mem (f := Char.toLower))
          (List.mem_map_of_mem (f := Char.toLower))
      have hfilled : whole ++ digits ≠ [] := List.append_ne_nil_of_left_ne_nil hne digits
      have hread := readScientific?_decimal hwhole hfraction hfilled hexponent.map_toLower
      have hsplit := splitSign_decimal hwhole hfraction hfilled (exponent.map Char.toLower)
      rw [← hlowered] at hread hsplit
      have hlower : ∀ c ∈ lowered, IsNumeralChar c := isNumeralChar_of_mem (by decide) hcases
      have hmarkless : 'x' ∉ lowered := not_mem_of_decimal hcases (by decide) (by decide)
      rcases hsign with rfl | rfl
      · rw [List.nil_append, readNumber?_of_unmarked hnumeral hlowercase hmarkless, if_pos hmarked',
          readFloat?, hread]
        exact ⟨_, rfl⟩
      · have hminus : ∀ c ∈ '-' :: (whole ++ fraction ++ exponent), IsNumeralChar c :=
          List.forall_mem_cons.mpr ⟨.inr (by decide), hnumeral⟩
        have hlowercase' : ('-' :: (whole ++ fraction ++ exponent)).map Char.toLower =
            '-' :: lowered := by
          rw [List.map_cons, hlowercase]
          rfl
        have hmarkless' : 'x' ∉ '-' :: lowered := by
          rw [List.mem_cons]
          exact not_or.mpr ⟨by decide, hmarkless⟩
        rw [List.singleton_append, readNumber?_of_unmarked hminus hlowercase' hmarkless',
          if_pos (by rw [List.any_cons, hmarked', Bool.or_true]), readFloat?,
          readScientific?_minus hlower hsplit, hread]
        exact ⟨_, rfl⟩

end

/-! ### The texts of finite numbers -/

theorem integerText_unmarked (n : Int) : '.' ∉ integerText n ∧ 'e' ∉ integerText n := by
  have hdigits := isDecimalDigit_decimalDigits n.natAbs
  have habsent {c : Char} (hc : isDecimalDigit c = false) (hminus : c ≠ '-') :
      c ∉ integerText n := by
    rw [integerText]
    split_ifs
    · exact List.not_mem_cons_of_ne_of_not_mem hminus (not_mem_of_digits hdigits hc)
    · exact not_mem_of_digits hdigits hc
  exact ⟨habsent (by decide) (by decide), habsent (by decide) (by decide)⟩

namespace Binary64

variable {negative : Bool} {m : Magnitude}

theorem isIntegral_iff {x : Binary64} :
    x.isIntegral ↔ ∃ i : Int, (Number.float x).HasValue i := by
  rw [isIntegral, Option.isSome_iff_exists]
  constructor
  · rintro ⟨i, hi⟩
    exact ⟨i, Number.exactValue?_of_toInt? (n := .float x) hi⟩
  · rintro ⟨i, hi⟩
    exact ⟨i, Number.toInt?_of_exactValue? hi⟩

/-- A minus or nothing. -/
def signMark (negative : Bool) : List Char :=
  if negative then ['-'] else []

theorem signMark_cases (negative : Bool) : signMark negative = [] ∨ signMark negative = ['-'] := by
  cases negative
  · exact .inl rfl
  · exact .inr rfl

/-- A mark is put behind the digits of an integral number that show without one. -/
theorem display_finite (negative : Bool) (m : Magnitude) : (finite negative m).display =
    signMark negative ++ generalNotation 14 false m.quotient.1 m.quotient.2 ++
      if (finite negative m).isIntegral ∧
        ¬ ('.' ∈ generalNotation 14 false m.quotient.1 m.quotient.2 ∨
          'e' ∈ generalNotation 14 false m.quotient.1 m.quotient.2) then ['.', '0'] else [] := by
  rw [display]
  generalize generalNotation 14 false m.quotient.1 m.quotient.2 = text
  have hsigned : (if negative then '-' :: text else text) = signMark negative ++ text := by
    cases negative <;> rfl
  have hany : (signMark negative ++ text).any (fun c => c == '.' || c == 'e') =
      text.any fun c => c == '.' || c == 'e' := by
    cases negative <;> rfl
  have hmarked : (!(text.any fun c => c == '.' || c == 'e')) = true ↔
      ¬ ('.' ∈ text ∨ 'e' ∈ text) := by
    rw [Bool.not_eq_true', ← Bool.not_eq_true, any_point_iff]
  simp only [hsigned, hany, Bool.and_eq_true, hmarked]
  split_ifs
  · rfl
  · rw [List.append_nil]

end Binary64

section

variable {text : List Char}

/-- Digits without a mark may have one put behind them. -/
theorem IsDecimalText.append_point (h : IsDecimalText text)
    (hunmarked : ¬ ('.' ∈ text ∨ 'e' ∈ text)) : IsDecimalText (text ++ ['.', '0']) := by
  cases h with
  | @mk whole fraction digits exponent shift hne hwhole hfraction hexponent hmark =>
      rw [List.mem_append, List.mem_append, List.mem_append, List.mem_append] at hunmarked
      have hnofraction : fraction = [] :=
        hfraction.eq_nil_or.resolve_right fun hmem => hunmarked (.inl (.inl (.inr hmem)))
      have hnoexponent : exponent = [] :=
        hmark.resolve_right fun hmem => hunmarked (.inr (.inr hmem))
      rw [hnofraction, hnoexponent, List.append_nil, List.append_nil,
        ← List.append_nil (whole ++ _)]
      exact .mk hne hwhole (.point (List.cons_ne_nil _ _) (isDecimalDigit_zeros 1)) .none
        (.inl rfl)

namespace Binary64

variable {negative : Bool} {m : Magnitude}

theorem isIntegral_of_zero (h : m.quotient.1 = 0) : (finite negative m).isIntegral := by
  rw [isIntegral_iff]
  refine ⟨0, (Number.hasValue_finite negative m).mpr ?_⟩
  rw [← m.quotient_value, h, Nat.cast_zero, zero_div, signedBy_zero, Int.cast_zero]

/-- What becomes an integer in fourteen digits and is none shows as that integer. -/
theorem display_of_isShortInteger (h : (significant 14 m.quotient.1 m.quotient.2).IsShortInteger 14)
    (hfraction : ¬ (finite negative m).isIntegral) :
    ∃ n : Int, (finite negative m).display = integerText n ∧
      (decimalDigits n.natAbs).length ≤ 14 := by
  have hnum : 0 < m.quotient.1 :=
    Nat.pos_of_ne_zero fun hzero => hfraction (isIntegral_of_zero hzero)
  obtain ⟨-, whole, hpos, hlength, htext⟩ :=
    (generalNotation_cases (by decide) hnum m.quotient_den_pos).resolve_right fun hother =>
      hother.1 h
  rw [display_finite, if_neg fun hmark => hfraction hmark.1, htext, List.append_nil]
  cases negative with
  | false =>
      refine ⟨whole, ?_, hlength⟩
      rw [integerText, if_neg (by omega)]
      rfl
  | true =>
      refine ⟨-whole, ?_, by rwa [Int.natAbs_neg]⟩
      rw [integerText, if_pos (by omega), Int.natAbs_neg]
      rfl

/-- All other numbers show with a mark. -/
theorem display_marked (h : ¬ ((significant 14 m.quotient.1 m.quotient.2).IsShortInteger 14 ∧
    ¬ (finite negative m).isIntegral)) :
    ∃ sign text, (finite negative m).display = sign ++ text ∧ (sign = [] ∨ sign = ['-']) ∧
      IsDecimalText text ∧ ('.' ∈ text ∨ 'e' ∈ text) := by
  have hshape : IsDecimalText (generalNotation 14 false m.quotient.1 m.quotient.2) :=
    isDecimalText_generalNotation (by decide) m.quotient.1 m.quotient_den_pos
  have hsign := signMark_cases negative
  by_cases hmarked : '.' ∈ generalNotation 14 false m.quotient.1 m.quotient.2 ∨
      'e' ∈ generalNotation 14 false m.quotient.1 m.quotient.2
  · refine ⟨_, _, ?_, hsign, hshape, hmarked⟩
    rw [display_finite, if_neg fun hmark => hmark.2 hmarked, List.append_nil]
  · have hintegral : (finite negative m).isIntegral := by
      by_contra hfraction
      have hnum : 0 < m.quotient.1 :=
        Nat.pos_of_ne_zero fun hzero => hfraction (isIntegral_of_zero hzero)
      have hcases := generalNotation_cases (by decide : 0 < 14) hnum m.quotient_den_pos
      exact h ⟨(hcases.resolve_right fun hother => hmarked hother.2).1, hfraction⟩
    refine ⟨_, _, ?_, hsign, hshape.append_point hmarked,
      .inl (List.mem_append_right _ List.mem_cons_self)⟩
    rw [display_finite, if_pos ⟨hintegral, hmarked⟩, List.append_assoc]

end Binary64

end

/-! ### The law of displayed floating-point numbers -/

theorem Value.display?_float (x : Binary64) :
    (Value.number (.float x)).display? = some (String.ofList x.display) := rfl

theorem Value.display?_int_of_short {n : Int}
    (h : (decimalDigits n.natAbs).length ≤ digitLimit) :
    (Value.number (.int n)).display? = some (String.ofList (integerText n)) := by
  rw [display?, isWritable, integerText?, if_pos h]
  rfl

theorem Value.display?_int {n : Int} {shown : String}
    (h : (Value.number (.int n)).display? = some shown) :
    shown = String.ofList (integerText n) ∧ (decimalDigits n.natAbs).length ≤ digitLimit := by
  rw [display?] at h
  split at h
  · next hwritable =>
      cases h
      refine ⟨rfl, ?_⟩
      rw [Value.isWritable, integerText?] at hwritable
      by_contra hlong
      rw [if_neg hlong] at hwritable
      cases hwritable
  · cases h

/-- A finite floating-point number shows as an integer if and only if it is none but becomes a short
one in its first fourteen digits, which are within half a unit of the last. The text is then read
as that integer, and all other texts are read as floating-point numbers. In every container the
number shows by the same text between delimiters, at any depth. -/
theorem display_float_recognised (negative : Bool) (m : Magnitude) :
    ∃ kept : Decimal, ∃ shown,
      kept = significant 14 m.quotient.1 m.quotient.2 ∧
      |kept.value - m.value| ≤ 10 ^ (kept.exponent - 13) / 2 ∧
      (Value.number (.float (.finite negative m))).display? = some shown ∧
      ((∃ n : Int, (Value.number (.int n)).display? = some shown) ↔
        kept.IsShortInteger 14 ∧ ¬ ∃ i : Int, (Number.float (.finite negative m)).HasValue i) ∧
      (∀ n : Int, (Value.number (.int n)).display? = some shown →
        (Value.str shown).toNumber? = some (.int n)) ∧
      ((¬ ∃ n : Int, (Value.number (.int n)).display? = some shown) →
        ∃ y, (Value.str shown).toNumber? = some (.float y)) ∧
      ∀ w text, Value.ShownWithin (.number (.float (.finite negative m))) w →
        w.display? = some text → Delimits text.toList shown.toList := by
  have hnear := Decimal.significant_near (by decide : 0 < 14) m.quotient.1 m.quotient_den_pos
  rw [m.quotient_value] at hnear
  rw [← Binary64.isIntegral_iff]
  have hmarked (h : ¬ ((significant 14 m.quotient.1 m.quotient.2).IsShortInteger 14 ∧
      ¬ (Binary64.finite negative m).isIntegral)) (n : Int) :
      (Binary64.finite negative m).display ≠ integerText n := by
    intro heq
    obtain ⟨sign, text, htext, -, -, hmark⟩ := Binary64.display_marked h
    obtain ⟨hpoint, hexponent⟩ := integerText_unmarked n
    rw [← heq, htext] at hpoint hexponent
    exact hmark.elim (fun hmem => hpoint (List.mem_append_right _ hmem))
      fun hmem => hexponent (List.mem_append_right _ hmem)
  have hshows : (∃ n : Int, (Value.number (.int n)).display? =
      some (String.ofList (Binary64.finite negative m).display)) ↔
        (significant 14 m.quotient.1 m.quotient.2).IsShortInteger 14 ∧
          ¬ (Binary64.finite negative m).isIntegral := by
    constructor
    · rintro ⟨n, hn⟩
      by_contra h
      exact hmarked h n (String.ofList_injective (Value.display?_int hn).1)
    · rintro ⟨hshort, hfraction⟩
      obtain ⟨n, hn, hlength⟩ := Binary64.display_of_isShortInteger hshort hfraction
      exact ⟨n, hn ▸ Value.display?_int_of_short (hlength.trans (by decide))⟩
  refine ⟨_, _, rfl, ?_, Value.display?_float _, hshows, fun n hn => ?_, fun h => ?_,
    fun w text hwithin hw => ?_⟩
  · have hunit : (significant 14 m.quotient.1 m.quotient.2).exponent + 1 - (14 : Nat) =
        (significant 14 m.quotient.1 m.quotient.2).exponent - 13 := by omega
    rwa [hunit] at hnear
  · obtain ⟨-, hlength⟩ := Value.display?_int hn
    obtain ⟨shown, hdisplay, hread⟩ := toNumber?_display hlength
    rw [Value.display, Value.ofInt, hn] at hdisplay
    cases hdisplay
    exact hread
  · obtain ⟨sign, text, htext, hsign, hshape, hmark⟩ := Binary64.display_marked (mt hshows.mpr h)
    rw [htext]
    exact hshape.readNumber? hmark hsign
  · rw [Value.display?] at hw
    split at hw
    · cases hw
      rw [String.toList_ofList, String.toList_ofList, hwithin.displayText]
      exact hwithin.delimits (by decide)
    · cases hw

/-- The greatest number below one. -/
def belowOne : Binary64 := .ofBits 0x3FEFFFFFFFFFFFFF

/-- The greatest number below one is no integer and shows as one. -/
theorem display_float_unrecognised : ¬ ∀ x : Binary64, x.isFinite → ∀ n : Int,
    (Value.number (.float x)).display? ≠ (Value.number (.int n)).display? := by
  intro h
  have hfinite : belowOne.isFinite = true := by decide +kernel
  have hshown : belowOne.display = integerText 1 := by decide +kernel
  apply h belowOne hfinite 1
  rw [Value.display?_float, hshown, Value.display?_int_of_short (by decide)]

end TemplateScript
