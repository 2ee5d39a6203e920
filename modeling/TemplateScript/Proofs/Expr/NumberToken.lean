import Mathlib.Data.List.TakeWhile
import TemplateScript.Expr.Token
import TemplateScript.Number.Reading
import TemplateScript.Proofs.Expr.Reader

/-!
# What a number token takes

A numeral is hexadecimal, or it has digits with a fraction and an exponent, each of which may be
missing. The token takes such a text or none at all.
-/

namespace TemplateScript

/-! ### Numerals -/

/-- A point with the digits after it, or neither. -/
inductive IsFraction : List Char → List Char → Prop
  | none : IsFraction [] []
  | point {digits : List Char} (hne : digits ≠ []) (hdigits : ∀ c ∈ digits, isDecimalDigit c) :
      IsFraction ('.' :: digits) digits

/-- A sign, or none. -/
inductive IsSign : List Char → Prop
  | none : IsSign []
  | plus : IsSign ['+']
  | minus : IsSign ['-']

/-- An exponent with its value, or none at all, which counts as zero. -/
inductive IsExponent : List Char → Int → Prop
  | none : IsExponent [] 0
  | mark {mark : Char} {sign digits : List Char} (hmark : mark = 'e' ∨ mark = 'E')
      (hsign : IsSign sign) (hne : digits ≠ [])
      (hdigits : ∀ c ∈ digits, isDecimalDigit c) :
      IsExponent (mark :: (sign ++ digits)) (Binary64.signed (sign == ['-'])
        (valueOfDigits 10 (digits.filterMap alphanumericDigit?)))

inductive IsNumeral : List Char → Prop
  | hexadecimal {mark : Char} {digits : List Char} (hmark : mark = 'x' ∨ mark = 'X')
      (hne : digits ≠ []) (hdigits : ∀ c ∈ digits, isHexDigit c) :
      IsNumeral ('0' :: mark :: digits)
  | decimal {whole fraction digits exponent : List Char} {shift : Int}
      (hwhole : ∀ c ∈ whole, isDecimalDigit c) (hfraction : IsFraction fraction digits)
      (hne : whole ++ digits ≠ []) (hexponent : IsExponent exponent shift) :
      IsNumeral (whole ++ fraction ++ exponent)

theorem IsSign.forall_mem {sign : List Char} (h : IsSign sign) {p : Char → Prop} (hplus : p '+')
    (hminus : p '-') : ∀ c ∈ sign, p c := by
  cases h with
  | none => exact List.forall_mem_nil _
  | plus => exact List.forall_mem_singleton.mpr hplus
  | minus => exact List.forall_mem_singleton.mpr hminus

section

variable {whole fraction digits exponent : List Char} {shift : Int}

theorem IsFraction.mem_cases (h : IsFraction fraction digits) :
    ∀ c ∈ fraction, isDecimalDigit c ∨ c = '.' := by
  cases h with
  | none => exact List.forall_mem_nil _
  | point _ hdigits =>
      exact List.forall_mem_cons.mpr ⟨.inr rfl, fun c hc => .inl (hdigits c hc)⟩

theorem IsExponent.mem_cases (h : IsExponent exponent shift) :
    ∀ c ∈ exponent, isDecimalDigit c ∨ c ∈ ['e', 'E', '+', '-'] := by
  cases h with
  | none => exact List.forall_mem_nil _
  | @mark mark sign digits hmark hsign _ hdigits =>
      have hfirst : mark ∈ ['e', 'E', '+', '-'] := by rcases hmark with rfl | rfl <;> decide
      exact List.forall_mem_cons.mpr ⟨.inr hfirst, List.forall_mem_append.mpr
        ⟨hsign.forall_mem (.inr (by decide)) (.inr (by decide)),
          fun c hc => .inl (hdigits c hc)⟩⟩

theorem mem_decimal_cases (hwhole : ∀ c ∈ whole, isDecimalDigit c)
    (hfraction : IsFraction fraction digits) (hexponent : IsExponent exponent shift) :
    ∀ c ∈ whole ++ fraction ++ exponent, isDecimalDigit c ∨ c ∈ ['.', 'e', 'E', '+', '-'] := by
  simp only [List.forall_mem_append]
  refine ⟨⟨fun c hc => .inl (hwhole c hc), fun c hc => ?_⟩, fun c hc => ?_⟩
  · exact (hfraction.mem_cases c hc).imp_right fun hpoint => List.mem_cons.mpr (.inl hpoint)
  · exact (hexponent.mem_cases c hc).imp_right fun hmark => List.mem_cons_of_mem _ hmark

end

/-! ### What the token takes -/

namespace Token

theorem digits_takes : Takes digits fun text => ∀ c ∈ text, isDecimalDigit c := fun source =>
  ⟨source.takeWhile isDecimalDigit, source.dropWhile isDecimalDigit,
    List.takeWhile_append_dropWhile.symm, rfl, fun _ => List.mem_takeWhile_imp⟩

theorem fraction_takes :
    Takes fraction fun text => ∃ digits, IsFraction text digits := by
  intro source
  unfold fraction
  split
  · next rest =>
      split_ifs with hnone
      · exact absent ⟨[], .none⟩ _
      · exact ((digits_takes rest).filled hnone).behind fun digits h =>
          ⟨digits, .point h.1 h.2⟩
  · exact absent ⟨[], .none⟩ source

theorem exponent_takes :
    Takes exponent fun text => ∃ shift, IsExponent text shift := by
  intro source
  have hnone : ∃ shift, IsExponent [] shift := ⟨0, .none⟩
  match source with
  | [] => exact absent hnone []
  | e :: rest =>
      by_cases hmark : e = 'e' ∨ e = 'E'
      · match rest with
        | [] =>
            simp only [exponent, if_pos hmark]
            exact absent hnone [e]
        | sign :: more =>
            simp only [exponent, if_pos hmark]
            split_ifs with hsign hdigits hdigits
            · exact absent hnone _
            · have hsigned : IsSign [sign] := by
                rcases hsign with rfl | rfl
                · exact .plus
                · exact .minus
              have htail : TakesFrom
                  (fun text => ∃ digits, text = [sign] ++ digits ∧ digits ≠ [] ∧
                    ∀ c ∈ digits, isDecimalDigit c) (sign :: more) (digits more + 1) :=
                ((digits_takes more).filled hdigits).behind fun digits h => ⟨digits, rfl, h⟩
              refine htail.behind fun text htext => ?_
              obtain ⟨digits, rfl, hne, hall⟩ := htext
              exact ⟨_, .mark hmark hsigned hne hall⟩
            · exact absent hnone _
            · refine ((digits_takes (sign :: more)).filled hdigits).behind fun digits h => ?_
              have hunsigned : IsExponent (e :: ([] ++ digits)) _ :=
                .mark hmark .none h.1 h.2
              exact ⟨_, hunsigned⟩
      · simp only [exponent, if_neg hmark]
        exact absent hnone (e :: rest)

theorem hexNumber_takes : Takes hexNumber fun text => text = [] ∨ IsNumeral text := by
  intro source
  unfold hexNumber
  split
  · next mark rest =>
      dsimp only
      split_ifs with hhex
      · refine ⟨'0' :: mark :: rest.takeWhile isHexDigit, rest.dropWhile isHexDigit, ?_, rfl,
          .inr (.hexadecimal hhex.1 hhex.2 fun _ => List.mem_takeWhile_imp)⟩
        rw [List.cons_append, List.cons_append, List.takeWhile_append_dropWhile]
      · exact absent (.inl rfl) _
  · exact absent (.inl rfl) source

theorem decimalNumber_takes :
    Takes decimalNumber fun text => text = [] ∨ IsNumeral text := by
  intro source
  rw [decimalNumber]
  have hmantissa : TakesFrom (fun text => ∃ whole fraction digits, text = whole ++ fraction ∧
      (∀ c ∈ whole, isDecimalDigit c) ∧ IsFraction fraction digits) source
      (digits source + fraction (source.drop (digits source))) :=
    (digits_takes source).join fraction_takes
      fun whole fraction hwhole hfraction =>
        hfraction.elim fun digits h => ⟨whole, fraction, digits, rfl, hwhole, h⟩
  split_ifs with hnone
  · exact absent (.inl rfl) source
  · refine (hmantissa.filled hnone).join exponent_takes fun mantissa exponent hleft hright =>
      .inr ?_
    obtain ⟨hne, whole, fraction, digits, rfl, hwhole, hfraction⟩ := hleft
    obtain ⟨shift, hexponent⟩ := hright
    have hfilled : whole ++ digits ≠ [] := by
      cases hfraction with
      | none => exact hne
      | point hdigits =>
          intro hboth
          exact hdigits (List.append_eq_nil_iff.mp hboth).2
    exact .decimal hwhole hfraction hfilled hexponent

theorem number_takes_numeral : Takes number fun text => text = [] ∨ IsNumeral text := by
  intro source
  rw [number]
  split_ifs
  · exact decimalNumber_takes source
  · exact hexNumber_takes source

end Token

/-- A text that is a number as a whole is a numeral. -/
theorem isNumeral_of_number {text : List Char} (hne : text ≠ [])
    (h : Token.number text = text.length) : IsNumeral text := by
  obtain ⟨front, after, htext, hlength, hnumeral⟩ := Token.number_takes_numeral text
  have hall : after = [] := by
    have hboth := congrArg List.length htext
    rw [List.length_append] at hboth
    exact List.length_eq_zero_iff.mp (by omega)
  rw [hall, List.append_nil] at htext
  exact htext ▸ hnumeral.resolve_left fun hnone => hne (htext.trans hnone)

end TemplateScript
