import Mathlib.Data.List.TakeWhile
import Mathlib.Data.Nat.Cast.Field
import TemplateScript.Number.Layout
import TemplateScript.Proofs.Number.Nearest

/-!
# Significant digits

What a decimal of a number of significant digits stands for, how near it is to the quotient that was
rounded, and how its digits divide at the point.
-/

namespace TemplateScript

/-! ### Digits of natural numbers -/

theorem length_decimalDigits {count n : Nat} (hcount : 0 < count) (hlow : 10 ^ (count - 1) ≤ n)
    (hhigh : n < 10 ^ count) : (decimalDigits n).length = count := by
  have hlength (k : Nat) (hk : 0 < k) : (decimalDigits n).length ≤ k ↔ n < 10 ^ k :=
    Nat.length_toDigits_le_iff (by decide) hk
  have hle : (decimalDigits n).length ≤ count := (hlength count hcount).mpr hhigh
  by_cases hone : count = 1
  · have hpos : 0 < (decimalDigits n).length := List.length_pos_iff.mpr Nat.toDigits_ne_nil
    omega
  · have hgt : ¬ (decimalDigits n).length ≤ count - 1 :=
      mt (hlength (count - 1) (by omega)).mp (not_lt.mpr hlow)
    omega

theorem digitChar_eq_zero_iff {d : Nat} (h : d < 10) : d.digitChar = '0' ↔ d = 0 := by
  revert h
  revert d
  decide

/-- The last digits are zeros just where a power of ten divides a number; the digits in front of
them are those of the quotient. -/
theorem decimalDigits_split (n count : Nat) (h : 10 ^ count ≤ n) :
    ∃ tail, decimalDigits n = decimalDigits (n / 10 ^ count) ++ tail ∧ tail.length = count ∧
      ((∀ c ∈ tail, c = '0') ↔ 10 ^ count ∣ n) := by
  induction count generalizing n with
  | zero => exact ⟨[], by simp, rfl, by simp⟩
  | succ count ih =>
      have hten : 10 ≤ n := by
        refine le_trans ?_ h
        rw [pow_succ]
        exact Nat.le_mul_of_pos_left 10 (by positivity)
      have hrest : 10 ^ count ≤ n / 10 := by
        rw [Nat.le_div_iff_mul_le (by decide), ← pow_succ]
        exact h
      obtain ⟨tail, htail, hlength, hzeros⟩ := ih (n / 10) hrest
      refine ⟨tail ++ [(n % 10).digitChar], ?_, by simp [hlength], ?_⟩
      · have hquotient : n / 10 / 10 ^ count = n / 10 ^ (count + 1) := by
          rw [Nat.div_div_eq_div_mul, pow_succ']
        rw [decimalDigits, Nat.toDigits_of_base_le (by decide) hten]
        change decimalDigits (n / 10) ++ _ = _
        rw [htail, hquotient, List.append_assoc]
      · rw [List.forall_mem_append, hzeros, List.forall_mem_singleton,
          digitChar_eq_zero_iff (Nat.mod_lt n (by decide)), pow_succ']
        constructor
        · rintro ⟨hdvd, hmod⟩
          obtain ⟨k, hk⟩ := hdvd
          refine ⟨k, ?_⟩
          rw [mul_assoc, ← hk]
          exact (Nat.mul_div_cancel' (Nat.dvd_of_mod_eq_zero hmod)).symm
        · rintro ⟨k, hk⟩
          rw [mul_assoc] at hk
          exact ⟨⟨k, by rw [hk, Nat.mul_div_cancel_left _ (by decide)]⟩,
            by rw [hk, Nat.mul_mod_right]⟩

namespace Decimal

/-! ### What decimals stand for -/

/-- The number that a decimal stands for. -/
def value (d : Decimal) : ℚ :=
  Nat.ofDigitChars 10 d.digits 0 * 10 ^ (d.exponent + 1 - d.digits.length)

/-- A decimal of `count` digits, the first of them not zero, which are those of `n`, and which is
within half a unit of the last digit of `q`. -/
structure Rounds (d : Decimal) (count n : Nat) (q : ℚ) : Prop where
  digits : d.digits = decimalDigits n
  low : 10 ^ (count - 1) ≤ n
  high : n < 10 ^ count
  near : |n * 10 ^ (d.exponent + 1 - count) - q| ≤ 10 ^ (d.exponent + 1 - count) / 2

theorem ofSignificant_rounds {count num den : Nat} (hcount : 0 < count) (hnum : 0 < num)
    (hden : 0 < den) : ∃ n, (ofSignificant count num den).Rounds count n (num / den) := by
  obtain ⟨hlow, hhigh⟩ := floorLog_bounds (.inr rfl) hnum hden
  rw [Nat.cast_ofNat] at hlow hhigh
  generalize hlog : floorLog 10 num den = log at *
  obtain ⟨unit, hunit⟩ : ∃ unit, unit = log - (count - 1 : Nat) := ⟨_, rfl⟩
  obtain ⟨rounded, hrounded, hnear, -⟩ := roundQuotient_scaleDown (by decide : 10 ≠ 0) num hden unit
  rw [Nat.cast_ofNat] at hnear
  have hpow : (0 : ℚ) < 10 ^ unit := by positivity
  have hfirst : (10 : ℚ) ^ log = 10 ^ (count - 1) * 10 ^ unit := by
    rw [← zpow_natCast, ← zpow_add₀ (by norm_num), hunit]
    congr 1
    ring
  have hnext : (10 : ℚ) ^ (log + 1) = 10 ^ count * 10 ^ unit := by
    rw [← zpow_natCast, ← zpow_add₀ (by norm_num), hunit]
    congr 1
    omega
  have hlow' : 10 ^ (count - 1) ≤ rounded := by
    apply ge_of_near hpow hnear
    rw [Nat.cast_pow, Nat.cast_ofNat, ← hfirst]
    exact hlow
  have hhigh' : rounded ≤ 10 ^ count := by
    apply le_of_near hpow hnear
    rw [Nat.cast_pow, Nat.cast_ofNat, ← hnext]
    exact hhigh
  have hdef : ofSignificant count num den =
      if rounded = 10 ^ count then ⟨decimalDigits (10 ^ (count - 1)), log + 1⟩
      else ⟨decimalDigits rounded, log⟩ := by
    rw [ofSignificant, hlog, ← hrounded, hunit]
    rfl
  rw [hdef]
  split_ifs with hcarry
  · -- all nines are rounded up to a power of ten, which has one digit more
    refine ⟨10 ^ (count - 1), rfl, le_rfl, Nat.pow_lt_pow_right (by decide) (by omega), ?_⟩
    have hsame : ((10 ^ (count - 1) : Nat) : ℚ) * 10 ^ (log + 1 + 1 - count) =
        rounded * 10 ^ unit := by
      rw [hcarry, Nat.cast_pow, Nat.cast_pow, Nat.cast_ofNat, ← hnext, ← zpow_natCast,
        ← zpow_add₀ (by norm_num)]
      congr 1
      omega
    have hgrows : (10 : ℚ) ^ unit ≤ 10 ^ (log + 1 + 1 - count) :=
      zpow_le_zpow_right₀ (by norm_num) (by omega)
    rw [hsame]
    linarith
  · have hexponent : log + 1 - count = unit := by omega
    refine ⟨rounded, rfl, hlow', lt_of_le_of_ne hhigh' hcarry, ?_⟩
    rw [hexponent]
    exact hnear

namespace Rounds

variable {d : Decimal} {count n : Nat} {q : ℚ}

theorem length_digits (h : d.Rounds count n q) (hcount : 0 < count) : d.digits.length = count := by
  rw [h.digits]
  exact length_decimalDigits hcount h.low h.high

theorem value_eq (h : d.Rounds count n q) (hcount : 0 < count) :
    d.value = n * 10 ^ (d.exponent + 1 - count) := by
  rw [value, h.length_digits hcount, h.digits, decimalDigits,
    Nat.ofDigitChars_toDigits (by decide) (by decide)]

/-- Where the point stands among the digits, those behind it are zeros if and only if the decimal is
an integer; those in front of it are the digits of a positive number. -/
theorem exists_split (h : d.Rounds count n q) (hlow : 0 ≤ d.exponent) (hhigh : d.exponent < count) :
    ∃ whole tail, 0 < whole ∧ d.digits = decimalDigits whole ++ tail ∧
      ((decimalDigits whole).length : Int) = d.exponent + 1 ∧
      ((∀ c ∈ tail, c = '0') ↔ ∃ k : Nat, d.value = k) := by
  have hcount : 0 < count := by omega
  obtain ⟨behind, hbehind⟩ := Int.eq_ofNat_of_zero_le (by omega : 0 ≤ count - 1 - d.exponent)
  have hle : 10 ^ behind ≤ n := (Nat.pow_le_pow_right (by decide) (by omega)).trans h.low
  obtain ⟨tail, hdigits, hlength, hzeros⟩ := decimalDigits_split n behind hle
  have hvalue : d.value = n / (10 ^ behind : Nat) := by
    rw [h.value_eq hcount, show d.exponent + 1 - count = -(behind : Int) by omega, zpow_neg,
      zpow_natCast, Nat.cast_pow, Nat.cast_ofNat, div_eq_mul_inv]
  have hpow : ((10 ^ behind : Nat) : ℚ) ≠ 0 := by positivity
  refine ⟨n / 10 ^ behind, tail, Nat.div_pos hle (by positivity), h.digits.trans hdigits, ?_, ?_⟩
  · have htotal := congrArg List.length (h.digits.trans hdigits)
    rw [h.length_digits hcount, List.length_append, hlength] at htotal
    omega
  · rw [hzeros, hvalue]
    constructor
    · intro hdvd
      exact ⟨n / 10 ^ behind, (Nat.cast_div hdvd hpow).symm⟩
    · rintro ⟨k, hk⟩
      rw [div_eq_iff hpow] at hk
      exact ⟨k, by rw [mul_comm]; exact_mod_cast hk⟩

end Rounds

theorem ofDigitChars_zeros (count : Nat) :
    Nat.ofDigitChars 10 (List.replicate count '0') 0 = 0 := by
  induction count with
  | zero => rfl
  | succ count ih =>
      rw [List.replicate_succ, Nat.ofDigitChars_cons]
      exact ih

/-- The digits that are kept of a quotient stand for it to half a unit of the last one. -/
theorem significant_near {count : Nat} (hcount : 0 < count) (num : Nat) {den : Nat}
    (hden : 0 < den) : |(significant count num den).value - num / den| ≤
      10 ^ ((significant count num den).exponent + 1 - count) / 2 := by
  rw [significant]
  split_ifs with hnum
  · rw [value, ofDigitChars_zeros, hnum, Nat.cast_zero, zero_mul, zero_div, sub_zero, abs_zero]
    positivity
  · obtain ⟨n, hrounds⟩ := ofSignificant_rounds hcount (Nat.pos_of_ne_zero hnum) hden
    rw [hrounds.value_eq hcount]
    exact hrounds.near

/-! ### Zeros at the end -/

/-- What is left without the zeros at the end. -/
theorem withoutTrailingZeros_cases (d : Decimal) :
    d.withoutTrailingZeros.exponent = d.exponent ∧
      ((∃ count, d.digits = d.withoutTrailingZeros.digits ++ List.replicate count '0' ∧
          ∃ c ∈ d.withoutTrailingZeros.digits.getLast?, c ≠ '0') ∨
        d.withoutTrailingZeros.digits = ['0'] ∧ ∀ c ∈ d.digits, c = '0') := by
  have hsplit : d.digits = (d.digits.reverse.dropWhile (· == '0')).reverse ++
      (d.digits.reverse.takeWhile (· == '0')).reverse := by
    rw [← List.reverse_append, List.takeWhile_append_dropWhile, List.reverse_reverse]
  have hzeros : ∀ c ∈ (d.digits.reverse.takeWhile (· == '0')).reverse, c = '0' := by
    intro c hc
    have hzero := List.mem_takeWhile_imp (p := (· == '0')) (List.mem_reverse.mp hc)
    exact beq_iff_eq.mp hzero
  rw [withoutTrailingZeros]
  split
  · next hnil =>
      rw [hnil, List.nil_append] at hsplit
      exact ⟨rfl, .inr ⟨rfl, hsplit ▸ hzeros⟩⟩
  · next hne =>
      have hreplicate := List.eq_replicate_iff.mpr ⟨rfl, hzeros⟩
      refine ⟨rfl, .inl ⟨_, hsplit.trans (congrArg _ hreplicate), ?_⟩⟩
      have hlast := List.head?_dropWhile_not (· == '0') d.digits.reverse
      cases hrest : d.digits.reverse.dropWhile (· == '0') with
      | nil => exact absurd (by rw [hrest]; rfl) hne
      | cons c rest =>
          rw [hrest] at hlast
          exact ⟨c, by rw [List.getLast?_reverse]; rfl, beq_eq_false_iff_ne.mp hlast⟩

section

variable {d : Decimal} {whole tail : List Char} (hd : d.digits = whole ++ tail)

include hd

/-- The zeros at the end begin before the point if there is nothing else behind it. -/
theorem exists_zeros_before_point (hne : whole ≠ []) (h : ∀ c ∈ tail, c = '0') :
    ∃ count, whole = d.withoutTrailingZeros.digits ++ List.replicate count '0' := by
  obtain ⟨-, ⟨count, hdigits, c, hlast, hc⟩ | ⟨hdigits, hzeros⟩⟩ := d.withoutTrailingZeros_cases
  · rw [hd, List.append_eq_append_iff] at hdigits
    rcases hdigits with ⟨middle, hshown, htail⟩ | ⟨middle, hwhole, hrest⟩
    · have hmiddle : middle = [] := by
        by_contra hfilled
        rw [hshown, List.getLast?_append_of_ne_nil _ hfilled] at hlast
        have hmem : c ∈ middle := List.mem_of_getLast? hlast
        exact hc (h c (htail ▸ List.mem_append_left _ hmem))
      exact ⟨0, by rw [hshown, hmiddle, List.append_nil, List.replicate_zero, List.append_nil]⟩
    · obtain ⟨-, hmiddle, -⟩ := List.append_eq_replicate_iff.mp hrest.symm
      exact ⟨middle.length, hwhole.trans (congrArg _ hmiddle)⟩
  · have hwhole : whole = List.replicate whole.length '0' :=
      List.eq_replicate_iff.mpr ⟨rfl, fun c hc => hzeros c (hd ▸ List.mem_append_left _ hc)⟩
    refine ⟨whole.length - 1, ?_⟩
    rw [hdigits, List.singleton_append, ← List.replicate_succ,
      Nat.sub_add_cancel (List.length_pos_iff.mpr hne)]
    exact hwhole

theorem exists_digits_behind_point (h : ¬ ∀ c ∈ tail, c = '0') :
    ∃ fraction, fraction ≠ [] ∧ d.withoutTrailingZeros.digits = whole ++ fraction := by
  obtain ⟨-, ⟨count, hdigits, -⟩ | ⟨-, hzeros⟩⟩ := d.withoutTrailingZeros_cases
  · rw [hd, List.append_eq_append_iff] at hdigits
    rcases hdigits with ⟨middle, hshown, htail⟩ | ⟨middle, -, hrest⟩
    · refine ⟨middle, fun hnil => h fun c hc => ?_, hshown⟩
      rw [htail, hnil, List.nil_append] at hc
      exact List.eq_of_mem_replicate hc
    · refine absurd (fun c hc => ?_) h
      exact List.eq_of_mem_replicate (hrest ▸ List.mem_append_right middle hc)
  · exact absurd (fun c hc => hzeros c (hd ▸ List.mem_append_right whole hc)) h

variable (hwhole : (whole.length : Int) = d.exponent + 1)

include hwhole

/-- With its point behind some of its digits a decimal shows just these if only zeros follow. -/
theorem positional_of_zeros (hne : whole ≠ []) (h : ∀ c ∈ tail, c = '0') :
    positional false d.withoutTrailingZeros = whole := by
  obtain ⟨count, hcount⟩ := exists_zeros_before_point hd hne h
  have hexponent := d.withoutTrailingZeros_cases.1
  have hlength := congrArg List.length hcount
  rw [List.length_append, List.length_replicate] at hlength
  have hpos : 0 < whole.length := List.length_pos_iff.mpr hne
  have hpoint : d.withoutTrailingZeros.exponent.toNat + 1 = whole.length := by omega
  rw [positional, if_neg (by omega)]
  dsimp only
  rw [hpoint, List.take_of_length_le (by omega), List.drop_of_length_le (by omega),
    show whole.length - d.withoutTrailingZeros.digits.length = count by omega, ← hcount]
  rfl

theorem point_mem_positional (hne : whole ≠ []) (h : ¬ ∀ c ∈ tail, c = '0') :
    '.' ∈ positional false d.withoutTrailingZeros := by
  obtain ⟨fraction, hfraction, hdigits⟩ := exists_digits_behind_point hd h
  have hexponent := d.withoutTrailingZeros_cases.1
  have hpos : 0 < whole.length := List.length_pos_iff.mpr hne
  have hpoint : d.withoutTrailingZeros.exponent.toNat + 1 = whole.length := by omega
  rw [positional, if_neg (by omega)]
  dsimp only
  rw [hpoint, hdigits, List.drop_left, withPoint, if_neg (by simpa using hfraction)]
  exact List.mem_append_right _ List.mem_cons_self

end

end Decimal

end TemplateScript
