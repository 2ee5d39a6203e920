import Mathlib.Algebra.Order.Field.Power
import Mathlib.Algebra.Order.Floor.Semifield
import Mathlib.Tactic.FieldSimp
import Mathlib.Tactic.Linarith
import Mathlib.Tactic.Positivity
import Mathlib.Tactic.Ring
import TemplateScript.Proofs.Number.Exact

/-!
# Nearest floating-point numbers

Everything that is known about the rounding of a quotient to a floating-point number: the result is
finite below the bound of overflow and infinite past it, it keeps the sign, and no finite number
lies nearer. The rest follows from nearness alone: rounding goes past no floating-point number, and
what is the value of one stays as it is, such as every integer of at most 53 bits.
-/

namespace TemplateScript

/-! ### Quotients of natural numbers -/

section

variable {base num den : Nat}

/-- A scaled quotient is the quotient divided by a power of the base. -/
theorem scaleDown_value (hbase : base ≠ 0) (num den : Nat) (exponent : Int) :
    ((scaleDown base num den exponent).1 : ℚ) / (scaleDown base num den exponent).2 =
      num / den / (base : ℚ) ^ exponent := by
  have hpow : (base : ℚ) ≠ 0 := by exact_mod_cast hbase
  rw [scaleDown]
  by_cases hexponent : 0 ≤ exponent
  · obtain ⟨k, rfl⟩ := Int.eq_ofNat_of_zero_le hexponent
    simp [hexponent, div_div]
  · obtain ⟨k, rfl⟩ : ∃ k : Nat, exponent = -k := ⟨exponent.natAbs, by omega⟩
    simp only [hexponent, if_false, neg_neg, Int.toNat_natCast, Nat.pow_eq, Nat.cast_mul,
      Nat.cast_pow, zpow_neg, zpow_natCast, div_inv_eq_mul]
    ring

theorem roundQuotient_cases (num den : Nat) :
    (roundQuotient num den = num / den ∧ 2 * (num % den) ≤ den) ∨
      (roundQuotient num den = num / den + 1 ∧ den ≤ 2 * (num % den)) := by
  unfold roundQuotient
  dsimp only
  split_ifs <;> omega

theorem abs_roundQuotient_sub_le (num : Nat) (hden : 0 < den) :
    |(roundQuotient num den : ℚ) - num / den| ≤ 1 / 2 := by
  have hpos : (0 : ℚ) < den := by exact_mod_cast hden
  have hsplit : (num : ℚ) = den * (num / den : Nat) + (num % den : Nat) := by
    exact_mod_cast (Nat.div_add_mod num den).symm
  have hdiv : (num : ℚ) / den = (num / den : Nat) + (num % den : Nat) / (den : ℚ) := by
    rw [hsplit]
    field_simp
  have hmod : (num % den : Nat) < (den : ℚ) := by exact_mod_cast Nat.mod_lt num hden
  rw [hdiv, abs_le]
  rcases roundQuotient_cases num den with ⟨hround, hrest⟩ | ⟨hround, hrest⟩
  · have hhalf : (num % den : Nat) / (den : ℚ) ≤ 1 / 2 := by
      rw [div_le_div_iff₀ hpos two_pos]
      exact_mod_cast (by omega : num % den * 2 ≤ 1 * den)
    have hnonneg : 0 ≤ (num % den : Nat) / (den : ℚ) := by positivity
    rw [hround]
    constructor <;> linarith
  · have hhalf : 1 / 2 ≤ (num % den : Nat) / (den : ℚ) := by
      rw [div_le_div_iff₀ two_pos hpos]
      exact_mod_cast (by omega : 1 * den ≤ num % den * 2)
    have hone : (num % den : Nat) / (den : ℚ) ≤ 1 := (div_le_one hpos).mpr hmod.le
    rw [hround]
    push_cast
    constructor <;> linarith

/-- No natural number lies nearer to a quotient than the one to which it is rounded. -/
theorem roundQuotient_nearest (num : Nat) (hden : 0 < den) (k : Nat) :
    |(roundQuotient num den : ℚ) - num / den| ≤ |(k : ℚ) - num / den| := by
  have hhalf := abs_roundQuotient_sub_le num hden
  by_cases heq : k = roundQuotient num den
  · rw [heq]
  · have hapart : (1 : ℚ) ≤ |(k : ℚ) - roundQuotient num den| := by
      have hne : ((k : Int) - roundQuotient num den) ≠ 0 := by omega
      exact_mod_cast Int.one_le_abs hne
    have htriangle := abs_sub_le (k : ℚ) (num / den) (roundQuotient num den)
    rw [abs_sub_comm (num / den : ℚ)] at htriangle
    linarith

/-- A quotient is rounded to a multiple of a power of the base which is within half the power, and
no multiple lies nearer. -/
theorem roundQuotient_scaleDown (hbase : base ≠ 0) (num : Nat) (hden : 0 < den) (exponent : Int) :
    ∃ n, roundQuotient (scaleDown base num den exponent).1 (scaleDown base num den exponent).2 = n ∧
      |(n * (base : ℚ) ^ exponent : ℚ) - num / den| ≤ (base : ℚ) ^ exponent / 2 ∧
      ∀ k : Nat, |(n * (base : ℚ) ^ exponent : ℚ) - num / den| ≤
        |(k * (base : ℚ) ^ exponent : ℚ) - num / den| := by
  have hpow : (0 : ℚ) < (base : ℚ) ^ exponent := by positivity
  have hpos : 0 < (scaleDown base num den exponent).2 :=
    scaleDown_den_pos (Nat.pos_of_ne_zero hbase) hden exponent
  have hhalf := abs_roundQuotient_sub_le (scaleDown base num den exponent).1 hpos
  have hnearest := roundQuotient_nearest (scaleDown base num den exponent).1 hpos
  rw [scaleDown_value hbase] at hhalf
  simp only [scaleDown_value hbase] at hnearest
  -- in units of the power the quotient is the scaled one
  have hunits (q : ℚ) : |q * (base : ℚ) ^ exponent - num / den| =
      |q - num / den / (base : ℚ) ^ exponent| * (base : ℚ) ^ exponent := by
    rw [← abs_of_pos hpow, ← abs_mul, abs_of_pos hpow, sub_mul, div_mul_cancel₀ _ hpow.ne']
  refine ⟨_, rfl, ?_, fun k => ?_⟩
  · rw [hunits]
    linarith [mul_le_mul_of_nonneg_right hhalf hpow.le]
  · rw [hunits, hunits]
    exact mul_le_mul_of_nonneg_right (hnearest k) hpow.le

section

variable {unit q : ℚ} {n bound : Nat}

theorem le_of_near (hunit : 0 < unit) (hnear : |n * unit - q| ≤ unit / 2)
    (h : q < bound * unit) : n ≤ bound := by
  have hlt : (n : ℚ) * unit < (bound + 1) * unit := by linarith [(abs_le.mp hnear).2]
  have hlt' := lt_of_mul_lt_mul_right hlt hunit.le
  exact Nat.le_of_lt_succ (by exact_mod_cast hlt')

theorem ge_of_near (hunit : 0 < unit) (hnear : |n * unit - q| ≤ unit / 2)
    (h : bound * unit ≤ q) : bound ≤ n := by
  have hlt : (bound : ℚ) * unit < (n + 1) * unit := by linarith [(abs_le.mp hnear).1]
  have hlt' := lt_of_mul_lt_mul_right hlt hunit.le
  exact Nat.le_of_lt_succ (by exact_mod_cast hlt')

end

/-- The number of digits tells between which powers of the base a number lies. -/
theorem digitCount_bounds (hbase : base = 2 ∨ base = 10) {n : Nat} (hn : 0 < n) :
    base ^ (digitCount base n - 1) ≤ n ∧ n < base ^ digitCount base n := by
  rcases hbase with rfl | rfl
  · exact ⟨Nat.log2_self_le hn.ne', Nat.lt_log2_self⟩
  · have hlength (k : Nat) (hk : 0 < k) : digitCount 10 n ≤ k ↔ n < 10 ^ k :=
      Nat.length_toDigits_le_iff (by decide) hk
    have hpos : 0 < digitCount 10 n := List.length_pos_iff.mpr Nat.toDigits_ne_nil
    refine ⟨?_, (hlength _ hpos).mp le_rfl⟩
    by_cases hone : digitCount 10 n = 1
    · rw [hone]
      exact hn
    · exact not_lt.mp (mt (hlength _ (by omega)).mpr (by omega))

theorem quotient_bounds (hbase : base = 2 ∨ base = 10) (hnum : 0 < num) (hden : 0 < den) :
    (base : ℚ) ^ ((digitCount base num : Int) - digitCount base den - 1) < num / den ∧
      (num : ℚ) / den < (base : ℚ) ^ ((digitCount base num : Int) - digitCount base den + 1) := by
  have hbaseq : (base : ℚ) ≠ 0 := by rcases hbase with rfl | rfl <;> norm_num
  have hbasepos : (0 : ℚ) < base := by positivity
  have hpos : (0 : ℚ) < den := by exact_mod_cast hden
  obtain ⟨hnumlow, hnumhigh⟩ := digitCount_bounds hbase hnum
  obtain ⟨hdenlow, hdenhigh⟩ := digitCount_bounds hbase hden
  have hcount {n : Nat} : 0 < digitCount base n := by
    rw [digitCount]
    split
    · exact List.length_pos_iff.mpr Nat.toDigits_ne_nil
    · exact Nat.succ_pos _
  have hnumcount : 0 < digitCount base num := hcount
  have hdencount : 0 < digitCount base den := hcount
  constructor
  · calc (base : ℚ) ^ ((digitCount base num : Int) - digitCount base den - 1)
        = (base : ℚ) ^ (digitCount base num - 1) / (base : ℚ) ^ digitCount base den := by
          rw [← zpow_natCast, ← zpow_natCast, ← zpow_sub₀ hbaseq]
          congr 1
          omega
      _ < (base : ℚ) ^ (digitCount base num - 1) / den :=
          div_lt_div_of_pos_left (by positivity) hpos (by exact_mod_cast hdenhigh)
      _ ≤ num / den := by
          gcongr
          exact_mod_cast hnumlow
  · calc (num : ℚ) / den
        < (base : ℚ) ^ digitCount base num / den := by
          gcongr
          exact_mod_cast hnumhigh
      _ ≤ (base : ℚ) ^ digitCount base num / (base : ℚ) ^ (digitCount base den - 1) := by
          gcongr
          exact_mod_cast hdenlow
      _ = (base : ℚ) ^ ((digitCount base num : Int) - digitCount base den + 1) := by
          rw [← zpow_natCast, ← zpow_natCast, ← zpow_sub₀ hbaseq]
          congr 1
          omega

/-- The logarithm of a quotient to a base, to the integer below. -/
theorem floorLog_bounds (hbase : base = 2 ∨ base = 10) (hnum : 0 < num) (hden : 0 < den) :
    (base : ℚ) ^ floorLog base num den ≤ num / den ∧
      (num : ℚ) / den < (base : ℚ) ^ (floorLog base num den + 1) := by
  obtain ⟨hlow, hhigh⟩ := quotient_bounds hbase hnum hden
  have hbasepos : 0 < base := by rcases hbase with rfl | rfl <;> decide
  unfold floorLog
  generalize (digitCount base num : Int) - digitCount base den = estimate at *
  have hscaled := scaleDown_value hbasepos.ne' num den estimate
  have hpos : (0 : ℚ) < (scaleDown base num den estimate).2 := by
    exact_mod_cast scaleDown_den_pos hbasepos hden estimate
  have hpow : (0 : ℚ) < (base : ℚ) ^ estimate := by positivity
  have hiff : (scaleDown base num den estimate).2 ≤ (scaleDown base num den estimate).1 ↔
      (base : ℚ) ^ estimate ≤ num / den := by
    rw [← one_le_div₀ hpow, ← hscaled, one_le_div₀ hpos, Nat.cast_le]
  dsimp only
  by_cases h : (base : ℚ) ^ estimate ≤ num / den
  · rw [if_pos (hiff.mpr h)]
    exact ⟨h, hhigh⟩
  · rw [if_neg (mt hiff.mp h), sub_add_cancel]
    exact ⟨hlow.le, not_le.mp h⟩

end

/-! ### Values of floating-point numbers -/

/-- `q` with a sign. -/
def signedBy (negative : Bool) (q : ℚ) : ℚ :=
  if negative then -q else q

/-- Half a unit past the largest magnitude, from where on numbers round to infinity. -/
def overflowBound : ℚ := (2 ^ 54 - 1) * 2 ^ 970

theorem lt_overflowBound {q : ℚ} (h : q ≤ 2 ^ 53 + 1) : q < overflowBound := by
  have hunit : (1 : ℚ) ≤ 2 ^ 970 := one_le_pow₀ one_le_two
  unfold overflowBound
  generalize (2 : ℚ) ^ 970 = unit at hunit ⊢
  linarith

namespace Magnitude

def value (m : Magnitude) : ℚ :=
  m.significand * 2 ^ m.exponent

theorem value_nonneg (m : Magnitude) : 0 ≤ m.value := by
  unfold value
  positivity

theorem significand_pos {m : Magnitude} (h : 0 < m.value) : 0 < m.significand := by
  apply Nat.pos_of_ne_zero
  intro hzero
  simp [value, hzero] at h

theorem quotient_den_pos (m : Magnitude) : 0 < m.quotient.2 :=
  scaleDown_den_pos two_pos Nat.one_pos (-m.exponent)

theorem quotient_value (m : Magnitude) : (m.quotient.1 : ℚ) / m.quotient.2 = m.value := by
  have h := scaleDown_value two_ne_zero m.significand 1 (-m.exponent)
  rw [quotient, h, Nat.cast_one, div_one, zpow_neg, div_inv_eq_mul, Nat.cast_ofNat, value]

theorem quotient_num_pos {m : Magnitude} (h : 0 < m.value) : 0 < m.quotient.1 := by
  apply Nat.pos_of_ne_zero
  intro hzero
  simp [← m.quotient_value, hzero] at h

theorem value_default : (default : Magnitude).value = 0 := by
  simp [value, default]

theorem value_lt (m : Magnitude) : m.value < 2 ^ 53 * 2 ^ m.exponent := by
  have h : (m.significand : ℚ) < 2 ^ 53 := by exact_mod_cast m.canonical.1
  unfold value
  gcongr

theorem value_lt_overflowBound (m : Magnitude) : m.value < overflowBound := by
  have hsignificand : (m.significand : ℚ) ≤ 2 ^ 53 - 1 := by
    have := Nat.le_sub_one_of_lt m.canonical.1
    have hcast : (m.significand : ℚ) ≤ (Nat.pow 2 53 - 1 : Nat) := by exact_mod_cast this
    norm_num at hcast ⊢
    exact hcast
  have hexponent : (2 : ℚ) ^ m.exponent ≤ 2 * 2 ^ 970 := by
    rw [← pow_succ', ← zpow_natCast]
    exact zpow_le_zpow_right₀ one_le_two m.canonical.2.2.1
  calc m.value ≤ (2 ^ 53 - 1) * (2 * 2 ^ 970) := by
        unfold value
        gcongr
    _ < overflowBound := by
        unfold overflowBound
        have hpow : (0 : ℚ) < 2 ^ 970 := by positivity
        generalize (2 : ℚ) ^ 970 = unit at hpow
        linarith

/-- Each number of at most 53 bits in the range of exponents is a magnitude. -/
theorem exists_value {significand : Nat} {exponent : Int} (hlt : significand < 2 ^ 53)
    (hlow : -1074 ≤ exponent) (hhigh : exponent ≤ 971) :
    ∃ m : Magnitude, m.value = significand * 2 ^ exponent := by
  obtain ⟨steps, hsteps⟩ := Int.eq_ofNat_of_zero_le (by omega : 0 ≤ exponent + 1074)
  induction steps generalizing significand exponent with
  | zero => exact ⟨⟨significand, exponent, hlt, hlow, hhigh, .inr (by omega)⟩, rfl⟩
  | succ steps ih =>
      by_cases hfull : 2 ^ 52 ≤ significand
      · exact ⟨⟨significand, exponent, hlt, hlow, hhigh, .inl hfull⟩, rfl⟩
      · have hlonger : 2 * significand < 2 ^ 53 := by omega
        obtain ⟨m, hm⟩ := @ih (2 * significand) (exponent - 1) hlonger (by omega) (by omega)
          (by omega)
        refine ⟨m, hm.trans ?_⟩
        rw [zpow_sub_one₀ two_ne_zero]
        push_cast
        ring

/-- Integers of at most 53 bits are magnitudes. -/
theorem exists_value_of_le {n : Nat} (h : n ≤ 2 ^ 53) : ∃ m : Magnitude, m.value = n := by
  rcases h.lt_or_eq with hlt | rfl
  · obtain ⟨m, hm⟩ : ∃ m : Magnitude, m.value = n * 2 ^ (0 : Int) :=
      exists_value hlt (by decide) (by decide)
    exact ⟨m, by simpa using hm⟩
  · obtain ⟨m, hm⟩ : ∃ m : Magnitude, m.value = (2 ^ 52 : Nat) * 2 ^ (1 : Int) :=
      exists_value (by decide) (by decide) (by decide)
    exact ⟨m, hm.trans (by norm_num)⟩

/-- A magnitude is a multiple of a power of two, or it is below all multiples with 53 bits. -/
theorem multiple_or_lt (m : Magnitude) (exponent : Int) :
    (∃ k : Nat, m.value = k * 2 ^ exponent) ∨
      (m.exponent < exponent ∧ m.value < 2 ^ 52 * 2 ^ exponent) := by
  rcases le_or_gt exponent m.exponent with hle | hlt
  · obtain ⟨k, hk⟩ := Int.eq_ofNat_of_zero_le (sub_nonneg.mpr hle)
    refine .inl ⟨m.significand * 2 ^ k, ?_⟩
    rw [value, show m.exponent = k + exponent by omega, zpow_add₀ two_ne_zero, zpow_natCast]
    push_cast
    ring
  · refine .inr ⟨hlt, m.value_lt.trans_le ?_⟩
    have hpow : (2 : ℚ) ^ m.exponent ≤ 2 ^ (exponent - 1) :=
      zpow_le_zpow_right₀ one_le_two (by omega)
    rw [zpow_sub_one₀ two_ne_zero] at hpow
    linarith

end Magnitude

namespace Binary64

variable {negative : Bool} {num den : Nat}

theorem ofCanonical_eq_finite {significand : Nat} {exponent : Int} {sign : Bool} {m : Magnitude}
    (h : ofCanonical negative significand exponent = .finite sign m) :
    sign = negative ∧ m.significand = significand ∧ m.exponent = exponent := by
  unfold ofCanonical at h
  split at h
  · cases h
    exact ⟨rfl, rfl, rfl⟩
  · cases h

/-- How a positive quotient is rounded: to a multiple of a power of two which leaves it 53 bits, and
which is no smaller than the least power. -/
structure Rounding (negative : Bool) (num den significand : Nat) (exponent : Int) : Prop where
  low : -1074 ≤ exponent
  full : exponent = -1074 ∨ 2 ^ 52 * 2 ^ exponent ≤ (num / den : ℚ)
  below : (num / den : ℚ) < 2 ^ 53 * 2 ^ exponent
  half : |(significand * 2 ^ exponent : ℚ) - num / den| ≤ 2 ^ exponent / 2
  nearest (k : Nat) :
    |(significand * 2 ^ exponent : ℚ) - num / den| ≤ |(k * 2 ^ exponent : ℚ) - num / den|
  eq : ofQuotient negative num den =
    if significand = 2 ^ 53 then ofCanonical negative (2 ^ 52) (exponent + 1)
    else ofCanonical negative significand exponent

theorem exists_rounding (negative : Bool) (hnum : 0 < num) (hden : 0 < den) :
    ∃ significand exponent, Rounding negative num den significand exponent := by
  obtain ⟨hlow, hhigh⟩ := floorLog_bounds (.inl rfl) hnum hden
  rw [Nat.cast_ofNat] at hlow hhigh
  generalize hlog : floorLog 2 num den = log at *
  set exponent := max (-1074) (log - 52) with hexponent
  obtain ⟨significand, hsignificand, hhalf, hnearest⟩ :=
    roundQuotient_scaleDown two_ne_zero num hden exponent
  rw [Nat.cast_ofNat] at hhalf hnearest
  refine ⟨significand, exponent, le_max_left .., ?_, ?_, hhalf, hnearest, ?_⟩
  · rcases max_choice (-1074) (log - 52) with h | h
    · exact .inl h
    · refine .inr (le_trans (le_of_eq ?_) hlow)
      rw [hexponent, h, ← zpow_natCast, ← zpow_add₀ two_ne_zero]
      congr 1
      push_cast
      ring
  · refine hhigh.trans_le ?_
    rw [← zpow_natCast, ← zpow_add₀ two_ne_zero]
    exact zpow_le_zpow_right₀ one_le_two (by have := le_max_right (-1074) (log - 52); omega)
  · rw [ofQuotient, if_neg hnum.ne', hlog, ← hsignificand]
    rfl

namespace Rounding

variable {significand : Nat} {exponent : Int}

theorem le (h : Rounding negative num den significand exponent) : significand ≤ 2 ^ 53 := by
  apply le_of_near (by positivity) h.half
  exact_mod_cast h.below

theorem full_or_least (h : Rounding negative num den significand exponent) :
    2 ^ 52 ≤ significand ∨ exponent = -1074 := by
  rcases h.full with hleast | hfull
  · exact .inr hleast
  · left
    apply ge_of_near (by positivity) h.half
    exact_mod_cast hfull

/-- A finite result has the value to which the quotient is rounded. -/
theorem of_finite (h : Rounding negative num den significand exponent) {sign : Bool} {m : Magnitude}
    (hfinite : ofQuotient negative num den = .finite sign m) :
    sign = negative ∧ m.value = significand * 2 ^ exponent := by
  rw [h.eq] at hfinite
  split at hfinite
  · next hcarry =>
      obtain ⟨hsign, hm, he⟩ := ofCanonical_eq_finite hfinite
      refine ⟨hsign, ?_⟩
      rw [Magnitude.value, hm, he, hcarry, zpow_add_one₀ two_ne_zero]
      push_cast
      ring
  · obtain ⟨hsign, hm, he⟩ := ofCanonical_eq_finite hfinite
    exact ⟨hsign, by rw [Magnitude.value, hm, he]⟩

end Rounding

theorem ofQuotient_zero (negative : Bool) (den : Nat) :
    ofQuotient negative 0 den = .finite negative default := by
  rw [ofQuotient, if_pos rfl]
  rfl

/-- A finite rounded quotient keeps its sign, and no magnitude lies nearer. -/
theorem ofQuotient_nearest (hden : 0 < den) {sign : Bool} {m : Magnitude}
    (h : ofQuotient negative num den = .finite sign m) :
    sign = negative ∧ ∀ z : Magnitude, |m.value - num / den| ≤ |z.value - num / den| := by
  rcases Nat.eq_zero_or_pos num with rfl | hnum
  · rw [ofQuotient_zero] at h
    cases h
    simp [Magnitude.value_default]
  obtain ⟨significand, exponent, hround⟩ := exists_rounding negative hnum hden
  obtain ⟨hsign, hvalue⟩ := hround.of_finite h
  refine ⟨hsign, fun z => ?_⟩
  rw [hvalue]
  rcases z.multiple_or_lt exponent with ⟨k, hk⟩ | ⟨hexponent, hlt⟩
  · rw [hk]
    exact hround.nearest k
  · -- the least multiple with 53 bits lies between the magnitude and the quotient
    have hfull := hround.full.resolve_left (by have := z.canonical.2.1; omega)
    have hbetween := hround.nearest (2 ^ 52)
    rw [Nat.cast_pow, Nat.cast_ofNat, abs_of_nonpos (sub_nonpos.mpr hfull)] at hbetween
    have hz : |z.value - num / den| = -(z.value - num / den) := abs_of_nonpos (by linarith)
    rw [hz]
    linarith

theorem Rounding.exponent_le {significand : Nat} {exponent : Int}
    (h : Rounding negative num den significand exponent) (hlt : (num / den : ℚ) < overflowBound) :
    exponent ≤ 971 ∧ (significand = 2 ^ 53 → exponent ≤ 970) := by
  have hle : exponent ≤ 971 := by
    rcases h.full with hleast | hfull
    · omega
    · have hpow : (2 : ℚ) ^ (52 + exponent) < 2 ^ (1024 : Int) := by
        rw [zpow_add₀ two_ne_zero]
        refine lt_of_le_of_lt hfull (hlt.trans ?_)
        rw [overflowBound, show (1024 : Int) = (54 + 970 : Nat) by decide, zpow_natCast, pow_add]
        gcongr
        norm_num
      have := (zpow_lt_zpow_iff_right₀ one_lt_two).mp hpow
      omega
  refine ⟨hle, fun hcarry => ?_⟩
  by_contra hlast
  obtain rfl : exponent = 971 := by omega
  have hhalf := (abs_le.mp h.half).2
  rw [hcarry, Nat.cast_pow, Nat.cast_ofNat, show (971 : Int) = (970 + 1 : Nat) by decide,
    zpow_natCast, pow_succ (2 : ℚ) 970] at hhalf
  rw [overflowBound] at hlt
  generalize (2 : ℚ) ^ 970 = unit at hhalf hlt
  linarith

theorem ofQuotient_isFinite (negative : Bool) (hden : 0 < den)
    (hlt : (num / den : ℚ) < overflowBound) :
    ∃ m, ofQuotient negative num den = .finite negative m := by
  rcases Nat.eq_zero_or_pos num with rfl | hnum
  · exact ⟨default, ofQuotient_zero negative den⟩
  obtain ⟨significand, exponent, hround⟩ := exists_rounding negative hnum hden
  have hlow := hround.low
  have hle := hround.le
  have hfull := hround.full_or_least
  obtain ⟨hhigh, hcarry⟩ := hround.exponent_le hlt
  rw [hround.eq]
  by_cases hsignificand : significand = 2 ^ 53
  · have hcanonical : IsCanonical (2 ^ 52) (exponent + 1) :=
      ⟨by decide, by omega, by have := hcarry hsignificand; omega, .inl le_rfl⟩
    exact ⟨_, (if_pos hsignificand).trans (dif_pos hcanonical)⟩
  · have hcanonical : IsCanonical significand exponent :=
      ⟨lt_of_le_of_ne hle hsignificand, hlow, hhigh, hfull⟩
    exact ⟨_, (if_neg hsignificand).trans (dif_pos hcanonical)⟩

theorem ofCanonical_infinite (negative : Bool) (significand : Nat) {exponent : Int}
    (h : 971 < exponent) : ofCanonical negative significand exponent = .infinite negative := by
  apply dif_neg
  intro hcanonical
  exact absurd hcanonical.2.2.1 (by omega)

/-- A quotient past the bound of overflow is rounded to infinity. -/
theorem ofQuotient_infinite (negative : Bool) (hden : 0 < den)
    (h : overflowBound < (num / den : ℚ)) : ofQuotient negative num den = .infinite negative := by
  have hpos : (0 : ℚ) < overflowBound := lt_overflowBound (by norm_num)
  have hnum : 0 < num := by
    apply Nat.pos_of_ne_zero
    rintro rfl
    simp [hpos.not_gt] at h
  have hunit : (0 : ℚ) < 2 ^ 970 := by positivity
  obtain ⟨significand, exponent, hround⟩ := exists_rounding negative hnum hden
  have hhalf := (abs_le.mp hround.half).1
  have hpast : 971 ≤ exponent := by
    by_contra hlt
    have hpow : (2 : ℚ) ^ exponent ≤ 2 ^ 970 := by
      rw [← zpow_natCast]
      exact zpow_le_zpow_right₀ one_le_two (by omega)
    have hbelow := h.trans hround.below
    rw [overflowBound] at hbelow
    generalize (2 : ℚ) ^ 970 = unit at hpow hbelow hunit
    linarith
  rw [hround.eq]
  rcases hpast.lt_or_eq with hlt | rfl
  · split <;> exact ofCanonical_infinite _ _ (by omega)
  · -- at the last exponent the significand is rounded up
    have hsignificand : (2 ^ 53 - 1 : Nat) < (significand : ℚ) := by
      rw [show (971 : Int) = (970 + 1 : Nat) by decide, zpow_natCast, pow_succ] at hhalf
      rw [overflowBound] at h
      generalize (2 : ℚ) ^ 970 = unit at hhalf h hunit
      apply lt_of_mul_lt_mul_right _ hunit.le
      push_cast
      linarith
    have hcarry : significand = 2 ^ 53 := by
      have hlow : 2 ^ 53 - 1 < significand := by exact_mod_cast hsignificand
      have hhigh := hround.le
      omega
    rw [if_pos hcarry]
    exact ofCanonical_infinite _ _ (by decide)

end Binary64

/-! ### Exact values -/

/-- The exact value of a number is finite, and it is `q`. -/
def Number.HasValue (n : Number) (q : ℚ) : Prop :=
  n.exactValue? = some (.fraction q)

theorem signedBy_div (negative : Bool) (num den : Nat) :
    mkRat (Binary64.signed negative num) den = signedBy negative (num / den) := by
  rw [Rat.mkRat_eq_div, Binary64.signed, signedBy]
  cases negative
  · simp
  · simp [neg_div]

theorem signedBy_zero (negative : Bool) : signedBy negative 0 = 0 := by
  cases negative <;> simp [signedBy]

theorem abs_signedBy_sub (negative : Bool) (p q : ℚ) :
    |signedBy negative p - signedBy negative q| = |p - q| := by
  cases negative
  · rfl
  · rw [signedBy, if_pos rfl, signedBy, if_pos rfl, neg_sub_neg, abs_sub_comm]

theorem abs_signedBy (negative : Bool) (q : ℚ) : |signedBy negative q| = |q| := by
  cases negative
  · rfl
  · exact abs_neg q

theorem abs_sub_le_abs_signedBy_sub {p q : ℚ} (hp : 0 ≤ p) (hq : 0 ≤ q) (left right : Bool) :
    |p - q| ≤ |signedBy left p - signedBy right q| := by
  by_cases hsame : left = right
  · rw [hsame, abs_signedBy_sub]
  · have hsum : |signedBy left p - signedBy right q| = p + q := by
      cases left <;> cases right
      · exact absurd rfl hsame
      · simp [signedBy, abs_of_nonneg (add_nonneg hp hq)]
      · rw [signedBy, if_pos rfl, signedBy, if_neg Bool.false_ne_true, ← neg_add', abs_neg,
          abs_of_nonneg (add_nonneg hp hq)]
      · exact absurd rfl hsame
    rw [hsum, abs_le]
    constructor <;> linarith

namespace Number

variable {n : Number} {p q : ℚ}

theorem HasValue.unique (h : n.HasValue p) (h' : n.HasValue q) : p = q :=
  ExactValue.fraction.inj (Option.some.inj (h.symm.trans h'))

@[simp] theorem hasValue_int (i : Int) : (int i).HasValue q ↔ q = i := by
  simp [HasValue, exactValue?, eq_comm]

@[simp] theorem hasValue_finite (negative : Bool) (m : Magnitude) :
    (float (.finite negative m)).HasValue q ↔ q = signedBy negative m.value := by
  have hfraction : (Binary64.finite negative m).fraction? =
      some (Binary64.signed negative m.quotient.1, m.quotient.2) := rfl
  simp [HasValue, exactValue?, hfraction, signedBy_div, m.quotient_value, eq_comm]

theorem HasValue.exists_finite {x : Binary64} (h : (float x).HasValue q) :
    ∃ negative m, x = .finite negative m ∧ q = signedBy negative m.value := by
  cases x with
  | finite negative m => exact ⟨negative, m, rfl, (hasValue_finite negative m).mp h⟩
  | infinite negative => cases h
  | nan negative mark => cases h

end Number

namespace Binary64

variable {x y : Binary64} {q w v : ℚ}

/-- `w` is the value of a finite number, and no finite number has one nearer to `q`. -/
structure Nearest (w q : ℚ) : Prop where
  isValue : ∃ x, (Number.float x).HasValue w
  le : ∀ y v, (Number.float y).HasValue v → |w - q| ≤ |v - q|

/-- A nearest number is on the same side of every number. -/
theorem Nearest.le_of_le (h : Nearest w q) (hv : (Number.float y).HasValue v) (hle : q ≤ v) :
    w ≤ v := by
  by_contra hlt
  have hdistance := h.le y v hv
  rw [abs_of_nonneg (by linarith), abs_of_nonneg (by linarith)] at hdistance
  linarith

theorem Nearest.ge_of_ge (h : Nearest w q) (hv : (Number.float y).HasValue v) (hle : v ≤ q) :
    v ≤ w := by
  by_contra hlt
  have hdistance := h.le y v hv
  rw [abs_of_nonpos (by linarith), abs_of_nonpos (by linarith)] at hdistance
  linarith

/-- The number nearest to the value of a number is that number. -/
theorem Nearest.eq (h : Nearest w q) (hq : (Number.float y).HasValue q) : w = q :=
  le_antisymm (h.le_of_le hq le_rfl) (h.ge_of_ge hq le_rfl)

theorem isFinite_iff : x.isFinite ↔ ∃ negative m, x = .finite negative m := by
  cases x <;> simp [isFinite]

theorem nearest_ofQuotient {negative : Bool} {num den : Nat} (hden : 0 < den)
    (hfinite : (ofQuotient negative num den).isFinite) :
    ∃ w, (Number.float (ofQuotient negative num den)).HasValue w ∧
      Nearest w (signedBy negative (num / den)) := by
  obtain ⟨sign, m, hround⟩ := isFinite_iff.mp hfinite
  obtain ⟨rfl, hnearest⟩ := ofQuotient_nearest hden hround
  have hvalue : (Number.float (.finite sign m)).HasValue (signedBy sign m.value) :=
    (Number.hasValue_finite sign m).mpr rfl
  rw [hround]
  refine ⟨_, hvalue, ⟨_, hvalue⟩, ?_⟩
  intro y v hy
  obtain ⟨other, z, rfl, rfl⟩ := hy.exists_finite
  rw [abs_signedBy_sub]
  exact (hnearest z).trans
    (abs_sub_le_abs_signedBy_sub z.value_nonneg (by positivity) other sign)

theorem signedBy_natAbs (n : Int) :
    signedBy (decide (n < 0)) ((n.natAbs : ℚ) / (1 : Nat)) = n := by
  rw [Nat.cast_one, div_one, signedBy]
  by_cases h : n < 0
  · simp [h, abs_of_neg h]
  · simp [h, abs_of_nonneg (not_lt.mp h)]

theorem nearest_ofInt {n : Int} (hfinite : (ofInt n).isFinite) :
    ∃ w, (Number.float (ofInt n)).HasValue w ∧ Nearest w n := by
  have h := nearest_ofQuotient Nat.one_pos hfinite
  rwa [signedBy_natAbs] at h

/-- Integers of at most 53 bits are values of floating-point numbers. -/
theorem exists_hasValue_int {n : Int} (h : |n| ≤ 2 ^ 53) :
    ∃ x, (Number.float x).HasValue n := by
  have hle : n.natAbs ≤ 2 ^ 53 := by
    rw [Int.abs_eq_natAbs] at h
    exact_mod_cast h
  obtain ⟨m, hm⟩ := Magnitude.exists_value_of_le hle
  refine ⟨.finite (decide (n < 0)) m, (Number.hasValue_finite _ m).mpr ?_⟩
  have hsigned := signedBy_natAbs n
  rw [Nat.cast_one, div_one] at hsigned
  rw [hm, hsigned]

theorem isFinite_ofQuotient {negative : Bool} {num den : Nat} (hden : 0 < den)
    (hlt : (num / den : ℚ) < overflowBound) : (ofQuotient negative num den).isFinite := by
  obtain ⟨m, hm⟩ := ofQuotient_isFinite negative hden hlt
  rw [hm]
  rfl

theorem abs_lt_overflowBound (h : (Number.float x).HasValue q) : |q| < overflowBound := by
  obtain ⟨negative, m, rfl, rfl⟩ := h.exists_finite
  rw [abs_signedBy, abs_of_nonneg m.value_nonneg]
  exact m.value_lt_overflowBound

/-- An integer that is the value of a floating-point number becomes a number of its value. -/
theorem hasValue_ofInt {n : Int} (hn : (Number.float x).HasValue n) :
    (Number.float (ofInt n)).HasValue n := by
  have hlt : ((n.natAbs : ℚ) / (1 : Nat)) < overflowBound := by
    have := abs_lt_overflowBound hn
    rwa [Nat.cast_one, div_one, Nat.cast_natAbs, Int.cast_abs]
  obtain ⟨w, hw, hnearest⟩ := nearest_ofInt (isFinite_ofQuotient Nat.one_pos hlt)
  rwa [hnearest.eq hn] at hw

end Binary64

end TemplateScript
