import TemplateScript.Number.Power
import TemplateScript.Proofs.Number.Nearest

/-!
# Powers of integers

The power of a positive integer to a positive integer is computed exactly while it is short. A long
one goes through the logarithm, which is exact for one; for any larger integer it is past the bound
of the logarithm, and so the result is past all floating-point numbers. Hence what is rounded is the
exact power, or a number as far beyond the largest as the exact power is.
-/

namespace TemplateScript

namespace FixedPoint

theorem mul_nonneg {x y : Int} (hx : 0 ≤ x) (hy : 0 ≤ y) : 0 ≤ mul x y :=
  Int.ediv_nonneg (Int.mul_nonneg hx hy) (by decide)

theorem oddSeries_nonneg {square power : Int} (hsquare : 0 ≤ square) (terms index : Nat)
    (hpower : 0 ≤ power) : 0 ≤ oddSeries square terms index power := by
  induction terms generalizing index power with
  | zero => exact le_rfl
  | succ terms ih =>
      have hterm : 0 ≤ power / (2 * index + 1 : Nat) := Int.ediv_nonneg hpower (by omega)
      exact Int.add_nonneg hterm (ih (index + 1) (mul_nonneg hpower hsquare))

/-- From one on logarithms are not negative. -/
theorem logOfUnit_nonneg {z : Int} (hz : one ≤ z) : 0 ≤ logOfUnit z := by
  have hone : 0 < one := by decide
  have ht : 0 ≤ (z - one) * one / (z + one) :=
    Int.ediv_nonneg (Int.mul_nonneg (by omega) hone.le) (by omega)
  have hseries := oddSeries_nonneg (mul_nonneg ht ht) 90 0 ht
  rw [logOfUnit]
  omega

theorem logOfUnit_one : logOfUnit one = 0 := by decide +kernel

theorem exp_zero : exp 0 = (one.toNat, 0) := by decide +kernel

theorem logTwo_pos : 0 < logTwo := by decide +kernel

end FixedPoint

namespace Binary64

/-! ### The odd part -/

theorem oddPart_spec (steps n : Nat) (hpos : 0 < n) (hlt : n < 2 ^ steps) :
    n = (oddPart steps n).1 * 2 ^ (oddPart steps n).2 ∧ (oddPart steps n).1 % 2 = 1 := by
  induction steps generalizing n with
  | zero => omega
  | succ steps ih =>
      rw [oddPart]
      by_cases heven : n % 2 = 0
      · obtain ⟨hvalue, hodd⟩ := ih (n / 2) (by omega) (by omega)
        rw [if_pos heven]
        refine ⟨?_, hodd⟩
        show n = (oddPart steps (n / 2)).1 * 2 ^ ((oddPart steps (n / 2)).2 + 1)
        rw [pow_succ, ← mul_assoc, ← hvalue]
        omega
      · rw [if_neg heven]
        exact ⟨by simp, by omega⟩

/-- An integer magnitude is an odd number times a power of two with a natural exponent. -/
theorem exists_oddPart {base : Magnitude} {u : Nat} (hu : base.value = u) (hpos : 0 < u) :
    ∃ odd shift zeros : Nat, oddPart 53 base.significand = (odd, shift) ∧
      base.exponent + shift = zeros ∧ u = odd * 2 ^ zeros ∧ 0 < odd := by
  have hsignificand : 0 < base.significand :=
    Magnitude.significand_pos (by rw [hu]; exact_mod_cast hpos)
  obtain ⟨hsplit, hodd⟩ := oddPart_spec 53 base.significand hsignificand base.canonical.1
  generalize hpart : oddPart 53 base.significand = part at hsplit hodd
  obtain ⟨odd, shift⟩ := part
  dsimp only at hsplit hodd
  have hvalue : (u : ℚ) = odd * 2 ^ (base.exponent + shift) := by
    rw [← hu, Magnitude.value, hsplit, zpow_add₀ two_ne_zero, zpow_natCast]
    push_cast
    ring
  rcases le_or_gt 0 (base.exponent + shift) with hnonneg | hneg
  · obtain ⟨zeros, hzeros⟩ := Int.eq_ofNat_of_zero_le hnonneg
    rw [hzeros, zpow_natCast] at hvalue
    exact ⟨odd, shift, zeros, rfl, hzeros, by exact_mod_cast hvalue, by omega⟩
  · -- at a negative exponent the odd part of an integer would be even
    obtain ⟨places, hplaces⟩ : ∃ places : Nat, base.exponent + shift = -(places + 1 : Nat) :=
      ⟨(base.exponent + shift).natAbs - 1, by omega⟩
    rw [hplaces, zpow_neg, zpow_natCast] at hvalue
    have heven : (odd : ℚ) = 2 * (u * 2 ^ places) := by
      rw [hvalue, pow_succ]
      field_simp
    have heven : odd = 2 * (u * 2 ^ places) := by exact_mod_cast heven
    omega

/-! ### Short powers -/

/-- What stands for the power `u ^ n` of natural numbers before it is rounded: the power itself, or
for one far past the largest number anything far past it. -/
structure Represents (q : Nat × Nat) (u n : Nat) : Prop where
  den_pos : 0 < q.2
  eq_or_large : (q.1 / q.2 : ℚ) = u ^ n ∨
    (2 ^ 1100 : ℚ) ≤ q.1 / q.2 ∧ (2 ^ 1100 : ℚ) ≤ u ^ n

theorem integerPower_represents {odd zeros u : Nat} (hu : u = odd * 2 ^ zeros) (hpos : 0 < odd)
    (n : Nat) : Represents (integerPower odd zeros n) u n := by
  obtain ⟨shift, hshift, hbound⟩ : ∃ shift : Nat, clampExponent (zeros * n : Int) = shift ∧
      (shift = zeros * n ∨ 1100 ≤ shift ∧ shift ≤ zeros * n) := by
    refine ⟨min 20000 (zeros * n), ?_, by omega⟩
    have hnonneg : (0 : Int) ≤ (zeros * n : Nat) := Int.natCast_nonneg _
    push_cast at hnonneg ⊢
    rw [clampExponent, exponentBound, min_comm]
    omega
  have hpower : integerPower odd zeros n = scaleDown 2 (odd ^ n) 1 (-(shift : Int)) := by
    rw [integerPower, if_pos (Int.natCast_nonneg n), hshift]
    rfl
  have hvalue : ((integerPower odd zeros n).1 / (integerPower odd zeros n).2 : ℚ) =
      odd ^ n * 2 ^ shift := by
    rw [hpower, scaleDown_value two_ne_zero, zpow_neg, zpow_natCast]
    push_cast
    field_simp
  refine ⟨?_, ?_⟩
  · rw [hpower]
    exact scaleDown_den_pos two_pos Nat.one_pos _
  · rw [hvalue, hu]
    push_cast
    rcases hbound with rfl | ⟨hlow, hhigh⟩
    · left
      rw [mul_pow, ← pow_mul]
    · have hodd : (1 : ℚ) ≤ (odd : ℚ) ^ n := one_le_pow₀ (by exact_mod_cast hpos)
      have hshifted : (2 : ℚ) ^ 1100 ≤ odd ^ n * 2 ^ shift :=
        (pow_le_pow_right₀ one_le_two hlow).trans (le_mul_of_one_le_left (by positivity) hodd)
      refine .inr ⟨hshifted, hshifted.trans ?_⟩
      rw [mul_pow, ← pow_mul]
      gcongr
      exact one_le_two

/-! ### Long powers -/

/-- Past the bound of the logarithm the exponential is past all floating-point numbers. -/
theorem exp_logarithmBound : 0 < (FixedPoint.exp logarithmBound).1 ∧
    1356 ≤ (FixedPoint.exp logarithmBound).2 + Nat.log2 (FixedPoint.exp logarithmBound).1 := by
  decide +kernel

theorem logarithmBound_le : logarithmBound ≤ 4096 * FixedPoint.logTwo := by decide +kernel

section

variable {base : Magnitude} {u : Nat}

/-- The exponent of an integer magnitude and the length of its significand make the length of the
integer. -/
theorem exponent_add_log2 (hu : base.value = u) (hpos : 0 < u) :
    base.exponent + base.significand.log2 = u.log2 := by
  have hsignificand : 0 < base.significand :=
    Magnitude.significand_pos (by rw [hu]; exact_mod_cast hpos)
  have hlow : (2 : ℚ) ^ (base.exponent + base.significand.log2) ≤ u := by
    have hlog : (2 : ℚ) ^ base.significand.log2 ≤ base.significand := by
      exact_mod_cast Nat.log2_self_le hsignificand.ne'
    rw [← hu, Magnitude.value, add_comm, zpow_add₀ two_ne_zero, zpow_natCast]
    gcongr
  have hhigh : (u : ℚ) < 2 ^ (base.exponent + base.significand.log2 + 1) := by
    have hlog : (base.significand : ℚ) < 2 ^ (base.significand.log2 + 1) := by
      exact_mod_cast Nat.lt_log2_self
    rw [← hu, Magnitude.value, add_assoc, add_comm, zpow_add₀ two_ne_zero, ← Nat.cast_add_one,
      zpow_natCast]
    gcongr
  generalize base.exponent + base.significand.log2 = top at hlow hhigh ⊢
  have hone : (2 : ℚ) ^ (0 : Int) ≤ u := by
    rw [zpow_zero]
    exact_mod_cast hpos
  have htop : 0 < top + 1 := (zpow_lt_zpow_iff_right₀ one_lt_two).mp (hone.trans_lt hhigh)
  obtain ⟨k, rfl⟩ := Int.eq_ofNat_of_zero_le (by omega : 0 ≤ top)
  rw [← Nat.cast_add_one, zpow_natCast] at hhigh
  rw [zpow_natCast] at hlow
  have hlog : u.log2 = k :=
    (Nat.log2_eq_iff hpos.ne').mpr ⟨by exact_mod_cast hlow, by exact_mod_cast hhigh⟩
  rw [hlog]

theorem log_one (hone : base.value = 1) :
    FixedPoint.log base.significand base.exponent = 0 := by
  have htop : base.exponent + base.significand.log2 = 0 :=
    exponent_add_log2 (u := 1) (by exact_mod_cast hone) Nat.one_pos
  have hexponent : base.exponent = -(base.significand.log2 : Int) := by omega
  have hsignificand : base.significand = 2 ^ base.significand.log2 := by
    rw [Magnitude.value, hexponent, zpow_neg, zpow_natCast,
      mul_inv_eq_one₀ (by positivity)] at hone
    exact_mod_cast hone
  have hcast : (base.significand : Int) = (2 ^ base.significand.log2 : Nat) := by
    exact_mod_cast hsignificand
  have hpow : ((2 ^ base.significand.log2 : Nat) : Int) ≠ 0 := by positivity
  have hunit : (base.significand : Int) * FixedPoint.one / (2 ^ base.significand.log2 : Nat) =
      FixedPoint.one := by
    rw [hcast]
    exact Int.mul_ediv_cancel_left _ hpow
  rw [FixedPoint.log, Nat.pow_eq, htop, hunit, FixedPoint.logOfUnit_one, Int.zero_mul, Int.add_zero]

theorem log2_mul_logTwo_le (hu : base.value = u) (hpos : 0 < u) :
    u.log2 * FixedPoint.logTwo ≤ FixedPoint.log base.significand base.exponent := by
  have hsignificand : 0 < base.significand :=
    Magnitude.significand_pos (by rw [hu]; exact_mod_cast hpos)
  rw [FixedPoint.log, exponent_add_log2 hu hpos]
  refine le_add_of_nonneg_left (FixedPoint.logOfUnit_nonneg ?_)
  have hlog : ((2 ^ base.significand.log2 : Nat) : Int) ≤ base.significand := by
    exact_mod_cast Nat.log2_self_le hsignificand.ne'
  rw [Nat.pow_eq, Int.le_ediv_iff_mul_le (by positivity), Int.mul_comm]
  exact Int.mul_le_mul_of_nonneg_right hlog (by decide)

theorem clamped_of_le {x bound : Int} (hbound : 0 ≤ bound) (h : bound ≤ x) :
    max (-bound) (min bound x) = bound := by
  rw [min_eq_left h, max_eq_right (by omega)]

/-- The exponential of the bound as a quotient is past the largest number. -/
theorem exp_logarithmBound_value :
    (2 : ℚ) ^ 1100 ≤ (FixedPoint.exp logarithmBound).1 /
      (2 : ℚ) ^ (256 - (FixedPoint.exp logarithmBound).2) := by
  obtain ⟨hpos, hlarge⟩ := exp_logarithmBound
  generalize FixedPoint.exp logarithmBound = power at hpos hlarge
  rw [le_div_iff₀ (by positivity)]
  calc (2 : ℚ) ^ 1100 * 2 ^ (256 - power.2)
      = 2 ^ ((1100 : Int) + (256 - power.2)) := by
        rw [zpow_add₀ two_ne_zero]
        norm_cast
    _ ≤ 2 ^ (power.1.log2 : Int) := zpow_le_zpow_right₀ one_le_two (by omega)
    _ ≤ power.1 := by
        rw [zpow_natCast]
        exact_mod_cast Nat.log2_self_le hpos.ne'

theorem realPower_represents (hu : base.value = u) (hpos : 0 < u) {n den : Nat} (hden : 0 < den)
    (hlong : u = 1 ∨ 4096 ≤ u.log2 * n) :
    Represents (realPower base.significand base.exponent (n * den : Nat) den) u n := by
  have hlogarithm : FixedPoint.log base.significand base.exponent * (n * den : Nat) / den =
      FixedPoint.log base.significand base.exponent * n := by
    rw [Nat.cast_mul, ← Int.mul_assoc]
    exact Int.mul_ediv_cancel _ (by omega)
  rw [realPower, hlogarithm]
  refine ⟨scaleDown_den_pos two_pos Nat.one_pos _, ?_⟩
  dsimp only
  rw [scaleDown_value two_ne_zero, Nat.cast_one, div_one, Nat.cast_ofNat]
  rcases hlong with rfl | hlong
  · left
    have hclamped : max (-logarithmBound) (min logarithmBound 0) = 0 := by decide
    have hone : FixedPoint.one.toNat = 2 ^ 256 := by decide
    rw [log_one (by exact_mod_cast hu), Int.zero_mul, hclamped, FixedPoint.exp_zero, hone,
      Nat.cast_one, one_pow, div_eq_one_iff_eq (by positivity)]
    norm_cast
  · right
    have hbound : logarithmBound ≤ FixedPoint.log base.significand base.exponent * n :=
      calc logarithmBound ≤ 4096 * FixedPoint.logTwo := logarithmBound_le
        _ ≤ (u.log2 * n : Nat) * FixedPoint.logTwo :=
            Int.mul_le_mul_of_nonneg_right (by exact_mod_cast hlong) FixedPoint.logTwo_pos.le
        _ = u.log2 * FixedPoint.logTwo * n := by
            push_cast
            ring
        _ ≤ _ := Int.mul_le_mul_of_nonneg_right (log2_mul_logTwo_le hu hpos) (by omega)
    rw [clamped_of_le (by decide) hbound]
    refine ⟨exp_logarithmBound_value, ?_⟩
    calc (2 : ℚ) ^ 1100 ≤ 2 ^ (u.log2 * n) := pow_le_pow_right₀ one_le_two (by omega)
      _ = (2 ^ u.log2) ^ n := pow_mul ..
      _ ≤ u ^ n := by
          gcongr
          exact_mod_cast Nat.log2_self_le hpos.ne'

/-- What is rounded to a power of integers is the power itself, but for powers far past the largest
number. -/
theorem magnitudePower_represents (hu : base.value = u) (hpos : 0 < u) {n den : Nat}
    (hden : 0 < den) : Represents (magnitudePower base (n * den : Nat) den) u n := by
  obtain ⟨odd, shift, zeros, hpart, hzeros, hsplit, hodd⟩ := exists_oddPart hu hpos
  have hquotient : ((n * den : Nat) : Int) / den = n := by
    rw [← Int.natCast_div, Nat.mul_div_cancel _ hden]
  have hintegral : ((n * den : Nat) : Int) % den = 0 := by
    rw [← Int.natCast_mod, Nat.mul_mod_left, Int.natCast_zero]
  rw [magnitudePower, hpart]
  dsimp only
  rw [hquotient, Int.natAbs_natCast, hzeros]
  by_cases hshort : (odd.log2 + 1) * n ≤ 8192
  · rw [if_pos ⟨hintegral, hshort⟩]
    exact integerPower_represents hsplit hodd n
  · rw [if_neg fun h => hshort h.2]
    apply realPower_represents hu hpos hden
    by_cases hone : u = 1
    · exact .inl hone
    · right
      have hodd : odd.log2 ≤ u.log2 := by
        rw [Nat.le_log2 hpos.ne', hsplit]
        exact (Nat.log2_self_le hodd.ne').trans (Nat.le_mul_of_pos_right _ (by positivity))
      have htwo : 1 ≤ u.log2 := (Nat.le_log2 hpos.ne').mpr (by omega)
      have hdouble : (odd.log2 + 1) * n ≤ 2 * u.log2 * n := Nat.mul_le_mul_right n (by omega)
      rw [Nat.mul_assoc] at hdouble
      omega

end

end Binary64

end TemplateScript
