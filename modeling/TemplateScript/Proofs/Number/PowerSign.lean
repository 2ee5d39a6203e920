import TemplateScript.Proofs.Number.FloorDivision
import TemplateScript.Proofs.Number.Power

/-!
# The sign of powers of integers

The operands of a power take part as the nearest floating-point numbers, and the power of these is
rounded. Rounding an integer keeps its sign, and whether it is odd as long as it has at most 53
bits; past that only even integers are floating-point numbers. Rounding the power keeps its sign,
but where the power of two finite numbers is past the largest, the result is positive infinity.
-/

namespace TemplateScript

namespace Binary64

/-! ### Signs of rounded quotients -/

/-- The largest value of a floating-point number. -/
def largest : ℚ := (2 ^ 53 - 1) * 2 ^ 971

/-- A number other than zero and its sign. -/
def HasSign (negative : Bool) : Binary64 → Prop
  | .finite sign m => sign = negative ∧ 0 < m.value
  | .infinite sign => sign = negative
  | .nan _ _ => False

section

variable {negative : Bool} {num den : Nat}

theorem ofCanonical_cases (negative : Bool) (significand : Nat) (exponent : Int) :
    (∃ m, ofCanonical negative significand exponent = .finite negative m) ∨
      ofCanonical negative significand exponent = .infinite negative := by
  unfold ofCanonical
  split
  · exact .inl ⟨_, rfl⟩
  · exact .inr rfl

/-- A quotient of more than a half is rounded to a number of its sign, not to zero. -/
theorem hasSign_ofQuotient (hden : 0 < den) (h : (1 / 2 : ℚ) < num / den) :
    HasSign negative (ofQuotient negative num den) := by
  have hnum : 0 < num := by
    apply Nat.pos_of_ne_zero
    rintro rfl
    norm_num at h
  have hcases : (∃ m, ofQuotient negative num den = .finite negative m) ∨
      ofQuotient negative num den = .infinite negative := by
    obtain ⟨significand, exponent, hround⟩ := exists_rounding negative hnum hden
    rw [hround.eq]
    split <;> apply ofCanonical_cases
  rcases hcases with ⟨m, hm⟩ | hinfinite
  · obtain ⟨-, hnearest⟩ := ofQuotient_nearest hden hm
    obtain ⟨unit, hunit⟩ := Magnitude.exists_value_of_le (show 1 ≤ 2 ^ 53 by decide)
    rw [hm]
    refine ⟨rfl, lt_of_le_of_ne m.value_nonneg fun hzero => ?_⟩
    -- one is nearer to the quotient than zero
    have hdistance := hnearest unit
    rw [← hzero, hunit, zero_sub, abs_neg, abs_of_pos (by linarith), Nat.cast_one,
      le_abs] at hdistance
    rcases hdistance with hle | hle <;> linarith
  · rw [hinfinite]
    rfl

/-! ### The rounded power -/

/-- A power is rounded after it was made a little smaller or a little larger. -/
theorem nearest_cases (negative : Bool) (num : Nat) (hden : 0 < den) (named : Binary64) :
    ∃ p q, 0 < q ∧ nearest negative num den named = ofQuotient negative p q ∧
      num / den * (1 - 1 / 2 ^ 57) ≤ (p / q : ℚ) ∧ (p / q : ℚ) ≤ num / den * (1 + 1 / 2 ^ 57) := by
  have hpos : 0 < den * marginParts := Nat.mul_pos hden (by decide)
  have hvalue (parts : Nat) : ((num * parts : Nat) : ℚ) / (den * marginParts : Nat) =
      num / den * (parts / marginParts) := by
    push_cast
    rw [mul_div_mul_comm]
  have hbelow : ((marginParts - 1 : Nat) : ℚ) / marginParts = 1 - 1 / 2 ^ 57 := by
    norm_num [marginParts]
  have habove : ((marginParts + 1 : Nat) : ℚ) / marginParts = 1 + 1 / 2 ^ 57 := by
    norm_num [marginParts]
  have hnonneg : (0 : ℚ) ≤ num / den := by positivity
  have hmargin : (1 : ℚ) - 1 / 2 ^ 57 ≤ 1 + 1 / 2 ^ 57 := by norm_num
  have hchoice : nearest negative num den named =
        ofQuotient negative (num * (marginParts - 1)) (den * marginParts) ∨
      nearest negative num den named =
        ofQuotient negative (num * (marginParts + 1)) (den * marginParts) := by
    unfold nearest
    dsimp only
    split_ifs
    · exact .inl rfl
    · exact .inr rfl
    · exact .inl rfl
  rcases hchoice with h | h
  · refine ⟨_, _, hpos, h, ?_⟩
    rw [hvalue, hbelow]
    exact ⟨le_rfl, mul_le_mul_of_nonneg_left hmargin hnonneg⟩
  · refine ⟨_, _, hpos, h, ?_⟩
    rw [hvalue, habove]
    exact ⟨mul_le_mul_of_nonneg_left hmargin hnonneg, le_rfl⟩

theorem hasSign_nearest (hden : 0 < den) (h : (1 : ℚ) ≤ num / den) (named : Binary64) :
    HasSign negative (nearest negative num den named) := by
  obtain ⟨p, q, hq, heq, hlow, -⟩ := nearest_cases negative num hden named
  rw [heq]
  refine hasSign_ofQuotient hq (lt_of_lt_of_le ?_ hlow)
  calc (1 / 2 : ℚ) < 1 * (1 - 1 / 2 ^ 57) := by norm_num
    _ ≤ num / den * (1 - 1 / 2 ^ 57) := mul_le_mul_of_nonneg_right h (by norm_num)

theorem isFinite_nearest (negative : Bool) (hden : 0 < den) (h : num / den ≤ largest)
    (named : Binary64) : (nearest negative num den named).isFinite := by
  obtain ⟨p, q, hq, heq, -, hhigh⟩ := nearest_cases negative num hden named
  rw [heq]
  refine isFinite_ofQuotient hq (hhigh.trans_lt ?_)
  calc (num / den : ℚ) * (1 + 1 / 2 ^ 57)
      ≤ largest * (1 + 1 / 2 ^ 57) := mul_le_mul_of_nonneg_right h (by norm_num)
    _ < overflowBound := by
        have hunit : (0 : ℚ) < 2 ^ 970 := by positivity
        rw [largest, overflowBound, pow_succ (2 : ℚ) 970]
        generalize (2 : ℚ) ^ 970 = unit at hunit ⊢
        linarith

theorem nearest_infinite (negative : Bool) (hden : 0 < den) (h : (2 ^ 1024 : ℚ) ≤ num / den)
    (named : Binary64) : nearest negative num den named = .infinite negative := by
  obtain ⟨p, q, hq, heq, hlow, -⟩ := nearest_cases negative num hden named
  rw [heq]
  refine ofQuotient_infinite negative hq (lt_of_lt_of_le ?_ hlow)
  calc overflowBound < 2 ^ 1024 * (1 - 1 / 2 ^ 57) := by
        have hunit : (0 : ℚ) < 2 ^ 970 := by positivity
        rw [overflowBound, show 1024 = 54 + 970 by decide, pow_add (2 : ℚ)]
        generalize (2 : ℚ) ^ 970 = unit at hunit ⊢
        linarith
    _ ≤ num / den * (1 - 1 / 2 ^ 57) := mul_le_mul_of_nonneg_right h (by norm_num)

end

/-! ### Powers of floating-point numbers that are integers -/

section

variable {negative : Bool} {base exponent : Magnitude} {u n : Nat}

theorem Represents.one_le {q : Nat × Nat} (h : Represents q u n) (hpos : 0 < u) :
    (1 : ℚ) ≤ q.1 / q.2 := by
  rcases h.eq_or_large with heq | ⟨hlarge, -⟩
  · rw [heq]
    exact one_le_pow₀ (by exact_mod_cast hpos)
  · exact (one_le_pow₀ one_le_two).trans hlarge

theorem Represents.le_largest {q : Nat × Nat} (h : Represents q u n) (hle : (u ^ n : ℚ) ≤ largest) :
    (q.1 / q.2 : ℚ) ≤ largest := by
  rcases h.eq_or_large with heq | ⟨-, hlarge⟩
  · rwa [heq]
  · have hunit : (0 : ℚ) < 2 ^ 971 := by positivity
    have hlt : largest < 2 ^ 1100 := by
      rw [largest, show 1100 = 129 + 971 by decide, pow_add (2 : ℚ)]
      generalize (2 : ℚ) ^ 971 = unit at hunit ⊢
      linarith
    exact absurd (hlarge.trans hle) hlt.not_ge

theorem Represents.past {q : Nat × Nat} (h : Represents q u n) (hle : (2 ^ 1024 : ℚ) ≤ u ^ n) :
    (2 ^ 1024 : ℚ) ≤ q.1 / q.2 := by
  rcases h.eq_or_large with heq | ⟨hlarge, -⟩
  · rwa [heq]
  · exact (pow_le_pow_right₀ one_le_two (by decide)).trans hlarge

/-- The power of a finite number to a positive one, both with integer values, before overflow is
settled. -/
theorem rawPower_spec (negative : Bool) (hu : base.value = u) (hpos : 0 < u)
    (hn : exponent.value = n) (hnpos : 0 < n) :
    ∃ q named, Represents q u n ∧
      rawPower (.finite negative base) (.finite false exponent) =
        nearest (negative && n % 2 == 1) q.1 q.2 named := by
  have hbase : base.significand ≠ 0 :=
    (Magnitude.significand_pos (by rw [hu]; exact_mod_cast hpos)).ne'
  have hexponent : exponent.significand ≠ 0 :=
    (Magnitude.significand_pos (by rw [hn]; exact_mod_cast hnpos)).ne'
  have hden := exponent.quotient_den_pos
  have hvalue := exponent.quotient_value
  rw [rawPower, if_neg hexponent, if_neg hbase, finitePower]
  generalize exponent.quotient = quotient at hden hvalue
  obtain ⟨num, den⟩ := quotient
  dsimp only at hden hvalue ⊢
  obtain rfl : num = n * den := by
    rw [hn, div_eq_iff (by positivity)] at hvalue
    exact_mod_cast hvalue
  have hintegral : (n * den % den == 0) = true := by
    rw [Nat.mul_mod_left]
    decide
  refine ⟨magnitudePower base (n * den : Nat) den,
    machinePower (.finite negative base) (.finite false exponent),
    magnitudePower_represents hu hpos hden, ?_⟩
  rw [hintegral, Nat.mul_div_cancel n hden, Bool.not_true, Bool.and_false,
    if_neg Bool.false_ne_true]
  rfl

theorem power_of_isFinite {x y : Binary64} (h : (rawPower x y).isFinite) :
    power x y = rawPower x y := by
  obtain ⟨sign, m, hraw⟩ := isFinite_iff.mp h
  rw [power, hraw]

theorem power_of_infinite {sign leftSign rightSign : Bool} {left right : Magnitude}
    (h : rawPower (.finite leftSign left) (.finite rightSign right) = .infinite sign) :
    power (.finite leftSign left) (.finite rightSign right) = infinity := by
  rw [power, h]
  rfl

/-- The power has the sign of the exact power as long as that is not past the largest number. -/
theorem hasSign_power (negative : Bool) (hu : base.value = u) (hpos : 0 < u)
    (hn : exponent.value = n) (hnpos : 0 < n) (hle : (u ^ n : ℚ) ≤ largest) :
    HasSign (negative && n % 2 == 1)
      (power (.finite negative base) (.finite false exponent)) := by
  obtain ⟨q, named, hq, heq⟩ := rawPower_spec negative hu hpos hn hnpos
  have hfinite := isFinite_nearest (negative && n % 2 == 1) hq.den_pos (hq.le_largest hle) named
  rw [← heq] at hfinite
  rw [power_of_isFinite hfinite, heq]
  exact hasSign_nearest hq.den_pos (hq.one_le hpos) named

/-- A power that is not negative is positive, past the largest number too. -/
theorem hasSign_power_of_even (hu : base.value = u) (hpos : 0 < u) (hn : exponent.value = n)
    (hnpos : 0 < n) (heven : (negative && n % 2 == 1) = false) :
    HasSign false (power (.finite negative base) (.finite false exponent)) := by
  obtain ⟨q, named, hq, heq⟩ := rawPower_spec negative hu hpos hn hnpos
  have hsign : HasSign false (nearest false q.1 q.2 named) :=
    hasSign_nearest hq.den_pos (hq.one_le hpos) named
  rw [heven] at heq
  rw [← heq] at hsign
  cases hraw : rawPower (.finite negative base) (.finite false exponent) with
  | finite sign m =>
      rw [power_of_isFinite (by rw [hraw]; rfl)]
      exact hsign
  | infinite sign =>
      rw [power_of_infinite hraw]
      exact rfl
  | nan sign mark =>
      rw [hraw] at hsign
      exact hsign.elim

theorem power_past (negative : Bool) (hu : base.value = u) (hpos : 0 < u)
    (hn : exponent.value = n) (hnpos : 0 < n) (hle : (2 ^ 1024 : ℚ) ≤ u ^ n) :
    power (.finite negative base) (.finite false exponent) = infinity := by
  obtain ⟨q, named, hq, heq⟩ := rawPower_spec negative hu hpos hn hnpos
  rw [nearest_infinite _ hq.den_pos (hq.past hle)] at heq
  exact power_of_infinite heq

end

/-! ### Operands -/

/-- An integer is rounded to an integer: to itself if it has at most 53 bits, and else to an even
integer of more. -/
theorem exists_natural_of_ofInt {i : Int} {sign : Bool} {m : Magnitude}
    (h : ofInt i = .finite sign m) :
    sign = decide (i < 0) ∧ ∃ k : Nat, m.value = k ∧ (i.natAbs ≤ 2 ^ 53 → k = i.natAbs) ∧
      (2 ^ 53 ≤ i.natAbs → 2 ^ 53 ≤ k ∧ k % 2 = 0) := by
  obtain ⟨hsign, hnearest⟩ := ofQuotient_nearest Nat.one_pos h
  rw [Nat.cast_one, div_one] at hnearest
  refine ⟨hsign, ?_⟩
  by_cases hle : i.natAbs ≤ 2 ^ 53
  · obtain ⟨exact, hexact⟩ := Magnitude.exists_value_of_le hle
    have hzero := hnearest exact
    rw [hexact, sub_self, abs_zero, abs_nonpos_iff, sub_eq_zero] at hzero
    refine ⟨i.natAbs, hzero, fun _ => rfl, fun hge => ?_⟩
    rw [le_antisymm hle hge]
    decide
  · obtain ⟨limit, hlimit⟩ := Magnitude.exists_value_of_le (le_refl (2 ^ 53))
    have hpast : (2 ^ 53 : ℚ) < i.natAbs := by exact_mod_cast not_le.mp hle
    have hge : (2 ^ 53 : ℚ) ≤ m.value := by
      by_contra hlt
      have hdistance := hnearest limit
      rw [hlimit, Nat.cast_pow, Nat.cast_ofNat, abs_of_nonpos (by linarith),
        abs_of_nonpos (by linarith)] at hdistance
      linarith
    rcases m.multiple_or_lt 1 with ⟨k, hk⟩ | ⟨-, hbelow⟩
    · rw [zpow_one] at hk
      have hvalue : m.value = (k * 2 : Nat) := by
        rw [hk]
        push_cast
        ring
      refine ⟨k * 2, hvalue, fun h => absurd h hle, fun _ => ⟨?_, Nat.mul_mod_left k 2⟩⟩
      rw [hvalue] at hge
      exact_mod_cast hge
    · rw [zpow_one] at hbelow
      linarith

end Binary64

namespace Number

open Binary64

theorem blt_zero_of_hasSign {x : Binary64} (h : HasSign true x) : (float x).blt (int 0) := by
  cases x with
  | finite negative m =>
      obtain ⟨rfl, hpos⟩ := h
      have hcompare : (float (.finite true m)).compare? (int 0) =
          some (compare (-(m.quotient.1 : Int) * (1 : Nat)) (0 * m.quotient.2)) := rfl
      have hnum := Magnitude.quotient_num_pos hpos
      rw [blt, hcompare, compare_lt_iff_lt.mpr (by omega)]
      rfl
  | infinite negative =>
      obtain rfl : negative = true := h
      rfl
  | nan negative mark => exact h.elim

theorem zero_blt_of_hasSign {x : Binary64} (h : HasSign false x) : (int 0).blt (float x) := by
  cases x with
  | finite negative m =>
      obtain ⟨rfl, hpos⟩ := h
      have hcompare : (int 0).compare? (float (.finite false m)) =
          some (compare (0 * (m.quotient.2 : Int)) (m.quotient.1 * (1 : Nat))) := rfl
      have hnum := Magnitude.quotient_num_pos hpos
      rw [blt, hcompare, compare_lt_iff_lt.mpr (by omega)]
      rfl
  | infinite negative =>
      obtain rfl : negative = false := h
      rfl
  | nan negative mark => exact h.elim

/-- An integer takes part in a power as the number of its sign with a magnitude of value `k`. -/
structure TakesPart (i : Int) (m : Magnitude) (k : Nat) : Prop where
  toFloat_eq : (int i).toFloat = .ok (.finite (decide (i < 0)) m)
  value_eq : m.value = k
  eq_of_le : i.natAbs ≤ 2 ^ 53 → k = i.natAbs
  even_of_ge : 2 ^ 53 ≤ i.natAbs → 2 ^ 53 ≤ k ∧ k % 2 = 0

section

variable {i a b : Int} {m m' : Magnitude} {k n : Nat} {u : ℚ}

theorem takesPart_or (i : Int) :
    (∃ m k, TakesPart i m k) ∨ (int i).toFloat = .error .integerTooLarge := by
  have htoFloat := toFloat_int i
  by_cases hfinite : (ofInt i).isFinite
  · obtain ⟨sign, m, hround⟩ := isFinite_iff.mp hfinite
    obtain ⟨rfl, k, hvalue, hle, hge⟩ := exists_natural_of_ofInt hround
    rw [if_pos hfinite, hround] at htoFloat
    exact .inl ⟨m, k, htoFloat, hvalue, hle, hge⟩
  · rw [if_neg hfinite] at htoFloat
    exact .inr htoFloat

theorem RoundsTo.takesPart (h : (int i).RoundsTo u) : ∃ m k, TakesPart i m k ∧ |u| = k := by
  obtain ⟨x, hx, hvalue⟩ := h
  rcases takesPart_or i with ⟨m, k, hi⟩ | herror
  · rw [hi.toFloat_eq] at hx
    cases hx
    refine ⟨m, k, hi, ?_⟩
    rw [(hasValue_finite _ m).mp hvalue, abs_signedBy, abs_of_nonneg m.value_nonneg, hi.value_eq]
  · rw [herror] at hx
    cases hx

theorem RoundsTo.takesPart_natural (h : (int i).RoundsTo n) : ∃ m, TakesPart i m n := by
  obtain ⟨m, k, hi, hk⟩ := h.takesPart
  obtain rfl : n = k := by exact_mod_cast (abs_of_nonneg n.cast_nonneg).symm.trans hk
  exact ⟨m, hi⟩

theorem TakesPart.pos (h : TakesPart i m k) (hi : i ≠ 0) : 0 < k := by
  rcases le_total i.natAbs (2 ^ 53) with hle | hge
  · rw [h.eq_of_le hle]
    omega
  · exact (by decide : 0 < 2 ^ 53).trans_le (h.even_of_ge hge).1

theorem TakesPart.power_eq (ha : TakesPart a m k) (hb : TakesPart b m' n) (hpos : 0 < b) :
    (int a).power (int b) = (Binary64.finite (decide (a < 0)) m).power (.finite false m') := by
  have hsign : decide (b < 0) = false := decide_eq_false (by omega)
  rw [power, ha.toFloat_eq, hb.toFloat_eq, hsign]

theorem power_of_too_large (h : (int a).toFloat = .error .integerTooLarge ∨
    (int b).toFloat = .error .integerTooLarge) : (int a).power (int b) = .infinity := by
  rcases h with h | h
  · rw [power, h]
  · rw [power, h]
    cases (int a).toFloat <;> rfl

/-- An operand or the power of the operands is past the floating-point numbers. -/
def PowerTooLarge (a b : Int) : Prop :=
  (∀ u, ¬ (int a).RoundsTo u) ∨ (∀ v, ¬ (int b).RoundsTo v) ∨
    ∃ (u : ℚ) (n : Nat), (int a).RoundsTo u ∧ (int b).RoundsTo n ∧ 2 ^ 1024 ≤ |u| ^ n

/-- The power of the operands is in the range of the floating-point numbers. -/
def PowerInRange (a b : Int) : Prop :=
  ∃ (u : ℚ) (n : Nat), (int a).RoundsTo u ∧ (int b).RoundsTo n ∧ |u| ^ n ≤ largest

theorem toFloat_of_no_rounded (h : ∀ u, ¬ (int i).RoundsTo u) :
    (int i).toFloat = .error .integerTooLarge := by
  rcases takesPart_or i with ⟨m, k, hi⟩ | herror
  · exact absurd ⟨_, hi.toFloat_eq, (hasValue_finite _ m).mpr rfl⟩ (h _)
  · exact herror

theorem power_of_powerTooLarge (hb : 0 < b) (h : PowerTooLarge a b) :
    (int a).power (int b) = .infinity := by
  rcases h with h | h | ⟨u, n, hu, hn, hle⟩
  · exact power_of_too_large (.inl (toFloat_of_no_rounded h))
  · exact power_of_too_large (.inr (toFloat_of_no_rounded h))
  · obtain ⟨m, k, ha, hk⟩ := hu.takesPart
    obtain ⟨m', hb'⟩ := hn.takesPart_natural
    rw [hk] at hle
    have hnpos : 0 < n := hb'.pos hb.ne'
    have hkpos : 0 < k := by
      apply Nat.pos_of_ne_zero
      rintro rfl
      rw [Nat.cast_zero, zero_pow hnpos.ne'] at hle
      exact absurd hle (by norm_num)
    rw [ha.power_eq hb' hb]
    exact power_past _ ha.value_eq hkpos hb'.value_eq hnpos hle

/-- The power of a positive integer is positive, and so is that to an even integer. -/
theorem hasSign_power_of_pos (ha : a ≠ 0) (hb : 0 < b)
    (h : 0 < a ∨ 2 ^ 53 ≤ b) : HasSign false ((int a).power (int b)) := by
  have hinfinity : HasSign false Binary64.infinity := rfl
  rcases takesPart_or a with ⟨m, k, ha'⟩ | herror
  · rcases takesPart_or b with ⟨m', n, hb'⟩ | herror
    · have heven : (decide (a < 0) && n % 2 == 1) = false := by
        rcases h with hpos | hlarge
        · rw [decide_eq_false (by omega), Bool.false_and]
        · rw [(hb'.even_of_ge (by omega)).2]
          exact Bool.and_false _
      rw [ha'.power_eq hb' hb]
      exact hasSign_power_of_even ha'.value_eq (ha'.pos ha) hb'.value_eq (hb'.pos hb.ne') heven
    · rwa [power_of_too_large (.inr herror)]
  · rwa [power_of_too_large (.inl herror)]

/-- The power of a negative integer to an odd one of at most 53 bits is negative. -/
theorem hasSign_power_of_neg (ha : a < 0) (hb : 0 < b) (hodd : b % 2 = 1) (hle : b ≤ 2 ^ 53)
    (h : PowerInRange a b) : HasSign true ((int a).power (int b)) := by
  obtain ⟨u, n, hu, hn, hrange⟩ := h
  obtain ⟨m, k, ha', hk⟩ := hu.takesPart
  obtain ⟨m', hb'⟩ := hn.takesPart_natural
  have hexact := hb'.eq_of_le (by omega)
  have hsign : (decide (a < 0) && n % 2 == 1) = true := by
    rw [decide_eq_true ha, show n % 2 = 1 by omega]
    decide
  rw [hk] at hrange
  rw [ha'.power_eq hb' hb]
  have hpower := hasSign_power (decide (a < 0)) ha'.value_eq (ha'.pos ha.ne) hb'.value_eq
    (hb'.pos hb.ne') hrange
  rwa [hsign] at hpower

theorem power_zero_beq (hb : 0 < b) {v : ℚ} (hv : (int b).RoundsTo v) :
    (float ((int 0).power (int b))).beq (int 0) := by
  obtain ⟨m, n, hb', -⟩ := hv.takesPart
  have hexponent : m.significand ≠ 0 := by
    apply (Magnitude.significand_pos _).ne'
    rw [hb'.value_eq]
    exact_mod_cast hb'.pos hb.ne'
  have hzero : (int 0).toFloat = .ok (zeroOf false) := by decide +kernel
  have hsign : decide (b < 0) = false := decide_eq_false (by omega)
  have hpower : (int 0).power (int b) = zeroOf false := by
    rw [power, hzero, hb'.toFloat_eq, hsign]
    dsimp only
    rw [Binary64.power, zeroOf, rawPower, if_neg hexponent]
    rfl
  rw [hpower]
  decide +kernel

end

/-- The sign of an odd power of an integer. Of a positive integer the power is positive, and it is
infinite where it or an operand is too large for a floating-point number; of zero it is zero, if the
exponent is not too large. Of a negative integer it is negative while the exponent has at most 53
bits and the power is in range; a larger exponent takes part as an even integer, and then the power
is positive. -/
theorem power_sign (a b : Int) (hb : 0 < b) (hodd : b % 2 = 1) :
    (0 < a → (int 0).blt (float ((int a).power (int b))) ∧
      (PowerTooLarge a b → (int a).power (int b) = .infinity)) ∧
    (a = 0 → (∃ v, (int b).RoundsTo v) → (float ((int a).power (int b))).beq (int 0)) ∧
    (a < 0 → b ≤ 2 ^ 53 → PowerInRange a b → (float ((int a).power (int b))).blt (int 0)) ∧
    (a < 0 → 2 ^ 53 < b → (∃ v, (int b).RoundsTo v) →
      (int 0).blt (float ((int a).power (int b)))) := by
  refine ⟨fun ha => ⟨?_, power_of_powerTooLarge hb⟩, ?_, ?_, ?_⟩
  · exact zero_blt_of_hasSign (hasSign_power_of_pos ha.ne' hb (.inl ha))
  · rintro rfl ⟨v, hv⟩
    exact power_zero_beq hb hv
  · intro ha hle hrange
    exact blt_zero_of_hasSign (hasSign_power_of_neg ha hb hodd hle hrange)
  · intro ha hlt _
    exact zero_blt_of_hasSign (hasSign_power_of_pos ha.ne hb (.inr hlt.le))

theorem power_sign_three :
    (float ((int (-3)).power (int 3))).blt (int 0) ∧
      (int 0).blt (float ((int (-1)).power (int (2 ^ 53 + 1)))) := by
  constructor
  · have hbase : (int (-3)).RoundsTo (-3) :=
      ⟨ofInt (-3), by decide +kernel, by decide +kernel⟩
    have hexponent : (int 3).RoundsTo (3 : Nat) := ⟨ofInt 3, by decide +kernel, by decide +kernel⟩
    obtain ⟨-, -, hnegative, -⟩ := power_sign (-3) 3 (by decide) (by decide)
    exact hnegative (by decide) (by decide) ⟨-3, 3, hbase, hexponent, by decide +kernel⟩
  · have hexponent : (int (2 ^ 53 + 1)).RoundsTo (2 ^ 53) :=
      ⟨ofInt (2 ^ 53), by decide +kernel, by decide +kernel⟩
    obtain ⟨-, -, -, heven⟩ := power_sign (-1) (2 ^ 53 + 1) (by decide) (by decide)
    exact heven (by decide) (by decide) ⟨_, hexponent⟩

/-- The least odd integer of 54 bits that is no floating-point number takes part as the even integer
below it. -/
theorem power_sign_lost : ¬ ∀ a b : Int, 0 < b → b % 2 = 1 →
    (a < 0 → (float ((int a).power (int b))).blt (int 0)) ∧
      (a = 0 → (float ((int a).power (int b))).beq (int 0)) ∧
      (0 < a → (int 0).blt (float ((int a).power (int b)))) := by
  intro h
  have hpower : (int (-1)).power (int (2 ^ 53 + 1)) = ofInt 1 := by decide +kernel
  obtain ⟨hnegative, -⟩ := h (-1) (2 ^ 53 + 1) (by decide) (by decide)
  have hlt := hnegative (by decide)
  rw [hpower] at hlt
  exact absurd hlt (by decide +kernel)

end Number

end TemplateScript
