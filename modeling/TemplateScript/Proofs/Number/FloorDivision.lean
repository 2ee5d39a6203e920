import Mathlib.Data.Rat.Floor
import TemplateScript.Proofs.Number.Nearest

/-!
# Flooring division

Of integers the flooring quotient is the floor of the exact one. Of floating-point numbers it is the
floor of the nearest quotient, which is the floor of the exact quotient, or the integer behind that
where the nearest quotient is that integer. An integer beside a floating-point number takes part as
the number nearest to it, and the operation fails if there is none.
-/

namespace TemplateScript

/-! ### Floors -/

theorem floor_div (i j : Int) : ⌊(i : ℚ) / j⌋ = i.fdiv j := by
  have hpos (i : Int) {j : Int} (hj : 0 ≤ j) : ⌊(i : ℚ) / j⌋ = i.fdiv j := by
    obtain ⟨d, rfl⟩ := Int.eq_ofNat_of_zero_le hj
    rw [Int.cast_natCast, Rat.floor_intCast_div_natCast, Int.fdiv_eq_ediv_of_nonneg i hj]
  rcases le_total 0 j with hle | hle
  · exact hpos i hle
  · have h := hpos (-i) (Int.neg_nonneg_of_nonpos hle)
    rwa [Int.neg_fdiv_neg, Int.cast_neg, Int.cast_neg, neg_div_neg_eq] at h

namespace Binary64

variable {x y : Binary64} {u v w : ℚ}

theorem floor?_of_hasValue (h : (Number.float x).HasValue w) : x.floor? = some ⌊w⌋ := by
  obtain ⟨negative, m, rfl, rfl⟩ := h.exists_finite
  have hfloor := Rat.floor_intCast_div_natCast (signed negative m.quotient.1) m.quotient.2
  rw [← Rat.mkRat_eq_div, signedBy_div, m.quotient_value,
    ← Int.fdiv_eq_ediv_of_nonneg _ (Int.natCast_nonneg _)] at hfloor
  rw [hfloor]
  rfl

/-- Past 53 bits the floating-point numbers are even integers. -/
theorem Nearest.eq_of_limit (h : Nearest w u) (hu : ⌊u⌋ = 2 ^ 53) : w = 2 ^ 53 := by
  obtain ⟨hlow, hhigh⟩ := Int.floor_eq_iff.mp hu
  push_cast at hlow hhigh
  obtain ⟨x, hlimit⟩ := exists_hasValue_int (show |(2 ^ 53 : Int)| ≤ 2 ^ 53 by decide)
  push_cast at hlimit
  have hge : 2 ^ 53 ≤ w := h.ge_of_ge hlimit hlow
  have hlt : w < 2 ^ 53 + 2 := by
    have hnear := (le_abs_self (w - u)).trans (h.le x _ hlimit)
    rw [abs_of_nonpos (by linarith)] at hnear
    linarith
  obtain ⟨y, hy⟩ := h.isValue
  obtain ⟨negative, m, rfl, rfl⟩ := hy.exists_finite
  cases negative with
  | true =>
      have := m.value_nonneg
      rw [signedBy, if_pos rfl] at hge
      linarith
  | false =>
      rw [signedBy, if_neg Bool.false_ne_true] at hge hlt ⊢
      rcases m.multiple_or_lt 1 with ⟨k, hk⟩ | ⟨-, hbelow⟩
      · rw [hk, zpow_one] at hge hlt ⊢
        have hklow : (2 ^ 52 : ℚ) ≤ k := by linarith
        have hkhigh : (k : ℚ) < 2 ^ 52 + 1 := by linarith
        have hk : k = 2 ^ 52 := by
          have hklow' : 2 ^ 52 ≤ k := by exact_mod_cast hklow
          have hkhigh' : k < 2 ^ 52 + 1 := by exact_mod_cast hkhigh
          omega
        rw [hk]
        norm_num
      · rw [zpow_one] at hbelow
        linarith

/-- Rounding goes past no integer of at most 53 bits. -/
theorem Nearest.between (h : Nearest w u) (hu : |⌊u⌋| ≤ 2 ^ 53) : ⌊u⌋ ≤ w ∧ w ≤ ⌊u⌋ + 1 := by
  obtain ⟨x, hx⟩ := exists_hasValue_int hu
  refine ⟨h.ge_of_ge hx (Int.floor_le u), ?_⟩
  by_cases hlimit : ⌊u⌋ = 2 ^ 53
  · rw [h.eq_of_limit hlimit, hlimit]
    norm_num
  · have hnext : |⌊u⌋ + 1| ≤ 2 ^ 53 := by
      rw [abs_le] at hu ⊢
      omega
    obtain ⟨y, hy⟩ := exists_hasValue_int hnext
    push_cast at hy
    exact h.le_of_le hy (Int.lt_floor_add_one u).le

theorem Nearest.floor (h : Nearest w u) (hu : |⌊u⌋| ≤ 2 ^ 53) :
    ⌊w⌋ = if w = ⌊u⌋ + 1 then ⌊u⌋ + 1 else ⌊u⌋ := by
  obtain ⟨hlow, hhigh⟩ := h.between hu
  by_cases hnext : w = ⌊u⌋ + 1
  · rw [if_pos hnext, hnext, ← Int.cast_one, ← Int.cast_add, Int.floor_intCast]
  · rw [if_neg hnext]
    exact Int.floor_eq_iff.mpr ⟨hlow, lt_of_le_of_ne hhigh hnext⟩

/-- The floor of a rounded number is a floating-point number. -/
theorem Nearest.hasValue_floor (h : Nearest w u) (hu : |⌊u⌋| ≤ 2 ^ 53) :
    (Number.float (ofInt ⌊w⌋)).HasValue ⌊w⌋ := by
  rw [h.floor hu]
  by_cases hnext : w = ⌊u⌋ + 1
  · obtain ⟨x, hx⟩ := h.isValue
    rw [if_pos hnext]
    refine hasValue_ofInt (x := x) ?_
    push_cast
    rwa [hnext] at hx
  · obtain ⟨x, hx⟩ := exists_hasValue_int hu
    rw [if_neg hnext]
    exact hasValue_ofInt hx

/-- The quotient of finite numbers is rounded once. -/
theorem div_nearest (hx : (Number.float x).HasValue u) (hy : (Number.float y).HasValue v)
    (hv : v ≠ 0) (hlt : |u / v| < overflowBound) :
    ∃ w, (Number.float (x.div y)).HasValue w ∧ Nearest w (u / v) := by
  obtain ⟨leftNegative, left, rfl, rfl⟩ := hx.exists_finite
  obtain ⟨rightNegative, right, rfl, rfl⟩ := hy.exists_finite
  have hright : right.value ≠ 0 := by
    intro hzero
    rw [hzero, signedBy_zero] at hv
    exact hv rfl
  have hsignificand : 0 < right.significand :=
    Magnitude.significand_pos (lt_of_le_of_ne right.value_nonneg hright.symm)
  set scaled := scaleDown 2 left.significand right.significand (right.exponent - left.exponent)
    with hscaled
  have hvalue : (scaled.1 : ℚ) / scaled.2 = left.value / right.value := by
    rw [hscaled, scaleDown_value two_ne_zero, Magnitude.value, Magnitude.value, Nat.cast_ofNat,
      zpow_sub₀ two_ne_zero]
    field_simp
  have hquotient : signedBy (leftNegative != rightNegative) (scaled.1 / scaled.2) =
      signedBy leftNegative left.value / signedBy rightNegative right.value := by
    rw [hvalue]
    cases leftNegative <;> cases rightNegative <;> simp [signedBy, neg_div, div_neg]
  have hden : 0 < scaled.2 := scaleDown_den_pos two_pos hsignificand _
  have hfinite : (ofQuotient (leftNegative != rightNegative) scaled.1 scaled.2).isFinite := by
    refine isFinite_ofQuotient hden ?_
    rw [← hquotient, abs_signedBy] at hlt
    exact (le_abs_self _).trans_lt hlt
  obtain ⟨w, hw, hnearest⟩ := nearest_ofQuotient hden hfinite
  rw [hquotient] at hnearest
  exact ⟨w, hw, hnearest⟩

end Binary64

/-! ### Operands -/

namespace Number

open Binary64

variable {a b n : Number} {p q u v : ℚ}

/-- The value with which a number takes part in an operation on floating-point numbers. -/
def RoundsTo (n : Number) (u : ℚ) : Prop :=
  ∃ x, n.toFloat = .ok x ∧ (float x).HasValue u

theorem toFloat_int (i : Int) :
    (int i).toFloat = if (ofInt i).isFinite then .ok (ofInt i) else .error .integerTooLarge := by
  rw [toFloat]
  cases hround : ofInt i <;> rfl

/-- An operand takes part as the nearest number. -/
theorem RoundsTo.nearest (h : n.RoundsTo u) (hn : n.HasValue p) : Nearest u p := by
  obtain ⟨x, hfloat, hx⟩ := h
  cases n with
  | int i =>
      obtain rfl := (hasValue_int i).mp hn
      rw [toFloat_int] at hfloat
      split at hfloat
      · next hfinite =>
          obtain ⟨w, hw, hnearest⟩ := nearest_ofInt hfinite
          cases hfloat
          rwa [hx.unique hw]
      · cases hfloat
  | float y =>
      cases hfloat
      obtain rfl := hx.unique hn
      exact ⟨⟨x, hx⟩, fun y v _ => by simp⟩

/-- Only an integer past all floating-point numbers takes part in no operation on them. -/
theorem HasValue.roundsTo_or (h : n.HasValue p) :
    (∃ u, n.RoundsTo u) ∨ n.toFloat = .error .integerTooLarge := by
  cases n with
  | int i =>
      rw [toFloat_int]
      by_cases hfinite : (ofInt i).isFinite
      · obtain ⟨u, hu, -⟩ := nearest_ofInt hfinite
        exact .inl ⟨u, ofInt i, by rw [toFloat_int, if_pos hfinite], hu⟩
      · exact .inr (if_neg hfinite)
  | float x => exact .inl ⟨p, x, rfl, h⟩

/-- No number other than zero takes part as zero. -/
theorem RoundsTo.ne_zero (h : n.RoundsTo u) (hn : n.HasValue q) (hq : q ≠ 0) : u ≠ 0 := by
  have hnearest := h.nearest hn
  cases n with
  | int i =>
      obtain rfl := (hasValue_int i).mp hn
      have hi : i ≠ 0 := by exact_mod_cast hq
      rcases lt_or_gt_of_ne hi with hlt | hgt
      · obtain ⟨x, hx⟩ := exists_hasValue_int (show |(-1 : Int)| ≤ 2 ^ 53 by decide)
        have hle : u ≤ (-1 : Int) :=
          hnearest.le_of_le hx (by exact_mod_cast Int.le_sub_one_of_lt hlt)
        push_cast at hle
        linarith
      · obtain ⟨x, hx⟩ := exists_hasValue_int (show |(1 : Int)| ≤ 2 ^ 53 by decide)
        have hge : (1 : Int) ≤ u := hnearest.ge_of_ge hx (by exact_mod_cast hgt)
        push_cast at hge
        linarith
  | float y =>
      obtain ⟨x, hfloat, hx⟩ := h
      cases hfloat
      rwa [hx.unique hn]

theorem isZero_eq_false (h : n.HasValue q) (hq : q ≠ 0) : n.isZero = false := by
  cases n with
  | int i =>
      obtain rfl := (hasValue_int i).mp h
      rw [isZero, beq_eq_false_iff_ne]
      exact_mod_cast hq
  | float x =>
      obtain ⟨negative, m, rfl, rfl⟩ := h.exists_finite
      rw [isZero, Binary64.isZero, beq_eq_false_iff_ne]
      intro hzero
      rw [Magnitude.value, hzero, Nat.cast_zero, zero_mul, signedBy_zero] at hq
      exact hq rfl

theorem div_eq (hzero : b.isZero = false) : a.div b = .float <$> a.quotient b := by
  rw [div, if_neg (by rw [hzero]; decide)]

section

variable (hmixed : ∀ i j, ¬ (a = .int i ∧ b = .int j)) (hzero : b.isZero = false)

include hmixed

/-- Numbers that are not both integers are divided as floating-point numbers. -/
theorem quotient_eq : a.quotient b = do
    let x ← a.toFloat
    let y ← b.toFloat
    return x.div y :=
  quotient.eq_2 a b fun i j ha hb => hmixed i j ⟨ha, hb⟩

include hzero

theorem floorDiv_eq : a.floorDiv b = do
    let q ← a.quotient b
    return .float ((q.floor?.map ofInt).getD q) := by
  rw [floorDiv.eq_2 a b fun i j ha hb => hmixed i j ⟨ha, hb⟩, if_neg (by rw [hzero]; decide)]

end

/-- The flooring quotient of floating-point numbers is the floor of the nearest quotient. That is
the floor of the exact one, or the integer behind it where the nearest quotient is that integer. -/
theorem floorDiv_of_roundsTo (hmixed : ∀ i j, ¬ (a = .int i ∧ b = .int j))
    (hzero : b.isZero = false) (ha : a.RoundsTo u) (hb : b.RoundsTo v) (hv : v ≠ 0)
    (hbound : |⌊u / v⌋| ≤ 2 ^ 53) :
    ∃ r d w, a.floorDiv b = .ok (.float r) ∧ a.div b = .ok (.float d) ∧
      (float d).HasValue w ∧ Nearest w (u / v) ∧
      (float r).HasValue (if w = ⌊u / v⌋ + 1 then ⌊u / v⌋ + 1 else ⌊u / v⌋) := by
  obtain ⟨x, hx, hu⟩ := ha
  obtain ⟨y, hy, hv'⟩ := hb
  have hlt : |u / v| < overflowBound := by
    have hfloor : |(⌊u / v⌋ : ℚ)| ≤ 2 ^ 53 := by exact_mod_cast hbound
    have hnear : |u / v - ⌊u / v⌋| < 1 := by
      rw [Int.self_sub_floor, abs_of_nonneg (Int.fract_nonneg _)]
      exact Int.fract_lt_one _
    have htriangle := abs_sub_abs_le_abs_sub (u / v) ⌊u / v⌋
    exact lt_overflowBound (by linarith)
  obtain ⟨w, hw, hnearest⟩ := div_nearest hu hv' hv hlt
  have hquotient : a.quotient b = .ok (x.div y) := by
    rw [quotient_eq hmixed, hx, hy]
    rfl
  have hfloor : (⌊w⌋ : ℚ) = if w = ⌊u / v⌋ + 1 then (⌊u / v⌋ : ℚ) + 1 else ⌊u / v⌋ := by
    rw [hnearest.floor hbound]
    split_ifs
    · push_cast
      rfl
    · rfl
  refine ⟨ofInt ⌊w⌋, x.div y, w, ?_, ?_, hw, hnearest, hfloor ▸ hnearest.hasValue_floor hbound⟩
  · rw [floorDiv_eq hmixed hzero, hquotient]
    change Except.ok (float (((x.div y).floor?.map ofInt).getD (x.div y))) = _
    rw [floor?_of_hasValue hw]
    rfl
  · rw [div_eq hzero, hquotient]
    rfl

/-- Without a floating-point number for an operand there is no quotient. -/
theorem floorDiv_of_too_large (hmixed : ∀ i j, ¬ (a = .int i ∧ b = .int j))
    (hzero : b.isZero = false)
    (h : a.toFloat = .error .integerTooLarge ∨ b.toFloat = .error .integerTooLarge)
    (ha : a.HasValue p) : a.floorDiv b = .error .integerTooLarge := by
  rw [floorDiv_eq hmixed hzero, quotient_eq hmixed]
  rcases h with h | h
  · rw [h]
    rfl
  · rw [h]
    rcases ha.roundsTo_or with ⟨u, x, hx, -⟩ | hx
    · rw [hx]
      rfl
    · rw [hx]
      rfl

/-! ### The law of flooring division -/

instance (n : Number) (q : ℚ) : Decidable (n.HasValue q) :=
  inferInstanceAs (Decidable (_ = _))

/-- Of integers `//` is the floor of the exact quotient. Any other operands take part as the nearest
floating-point numbers, and the operation fails only where there are none; then `//` is the floor of
the nearest quotient, which is the result of `/`: the floor of the exact quotient, or the integer
behind that where the nearest quotient is that integer. -/
theorem floorDiv_floors (ha : a.HasValue p) (hb : b.HasValue q) (hq : q ≠ 0) :
    (∀ i j, a = .int i → b = .int j → a.floorDiv b = .ok (.int ⌊p / q⌋)) ∧
      ((∀ i j, ¬ (a = .int i ∧ b = .int j)) →
        ((a.toFloat = .error .integerTooLarge ∨ b.toFloat = .error .integerTooLarge) ∧
          a.floorDiv b = .error .integerTooLarge) ∨
        ∃ u v, a.RoundsTo u ∧ Nearest u p ∧ b.RoundsTo v ∧ Nearest v q ∧ v ≠ 0 ∧
          (|⌊u / v⌋| ≤ 2 ^ 53 →
            ∃ r d w, a.floorDiv b = .ok (.float r) ∧ a.div b = .ok (.float d) ∧
              (float d).HasValue w ∧ Nearest w (u / v) ∧
              (float r).HasValue (if w = ⌊u / v⌋ + 1 then ⌊u / v⌋ + 1 else ⌊u / v⌋))) := by
  constructor
  · rintro i j rfl rfl
    obtain rfl := (hasValue_int i).mp ha
    obtain rfl := (hasValue_int j).mp hb
    have hj : j ≠ 0 := by exact_mod_cast hq
    rw [floorDiv, if_neg hj, floor_div]
  · intro hmixed
    have hzero : b.isZero = false := isZero_eq_false hb hq
    rcases ha.roundsTo_or with ⟨u, hu⟩ | hlarge
    · rcases hb.roundsTo_or with ⟨v, hv⟩ | hlarge
      · have hv0 : v ≠ 0 := hv.ne_zero hb hq
        exact .inr ⟨u, v, hu, hu.nearest ha, hv, hv.nearest hb, hv0,
          floorDiv_of_roundsTo hmixed hzero hu hv hv0⟩
      · exact .inl ⟨.inr hlarge, floorDiv_of_too_large hmixed hzero (.inr hlarge) ha⟩
    · exact .inl ⟨.inl hlarge, floorDiv_of_too_large hmixed hzero (.inl hlarge) ha⟩

/-- The number nearest to a tenth. -/
def tenth : Number := .float (.ofBits 0x3FB999999999999A)

/-- The value of the number nearest to a tenth, which is more than a tenth. -/
def tenthValue : ℚ := mkRat 3602879701896397 36028797018963968

theorem tenth_hasValue : tenth.HasValue tenthValue := by decide +kernel

theorem floorDiv_floors_tenth :
    ∃ r d w, (int 1).floorDiv tenth = .ok (.float r) ∧ (int 1).div tenth = .ok (.float d) ∧
      (float d).HasValue w ∧ Nearest w (1 / tenthValue) ∧
      (float r).HasValue (if w = ⌊1 / tenthValue⌋ + 1 then ⌊1 / tenthValue⌋ + 1
        else ⌊1 / tenthValue⌋) := by
  have hone : (int 1).HasValue 1 := by decide +kernel
  have hfloor : (int 1).floorDiv tenth ≠ .error .integerTooLarge := by decide +kernel
  have hmixed : ∀ i j, ¬ (int 1 = int i ∧ tenth = int j) := fun i j h => nomatch h.2
  obtain ⟨-, hcases⟩ := floorDiv_floors hone tenth_hasValue (by decide +kernel)
  obtain ⟨u, v, -, hu, -, hv, -, hquotient⟩ := (hcases hmixed).resolve_left fun h => hfloor h.2
  obtain ⟨x, hx⟩ := exists_hasValue_int (show |(1 : Int)| ≤ 2 ^ 53 by decide)
  obtain rfl : u = 1 := hu.eq hx
  obtain rfl : v = tenthValue := hv.eq tenth_hasValue
  exact hquotient (by decide +kernel)

/-- The number nearest to a tenth is more than a tenth, so it goes into one nine times; but the
nearest quotient is ten. -/
theorem floorDiv_not_floor : ¬ ∀ (a b : Number) (p q : ℚ), a.HasValue p → b.HasValue q → q ≠ 0 →
    |⌊p / q⌋| ≤ 2 ^ 53 → ∃ r, a.floorDiv b = .ok r ∧ r.HasValue ⌊p / q⌋ := by
  intro h
  obtain ⟨r, hr, hvalue⟩ := h (.float (ofInt 1)) tenth 1 tenthValue (by decide +kernel)
    tenth_hasValue (by decide +kernel) (by decide +kernel)
  have hten : (Number.float (ofInt 1)).floorDiv tenth = .ok (.float (ofInt 10)) := by
    decide +kernel
  rw [hten] at hr
  cases hr
  revert hvalue
  decide +kernel

end Number

end TemplateScript
