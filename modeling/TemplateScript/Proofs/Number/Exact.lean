import TemplateScript.Number.Basic
import TemplateScript.Value.Equality

/-!
# Exact values of numbers

A number that is no NaN has an exact value: a fraction, or an infinity. Integers and floating-point
numbers are compared by these values, whatever they are spelled as. So equality is an equivalence on
the numbers that have one, and a floating-point number equals an integer exactly if that integer is
its value.
-/

namespace TemplateScript

inductive ExactValue where
  | fraction (q : Rat)
  | infinite (negative : Bool)
deriving DecidableEq

theorem scaleDown_den_pos {base num den : Nat} (hbase : 0 < base) (hden : 0 < den)
    (exponent : Int) : 0 < (scaleDown base num den exponent).2 := by
  rw [scaleDown]
  split
  · exact Nat.mul_pos hden (Nat.pow_pos hbase)
  · exact hden

theorem Binary64.fraction?_den_pos {x : Binary64} {num : Int} {den : Nat}
    (h : x.fraction? = some (num, den)) : 0 < den := by
  cases x with
  | finite negative m =>
      cases h
      exact scaleDown_den_pos Nat.two_pos Nat.one_pos _
  | infinite negative => cases h
  | nan negative mark => cases h

namespace Number

variable {m n : Number} {v : ExactValue}

/-- The exact value of a number that is no NaN. -/
def exactValue? : Number → Option ExactValue
  | .int n => some (.fraction n)
  | .float (.infinite negative) => some (.infinite negative)
  | .float x => x.fraction?.map fun (num, den) => .fraction (mkRat num den)

theorem exactValue?_of_fraction? {num : Int} {den : Nat} (h : n.fraction? = some (num, den)) :
    n.exactValue? = some (.fraction (mkRat num den)) ∧ 0 < den := by
  cases n with
  | int i =>
      cases h
      exact ⟨congrArg (fun q => some (ExactValue.fraction q)) (Rat.mkRat_one num).symm,
        Nat.one_pos⟩
  | float x =>
      refine ⟨?_, Binary64.fraction?_den_pos h⟩
      cases x with
      | finite negative m =>
          cases h
          rfl
      | infinite negative => cases h
      | nan negative mark => cases h

theorem isSome_exactValue? : n.exactValue?.isSome ↔ n.isNan = false := by
  cases n with
  | int i => simp [exactValue?, isNan]
  | float x => cases x <;> simp [exactValue?, isNan, Binary64.isNan, Binary64.fraction?]

/-- Two fractions are equal by cross multiplication. -/
theorem compare_fractions_eq {num num' : Int} {den den' : Nat} (hden : 0 < den) (hden' : 0 < den') :
    compare (num * den') (num' * den) = .eq ↔ mkRat num den = mkRat num' den' := by
  rw [Std.LawfulEqOrd.compare_eq_iff_eq,
    Rat.mkRat_eq_iff (Nat.pos_iff_ne_zero.mp hden) (Nat.pos_iff_ne_zero.mp hden')]

theorem beq_iff_of_fraction? {num num' : Int} {den den' : Nat} (h : m.fraction? = some (num, den))
    (h' : n.fraction? = some (num', den')) :
    m.beq n = true ↔ mkRat num den = mkRat num' den' := by
  have hcompare : m.compare? n = some (compare (num * den') (num' * den)) := by
    rw [compare?.eq_def, h, h']
  rw [← compare_fractions_eq (exactValue?_of_fraction? h).2 (exactValue?_of_fraction? h').2, beq,
    hcompare, beq_iff_eq, Option.some.injEq]

/-- Numbers with fractions are equal exactly if they have the same exact value. -/
theorem beq_iff_of_isSome (h : m.fraction?.isSome) (h' : n.fraction?.isSome) :
    m.beq n = true ↔ ∃ v, m.exactValue? = some v ∧ n.exactValue? = some v := by
  obtain ⟨f, hf⟩ := Option.isSome_iff_exists.mp h
  obtain ⟨f', hf'⟩ := Option.isSome_iff_exists.mp h'
  rw [beq_iff_of_fraction? hf hf', (exactValue?_of_fraction? hf).1,
    (exactValue?_of_fraction? hf').1]
  simp [eq_comm]

/-- A number equals an infinity exactly if it is that infinity. -/
theorem beq_infinite_iff {negative : Bool} :
    m.beq (.float (.infinite negative)) = true ↔ m = .float (.infinite negative) := by
  cases m with
  | int i => cases negative <;> simp [beq, compare?, fraction?, Binary64.fraction?]
  | float x =>
      cases x with
      | finite _ _ => cases negative <;> simp [beq, compare?, fraction?, Binary64.fraction?]
      | infinite negative' =>
          cases negative <;> cases negative' <;>
            simp [beq, compare?, fraction?, Binary64.fraction?]
      | nan _ _ => simp [beq, compare?, fraction?, Binary64.fraction?]

theorem infinite_beq_iff {negative : Bool} :
    (float (.infinite negative)).beq n = true ↔ n = .float (.infinite negative) := by
  cases n with
  | int i => cases negative <;> simp [beq, compare?, fraction?, Binary64.fraction?]
  | float x =>
      cases x with
      | finite _ _ => cases negative <;> simp [beq, compare?, fraction?, Binary64.fraction?]
      | infinite negative' =>
          cases negative <;> cases negative' <;>
            simp [beq, compare?, fraction?, Binary64.fraction?]
      | nan _ _ => simp [beq, compare?, fraction?, Binary64.fraction?]

theorem exactValue?_eq_infinite {negative : Bool} :
    n.exactValue? = some (.infinite negative) ↔ n = .float (.infinite negative) := by
  cases n with
  | int i => simp [exactValue?]
  | float x => cases x <;> simp [exactValue?, Binary64.fraction?]

/-- A NaN equals nothing. -/
theorem not_beq_of_isNan (h : m.isNan ∨ n.isNan) : m.beq n = false := by
  have hcompare : m.compare? n = none := by
    rcases m with i | (_ | _ | _) <;> rcases n with j | (_ | _ | _) <;>
      simp_all [compare?, isNan, Binary64.isNan, fraction?, Binary64.fraction?]
  rw [beq, hcompare]
  rfl

theorem fraction_or_infinite_or_nan (n : Number) :
    n.fraction?.isSome ∨ (∃ negative, n = .float (.infinite negative)) ∨ n.isNan := by
  cases n with
  | int i => exact .inl rfl
  | float x =>
      cases x with
      | finite _ _ => exact .inl rfl
      | infinite negative => exact .inr (.inl ⟨negative, rfl⟩)
      | nan _ _ => exact .inr (.inr rfl)

theorem exactValue?_eq_none : n.exactValue? = none ↔ n.isNan = true := by
  rw [← Option.not_isSome_iff_eq_none, isSome_exactValue?, Bool.not_eq_false]

/-- Numbers are equal exactly if they have the same exact value. -/
theorem beq_iff : m.beq n = true ↔ ∃ v, m.exactValue? = some v ∧ n.exactValue? = some v := by
  obtain hm | ⟨negative, rfl⟩ | hm := fraction_or_infinite_or_nan m
  · obtain hn | ⟨negative, rfl⟩ | hn := fraction_or_infinite_or_nan n
    · exact beq_iff_of_isSome hm hn
    · rw [beq_infinite_iff, ← exactValue?_eq_infinite]
      exact ⟨fun h => ⟨_, h, rfl⟩, fun ⟨_, h, hv⟩ => h.trans hv.symm⟩
    · simp [not_beq_of_isNan (.inr hn), exactValue?_eq_none.mpr hn]
  · rw [infinite_beq_iff, ← exactValue?_eq_infinite]
    exact ⟨fun h => ⟨_, rfl, h⟩, fun ⟨_, hv, h⟩ => h.trans hv.symm⟩
  · simp [not_beq_of_isNan (.inl hm), exactValue?_eq_none.mpr hm]

theorem exactValue?_of_toInt? {i : Int} (h : n.toInt? = some i) :
    n.exactValue? = some (.fraction i) := by
  cases n with
  | int j =>
      cases h
      rfl
  | float x =>
      rw [toInt?, Binary64.toInt?] at h
      cases hfraction : x.fraction? with
      | none =>
          rw [hfraction] at h
          cases h
      | some f =>
          obtain ⟨num, den⟩ := f
          obtain ⟨hexact, hden⟩ := exactValue?_of_fraction? (n := .float x) hfraction
          simp only [hfraction, Option.ite_none_right_eq_some, Option.some.injEq] at h
          obtain ⟨hdvd, rfl⟩ := h
          rw [hexact]
          have hne : den ≠ 0 := Nat.pos_iff_ne_zero.mp hden
          have hnum : num / den * den = num := Int.ediv_mul_cancel (Int.dvd_of_emod_eq_zero hdvd)
          rw [← Rat.mkRat_one, (Rat.mkRat_eq_iff hne Nat.one_ne_zero).mpr]
          rw [hnum, Int.natCast_one, Int.mul_one]

/-- Beside a number that has an exact value, being the same is being equal. -/
theorem isSame_iff {v : ExactValue} (h : m.exactValue? = some v) :
    m.isSame n = true ↔ n.exactValue? = some v := by
  have hbeq : m.beq n = true ↔ n.exactValue? = some v := by
    rw [beq_iff, h]
    simp
  unfold isSame
  rw [Bool.or_eq_true, hbeq]
  refine ⟨fun hsame => hsame.resolve_right ?_, .inl⟩
  rcases m with i | (⟨_, _⟩ | negative | ⟨_, _⟩)
  · simp
  · simp
  · simp
  · cases h

end Number

end TemplateScript
