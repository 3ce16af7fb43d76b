import BrowserControl.Proofs.Decimal.Comparison
import Mathlib.Tactic.Linarith
import Mathlib.Tactic.Ring

/-!
# Whole Numbers among the Binary64 Numbers

A positive whole number whose leading bit has weight `2 ^ L` is rounded at exponent `L - 52`, so that its
significand comes to lie between `2 ^ 52` and `2 ^ 53`.  Hence it has a binary64 number next to it exactly if
it is below `overflowThreshold`, which lies halfway between the largest finite number and the power of
two after it.  That binary64 number is positive, since its bit pattern is that of a finite number
other than zero.
-/

namespace BrowserControl.Decimal

/-- The least whole number that is as near to infinity as to any finite number. -/
def overflowThreshold : Nat := 2 ^ 1024 - 2 ^ 970

/-! ## Rounding -/

/-- A ratio is rounded below an even number exactly if it is below it by more than a half. -/
theorem roundQuotient_lt_iff_of_even {numerator denominator bound : Nat} (hpos : 0 < denominator)
    (heven : bound % 2 = 0) :
    roundQuotient numerator denominator < bound ↔
      2 * numerator + denominator < 2 * (bound * denominator) := by
  have hdivision := Nat.div_add_mod numerator denominator
  have hremainder := Nat.mod_lt numerator hpos
  unfold roundQuotient
  generalize numerator / denominator = floor at *
  generalize numerator % denominator = remainder at *
  subst numerator
  -- what matters is whether the quotient is far below the bound, next to it, or not below it
  rcases Nat.lt_trichotomy (floor + 1) bound with hfar | hnext | hover
  · have hscaled : denominator * (floor + 2) ≤ denominator * bound := Nat.mul_le_mul_left _ hfar
    refine iff_of_true (by grind) (by linarith)
  · subst bound
    have hodd : floor % 2 = 1 := by omega
    have hscaled : 2 * (denominator * floor + remainder) + denominator <
        2 * ((floor + 1) * denominator) ↔ 2 * remainder < denominator := by
      constructor <;> intro h <;> linarith
    rw [hscaled]
    grind
  · have hscaled : denominator * bound ≤ denominator * floor :=
      Nat.mul_le_mul_left _ (by omega)
    refine iff_of_false (by grind) (by linarith)

/-- Scaling by a power moves the positive part of the exponent into the numerator and the negative
part into the denominator. -/
theorem scaleRatio_sub (base up down numerator denominator : Nat) :
    scaleRatio base ((up : Int) - down) numerator denominator =
      (numerator * base ^ (up - down), denominator * base ^ (down - up)) := by
  unfold scaleRatio
  split
  · next power hpower =>
    rw [Int.ofNat_eq_natCast] at hpower
    obtain rfl : power = up - down := by omega
    have hdown : down - up = 0 := by omega
    simp [hdown]
  · next power hpower =>
    rw [Int.negSucc_eq] at hpower
    have hup : up - down = 0 := by omega
    have hdown : power + 1 = down - up := by omega
    simp [hup, hdown]

/-- The exponent of a whole number leaves 53 bits for the mantissa. -/
theorem ratioExponent_one {number : Nat} (hnumber : number ≠ 0) :
    ratioExponent number 1 = (number.log2 : Int) - 52 := by
  have hleading : 2 ^ number.log2 ≤ number := Nat.log2_self_le hnumber
  have hnegated : -((number.log2 : Int) - (Nat.log2 1 : Nat)) = (0 : Nat) - (number.log2 : Nat) := by
    rw [show Nat.log2 1 = 0 by decide]
    omega
  unfold ratioExponent
  simp only [hnegated, scaleRatio_sub]
  simp [hleading, leastExponent]
  omega

/-- The bit pattern nearest to a positive whole number is below one with the same exponent exactly if
the number is far enough below it. -/
theorem nearestPattern_one_lt_iff {number : Nat} (hnumber : number ≠ 0) (bound : Nat)
    (heven : bound % 2 = 0) :
    nearestPattern number 1 < (number.log2 + 1022) * leadingBit + bound ↔
      2 * (number * 2 ^ (52 - number.log2)) + 2 ^ (number.log2 - 52) <
        2 * (bound * 2 ^ (number.log2 - 52)) := by
  have hnegated : -((number.log2 : Int) - 52) = (52 : Nat) - (number.log2 : Nat) := by omega
  have hexponent : ((number.log2 : Int) - 52 - leastExponent).toNat = number.log2 + 1022 := by
    unfold leastExponent
    omega
  unfold nearestPattern
  simp only [ratioExponent_one hnumber, hnegated, scaleRatio_sub, Magnitude.pattern, hexponent,
    Nat.one_mul, Nat.add_lt_add_iff_left]
  exact roundQuotient_lt_iff_of_even (Nat.two_pow_pos _) heven

/-- A positive whole number is rounded at the exponent of its leading bit, or just beyond. -/
theorem nearestPattern_one_bounds {number : Nat} (hnumber : number ≠ 0) :
    (number.log2 + 1023) * leadingBit ≤ nearestPattern number 1 ∧
      nearestPattern number 1 < (number.log2 + 1024) * leadingBit + 2 := by
  have hleading : 2 ^ number.log2 ≤ number := Nat.log2_self_le hnumber
  have hbelow : number < 2 ^ (number.log2 + 1) := Nat.lt_log2_self
  have hunit : 0 < 2 ^ (number.log2 - 52) := Nat.two_pow_pos _
  have hscale : 2 ^ number.log2 * 2 ^ (52 - number.log2) = 2 ^ 52 * 2 ^ (number.log2 - 52) := by
    rw [← Nat.pow_add, ← Nat.pow_add]
    congr 1
    omega
  constructor
  · have hscaled := Nat.mul_le_mul_right (2 ^ (52 - number.log2)) hleading
    have hnot := (nearestPattern_one_lt_iff hnumber (2 ^ 52) (by decide)).not.2 (by omega)
    unfold leadingBit at *
    omega
  · have hscaled := Nat.mul_lt_mul_of_pos_right hbelow (Nat.two_pow_pos (52 - number.log2))
    rw [Nat.pow_succ'] at hscaled
    calc
      nearestPattern number 1 < (number.log2 + 1022) * leadingBit + (2 * leadingBit + 2) :=
        (nearestPattern_one_lt_iff hnumber _ (by decide)).2 (by unfold leadingBit; linarith)
      _ = (number.log2 + 1024) * leadingBit + 2 := by ring

theorem log2_lt_add_iff {number high low : Nat} (hnumber : number ≠ 0) :
    number.log2 < high + low ↔ number < 2 ^ high * 2 ^ low := by
  rw [← Nat.pow_add]
  exact Nat.log2_lt hnumber

/-- A positive whole number is rounded to a finite number exactly if it is below the threshold. -/
theorem nearestPattern_one_lt_infinityPattern_iff {number : Nat} (hnumber : number ≠ 0) :
    nearestPattern number 1 < infinityPattern ↔ number < overflowThreshold := by
  obtain ⟨hlower, hupper⟩ := nearestPattern_one_bounds hnumber
  have hthreshold : overflowThreshold = 2 ^ 54 * 2 ^ 970 - 2 ^ 970 := by
    rw [overflowThreshold, ← Nat.pow_add]
  rcases Nat.lt_trichotomy number.log2 1023 with hsmall | hlast | hlarge
  · have hbelow : number < 2 ^ 53 * 2 ^ 970 := (log2_lt_add_iff hnumber).1 hsmall
    refine iff_of_true ?_ ?_
    · calc
        nearestPattern number 1 < (number.log2 + 1024) * leadingBit + 2 := hupper
        _ ≤ 2046 * leadingBit + 2 :=
          Nat.add_le_add_right (Nat.mul_le_mul_right _ (by omega)) _
        _ ≤ infinityPattern := by decide
    · rw [hthreshold]
      generalize 2 ^ 970 = unit at *
      omega
  · -- only here does it matter which way the number is rounded
    have hiff := nearestPattern_one_lt_iff hnumber (2 ^ 53) (by decide)
    have hinfinity : (1023 + 1022) * leadingBit + 2 ^ 53 = infinityPattern := by decide
    have hunit : 2 ^ (1023 - 52) = 2 * 2 ^ 970 := by rw [← Nat.pow_succ']
    rw [hlast, hinfinity, hunit, Nat.sub_eq_zero_of_le (by decide), Nat.pow_zero] at hiff
    rw [hiff, hthreshold]
    generalize 2 ^ 970 = unit
    omega
  · have habove : ¬number < 2 ^ 54 * 2 ^ 970 :=
      (log2_lt_add_iff hnumber).not.1 (Nat.not_lt.2 hlarge)
    refine iff_of_false ?_ ?_
    · refine Nat.not_lt.2 (le_trans ?_ hlower)
      exact Nat.mul_le_mul_right _ (by omega)
    · rw [hthreshold]
      generalize 2 ^ 970 = unit at *
      omega

/-! ## Conversion -/

/-- A whole number is a float if its nearest pattern is finite. -/
theorem ofInt?_of_ne_zero {integer : Int} (hne : integer ≠ 0) :
    ofInt? integer =
      if nearestPattern integer.natAbs 1 < infinityPattern then
        some (ofPattern (integer < 0) (nearestPattern integer.natAbs 1))
      else none :=
  if_neg hne

/-- A whole number has a binary64 number next to it exactly if its size is below the threshold. -/
theorem exists_ofInt?_iff (integer : Int) :
    (∃ number, ofInt? integer = some number) ↔ integer.natAbs < overflowThreshold := by
  by_cases hzero : integer = 0
  · subst integer
    exact iff_of_true ⟨_, rfl⟩ (by decide +kernel)
  · rw [ofInt?_of_ne_zero hzero,
      ← nearestPattern_one_lt_infinityPattern_iff (Int.natAbs_ne_zero.2 hzero)]
    split
    · next hfinite => exact iff_of_true ⟨_, rfl⟩ hfinite
    · next hlarge => exact iff_of_false (by rintro ⟨number, ⟨⟩⟩) hlarge

/-- A positive whole number is converted to a number above zero. -/
theorem zero_lt_of_ofInt?_eq_some {integer : Int} {number : Float} (hpos : 0 < integer)
    (hnumber : ofInt? integer = some number) : 0 < number := by
  have hne : integer ≠ 0 := by omega
  rw [ofInt?_of_ne_zero hne, decide_eq_false (by omega)] at hnumber
  split at hnumber
  · next hfinite =>
    obtain rfl := Option.some.inj hnumber
    refine zero_lt_ofPattern (lt_of_lt_of_le ?_ (nearestPattern_one_bounds ?_).1) hfinite
    · exact Nat.mul_pos (Nat.succ_pos _) (by decide)
    · exact Int.natAbs_ne_zero.2 hne
  · contradiction

/-- A whole number that is not negative is converted to a number that is at least zero. -/
theorem zero_le_of_ofInt?_eq_some {integer : Int} {number : Float} (hnonneg : 0 ≤ integer)
    (hnumber : ofInt? integer = some number) : 0 ≤ number := by
  rcases hnonneg.eq_or_lt with rfl | hpos
  · obtain rfl := Option.some.inj hnumber
    decide +kernel
  · exact zero_le_of_zero_lt (zero_lt_of_ofInt?_eq_some hpos hnumber)

end BrowserControl.Decimal
