import Vignette.Proofs.Binary64.Arithmetic

namespace Vignette.Binary64

/-! Quotients of floating point numbers, as fractions. The significand of the dividend is first
shifted so far to the left that the whole quotient has all the bits there is room for. What is cut
off behind it counts less than its last bit, so that a quotient is as near as a product. -/

open Float.Model (Format UnpackedFloat totalExponent)
open Float.Model.UnpackedFloat

theorem apply_div (sign sign' : Sign) :
    ((sign / sign').apply 1 : ℚ) = sign.apply 1 / sign'.apply 1 := by
  have whole : (sign / sign').apply 1 * sign'.apply 1 = sign.apply 1 := by
    cases sign <;> cases sign' <;> rfl
  rw [eq_div_iff (by cases sign' <;> simp [Sign.apply])]
  exact_mod_cast whole

/-- The exponent of a quotient before it is rounded. -/
def quotientExponent (mantissa mantissa' : Nat) (exponent exponent' : Int) : Int :=
  min (exponent - exponent')
    (max (totalExponent mantissa exponent - totalExponent mantissa' exponent' - 53) (-1074))

theorem cutOff_quotient (dividend : Nat) {divisor : Nat} (positive : 0 < divisor) :
    CutOff (dividend / divisor) ((dividend : ℚ) / divisor) := by
  have size : (0 : ℚ) < divisor := by exact_mod_cast positive
  constructor
  · rw [le_div_iff₀ size]
    exact_mod_cast Nat.div_mul_le_self dividend divisor
  · rw [div_le_iff₀ size]
    have next := Nat.le_of_lt (Nat.lt_mul_div_succ dividend positive)
    rw [Nat.mul_comm] at next
    exact_mod_cast next

/-- Shifted so far, a quotient has at least 53 bits, or as many as there is room for. -/
theorem quotient_high {mantissa mantissa' : Nat} {exponent exponent' : Int} {count : Nat}
    (positive : 0 < mantissa) (positive' : 0 < mantissa')
    (amount : (count : Int) =
      exponent - exponent' - quotientExponent mantissa mantissa' exponent exponent') :
    52 ≤ ((mantissa <<< count) / mantissa').log2 ∨
      quotientExponent mantissa mantissa' exponent exponent' ≤ -1074 := by
  by_cases lowest : quotientExponent mantissa mantissa' exponent exponent' ≤ -1074
  · exact .inr lowest
  · refine .inl ?_
    have enough : 53 + mantissa'.log2 ≤ mantissa.log2 + count := by
      simp only [quotientExponent, totalExponent] at lowest amount
      omega
    have large : 2 ^ 52 * mantissa' ≤ mantissa <<< count := by
      have size := Nat.log2_self_le (Nat.ne_of_gt positive)
      have size' := Nat.le_of_lt (@Nat.lt_log2_self mantissa')
      calc 2 ^ 52 * mantissa'
          ≤ 2 ^ 52 * 2 ^ (mantissa'.log2 + 1) := Nat.mul_le_mul_left _ size'
        _ = 2 ^ (53 + mantissa'.log2) := by rw [← Nat.pow_add]; congr 1; omega
        _ ≤ 2 ^ (mantissa.log2 + count) := Nat.pow_le_pow_right (by decide) enough
        _ = 2 ^ mantissa.log2 * 2 ^ count := Nat.pow_add ..
        _ ≤ mantissa * 2 ^ count := Nat.mul_le_mul_right _ size
        _ = mantissa <<< count := (Nat.shiftLeft_eq ..).symm
    have bits : 2 ^ 52 ≤ (mantissa <<< count) / mantissa' :=
      (Nat.le_div_iff_mul_le positive').mpr large
    exact (Nat.le_log2 (Nat.ne_of_gt ((Nat.two_pow_pos 52).trans_le bits))).mpr bits

variable {first second : UnpackedFloat} {bound : Int}

theorem div_near (left : Canonical first) (right : Canonical second) (nonzero : value second ≠ 0)
    (least : -1022 ≤ bound) (greatest : bound ≤ 1022)
    (below : |value first / value second| ≤ 2 ^ bound) :
    Canonical (div Format.binary64 first second) ∧
      |value (div Format.binary64 first second) - value first / value second| ≤
        2 ^ (bound - 52) := by
  cases second with
  | infinity | notANumber => exact right.elim
  | zero => exact absurd rfl nonzero
  | finite sign' mantissa' exponent' positive' =>
      cases first with
      | infinity | notANumber => exact left.elim
      | zero sign => exact ⟨trivial, near_of_eq (zero_div _).symm⟩
      | finite sign mantissa exponent positive =>
          obtain ⟨count, amount⟩ := Int.eq_ofNat_of_zero_le
            (show 0 ≤ exponent - exponent' -
                quotientExponent mantissa mantissa' exponent exponent' by
              rw [quotientExponent]; omega)
          have shifted : (exponent - exponent' -
              quotientExponent mantissa mantissa' exponent exponent').toNat = count := by omega
          have last : quotientExponent mantissa mantissa' exponent exponent' =
              exponent - exponent' - count := by omega
          have quotient : value (.finite sign mantissa exponent positive) /
              value (.finite sign' mantissa' exponent' positive') =
              (sign / sign').apply 1 * (((mantissa <<< count : Nat) : ℚ) / mantissa' *
                2 ^ quotientExponent mantissa mantissa' exponent exponent') := by
            have moved : ((mantissa <<< count : Nat) : ℚ) / mantissa' *
                2 ^ quotientExponent mantissa mantissa' exponent exponent' =
                mantissa * 2 ^ (exponent - exponent') / mantissa' := by
              rw [last, div_mul_eq_mul_div, shiftLeft_value]
            rw [value_of_pos, value_of_pos, moved, apply_div, zpow_sub₀ (by norm_num)]
            ring
          rw [quotient] at below ⊢
          rw [abs_apply] at below
          have near := roundWithAccuracy_near (sign / sign')
            (accuracyOfFraction ((mantissa <<< count) % mantissa') mantissa')
            (cutOff_quotient (mantissa <<< count) positive')
            (quotient_high positive positive' amount.symm) least greatest
            ((le_abs_self _).trans below)
          rw [← shifted] at near ⊢
          exact near

end Vignette.Binary64
