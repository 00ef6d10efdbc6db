import Mathlib.Algebra.Group.Nat.Defs
import Vignette.Scalar

namespace Vignette.Binary64

/-! An angle that is a finite number of degrees is a finite number of radians. A degree is less than
one radian, so that the product stays below the greatest number also after rounding. -/

open Float.Model (Format UnpackedFloat totalExponent)
open Float.Model.UnpackedFloat

/-- A number whose significand fits into 53 bits, with a bound on its exponent. -/
def IsBounded (bound : Int) : UnpackedFloat → Prop
  | .finite _ mantissa exponent _ => mantissa < 2 ^ 53 ∧ exponent ≤ bound
  | .zero _ => True
  | .infinity _ | .notANumber => False

theorem isBounded_unpack {bits : BitVec Format.binary64.numBits}
    (finite : (unpack Format.binary64 bits).isFinite = true) :
    IsBounded 971 (unpack Format.binary64 bits) := by
  have mantissa : (unpackMantissa bits).toNat < 2 ^ 52 := (unpackMantissa bits).isLt
  have exponent : (unpackExponent bits).toNat < 2048 := (unpackExponent bits).isLt
  have bias : (Format.binary64.exponentBias : Int) = 1023 := rfl
  unfold unpack at finite ⊢
  dsimp only at finite ⊢
  by_cases infinite : unpackExponent bits = -1#_
  · rw [if_pos infinite] at finite
    split at finite <;> cases finite
  · have below : (unpackExponent bits).toNat ≠ 2047 := by
      intro same
      exact infinite (BitVec.eq_of_toNat_eq same)
    rw [if_neg infinite]
    by_cases subnormal : unpackExponent bits = 0#_
    · rw [if_pos subnormal]
      by_cases empty : unpackMantissa bits = 0#_
      · rw [dif_pos empty]
        trivial
      · rw [dif_neg empty]
        refine ⟨by omega, ?_⟩
        rw [subnormal, bias]
        decide
    · rw [if_neg subnormal]
      refine ⟨(1#1 ++ unpackMantissa bits).isLt, ?_⟩
      have width : (Format.binary64.mantissaBitsWithoutImplicit : Int) = 52 := rfl
      rw [bias, width]
      omega

theorem mantissa_shiftRight (extended : ExtendedMantissa) (count : Nat) :
    (extended >>> count).mantissa = extended.mantissa / 2 ^ count := by
  change (Nat.repeat ExtendedMantissa.shiftRightOne count extended).mantissa = _
  induction count with
  | zero => simp [Nat.repeat]
  | succ count ih =>
      rw [Nat.repeat, ExtendedMantissa.shiftRightOne, ih, Nat.div_div_eq_div_mul, Nat.pow_succ]

theorem mantissa_ofMantissaAndAccuracy (mantissa : Nat) (accuracy : Accuracy) :
    (ExtendedMantissa.ofMantissaAndAccuracy mantissa accuracy).mantissa = mantissa := by
  cases accuracy with
  | exact => rfl
  | inexact side => cases side <;> rfl

theorem roundedMantissa_le (extended : ExtendedMantissa) :
    extended.roundedMantissa ≤ extended.mantissa + 1 := by
  obtain ⟨mantissa, roundBit, stickyBit⟩ := extended
  cases roundBit <;> cases stickyBit <;>
    simp only [ExtendedMantissa.roundedMantissa, ExtendedMantissa.accuracy,
      Accuracy.roundToNearestEven] <;> omega

/-- Shifting leaves no more than 53 bits, and an exponent that is the given one, the least one, or
as great as the size of the number demands. -/
theorem shiftToTargetExponent_bounds (mantissa : Nat) (exponent : Int) (accuracy : Accuracy) :
    let shifted := shiftToTargetExponent Format.binary64 mantissa exponent accuracy
    shifted.1.mantissa < 2 ^ 53 ∧
      shifted.2 = max exponent (max (totalExponent mantissa exponent - 53) (-1074)) := by
  have target : Format.binary64.targetExponent (totalExponent mantissa exponent) =
      max (totalExponent mantissa exponent - 53) (-1074) := rfl
  simp only [shiftToTargetExponent, shiftToExponent, target, mantissa_shiftRight,
    mantissa_ofMantissaAndAccuracy]
  refine ⟨?_, by omega⟩
  generalize amount : (max (totalExponent mantissa exponent - 53) (-1074) - exponent).toNat = count
  have size : mantissa.log2 + 1 ≤ 53 + count := by
    rw [totalExponent] at amount
    omega
  rw [Nat.div_lt_iff_lt_mul (Nat.two_pow_pos count), ← Nat.pow_add]
  exact Nat.lt_of_lt_of_le Nat.lt_log2_self (Nat.pow_le_pow_right (by decide) size)

theorem log2_le {n bits : Nat} (bound : n ≤ 2 ^ bits) : n.log2 ≤ bits := by
  cases n with
  | zero => simp
  | succ n =>
      have power := Nat.log2_self_le (Nat.succ_ne_zero n)
      exact (Nat.pow_le_pow_iff_right Nat.one_lt_two).mp (Nat.le_trans power bound)

theorem isBounded_roundWithAccuracy {mantissa : Nat} {exponent bound : Int} (sign : Sign)
    (least : -1074 ≤ bound) (below : exponent ≤ bound)
    (size : totalExponent mantissa exponent - 53 ≤ bound) :
    IsBounded (bound + 1)
      (roundWithAccuracy Format.binary64 sign mantissa exponent .exact) := by
  obtain ⟨fits, shifted⟩ := shiftToTargetExponent_bounds mantissa exponent .exact
  unfold roundWithAccuracy
  generalize shiftToTargetExponent Format.binary64 mantissa exponent .exact = first
    at fits shifted ⊢
  obtain ⟨extended, middle⟩ := first
  dsimp only at fits shifted ⊢
  have rounded : extended.roundedMantissa.log2 ≤ 53 := by
    have near := roundedMantissa_le extended
    exact log2_le (by omega)
  -- Rounding up may give one more bit, which a second shift takes away again.
  obtain ⟨fitsAgain, shiftedAgain⟩ := shiftToTargetExponent_bounds extended.roundedMantissa middle
    .exact
  generalize shiftToTargetExponent Format.binary64 extended.roundedMantissa middle .exact = second
    at fitsAgain shiftedAgain ⊢
  obtain ⟨again, last⟩ := second
  by_cases empty : again.mantissa = 0
  · rw [dif_pos empty]
    trivial
  · rw [dif_neg empty]
    refine ⟨fitsAgain, ?_⟩
    rw [shiftedAgain, totalExponent]
    omega

/-- A product has at most as many bits as its factors together. -/
theorem isBounded_mul {first second : UnpackedFloat} {bound scale : Int}
    (left : IsBounded bound first) (right : IsBounded scale second)
    (least : -1128 ≤ bound + scale) :
    IsBounded (bound + scale + 55) (mul Format.binary64 first second) := by
  cases first with
  | infinity | notANumber => exact left.elim
  | zero =>
      cases second with
      | infinity | notANumber => exact right.elim
      | zero | finite => trivial
  | finite sign mantissa exponent =>
      cases second with
      | infinity | notANumber => exact right.elim
      | zero => trivial
      | finite sign' mantissa' exponent' =>
          obtain ⟨fits, below⟩ := left
          obtain ⟨fits', below'⟩ := right
          have product : mantissa * mantissa' ≤ 2 ^ 106 := by
            rw [show 2 ^ 106 = 2 ^ 53 * 2 ^ 53 from rfl]
            exact Nat.mul_le_mul (Nat.le_of_lt fits) (Nat.le_of_lt fits')
          have size := log2_le product
          have whole : bound + scale + 55 = bound + scale + 54 + 1 := by omega
          rw [whole]
          refine isBounded_roundWithAccuracy (sign * sign') (by omega) (by omega) ?_
          rw [totalExponent]
          omega

theorem isFinite_packComponents (sign : Sign) {exponent : BitVec Format.binary64.exponentBits}
    (finite : exponent ≠ -1#_)
    (mantissa : BitVec Format.binary64.mantissaBitsWithoutImplicit) :
    (unpack Format.binary64 (packComponents Format.binary64 sign exponent mantissa)).isFinite =
      true := by
  unfold unpack
  rw [unpackExponent_packComponents, if_neg finite]
  by_cases subnormal : exponent = 0#_
  · rw [if_pos subnormal]
    by_cases empty : unpackMantissa (packComponents Format.binary64 sign exponent mantissa) = 0#_
    · rw [dif_pos empty]
      rfl
    · rw [dif_neg empty]
      rfl
  · rw [if_neg subnormal]
    rfl

theorem isFinite_pack {number : UnpackedFloat} {bound : Int} (bounded : IsBounded bound number)
    (small : bound ≤ 971) :
    (unpack Format.binary64 (pack Format.binary64 number)).isFinite = true := by
  cases number with
  | infinity | notANumber => exact bounded.elim
  | zero sign => exact isFinite_packComponents sign (by decide) 0
  | finite sign mantissa exponent =>
      obtain ⟨_, below⟩ := bounded
      have bias : (Format.binary64.exponentBias : Int) = 1023 := rfl
      have width : (Format.binary64.mantissaBitsWithoutImplicit : Int) = 52 := rfl
      have count : 2 ^ Format.binary64.exponentBits = 2048 := rfl
      unfold pack
      rw [bias, width, count]
      dsimp only
      generalize biased : (exponent + 1023 + 52).toNat = layout
      rw [if_neg (by omega)]
      split
      case isTrue normal =>
          refine isFinite_packComponents sign ?_ _
          intro same
          have value : layout % 2048 = 2047 := congrArg BitVec.toNat same
          omega
      case isFalse => exact isFinite_packComponents sign (by decide) _

/-- The number of radians in a degree, as it is calculated. -/
theorem isBounded_degree :
    IsBounded (-58) (Scalar.pi / Scalar.ofInt 180 : Float).toModel.unpack := by
  have value : (Scalar.pi / Scalar.ofInt 180 : Float).toModel.unpack =
      .finite .positive 5030569068109113 (-58) (by decide) := by rfl
  rw [value]
  exact ⟨by decide, by decide⟩

theorem isFinite_radians {angle : Float} (finite : angle.isFinite = true) :
    (Scalar.radians angle).isFinite = true :=
  isFinite_pack (isBounded_mul (isBounded_unpack finite) isBounded_degree (by decide)) (by decide)

end Vignette.Binary64
