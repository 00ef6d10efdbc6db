import Mathlib.Algebra.Order.Field.Power
import Mathlib.Algebra.Order.Field.Rat
import Vignette.Proofs.Geometry.Radians

namespace Vignette.Binary64

/-! Floating point numbers as fractions. The layout of a number in bits and its sign, significand
and exponent say the same, if the significand has as many bits as there is room for. -/

open Float.Model (Format UnpackedFloat totalExponent)
open Float.Model.UnpackedFloat

def value : UnpackedFloat → ℚ
  | .finite sign mantissa exponent _ => (sign.apply mantissa : ℤ) * 2 ^ exponent
  | .zero _ | .infinity _ | .notANumber => 0

theorem value_finite (sign : Sign) {mantissa : Nat} (exponent : Int) (positive : 0 < mantissa) :
    value (.finite sign mantissa exponent positive) = (sign.apply mantissa : Int) * 2 ^ exponent :=
  rfl

theorem value_zero (sign : Sign) : value (.zero sign) = 0 := rfl

/-- A finite number as its layout in bits gives it: the significand has 53 bits, or fewer with the
least exponent. -/
def Canonical : UnpackedFloat → Prop
  | .finite _ mantissa exponent _ => mantissa < 2 ^ 53 ∧ -1074 ≤ exponent ∧ exponent ≤ 971 ∧
      (2 ^ 52 ≤ mantissa ∨ exponent = -1074)
  | .zero _ => True
  | .infinity _ | .notANumber => False

theorem toNat_unpackExponent (bits : BitVec Format.binary64.numBits) :
    (unpackExponent bits).toNat = bits.toNat / 2 ^ 52 % 2 ^ 11 := by
  rw [← Nat.shiftRight_eq_div_pow]
  exact BitVec.extractLsb'_toNat 52 11 bits

theorem toNat_unpackMantissa (bits : BitVec Format.binary64.numBits) :
    (unpackMantissa bits).toNat = bits.toNat % 2 ^ 52 :=
  BitVec.extractLsb'_toNat 0 52 bits

theorem ofBitVec_unpackSign (bits : BitVec Format.binary64.numBits) :
    Sign.ofBitVec (unpackSign bits) = if 2 ^ 63 ≤ bits.toNat then .negative else .positive := by
  have within : bits.toNat < 2 ^ 64 := bits.isLt
  have top : (unpackSign bits).toNat = bits.toNat / 2 ^ 63 % 2 ^ 1 := by
    rw [← Nat.shiftRight_eq_div_pow]
    exact BitVec.extractLsb'_toNat 63 1 bits
  rw [Sign.ofBitVec]
  by_cases negative : 2 ^ 63 ≤ bits.toNat
  · rw [if_pos negative, if_neg]
    intro zero
    rw [zero] at top
    have : (0#1).toNat = 0 := rfl
    omega
  · rw [if_neg negative, if_pos]
    apply BitVec.eq_of_toNat_eq
    have : (0#1).toNat = 0 := rfl
    omega

theorem toNat_implicit (mantissa : BitVec 52) :
    (1#1 ++ mantissa).toNat = 2 ^ 52 + mantissa.toNat := by
  rw [BitVec.toNat_append, ← Nat.shiftLeft_add_eq_or_of_lt mantissa.isLt]
  rfl

/-! ### The kinds of layouts -/

theorem finite_eq {sign sign' : Sign} {mantissa mantissa' : Nat} {exponent exponent' : Int}
    {positive : 0 < mantissa} {positive' : 0 < mantissa'} (signs : sign = sign')
    (mantissas : mantissa = mantissa') (exponents : exponent = exponent') :
    UnpackedFloat.finite sign mantissa exponent positive =
      .finite sign' mantissa' exponent' positive' := by
  subst signs mantissas exponents
  rfl

section Layouts

variable {bits : BitVec Format.binary64.numBits}

theorem not_finite_unpack (endless : unpackExponent bits = -1#_) :
    (unpack Format.binary64 bits).isFinite = false := by
  unfold unpack
  dsimp only
  rw [if_pos endless]
  by_cases empty : unpackMantissa bits = 0#_
  · rw [if_pos empty]
    rfl
  · rw [if_neg empty]
    rfl

theorem unpack_zero (lowest : unpackExponent bits = 0#_) (empty : unpackMantissa bits = 0#_) :
    unpack Format.binary64 bits = .zero (Sign.ofBitVec (unpackSign bits)) := by
  have finite : (0#11) ≠ -1#_ := by decide
  unfold unpack
  dsimp only
  rw [if_neg (lowest ▸ finite), if_pos lowest, dif_pos empty]

theorem unpack_subnormal (lowest : unpackExponent bits = 0#_)
    (nonempty : 0 < (unpackMantissa bits).toNat) :
    unpack Format.binary64 bits = .finite (Sign.ofBitVec (unpackSign bits))
      (unpackMantissa bits).toNat (-1074) nonempty := by
  have finite : (0#11) ≠ -1#_ := by decide
  have some : unpackMantissa bits ≠ 0#_ := by
    intro empty
    rw [empty] at nonempty
    exact Nat.lt_irrefl 0 nonempty
  have exponent : (unpackExponent bits).toNat = 0 := congrArg BitVec.toNat lowest
  have bias : (Format.binary64.exponentBias : Int) = 1023 := rfl
  have width : (Format.binary64.mantissaBitsWithoutImplicit : Int) = 52 := rfl
  unfold unpack
  dsimp only
  rw [if_neg (lowest ▸ finite), if_pos lowest, dif_neg some]
  exact finite_eq rfl rfl (by omega)

theorem unpack_normal (finite : unpackExponent bits ≠ -1#_) (normal : unpackExponent bits ≠ 0#_) :
    unpack Format.binary64 bits = .finite (Sign.ofBitVec (unpackSign bits))
      (2 ^ 52 + (unpackMantissa bits).toNat) ((unpackExponent bits).toNat - 1075)
      (Nat.add_pos_left (Nat.two_pow_pos 52) _) := by
  have bias : (Format.binary64.exponentBias : Int) = 1023 := rfl
  have width : (Format.binary64.mantissaBitsWithoutImplicit : Int) = 52 := rfl
  unfold unpack
  dsimp only
  rw [if_neg finite, if_neg normal]
  exact finite_eq rfl (toNat_implicit _) (by omega)

/-- What the layout in bits of a finite number can be. -/
theorem unpack_cases (finite : (unpack Format.binary64 bits).isFinite = true) :
    unpackExponent bits = 0#_ ∧ unpackMantissa bits = 0#_ ∨
      unpackExponent bits = 0#_ ∧ 0 < (unpackMantissa bits).toNat ∨
      unpackExponent bits ≠ -1#_ ∧ unpackExponent bits ≠ 0#_ := by
  have bounded : unpackExponent bits ≠ -1#_ := by
    intro endless
    rw [not_finite_unpack endless] at finite
    cases finite
  by_cases lowest : unpackExponent bits = 0#_
  · by_cases empty : unpackMantissa bits = 0#_
    · exact .inl ⟨lowest, empty⟩
    · refine .inr (.inl ⟨lowest, Nat.pos_of_ne_zero fun zero => empty ?_⟩)
      exact BitVec.eq_of_toNat_eq zero
  · exact .inr (.inr ⟨bounded, lowest⟩)

theorem canonical_unpack (finite : (unpack Format.binary64 bits).isFinite = true) :
    Canonical (unpack Format.binary64 bits) := by
  have mantissa : (unpackMantissa bits).toNat < 2 ^ 52 := (unpackMantissa bits).isLt
  have exponent : (unpackExponent bits).toNat < 2048 := (unpackExponent bits).isLt
  rcases unpack_cases finite with ⟨lowest, empty⟩ | ⟨lowest, nonempty⟩ | ⟨bounded, normal⟩
  · rw [unpack_zero lowest empty]
    trivial
  · rw [unpack_subnormal lowest nonempty]
    exact ⟨by omega, by decide, by decide, .inr rfl⟩
  · have below : (unpackExponent bits).toNat ≠ 2047 := fun top =>
      bounded (BitVec.eq_of_toNat_eq top)
    have above : (unpackExponent bits).toNat ≠ 0 := fun zero =>
      normal (BitVec.eq_of_toNat_eq zero)
    rw [unpack_normal bounded normal]
    exact ⟨by omega, by omega, by omega, .inl (by omega)⟩

end Layouts

/-! ### Packing and unpacking -/

theorem sign_packComponents (sign : Sign) (exponent : BitVec Format.binary64.exponentBits)
    (mantissa : BitVec Format.binary64.mantissaBitsWithoutImplicit) :
    Sign.ofBitVec (unpackSign (packComponents Format.binary64 sign exponent mantissa)) = sign := by
  have small : exponent.toNat < 2 ^ 11 := exponent.isLt
  have tiny : mantissa.toNat < 2 ^ 52 := mantissa.isLt
  have layout : (packComponents Format.binary64 sign exponent mantissa).toNat =
      (sign.toBitVec.toNat * 2 ^ 11 + exponent.toNat) * 2 ^ 52 + mantissa.toNat := by
    change (sign.toBitVec ++ exponent ++ mantissa).toNat = _
    rw [BitVec.toNat_append, BitVec.toNat_append, ← Nat.shiftLeft_add_eq_or_of_lt tiny,
      ← Nat.shiftLeft_add_eq_or_of_lt small, Nat.shiftLeft_eq, Nat.shiftLeft_eq]
  rw [ofBitVec_unpackSign, layout]
  cases sign with
  | positive =>
      have zero : Sign.positive.toBitVec.toNat = 0 := rfl
      rw [if_neg (by omega)]
  | negative =>
      have one : Sign.negative.toBitVec.toNat = 1 := rfl
      rw [if_pos (by omega)]

theorem unpack_packComponents_normal (sign : Sign) {biased mantissa : Nat} (above : 0 < biased)
    (below : biased < 2047) (fits : mantissa < 2 ^ 53) (full : 2 ^ 52 ≤ mantissa) :
    unpack Format.binary64 (packComponents Format.binary64 sign (BitVec.ofNat _ biased)
      (BitVec.ofNat _ mantissa)) =
        .finite sign mantissa (biased - 1075) (Nat.lt_of_lt_of_le (by decide) full) := by
  have layout : (BitVec.ofNat 11 biased).toNat = biased := by
    rw [BitVec.toNat_ofNat]
    exact Nat.mod_eq_of_lt (by omega)
  have apart {other : BitVec 11} (differs : biased ≠ other.toNat) :
      unpackExponent (packComponents Format.binary64 sign (BitVec.ofNat _ biased)
        (BitVec.ofNat _ mantissa)) ≠ other := by
    rw [unpackExponent_packComponents]
    intro same
    exact differs (layout.symm.trans (congrArg BitVec.toNat same))
  rw [unpack_normal (apart (Nat.ne_of_lt below)) (apart (Nat.ne_of_gt above))]
  refine finite_eq (sign_packComponents sign _ _) ?_ ?_
  · have rest : (BitVec.ofNat 52 mantissa).toNat = mantissa % 2 ^ 52 := BitVec.toNat_ofNat mantissa 52
    rw [unpackMantissa_packComponents]
    change 2 ^ 52 + (BitVec.ofNat 52 mantissa).toNat = mantissa
    omega
  · rw [unpackExponent_packComponents]
    change ((BitVec.ofNat 11 biased).toNat : Int) - 1075 = _
    rw [layout]

theorem unpack_packComponents_subnormal (sign : Sign) {mantissa : Nat} (positive : 0 < mantissa)
    (small : mantissa < 2 ^ 52) :
    unpack Format.binary64 (packComponents Format.binary64 sign 0#_ (BitVec.ofNat _ mantissa)) =
      .finite sign mantissa (-1074) positive := by
  have layout : (unpackMantissa (packComponents Format.binary64 sign 0#_
      (BitVec.ofNat _ mantissa))).toNat = mantissa := by
    rw [unpackMantissa_packComponents]
    exact (BitVec.toNat_ofNat mantissa 52).trans (Nat.mod_eq_of_lt small)
  rw [unpack_subnormal unpackExponent_packComponents (layout.symm ▸ positive)]
  exact finite_eq (sign_packComponents sign _ _) layout rfl

theorem pack_finite (sign : Sign) {mantissa : Nat} {exponent : Int} (positive : 0 < mantissa)
    (greatest : exponent ≤ 971) :
    pack Format.binary64 (.finite sign mantissa exponent positive) =
      if mantissa.log2 = 52 then
        packComponents Format.binary64 sign (BitVec.ofNat _ (exponent + 1075).toNat)
          (BitVec.ofNat _ mantissa)
      else packComponents Format.binary64 sign 0#_ (BitVec.ofNat _ mantissa) := by
  have bias : (Format.binary64.exponentBias : Int) = 1023 := rfl
  have width : (Format.binary64.mantissaBitsWithoutImplicit : Int) = 52 := rfl
  have count : 2 ^ Format.binary64.exponentBits = 2048 := rfl
  have room : Format.binary64.mantissaBits = 53 := rfl
  have biased : exponent + 1023 + 52 = exponent + 1075 := by omega
  unfold pack
  rw [bias, width, count, room, biased]
  dsimp only
  rw [if_neg (by omega)]
  by_cases full : mantissa.log2 = 52
  · rw [if_pos full, if_pos (by omega)]
  · rw [if_neg full, if_neg (by omega)]

theorem unpack_pack {number : UnpackedFloat} (canonical : Canonical number) :
    unpack Format.binary64 (pack Format.binary64 number) = number := by
  cases number with
  | infinity | notANumber => exact canonical.elim
  | zero sign => cases sign <;> rfl
  | finite sign mantissa exponent positive =>
      obtain ⟨fits, least, greatest, full⟩ := canonical
      have nonzero : mantissa ≠ 0 := Nat.ne_of_gt positive
      rw [pack_finite sign positive greatest]
      by_cases large : 2 ^ 52 ≤ mantissa
      · rw [if_pos ((Nat.log2_eq_iff nonzero).mpr ⟨large, fits⟩),
          unpack_packComponents_normal sign (by omega) (by omega) fits large]
        exact finite_eq rfl rfl (by omega)
      · have log : mantissa.log2 < 52 := (Nat.log2_lt nonzero).mpr (by omega)
        obtain rfl := full.resolve_left large
        rw [if_neg (Nat.ne_of_lt log)]
        exact unpack_packComponents_subnormal sign positive (by omega)

end Vignette.Binary64
