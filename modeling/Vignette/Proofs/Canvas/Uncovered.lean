import Mathlib.Algebra.Order.Field.Basic
import Vignette.Proofs.Canvas.Opacity

namespace Vignette

/-! Pixels that a shape does not cover. Painting works out every pixel within the bounds of a shape
again. One that is not covered gets its own bytes back: what is multiplied is divided again, and
rounding errors are far too small to reach another byte. Only a pixel that cannot be seen but still
has a color loses the color, because there is nothing to divide by. -/

open Binary64
open Scalar (ofInt)

/-- Whether the numbers of a color are numbers to calculate with: none is beyond all of them. -/
def Color.IsFinite (color : Color) : Prop :=
  ∀ n ∈ [color.red, color.green, color.blue, color.opacity],
    Scalar.isFinite (ofInt n : Float) = true

theorem isFinite_of_represents {x : Float} {v : ℚ} (given : Represents x v) :
    Scalar.isFinite x = true :=
  isFinite_of_canonical given.1

theorem opacity_bounds : ∀ transparency : Fin 128,
    0 ≤ Color.opacity ⟨0, 0, 0, transparency⟩ ∧ Color.opacity ⟨0, 0, 0, transparency⟩ ≤ 255 := by
  decide

theorem Color.InRange.isByte {color : Color} (inRange : color.InRange) :
    ∀ n ∈ [color.red, color.green, color.blue, color.opacity], 0 ≤ n ∧ n ≤ 255 := by
  obtain ⟨transparency, same⟩ := inRange.opacity_eq
  obtain ⟨red, green, blue, _⟩ := inRange
  simp only [List.forall_mem_cons, List.not_mem_nil, false_imp_iff, implies_true, and_true]
  exact ⟨red, green, blue, same ▸ opacity_bounds transparency⟩

theorem Color.InRange.isFinite {color : Color} (inRange : color.InRange) : color.IsFinite := by
  intro number member
  obtain ⟨least, greatest⟩ := inRange.isByte number member
  obtain ⟨n, rfl⟩ := Int.eq_ofNat_of_zero_le least
  obtain ⟨_, given, _⟩ := represents_ofInt (n := n) (by omega)
  exact isFinite_of_represents given

/-! ### Blending -/

theorem represents_ofByte (byte : UInt8) :
    ∃ q, Represents (Pixel.ofByte byte) q ∧ |q - byte.toNat| ≤ 1 / 1000000000000 :=
  represents_ofInt byte.toNat_lt

theorem byte_bounds (byte : UInt8) : (0 : ℚ) ≤ byte.toNat ∧ (byte.toNat : ℚ) ≤ 255 :=
  ⟨Nat.cast_nonneg _, by exact_mod_cast Nat.le_of_lt_succ byte.toNat_lt⟩

theorem represents_opacity (byte : UInt8) :
    ∃ w, Represents (Pixel.ofByte byte / ofInt 255) w ∧
      |w - byte.toNat / 255| ≤ 1 / 1000000000000 := by
  obtain ⟨least, greatest⟩ := byte_bounds byte
  obtain ⟨q, given, near⟩ := represents_ofByte byte
  obtain ⟨lower, upper⟩ := abs_le.mp near
  obtain ⟨w, divided, near⟩ := given.div_small represents_255 (by norm_num) (by linarith)
    (by linarith)
  obtain ⟨lower', upper'⟩ := abs_le.mp near
  exact ⟨w, divided, abs_le.mpr ⟨by linarith, by linarith⟩⟩

theorem abs_value_le {number : Float.Model.UnpackedFloat} (canonical : Canonical number) :
    |value number| ≤ 2 ^ (1024 : Int) := by
  cases number with
  | infinity | notANumber => exact canonical.elim
  | zero => rw [value_zero, abs_zero]; exact zpow_nonneg (by norm_num) _
  | finite sign mantissa exponent positive =>
      obtain ⟨fits, _, greatest, _⟩ := canonical
      have small : (mantissa : ℚ) ≤ 2 ^ (53 : Int) := by exact_mod_cast Nat.le_of_lt fits
      have power : (2 : ℚ) ^ exponent ≤ 2 ^ (971 : Int) :=
        zpow_le_zpow_right₀ (by norm_num) greatest
      have unit : (0 : ℚ) ≤ 2 ^ exponent := zpow_nonneg (by norm_num) _
      rw [value_of_pos, abs_apply, abs_of_nonneg (mul_nonneg (Nat.cast_nonneg _) unit)]
      calc (mantissa : ℚ) * 2 ^ exponent
          ≤ 2 ^ (53 : Int) * 2 ^ (971 : Int) := mul_le_mul small power unit (by positivity)
        _ = 2 ^ (1024 : Int) := by rw [← zpow_add₀ (by norm_num)]; norm_num

/-- What is not covered gets no opacity from a color, whatever the color. -/
theorem represents_uncovered {coverage : Float} {color : Color} (finite : color.IsFinite)
    (uncovered : Represents coverage 0) :
    Represents (coverage * (ofInt color.opacity / ofInt 255)) 0 := by
  have whole := represents_of_isFinite (finite color.opacity (by simp))
  -- Not even the greatest opacity is beyond all numbers when it is divided.
  have below : |value (ofInt color.opacity : Float).toModel.unpack / 255| ≤ 2 ^ (1022 : Int) := by
    have size := abs_value_le whole.1
    have split : (2 : ℚ) ^ (1024 : Int) = 2 ^ (1022 : Int) * 4 := by
      rw [show (4 : ℚ) = 2 ^ (2 : Int) by norm_num, ← zpow_add₀ (by norm_num)]
      norm_num
    rw [abs_div, abs_of_pos (by norm_num : (0 : ℚ) < 255), div_le_iff₀ (by norm_num)]
    exact (size.trans_eq split).trans
      (mul_le_mul_of_nonneg_left (by norm_num) (zpow_nonneg (by norm_num) _))
  obtain ⟨_, divided, _⟩ := whole.div represents_255 (by norm_num) 1022 (by decide) le_rfl below
  exact uncovered.zero_mul divided

section Mixing

variable {opacity old : Float} {w : ℚ}

theorem represents_rest (nothing : Represents opacity 0) : Represents (ofInt 1 - opacity) 1 := by
  rw [ofInt_one]
  exact represents_one.sub_zero nothing

theorem divided_near {b c p r k : ℚ} (least : 0 ≤ b) (greatest : b ≤ 255) (w_least : 1 / 256 ≤ w)
    (w_greatest : w ≤ 2) (c_near : |c - b| ≤ 1 / 1000000000000)
    (p_near : |p - c * w| ≤ 1 / 1000000000000) (r_near : |r - p| ≤ 1 / 1000000000000)
    (k_near : |k - w| ≤ 1 / 1000000000000) : 0 < k ∧ |r / k - b| ≤ 1 / 1000 := by
  have parts : r - b * k = (r - p) + (p - c * w) + (c - b) * w - b * (k - w) := by ring
  have scaled : |(c - b) * w| ≤ 1 / 1000000000000 * 2 := by
    rw [abs_mul, abs_of_nonneg (by linarith : 0 ≤ w)]
    exact mul_le_mul c_near w_greatest (by linarith) (by norm_num)
  have scaled' : |b * (k - w)| ≤ 255 * (1 / 1000000000000) := by
    rw [abs_mul, abs_of_nonneg least]
    exact mul_le_mul greatest k_near (abs_nonneg _) (by norm_num)
  obtain ⟨k_lower, _⟩ := abs_le.mp k_near
  obtain ⟨p_lower, p_upper⟩ := abs_le.mp p_near
  obtain ⟨r_lower, r_upper⟩ := abs_le.mp r_near
  obtain ⟨lower, upper⟩ := abs_le.mp scaled
  obtain ⟨lower', upper'⟩ := abs_le.mp scaled'
  have positive : 0 < k := by linarith
  refine ⟨positive, ?_⟩
  rw [div_sub' positive.ne', mul_comm k, abs_div, abs_of_pos positive, div_le_iff₀ positive, parts,
    abs_le]
  constructor <;> linarith

/-- A pixel that can be seen keeps its opacity where nothing is laid over it. -/
theorem mixedOpacity_uncovered (nothing : Represents opacity 0) (given : Represents old w)
    (least : 0 ≤ w) (greatest : w ≤ 2) :
    ∃ k, Represents (Pixel.mixedOpacity opacity old) k ∧ |k - w| ≤ 1 / 1000000000000 := by
  obtain ⟨k, kept, near⟩ := given.mul_small (represents_rest nothing) (by linarith) (by linarith)
  rw [mul_one] at near
  exact ⟨k, nothing.zero_add kept, near.trans (by norm_num)⟩

theorem mixedChannel_uncovered {new : Int} (finite : Scalar.isFinite (ofInt new : Float) = true)
    (nothing : Represents opacity 0) (given : Represents old w) (least : 1 / 256 ≤ w)
    (greatest : w ≤ 1001 / 1000) (byte : UInt8) :
    ∃ v, Represents (Pixel.mixedChannel opacity old new byte) v ∧ |v - byte.toNat| ≤ 1 / 4 := by
  obtain ⟨b_least, b_greatest⟩ := byte_bounds byte
  obtain ⟨k, mixed, k_near⟩ := mixedOpacity_uncovered nothing given (by linarith) (by linarith)
  -- The channel is multiplied by the old opacity and divided by the mixed one, which is the same.
  obtain ⟨c, channel, c_near⟩ := represents_ofByte byte
  obtain ⟨c_lower, c_upper⟩ := abs_le.mp c_near
  obtain ⟨p, product, p_near⟩ := channel.mul_small given (by nlinarith) (by nlinarith)
  obtain ⟨p_lower, p_upper⟩ := abs_le.mp p_near
  obtain ⟨r, contribution, r_near⟩ := product.mul_small (represents_rest nothing)
    (by nlinarith) (by nlinarith)
  rw [mul_one] at r_near
  obtain ⟨positive, near⟩ := divided_near b_least b_greatest least (by linarith) c_near
    (p_near.trans (by norm_num)) (r_near.trans (by norm_num)) k_near
  have divisor : Scalar.lt (ofInt 0) (Pixel.mixedOpacity opacity old) = true := by
    rw [ofInt_zero]
    exact decide_eq_true ((represents_zero.lt_iff mixed).mpr positive)
  have added := ((represents_of_isFinite finite).mul_zero nothing).zero_add contribution
  obtain ⟨lower, upper⟩ := abs_le.mp near
  obtain ⟨v, quotient, v_near⟩ := added.div_small mixed positive.ne' (by linarith) (by linarith)
  obtain ⟨v_lower, v_upper⟩ := abs_le.mp v_near
  refine ⟨v, ?_, abs_le.mpr ⟨by linarith, by linarith⟩⟩
  rw [Pixel.mixedChannel, if_pos divisor]
  exact quotient

/-- Where neither the color nor the old pixel can be seen, nothing is left to divide by. -/
theorem mixedChannel_unseen {new : Int} (finite : Scalar.isFinite (ofInt new : Float) = true)
    (nothing : Represents opacity 0) (unseen : Represents old 0) (byte : UInt8) :
    Represents (Pixel.mixedChannel opacity old new byte) 0 := by
  have rest := represents_rest nothing
  have mixed : Represents (Pixel.mixedOpacity opacity old) 0 :=
    nothing.zero_add (unseen.zero_mul rest)
  have divisor : ¬ Scalar.lt (ofInt 0) (Pixel.mixedOpacity opacity old) = true := by
    rw [ofInt_zero]
    exact fun less => lt_irrefl _ ((represents_zero.lt_iff mixed).mp (of_decide_eq_true less))
  obtain ⟨_, channel, _⟩ := represents_ofByte byte
  have added := ((represents_of_isFinite finite).mul_zero nothing).zero_add
    ((channel.mul_zero unseen).zero_mul rest)
  rw [Pixel.mixedChannel, if_neg divisor, ofInt_one]
  exact added.zero_div represents_one one_ne_zero

end Mixing

namespace Pixel

/-- What becomes of a pixel that is not covered, where colors are laid over it: one that cannot be
seen loses its color. -/
def washed (pixel : Pixel) : Pixel := if pixel.alpha = 0 then ⟨0, 0, 0, 0⟩ else pixel

theorem blend_uncovered {color : Color} {coverage : Float} {pixel : Pixel}
    (finite : color.IsFinite) (uncovered : Represents coverage 0) :
    blend color coverage pixel = pixel.washed := by
  have nothing := represents_uncovered finite uncovered
  have red := finite color.red (by simp)
  have green := finite color.green (by simp)
  have blue := finite color.blue (by simp)
  by_cases transparent : pixel.alpha = 0
  · have whole : (ofByte 0 / ofInt 255 : Float) = 0 := by rfl
    have unseen : Represents (ofByte pixel.alpha / ofInt 255) 0 := by
      rw [transparent, whole]
      exact represents_zero
    have none {x : Float} (given : Represents x 0) : toByte x = 0 := toByte_near given (by simp)
    have alpha : Represents (mixedOpacity (coverage * (ofInt color.opacity / ofInt 255))
        (ofByte pixel.alpha / ofInt 255) * ofInt 255) 0 :=
      (nothing.zero_add (unseen.zero_mul (represents_rest nothing))).zero_mul represents_255
    simp only [blend, washed, if_pos transparent,
      none (mixedChannel_unseen red nothing unseen pixel.red),
      none (mixedChannel_unseen green nothing unseen pixel.green),
      none (mixedChannel_unseen blue nothing unseen pixel.blue), none alpha]
  · obtain ⟨w, given, near⟩ := represents_opacity pixel.alpha
    obtain ⟨lower, upper⟩ := abs_le.mp near
    obtain ⟨_, greatest⟩ := byte_bounds pixel.alpha
    have least : (1 : ℚ) ≤ pixel.alpha.toNat := by
      have nonzero : pixel.alpha.toNat ≠ 0 := fun zero => transparent (UInt8.toNat_inj.mp zero)
      exact_mod_cast Nat.one_le_iff_ne_zero.mpr nonzero
    have channel {new : Int} (number : Scalar.isFinite (ofInt new : Float) = true) (byte : UInt8) :
        toByte (mixedChannel (coverage * (ofInt color.opacity / ofInt 255))
          (ofByte pixel.alpha / ofInt 255) new byte) = byte := by
      obtain ⟨v, mixed, near⟩ := mixedChannel_uncovered number nothing given (by linarith)
        (by linarith) byte
      exact toByte_near mixed near
    have alpha : toByte (mixedOpacity (coverage * (ofInt color.opacity / ofInt 255))
        (ofByte pixel.alpha / ofInt 255) * ofInt 255) = pixel.alpha := by
      obtain ⟨k, mixed, near⟩ := mixedOpacity_uncovered nothing given (by linarith) (by linarith)
      obtain ⟨k_lower, k_upper⟩ := abs_le.mp near
      obtain ⟨v, byte, near⟩ := mixed.mul_small represents_255 (by linarith) (by linarith)
      obtain ⟨v_lower, v_upper⟩ := abs_le.mp near
      exact toByte_near byte (abs_le.mpr ⟨by linarith, by linarith⟩)
    simp only [blend, washed, if_neg transparent, channel red, channel green, channel blue, alpha]

theorem washed_washed (pixel : Pixel) : pixel.washed.washed = pixel.washed := by
  by_cases transparent : pixel.alpha = 0
  · rw [washed, washed, if_pos transparent, if_pos rfl]
  · rw [washed, washed, if_neg transparent, if_neg transparent]

def washedIf (touched : Bool) (pixel : Pixel) : Pixel := if touched then pixel.washed else pixel

theorem washedIf_washedIf (first second : Bool) (pixel : Pixel) :
    (pixel.washedIf first).washedIf second = pixel.washedIf (first || second) := by
  cases first with
  | false => rfl
  | true =>
      cases second with
      | false => rfl
      | true => exact pixel.washed_washed

end Pixel

/-! ### Painting -/

def Shape.Misses (shape : Shape Float) (point : Point Float) : Prop :=
  Scalar.eq (shape.coverage point) (ofInt 0) = true

namespace Canvas

open Drawing (Call)

def looksAt (canvas : Canvas) (shape : Shape Float) (x y : Nat) : Bool :=
  (canvas.window? shape).any fun window => window.contains x y

/-- What is left of a pixel that none of some shapes covers, once they are painted. -/
def remnant (canvas : Canvas) (shapes : List (Shape Float)) (x y : Nat) (pixel : Pixel) : Pixel :=
  pixel.washedIf (canvas.blending && shapes.any fun shape => canvas.looksAt shape x y)

variable {canvas : Canvas} {x y : Nat} {color : Color} {shape : Shape Float}
  {shapes : List (Shape Float)}

theorem paintPixel_uncovered (blending : Bool) {point : Point Float} (finite : color.IsFinite)
    (uncovered : shape.Misses point) (pixel : Pixel) :
    paintPixel blending color (shape.coverage point) pixel = pixel.washedIf blending := by
  have nothing := represents_zero_of_eq uncovered
  cases blending with
  | true =>
      rw [paintPixel, if_pos rfl]
      exact Pixel.blend_uncovered finite nothing
  | false =>
      rw [paintPixel, if_neg Bool.false_ne_true, Pixel.overwrite, ofInt_zero, if_neg]
      · rfl
      exact fun less => lt_irrefl _ ((represents_zero.lt_iff nothing).mp (of_decide_eq_true less))

/-- Painting changes neither the tools nor the size of the picture, so the next shape has the same
bounds as it would have had before. -/
theorem looksAt_paint (other : Shape Float) :
    (canvas.paint shape color).looksAt other x y = canvas.looksAt other x y := by
  rw [paint]
  cases canvas.window? shape with
  | none => rfl
  | some window => rfl

theorem remnant_paint :
    (canvas.paint shape color).remnant shapes x y = canvas.remnant shapes x y := by
  simp only [funext_iff, remnant, Drawing.paint_blending, looksAt_paint, implies_true]

theorem remnant_remnant (pixel : Pixel) :
    canvas.remnant shapes x y (canvas.remnant [shape] x y pixel) =
      canvas.remnant (shape :: shapes) x y pixel := by
  rw [remnant, remnant, remnant, Pixel.washedIf_washedIf, ← Bool.and_or_distrib_left, List.any_cons,
    List.any_cons, List.any_nil, Bool.or_false]

theorem paint_uncovered (finite : color.IsFinite)
    (uncovered : canvas.looksAt shape x y = true → shape.Misses (site x y)) :
    (canvas.paint shape color).picture.pixel? x y =
      (canvas.picture.pixel? x y).map (canvas.remnant [shape] x y) := by
  have looked : canvas.remnant [shape] x y =
      Pixel.washedIf (canvas.blending && canvas.looksAt shape x y) := by
    funext pixel
    rw [remnant, List.any_cons, List.any_nil, Bool.or_false]
  rw [looksAt] at uncovered
  rw [looked, paint, looksAt]
  cases seen : canvas.window? shape with
  | none =>
      rw [Option.any_none, Bool.and_false]
      exact (Option.map_id_apply).symm
  | some window =>
      dsimp only
      rw [seen, Option.any_some] at uncovered
      rw [Picture.pixel?_mapPixels, Option.any_some]
      refine congrArg (Option.map · _) (funext fun pixel => ?_)
      cases within : window.contains x y with
      | false =>
          rw [if_neg Bool.false_ne_true, Bool.and_false]
          rfl
      | true =>
          rw [if_pos rfl, Bool.and_true]
          exact paintPixel_uncovered _ finite (uncovered within) pixel

theorem paintAll_uncovered (finite : color.IsFinite)
    (uncovered : ∀ shape ∈ shapes, canvas.looksAt shape x y = true → shape.Misses (site x y)) :
    (canvas.paintAll shapes color).picture.pixel? x y =
      (canvas.picture.pixel? x y).map (canvas.remnant shapes x y) := by
  rw [paintAll]
  induction shapes generalizing canvas with
  | nil =>
      have kept : canvas.remnant [] x y = id := by
        funext pixel
        rw [remnant, List.any_nil, Bool.and_false]
        rfl
      rw [List.foldl_nil, kept, Option.map_id_fun, id]
  | cons shape rest ih =>
      have after : ∀ other ∈ rest, (canvas.paint shape color).looksAt other x y = true →
          other.Misses (site x y) := by
        intro other later
        rw [looksAt_paint]
        exact uncovered other (List.mem_cons_of_mem _ later)
      rw [List.foldl_cons, ih after, paint_uncovered finite (uncovered shape List.mem_cons_self),
        remnant_paint, Option.map_map]
      exact congrArg (Option.map · _) (funext remnant_remnant)

theorem accepts_of_inRange (inRange : color.InRange) : canvas.accepts shapes color = true := by
  have holds : Pixel.holds color = true := by
    rw [Pixel.holds, List.all_eq_true]
    intro number member
    obtain ⟨least, greatest⟩ := inRange.isByte number member
    rw [Pixel.isByte, decide_eq_true least, decide_eq_true greatest]
    rfl
  rw [accepts, holds, Bool.or_true, Bool.true_or]

/-- A call that paints changes no pixel outside of the bounds of its shapes, and none that it does
not cover if colors are put in place of old ones. Where they are laid over them, a pixel that is not
covered keeps its bytes as long as anything of it can be seen. -/
theorem performChecked_uncovered {typeface : Typeface Float} {call : Call Float}
    (found : canvas.painting? typeface call = some (shapes, color)) (finite : color.IsFinite)
    (uncovered : ∀ shape ∈ shapes, canvas.looksAt shape x y = true → shape.Misses (site x y)) :
    (color.InRange → ∃ painted, canvas.performChecked typeface call = .ok painted) ∧
      ∀ painted, canvas.performChecked typeface call = .ok painted →
        painted.picture.pixel? x y =
          (canvas.picture.pixel? x y).map (canvas.remnant shapes x y) := by
  rw [performChecked, found]
  dsimp only
  constructor
  · intro inRange
    exact ⟨_, if_pos (accepts_of_inRange inRange)⟩
  · intro painted done
    split at done
    · obtain rfl := Except.ok.inj done
      exact paintAll_uncovered finite uncovered
    · cases done

def band : Shape Float := .rectangle ⟨Scalar.ratio 1 2, ofInt 0⟩ ⟨ofInt 1, ofInt 0⟩

/-- A call that paints the band blue. It starts between the two pixels of a row. -/
def bandCall : Call Float :=
  .fillRectangle ⟨Scalar.ratio 1 2, ofInt 0⟩ ⟨ofInt 1, ofInt 0⟩ ⟨0, 0, 255, 0⟩

theorem band_misses : band.Misses (site 0 0) := by
  rw [Shape.Misses]
  decide +kernel

theorem performChecked_uncovered_band :
    band.Misses (site 0 0) ∧ (blank 2 1 ⟨10, 20, 30, 40⟩ false).looksAt band 0 0 = true ∧
      ∃ painted, (blank 2 1 ⟨10, 20, 30, 40⟩ false).performChecked .invisible bandCall =
        .ok painted ∧ painted.picture.pixel? 0 0 = some ⟨10, 20, 30, 40⟩ := by
  have inRange : (⟨0, 0, 255, 0⟩ : Color).InRange := by
    rw [Color.InRange]
    decide
  have found : (blank 2 1 ⟨10, 20, 30, 40⟩ false).painting? .invisible bandCall =
      some ([band], ⟨0, 0, 255, 0⟩) := rfl
  have uncovered : ∀ shape ∈ [band], (blank 2 1 ⟨10, 20, 30, 40⟩ false).looksAt shape 0 0 = true →
      shape.Misses (site 0 0) := by
    intro shape member _
    rw [List.mem_singleton.mp member]
    exact band_misses
  obtain ⟨paints, keeps⟩ := performChecked_uncovered found inRange.isFinite uncovered
  obtain ⟨painted, done⟩ := paints inRange
  exact ⟨band_misses, by decide +kernel, painted, done,
    (keeps painted done).trans (by decide +kernel)⟩

/-- A red pixel of which nothing can be seen is black after the band is painted beside it. -/
theorem performChecked_washes_red :
    band.Misses (site 0 0) ∧ (blank 2 1 ⟨255, 0, 0, 0⟩ false).picture.pixel? 0 0 =
      some ⟨255, 0, 0, 0⟩ ∧
    ∃ painted, (blank 2 1 ⟨255, 0, 0, 0⟩ false).performChecked .invisible bandCall = .ok painted ∧
      painted.picture.pixel? 0 0 = some ⟨0, 0, 0, 0⟩ := by
  have facts : (((blank 2 1 ⟨255, 0, 0, 0⟩ false).performChecked .invisible
      bandCall).toOption.bind fun painted => painted.picture.pixel? 0 0) = some ⟨0, 0, 0, 0⟩ := by
    decide +kernel
  cases done : (blank 2 1 ⟨255, 0, 0, 0⟩ false).performChecked .invisible bandCall with
  | error reason =>
      rw [done] at facts
      cases facts
  | ok painted =>
      rw [done] at facts
      exact ⟨band_misses, rfl, painted, rfl, facts⟩

end Canvas

end Vignette
