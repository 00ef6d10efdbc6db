import Vignette.Proofs.Canvas.Blending
import Vignette.Proofs.Canvas.Clipping

namespace Vignette

/-! Filled ellipses, in exact arithmetic. An ellipse with a radius of zero covers nothing; of others
with the same center, one is part of the other if neither of its radii is greater, whatever their
signs. What filling does to a pixel depends on nothing but whether the pixel is covered, as long as
an unseen color below it does not count. -/

open Scalar (ofInt)

namespace Shape

/-- The points that a filled ellipse covers. -/
def ellipseArea (center : Point ℝ) (radiusX radiusY : ℝ) : Set (Point ℝ) :=
  {point | ∃ shape, ellipse? center radiusX radiusY = some shape ∧ shape.coverage point ≠ 0}

variable {center point : Point ℝ} {a b a' b' : ℝ}

theorem ellipse?_eq_none (flat : a = 0 ∨ b = 0) : ellipse? center a b = none := by
  simpa [ellipse?, or_iff_not_imp_left] using flat

theorem exists_ellipse (center : Point ℝ) (wide : a ≠ 0) (high : b ≠ 0) :
    ∃ shape, ellipse? center a b = some shape ∧ shape.Bounded ∧
      ∀ point, shape.coverage point = indicator (insideEllipse center |a| |b| point) := by
  have made : ∃ shape, ellipse? center a b = some shape ∧
      ∀ point, shape.coverage point = indicator (insideEllipse center |a| |b| point) := by
    simp [ellipse?, wide, high]
  obtain ⟨shape, found, coverage⟩ := made
  exact ⟨shape, found, ellipse_bounded found, coverage⟩

theorem insideEllipse_abs_iff :
    insideEllipse center |a| |b| point = true ↔
      ((point.x - center.x) / a) ^ 2 + ((point.y - center.y) / b) ^ 2 ≤ 1 := by
  simp [insideEllipse, ellipseDistance, square, ← pow_two, div_pow]

theorem mem_ellipseArea :
    point ∈ ellipseArea center a b ↔ (a ≠ 0 ∧ b ≠ 0) ∧
      ((point.x - center.x) / a) ^ 2 + ((point.y - center.y) / b) ^ 2 ≤ 1 := by
  rw [← insideEllipse_abs_iff]
  by_cases flat : a = 0 ∨ b = 0
  · simp only [ellipseArea, Set.mem_ofPred_eq, ellipse?_eq_none flat, reduceCtorEq, false_and,
      exists_false, false_iff]
    exact fun both => flat.elim both.1.1 both.1.2
  · rw [not_or] at flat
    obtain ⟨shape, found, _, coverage⟩ := exists_ellipse center flat.1 flat.2
    simp only [ellipseArea, Set.mem_ofPred_eq, found, Option.some.injEq, exists_eq_left', coverage,
      and_iff_right flat]
    cases insideEllipse center |a| |b| point <;> simp [indicator]

theorem sq_div_le {offset : ℝ} (proper : a ≠ 0) (less : |a| ≤ |a'|) :
    (offset / a') ^ 2 ≤ (offset / a) ^ 2 := by
  rw [sq_le_sq, abs_div, abs_div]
  exact div_le_div_of_nonneg_left (abs_nonneg offset) (abs_pos.mpr proper) less

theorem ellipseArea_subset_iff :
    ellipseArea center a b ⊆ ellipseArea center a' b' ↔
      (a = 0 ∨ b = 0) ∨ |a| ≤ |a'| ∧ |b| ≤ |b'| := by
  have across {radius radius' : ℝ} (proper : radius' ≠ 0) (within : (radius / radius') ^ 2 ≤ 1) :
      |radius| ≤ |radius'| := by
    rw [div_pow, div_le_one₀ (by positivity)] at within
    exact sq_le_sq.mp within
  constructor
  · intro part
    by_cases flat : a = 0 ∨ b = 0
    · exact .inl flat
    rw [not_or] at flat
    -- The outermost points of the inner ellipse, along both axes, are in the outer one.
    have right : (⟨center.x + a, center.y⟩ : Point ℝ) ∈ ellipseArea center a b :=
      mem_ellipseArea.mpr ⟨flat, by simp [flat.1]⟩
    have bottom : (⟨center.x, center.y + b⟩ : Point ℝ) ∈ ellipseArea center a b :=
      mem_ellipseArea.mpr ⟨flat, by simp [flat.2]⟩
    obtain ⟨proper, alongX⟩ := mem_ellipseArea.mp (part right)
    obtain ⟨_, alongY⟩ := mem_ellipseArea.mp (part bottom)
    exact .inr ⟨across proper.1 (by simpa using alongX), across proper.2 (by simpa using alongY)⟩
  · rintro less point inside
    obtain ⟨⟨wide, high⟩, near⟩ := mem_ellipseArea.mp inside
    obtain ⟨lessX, lessY⟩ := less.resolve_left (not_or.mpr ⟨wide, high⟩)
    have wide' : a' ≠ 0 := abs_pos.mp ((abs_pos.mpr wide).trans_le lessX)
    have high' : b' ≠ 0 := abs_pos.mp ((abs_pos.mpr high).trans_le lessY)
    exact mem_ellipseArea.mpr
      ⟨⟨wide', high'⟩, (add_le_add (sq_div_le wide lessX) (sq_div_le high lessY)).trans near⟩

end Shape

namespace Pixel

variable {opacity : ℝ}

theorem mixedChannel_uncovered_real {old : ℝ} (least : 0 < old) (new : Int) (byte : UInt8) :
    mixedChannel 0 old new byte = byte.toNat := by
  have visible : 0 < mixedOpacity 0 old := by simpa [mixedOpacity_real] using least
  rw [mixedChannel_real, if_pos visible, mixedOpacity_real]
  field_simp
  ring

/-- Over a pixel of which nothing can be seen, a channel does not depend on the one below. -/
theorem mixedChannel_unseen_real (new : Int) (byte byte' : UInt8) :
    mixedChannel opacity 0 new byte = mixedChannel opacity 0 new byte' := by
  rw [mixedChannel_real, mixedChannel_real, mul_zero, mul_zero]

theorem old_of_transparent {alpha : UInt8} (transparent : alpha = 0) :
    (ofByte alpha / ofInt 255 : ℝ) = 0 := by
  simp [ofByte, transparent]

/-- It does not matter what color a pixel has of which nothing can be seen. -/
theorem blend_washed (color : Color) (coverage : ℝ) (pixel : Pixel) :
    blend color coverage pixel.washed = blend color coverage pixel := by
  rw [washed]
  split
  case isFalse => rfl
  case isTrue transparent =>
    have same : pixel.alpha = (⟨0, 0, 0, 0⟩ : Pixel).alpha := transparent
    rw [blend, blend, same, old_of_transparent rfl]
    congr 2 <;> exact mixedChannel_unseen_real _ _ _

theorem toByte_byte (byte : UInt8) : toByte (byte.toNat : ℝ) = byte := by
  have whole := toByte_intCast (n := byte.toNat) ⟨by omega, by have := byte.toNat_lt; omega⟩
  exact UInt8.toNat_inj.mp (by exact_mod_cast whole)

/-- Where a color covers nothing, each byte is divided by what it was multiplied by. -/
theorem blend_zero (color : Color) (pixel : Pixel) : blend color (0 : ℝ) pixel = pixel.washed := by
  rw [washed, blend, zero_mul]
  split
  case isTrue transparent =>
    rw [old_of_transparent transparent]
    simp [mixedChannel_real, mixedOpacity_real, toByte]
  case isFalse visible =>
    have positive : 0 < pixel.alpha.toNat :=
      Nat.pos_of_ne_zero fun zero => visible (UInt8.toNat_inj.mp zero)
    have least : (0 : ℝ) < ofByte pixel.alpha / ofInt 255 :=
      div_pos (by simpa [ofByte] using positive) (by simp)
    have alpha : mixedOpacity 0 (ofByte pixel.alpha / ofInt 255) * ofInt 255 =
        (pixel.alpha.toNat : ℝ) := by
      simp [mixedOpacity_real, ofByte]
    simp only [mixedChannel_uncovered_real least, toByte_byte, alpha]

theorem blend_full {color : Color} (inRange : color.InRange) (solid : color.transparency = 0)
    (pixel : Pixel) : blend color (1 : ℝ) pixel = ofColor color := by
  obtain ⟨made, alpha⟩ := @paintPixel_full _ pixel inRange solid
  have byte {new : Int} {painted : UInt8} (same : (painted.toNat : Int) = new) :
      painted = lowByte new := by
    have bound := painted.toNat_lt
    rw [← same, lowByte, Int.emod_eq_of_lt (by omega) (by omega), Int.toNat_natCast,
      UInt8.ofNat_toNat]
  have opacity : lowByte color.opacity = 255 := by rw [opacity_of_full solid]; rfl
  simp only [channels, List.forall_mem_cons] at made
  obtain ⟨red, green, blue, _⟩ := made
  rw [ofColor, opacity, ← byte red, ← byte green, ← byte blue, ← alpha]
  rfl

end Pixel

namespace Canvas

open Shape (ellipseArea)

variable {canvas : Canvas} {color : Color} {x y : Nat} {center : Point ℝ} {a b : ℝ}

theorem pixel?_paint (canvas : Canvas) (shape : Shape ℝ) (color : Color) (x y : Nat) :
    (canvas.paint shape color).picture.pixel? x y =
      (canvas.picture.pixel? x y).map fun pixel =>
        if canvas.inWindow shape x y then
          paintPixel canvas.blending color (shape.coverage (spot x y)) pixel
        else pixel := by
  rw [paint, inWindow]
  cases canvas.window? shape with
  | none => simp
  | some window => exact Picture.pixel?_mapPixels _ _ x y

theorem paintPixel_zero (blending : Bool) (color : Color) (pixel : Pixel) :
    paintPixel blending color (0 : ℝ) pixel = pixel.washedIf blending := by
  cases blending with
  | true => exact Pixel.blend_zero color pixel
  | false => simp [paintPixel, Pixel.overwrite, Pixel.washedIf]

theorem perform_fillEllipse (typeface : Typeface ℝ) (canvas : Canvas) (center : Point ℝ) (a b : ℝ)
    (color : Color) :
    canvas.perform typeface (.fillEllipse center a b color) =
      canvas.paintAll (Shape.ellipse? center a b).toList color := rfl

theorem size_fillEllipse (typeface : Typeface ℝ) (canvas : Canvas) (center : Point ℝ) (a b : ℝ)
    (color : Color) :
    (canvas.perform typeface (.fillEllipse center a b color)).picture.width =
        canvas.picture.width ∧
      (canvas.perform typeface (.fillEllipse center a b color)).picture.height =
        canvas.picture.height := by
  rw [perform_fillEllipse]
  cases Shape.ellipse? center a b with
  | none => exact ⟨rfl, rfl⟩
  | some shape =>
      rw [Option.toList_some, paintAll, List.foldl_cons, List.foldl_nil, paint]
      cases canvas.window? shape <;> exact ⟨rfl, rfl⟩

/-- A pixel that a filled ellipse covers is painted. -/
theorem pixel?_fillEllipse (typeface : Typeface ℝ) (column : x < canvas.picture.width)
    (row : y < canvas.picture.height) (covered : spot x y ∈ ellipseArea center a b) :
    (canvas.perform typeface (.fillEllipse center a b color)).picture.pixel? x y =
      (canvas.picture.pixel? x y).map (paintPixel canvas.blending color (1 : ℝ)) := by
  obtain ⟨shape, found, covered⟩ := covered
  have bounded := Shape.ellipse_bounded found
  have seen : canvas.inWindow shape x y = true := inWindow_of_within column row (bounded _ covered)
  obtain ⟨wide, high⟩ : a ≠ 0 ∧ b ≠ 0 := by
    by_contra flat
    rw [Shape.ellipse?_eq_none (by tauto)] at found
    cases found
  obtain ⟨shape', found', _, coverage⟩ := Shape.exists_ellipse center wide high
  obtain rfl := Option.some.inj (found.symm.trans found')
  have full : shape.coverage (spot x y) = 1 := by
    rw [coverage] at covered ⊢
    rw [Shape.indicator_ne_zero covered]
    simp [Shape.indicator]
  rw [perform_fillEllipse, found, Option.toList_some, paintAll, List.foldl_cons, List.foldl_nil,
    pixel?_paint, full]
  simp only [seen, if_true]

/-- One that it does not cover keeps its bytes, but for an unseen color where colors are laid over
each other. -/
theorem pixel?_fillEllipse_of_not_mem (typeface : Typeface ℝ) (canvas : Canvas) (color : Color)
    (uncovered : spot x y ∉ ellipseArea center a b) :
    ∃ touched, (touched = true → canvas.blending = true) ∧
      (canvas.perform typeface (.fillEllipse center a b color)).picture.pixel? x y =
        (canvas.picture.pixel? x y).map (Pixel.washedIf touched) := by
  rw [perform_fillEllipse]
  cases found : Shape.ellipse? center a b with
  | none => exact ⟨false, nofun, Option.map_id_apply.symm⟩
  | some shape =>
      have nothing : shape.coverage (spot x y) = 0 := by
        by_contra covered
        exact uncovered ⟨shape, found, covered⟩
      refine ⟨canvas.blending && canvas.inWindow shape x y, by simp +contextual, ?_⟩
      rw [Option.toList_some, paintAll, List.foldl_cons, List.foldl_nil, pixel?_paint, nothing]
      congr 1
      funext pixel
      rw [paintPixel_zero]
      cases canvas.inWindow shape x y <;> simp [Pixel.washedIf]

end Canvas

end Vignette
