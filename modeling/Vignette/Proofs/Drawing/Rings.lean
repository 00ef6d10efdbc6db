import Vignette.Proofs.Canvas.Ellipses
import Vignette.Proofs.Drawing.Opacity

namespace Vignette.Drawing

/-! Strokes of ellipses, in exact arithmetic. The stroke of an ellipse is what is left of a larger
one, when a smaller one is laid over it again in the color of the filling. The radii of the smaller
one are less by a quarter of the width of the stroke, and the canvas drops their signs. So it does
become smaller with the width at first, until a radius is zero, but grows again behind that, and
passes the ellipse itself when the width is more than eight times a radius. -/

open Scalar (ofInt)
open Shape (ellipseArea)
open Canvas (paintPixel spot)
open Style (Paint)

/-- The area of the ellipse that a call fills. -/
def Call.filledArea? : Call ℝ → Option (Set (Point ℝ))
  | .fillEllipse center radiusX radiusY _ => some (ellipseArea center radiusX radiusY)
  | _ => none

/-- The area of the last ellipse that calls fill. -/
def lastFilled (calls : List (Call ℝ)) : Set (Point ℝ) :=
  (calls.filterMap Call.filledArea?).getLast?.getD ∅

/-- The area in which a stroked ellipse is filled again. -/
noncomputable def refilled (center : Point ℝ) (radiusX radiusY : ℝ) (paint : Paint) :
    Set (Point ℝ) :=
  lastFilled (ellipse center radiusX radiusY paint)

variable {center : Point ℝ} {radiusX radiusY : ℝ} {paint : Paint} {x y : Nat}

theorem strokeOffset_real (width : Nat) : (strokeOffset width : ℝ) = width / 4 := by
  simp [strokeOffset]

theorem refilled_eq (center : Point ℝ) (radiusX radiusY : ℝ) (paint : Paint) :
    refilled center radiusX radiusY paint =
      ellipseArea center (radiusX - paint.strokeWidth / 4) (radiusY - paint.strokeWidth / 4) := by
  rw [refilled, ellipse, stroked, strokeOffset_real]
  split
  case isTrue thin =>
    rw [thin, Nat.cast_zero, zero_div, sub_zero, sub_zero]
    rfl
  case isFalse => rfl

section Widths

variable {radius width wider : ℝ}

theorem abs_shrunk_le_iff (less : width < wider) :
    |radius - wider / 4| ≤ |radius - width / 4| ↔ width + wider ≤ 8 * radius := by
  have parts : (radius - width / 4) ^ 2 - (radius - wider / 4) ^ 2 =
      (wider - width) * (8 * radius - (width + wider)) / 16 := by ring
  rw [← sq_le_sq, ← sub_nonneg, parts, le_div_iff₀ (by norm_num), zero_mul,
    mul_nonneg_iff_of_pos_left (sub_pos.mpr less), sub_nonneg]

theorem shrunk_eq_zero_iff : radius - wider / 4 = 0 ↔ wider = 4 * radius := by
  rw [sub_eq_zero, eq_div_iff (by norm_num), eq_comm, mul_comm]

/-- A thicker stroke leaves no greater ellipse if it leaves none at all, or if the two widths
together are at most eight radii. -/
theorem shrunk_subset_iff (center : Point ℝ) (radiusX radiusY : ℝ) (less : width < wider) :
    ellipseArea center (radiusX - wider / 4) (radiusY - wider / 4) ⊆
        ellipseArea center (radiusX - width / 4) (radiusY - width / 4) ↔
      (wider = 4 * radiusX ∨ wider = 4 * radiusY) ∨
        width + wider ≤ 8 * radiusX ∧ width + wider ≤ 8 * radiusY := by
  rw [Shape.ellipseArea_subset_iff, abs_shrunk_le_iff less, abs_shrunk_le_iff less,
    shrunk_eq_zero_iff, shrunk_eq_zero_iff]

end Widths

theorem refilled_subset_iff (wide : 0 < paint.strokeWidth) :
    refilled center radiusX radiusY paint ⊆ ellipseArea center radiusX radiusY ↔
      ((paint.strokeWidth : ℝ) = 4 * radiusX ∨ (paint.strokeWidth : ℝ) = 4 * radiusY) ∨
        (paint.strokeWidth : ℝ) ≤ 8 * radiusX ∧ (paint.strokeWidth : ℝ) ≤ 8 * radiusY := by
  have less : (0 : ℝ) < paint.strokeWidth := by exact_mod_cast wide
  simpa [refilled_eq] using shrunk_subset_iff center radiusX radiusY less

theorem refilled_wider_subset_iff {wider : Nat} (less : paint.strokeWidth < wider) :
    refilled center radiusX radiusY { paint with strokeWidth := wider } ⊆
        refilled center radiusX radiusY paint ↔
      ((wider : ℝ) = 4 * radiusX ∨ (wider : ℝ) = 4 * radiusY) ∨
        (paint.strokeWidth + wider : ℝ) ≤ 8 * radiusX ∧
          (paint.strokeWidth + wider : ℝ) ≤ 8 * radiusY := by
  have less' : (paint.strokeWidth : ℝ) < wider := by exact_mod_cast less
  rw [refilled_eq, refilled_eq]
  exact shrunk_subset_iff center radiusX radiusY less'

section Painting

variable {canvas : Canvas} (typeface : Typeface ℝ)

/-- The canvas on which an ellipse and the larger one of its stroke have been filled. -/
noncomputable def outlined (canvas : Canvas) (center : Point ℝ) (radiusX radiusY : ℝ)
    (paint : Paint) : Canvas :=
  (canvas.perform typeface (.fillEllipse center radiusX radiusY paint.fill)).perform typeface
    (.fillEllipse center (radiusX + paint.strokeWidth / 4) (radiusY + paint.strokeWidth / 4)
      paint.stroke)

theorem picture_performAll_ellipse (canvas : Canvas) (center : Point ℝ) (radiusX radiusY : ℝ)
    (wide : 0 < paint.strokeWidth) :
    (canvas.performAll typeface (ellipse center radiusX radiusY paint)).picture =
      (Canvas.perform typeface
        { outlined typeface canvas center radiusX radiusY paint with blending := false }
        (.fillEllipse center (radiusX - paint.strokeWidth / 4) (radiusY - paint.strokeWidth / 4)
          paint.fill)).picture := by
  rw [ellipse, stroked, if_neg (by omega), strokeOffset_real]
  rfl

theorem size_outlined (canvas : Canvas) (center : Point ℝ) (radiusX radiusY : ℝ) (paint : Paint) :
    (outlined typeface canvas center radiusX radiusY paint).picture.width = canvas.picture.width ∧
      (outlined typeface canvas center radiusX radiusY paint).picture.height =
        canvas.picture.height := by
  obtain ⟨width, height⟩ := Canvas.size_fillEllipse typeface canvas center radiusX radiusY paint.fill
  obtain ⟨width', height'⟩ := Canvas.size_fillEllipse typeface
    (canvas.perform typeface (.fillEllipse center radiusX radiusY paint.fill)) center
    (radiusX + paint.strokeWidth / 4) (radiusY + paint.strokeWidth / 4) paint.stroke
  exact ⟨width'.trans width, height'.trans height⟩

/-- A pixel in the larger ellipse has the color of the stroke over what was there before: over the
filling, if it is in the ellipse itself. -/
theorem pixel?_outlined (paint : Paint) (on : canvas.blending = true)
    (column : x < canvas.picture.width) (row : y < canvas.picture.height)
    (outer : spot x y ∈ ellipseArea center (radiusX + paint.strokeWidth / 4)
      (radiusY + paint.strokeWidth / 4)) :
    ∃ beneath : Pixel → Pixel,
      (spot x y ∈ ellipseArea center radiusX radiusY →
        beneath = paintPixel true paint.fill (1 : ℝ)) ∧
      (spot x y ∉ ellipseArea center radiusX radiusY → beneath = id) ∧
      (outlined typeface canvas center radiusX radiusY paint).picture.pixel? x y =
        (canvas.picture.pixel? x y).map fun pixel =>
          paintPixel true paint.stroke (1 : ℝ) (beneath pixel) := by
  obtain ⟨width, height⟩ := Canvas.size_fillEllipse typeface canvas center radiusX radiusY paint.fill
  have still : (canvas.perform typeface
      (.fillEllipse center radiusX radiusY paint.fill)).blending = true := by
    rw [perform_blending, on]
    rfl
  rw [outlined, Canvas.pixel?_fillEllipse typeface (by rwa [width]) (by rwa [height]) outer, still]
  by_cases own : spot x y ∈ ellipseArea center radiusX radiusY
  · refine ⟨_, fun _ => rfl, fun outside => absurd own outside, ?_⟩
    rw [Canvas.pixel?_fillEllipse typeface column row own, on, Option.map_map]
    rfl
  · refine ⟨id, fun inside => absurd inside own, fun _ => rfl, ?_⟩
    obtain ⟨touched, _, kept⟩ :=
      Canvas.pixel?_fillEllipse_of_not_mem typeface canvas paint.fill own
    rw [kept, Option.map_map]
    congr 1
    funext pixel
    cases touched with
    | false => rfl
    | true => exact Pixel.blend_washed paint.stroke 1 pixel

/-- A pixel that is filled again has the color of the filling, whatever was there before. -/
theorem pixel?_ellipse_of_mem (on : canvas.blending = true) (column : x < canvas.picture.width)
    (row : y < canvas.picture.height) (wide : 0 < paint.strokeWidth)
    (outer : spot x y ∈ ellipseArea center (radiusX + paint.strokeWidth / 4)
      (radiusY + paint.strokeWidth / 4))
    (again : spot x y ∈ refilled center radiusX radiusY paint) :
    (canvas.performAll typeface (ellipse center radiusX radiusY paint)).picture.pixel? x y =
      (canvas.picture.pixel? x y).map fun _ => Pixel.ofColor paint.fill := by
  rw [refilled_eq] at again
  obtain ⟨_, _, _, laid⟩ := pixel?_outlined typeface paint on column row outer
  obtain ⟨width, height⟩ := size_outlined typeface canvas center radiusX radiusY paint
  rw [picture_performAll_ellipse typeface canvas center radiusX radiusY wide,
    Canvas.pixel?_fillEllipse typeface (by rwa [width]) (by rwa [height]) again, laid,
    Option.map_map]
  congr 1
  funext pixel
  simp [paintPixel, Pixel.overwrite]

/-- Any other pixel in the larger ellipse keeps the color of the stroke. -/
theorem pixel?_ellipse_of_not_mem (on : canvas.blending = true) (column : x < canvas.picture.width)
    (row : y < canvas.picture.height) (wide : 0 < paint.strokeWidth)
    (outer : spot x y ∈ ellipseArea center (radiusX + paint.strokeWidth / 4)
      (radiusY + paint.strokeWidth / 4))
    (kept : spot x y ∉ refilled center radiusX radiusY paint) :
    let painted :=
      (canvas.performAll typeface (ellipse center radiusX radiusY paint)).picture.pixel? x y
    (spot x y ∈ ellipseArea center radiusX radiusY →
      painted = (canvas.picture.pixel? x y).map fun pixel =>
        paintPixel true paint.stroke (1 : ℝ) (paintPixel true paint.fill (1 : ℝ) pixel)) ∧
    (spot x y ∉ ellipseArea center radiusX radiusY →
      painted = (canvas.picture.pixel? x y).map (paintPixel true paint.stroke (1 : ℝ))) := by
  intro painted
  rw [refilled_eq] at kept
  obtain ⟨beneath, inside, outside, laid⟩ := pixel?_outlined typeface paint on column row outer
  obtain ⟨touched, blends, same⟩ := Canvas.pixel?_fillEllipse_of_not_mem typeface
    { outlined typeface canvas center radiusX radiusY paint with blending := false } paint.fill kept
  obtain rfl : touched = false := by
    cases touched with
    | false => rfl
    | true => cases blends rfl
  have stays : painted = (canvas.picture.pixel? x y).map fun pixel =>
      paintPixel true paint.stroke (1 : ℝ) (beneath pixel) := by
    have last := picture_performAll_ellipse typeface canvas center radiusX radiusY wide
    rw [show painted = _ from congrArg (Picture.pixel? · x y) last, same, laid, Option.map_map]
    rfl
  exact ⟨fun own => by rw [stays, inside own], fun apart => by rw [stays, outside apart]; rfl⟩

end Painting

/-- The smaller ellipse of a stroke lies in the ellipse itself if the stroke is at most eight times
as wide as either radius, or if nothing is filled again because a radius is a quarter of the width.
A wider stroke does not fill more again under a similar condition. Every pixel in the larger ellipse
that is not filled again has the color of the stroke over it; one that is has only the color of the
filling, also outside of the ellipse itself. -/
theorem ellipse_refilled (center : Point ℝ) (radiusX radiusY : ℝ) {paint : Paint}
    (wide : 0 < paint.strokeWidth) :
    (refilled center radiusX radiusY paint ⊆ ellipseArea center radiusX radiusY ↔
      ((paint.strokeWidth : ℝ) = 4 * radiusX ∨ (paint.strokeWidth : ℝ) = 4 * radiusY) ∨
        (paint.strokeWidth : ℝ) ≤ 8 * radiusX ∧ (paint.strokeWidth : ℝ) ≤ 8 * radiusY) ∧
    (∀ wider : Nat, paint.strokeWidth < wider →
      (refilled center radiusX radiusY { paint with strokeWidth := wider } ⊆
          refilled center radiusX radiusY paint ↔
        ((wider : ℝ) = 4 * radiusX ∨ (wider : ℝ) = 4 * radiusY) ∨
          (paint.strokeWidth + wider : ℝ) ≤ 8 * radiusX ∧
            (paint.strokeWidth + wider : ℝ) ≤ 8 * radiusY)) ∧
    (∀ (typeface : Typeface ℝ) (canvas : Canvas) (x y : Nat), canvas.blending = true →
      x < canvas.picture.width → y < canvas.picture.height →
      spot x y ∈ ellipseArea center (radiusX + paint.strokeWidth / 4)
        (radiusY + paint.strokeWidth / 4) →
      let painted :=
        (canvas.performAll typeface (ellipse center radiusX radiusY paint)).picture.pixel? x y
      (spot x y ∈ refilled center radiusX radiusY paint →
        painted = (canvas.picture.pixel? x y).map fun _ => Pixel.ofColor paint.fill) ∧
      (spot x y ∉ refilled center radiusX radiusY paint →
        (spot x y ∈ ellipseArea center radiusX radiusY →
          painted = (canvas.picture.pixel? x y).map fun pixel =>
            paintPixel true paint.stroke (1 : ℝ) (paintPixel true paint.fill (1 : ℝ) pixel)) ∧
        (spot x y ∉ ellipseArea center radiusX radiusY →
          painted = (canvas.picture.pixel? x y).map (paintPixel true paint.stroke (1 : ℝ))))) ∧
    (paint.stroke.InRange → paint.stroke.transparency = 0 →
      ∀ pixel, paintPixel true paint.stroke (1 : ℝ) pixel = Pixel.ofColor paint.stroke) :=
  ⟨refilled_subset_iff wide, fun _ => refilled_wider_subset_iff,
    fun typeface _ _ _ on column row outer =>
      ⟨pixel?_ellipse_of_mem typeface on column row wide outer,
        pixel?_ellipse_of_not_mem typeface on column row wide outer⟩,
    Pixel.blend_full⟩

/-- A red filling with a lime stroke of some width. -/
def rimmed (width : Nat) : Paint := ⟨⟨255, 0, 0, 0⟩, ⟨0, 255, 0, 0⟩, width⟩

theorem ellipse_refilled_coin :
    refilled ⟨0, 0⟩ 1 1 (rimmed 2) ⊆ ellipseArea ⟨0, 0⟩ 1 1 ∧
    refilled ⟨0, 0⟩ 1 1 (rimmed 3) ⊆ refilled ⟨0, 0⟩ 1 1 (rimmed 2) ∧
    ((Canvas.blank 2 2 ⟨255, 255, 255, 255⟩ false).performAll .invisible
      (ellipse (⟨0, 0⟩ : Point ℝ) 1 1 (rimmed 2))).picture.pixel? 1 1 =
        some ⟨0, 255, 0, 255⟩ := by
  have wide : 0 < (rimmed 2).strokeWidth := by decide
  have two : ((rimmed 2).strokeWidth : ℝ) = 2 := by simp [rimmed]
  obtain ⟨part, less, pixels, whole⟩ := ellipse_refilled ⟨0, 0⟩ 1 1 wide
  have outer : spot 1 1 ∈ ellipseArea ⟨0, 0⟩ (1 + (rimmed 2).strokeWidth / 4)
      (1 + (rimmed 2).strokeWidth / 4) := by
    rw [Shape.mem_ellipseArea, two]
    norm_num [spot]
  have apart : spot 1 1 ∉ ellipseArea ⟨0, 0⟩ 1 1 := by
    rw [Shape.mem_ellipseArea]
    norm_num [spot]
  have kept : spot 1 1 ∉ refilled ⟨0, 0⟩ 1 1 (rimmed 2) := by
    rw [refilled_eq, Shape.mem_ellipseArea, two]
    norm_num [spot]
  have inRange : (rimmed 2).stroke.InRange := by simp [rimmed, Color.InRange]
  have painted := ((pixels .invisible (.blank 2 2 ⟨255, 255, 255, 255⟩ false) 1 1 rfl (by decide)
    (by decide) outer).2 kept).2 apart
  refine ⟨part.mpr (.inr (by rw [two]; norm_num)),
    (less 3 (by decide)).mpr (.inr (by rw [two]; norm_num)), ?_⟩
  rw [painted, show (Canvas.blank 2 2 ⟨255, 255, 255, 255⟩ false).picture.pixel? 1 1 =
    some ⟨255, 255, 255, 255⟩ by rfl, Option.map_some, whole inRange rfl]
  rfl

/-- A circle between the spots of a canvas. Its stroke is sixteen times as wide as its radius. -/
def dot : String :=
  "<svg viewBox=\"0 0 1 1\">" ++
    "<circle cx=\"0.5\" r=\"0.25\" fill=\"red\" stroke=\"lime\" stroke-width=\"4\"/></svg>"

/-- A spot outside of the circle, but in its stroke, has the color of the filling. -/
theorem ellipse_refilled_dot :
    let center : Point ℝ := ⟨1 / 2, 0⟩
    0 < (rimmed 4).strokeWidth ∧
    ¬ refilled center (1 / 4) (1 / 4) (rimmed 4) ⊆ ellipseArea center (1 / 4) (1 / 4) ∧
    ¬ refilled center (1 / 4) (1 / 4) (rimmed 5) ⊆ refilled center (1 / 4) (1 / 4) (rimmed 4) ∧
    spot 0 0 ∈ ellipseArea center (1 / 4 + (rimmed 4).strokeWidth / 4)
      (1 / 4 + (rimmed 4).strokeWidth / 4) ∧
    spot 0 0 ∉ ellipseArea center (1 / 4) (1 / 4) ∧
    spot 0 0 ∈ refilled center (1 / 4) (1 / 4) (rimmed 4) ∧
    ∃ document picture, Document.read dot = .ok document ∧
      document.pictureIn .invisible Document.onWhite = .ok picture ∧
      picture.pixel? 0 0 = some ⟨255, 0, 0, 255⟩ := by
  intro center
  have wide : 0 < (rimmed 4).strokeWidth := by decide
  have four : ((rimmed 4).strokeWidth : ℝ) = 4 := by simp [rimmed]
  have facts : ((Document.read dot).toOption.bind fun document =>
      (document.pictureIn .invisible Document.onWhite).toOption.bind fun picture =>
        picture.pixel? 0 0) = some ⟨255, 0, 0, 255⟩ := by
    decide +kernel
  refine ⟨wide, ?_, ?_, ?_, ?_, ?_, ?_⟩
  · rw [refilled_subset_iff wide, four]
    norm_num
  · have less : (rimmed 4).strokeWidth < 5 := by decide
    rw [show rimmed 5 = { rimmed 4 with strokeWidth := 5 } from rfl,
      refilled_wider_subset_iff less, four]
    norm_num
  · rw [Shape.mem_ellipseArea, four]
    norm_num [center, spot]
  · rw [Shape.mem_ellipseArea]
    norm_num [center, spot]
  · rw [refilled_eq, Shape.mem_ellipseArea, four]
    norm_num [center, spot]
  · obtain ⟨document, found, facts⟩ := toOption_bind_eq_some facts
    obtain ⟨picture, made, red⟩ := toOption_bind_eq_some facts
    exact ⟨document, picture, found, made, red⟩

end Vignette.Drawing
