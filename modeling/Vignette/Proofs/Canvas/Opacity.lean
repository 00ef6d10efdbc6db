import Vignette.Canvas.Basic
import Vignette.Proofs.Binary64.Numbers
import Vignette.Proofs.Drawing.Shapes

namespace Vignette

/-! Opaque pixels. A pixel that nothing shines through stays so whatever color is laid over it, and
however much of it is covered. Rounding does not matter: the new opacity is so close to the greatest
byte that no other byte is nearer. -/

open Binary64
open Scalar (ofInt)

theorem represents_255 : Represents (ofInt 255 : Float) 255 := by
  have unpacked : (ofInt 255 : Float).toModel.unpack =
      .finite .positive (255 * 2 ^ 45) (-45) (by decide) := by rfl
  have given := represents_positive unpacked (by decide)
  norm_num at given
  exact given

theorem isPart_indicator (inside : Bool) : IsPart (Shape.indicator inside) := by
  cases inside with
  | false =>
      rw [Shape.indicator, if_neg Bool.false_ne_true, ofInt_zero]
      exact isPart_of_represents represents_zero le_rfl zero_le_one
  | true =>
      rw [Shape.indicator, if_pos rfl, ofInt_one]
      exact isPart_of_represents represents_one zero_le_one le_rfl

/-- What remains after the bounds are cut off is a part, unless it is undefined. -/
theorem isPart_clampUnit {x : Float} (number : (Shape.clampUnit x).isNaN = false) :
    IsPart (Shape.clampUnit x) := by
  rw [Shape.clampUnit, ofInt_zero, ofInt_one] at number ⊢
  split
  · exact isPart_of_represents represents_zero le_rfl zero_le_one
  case isFalse notBelow =>
    split
    · exact isPart_of_represents represents_one zero_le_one le_rfl
    case isFalse notAbove =>
      rw [if_neg notBelow, if_neg notAbove] at number
      obtain ⟨v, found, least, greatest⟩ := represents_zero.within represents_one number
        (fun less => notBelow (decide_eq_true less)) (fun less => notAbove (decide_eq_true less))
      exact isPart_of_represents found least greatest

theorem isPart_opacities : ∀ transparency : Fin 128,
    (0 : Float) ≤ ofInt (Color.opacity ⟨0, 0, 0, transparency⟩) / ofInt 255 ∧
      (ofInt (Color.opacity ⟨0, 0, 0, transparency⟩) / ofInt 255 : Float) ≤ 1 := by
  decide +kernel

/-- The opacity of a color follows from its transparency alone. -/
theorem Color.InRange.opacity_eq {color : Color} (inRange : color.InRange) :
    ∃ transparency : Fin 128, color.opacity = Color.opacity ⟨0, 0, 0, transparency⟩ := by
  obtain ⟨_, _, _, least, greatest⟩ := inRange
  obtain ⟨n, whole⟩ := Int.eq_ofNat_of_zero_le least
  refine ⟨⟨n, by omega⟩, ?_⟩
  rw [← whole]
  rfl

theorem isPart_opacity {color : Color} (inRange : color.InRange) :
    IsPart (ofInt color.opacity / ofInt 255) := by
  obtain ⟨transparency, same⟩ := inRange.opacity_eq
  rw [same]
  exact isPart_opacities transparency

/-- A number that is nearer to a byte than to all others gives it. -/
theorem toByte_near {x : Float} {v : ℚ} {byte : UInt8} (given : Represents x v)
    (near : |v - byte.toNat| ≤ 1 / 4) : Pixel.toByte x = byte := by
  obtain ⟨lower, upper⟩ := abs_le.mp near
  have below := byte.toNat_lt
  have byte_eq {n : Nat} (same : byte.toNat = n) : UInt8.ofNat n = byte :=
    same ▸ UInt8.ofNat_toNat
  rw [Pixel.toByte, ofInt_zero]
  split
  case isTrue low =>
    have negative := (given.le_iff represents_zero).mp (of_decide_eq_true low)
    have small : (byte.toNat : ℚ) < 1 := by linarith
    have none : byte.toNat < 1 := by exact_mod_cast small
    exact (byte_eq (show byte.toNat = 0 by omega) :)
  split
  case isTrue high =>
    have great := (represents_255.le_iff given).mp (of_decide_eq_true high)
    have large : (254 : ℚ) < byte.toNat := by linarith
    have all : 254 < byte.toNat := by exact_mod_cast large
    exact (byte_eq (show byte.toNat = 255 by omega) :)
  case isFalse =>
    have half := abs_le.mp given.nearest
    have least : (byte.toNat : ℚ) - 1 < (Scalar.nearest x : Int) := by linarith
    have greatest : ((Scalar.nearest x : Int) : ℚ) < byte.toNat + 1 := by linarith
    have least' : (byte.toNat : Int) - 1 < Scalar.nearest x := by exact_mod_cast least
    have greatest' : Scalar.nearest x < (byte.toNat : Int) + 1 := by exact_mod_cast greatest
    have whole : Scalar.nearest x = byte.toNat := by omega
    rw [whole]
    exact byte_eq rfl

/-- Laying something over an opaque pixel: what it covers and what is left of the pixel make up the
whole. -/
theorem mixedOpacity_near {x y : Float} (covered : IsPart x) (opacity : IsPart y) :
    ∃ v, Represents (Pixel.mixedOpacity (x * y) (1 : Float) * ofInt 255) v ∧ |v - 255| ≤ 1 / 4 := by
  obtain ⟨u, coverage, u_least, u_greatest⟩ := covered.represents
  obtain ⟨w, part, w_least, w_greatest⟩ := opacity.represents
  -- One operation after the other, each with a result that is known to be small.
  have product_least : 0 ≤ u * w := mul_nonneg u_least w_least
  have product_greatest : u * w ≤ 1 := mul_le_one₀ u_greatest w_least w_greatest
  obtain ⟨o, laid, near⟩ := coverage.mul_small part (by linarith) (by linarith)
  obtain ⟨laid_least, laid_greatest⟩ := abs_le.mp near
  obtain ⟨r, rest, near⟩ := represents_one.sub_small laid (by linarith) (by linarith)
  obtain ⟨rest_least, rest_greatest⟩ := abs_le.mp near
  obtain ⟨k, kept, near⟩ := represents_one.mul_small rest (by linarith) (by linarith)
  obtain ⟨kept_least, kept_greatest⟩ := abs_le.mp near
  obtain ⟨m, mixed, near⟩ := laid.add_small kept (by linarith) (by linarith)
  obtain ⟨mixed_least, mixed_greatest⟩ := abs_le.mp near
  obtain ⟨b, byte, near⟩ := mixed.mul_small represents_255 (by linarith) (by linarith)
  obtain ⟨byte_least, byte_greatest⟩ := abs_le.mp near
  refine ⟨b, ?_, abs_le.mpr ⟨by linarith, by linarith⟩⟩
  rw [Pixel.mixedOpacity, ofInt_one]
  exact byte

theorem opacity_of_full {color : Color} (full : color.transparency = 0) :
    color.opacity = 255 := by
  rw [Color.opacity, full]
  decide

namespace Pixel

theorem blend_alpha {color : Color} {coverage : Float} {pixel : Pixel}
    (inRange : color.InRange) (part : IsPart coverage) (before : pixel.alpha = 255) :
    (blend color coverage pixel).alpha = 255 := by
  obtain ⟨v, mixed, near⟩ := mixedOpacity_near part (isPart_opacity inRange)
  have whole : (ofByte 255 / ofInt 255 : Float) = 1 := by rfl
  simp only [blend, before, whole]
  exact toByte_near mixed near

/-- A color put in place of an opaque pixel leaves it opaque if it is opaque, or if the pixel is not
covered. -/
theorem overwrite_alpha {color : Color} {coverage : Float} {pixel : Pixel}
    (kept : color.transparency = 0 ∨ Scalar.lt (ofInt 0) coverage = false)
    (before : pixel.alpha = 255) : (overwrite color coverage pixel).alpha = 255 := by
  rw [overwrite]
  split
  case isTrue covered =>
    rcases kept with full | free
    · rw [ofColor, opacity_of_full full]
      rfl
    · rw [free] at covered
      cases covered
  case isFalse => exact before

end Pixel

namespace Canvas

def site (x y : Nat) : Point Float := ⟨ofInt x, ofInt y⟩

def OpaqueAt (canvas : Canvas) (x y : Nat) : Prop :=
  ∀ pixel, canvas.picture.pixel? x y = some pixel → pixel.alpha = 255

variable {canvas : Canvas} {x y : Nat} {color : Color}

/-- Painting changes each pixel by itself. -/
theorem paint_opaqueAt {shape : Shape Float} (before : canvas.OpaqueAt x y)
    (keeps : ∀ pixel : Pixel, pixel.alpha = 255 →
      (paintPixel canvas.blending color (shape.coverage (site x y)) pixel).alpha = 255) :
    (canvas.paint shape color).OpaqueAt x y := by
  rw [paint]
  cases canvas.window? shape with
  | none => exact before
  | some window =>
      intro pixel found
      dsimp only at found
      rw [Picture.pixel?_mapPixels, Option.map_eq_some_iff] at found
      obtain ⟨old, there, rfl⟩ := found
      split
      case isTrue => exact keeps old (before old there)
      case isFalse => exact before old there

theorem paintAll_opaqueAt {shapes : List (Shape Float)} (before : canvas.OpaqueAt x y)
    (keeps : ∀ shape ∈ shapes, ∀ pixel : Pixel, pixel.alpha = 255 →
      (paintPixel canvas.blending color (shape.coverage (site x y)) pixel).alpha = 255) :
    (canvas.paintAll shapes color).OpaqueAt x y := by
  rw [paintAll]
  induction shapes generalizing canvas with
  | nil => exact before
  | cons shape rest ih =>
      refine ih (paint_opaqueAt before (keeps shape List.mem_cons_self)) ?_
      rw [Drawing.paint_blending]
      exact fun other later => keeps other (List.mem_cons_of_mem _ later)

end Canvas

/-- A typeface whose texts cover no pixel by more than the whole of it. -/
def Typeface.CoversParts (typeface : Typeface Float) : Prop :=
  ∀ position text shape, typeface position text = some shape →
    ∀ point, IsPart (shape.coverage point)

theorem Typeface.coversParts_invisible : Typeface.CoversParts .invisible := by
  intro position text shape found
  cases found

namespace Drawing.Call

variable {α : Type}

def color? : Call α → Option Color
  | .setStrokeWidth _ | .setBlending _ => none
  | .fillPolygon _ color | .strokePolygon _ color | .strokeLine _ _ color
  | .fillEllipse _ _ _ color | .strokeEllipse _ _ _ color | .fillRectangle _ _ color
  | .strokeRectangle _ _ color | .text _ _ color => some color

/-- The straight lines that a call strokes. -/
def segments : Call α → List (Point α × Point α)
  | .strokePolygon vertices _ => Shape.edges vertices
  | .strokeLine start finish _ => [(start, finish)]
  | .strokeRectangle corner opposite _ => Shape.edges (Canvas.corners corner opposite)
  | _ => []

/-- How much smooth lines cover of the pixel at a point is a number. It is none where the length of
a line is beyond all numbers. -/
def Measured (point : Point Float) (call : Call Float) : Prop :=
  ∀ segment ∈ call.segments, ((Shape.line true (ofInt 1 / ofInt 2) segment.1 segment.2).coverage
    point).isNaN = false

instance (point : Point Float) (call : Call Float) : Decidable (call.Measured point) :=
  inferInstanceAs (Decidable (∀ segment ∈ call.segments, _ = false))

theorem measured_fillEllipse (point center : Point Float) (radiusX radiusY : Float)
    (color : Color) : (fillEllipse center radiusX radiusY color).Measured point := by
  intro segment member
  cases member

end Drawing.Call

namespace Canvas

open Drawing (Call)

variable {canvas : Canvas} {typeface : Typeface Float} {point : Point Float} {color : Color}
  {shapes : List (Shape Float)} {call : Call Float}

theorem line_covers_part {start finish : Point Float}
    (measured : canvas.smooth = true → ((Shape.line true (ofInt 1 / ofInt 2) start finish).coverage
      point).isNaN = false) :
    IsPart ((canvas.line start finish).coverage point) := by
  rw [line, halfWidth]
  cases smooth : canvas.smooth with
  | false => exact isPart_indicator _
  | true => exact isPart_clampUnit (measured smooth)

theorem outline_covers_parts {vertices : List (Point Float)}
    (measured : canvas.smooth = true → ∀ segment ∈ Shape.edges vertices,
      ((Shape.line true (ofInt 1 / ofInt 2) segment.1 segment.2).coverage point).isNaN = false) :
    ∀ shape ∈ canvas.outline vertices, IsPart (shape.coverage point) := by
  intro shape member
  obtain ⟨segment, edge, rfl⟩ := List.mem_map.mp member
  exact line_covers_part fun smooth => measured smooth segment edge

theorem polygon_covers_part {vertices : List (Point Float)} {shape : Shape Float}
    (found : Shape.polygon? vertices = some shape) : IsPart (shape.coverage point) := by
  unfold Shape.polygon? at found
  split at found
  case h_1 =>
    split at found
    · obtain rfl := Option.some.inj found
      exact isPart_indicator _
    · cases found
  case h_2 => cases found

theorem ellipse_covers_part {center : Point Float} {radiusX radiusY : Float} {shape : Shape Float}
    (found : Shape.ellipse? center radiusX radiusY = some shape) :
    IsPart (shape.coverage point) := by
  rw [Shape.ellipse?] at found
  split at found
  · cases found
  · obtain rfl := Option.some.inj found
    exact isPart_indicator _

/-- What a call paints covers parts of pixels, in the color of the call. -/
theorem painting_covers_parts (visible : typeface.CoversParts)
    (measured : canvas.smooth = true → call.Measured point)
    (found : canvas.painting? typeface call = some (shapes, color)) :
    call.color? = some color ∧ ∀ shape ∈ shapes, IsPart (shape.coverage point) := by
  cases call with
  | setStrokeWidth | setBlending => cases found
  | fillPolygon vertices =>
      obtain ⟨rfl, rfl⟩ := Prod.mk.inj (Option.some.inj found)
      exact ⟨rfl, fun shape member => polygon_covers_part (Option.mem_toList.mp member)⟩
  | strokePolygon vertices =>
      obtain ⟨rfl, rfl⟩ := Prod.mk.inj (Option.some.inj found)
      exact ⟨rfl, outline_covers_parts measured⟩
  | strokeLine start finish =>
      obtain ⟨rfl, rfl⟩ := Prod.mk.inj (Option.some.inj found)
      refine ⟨rfl, fun shape member => ?_⟩
      rw [List.mem_singleton.mp member]
      exact line_covers_part fun smooth =>
        measured smooth (start, finish) (List.mem_singleton.mpr rfl)
  | fillEllipse center radiusX radiusY =>
      obtain ⟨rfl, rfl⟩ := Prod.mk.inj (Option.some.inj found)
      exact ⟨rfl, fun shape member => ellipse_covers_part (Option.mem_toList.mp member)⟩
  | strokeEllipse | fillRectangle =>
      obtain ⟨rfl, rfl⟩ := Prod.mk.inj (Option.some.inj found)
      refine ⟨rfl, fun shape member => ?_⟩
      rw [List.mem_singleton.mp member]
      exact isPart_indicator _
  | strokeRectangle corner opposite =>
      obtain ⟨rfl, rfl⟩ := Prod.mk.inj (Option.some.inj found)
      exact ⟨rfl, outline_covers_parts measured⟩
  | text position text =>
      obtain ⟨rfl, rfl⟩ := Prod.mk.inj (Option.some.inj found)
      exact ⟨rfl, fun shape member => visible _ _ shape (Option.mem_toList.mp member) point⟩

variable {x y : Nat}

theorem perform_opaqueAt (visible : typeface.CoversParts)
    (measured : canvas.smooth = true → call.Measured (site x y))
    (inRange : ∀ color, call.color? = some color → color.InRange) (on : canvas.blending = true)
    (before : canvas.OpaqueAt x y) : (canvas.perform typeface call).OpaqueAt x y := by
  rw [perform]
  split
  case h_1 shapes color found =>
    obtain ⟨same, parts⟩ := painting_covers_parts visible measured found
    refine paintAll_opaqueAt before fun shape member pixel whole => ?_
    rw [on, paintPixel, if_pos rfl]
    exact Pixel.blend_alpha (inRange color same) (parts shape member) whole
  case h_2 =>
    cases call <;> exact before

/-- Filling an ellipse again without blending leaves opaque pixels opaque, if its color is opaque or
they are outside. -/
theorem refill_opaqueAt {center : Point Float} {radiusX radiusY : Float} {color : Color}
    (kept : color.transparency = 0 ∨ Shape.insideEllipse center (Scalar.abs radiusX)
      (Scalar.abs radiusY) (site x y) = false)
    (off : canvas.blending = false) (before : canvas.OpaqueAt x y) :
    (canvas.perform typeface (.fillEllipse center radiusX radiusY color)).OpaqueAt x y := by
  change (canvas.paintAll (Shape.ellipse? center radiusX radiusY).toList color).OpaqueAt x y
  refine paintAll_opaqueAt before fun shape member pixel whole => ?_
  rw [off, paintPixel, if_neg Bool.false_ne_true]
  refine Pixel.overwrite_alpha (kept.imp_right fun outside => ?_) whole
  have found := Option.mem_toList.mp member
  rw [Shape.ellipse?] at found
  split at found
  · cases found
  · obtain rfl := Option.some.inj found
    dsimp only
    rw [outside]
    rfl

end Canvas

end Vignette
