import Vignette.Proofs.Canvas.Opacity
import Vignette.Proofs.Color.Range

namespace Vignette

/-! Pictures on an opaque background. Everything that is laid over a picture leaves it opaque. Only
the smaller ellipse that takes the place of what lies below it does not: inside of the stroke of a
circle or an ellipse whose filling lets something through, the picture does so too. -/

open Scalar (abs)

namespace Drawing

open Markup (Place)
open Style (Paint Part Rules)

variable {paint : Paint}

/-! ### The colors of calls -/

/-- Whether a call paints, and does it in a color of a paint. -/
def Call.UsesPaint (paint : Paint) (call : Call Float) : Prop :=
  ∃ part : Part, call.color? = some (part.color paint)

theorem stroked_usePaint {calls : List (Call Float)}
    (each : ∀ call ∈ calls, call.UsesPaint paint) :
    ∀ call ∈ stroked paint calls, call.UsesPaint paint := by
  rw [stroked]
  split
  · simp
  · exact each

theorem lines_usePaint (vertices : List (Point Float)) :
    ∀ call ∈ lines vertices paint.stroke, call.UsesPaint paint := by
  intro call member
  obtain ⟨ends, _, rfl⟩ := List.mem_map.mp member
  exact ⟨.stroke, rfl⟩

theorem filled_usePaint (vertices : List (Point Float)) :
    ∀ call ∈ filled vertices paint, call.UsesPaint paint := by
  intro call member
  rw [filled] at member
  split at member
  · rw [List.mem_singleton.mp member]
    exact ⟨.fill, rfl⟩
  · cases member

theorem usePaint_append {first second : List (Call Float)}
    (front : ∀ call ∈ first, call.UsesPaint paint) (back : ∀ call ∈ second, call.UsesPaint paint) :
    ∀ call ∈ first ++ second, call.UsesPaint paint := by
  intro call member
  exact (List.mem_append.mp member).elim (front call) (back call)

theorem openShape_usePaint (vertices : List (Point Float)) :
    ∀ call ∈ openShape vertices paint, call.UsesPaint paint :=
  usePaint_append (filled_usePaint vertices) (stroked_usePaint (lines_usePaint vertices))

theorem closedShape_usePaint (vertices : List (Point Float)) :
    ∀ call ∈ closedShape vertices paint, call.UsesPaint paint := by
  rw [closedShape]
  split
  · refine usePaint_append (filled_usePaint vertices) (stroked_usePaint fun call member => ?_)
    rw [List.mem_singleton.mp member]
    exact ⟨.stroke, rfl⟩
  · exact stroked_usePaint (lines_usePaint vertices)

theorem line_usePaint (start finish : Point Float) :
    ∀ call ∈ line start finish paint, call.UsesPaint paint := by
  refine stroked_usePaint fun call member => ?_
  rw [List.mem_singleton.mp member]
  exact ⟨.stroke, rfl⟩

theorem rectangle_usePaint (corner : Point Float) (width height : Float) :
    ∀ call ∈ rectangle corner width height paint, call.UsesPaint paint := by
  refine List.forall_mem_cons.mpr ⟨⟨.fill, rfl⟩, stroked_usePaint fun call member => ?_⟩
  rw [List.mem_singleton.mp member]
  exact ⟨.stroke, rfl⟩

theorem textCalls_usePaint (text : String) (scope : Scope) :
    ∀ call ∈ textCalls text scope paint, call.UsesPaint paint := by
  intro call member
  rw [textCalls] at member
  split at member
  · cases member
  · rw [List.mem_singleton.mp member]
    exact ⟨.fill, rfl⟩

theorem usePaint_ofCalls {calls : List (Call Float)}
    (each : ∀ call ∈ calls, call.UsesPaint paint) :
    ∀ call ∈ (Rendering.ofCalls calls).calls, call.UsesPaint paint := each

/-! ### Round shapes -/

def round? (name : String) (scope : Scope) : Option (Point Float × Float × Float) :=
  match name with
  | "circle" => some (pointAt scope "cx" "cy", scope.pixels "r", scope.pixels "r")
  | "ellipse" => some (pointAt scope "cx" "cy", scope.pixels "rx", scope.pixels "ry")
  | _ => none

theorem round?_circle (scope : Scope) : round? "circle" scope =
    some (pointAt scope "cx" "cy", scope.pixels "r", scope.pixels "r") := rfl

theorem round?_ellipse (scope : Scope) : round? "ellipse" scope =
    some (pointAt scope "cx" "cy", scope.pixels "rx", scope.pixels "ry") := rfl

/-- Whether an element takes the place of what lies below a point: the point is inside of the stroke
of a circle or an ellipse, and the filling there is not opaque. -/
def bares (name : String) (inside : Context) (point : Point Float) : Bool :=
  inside.paint.strokeWidth != 0 && inside.paint.fill.transparency != 0 &&
    (round? name inside.scope).any fun (center, radiusX, radiusY) =>
      Shape.insideEllipse center (abs (radiusX - strokeOffset inside.paint.strokeWidth))
        (abs (radiusY - strokeOffset inside.paint.strokeWidth)) point

/-- All shapes but circles and ellipses only lay colors over each other. -/
theorem shape_calls {mode : Path.Mode} {name text : String} {scope : Scope} {own : Rendering}
    (drawn : shape mode name text scope paint = .ok own) :
    (∀ call ∈ own.calls, call.UsesPaint paint) ∨
      ∃ center radiusX radiusY, round? name scope = some (center, radiusX, radiusY) ∧
        own.calls = ellipse center radiusX radiusY paint := by
  unfold shape at drawn
  split at drawn
  case h_1 =>
      obtain rfl := Except.ok.inj drawn
      exact .inl (usePaint_ofCalls (line_usePaint _ _))
  case h_2 => obtain rfl := Except.ok.inj drawn; exact .inr ⟨_, _, _, round?_circle scope, rfl⟩
  case h_3 => obtain rfl := Except.ok.inj drawn; exact .inr ⟨_, _, _, round?_ellipse scope, rfl⟩
  case h_4 =>
      obtain rfl := Except.ok.inj drawn
      exact .inl (usePaint_ofCalls (rectangle_usePaint _ _ _))
  case h_5 =>
      obtain rfl := Except.ok.inj drawn
      exact .inl (usePaint_ofCalls (closedShape_usePaint _))
  case h_6 =>
      obtain rfl := Except.ok.inj drawn
      exact .inl (usePaint_ofCalls (openShape_usePaint _))
  case h_7 =>
      cases path : Path.flatten mode (scope.getD "d" "") with
      | error reason => rw [path] at drawn; cases drawn
      | ok flat =>
          rw [path] at drawn
          obtain rfl := Except.ok.inj drawn
          refine .inl fun call member => ?_
          obtain ⟨vertices, _, among⟩ := List.mem_flatMap.mp member
          exact openShape_usePaint vertices call among
  case h_8 =>
      obtain rfl := Except.ok.inj drawn
      exact .inl (usePaint_ofCalls (textCalls_usePaint text scope))
  case h_9 => obtain rfl := Except.ok.inj drawn; exact .inl (by simp [Rendering.empty])

end Drawing

/-! ### Runs -/

/-- A canvas between the elements that are drawn on it: colors are laid over each other, and the
pixel at a place is opaque. -/
structure Canvas.Intact (smooth : Bool) (x y : Nat) (canvas : Canvas) : Prop where
  blending : canvas.blending = true
  smooth : canvas.smooth = smooth
  opaqueAt : canvas.OpaqueAt x y

namespace Canvas

open Drawing (Call)
open Style (Paint)

variable {typeface : Typeface Float} {smooth : Bool} {x y : Nat} {canvas : Canvas} {paint : Paint}
  {call : Call Float}

theorem paintAll_smooth (canvas : Canvas) (shapes : List (Shape Float)) (color : Color) :
    (canvas.paintAll shapes color).smooth = canvas.smooth := by
  rw [Drawing.paintAll_eq]

theorem perform_smooth (canvas : Canvas) (call : Call Float) :
    (canvas.perform typeface call).smooth = canvas.smooth := by
  cases call with
  | setStrokeWidth | setBlending => rfl
  | _ => exact paintAll_smooth canvas _ _

theorem Intact.perform (visible : typeface.CoversParts) (inRange : paint.InRange)
    (intact : canvas.Intact smooth x y) (uses : call.UsesPaint paint)
    (measured : smooth = true → call.Measured (site x y)) :
    (canvas.perform typeface call).Intact smooth x y := by
  obtain ⟨part, colored⟩ := uses
  refine ⟨?_, (perform_smooth canvas call).trans intact.smooth, ?_⟩
  · rw [Drawing.perform_blending, intact.blending]
    cases call with
    | setStrokeWidth | setBlending => cases colored
    | _ => rfl
  · refine perform_opaqueAt visible (fun on => measured (intact.smooth ▸ on)) ?_ intact.blending
      intact.opaqueAt
    intro color given
    rw [colored] at given
    exact Option.some.inj given ▸ inRange part

theorem Intact.performAll (visible : typeface.CoversParts) (inRange : paint.InRange)
    (intact : canvas.Intact smooth x y) {calls : List (Call Float)}
    (uses : ∀ call ∈ calls, call.UsesPaint paint)
    (measured : smooth = true → ∀ call ∈ calls, call.Measured (site x y)) :
    (canvas.performAll typeface calls).Intact smooth x y := by
  rw [Canvas.performAll]
  induction calls generalizing canvas with
  | nil => exact intact
  | cons call rest ih =>
      exact ih
        (intact.perform visible inRange (uses call List.mem_cons_self)
          fun on => measured on call List.mem_cons_self)
        (fun other later => uses other (List.mem_cons_of_mem _ later))
        (fun on other later => measured on other (List.mem_cons_of_mem _ later))

theorem performAll_append (first second : List (Call Float)) :
    canvas.performAll typeface (first ++ second) =
      (canvas.performAll typeface first).performAll typeface second :=
  List.foldl_append

theorem Intact.refill (typeface : Typeface Float) (intact : canvas.Intact smooth x y)
    {center : Point Float} {radiusX radiusY : Float} {color : Color}
    (kept : color.transparency = 0 ∨
      Shape.insideEllipse center (abs radiusX) (abs radiusY) (site x y) = false) :
    (canvas.performAll typeface [.setBlending false, .fillEllipse center radiusX radiusY color,
      .setBlending true]).Intact smooth x y where
  blending := rfl
  smooth := (perform_smooth (canvas.adjust (.setBlending false : Call Float)) _).trans
    intact.smooth
  opaqueAt :=
    have off : (canvas.adjust (.setBlending false : Call Float)).blending = false := rfl
    refill_opaqueAt kept off intact.opaqueAt

/-- A circle or an ellipse is filled and then stroked, and at last its filling takes the place of
what of the stroke is inside. -/
theorem Intact.ellipse (visible : typeface.CoversParts) (inRange : paint.InRange)
    (intact : canvas.Intact smooth x y) {center : Point Float} {radiusX radiusY : Float}
    (kept : paint.strokeWidth = 0 ∨ paint.fill.transparency = 0 ∨
      Shape.insideEllipse center (abs (radiusX - Drawing.strokeOffset paint.strokeWidth))
        (abs (radiusY - Drawing.strokeOffset paint.strokeWidth)) (site x y) = false) :
    (canvas.performAll typeface (Drawing.ellipse center radiusX radiusY paint)).Intact
      smooth x y := by
  rw [Drawing.ellipse, Drawing.stroked]
  split
  case isTrue =>
    refine intact.performAll visible inRange ?_ fun _ => ?_
    · exact List.forall_mem_singleton.mpr ⟨.fill, rfl⟩
    · exact List.forall_mem_singleton.mpr (Call.measured_fillEllipse _ _ _ _ _)
  case isFalse wide =>
    generalize (Drawing.strokeOffset paint.strokeWidth : Float) = offset at kept ⊢
    let filling : Call Float := .fillEllipse center radiusX radiusY paint.fill
    let stroke : Call Float :=
      .fillEllipse center (radiusX + offset) (radiusY + offset) paint.stroke
    have before : (canvas.performAll typeface [filling, stroke]).Intact smooth x y := by
      refine intact.performAll visible inRange ?_ fun _ => ?_
      · exact List.forall_mem_cons.mpr
          ⟨⟨.fill, rfl⟩, List.forall_mem_singleton.mpr ⟨.stroke, rfl⟩⟩
      · exact List.forall_mem_cons.mpr ⟨Call.measured_fillEllipse _ _ _ _ _,
          List.forall_mem_singleton.mpr (Call.measured_fillEllipse _ _ _ _ _)⟩
    have after := before.refill typeface (kept.resolve_left wide)
    rwa [← performAll_append] at after

end Canvas

namespace Drawing

open Markup (Place)
open Style (Rules)

variable {typeface : Typeface Float} {smooth : Bool} {x y : Nat} {canvas : Canvas}
  {mode : Path.Mode} {rules : Rules} {outermost inside : Context}

theorem kept_of_bares {name : String} {point center : Point Float} {radiusX radiusY : Float}
    (outside : bares name inside point = false)
    (round : round? name inside.scope = some (center, radiusX, radiusY)) :
    inside.paint.strokeWidth = 0 ∨ inside.paint.fill.transparency = 0 ∨
      Shape.insideEllipse center (abs (radiusX - strokeOffset inside.paint.strokeWidth))
        (abs (radiusY - strokeOffset inside.paint.strokeWidth)) point = false := by
  rw [bares, round, Option.any_some] at outside
  simpa [or_assoc, imp_iff_not_or] using outside

theorem turn_intact (visible : typeface.CoversParts) (inRange : inside.paint.InRange)
    (intact : canvas.Intact smooth x y) {name text : String} {own : Rendering}
    (shaped : shape mode name text inside.scope inside.paint = .ok own)
    (outside : bares name inside (Canvas.site x y) = false)
    (measured : smooth = true → ∀ call ∈ own.calls, call.Measured (Canvas.site x y)) :
    (canvas.performAll typeface
      (.setStrokeWidth inside.paint.strokeWidth :: own.calls)).Intact smooth x y := by
  have set : (canvas.adjust (.setStrokeWidth inside.paint.strokeWidth : Call Float)).Intact
      smooth x y := ⟨intact.blending, intact.smooth, intact.opaqueAt⟩
  change (Canvas.performAll typeface
    (canvas.adjust (.setStrokeWidth inside.paint.strokeWidth : Call Float))
    own.calls).Intact smooth x y
  rcases shape_calls shaped with uses | ⟨center, radiusX, radiusY, round, calls⟩
  · exact set.performAll visible inRange uses measured
  · rw [calls]
    exact set.ellipse visible inRange (kept_of_bares outside round)

theorem turns_intact (visible : typeface.CoversParts) (inRange : outermost.paint.InRange)
    {places : List Place} {drawn : Rendering} (intact : canvas.Intact smooth x y)
    (taken : turns mode rules outermost places = .ok drawn)
    (outside : ∀ place ∈ places, ∀ inside, outermost.along rules place.path = .ok inside →
      bares place.element.name inside (Canvas.site x y) = false)
    (measured : smooth = true → ∀ call ∈ drawn.calls, call.Measured (Canvas.site x y)) :
    (canvas.performAll typeface drawn.calls).Intact smooth x y := by
  induction places generalizing canvas drawn with
  | nil =>
      obtain rfl := Except.ok.inj taken
      exact intact
  | cons place rest ih =>
      obtain ⟨own, more, first, later, rfl⟩ := turns_cons_ok taken
      obtain ⟨inside, shaped, reached, drew, rfl⟩ := turn_eq_ok first
      change (canvas.performAll typeface (_ ++ more.calls)).Intact smooth x y
      rw [Canvas.performAll_append]
      have here := turn_intact visible (Context.along_inRange inRange reached) intact drew
        (outside place List.mem_cons_self inside reached)
        fun on call among =>
          measured on call (List.mem_append_left _ (List.mem_cons_of_mem _ among))
      exact ih here later
        (fun other among => outside other (List.mem_cons_of_mem _ among))
        (fun on call among => measured on call (List.mem_append_right _ among))

end Drawing

namespace Document

open Drawing

/-- Whether some element of a document takes the place of what lies below a point. -/
def bares (document : Document) (point : Point Float) : Bool :=
  match document.outermost with
  | .error _ => false
  | .ok outermost => document.root.places.any fun place =>
    match outermost.along document.rules place.path with
    | .error _ => false
    | .ok inside => Drawing.bares place.element.name inside point

theorem bares_eq_false {document : Document} {point : Point Float} {outermost : Context}
    (root : document.outermost = .ok outermost) (outside : document.bares point = false) :
    ∀ place ∈ document.root.places, ∀ inside,
      outermost.along document.rules place.path = .ok inside →
        Drawing.bares place.element.name inside point = false := by
  intro place member inside reached
  unfold Document.bares at outside
  rw [root] at outside
  have here := List.any_eq_false.mp outside place member
  rw [reached] at here
  exact Bool.not_eq_true _ ▸ here

/-- On an opaque background every pixel of a picture is opaque, unless it is inside of the stroke of
a circle or an ellipse whose filling is not opaque. -/
theorem pictureIn_opaque {typeface : Typeface Float} (visible : typeface.CoversParts)
    {document : Document} {options : Options} (background : options.background.alpha = 255)
    {picture : Picture} (made : document.pictureIn typeface options = .ok picture) {x y : Nat}
    (outside : document.bares (Canvas.site x y) = false)
    (measured : options.smooth = true → ∀ drawn, document.rendering options.mode = .ok drawn →
      ∀ call ∈ drawn.calls, call.Measured (Canvas.site x y))
    {pixel : Pixel} (found : picture.pixel? x y = some pixel) : pixel.alpha = 255 := by
  rw [pictureIn] at made
  obtain ⟨canvas, sized, made⟩ := bind_eq_ok made
  obtain ⟨drawn, rendered, made⟩ := bind_eq_ok made
  obtain rfl := Except.ok.inj made
  have blank : canvas.Intact options.smooth x y := by
    rw [Document.canvas, Canvas.ofSize] at sized
    split at sized
    · cases sized
    · split at sized
      · cases sized
      · obtain rfl := Except.ok.inj sized
        exact ⟨rfl, rfl, fun pixel found => Picture.pixel?_blank found ▸ background⟩
  have parts := fun on => measured on drawn rendered
  rw [rendering_eq_drawAll] at rendered
  obtain ⟨outermost, root, drew⟩ := bind_eq_ok rendered
  rw [drawAll_children_eq_turns] at drew
  exact (turns_intact visible (outermost_inRange root) blank drew (bares_eq_false root outside)
    parts).opaqueAt pixel found

def onWhite : Options := ⟨.continuous, true, ⟨255, 255, 255, 255⟩⟩

/-- A pane that lets half of the light through, a green circle with a red stroke on it, and a line
across. -/
def medal : String :=
  "<svg viewBox=\"0 0 2 1\"><rect width=\"2\" height=\"1\" fill=\"#0000ff80\"/>" ++
    "<circle r=\"1\" fill=\"lime\" stroke=\"red\" stroke-width=\"2\"/>" ++
    "<line x2=\"2\" y2=\"1\" stroke=\"red\"/></svg>"

theorem pictureIn_opaque_medal : ∃ document picture pixel drawn,
    Document.read medal = .ok document ∧
    document.pictureIn .invisible onWhite = .ok picture ∧ onWhite.background.alpha = 255 ∧
    document.bares (Canvas.site 0 0) = false ∧ document.rendering onWhite.mode = .ok drawn ∧
    (∃ call ∈ drawn.calls, call.segments ≠ []) ∧
    (∀ call ∈ drawn.calls, call.Measured (Canvas.site 0 0)) ∧
    picture.pixel? 0 0 = some pixel ∧ pixel.alpha = 255 := by
  have facts : ((Document.read medal).toOption.bind fun document =>
      (document.pictureIn .invisible onWhite).toOption.bind fun picture =>
        (document.rendering .continuous).toOption.map fun drawn =>
          (document.bares (Canvas.site 0 0), (picture.pixel? 0 0).isSome,
            drawn.calls.any fun call => !call.segments.isEmpty,
            drawn.calls.all fun call => call.Measured (Canvas.site 0 0))) =
        some (false, true, true, true) := by
    decide +kernel
  cases found : Document.read medal with
  | error reason => rw [found] at facts; cases facts
  | ok document =>
      rw [found] at facts
      cases made : document.pictureIn .invisible onWhite with
      | error reason => simp [Except.toOption, made] at facts
      | ok picture =>
          cases drew : document.rendering .continuous with
          | error reason => simp [Except.toOption, made, drew] at facts
          | ok drawn =>
              simp only [Except.toOption, Option.bind_some, made, drew, Option.map_some,
                Option.some.injEq, Prod.mk.injEq, Option.isSome_iff_exists, List.all_eq_true,
                List.any_eq_true, Bool.not_eq_true', List.isEmpty_eq_false_iff, decide_eq_true_eq] at facts
              obtain ⟨outside, ⟨pixel, there⟩, stroked, measured⟩ := facts
              refine ⟨document, picture, pixel, drawn, rfl, made, rfl, outside, drew, stroked,
                measured, there, ?_⟩
              refine pictureIn_opaque Typeface.coversParts_invisible rfl made outside
                (fun _ other rendered call member => ?_) there
              obtain rfl := Except.ok.inj (drew.symm.trans rendered)
              exact measured call member

def hoop : String := "<svg viewBox=\"0 0 1 1\"><circle r=\"1\" fill=\"none\" stroke=\"red\"/></svg>"

theorem pictureIn_transparent_hoop : ∃ document picture pixel, Document.read hoop = .ok document ∧
    document.pictureIn .invisible onWhite = .ok picture ∧ onWhite.background.alpha = 255 ∧
    picture.pixel? 0 0 = some pixel ∧ pixel.alpha ≠ 255 := by
  have facts : ((Document.read hoop).toOption.bind fun document =>
      (document.pictureIn .invisible onWhite).toOption.bind fun picture =>
        picture.pixel? 0 0) = some ⟨0, 0, 0, 0⟩ := by
    decide +kernel
  cases found : Document.read hoop with
  | error reason => rw [found] at facts; cases facts
  | ok document =>
      rw [found] at facts
      cases made : document.pictureIn .invisible onWhite with
      | error reason => simp [Except.toOption, made] at facts
      | ok picture =>
          simp only [Except.toOption, Option.bind_some, made] at facts
          exact ⟨document, picture, _, rfl, made, rfl, facts, by decide⟩

end Document

end Vignette
