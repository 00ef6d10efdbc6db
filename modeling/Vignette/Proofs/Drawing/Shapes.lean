import Vignette.Canvas.Basic
import Vignette.Drawing.Traversal

namespace Vignette.Drawing

/-! What a shape asks of a canvas. It leaves the width of strokes as it is, strokes only with a
width, fills no polygon with less than three vertices, and where it turns blending off it fills one
ellipse and turns blending on again. -/

open Style (Paint)

variable {α : Type} {paint : Paint} {call : Call α} {before after first second : List (Call α)}

namespace Call

def setsWidth : Call α → Bool
  | .setStrokeWidth _ => true
  | _ => false

def strokes : Call α → Bool
  | .strokePolygon _ _ | .strokeLine _ _ _ | .strokeEllipse _ _ _ _ | .strokeRectangle _ _ _ => true
  | _ => false

/-- A call that paints, and may do so with a paint. -/
def Fair (paint : Paint) : Call α → Prop
  | .setStrokeWidth _ | .setBlending _ => False
  | .fillPolygon vertices _ => 2 < vertices.length
  | .strokePolygon _ _ | .strokeLine _ _ _ | .strokeEllipse _ _ _ _ | .strokeRectangle _ _ _ =>
    1 ≤ paint.strokeWidth
  | .fillEllipse _ _ _ _ | .fillRectangle _ _ _ | .text _ _ _ => True

/-- Whether blending is on after a call. -/
def blendingAfter (on : Bool) : Call α → Bool
  | .setBlending enabled => enabled
  | _ => on

theorem Fair.blendingAfter (fair : call.Fair paint) (on : Bool) : call.blendingAfter on = on := by
  cases call with
  | setBlending enabled => exact fair.elim
  | _ => rfl

theorem Fair.setsWidth (fair : call.Fair paint) : call.setsWidth = false := by
  cases call with
  | setStrokeWidth width => exact fair.elim
  | _ => rfl

theorem Fair.wide (fair : call.Fair paint) (strokes : call.strokes = true) :
    1 ≤ paint.strokeWidth := by
  cases call with
  | strokePolygon | strokeLine | strokeEllipse | strokeRectangle => exact fair
  | _ => cases strokes

end Call

def blendingAfter (on : Bool) (calls : List (Call α)) : Bool := calls.foldl Call.blendingAfter on

theorem blendingAfter_append (on : Bool) (first second : List (Call α)) :
    blendingAfter on (first ++ second) = blendingAfter (blendingAfter on first) second :=
  List.foldl_append

section Canvas

variable [Scalar α] (typeface : Typeface α) (canvas : Canvas)

theorem paint_eq (shape : Shape α) (color : Color) :
    canvas.paint shape color = { canvas with picture := (canvas.paint shape color).picture } := by
  rw [Canvas.paint]
  cases canvas.window? shape with
  | none => rfl
  | some window => rfl

theorem paint_blending (shape : Shape α) (color : Color) :
    (canvas.paint shape color).blending = canvas.blending := by
  rw [paint_eq]

/-- Painting changes nothing of a canvas but its picture. -/
theorem paintAll_eq (shapes : List (Shape α)) (color : Color) :
    canvas.paintAll shapes color =
      { canvas with picture := (canvas.paintAll shapes color).picture } := by
  rw [Canvas.paintAll]
  induction shapes generalizing canvas with
  | nil => rfl
  | cons shape rest ih =>
      rw [List.foldl_cons, ih, paint_eq]

theorem paintAll_blending (shapes : List (Shape α)) (color : Color) :
    (canvas.paintAll shapes color).blending = canvas.blending := by
  rw [paintAll_eq]

theorem perform_blending (call : Call α) :
    (canvas.perform typeface call).blending = call.blendingAfter canvas.blending := by
  cases call with
  | setStrokeWidth | setBlending => rfl
  | _ => exact paintAll_blending canvas _ _

theorem performAll_blending (calls : List (Call α)) :
    (canvas.performAll typeface calls).blending = blendingAfter canvas.blending calls := by
  rw [Canvas.performAll]
  induction calls generalizing canvas with
  | nil => rfl
  | cons call rest ih =>
      rw [List.foldl_cons, ih, perform_blending]
      rfl

end Canvas

/-- The calls a shape may make with a paint. -/
inductive Steady (paint : Paint) : List (Call α) → Prop
  | nil : Steady paint []
  | paint {call : Call α} {rest : List (Call α)} (fair : call.Fair paint)
      (later : Steady paint rest) : Steady paint (call :: rest)
  | refill (center radiusX radiusY color) {rest : List (Call α)} (later : Steady paint rest) :
      Steady paint
        (.setBlending false :: .fillEllipse center radiusX radiusY color :: .setBlending true :: rest)

namespace Steady

theorem append (front : Steady paint first) (back : Steady paint second) :
    Steady paint (first ++ second) := by
  induction front with
  | nil => exact back
  | paint fair _ ih => exact .paint fair ih
  | refill center radiusX radiusY color _ ih => exact .refill center radiusX radiusY color ih

theorem of_fair {calls : List (Call α)} (fair : ∀ call ∈ calls, call.Fair paint) :
    Steady paint calls := by
  induction calls with
  | nil => exact .nil
  | cons call rest ih =>
      exact .paint (fair call List.mem_cons_self)
        (ih fun other member => fair other (List.mem_cons_of_mem _ member))

theorem flatMap {β : Type} {elements : List β} {calls : β → List (Call α)}
    (each : ∀ element, Steady paint (calls element)) : Steady paint (elements.flatMap calls) := by
  induction elements with
  | nil => exact .nil
  | cons element rest ih => exact (each element).append ih

theorem blendingAfter_eq {calls : List (Call α)} (steady : Steady paint calls) :
    blendingAfter true calls = true := by
  induction steady with
  | nil => rfl
  | paint fair _ ih =>
      rw [blendingAfter, List.foldl_cons, fair.blendingAfter]
      exact ih
  | refill _ _ _ _ _ ih => exact ih

theorem setsWidth_eq {calls : List (Call α)} (steady : Steady paint calls) :
    ∀ call ∈ calls, call.setsWidth = false := by
  induction steady with
  | nil => simp
  | paint fair _ ih =>
      intro call member
      rcases List.mem_cons.mp member with rfl | later
      · exact fair.setsWidth
      · exact ih call later
  | refill _ _ _ _ _ ih =>
      intro call member
      simp only [List.mem_cons] at member
      rcases member with rfl | rfl | rfl | later
      · rfl
      · rfl
      · rfl
      · exact ih call later

end Steady

/-- Where a call stands among others: it paints with blending on, or it is one of the three calls
that fill an ellipse without blending. -/
inductive Stands (paint : Paint) : List (Call α) → Call α → List (Call α) → Prop
  | alone {before after : List (Call α)} {call : Call α} (fair : call.Fair paint)
      (on : blendingAfter true before = true) : Stands paint before call after
  | turnsOff {before after : List (Call α)} (center radiusX radiusY color)
      (on : blendingAfter true before = true) :
      Stands paint before (.setBlending false)
        (.fillEllipse center radiusX radiusY color :: .setBlending true :: after)
  | refills (before : List (Call α)) (center radiusX radiusY color) {after : List (Call α)} :
      Stands paint (before ++ [.setBlending false]) (.fillEllipse center radiusX radiusY color)
        (.setBlending true :: after)
  | turnsOn (before : List (Call α)) (center radiusX radiusY color) {after : List (Call α)} :
      Stands paint (before ++ [.setBlending false, .fillEllipse center radiusX radiusY color])
        (.setBlending true) after

theorem Stands.between (stands : Stands paint before call after) {earlier : List (Call α)}
    (on : blendingAfter true earlier = true) (later : List (Call α)) :
    Stands paint (earlier ++ before) call (after ++ later) := by
  cases stands with
  | alone fair still =>
      refine .alone fair ?_
      rw [blendingAfter_append, on, still]
  | turnsOff center radiusX radiusY color still =>
      refine .turnsOff center radiusX radiusY color ?_
      rw [blendingAfter_append, on, still]
  | refills before center radiusX radiusY color =>
      rw [← List.append_assoc]
      exact .refills _ center radiusX radiusY color
  | turnsOn before center radiusX radiusY color =>
      rw [← List.append_assoc]
      exact .turnsOn _ center radiusX radiusY color

theorem Steady.stands {calls : List (Call α)} (steady : Steady paint calls)
    (split : calls = before ++ call :: after) : Stands paint before call after := by
  induction steady generalizing before with
  | nil => simp at split
  | @paint head rest fair later ih =>
      cases before with
      | nil =>
          obtain ⟨rfl, rfl⟩ := List.cons.inj split
          exact .alone fair rfl
      | cons head before =>
          obtain ⟨rfl, rest_eq⟩ := List.cons.inj split
          have on : blendingAfter true [head] = true := fair.blendingAfter true
          simpa using (ih rest_eq).between on []
  | refill center radiusX radiusY color later ih =>
      -- The call is one of the three, or comes behind them.
      match before, split with
      | [], split =>
          obtain ⟨rfl, rfl⟩ := List.cons.inj split
          exact .turnsOff center radiusX radiusY color rfl
      | [_], split =>
          injection split with head split
          injection split with second rest
          subst head second rest
          exact .refills [] center radiusX radiusY color
      | [_, _], split =>
          injection split with head split
          injection split with second split
          injection split with third rest
          subst head second third rest
          exact .turnsOn [] center radiusX radiusY color
      | first :: second :: third :: before, split =>
          injection split with head split
          injection split with second' split
          injection split with third' rest
          subst head second' third'
          have on : blendingAfter true [.setBlending false,
              .fillEllipse center radiusX radiusY color, .setBlending true] = true := rfl
          simpa using (ih rest).between on []

namespace Stands

theorem wide (stands : Stands paint before call after) (strokes : call.strokes = true) :
    1 ≤ paint.strokeWidth := by
  cases stands with
  | alone fair _ => exact fair.wide strokes
  | turnsOff | refills | turnsOn => cases strokes

theorem enough {vertices : List (Point α)} {color : Color} (stands : Stands paint before call after)
    (fills : call = .fillPolygon vertices color) : 3 ≤ vertices.length := by
  subst fills
  cases stands with
  | alone fair _ => exact fair

theorem after_off (stands : Stands paint before call after) (off : call = .setBlending false) :
    ∃ center radiusX radiusY color later,
      after = .fillEllipse center radiusX radiusY color :: .setBlending true :: later := by
  cases stands with
  | alone fair _ => rw [off] at fair; exact fair.elim
  | turnsOff center radiusX radiusY color _ => exact ⟨center, radiusX, radiusY, color, _, rfl⟩
  | refills | turnsOn => cases off

theorem before_on (stands : Stands paint before call after) (on : call = .setBlending true) :
    ∃ earlier center radiusX radiusY color,
      before = earlier ++ [.setBlending false, .fillEllipse center radiusX radiusY color] := by
  cases stands with
  | alone fair _ => rw [on] at fair; exact fair.elim
  | turnsOn earlier center radiusX radiusY color =>
      exact ⟨earlier, center, radiusX, radiusY, color, rfl⟩
  | turnsOff | refills => cases on

/-- Blending is on before all calls but the filling of an ellipse again and what follows it. -/
theorem blending (stands : Stands paint before call after) :
    blendingAfter true before = true ∨ call = .setBlending true ∨
      ∃ earlier center radiusX radiusY color later, before = earlier ++ [.setBlending false] ∧
        call = .fillEllipse center radiusX radiusY color ∧ after = .setBlending true :: later := by
  cases stands with
  | alone _ on | turnsOff _ _ _ _ on => exact .inl on
  | refills earlier center radiusX radiusY color =>
      exact .inr (.inr ⟨earlier, center, radiusX, radiusY, color, _, rfl, rfl, rfl⟩)
  | turnsOn => exact .inr (.inl rfl)

end Stands

/-! Every shape keeps to this. -/

theorem stroked_steady {calls : List (Call α)}
    (fair : 1 ≤ paint.strokeWidth → Steady paint calls) : Steady paint (stroked paint calls) := by
  rw [stroked]
  split
  case isTrue => exact .nil
  case isFalse wide => exact fair (by omega)

theorem stroked_lines_steady (vertices : List (Point α)) (color : Color) :
    Steady paint (stroked paint (lines vertices color)) := by
  refine stroked_steady fun wide => .of_fair fun call member => ?_
  obtain ⟨ends, _, rfl⟩ := List.mem_map.mp member
  exact wide

theorem filled_steady (vertices : List (Point α)) : Steady paint (filled vertices paint) := by
  rw [filled]
  split
  case isTrue enough => exact .paint enough .nil
  case isFalse => exact .nil

theorem openShape_steady (vertices : List (Point α)) : Steady paint (openShape vertices paint) :=
  (filled_steady vertices).append (stroked_lines_steady vertices paint.stroke)

theorem closedShape_steady (vertices : List (Point α)) :
    Steady paint (closedShape vertices paint) := by
  rw [closedShape]
  split
  case isTrue =>
      exact (filled_steady vertices).append (stroked_steady fun wide => .paint wide .nil)
  case isFalse => exact stroked_lines_steady vertices paint.stroke

theorem line_steady (start finish : Point α) : Steady paint (line start finish paint) :=
  stroked_steady fun wide => .paint wide .nil

section Scalar

variable [Scalar α]

theorem ellipse_steady (center : Point α) (radiusX radiusY : α) :
    Steady paint (ellipse center radiusX radiusY paint) :=
  .paint trivial (stroked_steady fun _ => .paint trivial (.refill _ _ _ _ .nil))

theorem rectangle_steady (corner : Point α) (width height : α) :
    Steady paint (rectangle corner width height paint) :=
  .paint trivial (stroked_steady fun wide => .paint wide .nil)

end Scalar

theorem textCalls_steady (text : String) (scope : Scope) :
    Steady paint (textCalls text scope paint) := by
  rw [textCalls]
  split
  case isTrue => exact .nil
  case isFalse => exact .paint trivial .nil

theorem flattened_steady (path : Path.Flattening Float) :
    Steady paint (flattened paint path).calls :=
  .flatMap openShape_steady

theorem Steady.ofCalls {calls : List (Call Float)} (steady : Steady paint calls) :
    Steady paint (Rendering.ofCalls calls).calls := steady

theorem shape_steady {mode : Path.Mode} {name text : String} {scope : Scope} {own : Rendering}
    (drawn : shape mode name text scope paint = .ok own) : Steady paint own.calls := by
  unfold shape at drawn
  split at drawn
  case h_1 => obtain rfl := Except.ok.inj drawn; exact .ofCalls (line_steady _ _)
  case h_2 => obtain rfl := Except.ok.inj drawn; exact .ofCalls (ellipse_steady _ _ _)
  case h_3 => obtain rfl := Except.ok.inj drawn; exact .ofCalls (ellipse_steady _ _ _)
  case h_4 => obtain rfl := Except.ok.inj drawn; exact .ofCalls (rectangle_steady _ _ _)
  case h_5 => obtain rfl := Except.ok.inj drawn; exact .ofCalls (closedShape_steady _)
  case h_6 => obtain rfl := Except.ok.inj drawn; exact .ofCalls (openShape_steady _)
  case h_7 =>
      cases path : Path.flatten mode (scope.getD "d" "") with
      | error reason => rw [path] at drawn; cases drawn
      | ok flat =>
          rw [path] at drawn
          obtain rfl := Except.ok.inj drawn
          exact flattened_steady flat
  case h_8 => obtain rfl := Except.ok.inj drawn; exact .ofCalls (textCalls_steady text scope)
  case h_9 => obtain rfl := Except.ok.inj drawn; exact .nil

end Vignette.Drawing
