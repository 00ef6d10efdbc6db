import Mathlib.Tactic.Linarith
import Vignette.Proofs.Geometry.Curves
import Vignette.Proofs.Path.Relative
import Vignette.Proofs.Path.Smooth

namespace Vignette.Path

/-! Where a curve leaves the pen. The pen stands on the last point that it has drawn, which is not
the end point of the command but the last point of the flattened curve. In exact arithmetic the two
are the same, and so a relative command behind the curve is measured from the end of the curve. -/

open Scalar (ofInt)

/-- The end point of a curve, as it is written. -/
def Segment.curveEnd? {α : Type} : Segment α → Option (Point α)
  | .cubicTo _ _ finish | .smoothCubicTo _ finish => some finish
  | .quadraticTo _ finish | .smoothQuadraticTo finish => some finish
  | _ => none

section Exact

variable {mode : Mode} {pen next first last : Pen ℝ} {earlier later : List (Step ℝ)}
  {step following : Step ℝ}

theorem Pen.cursor_cubicTo (pen : Pen ℝ) (first second finish : Point ℝ) :
    (pen.cubicTo first second finish).cursor = finish := by
  change (Bezier.flattenCubic _ _ _ _).getLast?.getD pen.cursor = finish
  rw [Bezier.getLast?_flattenCubic, Option.getD_some]

theorem Pen.cursor_quadraticTo (pen : Pen ℝ) (control finish : Point ℝ) :
    (pen.quadraticTo control finish).cursor = finish := by
  change (Bezier.flattenQuadratic _ _ _).getLast?.getD pen.cursor = finish
  rw [Bezier.getLast?_flattenQuadratic, Option.getD_some]

theorem Pen.step_cursor {command : Command ℝ} {finish : Point ℝ}
    (curve : command.segment.curveEnd? = some finish)
    (stepped : pen.step mode command = .ok next) :
    next.cursor = finish.shift (pen.originOf command) := by
  obtain ⟨performed, done, rfl⟩ := step_eq_ok stepped
  obtain ⟨segment, relative, position⟩ := command
  cases segment with
  | cubicTo first second finish =>
      cases curve
      cases done
      exact cursor_cubicTo pen _ _ _
  | smoothCubicTo second finish =>
      cases curve
      cases done
      exact cursor_cubicTo pen _ _ _
  | quadraticTo control finish =>
      cases curve
      cases done
      exact cursor_quadraticTo pen _ _
  | smoothQuadraticTo finish =>
      cases curve
      cases done
      exact cursor_quadraticTo pen _ _
  | _ => cases curve

/-- A step begins where the one before it has left the pen. -/
theorem Trace.before_eq_after (trace : Trace mode first (earlier ++ step :: following :: later) last) :
    following.before = step.after := by
  rw [← List.singleton_append, ← List.append_assoc] at trace
  simpa [penAfter] using trace.middle.1.last_eq

theorem Step.place_real (step : Step ℝ) (point : Point ℝ) :
    step.place point = if step.command.relative then point.shift step.before.cursor else point := by
  rw [place, Pen.originOf]
  split
  · rfl
  · exact shift_origin (fun x => by simp) point

end Exact

/-- A curve is flattened to the points at fifty-one parameters, from its first control point to its
last one, and none of them is beyond the control points. So every curve of a path, smooth or not,
leaves the pen exactly on its end point, from which relative commands behind it are measured. -/
theorem curves_anchored :
    ((Bezier.parameters : List ℝ) = (List.range 51).map fun step : Nat => (step : ℝ) / 50) ∧
    (∀ p0 p1 p2 : Point ℝ,
      Bezier.Anchored [p0, p1, p2] (Bezier.flattenQuadratic p0 p1 p2)) ∧
    (∀ p0 p1 p2 p3 : Point ℝ,
      Bezier.Anchored [p0, p1, p2, p3] (Bezier.flattenCubic p0 p1 p2 p3)) ∧
    ∀ (mode : Mode) (lexemes : List (Lexeme ℝ)) (earlier later : List (Step ℝ)) (step : Step ℝ),
      (runLexemes mode lexemes).steps = earlier ++ step :: later →
      ∀ finish, step.command.segment.curveEnd? = some finish →
        step.after.cursor = step.place finish ∧
        ∀ following ∈ later.head?, following.before.cursor = step.place finish ∧
          ∀ point, following.place point =
            if following.command.relative then point.shift (step.place finish) else point := by
  refine ⟨Bezier.parameters_real, Bezier.flattenQuadratic_anchored, Bezier.flattenCubic_anchored,
    fun mode lexemes earlier later step made finish curve => ?_⟩
  have trace := runLexemes_trace mode lexemes
  rw [made] at trace
  have ends : step.after.cursor = step.place finish := Pen.step_cursor curve trace.middle.2
  refine ⟨ends, fun following next => ?_⟩
  obtain ⟨rest, rfl⟩ := List.head?_eq_some_iff.mp next
  have begins : following.before.cursor = step.place finish := by
    rw [trace.before_eq_after, ends]
  exact ⟨begins, fun point => by rw [following.place_real, begins]⟩

/-- A curve between two lines, the second of which is relative as the curve is. -/
noncomputable def bend : List (Lexeme ℝ) :=
  [.word "M", .number (ofInt 1), .number (ofInt 2), .word "q", .number (ofInt 0),
    .number (ofInt 5), .number (ofInt 2), .number (ofInt 0), .word "l", .number (ofInt 1),
    .number (ofInt 1)]

theorem commands_bend : (commands bend).complete =
    [⟨.moveTo ⟨ofInt 1, ofInt 2⟩, false, 2⟩,
      ⟨.quadraticTo ⟨ofInt 0, ofInt 5⟩ ⟨ofInt 2, ofInt 0⟩, true, 7⟩,
      ⟨.lineTo ⟨ofInt 1, ofInt 1⟩, true, 10⟩] := rfl

theorem curves_anchored_bend :
    ∃ move curve line : Step ℝ, (runLexemes .continuous bend).steps = [move, curve, line] ∧
      curve.command.segment.curveEnd? = some ⟨ofInt 2, ofInt 0⟩ ∧
      curve.after.cursor = ⟨ofInt 3, ofInt 2⟩ ∧
      line.place ⟨ofInt 1, ofInt 1⟩ = ⟨ofInt 4, ofInt 3⟩ := by
  obtain ⟨move, curve, line, made, placed, segment, relative, onward⟩ :
      ∃ move curve line : Step ℝ, (runLexemes .continuous bend).steps = [move, curve, line] ∧
        curve.before.cursor = (⟨ofInt 1, ofInt 2⟩ : Point ℝ).shift .origin ∧
        curve.command.segment.curveEnd? = some ⟨ofInt 2, ofInt 0⟩ ∧
        curve.command.relative = true ∧ line.command.relative = true := by
    rw [runLexemes, commands_bend]
    exact ⟨_, _, _, rfl, rfl, rfl, rfl, rfl⟩
  have cut : (runLexemes .continuous bend).steps = [move] ++ curve :: [line] := made
  obtain ⟨ends, follows⟩ := curves_anchored.2.2.2 _ _ _ _ _ cut _ segment
  have finish : curve.place ⟨ofInt 2, ofInt 0⟩ = ⟨ofInt 3, ofInt 2⟩ := by
    rw [curve.place_real, relative, if_pos rfl, placed]
    norm_num [Point.shift, Point.origin]
  refine ⟨move, curve, line, made, segment, ends.trans finish, ?_⟩
  rw [(follows line rfl).2, onward, if_pos rfl, finish]
  norm_num [Point.shift]

end Vignette.Path
