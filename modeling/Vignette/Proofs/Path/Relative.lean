import Vignette.Proofs.Geometry.Reals
import Vignette.Proofs.Path.Tracing

namespace Vignette.Path

/-! Relative commands. Each can be made absolute by moving its points by the cursor at its place in
the run, and the whole path then draws the same. All this needs of the arithmetic is that an
absolute point, which is measured from the origin, stays what it is. -/

variable {α : Type} [Scalar α]

open Scalar (ofInt)

namespace Segment

/-- Moves the points of a segment. Lines along an axis move along it, and of an arc only the end
moves. -/
def shift (offset : Point α) : Segment α → Segment α
  | .moveTo finish => .moveTo (finish.shift offset)
  | .lineTo finish => .lineTo (finish.shift offset)
  | .horizontalTo x => .horizontalTo (x + offset.x)
  | .verticalTo y => .verticalTo (y + offset.y)
  | .cubicTo first second finish =>
    .cubicTo (first.shift offset) (second.shift offset) (finish.shift offset)
  | .smoothCubicTo second finish => .smoothCubicTo (second.shift offset) (finish.shift offset)
  | .quadraticTo control finish => .quadraticTo (control.shift offset) (finish.shift offset)
  | .smoothQuadraticTo finish => .smoothQuadraticTo (finish.shift offset)
  | .arcTo radiusX radiusY rotation large sweep finish =>
    .arcTo radiusX radiusY rotation large sweep (finish.shift offset)
  | .closePath => .closePath

theorem kind_shift (offset : Point α) (segment : Segment α) :
    (segment.shift offset).kind = segment.kind := by
  cases segment <;> rfl

end Segment

namespace Command

/-- The absolute command that does at a cursor what a command does there. -/
def absolute (command : Command α) (cursor : Point α) : Command α where
  segment := if command.relative then command.segment.shift cursor else command.segment
  relative := false
  position := command.position

theorem kind_absolute (command : Command α) (cursor : Point α) :
    (command.absolute cursor).segment.kind = command.segment.kind := by
  cases relative : command.relative with
  | false => simp [absolute, relative]
  | true => simp [absolute, relative, Segment.kind_shift]

end Command

section Neutral

variable (neutral : ∀ x : α, x + ofInt 0 = x)
include neutral

theorem shift_origin (point : Point α) : point.shift .origin = point := by
  simp only [Point.shift, Point.origin, neutral]

theorem Pen.perform_absolute (mode : Mode) (pen : Pen α) (command : Command α) :
    pen.perform mode (command.absolute pen.cursor) = pen.perform mode command := by
  obtain ⟨segment, relative, position⟩ := command
  cases relative with
  | false => rfl
  | true =>
      have places : Point.origin.x = (ofInt 0 : α) ∧
          Point.origin.y = (ofInt 0 : α) := ⟨rfl, rfl⟩
      cases segment <;>
        simp only [perform, Command.absolute, Segment.shift, originOf, if_true, Bool.false_eq_true,
          if_false, shift_origin neutral, places, neutral]

theorem Pen.step_absolute (mode : Mode) (pen : Pen α) (command : Command α) :
    pen.step mode (command.absolute pen.cursor) = pen.step mode command := by
  rw [step, step, perform_absolute neutral, Command.kind_absolute]

end Neutral

/-- The commands of a path, each made absolute with the cursor that it meets. A command that is
refused leaves the cursor to those behind it. -/
def absolutes (mode : Mode) : Pen α → List (Command α) → List (Command α)
  | _, [] => []
  | pen, command :: rest =>
    command.absolute pen.cursor ::
      absolutes mode ((pen.step mode command).toOption.getD pen) rest

def Step.absolute (step : Step α) : Step α :=
  { step with command := step.command.absolute step.before.cursor }

theorem absolutes_absolute (mode : Mode) (pen : Pen α) (commands : List (Command α)) :
    ∀ command ∈ absolutes mode pen commands, command.relative = false := by
  induction commands generalizing pen with
  | nil => nofun
  | cons command rest ih => exact List.forall_mem_cons.mpr ⟨rfl, ih _⟩

theorem absolutes_kinds (mode : Mode) (pen : Pen α) (commands : List (Command α)) :
    (absolutes mode pen commands).map (fun command => (command.segment.kind, command.position)) =
      commands.map fun command => (command.segment.kind, command.position) := by
  induction commands generalizing pen with
  | nil => rfl
  | cons command rest ih =>
      rw [absolutes, List.map_cons, List.map_cons, ih, Command.kind_absolute]
      rfl

/-- The run of the absolute commands makes the same steps and stops for the same reason. -/
theorem run_absolutes (neutral : ∀ x : α, x + ofInt 0 = x) (mode : Mode) (pen : Pen α)
    (commands : List (Command α)) :
    run mode pen (absolutes mode pen commands) =
      { run mode pen commands with steps := (run mode pen commands).steps.map Step.absolute } := by
  induction commands generalizing pen with
  | nil => rfl
  | cons command rest ih =>
      have same := Pen.step_absolute neutral mode pen command
      cases stepped : pen.step mode command with
      | error stop =>
          rw [absolutes, run_cons_of_error (same.trans stepped), run_cons_of_error stepped]
          rfl
      | ok next =>
          rw [absolutes, run_cons_of_ok (same.trans stepped), run_cons_of_ok stepped, stepped]
          simp only [Except.toOption, Option.getD_some, ih, List.map_cons]
          rfl

/-- A path draws the same sequences, and is given up for the same reason, when each of its relative
commands is replaced by the absolute one with its points moved by the cursor. -/
theorem flattening_absolutes (neutral : ∀ x : α, x + ofInt 0 = x) (mode : Mode)
    (commands : List (Command α)) :
    let absolute := absolutes mode .initial commands
    (∀ command ∈ absolute, command.relative = false) ∧
      absolute.map (fun command => (command.segment.kind, command.position)) =
        commands.map (fun command => (command.segment.kind, command.position)) ∧
      (run mode .initial absolute).steps = (run mode .initial commands).steps.map Step.absolute ∧
      (run mode .initial absolute).stop = (run mode .initial commands).stop ∧
      (run mode .initial absolute).flattening = (run mode .initial commands).flattening := by
  intro absolute
  have made := run_absolutes neutral mode .initial commands
  refine ⟨absolutes_absolute mode .initial commands, absolutes_kinds mode .initial commands, ?_⟩
  rw [show run mode .initial absolute = _ from made]
  exact ⟨rfl, rfl, rfl⟩

noncomputable def stroll : List (Command ℝ) :=
  [⟨.moveTo ⟨ofInt 1, ofInt 2⟩, true, 2⟩, ⟨.horizontalTo (ofInt 3), true, 4⟩,
    ⟨.lineTo ⟨ofInt 1, ofInt (-1)⟩, true, 7⟩, ⟨.closePath, true, 8⟩]

noncomputable def strollFromOrigin : List (Command ℝ) :=
  [⟨.moveTo ⟨ofInt 1, ofInt 2⟩, false, 2⟩, ⟨.horizontalTo (ofInt 4), false, 4⟩,
    ⟨.lineTo ⟨ofInt 5, ofInt 1⟩, false, 7⟩, ⟨.closePath, false, 8⟩]

theorem absolutes_stroll : absolutes .discontinuous .initial stroll = strollFromOrigin := by
  norm_num [stroll, strollFromOrigin, absolutes, Command.absolute, Segment.shift, Pen.step,
    Pen.perform, Pen.moveTo, Pen.draw, Pen.initial, Pen.originOf, Pen.flush, Point.shift,
    Point.origin, Except.map, Except.toOption]

theorem flattening_absolutes_stroll :
    (run .discontinuous .initial strollFromOrigin).flattening =
      (run .discontinuous .initial stroll).flattening := by
  have neutral : ∀ x : ℝ, x + ofInt 0 = x := fun x => by simp
  obtain ⟨_, _, _, _, same⟩ := flattening_absolutes neutral .discontinuous stroll
  rwa [absolutes_stroll] at same

end Vignette.Path
