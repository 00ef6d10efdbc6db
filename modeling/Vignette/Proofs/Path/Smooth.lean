import Vignette.Proofs.Path.Tracing

namespace Vignette.Path

/-! Smooth curves. A pen keeps the control points of the last cubic and of the last quadratic curve
for good, also when other commands have come in between. That a smooth curve still reflects only the
curve just before it rests on the invariant `Pen.Recalls`, which reads the control points off the
steps of a run instead. Histories are given with the newest step first. -/

variable {α : Type} [Scalar α]

/-- A point of the command of a step, measured from the cursor if the command is relative. -/
def Step.place (step : Step α) (point : Point α) : Point α :=
  point.shift (step.before.originOf step.command)

/-- The control point of a smooth curve: the reflection of the one that is handed on to it, if any,
or else the cursor. -/
def smoothControl (handed : Option (Point α)) (cursor : Point α) : Point α :=
  match handed with
  | some control => control.reflect cursor
  | none => cursor

/-- The control point that the last step hands on to a smooth cubic curve. -/
def cubicHanded : List (Step α) → Option (Point α)
  | [] => none
  | step :: _ =>
    match step.command.segment with
    | .cubicTo _ second _ | .smoothCubicTo second _ => some (step.place second)
    | _ => none

/-- The control point that the last step hands on to a smooth quadratic curve. A smooth curve hands
on the reflection that it was drawn with. -/
def quadraticHanded : List (Step α) → Option (Point α)
  | [] => none
  | step :: earlier =>
    match step.command.segment with
    | .quadraticTo control _ => some (step.place control)
    | .smoothQuadraticTo _ => some (smoothControl (quadraticHanded earlier) step.before.cursor)
    | _ => none

/-- A pen recalls what the last step was and what it hands on. Its other control points may be of
any age. -/
structure Pen.Recalls (history : List (Step α)) (pen : Pen α) : Prop where
  previous : pen.previous = history.head?.map fun step => step.command.segment.kind
  cubic : ∀ control ∈ cubicHanded history, pen.cubicControl = control
  quadratic : ∀ control ∈ quadraticHanded history, pen.quadraticControl = control

namespace Pen.Recalls

variable {mode : Mode} {history : List (Step α)} {pen next : Pen α} {command : Command α}

theorem initial : (Pen.initial : Pen α).Recalls [] where
  previous := rfl
  cubic := nofun
  quadratic := nofun

theorem smoothCubicControl_eq (recalls : pen.Recalls history) :
    pen.smoothCubicControl = smoothControl (cubicHanded history) pen.cursor := by
  obtain ⟨previous, cubic, _⟩ := recalls
  cases history with
  | nil => simp [smoothCubicControl, previous, cubicHanded, smoothControl]
  | cons step earlier =>
      cases drawn : step.command.segment <;>
        simp_all [smoothCubicControl, cubicHanded, smoothControl, Segment.kind]

theorem smoothQuadraticControl_eq (recalls : pen.Recalls history) :
    pen.smoothQuadraticControl = smoothControl (quadraticHanded history) pen.cursor := by
  obtain ⟨previous, _, quadratic⟩ := recalls
  cases history with
  | nil => simp [smoothQuadraticControl, previous, quadraticHanded, smoothControl]
  | cons step earlier =>
      cases drawn : step.command.segment <;>
        simp_all [smoothQuadraticControl, quadraticHanded, smoothControl, Segment.kind]

theorem step (recalls : pen.Recalls history) (stepped : pen.step mode command = .ok next) :
    next.Recalls (⟨command, pen, next⟩ :: history) := by
  obtain ⟨performed, done, rfl⟩ := step_eq_ok stepped
  obtain ⟨segment, relative, position⟩ := command
  -- Only a curve hands anything on, and a curve has just set the control point of its family.
  refine ⟨rfl, fun control handed => ?_, fun control handed => ?_⟩
  · cases segment with
    | cubicTo first second finish =>
        cases done
        cases handed
        rfl
    | smoothCubicTo second finish =>
        cases done
        cases handed
        rfl
    | _ => cases handed
  · cases segment with
    | quadraticTo inner finish =>
        cases done
        cases handed
        rfl
    | smoothQuadraticTo finish =>
        cases done
        cases handed
        exact recalls.smoothQuadraticControl_eq
    | _ => cases handed

theorem draws_smoothCubicTo {second finish : Point α} {relative : Bool} {position : Nat}
    (recalls : pen.Recalls history)
    (stepped : pen.step mode ⟨.smoothCubicTo second finish, relative, position⟩ = .ok next) :
    let origin := pen.originOf (⟨.smoothCubicTo second finish, relative, position⟩ : Command α)
    pen.Draws (Bezier.flattenCubic pen.cursor (smoothControl (cubicHanded history) pen.cursor)
      (second.shift origin) (finish.shift origin)) next := by
  obtain ⟨performed, done, rfl⟩ := step_eq_ok stepped
  cases done
  rw [← recalls.smoothCubicControl_eq]
  exact ⟨vertices_draw _ _, rfl, rfl, rfl⟩

theorem draws_smoothQuadraticTo {finish : Point α} {relative : Bool} {position : Nat}
    (recalls : pen.Recalls history)
    (stepped : pen.step mode ⟨.smoothQuadraticTo finish, relative, position⟩ = .ok next) :
    let origin := pen.originOf (⟨.smoothQuadraticTo finish, relative, position⟩ : Command α)
    pen.Draws (Bezier.flattenQuadratic pen.cursor
      (smoothControl (quadraticHanded history) pen.cursor) (finish.shift origin)) next := by
  obtain ⟨performed, done, rfl⟩ := step_eq_ok stepped
  cases done
  rw [← recalls.smoothQuadraticControl_eq]
  exact ⟨vertices_draw _ _, rfl, rfl, rfl⟩

end Pen.Recalls

omit [Scalar α] in
theorem Step.draws_points {step : Step α} {points : List (Point α)}
    (draws : step.before.Draws points step.after) (length : points.length = 51) :
    step.points = points ∧ step.points.length = 51 ∧
      step.before.Draws step.points step.after := by
  have same : step.points = points := Step.points_eq draws.drawn
  rw [same]
  exact ⟨rfl, length, draws⟩

section Trace

variable {mode : Mode} {first last : Pen α} {steps earlier later : List (Step α)} {step : Step α}

theorem Trace.recalls (trace : Trace mode .initial steps last) : last.Recalls steps.reverse := by
  induction trace with
  | rest => exact .initial
  | step _ stepped ih =>
      rw [List.reverse_append]
      exact ih.step stepped

theorem Trace.middle (trace : Trace mode first (earlier ++ step :: later) last) :
    Trace mode first earlier step.before ∧
      step.before.step mode step.command = .ok step.after := by
  generalize whole : earlier ++ step :: later = steps at trace
  induction trace generalizing later with
  | rest => simp at whole
  | step front stepped ih =>
      -- The step is the last one of the trace, or one of those before it.
      rcases later.eq_nil_or_concat with rfl | ⟨begun, final, rfl⟩
      · obtain ⟨rfl, same⟩ := List.append_inj' whole rfl
        cases same
        exact ⟨front, stepped⟩
      · rw [List.concat_eq_append, ← List.cons_append, ← List.append_assoc] at whole
        exact ih (List.append_inj' whole rfl).1

end Trace

/-- Each smooth curve of a run is drawn from where the steps before it have left the pen, and with
the control point that the last of these steps hands on to it, if that was a curve of its family. -/
theorem runLexemes_smooth {mode : Mode} {lexemes : List (Lexeme α)} {earlier later : List (Step α)}
    {step : Step α} (made : (runLexemes mode lexemes).steps = earlier ++ step :: later) :
    step.before = penAfter .initial earlier ∧
      (∀ second finish, step.command.segment = .smoothCubicTo second finish →
        step.points = Bezier.flattenCubic step.before.cursor
            (smoothControl (cubicHanded earlier.reverse) step.before.cursor)
            (step.place second) (step.place finish) ∧
          step.points.length = 51 ∧ step.before.Draws step.points step.after) ∧
      ∀ finish, step.command.segment = .smoothQuadraticTo finish →
        step.points = Bezier.flattenQuadratic step.before.cursor
            (smoothControl (quadraticHanded earlier.reverse) step.before.cursor)
            (step.place finish) ∧
          step.points.length = 51 ∧ step.before.Draws step.points step.after := by
  have trace := runLexemes_trace mode lexemes
  rw [made] at trace
  obtain ⟨front, stepped⟩ := trace.middle
  have recalls := front.recalls
  obtain ⟨⟨segment, relative, position⟩, before, after⟩ := step
  refine ⟨front.last_eq, ?cubic, ?quadratic⟩
  case cubic =>
    rintro second finish rfl
    exact Step.draws_points (recalls.draws_smoothCubicTo stepped)
      (Bezier.length_flattenCubic _ _ _ _)
  case quadratic =>
    rintro finish rfl
    exact Step.draws_points (recalls.draws_smoothQuadraticTo stepped)
      (Bezier.length_flattenQuadratic _ _ _)

/-- A chain of smooth curves. The word in it names no command. -/
def chain : List (Lexeme Float) :=
  ["Q", "1", "0", "2", "0", "W", "T", "3", "0", "t", "1", "0"].map Lexeme.ofToken

theorem commands_chain : (commands chain).complete =
    [⟨.quadraticTo ⟨1, 0⟩ ⟨2, 0⟩, false, 4⟩, ⟨.smoothQuadraticTo ⟨3, 0⟩, false, 8⟩,
      ⟨.smoothQuadraticTo ⟨1, 0⟩, true, 11⟩] := rfl

theorem runLexemes_smooth_chain :
    ∃ first second third, (runLexemes .continuous chain).steps = [first, second, third] ∧
      third.points = Bezier.flattenQuadratic third.before.cursor
        (((first.place ⟨1, 0⟩).reflect second.before.cursor).reflect third.before.cursor)
        (third.place ⟨1, 0⟩) := by
  obtain ⟨first, second, third, made, begins, goes, ends⟩ : ∃ first second third : Step Float,
      (runLexemes .continuous chain).steps = [first, second, third] ∧
        first.command.segment = .quadraticTo ⟨1, 0⟩ ⟨2, 0⟩ ∧
        second.command.segment = .smoothQuadraticTo ⟨3, 0⟩ ∧
        third.command.segment = .smoothQuadraticTo ⟨1, 0⟩ := by
    rw [runLexemes, commands_chain]
    exact ⟨_, _, _, rfl, rfl, rfl, rfl⟩
  have handed : quadraticHanded [second, first] =
      some ((first.place ⟨1, 0⟩).reflect second.before.cursor) := by
    simp only [quadraticHanded, begins, goes, smoothControl]
  have cut : (runLexemes .continuous chain).steps = [first, second] ++ third :: [] := made
  obtain ⟨_, _, quadratic⟩ := runLexemes_smooth cut
  obtain ⟨drawn, _, _⟩ := quadratic _ ends
  rw [show [first, second].reverse = [second, first] from rfl, handed] at drawn
  exact ⟨first, second, third, made, drawn⟩

end Vignette.Path
