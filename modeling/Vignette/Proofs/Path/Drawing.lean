import Vignette.Path.Flattening

namespace Vignette

/-! What one command does to a pen. Whatever the command, vertices are drawn behind those of the
open sequence and the cursor follows them; a moveto first makes the pen ready for a new subpath.
Later modules argue from these facts and do not open `Pen.step` again. -/

variable {α : Type}

section Curves

variable [Scalar α]

theorem Arc.points_ne_nil {arc : Arc α} {points : List (Point α)}
    (worked : arc.points = .ok points) : points ≠ [] := by
  cases center : arc.centered with
  | error reason => simp [Arc.points, center, bind, Except.bind] at worked
  | ok whole =>
      cases rotated : arc.direction with
      | error reason => simp [Arc.points, center, rotated, bind, Except.bind] at worked
      | ok direction =>
          simp only [Arc.points, center, rotated, bind, Except.bind, pure, Except.pure,
            Except.ok.injEq] at worked
          subst points
          simp

theorem Arc.flatten_ne_nil {arc : Arc α} {points : List (Point α)}
    (worked : arc.flatten = .ok points) : points ≠ [] := by
  unfold Arc.flatten at worked
  split at worked
  · cases worked; simp
  · exact Arc.points_ne_nil worked

theorem Bezier.flattenCubic_ne_nil (p0 p1 p2 p3 : Point α) : flattenCubic p0 p1 p2 p3 ≠ [] := by
  intro empty
  have length := length_flattenCubic p0 p1 p2 p3
  simp [empty] at length

theorem Bezier.flattenQuadratic_ne_nil (p0 p1 p2 : Point α) : flattenQuadratic p0 p1 p2 ≠ [] := by
  intro empty
  have length := length_flattenQuadratic p0 p1 p2
  simp [empty] at length

end Curves

namespace Path.Pen

variable {pen next : Pen α} {points : List (Point α)} {mode : Mode} {command : Command α}

/-- All vertices drawn, in the order of drawing. -/
def drawn (pen : Pen α) : List (Point α) := pen.finished.flatten ++ pen.vertices

/-- The pen that begins a subpath: one that breaks at a moveto first finishes the open sequence. -/
def begun (mode : Mode) (pen : Pen α) : Pen α :=
  let ready :=
    match mode with
    | .continuous => pen
    | .discontinuous => pen.flush
  { ready with start := ready.newest.length }

/-- The pen that remembers a command as the one drawn last. -/
def remembering (pen : Pen α) (kind : Kind) : Pen α := { pen with previous := some kind }

/-- One pen has drawn points behind the open sequence of another; the subpath and the finished
sequences are the same. -/
structure Draws (pen : Pen α) (points : List (Point α)) (next : Pen α) : Prop where
  vertices : next.vertices = pen.vertices ++ points
  finished : next.finished = pen.finished
  start : next.start = pen.start
  cursor : next.cursor = points.getLast?.getD pen.cursor

@[simp] theorem newest_eq_nil (pen : Pen α) : pen.newest = [] ↔ pen.vertices = [] := by
  simp [Pen.vertices]

@[simp] theorem length_newest (pen : Pen α) : pen.newest.length = pen.vertices.length := by
  simp [Pen.vertices]

/-- What a flush returns holds everything drawn. -/
@[simp] theorem flatten_finished_flush (pen : Pen α) : pen.flush.finished.flatten = pen.drawn := by
  rw [finished_flush]
  split
  · rename_i empty
    simp [drawn, empty]
  · simp [drawn]

@[simp] theorem drawn_flush (pen : Pen α) : pen.flush.drawn = pen.drawn := by
  rw [drawn, vertices_flush, List.append_nil, flatten_finished_flush]

theorem count_eq_length_drawn (pen : Pen α) : pen.count = pen.drawn.length := by
  rw [count_eq, drawn, List.length_append, Nat.add_comm]

@[simp] theorem start_begun (mode : Mode) (pen : Pen α) :
    (pen.begun mode).start = (pen.begun mode).vertices.length := by
  cases mode <;> exact length_newest _

/-- Beginning a subpath moves nothing that curves are drawn from. -/
theorem begun_keeps (mode : Mode) (pen : Pen α) :
    (pen.begun mode).cursor = pen.cursor ∧ (pen.begun mode).cubicControl = pen.cubicControl ∧
      (pen.begun mode).quadraticControl = pen.quadraticControl ∧
      (pen.begun mode).previous = pen.previous := by
  cases mode with
  | continuous => exact ⟨rfl, rfl, rfl, rfl⟩
  | discontinuous =>
      by_cases empty : pen.newest.isEmpty = true <;> simp only [begun, flush, empty] <;>
        exact ⟨rfl, rfl, rfl, rfl⟩

theorem vertices_begun_continuous (pen : Pen α) :
    (pen.begun .continuous).vertices = pen.vertices := rfl

theorem finished_begun_continuous (pen : Pen α) :
    (pen.begun .continuous).finished = pen.finished := rfl

theorem vertices_begun_discontinuous (pen : Pen α) :
    (pen.begun .discontinuous).vertices = [] := vertices_flush pen

theorem finished_begun_discontinuous (pen : Pen α) :
    (pen.begun .discontinuous).finished = pen.flush.finished := rfl

theorem finished_flush_begun (mode : Mode) (pen : Pen α) :
    (pen.begun mode).flush.finished = pen.flush.finished := by
  cases mode with
  | continuous =>
      rw [finished_flush, finished_flush]
      rfl
  | discontinuous =>
      rw [finished_flush, vertices_begun_discontinuous, if_pos rfl]
      rfl

/-- Beginning a subpath loses no vertex. -/
@[simp] theorem drawn_begun (mode : Mode) (pen : Pen α) : (pen.begun mode).drawn = pen.drawn := by
  cases mode
  · rfl
  · exact drawn_flush pen

theorem draws_draw (pen : Pen α) (points : List (Point α)) : pen.Draws points (pen.draw points) :=
  ⟨vertices_draw pen points, rfl, rfl, rfl⟩

theorem Draws.drawn (draws : pen.Draws points next) : next.drawn = pen.drawn ++ points := by
  simp [Pen.drawn, draws.vertices, draws.finished]

theorem draws_closePath {position : Nat} (drew : pen.closePath position = .ok next) :
    ∃ points, points ≠ [] ∧ pen.Draws points next := by
  unfold closePath at drew
  split at drew
  · rename_i point _
    cases drew
    exact ⟨[point], by simp, draws_draw pen [point]⟩
  · contradiction

/-- A moveto makes the pen ready and draws its point. -/
theorem draws_moveTo (mode : Mode) (pen : Pen α) (finish : Point α) :
    (pen.begun mode).Draws [finish] (moveTo mode pen finish) :=
  draws_draw (pen.begun mode) [finish]

theorem closePath_eq_malformed_iff (pen : Pen α) (position : Nat) (reason : Malformed) :
    pen.closePath position = .error (.malformed reason) ↔
      pen.vertices.length ≤ pen.start ∧ reason = ⟨.nothingToClose, position⟩ := by
  rw [← List.getElem?_eq_none_iff]
  cases found : pen.vertices[pen.start]? with
  | none =>
      simp only [closePath, found, Except.error.injEq, Stop.malformed.injEq, true_and]
      exact eq_comm
  | some point => simp [closePath, found]

variable [Scalar α]

theorem draws_cubicTo (pen : Pen α) (first second finish : Point α) :
    ∃ points, points ≠ [] ∧ pen.Draws points (pen.cubicTo first second finish) :=
  ⟨_, Bezier.flattenCubic_ne_nil _ _ _ _, vertices_draw _ _, rfl, rfl, rfl⟩

theorem draws_quadraticTo (pen : Pen α) (control finish : Point α) :
    ∃ points, points ≠ [] ∧ pen.Draws points (pen.quadraticTo control finish) :=
  ⟨_, Bezier.flattenQuadratic_ne_nil _ _ _, vertices_draw _ _, rfl, rfl, rfl⟩

theorem draws_arcTo {position : Nat} {arc : Arc α} (drew : pen.arcTo position arc = .ok next) :
    ∃ points, points ≠ [] ∧ pen.Draws points next := by
  unfold arcTo at drew
  split at drew
  · contradiction
  · split at drew
    · rename_i points worked
      cases drew
      exact ⟨points, Arc.flatten_ne_nil worked, draws_draw pen points⟩
    · contradiction

/-- What a command that is carried out does: a moveto begins a subpath with one point, every other
command draws at least one point on. -/
theorem perform_cases (performed : pen.perform mode command = .ok next) :
    (command.segment.kind = .moveTo ∧ ∃ point, (pen.begun mode).Draws [point] next) ∨
      (command.segment.kind ≠ .moveTo ∧ ∃ points, points ≠ [] ∧ pen.Draws points next) := by
  obtain ⟨segment, relative, position⟩ := command
  cases segment with
  | moveTo finish =>
      cases performed
      exact .inl ⟨rfl, _, draws_moveTo mode pen _⟩
  | lineTo finish =>
      cases performed
      exact .inr ⟨nofun, _, List.cons_ne_nil _ _, draws_draw pen _⟩
  | horizontalTo x =>
      cases performed
      exact .inr ⟨nofun, _, List.cons_ne_nil _ _, draws_draw pen _⟩
  | verticalTo y =>
      cases performed
      exact .inr ⟨nofun, _, List.cons_ne_nil _ _, draws_draw pen _⟩
  | cubicTo first second finish =>
      cases performed
      exact .inr ⟨nofun, draws_cubicTo pen _ _ _⟩
  | smoothCubicTo second finish =>
      cases performed
      exact .inr ⟨nofun, draws_cubicTo pen _ _ _⟩
  | quadraticTo control finish =>
      cases performed
      exact .inr ⟨nofun, draws_quadraticTo pen _ _⟩
  | smoothQuadraticTo finish =>
      cases performed
      exact .inr ⟨nofun, draws_quadraticTo pen _ _⟩
  | arcTo radiusX radiusY rotation large sweep finish =>
      exact .inr ⟨nofun, draws_arcTo performed⟩
  | closePath => exact .inr ⟨nofun, draws_closePath performed⟩

theorem step_eq_ok (stepped : pen.step mode command = .ok next) :
    ∃ performed, pen.perform mode command = .ok performed ∧
      next = performed.remembering command.segment.kind := by
  unfold step at stepped
  cases performed : pen.perform mode command with
  | error stop => simp [performed, Except.map] at stepped
  | ok after =>
      rw [performed] at stepped
      cases stepped
      exact ⟨after, rfl, rfl⟩

/-- What a step does; that it remembers the command changes nothing that is drawn. -/
theorem step_cases (stepped : pen.step mode command = .ok next) :
    (command.segment.kind = .moveTo ∧ ∃ point, (pen.begun mode).Draws [point] next) ∨
      (command.segment.kind ≠ .moveTo ∧ ∃ points, points ≠ [] ∧ pen.Draws points next) := by
  obtain ⟨performed, done, rfl⟩ := step_eq_ok stepped
  rcases perform_cases done with ⟨moves, point, draws⟩ | ⟨stays, points, nonempty, draws⟩
  · exact .inl ⟨moves, point, draws.vertices, draws.finished, draws.start, draws.cursor⟩
  · exact .inr ⟨stays, points, nonempty, draws.vertices, draws.finished, draws.start, draws.cursor⟩

/-- Whatever the command, what was drawn stays, and something is drawn behind it. -/
theorem drawn_step (stepped : pen.step mode command = .ok next) :
    ∃ points, points ≠ [] ∧ next.drawn = pen.drawn ++ points := by
  rcases step_cases stepped with ⟨_, point, draws⟩ | ⟨_, points, nonempty, draws⟩
  · exact ⟨[point], by simp, by rw [draws.drawn, drawn_begun]⟩
  · exact ⟨points, nonempty, draws.drawn⟩

theorem step_eq_error_iff (mode : Mode) (pen : Pen α) (command : Command α) (stop : Stop) :
    pen.step mode command = .error stop ↔ pen.perform mode command = .error stop := by
  unfold step
  cases pen.perform mode command <;> simp [Except.map]

theorem arcTo_eq_malformed_iff (pen : Pen α) (position : Nat) (arc : Arc α) (reason : Malformed) :
    pen.arcTo position arc = .error (.malformed reason) ↔
      pen.vertices = [] ∧ reason = ⟨.arcWithoutStart, position⟩ := by
  by_cases empty : pen.vertices = []
  · have refused : pen.newest.isEmpty = true := by simp [empty]
    rw [arcTo, if_pos refused, Except.error.injEq, Stop.malformed.injEq]
    exact ⟨fun same => ⟨empty, same.symm⟩, fun same => same.2.symm⟩
  · simp only [arcTo, List.isEmpty_iff, newest_eq_nil, empty, if_false, false_and, iff_false]
    split <;> simp

/-- A command is refused for one of two reasons: an arc where the open sequence is empty, or a
closepath whose subpath begins behind the end of the open sequence. -/
theorem step_eq_malformed_iff (mode : Mode) (pen : Pen α) (command : Command α)
    (reason : Malformed) :
    pen.step mode command = .error (.malformed reason) ↔
      reason.position = command.position ∧
        ((command.segment.kind = .arcTo ∧ pen.vertices = [] ∧ reason.cause = .arcWithoutStart) ∨
          (command.segment.kind = .closePath ∧ pen.vertices.length ≤ pen.start ∧
            reason.cause = .nothingToClose)) := by
  rw [step_eq_error_iff]
  obtain ⟨segment, relative, position⟩ := command
  obtain ⟨cause, place⟩ := reason
  cases segment with
  | arcTo radiusX radiusY rotation large sweep finish =>
      simp only [perform, arcTo_eq_malformed_iff, Segment.kind, reduceCtorEq, false_and, or_false,
        true_and, Malformed.mk.injEq]
      exact and_rotate.symm
  | closePath =>
      simp only [perform, closePath_eq_malformed_iff, Segment.kind, reduceCtorEq, false_and,
        false_or, true_and, Malformed.mk.injEq]
      exact and_rotate.symm
  | _ => simp [perform, Segment.kind]

end Path.Pen

end Vignette
