import Vignette.Geometry.Arc
import Vignette.Geometry.Bezier
import Vignette.Path.Command
import Vignette.Path.Mode

namespace Vignette.Path

/-! The pen that draws a path: where it is, what it has drawn, and what each command makes it do.
What it has drawn is kept with the newest first, so that pens share it; `Pen.vertices` and
`Pen.finished` show it in the order of drawing, and the lemmas behind them say what drawing and
flushing do to these views. -/

variable {α : Type}

/-- A pen. The vertices drawn since the last flush form the open sequence; `start` is the place in
it, counted in the order of drawing, where the current subpath began. -/
structure Pen (α : Type) where
  cursor : Point α
  cubicControl : Point α
  quadraticControl : Point α
  previous : Option Kind
  start : Nat
  /-- The open sequence, its newest vertex first. -/
  newest : List (Point α)
  /-- The finished sequences, the newest first. -/
  flushed : List (List (Point α))

/-- Why a pen stops: the path makes no sense, or an arc has no points. -/
inductive Stop where
  | malformed (reason : Malformed)
  | fault (reason : Fault)
deriving DecidableEq, Repr

namespace Pen

def initial [Scalar α] : Pen α where
  cursor := .origin
  cubicControl := .origin
  quadraticControl := .origin
  previous := none
  start := 0
  newest := []
  flushed := []

def vertices (pen : Pen α) : List (Point α) := pen.newest.reverse

def finished (pen : Pen α) : List (List (Point α)) := pen.flushed.reverse

/-- Draws vertices, one after the other; the cursor ends on the last. -/
def draw (pen : Pen α) (points : List (Point α)) : Pen α :=
  { pen with
    newest := points.reverse ++ pen.newest
    cursor := points.getLast?.getD pen.cursor }

/-- Finishes the open sequence, unless it is empty. -/
def flush (pen : Pen α) : Pen α :=
  if pen.newest.isEmpty then pen
  else { pen with newest := [], flushed := pen.vertices :: pen.flushed }

def count (pen : Pen α) : Nat := pen.newest.length + pen.flushed.flatten.length

@[simp] theorem vertices_draw (pen : Pen α) (points : List (Point α)) :
    (pen.draw points).vertices = pen.vertices ++ points := by
  simp [draw, vertices]

@[simp] theorem finished_draw (pen : Pen α) (points : List (Point α)) :
    (pen.draw points).finished = pen.finished := rfl

@[simp] theorem vertices_flush (pen : Pen α) : pen.flush.vertices = [] := by
  unfold flush
  split
  · simp_all [vertices]
  · rfl

theorem finished_flush (pen : Pen α) :
    pen.flush.finished =
      if pen.vertices = [] then pen.finished else pen.finished ++ [pen.vertices] := by
  by_cases empty : pen.newest = [] <;> simp [flush, finished, vertices, empty]

theorem count_eq (pen : Pen α) :
    pen.count = pen.vertices.length + pen.finished.flatten.length := by
  simp [count, vertices, finished, List.length_flatten]

variable [Scalar α]

/-- What the coordinates of a command are measured from. -/
def originOf (pen : Pen α) (command : Command α) : Point α :=
  if command.relative then pen.cursor else .origin

def moveTo (mode : Mode) (pen : Pen α) (finish : Point α) : Pen α :=
  let ready :=
    match mode with
    | .continuous => pen
    | .discontinuous => pen.flush
  draw { ready with start := ready.newest.length } [finish]

def cubicTo (pen : Pen α) (first second finish : Point α) : Pen α :=
  { pen.draw (Bezier.flattenCubic pen.cursor first second finish) with cubicControl := second }

def quadraticTo (pen : Pen α) (control finish : Point α) : Pen α :=
  { pen.draw (Bezier.flattenQuadratic pen.cursor control finish) with quadraticControl := control }

/-- The first control point of a smooth cubic curve: the reflection of the second one of a cubic
curve just drawn, or else the cursor. -/
def smoothCubicControl (pen : Pen α) : Point α :=
  match pen.previous with
  | some .cubicTo | some .smoothCubicTo => pen.cubicControl.reflect pen.cursor
  | _ => pen.cursor

/-- The control point of a smooth quadratic curve: the reflection of the one of a quadratic curve
just drawn, or else the cursor. -/
def smoothQuadraticControl (pen : Pen α) : Point α :=
  match pen.previous with
  | some .quadraticTo | some .smoothQuadraticTo => pen.quadraticControl.reflect pen.cursor
  | _ => pen.cursor

/-- Draws an arc, provided that something has been drawn for it to start from. -/
def arcTo (pen : Pen α) (position : Nat) (arc : Arc α) : Except Stop (Pen α) :=
  if pen.newest.isEmpty then .error (.malformed ⟨.arcWithoutStart, position⟩)
  else
    match arc.flatten with
    | .ok points => .ok (pen.draw points)
    | .error reason => .error (.fault reason)

/-- Draws a line back to where the subpath began. -/
def closePath (pen : Pen α) (position : Nat) : Except Stop (Pen α) :=
  match pen.vertices[pen.start]? with
  | some point => .ok (pen.draw [point])
  | none => .error (.malformed ⟨.nothingToClose, position⟩)

def perform (mode : Mode) (pen : Pen α) (command : Command α) : Except Stop (Pen α) :=
  let origin := pen.originOf command
  match command.segment with
  | .moveTo finish => .ok (moveTo mode pen (finish.shift origin))
  | .lineTo finish => .ok (pen.draw [finish.shift origin])
  | .horizontalTo x => .ok (pen.draw [⟨x + origin.x, pen.cursor.y⟩])
  | .verticalTo y => .ok (pen.draw [⟨pen.cursor.x, y + origin.y⟩])
  | .cubicTo first second finish =>
    .ok (pen.cubicTo (first.shift origin) (second.shift origin) (finish.shift origin))
  | .smoothCubicTo second finish =>
    .ok (pen.cubicTo pen.smoothCubicControl (second.shift origin) (finish.shift origin))
  | .quadraticTo control finish =>
    .ok (pen.quadraticTo (control.shift origin) (finish.shift origin))
  | .smoothQuadraticTo finish =>
    .ok (pen.quadraticTo pen.smoothQuadraticControl (finish.shift origin))
  | .arcTo radiusX radiusY rotation large sweep finish =>
    pen.arcTo command.position {
      start := pen.cursor
      radiusX
      radiusY
      rotation
      large := !Scalar.eq large (Scalar.ofInt 0)
      sweep := !Scalar.eq sweep (Scalar.ofInt 0)
      finish := finish.shift origin }
  | .closePath => pen.closePath command.position

/-- Draws a command and remembers which one it was. -/
def step (mode : Mode) (pen : Pen α) (command : Command α) : Except Stop (Pen α) :=
  (pen.perform mode command).map fun next => { next with previous := some command.segment.kind }

end Pen

end Vignette.Path
