import Vignette.Proofs.Path.Drawing

namespace Vignette.Path

/-! What a pen remembers of the vertices it has drawn. Every vertex of a run is marked with the
command that drew it, and the marks alone tell where the pen is, whether its open sequence is empty,
and where its subpath began. The invariant `Pen.Tracks` says so of every pen that a run reaches. -/

variable {α : Type}

/-- A vertex, with the command that drew it. -/
structure Mark (α : Type) where
  point : Point α
  kind : Kind

/-- The vertices that a step draws. -/
def Step.points (step : Step α) : List (Point α) := step.after.drawn.drop step.before.drawn.length

/-- The vertices that a step draws, each with its command. -/
def Step.marks (step : Step α) : List (Mark α) :=
  step.points.map fun point => ⟨point, step.command.segment.kind⟩

/-- The vertices that a step draws are those that its pen did not have before. -/
theorem Step.points_eq {pen next : Pen α} {command : Command α} {points : List (Point α)}
    (drew : next.drawn = pen.drawn ++ points) :
    (⟨command, pen, next⟩ : Step α).points = points := by
  simp [Step.points, drew]

/-- All vertices that a run draws. -/
def Run.marks (r : Run α) : List (Mark α) := r.steps.flatMap Step.marks

/-- The pen behind some steps. -/
def penAfter (first : Pen α) (steps : List (Step α)) : Pen α :=
  (steps.getLast?.map Step.after).getD first

/-- Where the subpath began: with the last vertex drawn by a moveto, or with the very first vertex
if there was no moveto. -/
def subpathStart (marks : List (Mark α)) : Option (Mark α) :=
  (marks.filter fun mark => mark.kind = .moveTo).getLast?.or marks.head?

section Start

variable {marks more : List (Mark α)}

@[simp] theorem subpathStart_nil : subpathStart ([] : List (Mark α)) = none := rfl

theorem subpathStart_append_moveTo (marks : List (Mark α)) (point : Point α) :
    subpathStart (marks ++ [⟨point, .moveTo⟩]) = some ⟨point, .moveTo⟩ := by
  simp [subpathStart]

theorem subpathStart_of_no_moveTo (others : ∀ mark ∈ marks, mark.kind ≠ .moveTo) :
    subpathStart marks = marks.head? := by
  have none : marks.filter (fun mark => mark.kind = .moveTo) = [] := by
    simpa [List.filter_eq_nil_iff] using others
  simp [subpathStart, none]

theorem subpathStart_append (nonempty : marks ≠ [])
    (others : ∀ mark ∈ more, mark.kind ≠ .moveTo) :
    subpathStart (marks ++ more) = subpathStart marks := by
  have none : more.filter (fun mark => mark.kind = .moveTo) = [] := by
    simpa [List.filter_eq_nil_iff] using others
  rw [subpathStart, subpathStart, List.filter_append, none, List.append_nil]
  cases marks with
  | nil => contradiction
  | cons first rest => rfl

end Start

variable [Scalar α]

section Run

variable {mode : Mode} {pen next : Pen α} {command : Command α}

theorem run_cons_of_ok (stepped : pen.step mode command = .ok next) (rest : List (Command α)) :
    run mode pen (command :: rest) =
      ⟨⟨command, pen, next⟩ :: (run mode next rest).steps, (run mode next rest).pen,
        (run mode next rest).stop⟩ := by
  simp [run, stepped]

theorem run_cons_of_error {stop : Stop} (refused : pen.step mode command = .error stop)
    (rest : List (Command α)) : run mode pen (command :: rest) = ⟨[], pen, some stop⟩ := by
  simp [run, refused]

end Run

/-- Steps that one pen makes after another, each from where the last one ended. -/
inductive Trace (mode : Mode) (first : Pen α) : List (Step α) → Pen α → Prop
  | rest : Trace mode first [] first
  | step {steps : List (Step α)} {last next : Pen α} {command : Command α}
      (earlier : Trace mode first steps last) (stepped : last.step mode command = .ok next) :
      Trace mode first (steps ++ [⟨command, last, next⟩]) next

section Trace

variable {mode : Mode} {first second last : Pen α} {steps : List (Step α)} {command : Command α}

theorem Trace.cons (stepped : first.step mode command = .ok second)
    (later : Trace mode second steps last) :
    Trace mode first (⟨command, first, second⟩ :: steps) last := by
  induction later with
  | rest =>
      change Trace mode first ([] ++ [_]) second
      exact .step .rest stepped
  | step _ next ih => exact ih.step next

theorem Trace.last_eq (trace : Trace mode first steps last) : last = penAfter first steps := by
  cases trace <;> simp [penAfter]

theorem Trace.take (trace : Trace mode first steps last) (count : Nat) :
    Trace mode first (steps.take count) (penAfter first (steps.take count)) := by
  suffices ∃ middle, Trace mode first (steps.take count) middle by
    obtain ⟨middle, front⟩ := this
    exact front.last_eq ▸ front
  induction trace with
  | rest => exact ⟨first, by simpa using .rest⟩
  | @step steps last next command earlier stepped ih =>
      by_cases inside : count ≤ steps.length
      · rw [List.take_append_of_le_length inside]
        exact ih
      · rw [List.take_of_length_le (by simp; omega)]
        exact ⟨next, earlier.step stepped⟩

/-- A run is a trace. -/
theorem run_trace (mode : Mode) (pen : Pen α) (commands : List (Command α)) :
    Trace mode pen (run mode pen commands).steps (run mode pen commands).pen := by
  induction commands generalizing pen with
  | nil => exact .rest
  | cons command rest ih =>
      cases stepped : pen.step mode command with
      | error stop => rw [run_cons_of_error stepped]; exact .rest
      | ok next => rw [run_cons_of_ok stepped]; exact (ih next).cons stepped

theorem runLexemes_trace (mode : Mode) (lexemes : List (Lexeme α)) :
    Trace mode .initial (runLexemes mode lexemes).steps (runLexemes mode lexemes).pen :=
  run_trace mode .initial (commands lexemes).complete

end Trace

/-- What the marks of all vertices drawn so far say about a pen. -/
structure Pen.Tracks (mode : Mode) (marks : List (Mark α)) (pen : Pen α) : Prop where
  drawn : pen.drawn = marks.map Mark.point
  /-- The cursor is on the vertex drawn last. -/
  cursor : pen.cursor = (marks.getLast?.map Mark.point).getD .origin
  vertices_eq_nil_iff : pen.vertices = [] ↔ marks = []
  start_of_nil : marks = [] → pen.start = 0
  start_lt_length : marks ≠ [] → pen.start < pen.vertices.length
  /-- The subpath begins where the marks say. -/
  vertex_start : pen.vertices[pen.start]? = (subpathStart marks).map Mark.point
  finished_ne_nil : [] ∉ pen.finished
  finished_continuous : mode = .continuous → pen.finished = []

namespace Pen.Tracks

variable {mode : Mode} {marks : List (Mark α)} {pen next : Pen α} {command : Command α}

theorem initial (mode : Mode) : (Pen.initial : Pen α).Tracks mode [] where
  drawn := rfl
  cursor := rfl
  vertices_eq_nil_iff := by simp [Pen.initial, Pen.vertices]
  start_of_nil _ := rfl
  start_lt_length := nofun
  vertex_start := rfl
  finished_ne_nil := by simp [Pen.initial, Pen.finished]
  finished_continuous _ := rfl

theorem finished_of_nil (tracks : pen.Tracks mode marks) (empty : pen.vertices = []) :
    pen.finished = [] := by
  have nothing : pen.finished.flatten ++ pen.vertices = [] := by
    rw [← Pen.drawn, tracks.drawn, tracks.vertices_eq_nil_iff.mp empty]
    rfl
  have hollow := List.flatten_eq_nil_iff.mp (List.append_eq_nil_iff.mp nothing).1
  cases finished : pen.finished with
  | nil => rfl
  | cons first rest =>
      have absent := tracks.finished_ne_nil
      rw [finished] at hollow absent
      have firstEmpty := hollow first (by simp)
      simp [firstEmpty] at absent

theorem flush_ne_nil (tracks : pen.Tracks mode marks) : [] ∉ pen.flush.finished := by
  rw [finished_flush]
  split
  · exact tracks.finished_ne_nil
  · rename_i nonempty
    simp [tracks.finished_ne_nil, Ne.symm nonempty]

theorem begun_ne_nil (tracks : pen.Tracks mode marks) : [] ∉ (pen.begun mode).finished := by
  cases mode with
  | continuous => exact tracks.finished_ne_nil
  | discontinuous => exact tracks.flush_ne_nil

theorem moveTo {point : Point α} (tracks : pen.Tracks mode marks)
    (draws : (pen.begun mode).Draws [point] next) :
    next.Tracks mode (marks ++ [⟨point, .moveTo⟩]) where
  drawn := by rw [draws.drawn, drawn_begun, tracks.drawn]; simp
  cursor := by simp [draws.cursor]
  vertices_eq_nil_iff := by simp [draws.vertices]
  start_of_nil := by simp
  start_lt_length _ := by simp [draws.vertices, draws.start]
  vertex_start := by
    rw [subpathStart_append_moveTo, draws.start, start_begun, draws.vertices]
    simp
  finished_ne_nil := by rw [draws.finished]; exact tracks.begun_ne_nil
  finished_continuous continuous := by
    subst continuous
    rw [draws.finished, finished_begun_continuous]
    exact tracks.finished_continuous rfl

theorem draw {points : List (Point α)} {kind : Kind} (tracks : pen.Tracks mode marks)
    (nonempty : points ≠ []) (stays : kind ≠ .moveTo) (draws : pen.Draws points next) :
    next.Tracks mode (marks ++ points.map fun point => ⟨point, kind⟩) where
  drawn := by
    rw [draws.drawn, tracks.drawn, List.map_append, List.map_map]
    simp [Function.comp_def]
  cursor := by
    rw [draws.cursor, List.getLast?_append, List.getLast?_map]
    cases last : points.getLast? with
    | none => exact absurd (List.getLast?_eq_none_iff.mp last) nonempty
    | some point => rfl
  vertices_eq_nil_iff := by simp [draws.vertices, nonempty]
  start_of_nil := by simp [nonempty]
  start_lt_length _ := by
    by_cases nothing : marks = []
    · have length := List.length_pos_iff.mpr nonempty
      rw [draws.vertices, draws.start, tracks.start_of_nil nothing, List.length_append]
      omega
    · have inside := tracks.start_lt_length nothing
      rw [draws.vertices, draws.start, List.length_append]
      omega
  vertex_start := by
    have others : ∀ mark ∈ points.map (fun point => (⟨point, kind⟩ : Mark α)),
        mark.kind ≠ .moveTo := by simpa using fun _ _ => stays
    rw [draws.vertices, draws.start]
    by_cases nothing : marks = []
    · have empty := tracks.vertices_eq_nil_iff.mpr nothing
      subst nothing
      rw [empty, tracks.start_of_nil rfl, List.nil_append, List.nil_append,
        subpathStart_of_no_moveTo others]
      cases points <;> simp
    · rw [List.getElem?_append_left (tracks.start_lt_length nothing), tracks.vertex_start,
        subpathStart_append nothing others]
  finished_ne_nil := by rw [draws.finished]; exact tracks.finished_ne_nil
  finished_continuous continuous := by
    rw [draws.finished]
    exact tracks.finished_continuous continuous

end Pen.Tracks

theorem Pen.Tracks.step {mode : Mode} {marks : List (Mark α)} {pen next : Pen α}
    {command : Command α} (tracks : pen.Tracks mode marks)
    (stepped : pen.step mode command = .ok next) :
    next.Tracks mode (marks ++ (⟨command, pen, next⟩ : Step α).marks) := by
  rcases Pen.step_cases stepped with ⟨moves, point, draws⟩ | ⟨stays, points, nonempty, draws⟩
  · have drew : next.drawn = pen.drawn ++ [point] := by rw [draws.drawn, Pen.drawn_begun]
    rw [Step.marks, Step.points_eq drew]
    simpa [moves] using tracks.moveTo draws
  · rw [Step.marks, Step.points_eq draws.drawn]
    exact tracks.draw nonempty stays draws

/-- Every pen that a trace reaches is told by the marks of the trace. -/
theorem Trace.tracks {mode : Mode} {steps : List (Step α)} {last : Pen α}
    (trace : Trace mode .initial steps last) : last.Tracks mode (steps.flatMap Step.marks) := by
  induction trace with
  | rest => exact .initial mode
  | step earlier stepped ih => simpa using ih.step stepped

section Refusals

variable {mode : Mode} {marks : List (Mark α)} {pen : Pen α}

/-- What a closepath makes of a pen whose subpath began with some vertex, or has not begun. -/
def Pen.closed (pen : Pen α) (position : Nat) : Option (Mark α) → Except Stop (Pen α)
  | some mark => .ok ((pen.draw [mark.point]).remembering .closePath)
  | none => .error (.malformed ⟨.nothingToClose, position⟩)

/-- A closepath draws the vertex where the subpath began; only a pen that has drawn nothing refuses
it. -/
theorem Pen.Tracks.step_closePath (tracks : pen.Tracks mode marks) (relative : Bool)
    (position : Nat) :
    pen.step mode ⟨.closePath, relative, position⟩ = pen.closed position (subpathStart marks) := by
  cases begins : subpathStart marks with
  | none =>
      have missing : pen.vertices[pen.start]? = none := by rw [tracks.vertex_start, begins]; rfl
      simp [Pen.step, Pen.perform, Pen.closePath, missing, Except.map, Pen.closed]
  | some mark =>
      have found : pen.vertices[pen.start]? = some mark.point := by
        rw [tracks.vertex_start, begins]
        rfl
      simp [Pen.step, Pen.perform, Pen.closePath, found, Except.map, Segment.kind, Pen.remembering,
        Pen.closed]

/-- Only arcs and closepaths are refused, and only as long as nothing is drawn. -/
theorem Pen.Tracks.step_malformed_iff (tracks : pen.Tracks mode marks) (command : Command α) :
    (∃ reason, pen.step mode command = .error (.malformed reason)) ↔
      (command.segment.kind = .arcTo ∨ command.segment.kind = .closePath) ∧ marks = [] := by
  simp only [Pen.step_eq_malformed_iff]
  constructor
  · intro refused
    obtain ⟨reason, _, ⟨isArc, empty, _⟩ | ⟨isClose, beyond, _⟩⟩ := refused
    · exact ⟨.inl isArc, tracks.vertices_eq_nil_iff.mp empty⟩
    · refine ⟨.inr isClose, ?_⟩
      by_cases nothing : marks = []
      · exact nothing
      · have inside := tracks.start_lt_length nothing
        omega
  · intro early
    obtain ⟨isArc | isClose, nothing⟩ := early
    · exact ⟨⟨.arcWithoutStart, command.position⟩, rfl,
        .inl ⟨isArc, tracks.vertices_eq_nil_iff.mpr nothing, rfl⟩⟩
    · have empty := tracks.vertices_eq_nil_iff.mpr nothing
      exact ⟨⟨.nothingToClose, command.position⟩, rfl, .inr ⟨isClose, by simp [empty], rfl⟩⟩

end Refusals

/-- Every pen that the tokens of a path reach, in either mode and after any number of commands, is
told by the vertices drawn until then. A closepath therefore draws where the subpath began, and a
closepath or an arc is refused exactly if nothing was drawn before it. -/
theorem reached_pen_tracks (mode : Mode) (tokens : List String) (count : Nat) :
    let steps := (runLexemes mode (tokens.map Lexeme.ofToken)).steps.take count
    let marks := steps.flatMap Step.marks
    let pen := penAfter .initial steps
    pen.Tracks mode marks ∧
      (∀ relative position,
        pen.step mode ⟨.closePath, relative, position⟩ =
          pen.closed position (subpathStart marks)) ∧
      ∀ command,
        (∃ reason, pen.step mode command = .error (.malformed reason)) ↔
          (command.segment.kind = .arcTo ∨ command.segment.kind = .closePath) ∧ marks = [] := by
  intro steps marks pen
  have tracks : pen.Tracks mode marks :=
    ((runLexemes_trace mode (tokens.map Lexeme.ofToken)).take count).tracks
  exact ⟨tracks, tracks.step_closePath, tracks.step_malformed_iff⟩

end Vignette.Path
