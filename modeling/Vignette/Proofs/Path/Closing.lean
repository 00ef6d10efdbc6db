import Vignette.Proofs.Path.Streaming

namespace Vignette.Path

/-! A closepath at the end of a path. It adds to the last subpath the vertex with which that began,
or nothing if the path was given up before, and changes no other sequence. -/

variable {α : Type}

/-- The vertices drawn since the current subpath began. -/
def Pen.subpath (pen : Pen α) : List (Point α) := pen.vertices.drop pen.start

theorem Pen.vertices_eq_subpath (pen : Pen α) :
    pen.vertices = pen.vertices.take pen.start ++ pen.subpath :=
  (List.take_append_drop _ _).symm

theorem Pen.subpath_take_one {pen : Pen α} {point : Point α}
    (begins : pen.vertices[pen.start]? = some point) : pen.subpath.take 1 = [point] := by
  rw [subpath, List.take_one, List.head?_drop, begins]
  rfl

/-- What becomes of the sequences of a path when its last subpath is closed: that one gets the
vertex it began with once more, or all stay as they are. Sequences that break at every moveto hold
one subpath each. -/
def Closes (mode : Mode) (subpath : List (Point α)) (sequences closed : List (List (Point α))) :
    Prop :=
  closed = sequences ∨
    ∃ earlier front, sequences = earlier ++ [front ++ subpath] ∧
      closed = earlier ++ [front ++ (subpath ++ subpath.take 1)] ∧
      (mode = .discontinuous → front = [])

variable {mode : Mode}

/-- Closing an open subpath adds one vertex to the last sequence. -/
theorem Pen.Draws.closes {pen next : Pen α} {point : Point α} (draws : pen.Draws [point] next)
    (begins : pen.vertices[pen.start]? = some point)
    (broken : mode = .discontinuous → pen.start = 0) :
    Closes mode pen.subpath pen.flush.finished next.flush.finished := by
  have nonempty : pen.vertices ≠ [] := by
    intro empty
    rw [empty] at begins
    cases begins
  refine .inr ⟨pen.finished, pen.vertices.take pen.start, ?_, ?_, ?_⟩
  · rw [finished_flush, if_neg nonempty, ← vertices_eq_subpath]
  · rw [finished_flush, draws.vertices, if_neg (by simp), draws.finished, subpath_take_one begins,
      ← List.append_assoc, ← vertices_eq_subpath]
  · intro discontinuous
    rw [broken discontinuous, List.take_zero]

variable [Scalar α]

section Start

variable {pen next : Pen α} {command : Command α} {steps : List (Step α)}

theorem Pen.step_start (stepped : pen.step .discontinuous command = .ok next)
    (before : pen.start = 0) : next.start = 0 := by
  rcases step_cases stepped with ⟨_, point, draws⟩ | ⟨_, points, _, draws⟩
  · rw [draws.start, start_begun, vertices_begun_discontinuous]
    rfl
  · rw [draws.start, before]

theorem Trace.start_eq_zero (trace : Trace .discontinuous .initial steps next) :
    next.start = 0 := by
  induction trace with
  | rest => rfl
  | step _ stepped ih => exact Pen.step_start stepped ih

end Start

variable {word : String} {relative : Bool}

/-- A plotter that takes in a closepath draws the vertex where the subpath began, or gives up. -/
theorem Plotter.feed_closing (closes : Kind.ofWord? word = some (.closePath, relative))
    (mode : Mode) (plotter : Plotter α) (position : Nat) :
    (∃ reason, plotter.feed mode position (.word word) = .error (.malformed reason)) ∨
      ∃ next point, plotter.feed mode position (.word word) = .ok next ∧
        plotter.pen.vertices[plotter.pen.start]? = some point ∧
        plotter.pen.Draws [point] next.pen := by
  cases empty : plotter.reading.pending.isEmpty with
  | false =>
      have refused : plotter.reading.take position (.word word) =
          .error ⟨.unusedNumbers plotter.reading.pending.length word, position⟩ := by
        simp [Reading.take, empty]
      have fed : plotter.feed mode position (.word word) =
          .error (.malformed ⟨.unusedNumbers plotter.reading.pending.length word, position⟩) := by
        simp only [feed, refused]
      exact .inl ⟨_, fed⟩
  | true =>
      have read : plotter.reading.take position (.word word) =
          .ok ⟨some (.closePath, relative), []⟩ := by
        simp [Reading.take, empty, closes]
      have complete : (⟨some (.closePath, relative), []⟩ : Reading α).complete? position =
          some ⟨.closePath, relative, position⟩ := rfl
      cases begins : plotter.pen.vertices[plotter.pen.start]? with
      | none =>
          have stepped : plotter.pen.step mode ⟨.closePath, relative, position⟩ =
              .error (.malformed ⟨.nothingToClose, position⟩) := by
            simp [Pen.step, Pen.perform, Pen.closePath, begins, Except.map]
          have fed : plotter.feed mode position (.word word) =
              .error (.malformed ⟨.nothingToClose, position⟩) := by
            simp only [feed, read, complete, stepped]
          exact .inl ⟨_, fed⟩
      | some point =>
          have stepped : plotter.pen.step mode ⟨.closePath, relative, position⟩ =
              .ok ((plotter.pen.draw [point]).remembering .closePath) := by
            simp [Pen.step, Pen.perform, Pen.closePath, begins, Except.map, Segment.kind,
              Pen.remembering]
          have fed : plotter.feed mode position (.word word) =
              .ok ⟨⟨some (.closePath, relative), []⟩,
                (plotter.pen.draw [point]).remembering .closePath⟩ := by
            simp only [feed, read, complete, stepped]
          exact .inr ⟨_, point, fed, rfl, Pen.vertices_draw _ _, rfl, rfl, rfl⟩

theorem flattenLexemes_closed {lexemes : List (Lexeme α)} {whole : Flattening α}
    (closes : Kind.ofWord? word = some (.closePath, relative))
    (flattened : flattenLexemes mode lexemes = .ok whole) :
    ∃ closed, flattenLexemes mode (lexemes ++ [.word word]) = .ok closed ∧
      Closes mode (runLexemes mode lexemes).pen.subpath whole.sequences closed.sequences := by
  have appended := Plotter.initial.feedAll_append mode 0 lexemes [.word word]
  rcases fed : Plotter.initial.feedAll mode 0 lexemes with ⟨middle, stop⟩
  rw [fed] at appended
  cases stop with
  | some stop =>
      refine ⟨whole, ?_, .inl rfl⟩
      rw [flattenLexemes_of_feedAll appended, ← flattenLexemes_of_feedAll fed, flattened]
  | none =>
      have reached : (runLexemes mode lexemes).pen = middle.pen := by
        rw [(runLexemes_eq_feedAll mode lexemes).1, fed]
      have sequences : whole.sequences = middle.pen.flush.finished := by
        rw [flattenLexemes_of_feedAll fed] at flattened
        exact sequences_of_flattening flattened
      have broken : mode = .discontinuous → middle.pen.start = 0 := by
        rintro rfl
        rw [← reached]
        exact (runLexemes_trace .discontinuous lexemes).start_eq_zero
      rw [sequences, reached]
      rcases Plotter.feed_closing closes mode middle (0 + lexemes.length) with
        ⟨reason, refused⟩ | ⟨next, point, taken, begins, draws⟩
      · dsimp only at appended
        rw [Plotter.feedAll_cons_of_error refused] at appended
        exact ⟨_, flattenLexemes_of_feedAll appended, .inl rfl⟩
      · dsimp only at appended
        rw [Plotter.feedAll_cons_of_ok taken] at appended
        exact ⟨_, flattenLexemes_of_feedAll appended, draws.closes begins broken⟩

end Vignette.Path
