import Vignette.Proofs.Path.Tracing

namespace Vignette.Path

/-! The two ways of joining subpaths draw the same vertices. A pen that breaks its sequences at
every moveto and a pen that joins them all stay alike: the joined one has in its open sequence what
the broken one has spread over all of its sequences, and its subpath begins as much later as there
are finished vertices before. So both draw, refuse and fault together. -/

variable {α : Type}

/-- Two outcomes agree: both are results, and related, or both stop for the same reason. -/
inductive Agree {ε β γ : Type} (related : β → γ → Prop) : Except ε β → Except ε γ → Prop
  | ok {left : β} {right : γ} (same : related left right) : Agree related (.ok left) (.ok right)
  | error (reason : ε) : Agree related (.error reason) (.error reason)

theorem Agree.cases {ε β γ : Type} {related : β → γ → Prop} {left : Except ε β}
    {right : Except ε γ} (agree : Agree related left right) :
    (∃ first second, left = .ok first ∧ right = .ok second ∧ related first second) ∨
      ∃ reason, left = .error reason ∧ right = .error reason := by
  cases agree with
  | ok same => exact .inl ⟨_, _, rfl, rfl, same⟩
  | error reason => exact .inr ⟨reason, rfl, rfl⟩

/-- A pen that breaks at movetos and a pen that joins subpaths have drawn the same, and whatever
they draw next is the same. -/
structure Alike (broken joined : Pen α) : Prop where
  cursor : joined.cursor = broken.cursor
  cubicControl : joined.cubicControl = broken.cubicControl
  quadraticControl : joined.quadraticControl = broken.quadraticControl
  previous : joined.previous = broken.previous
  finished : joined.finished = []
  vertices : joined.vertices = broken.drawn
  start : joined.start = broken.finished.flatten.length + broken.start
  finished_of_nil : broken.vertices = [] → broken.finished = []

namespace Alike

variable {broken joined : Pen α}

theorem drawn (alike : Alike broken joined) : joined.drawn = broken.drawn := by
  rw [Pen.drawn, alike.finished, alike.vertices]
  rfl

theorem vertices_eq_nil_iff (alike : Alike broken joined) :
    joined.vertices = [] ↔ broken.vertices = [] := by
  rw [alike.vertices, Pen.drawn, List.append_eq_nil_iff]
  constructor
  · exact And.right
  · intro empty
    exact ⟨by rw [alike.finished_of_nil empty]; rfl, empty⟩

theorem vertex_start (alike : Alike broken joined) :
    joined.vertices[joined.start]? = broken.vertices[broken.start]? := by
  rw [alike.vertices, alike.start, Pen.drawn, List.getElem?_append_right (by omega)]
  congr 1
  omega

theorem draw (alike : Alike broken joined) (points : List (Point α)) :
    Alike (broken.draw points) (joined.draw points) where
  cursor := by simp [Pen.draw, alike.cursor]
  cubicControl := alike.cubicControl
  quadraticControl := alike.quadraticControl
  previous := alike.previous
  finished := alike.finished
  vertices := by
    rw [Pen.vertices_draw, alike.vertices, (Pen.draws_draw broken points).drawn]
  start := alike.start
  finished_of_nil empty := by
    rw [Pen.vertices_draw, List.append_eq_nil_iff] at empty
    exact alike.finished_of_nil empty.1

theorem remembering (alike : Alike broken joined) (kind : Kind) :
    Alike (broken.remembering kind) (joined.remembering kind) :=
  { alike with previous := rfl }

theorem begun (alike : Alike broken joined) :
    (joined.begun .continuous).vertices = (broken.begun .discontinuous).drawn ∧
      (joined.begun .continuous).start =
        (broken.begun .discontinuous).finished.flatten.length := by
  constructor
  · rw [Pen.vertices_begun_continuous, alike.vertices, Pen.drawn_begun]
  · rw [Pen.start_begun, Pen.vertices_begun_continuous, alike.vertices,
      Pen.finished_begun_discontinuous, Pen.flatten_finished_flush]

/-- A moveto breaks one sequence and goes on with the other. -/
theorem moveTo (alike : Alike broken joined) (finish : Point α) :
    Alike (Pen.moveTo .discontinuous broken finish) (Pen.moveTo .continuous joined finish) := by
  have brokenDraws := Pen.draws_moveTo .discontinuous broken finish
  have joinedDraws := Pen.draws_moveTo .continuous joined finish
  obtain ⟨_, cubicControl, quadraticControl, previous⟩ := Pen.begun_keeps .discontinuous broken
  obtain ⟨vertices, start⟩ := alike.begun
  exact {
    cursor := by rw [brokenDraws.cursor, joinedDraws.cursor]; rfl
    cubicControl := alike.cubicControl.trans cubicControl.symm
    quadraticControl := alike.quadraticControl.trans quadraticControl.symm
    previous := alike.previous.trans previous.symm
    finished := by rw [joinedDraws.finished]; exact alike.finished
    vertices := by rw [joinedDraws.vertices, brokenDraws.drawn, vertices]
    start := by
      rw [joinedDraws.start, start, brokenDraws.start, brokenDraws.finished, Pen.start_begun,
        Pen.vertices_begun_discontinuous]
      rfl
    finished_of_nil := by rw [brokenDraws.vertices]; simp }

theorem closePath (alike : Alike broken joined) (position : Nat) :
    Agree Alike (broken.closePath position) (joined.closePath position) := by
  unfold Pen.closePath
  rw [alike.vertex_start]
  split
  · exact .ok (alike.draw _)
  · exact .error _

variable [Scalar α]

theorem initial : Alike (Pen.initial : Pen α) Pen.initial where
  cursor := rfl
  cubicControl := rfl
  quadraticControl := rfl
  previous := rfl
  finished := rfl
  vertices := rfl
  start := rfl
  finished_of_nil _ := rfl

theorem cubicTo (alike : Alike broken joined) (first second finish : Point α) :
    Alike (broken.cubicTo first second finish) (joined.cubicTo first second finish) := by
  unfold Pen.cubicTo
  rw [alike.cursor]
  exact { alike.draw _ with cubicControl := rfl }

theorem quadraticTo (alike : Alike broken joined) (control finish : Point α) :
    Alike (broken.quadraticTo control finish) (joined.quadraticTo control finish) := by
  unfold Pen.quadraticTo
  rw [alike.cursor]
  exact { alike.draw _ with quadraticControl := rfl }

theorem arcTo (alike : Alike broken joined) (position : Nat) (arc : Arc α) :
    Agree Alike (broken.arcTo position arc) (joined.arcTo position arc) := by
  have guard : joined.newest.isEmpty = broken.newest.isEmpty := by
    rw [Bool.eq_iff_iff]
    simpa using alike.vertices_eq_nil_iff
  unfold Pen.arcTo
  rw [guard]
  split
  · exact .error _
  · split
    · exact .ok (alike.draw _)
    · exact .error _

theorem originOf (alike : Alike broken joined) (command : Command α) :
    joined.originOf command = broken.originOf command := by
  simp [Pen.originOf, alike.cursor]

theorem smoothCubicControl (alike : Alike broken joined) :
    joined.smoothCubicControl = broken.smoothCubicControl := by
  simp [Pen.smoothCubicControl, alike.previous, alike.cubicControl, alike.cursor]

theorem smoothQuadraticControl (alike : Alike broken joined) :
    joined.smoothQuadraticControl = broken.smoothQuadraticControl := by
  simp [Pen.smoothQuadraticControl, alike.previous, alike.quadraticControl, alike.cursor]

theorem perform (alike : Alike broken joined) (command : Command α) :
    Agree Alike (broken.perform .discontinuous command) (joined.perform .continuous command) := by
  unfold Pen.perform
  simp only [alike.originOf, alike.cursor, alike.smoothCubicControl, alike.smoothQuadraticControl]
  cases command.segment with
  | moveTo finish => exact .ok (alike.moveTo _)
  | lineTo finish => exact .ok (alike.draw _)
  | horizontalTo x => exact .ok (alike.draw _)
  | verticalTo y => exact .ok (alike.draw _)
  | cubicTo first second finish => exact .ok (alike.cubicTo _ _ _)
  | smoothCubicTo second finish => exact .ok (alike.cubicTo _ _ _)
  | quadraticTo control finish => exact .ok (alike.quadraticTo _ _)
  | smoothQuadraticTo finish => exact .ok (alike.quadraticTo _ _)
  | arcTo radiusX radiusY rotation large sweep finish => exact alike.arcTo _ _
  | closePath => exact alike.closePath _

theorem step (alike : Alike broken joined) (command : Command α) :
    Agree Alike (broken.step .discontinuous command) (joined.step .continuous command) := by
  unfold Pen.step
  rcases (alike.perform command).cases with ⟨first, second, broke, joins, next⟩ | ⟨stop, broke, joins⟩
  · rw [broke, joins]
    exact .ok (next.remembering command.segment.kind)
  · rw [broke, joins]
    exact .error stop

end Alike

theorem Alike.marks {α : Type} {broken joined brokenNext joinedNext : Pen α}
    (before : Alike broken joined) (after : Alike brokenNext joinedNext) (command : Command α) :
    (⟨command, broken, brokenNext⟩ : Step α).marks =
      (⟨command, joined, joinedNext⟩ : Step α).marks := by
  simp [Step.marks, Step.points, before.drawn, after.drawn]

/-- Alike pens stay alike over any list of commands, draw the same vertices with the same commands,
and stop in the same place. -/
theorem Alike.run {α : Type} [Scalar α] {broken joined : Pen α} (alike : Alike broken joined)
    (commands : List (Command α)) :
    Alike (run .discontinuous broken commands).pen (run .continuous joined commands).pen ∧
      (run .discontinuous broken commands).stop = (run .continuous joined commands).stop ∧
      (run .discontinuous broken commands).marks = (run .continuous joined commands).marks := by
  induction commands generalizing broken joined with
  | nil => exact ⟨alike, rfl, rfl⟩
  | cons command rest ih =>
      rcases (alike.step command).cases with
        ⟨brokenNext, joinedNext, broke, joins, next⟩ | ⟨stop, broke, joins⟩
      · obtain ⟨pens, stops, later⟩ := ih next
        rw [run_cons_of_ok broke, run_cons_of_ok joins]
        refine ⟨pens, stops, ?_⟩
        simp only [Run.marks, List.flatMap_cons, alike.marks next command] at later ⊢
        rw [later]
      · rw [run_cons_of_error broke, run_cons_of_error joins]
        exact ⟨alike, rfl, rfl⟩

/-- Marked sequences that are cut at movetos: all but the first begin with the vertex of a moveto,
and no vertex behind the first of its sequence is one. -/
structure CutAtMoves {α : Type} (marked : List (List (Mark α))) : Prop where
  heads : ∀ sequence ∈ marked.tail, ∃ first rest, sequence = first :: rest ∧ first.kind = .moveTo
  tails : ∀ sequence ∈ marked, ∀ mark ∈ sequence.tail, mark.kind ≠ .moveTo

section Cuts

variable {α : Type} {done : List (List (Mark α))} {current more : List (Mark α)}

theorem CutAtMoves.single (point : Point α) (kind : Kind) :
    CutAtMoves [[(⟨point, kind⟩ : Mark α)]] := ⟨by simp, by simp⟩

theorem CutAtMoves.snoc {marked : List (List (Mark α))} (cut : CutAtMoves marked)
    (point : Point α) : CutAtMoves (marked ++ [[⟨point, .moveTo⟩]]) := by
  cases marked with
  | nil => exact .single point .moveTo
  | cons first others =>
      constructor
      · intro sequence member
        rcases List.mem_append.mp member with earlier | last
        · exact cut.heads sequence earlier
        · exact ⟨_, [], List.mem_singleton.mp last, rfl⟩
      · intro sequence member
        rcases List.mem_append.mp member with earlier | last
        · exact cut.tails sequence earlier
        · rw [List.mem_singleton.mp last]
          simp

/-- The last sequence may be drawn on, if it is not the beginning of a new one. -/
theorem CutAtMoves.extend (cut : CutAtMoves (done ++ [current]))
    (alone : current = [] → done = []) (others : ∀ mark ∈ more, mark.kind ≠ .moveTo) :
    CutAtMoves (done ++ [current ++ more]) := by
  have moreTail : ∀ mark ∈ more.tail, mark.kind ≠ .moveTo :=
    fun mark member => others mark (List.mem_of_mem_tail member)
  cases current with
  | nil =>
      rw [alone rfl]
      exact ⟨by simp, by simpa using moreTail⟩
  | cons head rest =>
      constructor
      · intro sequence member
        cases done with
        | nil => simp at member
        | cons first between =>
            rcases List.mem_append.mp member with earlier | last
            · exact cut.heads sequence (List.mem_append_left _ earlier)
            · obtain ⟨opening, _, same, moves⟩ := cut.heads (head :: rest) (by simp)
              cases same
              exact ⟨head, rest ++ more, List.mem_singleton.mp last, moves⟩
      · intro sequence member mark behind
        rcases List.mem_append.mp member with earlier | last
        · exact cut.tails sequence (List.mem_append_left _ earlier) mark behind
        · rw [List.mem_singleton.mp last] at behind
          rcases List.mem_append.mp behind with old | new
          · exact cut.tails (head :: rest) (by simp) mark old
          · exact others mark new

end Cuts

/-- The marks of what a pen has drawn, cut into the sequences that it shows. -/
def Pen.Divides {α : Type} (marks : List (Mark α)) (pen : Pen α) : Prop :=
  ∃ done current, done.flatten ++ current = marks ∧
    done.map (List.map Mark.point) = pen.finished ∧ current.map Mark.point = pen.vertices ∧
    CutAtMoves (done ++ [current])

/-- Marks cut at movetos into the sequences of a flattened path. -/
def Sequences {α : Type} (marks : List (Mark α)) (sequences : List (List (Point α))) : Prop :=
  ∃ marked, marked.flatten = marks ∧ marked.map (List.map Mark.point) = sequences ∧
    CutAtMoves marked

section Division

variable {α : Type} [Scalar α] {marks : List (Mark α)} {pen next : Pen α} {command : Command α}

theorem Pen.Divides.step (divides : pen.Divides marks) (tracks : pen.Tracks .discontinuous marks)
    (stepped : pen.step .discontinuous command = .ok next) :
    next.Divides (marks ++ (⟨command, pen, next⟩ : Step α).marks) := by
  obtain ⟨done, current, rfl, finished, vertices, cut⟩ := divides
  have alone : current = [] → done = [] := by
    intro empty
    cases empty
    have none := tracks.finished_of_nil vertices.symm
    rw [none] at finished
    exact List.map_eq_nil_iff.mp finished
  rcases Pen.step_cases stepped with ⟨moves, point, draws⟩ | ⟨stays, points, _, draws⟩
  · have drew : next.drawn = pen.drawn ++ [point] := by rw [draws.drawn, Pen.drawn_begun]
    rw [Step.marks, Step.points_eq drew, moves]
    have shown : next.vertices = [point] := by
      rw [draws.vertices, Pen.vertices_begun_discontinuous]
      rfl
    rw [Pen.Divides, draws.finished, Pen.finished_begun_discontinuous, Pen.finished_flush, shown,
      ← vertices, ← finished]
    cases current with
    | nil =>
        cases alone rfl
        exact ⟨[], [⟨point, .moveTo⟩], rfl, rfl, rfl, .single point .moveTo⟩
    | cons head rest =>
        exact ⟨done ++ [head :: rest], [⟨point, .moveTo⟩], by simp, by simp, rfl, cut.snoc point⟩
  · rw [Step.marks, Step.points_eq draws.drawn]
    refine ⟨done, current ++ points.map fun point => ⟨point, command.segment.kind⟩, by simp, ?_, ?_,
      cut.extend alone ?_⟩
    · rw [draws.finished, finished]
    · simp [draws.vertices, vertices, Function.comp_def]
    · simpa using fun _ _ => stays

theorem Trace.divides {steps : List (Step α)} {last : Pen α}
    (trace : Trace .discontinuous .initial steps last) :
    last.Divides (steps.flatMap Step.marks) := by
  induction trace with
  | rest => exact ⟨[], [], rfl, rfl, rfl, by simp, by simp⟩
  | step earlier stepped ih => simpa using ih.step earlier.tracks stepped

theorem Pen.Divides.sequences (divides : pen.Divides marks)
    (tracks : pen.Tracks .discontinuous marks) : Sequences marks pen.flush.finished := by
  obtain ⟨done, current, rfl, finished, vertices, cut⟩ := divides
  rw [finished_flush, ← vertices]
  cases current with
  | nil =>
      have none := tracks.finished_of_nil vertices.symm
      rw [none] at finished
      cases List.map_eq_nil_iff.mp finished
      rw [if_pos List.map_nil, none]
      exact ⟨[], rfl, rfl, by simp, by simp⟩
  | cons head rest =>
      rw [if_neg (by simp), ← finished]
      exact ⟨done ++ [head :: rest], by simp, by simp, cut⟩

theorem Pen.Tracks.length_sequences (tracks : pen.Tracks .continuous marks) :
    pen.flush.finished.length ≤ 1 := by
  rw [finished_flush, tracks.finished_continuous rfl]
  split <;> simp

end Division

/-- The vertices of a broken path and of a joined one are the same in the same order, with the same
warning. No sequence is empty, at most one is joined, and the broken ones are cut exactly in front
of the vertices of movetos. -/
structure SameVertices {α : Type} (marks : List (Mark α)) (broken joined : Flattening α) :
    Prop where
  vertices : broken.sequences.flatten = joined.sequences.flatten
  warning : broken.warning = joined.warning
  broken_ne_nil : [] ∉ broken.sequences
  joined_ne_nil : [] ∉ joined.sequences
  joined_length : joined.sequences.length ≤ 1
  cut : Sequences marks broken.sequences

theorem flattenLexemes_agree {α : Type} [Scalar α] (lexemes : List (Lexeme α)) :
    (runLexemes .discontinuous lexemes).marks = (runLexemes .continuous lexemes).marks ∧
      Agree (SameVertices (runLexemes .discontinuous lexemes).marks)
        (flattenLexemes .discontinuous lexemes) (flattenLexemes .continuous lexemes) := by
  obtain ⟨alike, stops, marks⟩ := Alike.initial.run (commands lexemes).complete
  refine ⟨marks, ?_⟩
  have brokenTrace := runLexemes_trace .discontinuous lexemes
  have joinedTracks := (runLexemes_trace .continuous lexemes).tracks
  have sameStop : (runLexemes .discontinuous lexemes).stop =
      (runLexemes .continuous lexemes).stop := by simp only [runLexemes, stops]
  have sameDrawn : (runLexemes .discontinuous lexemes).pen.drawn =
      (runLexemes .continuous lexemes).pen.drawn := alike.drawn.symm
  -- With or without a warning, the sequences are those of the pens in the end.
  have same (brokenWarning joinedWarning : Option Warning) (warning : brokenWarning = joinedWarning) :
      SameVertices (runLexemes .discontinuous lexemes).marks
        ⟨(runLexemes .discontinuous lexemes).pen.flush.finished, brokenWarning⟩
        ⟨(runLexemes .continuous lexemes).pen.flush.finished, joinedWarning⟩ := {
    vertices := by simpa using sameDrawn
    warning
    broken_ne_nil := brokenTrace.tracks.flush_ne_nil
    joined_ne_nil := joinedTracks.flush_ne_nil
    joined_length := joinedTracks.length_sequences
    cut := brokenTrace.divides.sequences brokenTrace.tracks }
  unfold flattenLexemes Run.flattening
  rw [sameStop]
  cases (runLexemes .continuous lexemes).stop with
  | none => exact .ok (same none none rfl)
  | some stop =>
      cases stop with
      | malformed reason =>
          refine .ok (same _ _ ?_)
          simp only [Pen.count_eq_length_drawn, sameDrawn]
      | fault reason => exact .error reason

/-- The tokens of a path, and path data, are flattened to the same vertices in both modes. -/
theorem modes_draw_same_vertices :
    (∀ tokens : List String,
      (runLexemes .discontinuous (tokens.map Lexeme.ofToken)).marks =
          (runLexemes .continuous (tokens.map Lexeme.ofToken)).marks ∧
        Agree (SameVertices (runLexemes .discontinuous (tokens.map Lexeme.ofToken)).marks)
          (flattenTokens .discontinuous tokens) (flattenTokens .continuous tokens)) ∧
      ∀ data : String,
        Agree
          (SameVertices (runLexemes .discontinuous ((tokens data).map Lexeme.ofToken)).marks)
          (flatten .discontinuous data) (flatten .continuous data) := by
  constructor
  · intro tokens
    exact flattenLexemes_agree (tokens.map Lexeme.ofToken)
  · intro data
    exact (flattenLexemes_agree ((tokens data).map Lexeme.ofToken)).2

end Vignette.Path
