import Vignette.Proofs.Path.Tracing

namespace Vignette.Path

/-! A path taken in one token after another. Commands are read in one pass and drawn in a second;
here both are one machine that takes a token and at once draws the command that it completes. The
machine does what the two passes do, and as it knows no token but those it has taken, the front of a
path decides what the path draws first, and a stop takes nothing back. -/

variable {α : Type}

/-- The command being read, and the pen that has drawn those before it. -/
structure Plotter (α : Type) where
  reading : Reading α
  pen : Pen α

/-- Each sequence of the part has its place in the whole. All but the last are unchanged there; the
last may have grown. -/
def Extends {β : Type} (part whole : List (List β)) : Prop :=
  ∀ place sequence, part[place]? = some sequence →
    ∃ longer, whole[place]? = some longer ∧ sequence <+: longer ∧
      (place + 1 < part.length → longer = sequence)

namespace Extends

variable {β : Type} {part middle whole : List (List β)}

theorem refl (part : List (List β)) : Extends part part :=
  fun _ sequence found => ⟨sequence, found, List.prefix_rfl, fun _ => rfl⟩

theorem length_le (extended : Extends part whole) : part.length ≤ whole.length := by
  by_cases empty : part = []
  · simp [empty]
  · have positive := List.length_pos_iff.mpr empty
    obtain ⟨longer, found, _⟩ := extended (part.length - 1) _
      (List.getElem?_eq_getElem (by omega))
    have := (List.getElem?_eq_some_iff.mp found).1
    omega

theorem trans (first : Extends part middle) (second : Extends middle whole) :
    Extends part whole := by
  intro place sequence found
  obtain ⟨longer, foundMiddle, grown, same⟩ := first place sequence found
  obtain ⟨longest, foundWhole, grownAgain, sameAgain⟩ := second place longer foundMiddle
  refine ⟨longest, foundWhole, grown.trans grownAgain, ?_⟩
  intro inner
  have bound := first.length_le
  rw [sameAgain (by omega), same inner]

theorem snoc (part : List (List β)) (last : List β) : Extends part (part ++ [last]) := by
  intro place sequence found
  have inside := (List.getElem?_eq_some_iff.mp found).1
  exact ⟨sequence, by rw [List.getElem?_append_left inside, found], List.prefix_rfl, fun _ => rfl⟩

theorem last (front : List (List β)) (current more : List β) :
    Extends (front ++ [current]) (front ++ [current ++ more]) := by
  intro place sequence found
  by_cases inside : place < front.length
  · rw [List.getElem?_append_left inside] at found
    exact ⟨sequence, by rw [List.getElem?_append_left inside, found], List.prefix_rfl,
      fun _ => rfl⟩
  · have bound := (List.getElem?_eq_some_iff.mp found).1
    simp only [List.length_append, List.length_singleton] at bound
    have place_eq : place = front.length := by omega
    subst place_eq
    simp only [List.getElem?_concat_length, Option.some.injEq] at found
    subst found
    refine ⟨current ++ more, by simp, List.prefix_append _ _, ?_⟩
    simp

end Extends

/-- Drawing on adds to the last sequence or begins another. -/
theorem Pen.Draws.extends {pen next : Pen α} {points : List (Point α)}
    (draws : pen.Draws points next) (nonempty : points ≠ []) :
    Extends pen.flush.finished next.flush.finished := by
  rw [finished_flush, finished_flush, draws.vertices, draws.finished,
    if_neg (by simp [nonempty] : ¬ pen.vertices ++ points = [])]
  split
  · exact .snoc _ _
  · exact .last _ _ _

theorem sequences_of_flattening {pen : Pen α} {stop : Option Stop} {whole : Flattening α}
    (flattened : Run.flattening ⟨[], pen, stop⟩ = .ok whole) :
    whole.sequences = pen.flush.finished := by
  unfold Run.flattening at flattened
  split at flattened <;> cases flattened <;> rfl

variable [Scalar α]

theorem Pen.step_extends {mode : Mode} {pen next : Pen α} {command : Command α}
    (stepped : pen.step mode command = .ok next) :
    Extends pen.flush.finished next.flush.finished := by
  rcases step_cases stepped with ⟨_, point, draws⟩ | ⟨_, points, nonempty, draws⟩
  · rw [← finished_flush_begun mode pen]
    exact draws.extends (by simp)
  · exact draws.extends nonempty

namespace Plotter

/-- Takes in a token, and draws the command that is complete with it. -/
def feed (mode : Mode) (plotter : Plotter α) (position : Nat) (lexeme : Lexeme α) :
    Except Stop (Plotter α) :=
  match plotter.reading.take position lexeme with
  | .error malformed => .error (.malformed malformed)
  | .ok reading =>
    match reading.complete? position with
    | none => .ok ⟨reading, plotter.pen⟩
    | some command =>
      match plotter.pen.step mode command with
      | .error stop => .error stop
      | .ok pen => .ok ⟨{ reading with pending := [] }, pen⟩

/-- Takes in tokens until one stops the plotter. -/
def feedAll (mode : Mode) (plotter : Plotter α) (position : Nat) :
    List (Lexeme α) → Plotter α × Option Stop
  | [] => (plotter, none)
  | lexeme :: rest =>
    match plotter.feed mode position lexeme with
    | .error stop => (plotter, some stop)
    | .ok next => feedAll mode next (position + 1) rest

variable {mode : Mode} {plotter next last : Plotter α} {position : Nat} {lexeme : Lexeme α}

theorem feedAll_cons_of_ok (fed : plotter.feed mode position lexeme = .ok next)
    (rest : List (Lexeme α)) :
    plotter.feedAll mode position (lexeme :: rest) = next.feedAll mode (position + 1) rest := by
  simp [feedAll, fed]

theorem feedAll_cons_of_error {stop : Stop} (fed : plotter.feed mode position lexeme = .error stop)
    (rest : List (Lexeme α)) :
    plotter.feedAll mode position (lexeme :: rest) = (plotter, some stop) := by
  simp [feedAll, fed]

/-- The plotter does what the two passes do. -/
theorem feedAll_eq_run (mode : Mode) (plotter : Plotter α) (position : Nat)
    (lexemes : List (Lexeme α)) :
    let read := commandsFrom plotter.reading position lexemes
    let drawn := run mode plotter.pen read.complete
    (plotter.feedAll mode position lexemes).1.pen = drawn.pen ∧
      (plotter.feedAll mode position lexemes).2 =
        drawn.stop.or (read.malformed.map Stop.malformed) := by
  induction lexemes generalizing plotter position with
  | nil => exact ⟨rfl, rfl⟩
  | cons lexeme rest ih =>
      cases taken : plotter.reading.take position lexeme with
      | error malformed =>
          have fed : plotter.feed mode position lexeme = .error (.malformed malformed) := by
            simp [feed, taken]
          rw [feedAll_cons_of_error fed]
          simp [commandsFrom, taken, run]
      | ok reading =>
          cases completed : reading.complete? position with
          | none =>
              have fed : plotter.feed mode position lexeme = .ok ⟨reading, plotter.pen⟩ := by
                simp [feed, taken, completed]
              rw [feedAll_cons_of_ok fed]
              simpa [commandsFrom, taken, completed] using ih ⟨reading, plotter.pen⟩ (position + 1)
          | some command =>
              cases stepped : plotter.pen.step mode command with
              | error stop =>
                  have fed : plotter.feed mode position lexeme = .error stop := by
                    simp [feed, taken, completed, stepped]
                  rw [feedAll_cons_of_error fed]
                  simp [commandsFrom, taken, completed, run_cons_of_error stepped]
              | ok pen =>
                  have fed : plotter.feed mode position lexeme =
                      .ok ⟨{ reading with pending := [] }, pen⟩ := by
                    simp [feed, taken, completed, stepped]
                  rw [feedAll_cons_of_ok fed]
                  simpa [commandsFrom, taken, completed, run_cons_of_ok stepped] using
                    ih ⟨{ reading with pending := [] }, pen⟩ (position + 1)

theorem feedAll_append (mode : Mode) (plotter : Plotter α) (position : Nat)
    (front back : List (Lexeme α)) :
    plotter.feedAll mode position (front ++ back) =
      match plotter.feedAll mode position front with
      | (last, none) => last.feedAll mode (position + front.length) back
      | (last, some stop) => (last, some stop) := by
  induction front generalizing plotter position with
  | nil => rfl
  | cons lexeme rest ih =>
      cases fed : plotter.feed mode position lexeme with
      | error stop =>
          rw [List.cons_append, feedAll_cons_of_error fed, feedAll_cons_of_error fed]
      | ok next =>
          rw [List.cons_append, feedAll_cons_of_ok fed, feedAll_cons_of_ok fed, ih]
          simp only [List.length_cons, Nat.add_assoc, Nat.add_comm 1]

theorem position_of_feed {reason : Malformed}
    (fed : plotter.feed mode position lexeme = .error (.malformed reason)) :
    reason.position = position := by
  unfold feed at fed
  split at fed
  · rename_i malformed taken
    cases fed
    cases lexeme with
    | number value => simp [Reading.take] at taken
    | word text =>
        simp only [Reading.take] at taken
        split at taken
        · contradiction
        · cases taken
          rfl
  · split at fed
    · contradiction
    · rename_i reading _ _ command completed
      split at fed
      · rename_i stop stepped
        cases fed
        have placed : command.position = position := by
          simp only [Reading.complete?, Option.bind_eq_some_iff, Option.map_eq_some_iff] at completed
          obtain ⟨_, _, _, _, rfl⟩ := completed
          rfl
        rw [((Pen.step_eq_malformed_iff mode _ command reason).mp stepped).1, placed]
      · contradiction

/-- A plotter that finds the path malformed at some token has drawn what the tokens before it
draw. -/
theorem feedAll_malformed {reason : Malformed} {lexemes : List (Lexeme α)}
    (fed : plotter.feedAll mode position lexemes = (last, some (.malformed reason))) :
    ∃ count, count < lexemes.length ∧ reason.position = position + count ∧
      plotter.feedAll mode position (lexemes.take count) = (last, none) := by
  induction lexemes generalizing plotter position with
  | nil => simp [feedAll] at fed
  | cons lexeme rest ih =>
      cases first : plotter.feed mode position lexeme with
      | error stop =>
          rw [feedAll_cons_of_error first] at fed
          cases fed
          exact ⟨0, by simp, position_of_feed first, rfl⟩
      | ok next =>
          rw [feedAll_cons_of_ok first] at fed
          obtain ⟨count, inside, placed, front⟩ := ih fed
          refine ⟨count + 1, by simpa using inside, by omega, ?_⟩
          rw [List.take_succ_cons, feedAll_cons_of_ok first, front]

theorem pen_of_feed (fed : plotter.feed mode position lexeme = .ok next) :
    next.pen = plotter.pen ∨ ∃ command, plotter.pen.step mode command = .ok next.pen := by
  unfold feed at fed
  split at fed
  · contradiction
  · split at fed
    · cases fed
      exact .inl rfl
    · rename_i command _
      split at fed
      · contradiction
      · rename_i pen stepped
        cases fed
        exact .inr ⟨command, stepped⟩

theorem feedAll_extends (mode : Mode) (plotter : Plotter α) (position : Nat)
    (lexemes : List (Lexeme α)) :
    plotter.pen.drawn <+: (plotter.feedAll mode position lexemes).1.pen.drawn ∧
      Extends plotter.pen.flush.finished
        (plotter.feedAll mode position lexemes).1.pen.flush.finished := by
  induction lexemes generalizing plotter position with
  | nil => exact ⟨List.prefix_rfl, .refl _⟩
  | cons lexeme rest ih =>
      cases fed : plotter.feed mode position lexeme with
      | error stop =>
          rw [feedAll_cons_of_error fed]
          exact ⟨List.prefix_rfl, .refl _⟩
      | ok next =>
          rw [feedAll_cons_of_ok fed]
          obtain ⟨drawnLater, extendsLater⟩ := ih next (position + 1)
          rcases pen_of_feed fed with same | ⟨command, stepped⟩
          · rw [← same]
            exact ⟨drawnLater, extendsLater⟩
          · obtain ⟨points, _, drew⟩ := Pen.drawn_step stepped
            rw [drew] at drawnLater
            exact ⟨(List.prefix_append _ _).trans drawnLater,
              (Pen.step_extends stepped).trans extendsLater⟩

end Plotter

/-- A plotter that has taken nothing. -/
def Plotter.initial : Plotter α := ⟨.initial, .initial⟩

theorem runLexemes_eq_feedAll (mode : Mode) (lexemes : List (Lexeme α)) :
    (runLexemes mode lexemes).pen = (Plotter.initial.feedAll mode 0 lexemes).1.pen ∧
      (runLexemes mode lexemes).stop = (Plotter.initial.feedAll mode 0 lexemes).2 := by
  obtain ⟨pen, stop⟩ := Plotter.initial.feedAll_eq_run mode 0 lexemes
  exact ⟨pen.symm, stop.symm⟩

/-- A path is flattened to what its plotter has drawn when it stops. -/
theorem flattenLexemes_of_feedAll {mode : Mode} {lexemes : List (Lexeme α)} {last : Plotter α}
    {stop : Option Stop} (fed : Plotter.initial.feedAll mode 0 lexemes = (last, stop)) :
    flattenLexemes mode lexemes = Run.flattening ⟨[], last.pen, stop⟩ := by
  obtain ⟨pen, stopped⟩ := runLexemes_eq_feedAll mode lexemes
  rw [fed] at pen stopped
  rw [flattenLexemes, Run.flattening, pen, stopped, Run.flattening]

/-- The front of a path is flattened whenever the path is. Its vertices come first in the path, and
its sequences keep their places there; only the last of them may have grown. -/
theorem flattenLexemes_front {mode : Mode} {front back : List (Lexeme α)} {whole : Flattening α}
    (flattened : flattenLexemes mode (front ++ back) = .ok whole) :
    ∃ part, flattenLexemes mode front = .ok part ∧
      part.sequences.flatten <+: whole.sequences.flatten ∧
      Extends part.sequences whole.sequences := by
  have appended := Plotter.initial.feedAll_append mode 0 front back
  rcases fed : Plotter.initial.feedAll mode 0 front with ⟨middle, stop⟩
  rw [fed] at appended
  cases stop with
  | none =>
      have sequences : whole.sequences =
          (middle.feedAll mode (0 + front.length) back).1.pen.flush.finished := by
        rw [flattenLexemes_of_feedAll appended] at flattened
        exact sequences_of_flattening flattened
      obtain ⟨drawn, extended⟩ := middle.feedAll_extends mode (0 + front.length) back
      refine ⟨⟨middle.pen.flush.finished, none⟩, flattenLexemes_of_feedAll fed, ?_, ?_⟩
      · rw [sequences, Pen.flatten_finished_flush, Pen.flatten_finished_flush]
        exact drawn
      · rw [sequences]
        exact extended
  | some stop =>
      -- the front stops the plotter, so the rest of the path changes nothing
      rw [flattenLexemes_of_feedAll appended, ← flattenLexemes_of_feedAll fed] at flattened
      exact ⟨whole, flattened, List.prefix_rfl, .refl _⟩

/-- A path that is malformed at some token is flattened like the tokens before it, and the warning
counts the vertices that are kept. -/
theorem flattenLexemes_malformed {mode : Mode} {lexemes : List (Lexeme α)} {whole : Flattening α}
    {warning : Warning} (flattened : flattenLexemes mode lexemes = .ok whole)
    (warned : whole.warning = some warning) :
    warning.malformed.position < lexemes.length ∧
      flattenLexemes mode (lexemes.take warning.malformed.position) =
        .ok ⟨whole.sequences, none⟩ ∧
      warning.kept = whole.sequences.flatten.length := by
  rcases fed : Plotter.initial.feedAll mode 0 lexemes with ⟨last, stop⟩
  rw [flattenLexemes_of_feedAll fed] at flattened
  unfold Run.flattening at flattened
  split at flattened
  · cases flattened
  · rename_i reason stopped
    cases flattened
    cases warned
    cases stopped
    obtain ⟨count, inside, placed, front⟩ := Plotter.feedAll_malformed fed
    have place : reason.position = count := by omega
    refine ⟨by rw [place]; exact inside, ?_, ?_⟩
    · rw [place]
      exact flattenLexemes_of_feedAll front
    · rw [Pen.flatten_finished_flush, Pen.count_eq_length_drawn]
  · cases flattened
    cases warned

/-- What a path draws before some token, or before it turns out malformed, is drawn by the tokens
until there alone. -/
theorem flattenTokens_partial {mode : Mode} {tokens : List String} {whole : Flattening Float}
    (flattened : flattenTokens mode tokens = .ok whole) :
    (∀ front back, tokens = front ++ back →
      ∃ part, flattenTokens mode front = .ok part ∧
        part.sequences.flatten <+: whole.sequences.flatten ∧
        Extends part.sequences whole.sequences) ∧
      ∀ warning, whole.warning = some warning →
        warning.malformed.position < tokens.length ∧
          flattenTokens mode (tokens.take warning.malformed.position) =
            .ok ⟨whole.sequences, none⟩ ∧
          warning.kept = whole.sequences.flatten.length := by
  constructor
  · intro front back whole
    cases whole
    rw [flattenTokens, List.map_append] at flattened
    exact flattenLexemes_front flattened
  · intro warning warned
    obtain ⟨inside, front, kept⟩ := flattenLexemes_malformed flattened warned
    rw [List.length_map] at inside
    rw [← List.map_take] at front
    exact ⟨inside, front, kept⟩

theorem flattenTokens_partial_unused_number :
    flattenTokens .discontinuous ["M", "0", "0", "M", "1", "2", "3", "Z"] =
        .ok ⟨[[⟨0, 0⟩], [⟨1, 2⟩]], some ⟨⟨.unusedNumbers 1 "Z", 7⟩, 2⟩⟩ ∧
      flattenTokens .discontinuous ["M", "0", "0", "M", "1", "2", "3"] =
        .ok ⟨[[⟨0, 0⟩], [⟨1, 2⟩]], none⟩ ∧
      ∃ part, flattenTokens .discontinuous ["M", "0", "0"] = .ok part ∧
        part.sequences.flatten <+: [⟨0, 0⟩, ⟨1, 2⟩] ∧
        Extends part.sequences [[⟨0, 0⟩], [⟨1, 2⟩]] := by
  have flattened : flattenTokens .discontinuous ["M", "0", "0", "M", "1", "2", "3", "Z"] =
      .ok ⟨[[⟨0, 0⟩], [⟨1, 2⟩]], some ⟨⟨.unusedNumbers 1 "Z", 7⟩, 2⟩⟩ := rfl
  obtain ⟨fronts, stops⟩ := flattenTokens_partial flattened
  exact ⟨flattened, (stops _ rfl).2.1, fronts ["M", "0", "0"] ["M", "1", "2", "3", "Z"] rfl⟩

end Vignette.Path
