import Vignette.Proofs.Path.Stretch

namespace Vignette.Path

/-! How the numbers of a path are grouped into commands. A path is cut in front of its words into
stretches. Reading it token by token gives the commands of one stretch after another, up to the
first one that leaves numbers to the word behind it. -/

variable {α : Type}

def stretchesFrom (opened : Stretch α) : List (Lexeme α) → List (Stretch α)
  | [] => [opened]
  | .number value :: rest => stretchesFrom (opened.push value) rest
  | .word text :: rest => opened :: stretchesFrom ⟨some text, opened.finish + 1, []⟩ rest

def stretches (lexemes : List (Lexeme α)) : List (Stretch α) := stretchesFrom ⟨none, 0, []⟩ lexemes

/-- A path is cut in front of each of its words and nowhere else. -/
structure CutAtWords (lexemes : List (Lexeme α)) (cut : List (Stretch α)) : Prop where
  lexemes : cut.flatMap Stretch.lexemes = lexemes
  words : ∃ leading rest, cut = leading :: rest ∧ leading.word = none ∧
    ∀ stretch ∈ rest, stretch.word ≠ none
  first : ∀ front stretch behind, cut = front ++ stretch :: behind →
    stretch.first = (front.flatMap Stretch.lexemes).length + stretch.word.toList.length

/-- Why reading ends with a stretch: the path ends there, or the word of the next stretch comes
before the numbers of this one are used up. -/
inductive EndsWith (last : Stretch α) : List (Stretch α) → Option Malformed → Prop
  | path : EndsWith last [] none
  | refusal {next : Stretch α} {later : List (Stretch α)} {text : String}
      (unused : last.leftover ≠ 0) (opens : next.word = some text) :
      EndsWith last (next :: later) (some ⟨.unusedNumbers last.leftover text, last.finish⟩)

/-- A path is read through the front of its stretches, which leave no numbers over, and a last
one. -/
structure ReadsThrough (cut front : List (Stretch α)) (last : Stretch α)
    (behind : List (Stretch α)) (read : Commands α) : Prop where
  cut_eq : cut = front ++ last :: behind
  used_up : ∀ stretch ∈ front, stretch.leftover = 0
  complete : read.complete = (front ++ [last]).flatMap Stretch.commands
  malformed : EndsWith last behind read.malformed

section Cut

theorem lexemes_stretchesFrom (opened : Stretch α) (lexemes : List (Lexeme α)) :
    (stretchesFrom opened lexemes).flatMap Stretch.lexemes = opened.lexemes ++ lexemes := by
  induction lexemes generalizing opened with
  | nil => simp [stretchesFrom]
  | cons lexeme rest ih =>
      cases lexeme with
      | number value => simp [stretchesFrom, ih, Stretch.lexemes, Stretch.push]
      | word text => simp [stretchesFrom, ih, Stretch.lexemes]

theorem words_stretchesFrom (opened : Stretch α) (lexemes : List (Lexeme α)) :
    ∃ leading rest, stretchesFrom opened lexemes = leading :: rest ∧
      leading.word = opened.word ∧ ∀ stretch ∈ rest, stretch.word ≠ none := by
  induction lexemes generalizing opened with
  | nil => exact ⟨opened, [], rfl, rfl, by simp⟩
  | cons lexeme rest ih =>
      cases lexeme with
      | number value => exact ih (opened.push value)
      | word text =>
          obtain ⟨next, later, same, opens, words⟩ := ih ⟨some text, opened.finish + 1, []⟩
          refine ⟨opened, _, rfl, rfl, ?_⟩
          rw [same]
          intro stretch member
          rcases List.mem_cons.mp member with rfl | member
          · simp [opens]
          · exact words stretch member

theorem first_stretchesFrom (opened : Stretch α) (offset : Nat) {lexemes : List (Lexeme α)}
    {front behind : List (Stretch α)} {stretch : Stretch α}
    (placed : opened.first = offset + opened.word.toList.length)
    (cut : stretchesFrom opened lexemes = front ++ stretch :: behind) :
    stretch.first = offset + (front.flatMap Stretch.lexemes).length +
      stretch.word.toList.length := by
  induction lexemes generalizing opened offset front with
  | nil =>
      cases front with
      | nil =>
          cases cut
          simpa using placed
      | cons first more => simp [stretchesFrom] at cut
  | cons lexeme rest ih =>
      cases lexeme with
      | number value => exact ih (opened.push value) offset placed cut
      | word text =>
          cases front with
          | nil =>
              cases cut
              simpa using placed
          | cons first more =>
              obtain ⟨rfl, later⟩ := List.cons.inj cut
              have opens : opened.finish + 1 = offset + opened.lexemes.length + 1 := by
                simp only [Stretch.finish, placed, Stretch.lexemes, List.length_append,
                  List.length_map]
                omega
              have next := ih _ (offset + opened.lexemes.length) opens later
              rw [next, List.flatMap_cons, List.length_append]
              omega

theorem cutAtWords_stretches (lexemes : List (Lexeme α)) :
    CutAtWords lexemes (stretches lexemes) where
  lexemes := lexemes_stretchesFrom _ lexemes
  words := words_stretchesFrom _ lexemes
  first front stretch behind cut := by
    have placed := first_stretchesFrom ⟨none, 0, []⟩ 0 rfl cut
    rwa [Nat.zero_add] at placed

end Cut

section Reading

/-- The commands of an open stretch, and those read behind it. -/
def Stretch.readOn (opened : Stretch α) (lexemes : List (Lexeme α)) : Commands α :=
  let more := commandsFrom opened.reading opened.finish lexemes
  ⟨opened.commands ++ more.complete, more.malformed⟩

theorem readOn_number (opened : Stretch α) (value : α) (rest : List (Lexeme α)) :
    opened.readOn (.number value :: rest) = (opened.push value).readOn rest := by
  have finish : (opened.push value).finish = opened.finish + 1 := by
    simp [Stretch.finish, Stretch.push, Nat.add_assoc]
  rcases opened.push_cases value with
    ⟨command, complete, commands, unused⟩ | ⟨complete, commands, unused⟩
  · simp [Stretch.readOn, commandsFrom, Reading.take, Stretch.reading, complete, finish, commands,
      unused]
  · simp [Stretch.readOn, commandsFrom, Reading.take, Stretch.reading, complete, finish, commands,
      unused]

theorem readOn_word {opened : Stretch α} (used : opened.leftover = 0) (text : String)
    (rest : List (Lexeme α)) :
    opened.readOn (.word text :: rest) =
      let next := (⟨some text, opened.finish + 1, []⟩ : Stretch α).readOn rest
      ⟨opened.commands ++ next.complete, next.malformed⟩ := by
  have taken : opened.reading.take opened.finish (.word text) = .ok ⟨Kind.ofWord? text, []⟩ := by
    simp [Stretch.reading, Reading.take, opened.unused_eq_nil_iff.mpr used]
  have commands := Stretch.commands_opened (α := α) (some text) (opened.finish + 1)
  have reading : (⟨some text, opened.finish + 1, []⟩ : Stretch α).reading =
      ⟨Kind.ofWord? text, []⟩ := by
    simp [Stretch.reading, Stretch.letter, Stretch.unused]
  have finish : (⟨some text, opened.finish + 1, []⟩ : Stretch α).finish = opened.finish + 1 := rfl
  rw [Nat.add_sub_cancel, Option.bind_some] at commands
  cases complete : Reading.complete? (⟨Kind.ofWord? text, []⟩ : Reading α) opened.finish with
  | none => simp [Stretch.readOn, commandsFrom, taken, complete, commands, reading, finish]
  | some command => simp [Stretch.readOn, commandsFrom, taken, complete, commands, reading, finish]

theorem readOn_refused {opened : Stretch α} (unused : opened.leftover ≠ 0) (text : String)
    (rest : List (Lexeme α)) :
    opened.readOn (.word text :: rest) =
      ⟨opened.commands, some ⟨.unusedNumbers opened.leftover text, opened.finish⟩⟩ := by
  have pending : opened.unused ≠ [] := fun none => unused (opened.unused_eq_nil_iff.mp none)
  simp [Stretch.readOn, commandsFrom, Reading.take, Stretch.reading, pending]

theorem readOn_readsThrough (opened : Stretch α) (lexemes : List (Lexeme α)) :
    ∃ front last behind,
      ReadsThrough (stretchesFrom opened lexemes) front last behind (opened.readOn lexemes) := by
  induction lexemes generalizing opened with
  | nil =>
      exact ⟨[], opened, [], rfl, by simp, by simp [Stretch.readOn, commandsFrom], .path⟩
  | cons lexeme rest ih =>
      cases lexeme with
      | number value =>
          rw [readOn_number]
          exact ih (opened.push value)
      | word text =>
          by_cases used : opened.leftover = 0
          · obtain ⟨front, last, behind, reads⟩ := ih ⟨some text, opened.finish + 1, []⟩
            rw [readOn_word used]
            refine ⟨opened :: front, last, behind, ?_, ?_, ?_, reads.malformed⟩
            · rw [stretchesFrom, reads.cut_eq]
              rfl
            · simpa [used] using reads.used_up
            · simp [reads.complete]
          · obtain ⟨next, later, cut, opens, _⟩ :=
              words_stretchesFrom ⟨some text, opened.finish + 1, []⟩ rest
            rw [readOn_refused used]
            refine ⟨[], opened, next :: later, ?_, by simp, by simp, .refusal used opens⟩
            rw [stretchesFrom, cut]
            rfl

theorem commands_readsThrough (lexemes : List (Lexeme α)) :
    ∃ front last behind, ReadsThrough (stretches lexemes) front last behind (commands lexemes) := by
  have first : (⟨none, 0, []⟩ : Stretch α).readOn lexemes = commands lexemes := rfl
  rw [← first]
  exact readOn_readsThrough _ lexemes

end Reading

namespace ReadsThrough

variable {cut front behind : List (Stretch α)} {last : Stretch α} {read : Commands α}

/-- Reading breaks off exactly if some stretch leaves numbers to the word behind it. -/
theorem malformed_iff (reads : ReadsThrough cut front last behind read) :
    read.malformed ≠ none ↔ ∃ stretch ∈ cut.dropLast, stretch.leftover ≠ 0 := by
  obtain ⟨rfl, used, _, ends⟩ := reads
  generalize read.malformed = malformed at ends
  cases ends with
  | path =>
      simpa using used
  | refusal unused _ =>
      simp only [ne_eq, reduceCtorEq, not_false_eq_true, true_iff]
      exact ⟨last, by simp, unused⟩

/-- The numbers of the stretches read are used once each and in order, but for the unused ones of
the last stretch. -/
theorem numbers_eq (reads : ReadsThrough cut front last behind read) :
    read.complete.flatMap (fun command => command.segment.numbers) ++ last.unused =
      (front ++ [last]).flatMap Stretch.numbers := by
  obtain ⟨cut_eq, used, complete, _⟩ := reads
  rw [complete, List.flatMap_append, List.flatMap_append, List.flatMap_append, List.append_assoc,
    List.flatMap_singleton, List.flatMap_singleton, Stretch.numbers_commands]
  congr 1
  clear cut_eq complete
  induction front with
  | nil => rfl
  | cons stretch rest ih =>
      have none := stretch.unused_eq_nil_iff.mpr (used stretch (by simp))
      have whole := stretch.numbers_commands
      rw [none, List.append_nil] at whole
      rw [List.flatMap_cons, List.flatMap_append, whole, List.flatMap_cons,
        ih fun other member => used other (by simp [member])]

end ReadsThrough

/-- The tokens of a path, cut into stretches at the words, hold the commands of the stretches, up to
the first one that leaves numbers to the word behind it. Every number until there is taken by one
command, in order, but for those left over in the end. -/
theorem commands_of_stretches (tokens : List String) :
    let lexemes := tokens.map Lexeme.ofToken
    let cut := stretches lexemes
    let read := commands lexemes
    CutAtWords lexemes cut ∧
      (∀ stretch ∈ cut, stretch.Yields stretch.commands) ∧
      (read.malformed ≠ none ↔ ∃ stretch ∈ cut.dropLast, stretch.leftover ≠ 0) ∧
      ∃ front last behind, ReadsThrough cut front last behind read ∧
        read.complete.flatMap (fun command => command.segment.numbers) ++ last.unused =
          (front ++ [last]).flatMap Stretch.numbers := by
  intro lexemes cut read
  obtain ⟨front, last, behind, reads⟩ := commands_readsThrough lexemes
  exact ⟨cutAtWords_stretches lexemes, fun stretch _ => stretch.yields_commands,
    reads.malformed_iff, front, last, behind, reads, reads.numbers_eq⟩

end Vignette.Path
