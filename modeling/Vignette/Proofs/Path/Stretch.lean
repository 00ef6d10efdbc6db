import Mathlib.Data.List.Basic
import Mathlib.Data.List.Induction
import Vignette.Path.Command

namespace Vignette.Path

/-! Stretches of a path: a word and the numbers behind it. A stretch alone tells the commands that it
holds: as many as the arity of its letter goes into its numbers, with the remainder left over. One
more number at its end either completes one more command or is left over with the others. -/

variable {α : Type}

namespace Segment

variable {kind : Kind} {numbers : List α} {segment : Segment α}

theorem eq_of_ofNumbers? (made : ofNumbers? kind numbers = some segment) :
    segment.kind = kind ∧ segment.numbers = numbers := by
  unfold ofNumbers? at made
  split at made <;> cases made <;> exact ⟨rfl, rfl⟩

theorem ofNumbers?_exists : ∀ {kind : Kind} {numbers : List α}, numbers.length = kind.arity →
    ∃ segment, ofNumbers? kind numbers = some segment
  | .moveTo, [_, _], _ | .lineTo, [_, _], _ | .smoothQuadraticTo, [_, _], _ => ⟨_, rfl⟩
  | .horizontalTo, [_], _ | .verticalTo, [_], _ => ⟨_, rfl⟩
  | .cubicTo, [_, _, _, _, _, _], _ => ⟨_, rfl⟩
  | .smoothCubicTo, [_, _, _, _], _ | .quadraticTo, [_, _, _, _], _ => ⟨_, rfl⟩
  | .arcTo, [_, _, _, _, _, _, _], _ => ⟨_, rfl⟩
  | .closePath, [], _ => ⟨_, rfl⟩

theorem ofNumbers?_eq_none (other : numbers.length ≠ kind.arity) :
    ofNumbers? kind numbers = none := by
  cases made : ofNumbers? kind numbers with
  | none => rfl
  | some segment =>
      obtain ⟨sameKind, sameNumbers⟩ := eq_of_ofNumbers? made
      have length := segment.length_numbers
      rw [sameKind, sameNumbers] at length
      exact absurd length other

end Segment

/-- A word with the numbers behind it. The stretch in front of the first word has none. -/
structure Stretch (α : Type) where
  word : Option String
  /-- The position of the first number, whether there is one or not. -/
  first : Nat
  numbers : List α

namespace Stretch

def letter (s : Stretch α) : Option (Kind × Bool) := s.word.bind Kind.ofWord?

def lexemes (s : Stretch α) : List (Lexeme α) :=
  s.word.toList.map .word ++ s.numbers.map .number

/-- How many commands there are. A closepath takes no numbers and is complete at once. -/
def count (s : Stretch α) : Nat :=
  match s.letter with
  | some (kind, _) => if kind = .closePath then 1 else s.numbers.length / kind.arity
  | none => 0

/-- How many numbers no command takes. -/
def leftover (s : Stretch α) : Nat :=
  match s.letter with
  | some (kind, _) => s.numbers.length % kind.arity
  | none => s.numbers.length

def unused (s : Stretch α) : List α := s.numbers.drop (s.numbers.length - s.leftover)

def command? (s : Stretch α) (index : Nat) : Option (Command α) :=
  s.letter.bind fun (kind, relative) =>
    (Segment.ofNumbers? kind ((s.numbers.drop (index * kind.arity)).take kind.arity)).map
      fun segment => ⟨segment, relative, s.first + (index + 1) * kind.arity - 1⟩

def commands (s : Stretch α) : List (Command α) := (List.range s.count).filterMap s.command?

def finish (s : Stretch α) : Nat := s.first + s.numbers.length

/-- What has been read of a command at the end of a stretch. -/
def reading (s : Stretch α) : Reading α := ⟨s.letter, s.unused⟩

def push (s : Stretch α) (value : α) : Stretch α := { s with numbers := s.numbers ++ [value] }

theorem leftover_le (s : Stretch α) : s.leftover ≤ s.numbers.length := by
  unfold leftover
  split
  · exact Nat.mod_le _ _
  · exact Nat.le_refl _

@[simp] theorem length_unused (s : Stretch α) : s.unused.length = s.leftover := by
  have bound := s.leftover_le
  simp only [unused, List.length_drop]
  omega

theorem unused_eq_nil_iff (s : Stretch α) : s.unused = [] ↔ s.leftover = 0 := by
  rw [← List.length_eq_zero_iff, length_unused]

section Push

variable {s : Stretch α} {kind : Kind} {relative : Bool} {index : Nat} (value : α)

@[simp] theorem letter_push : (s.push value).letter = s.letter := rfl

@[simp] theorem length_push : (s.push value).numbers.length = s.numbers.length + 1 := by
  simp [push]

theorem command?_push (letter : s.letter = some (kind, relative))
    (inside : (index + 1) * kind.arity ≤ s.numbers.length) :
    (s.push value).command? index = s.command? index := by
  have start : index * kind.arity ≤ s.numbers.length :=
    Nat.le_trans (Nat.mul_le_mul_right _ (Nat.le_succ index)) inside
  have size : kind.arity ≤ (s.numbers.drop (index * kind.arity)).length := by
    rw [Nat.add_mul] at inside
    rw [List.length_drop]
    omega
  have group : ((s.push value).numbers.drop (index * kind.arity)).take kind.arity =
      (s.numbers.drop (index * kind.arity)).take kind.arity := by
    rw [push, List.drop_append_of_le_length start, List.take_append_of_le_length size]
  simp only [command?, letter_push, letter, Option.bind_some, group]
  rfl

theorem filterMap_push (letter : s.letter = some (kind, relative))
    (inside : s.count * kind.arity ≤ s.numbers.length) :
    (List.range s.count).filterMap (s.push value).command? = s.commands := by
  apply List.filterMap_congr
  intro index member
  have below : index + 1 ≤ s.count := List.mem_range.mp member
  exact command?_push value letter (Nat.le_trans (Nat.mul_le_mul_right _ below) inside)

theorem push_completes (letter : s.letter = some (kind, relative))
    (inside : s.count * kind.arity + s.leftover = s.numbers.length)
    (full : s.leftover + 1 = kind.arity) :
    ∃ command, Reading.complete? ⟨s.letter, s.unused ++ [value]⟩ s.finish = some command ∧
      (s.push value).command? s.count = some command := by
  have whole : (s.count + 1) * kind.arity = s.numbers.length + 1 := by
    rw [Nat.add_mul]
    omega
  have size : (s.unused ++ [value]).length = kind.arity := by simpa using full
  have unused : s.unused = s.numbers.drop (s.count * kind.arity) := by
    rw [Stretch.unused, ← inside, Nat.add_sub_cancel]
  obtain ⟨segment, made⟩ := Segment.ofNumbers?_exists size
  have group : ((s.push value).numbers.drop (s.count * kind.arity)).take kind.arity =
      s.unused ++ [value] := by
    rw [push, List.drop_append_of_le_length (by omega), ← unused, ← size, List.take_length]
  have position : s.first + (s.count + 1) * kind.arity - 1 = s.finish := by
    rw [whole, finish]
    omega
  refine ⟨⟨segment, relative, s.finish⟩, ?_, ?_⟩
  · simp only [Reading.complete?, letter, Option.bind_some, made, Option.map_some]
  · simp only [command?, letter_push, letter, Option.bind_some, group, made, Option.map_some]
    rw [← position]
    rfl

theorem unused_push (more : (s.push value).leftover = s.leftover + 1) :
    (s.push value).unused = s.unused ++ [value] := by
  have bound := s.leftover_le
  have place : s.numbers.length + 1 - (s.leftover + 1) = s.numbers.length - s.leftover := by omega
  rw [unused, length_push, more, place, push, List.drop_append_of_le_length (by omega)]
  rfl

theorem push_waits (count : (s.push value).count = s.count)
    (leftover : (s.push value).leftover = s.leftover + 1)
    (inside : ∀ kind relative, s.letter = some (kind, relative) →
      s.count * kind.arity ≤ s.numbers.length)
    (short : ∀ kind relative, s.letter = some (kind, relative) → s.leftover + 1 ≠ kind.arity) :
    Reading.complete? ⟨s.letter, s.unused ++ [value]⟩ s.finish = none ∧
      (s.push value).commands = s.commands ∧ (s.push value).unused = s.unused ++ [value] := by
  refine ⟨?_, ?_, unused_push value leftover⟩
  · cases letter : s.letter with
    | none => rfl
    | some named =>
        have other := short named.1 named.2 letter
        have size : (s.unused ++ [value]).length ≠ named.1.arity := by simpa using other
        simp only [Reading.complete?, Option.bind_some, Segment.ofNumbers?_eq_none size]
        rfl
  · rw [commands, count]
    cases letter : s.letter with
    | none => simp [commands, Stretch.count, letter]
    | some named => exact filterMap_push value letter (inside named.1 named.2 letter)

end Push

theorem arity_pos {kind : Kind} (other : kind ≠ .closePath) : 0 < kind.arity := by
  cases kind <;> first | contradiction | exact Nat.succ_pos _

theorem count_of_letter {s : Stretch α} {kind : Kind} {relative : Bool}
    (letter : s.letter = some (kind, relative)) (other : kind ≠ .closePath) :
    s.count = s.numbers.length / kind.arity := by
  simp only [count, letter, if_neg other]

theorem leftover_of_letter {s : Stretch α} {kind : Kind} {relative : Bool}
    (letter : s.letter = some (kind, relative)) :
    s.leftover = s.numbers.length % kind.arity := by
  simp only [leftover, letter]

/-- One more number completes one more command, or is left over with those before it. -/
theorem push_cases (s : Stretch α) (value : α) :
    (∃ command, Reading.complete? ⟨s.letter, s.unused ++ [value]⟩ s.finish = some command ∧
      (s.push value).commands = s.commands ++ [command] ∧ (s.push value).unused = []) ∨
    (Reading.complete? ⟨s.letter, s.unused ++ [value]⟩ s.finish = none ∧
      (s.push value).commands = s.commands ∧ (s.push value).unused = s.unused ++ [value]) := by
  cases letter : s.letter with
  | none =>
      right
      rw [← letter]
      exact push_waits value (by simp [count, letter]) (by simp [leftover, letter])
        (by simp [letter]) (by simp [letter])
  | some named =>
      obtain ⟨kind, relative⟩ := named
      have pushed : (s.push value).letter = some (kind, relative) := letter
      rw [← letter]
      by_cases closes : kind = .closePath
      · subst closes
        right
        apply push_waits value
        · simp [count, letter]
        · simp [leftover, letter, Kind.arity]
        · simp [letter, Kind.arity]
        · simp [letter, Kind.arity]
      · have positive := arity_pos closes
        have division := Nat.div_add_mod s.numbers.length kind.arity
        have bound := Nat.mod_lt s.numbers.length positive
        have count := count_of_letter letter closes
        have leftover := leftover_of_letter letter
        have countNext := count_of_letter pushed closes
        have leftoverNext := leftover_of_letter pushed
        rw [length_push] at countNext leftoverNext
        rw [← count, ← leftover, Nat.mul_comm] at division
        by_cases full : s.leftover + 1 = kind.arity
        · left
          have whole : s.numbers.length + 1 = (s.count + 1) * kind.arity := by
            rw [Nat.add_mul]
            omega
          rw [whole, Nat.mul_div_cancel _ positive] at countNext
          rw [whole, Nat.mul_mod_left] at leftoverNext
          obtain ⟨command, complete, last⟩ := push_completes value letter division full
          refine ⟨command, complete, ?_, (unused_eq_nil_iff _).mpr leftoverNext⟩
          rw [commands, countNext, List.range_succ, List.filterMap_append,
            filterMap_push value letter (by omega)]
          simp [last]
        · right
          have whole : s.numbers.length + 1 = (s.leftover + 1) + s.count * kind.arity := by omega
          have small : s.leftover + 1 < kind.arity := by omega
          rw [whole, Nat.add_mul_div_right _ _ positive, Nat.div_eq_of_lt small,
            Nat.zero_add] at countNext
          rw [whole, Nat.add_mul_mod_self_right, Nat.mod_eq_of_lt small] at leftoverNext
          apply push_waits value countNext leftoverNext
          · intro kind' relative' same
            rw [letter] at same
            cases same
            omega
          · intro kind' relative' same
            rw [letter] at same
            cases same
            exact full

theorem count_mul_arity_le {s : Stretch α} {kind : Kind} {relative : Bool}
    (letter : s.letter = some (kind, relative)) : s.count * kind.arity ≤ s.numbers.length := by
  by_cases closes : kind = .closePath
  · subst closes
    simp [Kind.arity]
  · rw [count_of_letter letter closes]
    exact Nat.div_mul_le_self _ _

/-- A stretch without numbers holds a command only if it is a closepath. -/
theorem commands_opened (word : Option String) (first : Nat) :
    (⟨word, first, []⟩ : Stretch α).commands =
      (Reading.complete? ⟨word.bind Kind.ofWord?, []⟩ (first - 1)).toList := by
  cases letter : word.bind Kind.ofWord? with
  | none => simp [commands, count, Stretch.letter, Reading.complete?, letter]
  | some named =>
      obtain ⟨kind, relative⟩ := named
      have named : (⟨word, first, []⟩ : Stretch α).letter = some (kind, relative) := letter
      by_cases closes : kind = .closePath
      · subst closes
        simp [commands, count, command?, Reading.complete?, named, Kind.arity, Segment.ofNumbers?]
      · have positive := arity_pos closes
        have size : ([] : List α).length ≠ kind.arity := by simp; omega
        simp [commands, count_of_letter named closes, Reading.complete?,
          Segment.ofNumbers?_eq_none size]

theorem numbers_of_complete? {reading : Reading α} {position : Nat} {command : Command α}
    (complete : reading.complete? position = some command) :
    command.segment.numbers = reading.pending := by
  simp only [Reading.complete?, Option.bind_eq_some_iff, Option.map_eq_some_iff] at complete
  obtain ⟨_, _, segment, made, rfl⟩ := complete
  exact (Segment.eq_of_ofNumbers? made).2

/-- The commands of a stretch take its numbers in order, and the unused ones stand behind them. -/
theorem numbers_commands (s : Stretch α) :
    s.commands.flatMap (fun command => command.segment.numbers) ++ s.unused = s.numbers := by
  obtain ⟨word, first, numbers⟩ := s
  induction numbers using List.reverseRecOn with
  | nil =>
      rw [commands_opened]
      cases complete : Reading.complete? (⟨word.bind Kind.ofWord?, []⟩ : Reading α) (first - 1) with
      | none => simp [unused]
      | some command => simp [unused, numbers_of_complete? complete]
  | append_singleton numbers value ih =>
      rcases push_cases ⟨word, first, numbers⟩ value with
        ⟨command, complete, commands, unused⟩ | ⟨_, commands, unused⟩
      · have last := numbers_of_complete? complete
        simp only [push] at commands unused
        rw [commands, unused, List.flatMap_append, List.flatMap_singleton, last, List.append_nil,
          ← List.append_assoc, ih]
      · simp only [push] at commands unused
        rw [commands, unused, ← List.append_assoc, ih]

/-- Where the commands of a stretch come from: each is named by the letter of the stretch, takes the
next numbers and stands where the last of them does. -/
structure Yields (s : Stretch α) (commands : List (Command α)) : Prop where
  length : commands.length = s.count
  each : ∀ index command, commands[index]? = some command →
    ∃ letter, s.word = some (String.ofList [letter]) ∧
      Kind.ofSmallLetter? letter.toLower = some command.segment.kind ∧
      command.relative = letter.isLower ∧
      command.segment.numbers = (s.numbers.drop (index * command.segment.kind.arity)).take
        command.segment.kind.arity ∧
      command.position = s.first + (index + 1) * command.segment.kind.arity - 1

theorem command?_exists {s : Stretch α} {index : Nat} (inside : index < s.count) :
    ∃ command, s.command? index = some command := by
  cases letter : s.letter with
  | none => simp [count, letter] at inside
  | some named =>
      obtain ⟨kind, relative⟩ := named
      have bound : (index + 1) * kind.arity ≤ s.numbers.length :=
        Nat.le_trans (Nat.mul_le_mul_right _ inside) (count_mul_arity_le letter)
      have size : ((s.numbers.drop (index * kind.arity)).take kind.arity).length = kind.arity := by
        rw [Nat.add_mul] at bound
        rw [List.length_take, List.length_drop]
        omega
      obtain ⟨segment, made⟩ := Segment.ofNumbers?_exists size
      simp only [command?, letter, Option.bind_some, made, Option.map_some]
      exact ⟨_, rfl⟩

theorem ofWord?_eq_some {text : String} {kind : Kind} {relative : Bool}
    (named : Kind.ofWord? text = some (kind, relative)) :
    ∃ letter, text = String.ofList [letter] ∧ Kind.ofSmallLetter? letter.toLower = some kind ∧
      relative = letter.isLower := by
  unfold Kind.ofWord? at named
  split at named
  · rename_i letter chars
    obtain ⟨found, small, same⟩ := Option.map_eq_some_iff.mp named
    cases same
    exact ⟨letter, by rw [← chars, String.ofList_toList], small, rfl⟩
  · contradiction

/-- The places of a list of numbers at which a function has a value, listed in order. -/
theorem getElem?_filterMap_range {β : Type} {f : Nat → Option β} (bound : Nat)
    (defined : ∀ index < bound, ∃ value, f index = some value) :
    ((List.range bound).filterMap f).length = bound ∧
      ∀ index < bound, ((List.range bound).filterMap f)[index]? = f index := by
  induction bound with
  | zero => simp
  | succ bound ih =>
      obtain ⟨length, values⟩ := ih fun index below => defined index (by omega)
      obtain ⟨last, found⟩ := defined bound (by omega)
      rw [List.range_succ, List.filterMap_append]
      simp only [List.filterMap_cons, found, List.filterMap_nil]
      refine ⟨by simp [length], fun index below => ?_⟩
      by_cases inside : index < bound
      · rw [List.getElem?_append_left (by omega), values index inside]
      · have same : index = bound := by omega
        rw [same, List.getElem?_append_right (by omega), length, found, Nat.sub_self]
        rfl

theorem yields_commands (s : Stretch α) : s.Yields s.commands := by
  obtain ⟨length, found⟩ := getElem?_filterMap_range s.count fun _ inside => command?_exists inside
  refine ⟨length, fun index command at_index => ?_⟩
  have inside : index < s.count := by
    rw [← length]
    exact (List.getElem?_eq_some_iff.mp at_index).1
  have made := (found index inside).symm.trans at_index
  simp only [command?, Option.bind_eq_some_iff, Option.map_eq_some_iff] at made
  obtain ⟨⟨kind, relative⟩, named, segment, ofNumbers, rfl⟩ := made
  obtain ⟨text, opens, named⟩ := Option.bind_eq_some_iff.mp named
  obtain ⟨letter, rfl, small, rfl⟩ := ofWord?_eq_some named
  obtain ⟨rfl, numbers⟩ := Segment.eq_of_ofNumbers? ofNumbers
  exact ⟨letter, opens, small, rfl, numbers, rfl⟩

end Stretch

end Vignette.Path
