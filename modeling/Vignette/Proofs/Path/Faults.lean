import Vignette.Proofs.Geometry.Centering
import Vignette.Proofs.Geometry.Radians
import Vignette.Proofs.Path.Grouping
import Vignette.Proofs.Path.Tracing

namespace Vignette

/-! When flattening a path ends in a fault. Only an arc can cause one: where the square of a radius
vanishes although the radius does not, or where so does the weighted distance between the ends. All
other paths are flattened, however small or great their numbers. -/

variable {α : Type} [Scalar α]

open Scalar

namespace Path

variable {mode : Mode} {pen : Pen α} {command : Command α} {stop : Stop}

def Pen.arc? (pen : Pen α) (command : Command α) : Option (Arc α) :=
  match command.segment with
  | .arcTo radiusX radiusY rotation large sweep finish =>
    some {
      start := pen.cursor
      radiusX
      radiusY
      rotation
      large := !eq large (ofInt 0)
      sweep := !eq sweep (ofInt 0)
      finish := finish.shift (pen.originOf command) }
  | _ => none

theorem Pen.arcTo_eq_fault_iff (pen : Pen α) (position : Nat) (arc : Arc α) (reason : Fault) :
    pen.arcTo position arc = .error (.fault reason) ↔
      pen.vertices ≠ [] ∧ arc.flatten = .error reason := by
  by_cases empty : pen.vertices = []
  · have refused : pen.newest.isEmpty = true := by simp [empty]
    rw [arcTo, if_pos refused]
    simp [empty]
  · have drawn : ¬ pen.newest.isEmpty = true := by simpa using empty
    rw [arcTo, if_neg drawn]
    cases arc.flatten with
    | error other => simp [empty]
    | ok points => simp

theorem Pen.step_eq_fault_iff (mode : Mode) (pen : Pen α) (command : Command α) (reason : Fault) :
    pen.step mode command = .error (.fault reason) ↔
      ∃ arc, pen.arc? command = some arc ∧ pen.vertices ≠ [] ∧ arc.flatten = .error reason := by
  rw [step_eq_error_iff]
  obtain ⟨segment, relative, position⟩ := command
  cases segment with
  | arcTo radiusX radiusY rotation large sweep finish =>
      simp only [perform, arc?, arcTo_eq_fault_iff, Option.some.injEq, exists_eq_left']
  | closePath =>
      cases found : pen.vertices[pen.start]? with
      | none => simp [perform, closePath, arc?, found]
      | some point => simp [perform, closePath, arc?, found]
  | _ => simp [perform, arc?]

/-- A run stops at the command behind its steps, if its pen cannot carry it out. -/
theorem run_stop_iff (mode : Mode) (pen : Pen α) (commands : List (Command α)) (stop : Stop) :
    (run mode pen commands).stop = some stop ↔
      ∃ command, commands[(run mode pen commands).steps.length]? = some command ∧
        (run mode pen commands).pen.step mode command = .error stop := by
  induction commands generalizing pen with
  | nil => simp [run]
  | cons command rest ih =>
      cases stepped : pen.step mode command with
      | error refused =>
          rw [run_cons_of_error stepped]
          simp [stepped]
      | ok next =>
          rw [run_cons_of_ok stepped]
          simpa using ih next

theorem flattenLexemes_eq_error_iff (mode : Mode) (lexemes : List (Lexeme α)) (reason : Fault) :
    flattenLexemes mode lexemes = .error reason ↔
      (run mode .initial (commands lexemes).complete).stop = some (.fault reason) := by
  rw [flattenLexemes, Run.flattening, runLexemes]
  cases stopped : (run mode .initial (commands lexemes).complete).stop with
  | none => cases (commands lexemes).malformed <;> simp
  | some stop =>
      cases stop with
      | malformed cause => simp
      | fault other => simp

section Numbers

variable {β : Type}

theorem number_mem_of_command {lexemes : List (Lexeme β)} {command : Command β} {value : β}
    (read : command ∈ (commands lexemes).complete) (member : value ∈ command.segment.numbers) :
    .number value ∈ lexemes := by
  obtain ⟨front, last, behind, reads⟩ := commands_readsThrough lexemes
  have taken : value ∈ (front ++ [last]).flatMap Stretch.numbers := by
    rw [← reads.numbers_eq]
    exact List.mem_append_left _ (List.mem_flatMap.mpr ⟨command, read, member⟩)
  obtain ⟨stretch, inFront, inNumbers⟩ := List.mem_flatMap.mp taken
  rw [← (cutAtWords_stretches lexemes).lexemes, reads.cut_eq]
  refine List.mem_flatMap.mpr ⟨stretch, ?_, ?_⟩
  · simp only [List.mem_append, List.mem_cons] at inFront ⊢
    tauto
  · exact List.mem_append_right _ (List.mem_map_of_mem inNumbers)

end Numbers

theorem isFinite_of_number {tokens : List String} {value : Float}
    (member : .number value ∈ tokens.map Lexeme.ofToken) : value.isFinite = true := by
  obtain ⟨token, _, same⟩ := List.mem_map.mp member
  rw [Lexeme.ofToken] at same
  cases read : number? token with
  | none => rw [read] at same; cases same
  | some found =>
      rw [read] at same
      cases same
      simp only [number?, Option.bind_eq_some_iff, Option.ite_none_right_eq_some,
        Option.some.injEq] at read
      obtain ⟨numeral, _, finite, rfl⟩ := read
      exact finite

theorem direction_of_tokens {tokens : List String} {command : Command Float} {pen : Pen Float}
    {arc : Arc Float} (read : command ∈ (commands (tokens.map Lexeme.ofToken)).complete)
    (found : pen.arc? command = some arc) : ∃ direction, arc.direction = .ok direction := by
  have turned : arc.rotation ∈ command.segment.numbers := by
    obtain ⟨segment, relative, position⟩ := command
    cases segment with
    | arcTo radiusX radiusY rotation large sweep finish =>
        obtain rfl := Option.some.inj found
        simp [Segment.numbers]
    | _ => cases found
  -- No number of the path is infinite, and a finite angle stays finite in radians.
  have finite := Binary64.isFinite_radians (isFinite_of_number (number_mem_of_command read turned))
  have bounded : isInfinite (radians arc.rotation) = false := by
    rw [isInfinite, Bool.and_eq_false_iff, Bool.not_eq_false']
    exact .inl finite
  rw [Arc.direction, bounded]
  exact ⟨_, rfl⟩

/-- Flattening path tokens ends in a fault exactly if the command that is next when the pen stops is
an arc with something drawn for it to start from, neither flat nor without extent, and with a
divisor that is zero. The fault is always a division by zero. -/
theorem flattenTokens_eq_error_iff (mode : Mode) (tokens : List String) (reason : Fault) :
    let read := commands (tokens.map Lexeme.ofToken)
    let drawn := run mode .initial read.complete
    flattenTokens mode tokens = .error reason ↔ reason = .divisionByZero ∧
      ∃ command arc direction, read.complete[drawn.steps.length]? = some command ∧
        drawn.pen.arc? command = some arc ∧ drawn.pen.vertices ≠ [] ∧ arc.isFlat = false ∧
        arc.start.equals arc.finish = false ∧ arc.direction = .ok direction ∧
        arc.Indivisible direction := by
  intro read drawn
  rw [flattenTokens, flattenLexemes_eq_error_iff, run_stop_iff]
  constructor
  · intro stopped
    obtain ⟨command, next, refused⟩ := stopped
    obtain ⟨arc, drew, begun, fails⟩ := (Pen.step_eq_fault_iff ..).mp refused
    obtain ⟨direction, found⟩ := direction_of_tokens (List.mem_of_getElem? next) drew
    obtain ⟨zero, curved, apart, indivisible⟩ := (Arc.flatten_eq_error_iff found reason).mp fails
    exact ⟨zero, command, arc, direction, next, drew, begun, curved, apart, found, indivisible⟩
  · intro fault
    obtain ⟨zero, command, arc, direction, next, drew, begun, curved, apart, found, indivisible⟩ :=
      fault
    have fails := (Arc.flatten_eq_error_iff found reason).mpr ⟨zero, curved, apart, indivisible⟩
    exact ⟨command, next, (Pen.step_eq_fault_iff ..).mpr ⟨arc, drew, begun, fails⟩⟩

/-- An arc whose radii are no zeros, but with squares below all floating point numbers. -/
def tinyRadii : List String := ["M", "0", "0", "A", "1e-200", "1e-200", "0", "0", "0", "1", "1"]

theorem flattenTokens_tinyRadii : flattenTokens .continuous tinyRadii = .error .divisionByZero := by
  have stops : (flattenTokens .continuous tinyRadii).map (fun _ => ()) =
      .error .divisionByZero := by decide +kernel
  cases found : flattenTokens .continuous tinyRadii with
  | error reason =>
      rw [found] at stops
      exact congrArg Except.error (Except.error.inj stops)
  | ok drawn => rw [found] at stops; cases stops

end Path

end Vignette
