import Vignette.Path.Pen
import Vignette.Path.Token

namespace Vignette.Path

/-! Paths flattened to sequences of vertices. Path data that makes no sense from some token on keeps
the vertices drawn until then, and a warning says so. -/

variable {α : Type} [Scalar α]

/-- The warning about path data that was given up, with the number of vertices kept. -/
structure Warning where
  malformed : Malformed
  kept : Nat
deriving DecidableEq, Repr

def Warning.message (warning : Warning) : String :=
  "Malformed path data at token " ++ toString warning.malformed.position ++ ": " ++
    warning.malformed.message ++ " (keeping " ++ toString warning.kept ++ " vertices)"

structure Flattening (α : Type) where
  sequences : List (List (Point α))
  warning : Option Warning

/-- One step of a pen: the command, and the pen before and after it. -/
structure Step (α : Type) where
  command : Command α
  before : Pen α
  after : Pen α

/-- What a pen does with a list of commands: its steps, where it ends, and why it stopped if it did
not come to the end of the list. -/
structure Run (α : Type) where
  steps : List (Step α)
  pen : Pen α
  stop : Option Stop

def run (mode : Mode) (pen : Pen α) : List (Command α) → Run α
  | [] => ⟨[], pen, none⟩
  | command :: rest =>
    match pen.step mode command with
    | .error stop => ⟨[], pen, some stop⟩
    | .ok next =>
      let later := run mode next rest
      ⟨⟨command, pen, next⟩ :: later.steps, later.pen, later.stop⟩

/-- Draws the commands of path data. If they end early, so does the pen. -/
def runLexemes (mode : Mode) (lexemes : List (Lexeme α)) : Run α :=
  let read := commands lexemes
  let drawn := run mode .initial read.complete
  { drawn with stop := drawn.stop.or (read.malformed.map .malformed) }

def Run.flattening (r : Run α) : Except Fault (Flattening α) :=
  match r.stop with
  | some (.fault reason) => .error reason
  | some (.malformed reason) => .ok ⟨r.pen.flush.finished, some ⟨reason, r.pen.count⟩⟩
  | none => .ok ⟨r.pen.flush.finished, none⟩

def flattenLexemes (mode : Mode) (lexemes : List (Lexeme α)) : Except Fault (Flattening α) :=
  (runLexemes mode lexemes).flattening

def flattenTokens (mode : Mode) (tokens : List String) : Except Fault (Flattening Float) :=
  flattenLexemes mode (tokens.map Lexeme.ofToken)

def flatten (mode : Mode) (data : String) : Except Fault (Flattening Float) :=
  flattenTokens mode (tokens data)

end Vignette.Path
