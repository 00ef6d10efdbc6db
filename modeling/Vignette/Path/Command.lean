import Vignette.Geometry.Point
import Vignette.Numeral
import Vignette.Text.Quoted

namespace Vignette.Path

/-! Path commands. A command letter is followed by numbers; as soon as there are as many as the
command takes, the command is complete, and the numbers after them begin the same command again. -/

inductive Kind where
  | moveTo
  | lineTo
  | horizontalTo
  | verticalTo
  | cubicTo
  | smoothCubicTo
  | quadraticTo
  | smoothQuadraticTo
  | arcTo
  | closePath
deriving DecidableEq, Repr

namespace Kind

def arity : Kind → Nat
  | .moveTo | .lineTo | .smoothQuadraticTo => 2
  | .horizontalTo | .verticalTo => 1
  | .cubicTo => 6
  | .smoothCubicTo | .quadraticTo => 4
  | .arcTo => 7
  | .closePath => 0

def ofSmallLetter? : Char → Option Kind
  | 'm' => some .moveTo
  | 'l' => some .lineTo
  | 'h' => some .horizontalTo
  | 'v' => some .verticalTo
  | 'c' => some .cubicTo
  | 's' => some .smoothCubicTo
  | 'q' => some .quadraticTo
  | 't' => some .smoothQuadraticTo
  | 'a' => some .arcTo
  | 'z' => some .closePath
  | _ => none

/-- The command that a word names, and whether it is relative: small letters are. -/
def ofWord? (word : String) : Option (Kind × Bool) :=
  match word.toList with
  | [c] => (ofSmallLetter? c.toLower).map fun kind => (kind, c.isLower)
  | _ => none

end Kind

inductive Segment (α : Type) where
  | moveTo (finish : Point α)
  | lineTo (finish : Point α)
  | horizontalTo (x : α)
  | verticalTo (y : α)
  | cubicTo (first second finish : Point α)
  | smoothCubicTo (second finish : Point α)
  | quadraticTo (control finish : Point α)
  | smoothQuadraticTo (finish : Point α)
  | arcTo (radiusX radiusY rotation large sweep : α) (finish : Point α)
  | closePath
deriving Repr

namespace Segment

variable {α : Type}

def kind : Segment α → Kind
  | .moveTo _ => .moveTo
  | .lineTo _ => .lineTo
  | .horizontalTo _ => .horizontalTo
  | .verticalTo _ => .verticalTo
  | .cubicTo .. => .cubicTo
  | .smoothCubicTo .. => .smoothCubicTo
  | .quadraticTo .. => .quadraticTo
  | .smoothQuadraticTo _ => .smoothQuadraticTo
  | .arcTo .. => .arcTo
  | .closePath => .closePath

def numbers : Segment α → List α
  | .moveTo p | .lineTo p | .smoothQuadraticTo p => [p.x, p.y]
  | .horizontalTo x => [x]
  | .verticalTo y => [y]
  | .cubicTo p q r => [p.x, p.y, q.x, q.y, r.x, r.y]
  | .smoothCubicTo p q | .quadraticTo p q => [p.x, p.y, q.x, q.y]
  | .arcTo rx ry rotation large sweep p => [rx, ry, rotation, large, sweep, p.x, p.y]
  | .closePath => []

/-- The segment of a command and its numbers, if there are as many as it takes. -/
def ofNumbers? : Kind → List α → Option (Segment α)
  | .moveTo, [x, y] => some (.moveTo ⟨x, y⟩)
  | .lineTo, [x, y] => some (.lineTo ⟨x, y⟩)
  | .horizontalTo, [x] => some (.horizontalTo x)
  | .verticalTo, [y] => some (.verticalTo y)
  | .cubicTo, [x1, y1, x2, y2, x, y] => some (.cubicTo ⟨x1, y1⟩ ⟨x2, y2⟩ ⟨x, y⟩)
  | .smoothCubicTo, [x2, y2, x, y] => some (.smoothCubicTo ⟨x2, y2⟩ ⟨x, y⟩)
  | .quadraticTo, [x1, y1, x, y] => some (.quadraticTo ⟨x1, y1⟩ ⟨x, y⟩)
  | .smoothQuadraticTo, [x, y] => some (.smoothQuadraticTo ⟨x, y⟩)
  | .arcTo, [rx, ry, rotation, large, sweep, x, y] =>
    some (.arcTo rx ry rotation large sweep ⟨x, y⟩)
  | .closePath, [] => some .closePath
  | _, _ => none

theorem length_numbers (s : Segment α) : s.numbers.length = s.kind.arity := by cases s <;> rfl

theorem ofNumbers?_numbers (s : Segment α) : ofNumbers? s.kind s.numbers = some s := by
  cases s <;> rfl

end Segment

/-- A token of path data: a number, or a word, which may name a command. -/
inductive Lexeme (α : Type) where
  | number (value : α)
  | word (text : String)
deriving Repr

def Lexeme.ofToken (token : String) : Lexeme Float :=
  match number? token with
  | some value => .number value
  | none => .word token

/-- A segment as it is written: relative or not, and completed by the token at a position. -/
structure Command (α : Type) where
  segment : Segment α
  relative : Bool
  position : Nat
deriving Repr

inductive MalformedCause where
  /-- A word comes before the numbers in front of it are used up. -/
  | unusedNumbers (count : Nat) (word : String)
  | arcWithoutStart
  | nothingToClose
deriving DecidableEq, Repr

/-- Path data that makes no sense from the token at a position on. -/
structure Malformed where
  cause : MalformedCause
  position : Nat
deriving DecidableEq, Repr

def Malformed.message (malformed : Malformed) : String :=
  match malformed.cause with
  | .unusedNumbers count word =>
    toString count ++ " unused parameter(s) before command " ++ Text.quoted word
  | .arcWithoutStart => "arc has no starting point"
  | .nothingToClose => "closepath without a sub-path to close"

/-- The command that is being read: its letter, unless the last word named none, and the numbers
read for it. -/
structure Reading (α : Type) where
  letter : Option (Kind × Bool)
  pending : List α

namespace Reading

variable {α : Type}

def initial : Reading α := ⟨none, []⟩

/-- Takes in a token. Only a word can be refused. -/
def take (reading : Reading α) (position : Nat) : Lexeme α → Except Malformed (Reading α)
  | .number value => .ok { reading with pending := reading.pending ++ [value] }
  | .word text =>
    if reading.pending.isEmpty then .ok ⟨Kind.ofWord? text, []⟩
    else .error ⟨.unusedNumbers reading.pending.length text, position⟩

/-- The command that is complete with the token at a position, if one is. -/
def complete? (reading : Reading α) (position : Nat) : Option (Command α) :=
  reading.letter.bind fun (kind, relative) =>
    (Segment.ofNumbers? kind reading.pending).map fun segment => ⟨segment, relative, position⟩

end Reading

/-- The commands of path data, and why they end early if they do. -/
structure Commands (α : Type) where
  complete : List (Command α)
  malformed : Option Malformed

/-- The commands of the tokens from a position on. Numbers left over at the end are dropped. -/
def commandsFrom {α : Type} (reading : Reading α) (position : Nat) :
    List (Lexeme α) → Commands α
  | [] => ⟨[], none⟩
  | lexeme :: rest =>
    match reading.take position lexeme with
    | .error malformed => ⟨[], some malformed⟩
    | .ok next =>
      match next.complete? position with
      | none => commandsFrom next (position + 1) rest
      | some command =>
        let more := commandsFrom { next with pending := [] } (position + 1) rest
        ⟨command :: more.complete, more.malformed⟩

def commands {α : Type} (lexemes : List (Lexeme α)) : Commands α :=
  commandsFrom .initial 0 lexemes

end Vignette.Path
