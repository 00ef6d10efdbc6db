import Vignette.Numeral
import Vignette.Text.Part
import Vignette.Text.Replacing
import Vignette.Geometry.Point

namespace Vignette.Path

/-! Tokens of path data. Blanks are put wherever two tokens meet: for commas, between a digit and a
minus behind it, around letters, and between the fractions of a run. What the blanks separate then
are the tokens. -/

/-- Whether a character separates tokens and vanishes. -/
def isSeparator (c : Char) : Bool := c == ',' || Text.isBlank c

def commasToBlanks (cs : List Char) : List Char := cs.map fun c => if c = ',' then ' ' else c

/-- Matches a digit with a minus behind it. -/
def matchDigitMinus : List Char → Nat
  | c :: '-' :: _ => if Text.isDigit c then 2 else 0
  | _ => 0

def matchLetter : List Char → Nat
  | c :: _ => if c.isAlpha then 1 else 0
  | [] => 0

/-- Matches a run of fractions, each a point with digits behind it; or, inside a run, what is left
of it. -/
def matchFractions (inside : Bool) : List Char → Nat
  | '.' :: c :: rest => if Text.isDigit c then matchFractions true rest + 2 else 0
  | c :: rest => if inside && Text.isDigit c then matchFractions true rest + 1 else 0
  | [] => 0

def matchBlanks (cs : List Char) : Nat := (cs.takeWhile Text.isBlank).length

/-- Puts a blank between a digit and a minus. -/
def partMinuses : List Char → List Char :=
  Text.replaceMatches matchDigitMinus fun found => found.take 1 ++ [' ', '-']

def partLetters : List Char → List Char :=
  Text.replaceMatches matchLetter fun found => ' ' :: found ++ [' ']

def blankBeforePoint (c : Char) : List Char := if c = '.' then [' ', '.'] else [c]

/-- Puts a blank in front of every point of a run of fractions but the first. -/
def partFractions : List Char → List Char :=
  Text.replaceMatches (matchFractions false) fun found =>
    Text.trim (found.flatMap blankBeforePoint)

def joinBlanks : List Char → List Char := Text.replaceMatches matchBlanks fun _ => [' ']

/-- A text with blanks wherever two tokens meet. -/
def parted (cs : List Char) : List Char :=
  partFractions (partLetters (partMinuses (commasToBlanks cs)))

/-- A text with single spaces between its tokens, as a list of characters. -/
def normal (cs : List Char) : List Char := Text.trim (joinBlanks (parted cs))

def cut (cs : List Char) : List (List Char) :=
  let text := normal cs
  if text.isEmpty then [] else Text.splitAtEach (· == ' ') text

def tokens (data : String) : List String := (cut data.toList).map String.ofList

def spaced (data : String) : String := String.ofList (normal data.toList)

def leadingNumbers : List String → List Float
  | [] => []
  | token :: rest =>
    match number? token with
    | some value => value :: leadingNumbers rest
    | none => []

/-- Points from coordinates taken two by two; a last one without a partner is dropped. -/
def pairUp {α : Type} : List α → List (Point α)
  | x :: y :: rest => ⟨x, y⟩ :: pairUp rest
  | _ => []

/-- The points of a list of coordinates, up to the first token that is no number. -/
def points (list : String) : List (Point Float) := pairUp (leadingNumbers (tokens list))

end Vignette.Path
