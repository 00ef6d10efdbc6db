import Vignette.FreeNumeral
import Vignette.Markup.CharacterName

namespace Vignette.Markup

/-! References to characters, by name or by number, in texts and in values of attributes. The
semicolon at the end of a reference may be missing, though for most names it must not. What is no
reference stays as it is. Only a reference with too many decimal digits cannot be resolved. -/

/-- What the code points from 0x80 to 0x9F stand for, which as such are controls. -/
def highControlPoints : List Nat :=
  [0x20AC, 0x81, 0x201A, 0x192, 0x201E, 0x2026, 0x2020, 0x2021, 0x2C6, 0x2030, 0x160, 0x2039,
   0x152, 0x8D, 0x17D, 0x8F, 0x90, 0x2018, 0x2019, 0x201C, 0x201D, 0x2022, 0x2013, 0x2014, 0x2DC,
   0x2122, 0x161, 0x203A, 0x153, 0x9D, 0x17E, 0x178]

/-- Whether a code point is no character: most controls, and the points set aside in every plane. -/
def isNoCharacter (point : Nat) : Bool :=
  (1 ≤ point && point ≤ 8) || point == 0xB || (0xE ≤ point && point ≤ 0x1F) || point == 0x7F ||
    (0xFDD0 ≤ point && point ≤ 0xFDEF) || 0xFFFE ≤ point % 0x10000

/-- The text of a reference by number. Zero, surrogates and numbers beyond all code points give the
replacement character; a number that is no character gives nothing. -/
def numberedText (number : Nat) : List Char :=
  if 0x80 ≤ number ∧ number ≤ 0x9F then
    [Char.ofNat (highControlPoints.getD (number - 0x80) 0xFFFD)]
  else if number = 0 ∨ 0x10FFFF < number ∨ (0xD800 ≤ number ∧ number ≤ 0xDFFF) then
    [Char.ofNat 0xFFFD]
  else if isNoCharacter number then []
  else [Char.ofNat number]

/-- A reference at the front of a text: what it stands for, and how many characters it takes up
behind the ampersand. -/
structure Reference where
  text : Except Fault (List Char)
  length : Nat

def semicolonLength : List Char → Nat
  | ';' :: _ => 1
  | _ => 0

def hexDigitValue (c : Char) : Nat :=
  if c.isDigit then c.toNat - 48 else c.toLower.toNat - 87

def isHexDigit (c : Char) : Bool :=
  c.isDigit || ('a' ≤ c && c ≤ 'f') || ('A' ≤ c && c ≤ 'F')

/-- A reference by number: a row of digits to a base, with some characters in front of them. Only
the number of decimal digits is limited. -/
def numberedReference? (front base : Nat) (isDigit : Char → Bool) (cs : List Char) :
    Option Reference :=
  let digits := cs.takeWhile isDigit
  if digits.isEmpty then none
  else
    let number := digits.foldl (fun n c => n * base + hexDigitValue c) 0
    let behind := cs.dropWhile isDigit
    let text :=
      if base = 10 ∧ digitLimit < digits.length then .error (.tooManyDigits digits.length)
      else .ok (numberedText number)
    some ⟨text, front + digits.length + semicolonLength behind⟩

def entityStops : List Char := ['\t', '\n', Char.ofNat 12, ' ', '<', '&', '#', ';']

def isEntityChar (c : Char) : Bool := !entityStops.contains c

/-- The longest front of a text that is a name known bare, of at least two characters and at most
the given number: its length, and what it stands for. -/
def bareFront? (text : List Char) : Nat → Option (Nat × List Char)
  | 0 | 1 => none
  | count + 2 =>
    match bareText? (String.ofList (text.take (count + 2))) with
    | some meaning => some (count + 2, meaning)
    | none => bareFront? text (count + 1)

/-- A reference by name. A name that is not known as a whole may begin with one that is known
bare. -/
def namedReference? (cs : List Char) : Option Reference :=
  let name := (cs.take 32).takeWhile isEntityChar
  if name.isEmpty then none
  else
    let written := cs.take (name.length + semicolonLength (cs.drop name.length))
    let whole := String.ofList name
    let known := if written.length = name.length then bareText? whole else closedText? whole
    match known with
    | some meaning => some ⟨.ok meaning, written.length⟩
    | none =>
      match bareFront? written (written.length - 1) with
      | some (used, meaning) => some ⟨.ok (meaning ++ written.drop used), written.length⟩
      | none => some ⟨.ok ('&' :: written), written.length⟩

def reference? : List Char → Option Reference
  | '#' :: 'x' :: cs | '#' :: 'X' :: cs => numberedReference? 2 16 isHexDigit cs
  | '#' :: cs => numberedReference? 1 10 Char.isDigit cs
  | cs => namedReference? cs

def resolveReferences (cs : List Char) : Except Fault (List Char) :=
  match cs with
  | [] => .ok []
  | c :: rest =>
    if c = '&' then
      match reference? rest with
      | some reference =>
        reference.text.bind fun text =>
          (resolveReferences (rest.drop reference.length)).map (text ++ ·)
      | none => (resolveReferences rest).map ('&' :: ·)
    else (resolveReferences rest).map (c :: ·)
termination_by cs.length
decreasing_by
  all_goals simp only [List.length_cons, List.length_drop]; omega

end Vignette.Markup
