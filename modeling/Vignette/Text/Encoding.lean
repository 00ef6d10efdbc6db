import Vignette.Text.Quoted

namespace Vignette.Text

/-! Reading files as text. Files are UTF-8, strictly: no overlong form, no surrogate, nothing above
U+10FFFF. A refusal names the first bytes that no text can hold. Line ends of every kind become line
feeds. -/

inductive DecodingCause where
  | startByte
  | continuationByte
  | endOfData
deriving DecidableEq, Repr

/-- Bytes that are no text: where the broken character begins, how many of its bytes are known, and
the first of them. -/
structure DecodingFault where
  position : Nat
  length : Nat
  byte : UInt8
  cause : DecodingCause
deriving DecidableEq, Repr

def DecodingFault.message (fault : DecodingFault) : String :=
  let place :=
    if fault.length ≤ 1 then
      "byte 0x" ++ String.ofList (hexDigits 2 fault.byte.toNat) ++ " in position " ++
        toString fault.position
    else
      "bytes in position " ++ toString fault.position ++ "-" ++
        toString (fault.position + fault.length - 1)
  let reason :=
    match fault.cause with
    | .startByte => "invalid start byte"
    | .continuationByte => "invalid continuation byte"
    | .endOfData => "unexpected end of data"
  "'utf-8' codec can't decode " ++ place ++ ": " ++ reason

/-- What the first byte of a character promises: the number of bytes to come, the range of the next
of them, and the bits it contributes. -/
structure Lead where
  tails : Nat
  low : Nat
  high : Nat
  bits : Nat

def Lead.ofByte? (byte : Nat) : Option Lead :=
  if byte < 0x80 then some ⟨0, 0x80, 0xBF, byte⟩
  else if byte < 0xC2 then none
  else if byte < 0xE0 then some ⟨1, 0x80, 0xBF, byte - 0xC0⟩
  else if byte = 0xE0 then some ⟨2, 0xA0, 0xBF, 0⟩
  else if byte = 0xED then some ⟨2, 0x80, 0x9F, 13⟩
  else if byte < 0xF0 then some ⟨2, 0x80, 0xBF, byte - 0xE0⟩
  else if byte = 0xF0 then some ⟨3, 0x90, 0xBF, 0⟩
  else if byte < 0xF4 then some ⟨3, 0x80, 0xBF, byte - 0xF0⟩
  else if byte = 0xF4 then some ⟨3, 0x80, 0x8F, 4⟩
  else none

/-- Reads the bytes that a character still owes. A refusal gives the cause and the number of bytes
that were read before it. -/
def readTails (tails low high bits known : Nat) (bytes : List UInt8) :
    Except (DecodingCause × Nat) (Char × { rest : List UInt8 // rest.length ≤ bytes.length }) :=
  match tails, bytes with
  | 0, bytes => .ok (Char.ofNat bits, ⟨bytes, Nat.le_refl _⟩)
  | _ + 1, [] => .error (.endOfData, known)
  | more + 1, byte :: rest =>
    if low ≤ byte.toNat ∧ byte.toNat ≤ high then
      match readTails more 0x80 0xBF (bits * 64 + byte.toNat % 64) (known + 1) rest with
      | .ok (c, ⟨left, shorter⟩) => .ok (c, ⟨left, Nat.le_succ_of_le shorter⟩)
      | .error refusal => .error refusal
    else .error (.continuationByte, known)

/-- Reads bytes, the first of which stands at the given position of the file. -/
def decodeFrom (position : Nat) (bytes : List UInt8) : Except DecodingFault (List Char) :=
  match bytes with
  | [] => .ok []
  | byte :: rest =>
    match Lead.ofByte? byte.toNat with
    | none => .error ⟨position, 1, byte, .startByte⟩
    | some lead =>
      match readTails lead.tails lead.low lead.high lead.bits 1 rest with
      | .error (cause, known) => .error ⟨position, known, byte, cause⟩
      | .ok (c, ⟨left, shorter⟩) =>
        have : left.length < (byte :: rest).length := Nat.lt_succ_of_le shorter
        match decodeFrom (position + lead.tails + 1) left with
        | .ok cs => .ok (c :: cs)
        | .error fault => .error fault
termination_by bytes.length
decreasing_by exact this

/-- A carriage return ends a line, with or without a line feed after it; both become a line feed. -/
def unifyLines : List Char → List Char
  | [] => []
  | '\r' :: '\n' :: rest => '\n' :: unifyLines rest
  | '\r' :: rest => '\n' :: unifyLines rest
  | c :: rest => c :: unifyLines rest

def decode (bytes : List UInt8) : Except DecodingFault String :=
  (decodeFrom 0 bytes).map fun cs => String.ofList (unifyLines cs)

end Vignette.Text
