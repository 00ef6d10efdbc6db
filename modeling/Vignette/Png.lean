import Vignette.Canvas.Pixel

namespace Vignette.Png

/-! Pictures as PNG data, without compression: the rows of pixels stand in stored blocks. -/

/-- A number as four bytes, the highest first. -/
def word (n : Nat) : List UInt8 :=
  [UInt8.ofNat (n / 16777216), UInt8.ofNat (n / 65536), UInt8.ofNat (n / 256), UInt8.ofNat n]

def lowFirst (n : Nat) : List UInt8 := [UInt8.ofNat n, UInt8.ofNat (n / 256)]

def checkBit (sum : UInt32) : UInt32 :=
  if sum &&& 1 = 1 then (sum >>> 1) ^^^ 0xEDB88320 else sum >>> 1

def checkByte (sum : UInt32) (byte : UInt8) : UInt32 :=
  Nat.repeat checkBit 8 (sum ^^^ byte.toUInt32)

def checksum (bytes : List UInt8) : Nat := (bytes.foldl checkByte 0xFFFFFFFF ^^^ 0xFFFFFFFF).toNat

/-- The checksum of the rows: the sum of the bytes, and the sum of all its earlier values. -/
def rowChecksum (bytes : List UInt8) : Nat :=
  let (low, high) := bytes.foldl
    (fun (low, high) byte =>
      let next := (low + byte.toNat) % 65521
      (next, (high + next) % 65521))
    (1, 0)
  high * 65536 + low

/-- A chunk: its length, its name, its data and its checksum. -/
def chunk (name : String) (data : List UInt8) : List UInt8 :=
  let named := name.toUTF8.toList ++ data
  word data.length ++ named ++ word (checksum named)

def blockSize : Nat := 65535

/-- Data in as many stored blocks as it takes; the last one is marked. -/
def stored : Nat → List UInt8 → List UInt8
  | 0, _ => []
  | fuel + 1, data =>
    let block := data.take blockSize
    let rest := data.drop blockSize
    let length := block.length
    (if rest.isEmpty then 1 else 0) :: lowFirst length ++ lowFirst (65535 - length) ++ block ++
      if rest.isEmpty then [] else stored fuel rest

def pixelBytes (pixel : Pixel) : List UInt8 := [pixel.red, pixel.green, pixel.blue, pixel.alpha]

/-- The rows of a picture, each with the mark of a row that is given as it is. -/
def rowBytes (picture : Picture) : List UInt8 :=
  picture.rows.toList.flatMap fun row => 0 :: row.toList.flatMap pixelBytes

def encode (picture : Picture) : List UInt8 :=
  let rows := rowBytes picture
  let data := [0x78, 0x01] ++ stored (rows.length / blockSize + 1) rows ++ word (rowChecksum rows)
  [0x89, 0x50, 0x4E, 0x47, 0x0D, 0x0A, 0x1A, 0x0A] ++
    chunk "IHDR" (word picture.width ++ word picture.height ++ [8, 6, 0, 0, 0]) ++
    chunk "IDAT" data ++ chunk "IEND" []

end Vignette.Png
