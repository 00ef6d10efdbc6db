import Vignette.Files
import Vignette.Png
import Vignette.Render
import Vignette.Text.Encoding
import Vignette.Text.Lowercase

namespace Vignette.Batch

/-! What a batch runs on, and what can keep it from turning a document into an image. Some of that
is up to the documents and the files, and some of it to the host. -/

/-- What is reported about a document. -/
inductive Trouble where
  | file (fault : FileFault)
  | bytes (fault : Text.DecodingFault)
  | document (fault : DocumentFault)
  /-- The host refuses to go on, for a reason that it gives. -/
  | host (message : String)
deriving DecidableEq, Repr

def Trouble.message : Trouble → String
  | .file fault => fault.message
  | .bytes fault => fault.message
  | .document fault => fault.message
  | .host message => message

/-- Why a batch ends before all of its documents are taken up. -/
inductive Breakdown where
  /-- The numbers of a document, or of its picture, lead nowhere. -/
  | fault (reason : Fault)
  /-- The host cannot go on: its memory is used up, elements are nested too deeply, a text cannot be
  set, or a format is not known. -/
  | host (message : String)
deriving DecidableEq, Repr

def Breakdown.message : Breakdown → String
  | .fault reason => reason.message
  | .host message => message

inductive Setback where
  | trouble (reason : Trouble)
  | breakdown (reason : Breakdown)
deriving DecidableEq, Repr

def Setback.ofDocument : DocumentFault → Setback
  | .markup (.fault reason) => .breakdown (.fault reason)
  | fault => .trouble (.document fault)

/-- What a batch relies on: how far reading and drawing can go, a typeface, and a way to save
pictures. -/
structure Host where
  /-- What ends the reading of a file with some bytes, before anything else does. -/
  readingLimit? : List UInt8 → Option Setback
  /-- What ends the drawing of a document, before anything else does. -/
  drawingLimit? : Document → Options → Option Setback
  /-- The typeface for pictures of a width and a height. -/
  typeface : Nat → Nat → Typeface Float
  /-- Saves a picture under a path: the files afterwards, and what kept it from being saved. Files
  may change even then. -/
  save : FileTree → String → Picture → FileTree × Option Setback

namespace Host

def read (host : Host) (bytes : List UInt8) : Except Setback Document :=
  match host.readingLimit? bytes with
  | some setback => .error setback
  | none => do
    let text ← (Text.decode bytes).mapError fun fault => .trouble (.bytes fault)
    (Document.read text).mapError .ofDocument

def draw (host : Host) (document : Document) (options : Options) : Except Setback Picture :=
  match host.drawingLimit? document options with
  | some setback => .error setback
  | none =>
    (document.pictureIn (host.typeface document.width document.height) options).mapError
      fun reason => .breakdown (.fault reason)

end Host

/-! ### A host for PNG data -/

/-- Whether a path names PNG data. The character with the code point zero would cut it short. -/
def namesPng (path : String) : Bool :=
  Text.lower (String.ofList (extension (baseName path.toList))) == ".png" &&
    !path.toList.contains (Char.ofNat 0)

def savePng (tree : FileTree) (path : String) (picture : Picture) : FileTree × Option Setback :=
  if namesPng path then
    match tree.save path (.picture picture (Png.encode picture)) with
    | .ok saved => (saved, none)
    | .error fault => (tree, some (.trouble (.file fault)))
  else (tree, some (.breakdown (.host ("no pictures are saved as " ++ path))))

/-- A host without limits of its own. It has no typeface and saves PNG data alone. -/
def Host.bare : Host where
  readingLimit? _ := none
  drawingLimit? _ _ := none
  typeface _ _ := .invisible
  save := savePng

end Vignette.Batch
