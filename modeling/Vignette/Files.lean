import Vignette.Canvas.Pixel
import Vignette.Text.Quoted
import Vignette.Text.Part

namespace Vignette

/-! A tree of files, as far as a batch of documents needs one: it reads files, asks which paths
are directories, and saves pictures. A place is the list of names that lead to it from the
directory where the batch runs. -/

/-- What stands at a place. -/
inductive Entry where
  | directory
  | file (bytes : List UInt8)
  /-- An image of a picture, and the bytes that it was saved as. -/
  | picture (picture : Picture) (bytes : List UInt8)

inductive FileCause where
  | missing
  | notDirectory
  | isDirectory
  | nameTooLong
deriving DecidableEq, Repr

structure FileFault where
  cause : FileCause
  path : String
deriving DecidableEq, Repr

def FileFault.message (fault : FileFault) : String :=
  let reason :=
    match fault.cause with
    | .missing => "[Errno 2] No such file or directory: "
    | .notDirectory => "[Errno 20] Not a directory: "
    | .isDirectory => "[Errno 21] Is a directory: "
    | .nameTooLong => "[Errno 36] File name too long: "
  reason ++ Text.quoted fault.path

/-- Files by their places. -/
structure FileTree where
  entries : List (List String × Entry)

namespace FileTree

/-- The place of the directory that all others are in. -/
def top : List String := ["/"]

/-- Whether a directory always stands at a place: the one where the batch runs, those around it, and
the one that all others are in. -/
def isGiven (place : List String) : Bool := place.all (· == "..") || place == top

def at? (tree : FileTree) (place : List String) : Option Entry :=
  if isGiven place then some .directory
  else (tree.entries.find? fun entry => entry.1 == place).map Prod.snd

/-- The place around another one. Nothing is around the top. -/
def outside (place : List String) : List String :=
  if place == top then top
  else if place.all (· == "..") then ".." :: place
  else place.dropLast

def nameLimit : Nat := 255

def pathLimit : Nat := 4095

/-- Follows the parts of a path from a place. All places on the way must be directories. -/
def follow (tree : FileTree) (place : List String) : List String → Except FileCause (List String)
  | [] => .ok place
  | part :: rest =>
    match tree.at? place with
    | some .directory =>
      if part = "" ∨ part = "." then follow tree place rest
      else if part = ".." then follow tree (outside place) rest
      else if nameLimit < part.utf8ByteSize then .error .nameTooLong
      else follow tree (place ++ [part]) rest
    | some _ => .error .notDirectory
    | none => .error .missing

def parts (path : String) : List String :=
  (Text.splitAtEach (· == '/') path.toList).map String.ofList

def startOf (path : String) : List String := if path.startsWith "/" then top else []

/-- The place that a path leads to, whether or not there is something. -/
def place (tree : FileTree) (path : String) : Except FileCause (List String) :=
  if path.isEmpty then .error .missing
  else if pathLimit < path.utf8ByteSize then .error .nameTooLong
  else tree.follow (startOf path) (parts path)

/-- The places that parts of a path lead through from a place, if all of them are directories. -/
def waypointsFrom (place : List String) : List String → List (List String)
  | [] => [place]
  | part :: rest =>
    if part = "" ∨ part = "." then waypointsFrom place rest
    else if part = ".." then place :: waypointsFrom (outside place) rest
    else place :: waypointsFrom (place ++ [part]) rest

/-- The places that must be known to tell what a path leads to. -/
def waypoints (path : String) : List (List String) :=
  waypointsFrom (startOf path) (parts path)

def find (tree : FileTree) (path : String) : Except FileCause Entry :=
  (tree.place path).bind fun place =>
    match tree.at? place with
    | some entry => .ok entry
    | none => .error .missing

def has (tree : FileTree) (path : String) : Bool := (tree.find path).isOk

def isDirectory (tree : FileTree) (path : String) : Bool :=
  match tree.find path with
  | .ok .directory => true
  | _ => false

def read (tree : FileTree) (path : String) : Except FileFault (List UInt8) :=
  match tree.find path with
  | .ok (.file bytes) => .ok bytes
  | .ok (.picture _ bytes) => .ok bytes
  | .ok .directory => .error ⟨.isDirectory, path⟩
  | .error cause => .error ⟨cause, path⟩

/-- Puts something at a place, in the stead of what was there. -/
def put (tree : FileTree) (place : List String) (entry : Entry) : FileTree :=
  ⟨(tree.entries.filter fun other => other.1 != place) ++ [(place, entry)]⟩

/-- Whether something can be put at a place: the place around it must be a directory, and it must
not be one itself. -/
def refusal? (tree : FileTree) (place : List String) : Option FileCause :=
  match tree.at? place with
  | some .directory => some .isDirectory
  | some _ => none
  | none =>
    match tree.at? place.dropLast with
    | some .directory => none
    | some _ => some .notDirectory
    | none => some .missing

/-- Saves something under a path. -/
def save (tree : FileTree) (path : String) (entry : Entry) : Except FileFault FileTree :=
  match tree.place path with
  | .error cause => .error ⟨cause, path⟩
  | .ok place =>
    match tree.refusal? place with
    | some cause => .error ⟨cause, path⟩
    | none => .ok (tree.put place entry)

/-- The images of pictures, with their places and their bytes. -/
def pictures (tree : FileTree) : List (List String × Picture × List UInt8) :=
  tree.entries.filterMap fun entry =>
    match entry.2 with
    | .picture picture bytes => some (entry.1, picture, bytes)
    | _ => none

end FileTree

/-! ### Names of files -/

def baseName (path : List Char) : List Char := (path.reverse.takeWhile (· != '/')).reverse

/-- The extension of a name, with its point: what follows the last point, unless there are only
points in front of it. -/
def extension (name : List Char) : List Char :=
  let behind := (name.reverse.takeWhile (· != '.')).reverse
  let front := name.take (name.length - behind.length - 1)
  if behind.length = name.length ∨ front.all (· == '.') then [] else '.' :: behind

def stem (name : List Char) : List Char := name.take (name.length - (extension name).length)

def joinPath (directory name : String) : String :=
  if directory.isEmpty || directory.endsWith "/" then directory ++ name
  else directory ++ "/" ++ name

end Vignette
