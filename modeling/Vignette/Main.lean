import Vignette.Batch.Run

namespace Vignette

/-! The command line: looks at the files that a batch may need, runs it, prints what it printed and
writes the pictures that it saved. -/

def pathTo (place : List String) : String :=
  if place.isEmpty then "." else "/".intercalate place

/-- What stands at a place, if it can be looked at. -/
def lookAt (place : List String) : IO (Option (List String × Entry)) := do
  try
    let path ← IO.FS.realPath (pathTo place)
    if ← path.isDir then return some (place, .directory)
    else return some (place, .file (← IO.FS.readBinFile path).toList)
  catch _ => return none

def writeBytes (place : List String) (bytes : List UInt8) : IO Unit :=
  IO.FS.writeBinFile (pathTo place) ⟨bytes.toArray⟩

/-- The exit code of a batch. The message about a breakdown goes to the error output. -/
def exitCode : Except Batch.Breakdown Nat → IO UInt32
  | .ok code => return UInt32.ofNat code
  | .error breakdown => do
    IO.eprintln breakdown.message
    return 1

end Vignette

def main (arguments : List String) : IO UInt32 := do
  let entries ← (Vignette.Batch.placesOf arguments).filterMapM Vignette.lookAt
  let outcome := Vignette.Batch.run .bare arguments ⟨entries⟩
  IO.print outcome.printed
  outcome.tree.pictures.forM fun (place, _, bytes) => Vignette.writeBytes place bytes
  Vignette.exitCode outcome.code
