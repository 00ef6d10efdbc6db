import Vignette.Batch.Host
import Vignette.Batch.Request
import Vignette.Validation

namespace Vignette.Batch

/-! Running a batch: every document of a request is read, drawn and saved, one after the other.
Trouble with a document is reported and the next one is taken up; a breakdown ends the batch. -/

def load (host : Host) (tree : FileTree) (path : String) : Except Setback Document := do
  let bytes ← (tree.read path).mapError fun fault => .trouble (.file fault)
  host.read bytes

/-- What came of one document: what was printed, the files afterwards, and whether it succeeded. A
breakdown ends the batch. -/
structure Report where
  printed : String
  tree : FileTree
  result : Except Breakdown Bool

def pictureName (path : String) : String :=
  String.ofList (stem (baseName path.toList)) ++ ".png"

def troubleLine (path : String) (trouble : Trouble) : String :=
  "Error processing " ++ path ++ ": " ++ trouble.message ++ "\n"

def details (request : Request) (path : String) (document : Document) : String :=
  "\nProcessing: " ++ path ++ "\nCanvas: " ++ toString document.width ++ "x" ++
    toString document.height ++ "\nViewBox: " ++ document.viewBox.shown ++ "\nPath mode: " ++
    request.options.mode.name ++ "\n" ++ document.report

def successLine (request : Request) (path target : String) : String :=
  if request.verbose then "[OK] Rendered and saved: " ++ target ++ "\n"
  else "[OK] " ++ path ++ " -> " ++ target ++ "\n"

/-- Turns a document that has been read into an image, or only checks it: the files afterwards, and
the line about it. -/
def processDocument (host : Host) (request : Request) (target : String) (tree : FileTree)
    (path : String) (document : Document) : FileTree × Except Setback String :=
  if request.checkOnly then
    (tree, .ok ("[OK] Parsed: " ++ path ++ " -> " ++ target ++ " (rendering skipped)\n"))
  else
    match host.draw document request.options with
    | .error setback => (tree, .error setback)
    | .ok picture =>
      match host.save tree target picture with
      | (after, some setback) => (after, .error setback)
      | (after, none) => (after, .ok (successLine request path target))

def Report.ofOutcome (path printed : String) : FileTree × Except Setback String → Report
  | (after, .ok line) => ⟨printed ++ line, after, .ok true⟩
  | (after, .error (.trouble trouble)) =>
    ⟨printed ++ troubleLine path trouble, after, .ok false⟩
  | (after, .error (.breakdown breakdown)) => ⟨printed, after, .error breakdown⟩

/-- Takes up one document. Its picture goes to the target, or else where its name says. -/
def processFile (host : Host) (request : Request) (target : Option String) (tree : FileTree)
    (path : String) : Report :=
  if !tree.has path then ⟨"Error: File not found: " ++ path ++ "\n", tree, .ok false⟩
  else
    let warning :=
      if namesDocument path then ""
      else "Warning: " ++ path ++ " does not have .svg extension\n"
    match load host tree path with
    | .error setback => .ofOutcome path warning (tree, .error setback)
    | .ok document =>
      let shown := if request.verbose then details request path document else ""
      .ofOutcome path (warning ++ shown)
        (processDocument host request (target.getD (pictureName path)) tree path document)

/-- Where the picture of a document goes by request, and the warning about a request that cannot be
followed. -/
def targetOf (request : Request) (tree : FileTree) (path : String) : Option String × String :=
  match request.output with
  | none => (none, "")
  | some output =>
    if output.isEmpty then (none, "")
    else if tree.isDirectory output then (some (joinPath output (pictureName path)), "")
    else if request.files.length = 1 then (some output, "")
    else (none, "Warning: -o with multiple files requires a directory, not a file\n")

/-- The paths that a request may be about: its documents, and where their pictures may go. -/
def pathsOf (request : Request) : List String :=
  let names := request.files.map pictureName
  let output := request.output.toList
  request.files ++ names ++ output ++ output.flatMap fun directory => names.map (joinPath directory)

structure Progress where
  printed : String
  tree : FileTree
  succeeded : Nat
  breakdown : Option Breakdown

/-- Takes up documents, one after the other, until a breakdown ends the batch. -/
def processFiles (host : Host) (request : Request) (progress : Progress) :
    List String → Progress
  | [] => progress
  | path :: rest =>
    let (target, warning) := targetOf request progress.tree path
    let report := processFile host request target progress.tree path
    let printed := progress.printed ++ warning ++ report.printed
    let tree := report.tree
    match report.result with
    | .error breakdown => { progress with printed, tree, breakdown := some breakdown }
    | .ok success =>
      let succeeded := progress.succeeded + success.toNat
      processFiles host request { progress with printed, tree, succeeded } rest

/-- The outcome of a batch: its exit code, unless it broke down, what it printed, and the files
afterwards. -/
structure Outcome where
  code : Except Breakdown Nat
  printed : String
  tree : FileTree

def runRequest (host : Host) (request : Request) (tree : FileTree) : Outcome :=
  let progress := processFiles host request ⟨"", tree, 0, none⟩ request.files
  match progress.breakdown with
  | some breakdown => ⟨.error breakdown, progress.printed, progress.tree⟩
  | none =>
    let total := request.files.length
    let summary :=
      "\nProcessed " ++ toString progress.succeeded ++ "/" ++ toString total ++
        " file(s) successfully\n"
    let code := if progress.succeeded = total then 0 else 1
    ⟨.ok code, progress.printed ++ summary, progress.tree⟩

/-- The places whose files must be known to run a batch. -/
def placesOf (arguments : List String) : List (List String) :=
  match Request.ofArguments arguments with
  | .error _ => []
  | .ok request => ((pathsOf request).flatMap FileTree.waypoints).eraseDups

def run (host : Host) (arguments : List String) (tree : FileTree) : Outcome :=
  if arguments.isEmpty then ⟨.ok 0, usage, tree⟩
  else
    match Request.ofArguments arguments with
    | .error fault => ⟨.ok 2, fault.message ++ "\n", tree⟩
    | .ok request => runRequest host request tree

end Vignette.Batch
