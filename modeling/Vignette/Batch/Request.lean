import Vignette.Options
import Vignette.Path.Mode

namespace Vignette.Batch

/-! What a batch is asked to do, read from its arguments. The first argument that makes no sense
ends the reading. -/

structure Request where
  options : Options
  verbose : Bool
  checkOnly : Bool
  /-- A directory for the pictures, or the file for a single one. -/
  output : Option String
  files : List String

def Request.initial : Request := ⟨.default, false, false, none, []⟩

inductive UsageFault where
  | outputMissing
  | smoothnessInvalid
  | modeMissing
  | modeUnknown (mode : Path.UnknownMode)
  | backgroundMissing
  | backgroundInvalid
  | optionUnknown (option : String)
  | noFiles
deriving DecidableEq, Repr

def UsageFault.message : UsageFault → String
  | .outputMissing => "Error: -o/--output requires a path argument"
  | .smoothnessInvalid =>
    "Error: -aa/--anti-aliasing requires true/false, 1/0, yes/no, or on/off"
  | .modeMissing => "Error: -p/--path-mode requires continuous or discontinuous"
  | .modeUnknown mode => "Error: " ++ mode.message
  | .backgroundMissing => "Error: -b/--background requires R,G,B[,A] values"
  | .backgroundInvalid =>
    "Error: Background must be R,G,B or R,G,B,A integers (e.g., 255,255,255)"
  | .optionUnknown option => "Unknown option: " ++ option
  | .noFiles => "Error: No SVG files specified"

def namesDocument (path : String) : Bool :=
  ".svg".toList.isSuffixOf (Text.lowerChars path.toList)

/-- Whether an argument behind the option for smooth lines is its value. Documents and options are
not. -/
def isSmoothnessValue (argument : String) : Bool :=
  !namesDocument argument && !argument.startsWith "-"

def smoothness? (value : String) : Option Bool :=
  match Text.lower value with
  | "true" | "1" | "yes" | "on" => some true
  | "false" | "0" | "no" | "off" => some false
  | _ => none

inductive Flag where
  | verbose
  | output
  | smooth
  | mode
  | background
  | checkOnly
deriving DecidableEq, Repr

def Flag.ofArgument? (argument : String) : Option Flag :=
  match argument with
  | "-v" | "--verbose" => some .verbose
  | "-o" | "--output" => some .output
  | "-aa" | "--anti-aliasing" => some .smooth
  | "-p" | "--path-mode" => some .mode
  | "-b" | "--background" => some .background
  | "--skip-render" => some .checkOnly
  | _ => none

namespace Request

def withSmooth (request : Request) (smooth : Bool) : Request :=
  { request with options := { request.options with smooth } }

def withFile (request : Request) (argument : String) : Except UsageFault Request :=
  if argument.startsWith "-" then .error (.optionUnknown argument)
  else .ok { request with files := request.files ++ [argument] }

def withMode (request : Request) (name : String) : Except UsageFault Request :=
  match Path.Mode.ofName (.text name) with
  | .error unknown => .error (.modeUnknown unknown)
  | .ok mode => .ok { request with options := { request.options with mode } }

def withBackground (request : Request) (value : String) : Except UsageFault Request :=
  match background? value with
  | none => .error .backgroundInvalid
  | some background => .ok { request with options := { request.options with background } }

def take (request : Request) : List String → Except UsageFault Request
  | [] => .ok request
  | argument :: rest =>
    match Flag.ofArgument? argument, rest with
    | some .verbose, rest => take { request with verbose := true } rest
    | some .checkOnly, rest => take { request with checkOnly := true } rest
    | some .output, path :: more => take { request with output := some path } more
    | some .output, [] => .error .outputMissing
    | some .mode, name :: more => (request.withMode name).bind fun next => take next more
    | some .mode, [] => .error .modeMissing
    | some .background, value :: more =>
      (request.withBackground value).bind fun next => take next more
    | some .background, [] => .error .backgroundMissing
    | some .smooth, [] => .ok (request.withSmooth true)
    | some .smooth, value :: more =>
      if isSmoothnessValue value then
        match smoothness? value with
        | none => .error .smoothnessInvalid
        | some smooth => take (request.withSmooth smooth) more
      else take (request.withSmooth true) (value :: more)
    | none, rest => (request.withFile argument).bind fun next => take next rest

/-- Reads arguments. At least one document must be named. -/
def ofArguments (arguments : List String) : Except UsageFault Request :=
  (take .initial arguments).bind fun request =>
    if request.files.isEmpty then .error .noFiles else .ok request

end Request

/-- What is printed when there are no arguments. -/
def usage : String :=
  "SVG rasterizer\n" ++
  "Usage: python main.py <svg_file1> [svg_file2] ... [options]\n" ++
  "\n" ++
  "Options:\n" ++
  "  -v, --verbose            Print detailed information\n" ++
  "  -o, --output PATH        Output file (one input) or directory\n" ++
  "  -aa, --anti-aliasing     Enable anti-aliasing (disables stroke thickness)\n" ++
  "  -p, --path-mode MODE     continuous (default) or discontinuous\n" ++
  "  -b, --background RGBA    Background color as R,G,B[,A] (default: transparent)\n" ++
  "  --skip-render            Only parse and validate\n" ++
  "\n" ++
  "Examples:\n" ++
  "  python main.py test.svg\n" ++
  "  python main.py *.svg -o out/ -v\n" ++
  "  python main.py icon.svg -p discontinuous -b 255,255,255\n"

end Vignette.Batch
