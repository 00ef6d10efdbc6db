import Vignette.Style.Declarations
import Vignette.Text.Word

namespace Vignette.Style

/-! Style sheets. A rule is a list of selectors in front of declarations in braces. Selectors are
looked up by their whole text; an element is matched by its classes and its identifier. -/

def isSelectorChar (c : Char) : Bool :=
  Text.isWord c || Text.isBlank c || c == '.' || c == ',' || c == '-' || c == '#'

/-- The longest text of selector characters at the end of a text. -/
def trailingSelectors (cs : List Char) : List Char :=
  (cs.reverse.takeWhile isSelectorChar).reverse

/-- One block of a sheet: the text of its selectors and the text between its braces. -/
structure Block where
  selectors : List Char
  body : List Char

theorem length_after_cutAtFirst {mark : Char} {cs before after : List Char}
    (cut : Text.cutAtFirst mark cs = some (before, after)) : after.length < cs.length := by
  have whole := Text.cutAtFirst_eq_append cut
  simp only [whole, List.length_append, List.length_cons]
  omega

/-- The blocks of a sheet. A block ends at the first closing brace; one without it, and all that
follows, is no block. -/
def blocks (cs : List Char) : List Block :=
  match opened : Text.cutAtFirst '\x7b' cs with
  | none => []
  | some (before, inside) =>
    match closed : Text.cutAtFirst '\x7d' inside with
    | none => []
    | some (body, rest) =>
      have : rest.length < cs.length :=
        Nat.lt_trans (length_after_cutAtFirst closed) (length_after_cutAtFirst opened)
      ⟨trailingSelectors before, body⟩ :: blocks rest
termination_by cs.length

def Block.selectorList (block : Block) : List String :=
  ((Text.splitAtEach (· == ',') block.selectors).map Text.trim).filterMap fun selector =>
    if selector.isEmpty then none else some (String.ofList selector)

/-- The rules in force: for each selector, the declarations of all its blocks. -/
abbrev Rules := Bindings Declarations

namespace Rules

/-- Adds declarations for a selector, which win over earlier ones. -/
def add (declarations : Declarations) (rules : Rules) (selector : String) : Rules :=
  rules.put selector ((rules.getD selector .empty).overlay declarations)

def addBlock (rules : Rules) (block : Block) : Rules :=
  block.selectorList.foldl (add (declarationsOf block.body)) rules

def addSheet (rules : Rules) (sheet : String) : Rules :=
  (blocks sheet.toList).foldl addBlock rules

def ofSheets (sheets : List String) : Rules := sheets.foldl addSheet .empty

def lookup (rules : Rules) (selector : String) : Declarations := rules.getD selector .empty

/-- The selectors that match an element with the given attributes in force: its classes, in the
order in which they are listed, and then its identifier. -/
def selectorsFor (scope : Bindings String) : List String :=
  let classes := (Text.words (scope.getD "class" "").toList).map fun name =>
    String.ofList ('.' :: name)
  match scope.get? "id" with
  | some id =>
    if id.isEmpty then classes else classes ++ [String.ofList ('#' :: Text.trim id.toList)]
  | none => classes

/-- The declarations that match an element; later selectors win. -/
def matching (rules : Rules) (scope : Bindings String) : Declarations :=
  (selectorsFor scope).foldl (fun found selector => found.overlay (rules.lookup selector)) .empty

end Rules

end Vignette.Style
