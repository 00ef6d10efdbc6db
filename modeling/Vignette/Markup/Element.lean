import Vignette.Bindings
import Vignette.Markup.Entity
import Vignette.Text.Lowercase
import Vignette.Text.Part
import Vignette.Text.Word

namespace Vignette.Markup

/-! Elements, as their tags write them: the name, the attributes, and whether a tag opens an
element, closes one, does both, or only declares something. -/

/-- An element without what it contains. -/
structure Element where
  name : String
  attributes : Bindings String
deriving DecidableEq, Repr

def dropFront (c : Char) (cs : List Char) : List Char := cs.dropWhile (· == c)

def dropBack (c : Char) (cs : List Char) : List Char := (cs.reverse.dropWhile (· == c)).reverse

/-- The inside of a tag: what angle brackets, and a slash in front of the last one, enclose. -/
def inside (tag : List Char) : List Char :=
  dropBack '/' (dropBack '>' (dropFront '<' (Text.trim tag)))

def isSelfClosing (tag : List Char) : Bool := "/>".toList.isSuffixOf (Text.trimRight tag)

def isClosing (tag : List Char) : Bool := "</".toList.isPrefixOf (Text.trim tag)

/-- Whether a tag is a processing instruction or a declaration. -/
def isDeclaration (tag : List Char) : Bool :=
  "<?".toList.isPrefixOf (Text.trim tag) || "<!".toList.isPrefixOf (Text.trim tag)

def isNameChar (c : Char) : Bool := Text.isWord c || c == ':' || c == '.' || c == '-'

/-- A name without the qualifier in front of its last colon. -/
def localName (name : List Char) : List Char :=
  (name.reverse.takeWhile (· != ':')).reverse

/-- The name in a tag, without qualifier and in lower case; empty if there is none. -/
def tagNameChars (tag : List Char) : List Char :=
  let marks (c : Char) : Bool := c == '/' || c == '!' || c == '?'
  let front := ((Text.trimLeft (inside tag)).dropWhile marks)
  Text.lowerChars (localName ((Text.trimLeft front).takeWhile isNameChar))

def tagName (tag : List Char) : String := String.ofList (tagNameChars tag)

/-- Where the reader of attributes is: in a name, between a name and its value, or in a value. The
characters read are kept last first. -/
inductive AttributePlace where
  | name (reversed : List Char)
  | beforeValue (name : List Char)
  | value (name : List Char) (quote : Char) (reversed : List Char)

/-- The attributes of a text as they are written, in order. A name is all that stands in front of an
equals sign, less the blanks; a value stands in quotes of either kind, and all between the sign
and the quote is passed over. -/
def attributeList : AttributePlace → List Char → List (List Char × List Char)
  | _, [] => []
  | .name reversed, c :: rest =>
    if c = '=' then attributeList (.beforeValue reversed.reverse) rest
    else if Text.isBlank c then attributeList (.name reversed) rest
    else attributeList (.name (c :: reversed)) rest
  | .beforeValue name, c :: rest =>
    if c = '"' ∨ c = '\'' then attributeList (.value name c []) rest
    else attributeList (.beforeValue name) rest
  | .value name quote reversed, c :: rest =>
    if c = quote then
      (name, reversed.reverse) :: attributeList (.name []) rest
    else attributeList (.value name quote (c :: reversed)) rest

/-- The attributes of a tag as they are written: those behind its first word. A closing tag has
none. -/
def writtenAttributes (tag : List Char) : List (List Char × List Char) :=
  if isClosing tag then []
  else
    let behindName := (Text.trimLeft (inside tag)).dropWhile fun c => !Text.isBlank c
    attributeList (.name []) (Text.trimLeft behindName)

def resolvedAttribute (written : List Char × List Char) : Except Fault (String × String) :=
  (resolveReferences written.2).map fun value => (String.ofList written.1, String.ofList value)

def attributesOf (tag : List Char) : Except Fault (Bindings String) :=
  ((writtenAttributes tag).mapM resolvedAttribute).map .ofList

def Element.ofTag (tag : List Char) : Except Fault Element :=
  (attributesOf tag).map fun attributes => ⟨tagName tag, attributes⟩

end Vignette.Markup
