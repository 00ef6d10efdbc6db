import Vignette.Markup.Element
import Vignette.Markup.Item

namespace Vignette.Markup

/-! Element trees. The tree of a document is built from its items: its root is the first tag that
opens an element named `svg`, and nothing counts after the tag that closes it. -/

/-- An element with its text and the elements in it. The texts between these are joined to one. -/
inductive Node where
  | mk (element : Element) (text : String) (children : List Node)
deriving Repr

namespace Node

def element : Node → Element
  | .mk element _ _ => element

def name (node : Node) : String := node.element.name

def attributes (node : Node) : Bindings String := node.element.attributes

def text : Node → String
  | .mk _ text _ => text

def children : Node → List Node
  | .mk _ _ children => children

mutual

/-- A node and all nodes in it, each before those in it. -/
def preorder : Node → List Node
  | .mk element text children => .mk element text children :: preorderAll children

def preorderAll : List Node → List Node
  | [] => []
  | node :: rest => node.preorder ++ preorderAll rest

end

end Node

inductive Unreadable where
  | missingRoot
  /-- A reference in an element or its text has too many digits. -/
  | fault (reason : Fault)
deriving DecidableEq, Repr

def Unreadable.message : Unreadable → String
  | .missingRoot => "No root <svg> element found"
  | .fault reason => reason.message

/-- An element that has been opened, with what it contains so far. -/
structure Frame where
  element : Element
  text : String
  children : List Node

namespace Frame

def ofTag (tag : List Char) : Except Fault Frame :=
  (Element.ofTag tag).map fun element => ⟨element, "", []⟩

def node (frame : Frame) : Node := .mk frame.element frame.text frame.children

def adopt (frame : Frame) (child : Node) : Frame :=
  { frame with children := frame.children ++ [child] }

def write (frame : Frame) (text : List Char) : Frame :=
  { frame with text := frame.text ++ String.ofList text }

end Frame

/-- Closes all open elements, of which the innermost is given first. -/
def closeAll (innermost : Frame) : List Frame → Node
  | [] => innermost.node
  | outer :: rest => closeAll (outer.adopt innermost.node) rest

/-- The tree that grows from the open elements. A closing tag closes the innermost one if the names
agree, and otherwise counts for nothing. -/
def grow (innermost : Frame) (outer : List Frame) : List Item → Except Fault Node
  | [] => .ok (closeAll innermost outer)
  | .verbatim text :: rest => grow (innermost.write text) outer rest
  | .text text :: rest =>
    (resolveReferences text).bind fun resolved => grow (innermost.write resolved) outer rest
  | .tag tag :: rest =>
    if isDeclaration tag then grow innermost outer rest
    else if isClosing tag then
      if tagName tag = innermost.element.name then
        match outer with
        | [] => .ok innermost.node
        | parent :: more => grow (parent.adopt innermost.node) more rest
      else grow innermost outer rest
    else
      (Frame.ofTag tag).bind fun frame =>
        if isSelfClosing tag then grow (innermost.adopt frame.node) outer rest
        else grow frame (innermost :: outer) rest

def opensRoot (tag : List Char) : Bool :=
  !isDeclaration tag && !isClosing tag && tagName tag == "svg"

/-- The tree whose root is opened by a tag, with the items that follow it. -/
def treeOfRoot (tag : List Char) (rest : List Item) : Except Fault Node :=
  (Frame.ofTag tag).bind fun frame =>
    if isSelfClosing tag then .ok frame.node else grow frame [] rest

def treeOfItems : List Item → Except Unreadable Node
  | [] => .error .missingRoot
  | .text _ :: rest | .verbatim _ :: rest => treeOfItems rest
  | .tag tag :: rest =>
    if opensRoot tag then (treeOfRoot tag rest).mapError .fault else treeOfItems rest

def parse (document : String) : Except Unreadable Node := treeOfItems (items document.toList)

end Vignette.Markup
