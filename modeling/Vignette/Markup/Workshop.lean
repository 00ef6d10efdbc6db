import Vignette.Markup.Element

namespace Vignette.Markup

/-! A workshop: numbered nodes that are put together by hand. A node that is moved into another
keeps its place in the listing of the one it came from, and takes the new one for its parent. -/

/-- A node on the bench. Its parent and its children are given by their numbers. -/
structure Piece where
  element : Element
  text : String
  children : List Nat
  parent : Option Nat

/-- The nodes made so far; each is numbered by its place. -/
structure Workshop where
  pieces : Array Piece

namespace Workshop

def freshPiece (tag : String) (parent : Option Nat) : Except Fault Piece :=
  (Element.ofTag tag.toList).map fun element => ⟨element, "", [], parent⟩

def start (tag : String) : Except Fault Workshop :=
  (freshPiece tag none).map fun piece => ⟨#[piece]⟩

def size (shop : Workshop) : Nat := shop.pieces.size

def change (shop : Workshop) (number : Nat) (f : Piece → Piece) : Workshop :=
  ⟨shop.pieces.modify number f⟩

/-- Makes a node inside another; its number is the size of the workshop before. -/
def addChild (shop : Workshop) (parent : Nat) (tag : String) : Except Fault Workshop :=
  let listed := shop.change parent fun piece =>
    { piece with children := piece.children ++ [shop.size] }
  (freshPiece tag (some parent)).map fun piece => ⟨listed.pieces.push piece⟩

def move (shop : Workshop) (parent child : Nat) : Workshop :=
  (shop.change child fun piece => { piece with parent := some parent }).change parent fun piece =>
    { piece with children := piece.children ++ [child] }

def addText (shop : Workshop) (number : Nat) (text : String) : Workshop :=
  shop.change number fun piece => { piece with text := piece.text ++ text }

def nameOf (shop : Workshop) (number : Nat) : String :=
  (shop.pieces[number]?.map fun piece => piece.element.name).getD ""

/-- The names in a node and all nodes in it, each before those in it, down to a depth. -/
def namesTo (shop : Workshop) : Nat → Nat → List String
  | 0, _ => []
  | depth + 1, number =>
    match shop.pieces[number]? with
    | some piece => piece.element.name :: piece.children.flatMap (namesTo shop depth)
    | none => []

/-- The names in a node and all nodes in it. No path is longer than there are nodes. -/
def names (shop : Workshop) (number : Nat) : List String := shop.namesTo shop.size number

end Workshop

end Vignette.Markup
