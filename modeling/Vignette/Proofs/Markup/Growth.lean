import Vignette.Markup.Node

namespace Vignette.Markup

/-! How a tree grows by one item, for each kind of item. -/

variable {innermost parent : Frame} {outer : List Frame} {tag : List Char} {rest : List Item}

theorem isDeclaration_of_isClosing (closing : isClosing tag = true) :
    isDeclaration tag = false := by
  obtain ⟨more, whole⟩ := List.isPrefixOf_iff_prefix.mp closing
  rw [isDeclaration, ← whole]
  rfl

theorem grow_tag (innermost : Frame) (outer : List Frame) (tag : List Char) (rest : List Item) :
    grow innermost outer (.tag tag :: rest) =
      if isDeclaration tag then grow innermost outer rest
      else if isClosing tag then
        if tagName tag = innermost.element.name then
          match outer with
          | [] => .ok innermost.node
          | parent :: more => grow (parent.adopt innermost.node) more rest
        else grow innermost outer rest
      else
        (Frame.ofTag tag).bind fun frame =>
          if isSelfClosing tag then grow (innermost.adopt frame.node) outer rest
          else grow frame (innermost :: outer) rest := rfl

theorem grow_declaration (declares : isDeclaration tag = true) :
    grow innermost outer (.tag tag :: rest) = grow innermost outer rest := by
  rw [grow_tag, if_pos declares]

theorem grow_strayClosing (closing : isClosing tag = true)
    (other : tagName tag ≠ innermost.element.name) :
    grow innermost outer (.tag tag :: rest) = grow innermost outer rest := by
  rw [grow_tag, isDeclaration_of_isClosing closing, if_neg Bool.false_ne_true, if_pos closing,
    if_neg other]

theorem grow_closing (closing : isClosing tag = true)
    (same : tagName tag = innermost.element.name) :
    grow innermost (parent :: outer) (.tag tag :: rest) =
      grow (parent.adopt innermost.node) outer rest := by
  rw [grow_tag, isDeclaration_of_isClosing closing, if_neg Bool.false_ne_true, if_pos closing,
    if_pos same]

theorem grow_closingRoot (closing : isClosing tag = true)
    (same : tagName tag = innermost.element.name) :
    grow innermost [] (.tag tag :: rest) = .ok innermost.node := by
  rw [grow_tag, isDeclaration_of_isClosing closing, if_neg Bool.false_ne_true, if_pos closing,
    if_pos same]

theorem grow_opening (declares : isDeclaration tag = false) (closing : isClosing tag = false) :
    grow innermost outer (.tag tag :: rest) =
      (Frame.ofTag tag).bind fun frame =>
        if isSelfClosing tag then grow (innermost.adopt frame.node) outer rest
        else grow frame (innermost :: outer) rest := by
  rw [grow_tag, declares, if_neg Bool.false_ne_true, closing, if_neg Bool.false_ne_true]

end Vignette.Markup
