import Vignette.Proofs.Markup.Growth

namespace Vignette.Markup

/-! What comes of the items of a document. While it is read, every open element is the last one in
the element around it, so that a new element always comes behind all others of the tree: the nodes,
each before those in it, are the elements in the order of their tags. An open element is known by
its number in this order. -/

structure Entry where
  element : Element
  text : String

namespace Node

def entry (node : Node) : Entry := ⟨node.element, node.text⟩

@[simp] theorem entry_mk (element : Element) (text : String) (children : List Node) :
    (Node.mk element text children).entry = ⟨element, text⟩ := rfl

def entries (node : Node) : List Entry := node.preorder.map entry

theorem preorderAll_append (front back : List Node) :
    preorderAll (front ++ back) = preorderAll front ++ preorderAll back := by
  induction front with
  | nil => rfl
  | cons node rest ih => rw [List.cons_append, preorderAll, ih, preorderAll, List.append_assoc]

end Node

section Listing

variable {innermost parent : Frame} {outer : List Frame}

theorem Frame.entries_childless {frame : Frame} (childless : frame.children = []) :
    frame.node.entries = [⟨frame.element, frame.text⟩] := by
  simp [Node.entries, Frame.node, Node.preorder, childless, Node.preorderAll]

theorem Frame.entries_adopt (frame : Frame) (child : Node) :
    (frame.adopt child).node.entries = frame.node.entries ++ child.entries := by
  have single : Node.preorderAll [child] = child.preorder := List.append_nil _
  simp only [Node.entries, Frame.adopt, Frame.node, Node.preorder, Node.preorderAll_append, single]
  simp

/-- What has been read: the nodes that would be in the tree if it ended here. -/
def listed (innermost : Frame) : List Frame → List Entry
  | [] => innermost.node.entries
  | parent :: more => listed parent more ++ innermost.node.entries

theorem listed_adopt (frame : Frame) (outer : List Frame) (child : Node) :
    listed (frame.adopt child) outer = listed frame outer ++ child.entries := by
  cases outer with
  | nil => exact frame.entries_adopt child
  | cons parent more => rw [listed, listed, frame.entries_adopt, List.append_assoc]

theorem entries_closeAll (innermost : Frame) (outer : List Frame) :
    (closeAll innermost outer).entries = listed innermost outer := by
  induction outer generalizing innermost with
  | nil => rfl
  | cons parent more ih => rw [closeAll, ih, listed_adopt, listed]

def innermostNumber : List Frame → Nat
  | [] => 0
  | parent :: more => (listed parent more).length

def textAt (entries : List Entry) (number : Nat) : String :=
  (entries[number]?.map Entry.text).getD ""

theorem textAt_snoc (entries : List Entry) (element : Element) (number : Nat) :
    textAt (entries ++ [⟨element, ""⟩]) number = textAt entries number := by
  rcases Nat.lt_trichotomy number entries.length with earlier | rfl | later
  · rw [textAt, textAt, List.getElem?_append_left earlier]
  · simp [textAt]
  · rw [textAt, textAt, List.getElem?_eq_none (by simp; omega), List.getElem?_eq_none (by omega)]

theorem listed_write (innermost : Frame) (outer : List Frame) (text : List Char) :
    (listed (innermost.write text) outer).map Entry.element =
        (listed innermost outer).map Entry.element ∧
      ∀ number, textAt (listed (innermost.write text) outer) number =
        textAt (listed innermost outer) number ++
          if number = innermostNumber outer then String.ofList text else "" := by
  obtain ⟨element, before, children⟩ := innermost
  -- All elements in front are finished or open around the innermost one; none of them changes.
  obtain ⟨front, frontLength, own⟩ : ∃ front, front.length = innermostNumber outer ∧
      ∀ text, listed ⟨element, text, children⟩ outer =
        front ++ ⟨element, text⟩ :: (Node.preorderAll children).map Node.entry := by
    cases outer with
    | nil => exact ⟨[], rfl, fun _ => rfl⟩
    | cons parent more => exact ⟨listed parent more, rfl, fun _ => rfl⟩
  rw [Frame.write, own, own]
  refine ⟨by simp, fun number => ?_⟩
  rw [← frontLength]
  rcases Nat.lt_trichotomy number front.length with earlier | rfl | later
  · simp [textAt, List.getElem?_append_left earlier, Nat.ne_of_lt earlier]
  · simp [textAt]
  · obtain ⟨more, rfl⟩ := Nat.exists_eq_add_of_lt later
    simp [textAt, List.getElem?_append_right, Nat.add_assoc]

end Listing

structure OpenElement where
  number : Nat
  name : String

/-- How far the reading of a document has come: how many elements there have been, and which of them
are open, the innermost first. -/
structure Progress where
  count : Nat
  opened : List OpenElement

def Item.opening? : Item → Option (List Char)
  | .tag found => if isDeclaration found || isClosing found then none else some found
  | .text _ | .verbatim _ => none

/-- What an item adds to the text of the element it stands in. -/
def Item.words : Item → Except Fault (List Char)
  | .tag _ => .ok []
  | .text found => resolveReferences found
  | .verbatim found => .ok found

def fault? {α : Type} : Except Fault α → Option Fault
  | .error reason => some reason
  | .ok _ => none

def Item.fault? (item : Item) : Option Fault :=
  (item.opening?.bind fun tag => Markup.fault? (Element.ofTag tag)).or (Markup.fault? item.words)

namespace Progress

def start : Progress := ⟨0, []⟩

def leave (progress : Progress) (name : String) : Progress :=
  match progress.opened with
  | [] => progress
  | innermost :: outer =>
    if name = innermost.name then { progress with opened := outer } else progress

def after (progress : Progress) : Item → Progress
  | .text _ | .verbatim _ => progress
  | .tag tag =>
    if isDeclaration tag then progress
    else if isClosing tag then progress.leave (tagName tag)
    else if isSelfClosing tag then { progress with count := progress.count + 1 }
    else ⟨progress.count + 1, ⟨progress.count, tagName tag⟩ :: progress.opened⟩

/-- The items that count: those up to the one that closes the last open element. -/
def counted (progress : Progress) : List Item → List Item
  | [] => []
  | item :: rest =>
    if progress.opened.isEmpty then [] else item :: (progress.after item).counted rest

def innermost? (progress : Progress) : Option Nat := progress.opened.head?.map OpenElement.number

/-- The items that stand in one element and in no element in it. -/
def within (number : Nat) (progress : Progress) : List Item → List Item
  | [] => []
  | item :: rest =>
    let others := within number (progress.after item) rest
    if progress.innermost? = some number then item :: others else others

end Progress

/-- A tree has the elements that were listed before and those that items open, in this order, and
each element has its text from before and what the items in it add. -/
structure Accounts (progress : Progress) (before : List Entry) (items : List Item) (tree : Node) :
    Prop where
  elements : ∃ opened, (items.filterMap Item.opening?).mapM Element.ofTag = .ok opened ∧
    tree.entries.map Entry.element = before.map Entry.element ++ opened
  texts : ∀ number, number < tree.entries.length → ∃ parts,
    (progress.within number items).mapM Item.words = .ok parts ∧
    textAt tree.entries number = textAt before number ++ String.ofList parts.flatten

inductive Outcome (progress : Progress) (before : List Entry) (items : List Item) :
    Except Fault Node → Prop
  | fault {reason : Fault} (found : items.findSome? Item.fault? = some reason) :
      Outcome progress before items (.error reason)
  | tree {tree : Node} (found : items.findSome? Item.fault? = none)
      (accounts : Accounts progress before items tree) : Outcome progress before items (.ok tree)

section Progress

variable {innermost parent frame : Frame} {outer : List Frame}

def openElements (innermost : Frame) : List Frame → List OpenElement
  | [] => [⟨0, innermost.element.name⟩]
  | parent :: more =>
    ⟨(listed parent more).length, innermost.element.name⟩ :: openElements parent more

def progressOf (innermost : Frame) (outer : List Frame) : Progress :=
  ⟨(listed innermost outer).length, openElements innermost outer⟩

theorem openElements_congr (same : innermost.element.name = frame.element.name) :
    openElements innermost outer = openElements frame outer := by
  cases outer <;> simp [openElements, same]

theorem innermost?_progressOf :
    (progressOf innermost outer).innermost? = some (innermostNumber outer) := by
  cases outer <;> rfl

theorem progressOf_write (text : List Char) :
    progressOf (innermost.write text) outer = progressOf innermost outer := by
  have elements := congrArg List.length (listed_write innermost outer text).1
  rw [List.length_map, List.length_map] at elements
  rw [progressOf, progressOf, elements]
  congr 1
  exact openElements_congr rfl

theorem progressOf_adopt (child : Frame) (childless : child.children = []) :
    progressOf (innermost.adopt child.node) outer =
      { progressOf innermost outer with count := (progressOf innermost outer).count + 1 } := by
  rw [progressOf, listed_adopt, List.length_append, Frame.entries_childless childless]
  congr 1
  exact openElements_congr rfl

theorem progressOf_open (childless : frame.children = []) :
    progressOf frame (innermost :: outer) =
      ⟨(progressOf innermost outer).count + 1,
        ⟨(progressOf innermost outer).count, frame.element.name⟩ ::
          (progressOf innermost outer).opened⟩ := by
  rw [progressOf, listed, List.length_append, Frame.entries_childless childless]
  rfl

theorem progressOf_closed :
    progressOf (parent.adopt innermost.node) outer =
      { progressOf innermost (parent :: outer) with opened := openElements parent outer } := by
  rw [progressOf, listed_adopt]
  congr 1
  exact openElements_congr rfl

theorem counted_progressOf (item : Item) (rest : List Item) :
    (progressOf innermost outer).counted (item :: rest) =
      item :: ((progressOf innermost outer).after item).counted rest := by
  cases outer <;> rfl

end Progress

namespace Outcome

variable {progress : Progress} {before later : List Entry} {item : Item} {items : List Item}
  {result : Except Fault Node}

theorem done {tree : Node} (whole : tree.entries = before) :
    Outcome progress before [] (.ok tree) := by
  refine .tree rfl ⟨⟨[], rfl, by simp [whole]⟩, fun number _ => ⟨[], rfl, ?_⟩⟩
  rw [whole]
  simp

theorem stop {reason : Fault} (found : item.fault? = some reason) :
    Outcome progress before (item :: items) (.error reason) :=
  .fault (by rw [List.findSome?_cons, found])

theorem cons {words : List Char} {new : List Element} (read : item.words = .ok words)
    (opens : item.opening?.toList.mapM Element.ofTag = .ok new)
    (elements : later.map Entry.element = before.map Entry.element ++ new)
    (texts : ∀ number, textAt later number = textAt before number ++
      if progress.innermost? = some number then String.ofList words else "")
    (rest : Outcome (progress.after item) later items result) :
    Outcome progress before (item :: items) result := by
  have sound : item.fault? = none := by
    rw [Item.fault?, read]
    cases opening : item.opening? with
    | none => rfl
    | some tag =>
        rw [opening] at opens
        cases opened : Element.ofTag tag with
        | error reason =>
            simp only [Option.toList_some, List.mapM_cons, opened] at opens
            cases opens
        | ok element => simp [fault?, opened]
  cases rest with
  | fault found => exact .fault (by rw [List.findSome?_cons, sound, found])
  | tree found accounts =>
      obtain ⟨⟨opened, ofTags, whole⟩, eachText⟩ := accounts
      have openings : (item :: items).filterMap Item.opening? =
          item.opening?.toList ++ items.filterMap Item.opening? := by
        cases opening : item.opening? <;> simp [opening]
      refine .tree (by rw [List.findSome?_cons, sound, found]) ⟨⟨new ++ opened, ?_, ?_⟩, ?_⟩
      · rw [openings, List.mapM_append, opens, ofTags]
        rfl
      · rw [whole, elements, List.append_assoc]
      · intro number inside
        obtain ⟨parts, each, text⟩ := eachText number inside
        rw [text, texts]
        by_cases here : progress.innermost? = some number
        · refine ⟨words :: parts, ?_, ?_⟩
          · rw [Progress.within, if_pos here, List.mapM_cons, read, each]
            rfl
          · rw [if_pos here, List.flatten_cons, String.ofList_append, String.append_assoc]
        · refine ⟨parts, ?_, ?_⟩
          · rw [Progress.within, if_neg here, each]
          · rw [if_neg here, String.append_empty]

theorem pass (read : item.words = .ok []) (opens : item.opening? = none)
    (rest : Outcome (progress.after item) before items result) :
    Outcome progress before (item :: items) result := by
  refine .cons read (by rw [opens]; rfl) (List.append_nil _).symm (fun number => ?_) rest
  split <;> simp

end Outcome

theorem frame_ofTag {tag : List Char} {frame : Frame} (made : Frame.ofTag tag = .ok frame) :
    Element.ofTag tag = .ok frame.element ∧ frame.element.name = tagName tag ∧
      frame.text = "" ∧ frame.children = [] := by
  rw [Frame.ofTag, Element.ofTag] at made
  cases read : attributesOf tag with
  | error reason => rw [read] at made; cases made
  | ok attributes =>
      rw [read] at made
      obtain rfl := Except.ok.inj made
      exact ⟨by rw [Element.ofTag, read]; rfl, rfl, rfl, rfl⟩

theorem frame_ofTag_error {tag : List Char} {reason : Fault}
    (fails : Frame.ofTag tag = .error reason) : fault? (Element.ofTag tag) = some reason := by
  rw [Frame.ofTag] at fails
  cases read : Element.ofTag tag with
  | error other =>
      rw [read] at fails
      exact congrArg some (Except.error.inj fails)
  | ok element => rw [read] at fails; cases fails

section Run

variable {innermost parent frame : Frame} {outer : List Frame} {tag : List Char}

theorem after_tag (progress : Progress) (tag : List Char) :
    progress.after (.tag tag) =
      if isDeclaration tag then progress
      else if isClosing tag then progress.leave (tagName tag)
      else if isSelfClosing tag then { progress with count := progress.count + 1 }
      else ⟨progress.count + 1, ⟨progress.count, tagName tag⟩ :: progress.opened⟩ := rfl

theorem opening?_tag (tag : List Char) :
    Item.opening? (.tag tag) = if isDeclaration tag || isClosing tag then none else some tag := rfl

theorem leave_progressOf (innermost : Frame) (outer : List Frame) (name : String) :
    (progressOf innermost outer).leave name =
      if name = innermost.element.name then
        { progressOf innermost outer with opened := (openElements innermost outer).tail }
      else progressOf innermost outer := by
  cases outer <;> rfl

theorem after_closing (closing : isClosing tag = true) :
    (progressOf innermost outer).after (.tag tag) =
      (progressOf innermost outer).leave (tagName tag) := by
  rw [after_tag, isDeclaration_of_isClosing closing, if_neg Bool.false_ne_true, if_pos closing]

theorem after_opening (declares : isDeclaration tag = false) (closing : isClosing tag = false)
    (made : Frame.ofTag tag = .ok frame) :
    (progressOf innermost outer).after (.tag tag) =
      if isSelfClosing tag then progressOf (innermost.adopt frame.node) outer
      else progressOf frame (innermost :: outer) := by
  obtain ⟨_, name, _, childless⟩ := frame_ofTag made
  rw [after_tag, declares, if_neg Bool.false_ne_true, closing, if_neg Bool.false_ne_true,
    progressOf_adopt frame childless, progressOf_open childless, name]

theorem Outcome.write {item : Item} {items : List Item} {text : List Char}
    {result : Except Fault Node} (read : item.words = .ok text) (opens : item.opening? = none)
    (stays : (progressOf innermost outer).after item = progressOf innermost outer)
    (rest : Outcome (progressOf innermost outer) (listed (innermost.write text) outer)
      items result) :
    Outcome (progressOf innermost outer) (listed innermost outer) (item :: items) result := by
  obtain ⟨elements, texts⟩ := listed_write innermost outer text
  have opened : item.opening?.toList.mapM Element.ofTag = .ok [] := by rw [opens]; rfl
  rw [← stays] at rest
  refine .cons read opened (by rw [elements, List.append_nil]) (fun number => ?_) rest
  rw [texts, innermost?_progressOf]
  simp [eq_comm]

theorem Outcome.opened {progress : Progress} {before : List Entry} {items : List Item}
    {result : Except Fault Node} (made : Frame.ofTag tag = .ok frame)
    (opens : Item.opening? (.tag tag) = some tag)
    (rest : Outcome (progress.after (.tag tag)) (before ++ frame.node.entries) items result) :
    Outcome progress before (.tag tag :: items) result := by
  obtain ⟨ofTag, _, textless, childless⟩ := frame_ofTag made
  have opened : (Item.opening? (.tag tag)).toList.mapM Element.ofTag = .ok [frame.element] := by
    rw [opens, Option.toList_some, List.mapM_cons, ofTag]
    rfl
  rw [Frame.entries_childless childless, textless] at rest
  refine .cons rfl opened (by simp) (fun number => ?_) rest
  rw [textAt_snoc]
  split <;> simp

theorem grow_outcome (items : List Item) (innermost : Frame) (outer : List Frame) :
    Outcome (progressOf innermost outer) (listed innermost outer)
      ((progressOf innermost outer).counted items) (grow innermost outer items) := by
  induction items generalizing innermost outer with
  | nil => exact .done (entries_closeAll innermost outer)
  | cons item rest ih =>
      have written (text : List Char) := ih (innermost.write text) outer
      simp only [progressOf_write] at written
      have stays := ih innermost outer
      rw [counted_progressOf]
      cases item with
      | verbatim text => exact .write rfl rfl rfl (written text)
      | text text =>
          rw [grow]
          cases read : resolveReferences text with
          | error reason =>
              exact .stop (by simp [Item.fault?, Item.opening?, Item.words, read, fault?])
          | ok resolved => exact .write read rfl rfl (written resolved)
      | tag tag =>
          cases declares : isDeclaration tag with
          | true =>
              rw [grow_declaration declares]
              refine .pass rfl (by simp [opening?_tag, declares]) ?_
              rw [after_tag, if_pos declares]
              exact stays
          | false =>
              cases closing : isClosing tag with
              | false =>
                  have opens : Item.opening? (.tag tag) = some tag := by
                    simp [opening?_tag, declares, closing]
                  rw [grow_opening declares closing]
                  cases made : Frame.ofTag tag with
                  | error reason =>
                      exact .stop (by simp [Item.fault?, opens, frame_ofTag_error made])
                  | ok frame =>
                      refine .opened made opens ?_
                      rw [after_opening declares closing made]
                      change Outcome _ _ _ (if isSelfClosing tag then _ else _)
                      split
                      · rw [← listed_adopt]
                        exact ih (innermost.adopt frame.node) outer
                      · exact ih frame (innermost :: outer)
              | true =>
                  have passes : Item.opening? (.tag tag) = none := by
                    simp [opening?_tag, declares, closing]
                  refine .pass rfl passes ?_
                  rw [after_closing closing, leave_progressOf]
                  by_cases same : tagName tag = innermost.element.name
                  · rw [if_pos same]
                    cases outer with
                    | nil =>
                        -- The root is closed, and of what follows nothing counts.
                        rw [grow_closingRoot closing same]
                        cases rest with
                        | nil => exact .done rfl
                        | cons item rest => exact .done rfl
                    | cons parent more =>
                        rw [grow_closing closing same, listed, ← listed_adopt]
                        have closed := ih (parent.adopt innermost.node) more
                        rw [progressOf_closed] at closed
                        exact closed
                  · rw [if_neg same, grow_strayClosing closing same]
                    exact stays

end Run

end Vignette.Markup
