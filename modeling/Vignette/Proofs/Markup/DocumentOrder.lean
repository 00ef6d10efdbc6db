import Vignette.Proofs.Markup.Reading
import Vignette.Proofs.Markup.Resolution
import Vignette.Proofs.Markup.Tags

namespace Vignette.Markup

/-! The tree of a document holds the elements from its root on in the order of their tags, however
the tags fit together. There is no tree without a root, nor where a reference cannot be resolved. -/

section Readable

/-- The texts of an item in which references are resolved: a text as a whole, and the values of
the attributes of a tag that opens an element. -/
def Item.referring : Item → List (List Char)
  | .text found => [found]
  | .verbatim _ => []
  | .tag found => ((Item.opening? (.tag found)).toList.flatMap writtenAttributes).map Prod.snd

def Item.Readable (item : Item) : Prop := ∀ text ∈ item.referring, ¬ HasOverlong text

theorem fault?_eq_none {α : Type} {result : Except Fault α} :
    fault? result = none ↔ ∃ found, result = .ok found := by
  cases result <;> simp [fault?]

theorem succeeds_mapM {α β : Type} (f : α → Except Fault β) (items : List α) :
    (∃ found, items.mapM f = .ok found) ↔ ∀ item ∈ items, ∃ found, f item = .ok found := by
  induction items with
  | nil => simp [pure, Except.pure]
  | cons item rest ih =>
      rw [List.mapM_cons, List.forall_mem_cons, ← ih]
      cases f item with
      | error reason => simp [bind, Except.bind]
      | ok found =>
          change (∃ all, (List.mapM f rest).map (found :: ·) = .ok all) ↔ _
          rw [succeeds_map]
          simp

theorem ofTag_succeeds (tag : List Char) :
    (∃ element, Element.ofTag tag = .ok element) ↔
      ∀ text ∈ (writtenAttributes tag).map Prod.snd, ¬ HasOverlong text := by
  rw [Element.ofTag, succeeds_map, attributesOf, succeeds_map, succeeds_mapM, List.forall_mem_map]
  simp only [resolvedAttribute, succeeds_map, resolves_iff]

theorem Item.fault?_eq_none_iff (item : Item) : item.fault? = none ↔ item.Readable := by
  rw [Item.fault?, Option.or_eq_none_iff, fault?_eq_none]
  cases item with
  | verbatim text => simp [Item.opening?, Item.words, Item.Readable, Item.referring]
  | text text => simp [Item.opening?, Item.words, Item.Readable, Item.referring, resolves_iff]
  | tag tag =>
      rw [Item.Readable, Item.referring]
      cases Item.opening? (.tag tag) with
      | none => simp [Item.words]
      | some opening =>
          rw [Option.bind_some, fault?_eq_none, ofTag_succeeds]
          simp [Item.words]

end Readable

section Root

variable {front rest : List Item} {root : List Char}

theorem treeOfItems_rootless {items : List Item}
    (rootless : ∀ tag, .tag tag ∈ items → opensRoot tag = false) :
    treeOfItems items = .error .missingRoot := by
  induction items with
  | nil => rfl
  | cons item rest ih =>
      have later := ih fun tag member => rootless tag (List.mem_cons_of_mem _ member)
      cases item with
      | tag tag =>
          rw [treeOfItems, rootless tag List.mem_cons_self, if_neg Bool.false_ne_true, later]
      | text _ | verbatim _ => rw [treeOfItems, later]

theorem treeOfItems_root (rootless : ∀ tag, .tag tag ∈ front → opensRoot tag = false)
    (opens : opensRoot root = true) :
    treeOfItems (front ++ .tag root :: rest) = (treeOfRoot root rest).mapError .fault := by
  induction front with
  | nil => rw [List.nil_append, treeOfItems, if_pos opens]
  | cons item more ih =>
      have later := ih fun tag member => rootless tag (List.mem_cons_of_mem _ member)
      rw [List.cons_append]
      cases item with
      | tag tag =>
          rw [treeOfItems, rootless tag List.mem_cons_self, if_neg Bool.false_ne_true, later]
      | text _ | verbatim _ => rw [treeOfItems, later]

/-- The items from the root to the tag that closes it. -/
def fromRoot (root : List Char) (rest : List Item) : List Item :=
  .tag root :: (Progress.start.after (.tag root)).counted rest

theorem treeOfRoot_outcome (opens : opensRoot root = true) (rest : List Item) :
    Outcome .start [] (fromRoot root rest) (treeOfRoot root rest) := by
  rw [opensRoot, Bool.and_eq_true, Bool.and_eq_true, Bool.not_eq_true', Bool.not_eq_true'] at opens
  obtain ⟨⟨declares, closing⟩, _⟩ := opens
  have opening : Item.opening? (.tag root) = some root := by simp [opening?_tag, declares, closing]
  rw [treeOfRoot, fromRoot]
  cases made : Frame.ofTag root with
  | error reason => exact .stop (by simp [Item.fault?, opening, frame_ofTag_error made])
  | ok frame =>
      obtain ⟨_, name, _, childless⟩ := frame_ofTag made
      apply Outcome.opened made opening
      rw [List.nil_append, after_tag, declares, if_neg Bool.false_ne_true, closing,
        if_neg Bool.false_ne_true]
      change Outcome _ _ _ (if isSelfClosing root then _ else _)
      split
      · cases rest <;> exact .done rfl
      · have started : progressOf frame [] = ⟨1, [⟨0, tagName root⟩]⟩ := by
          rw [progressOf, listed, Frame.entries_childless childless, openElements, name]
          rfl
        change Outcome ⟨1, [⟨0, tagName root⟩]⟩ _ (Progress.counted ⟨1, [⟨0, tagName root⟩]⟩ rest) _
        rw [← started]
        exact grow_outcome rest frame []

end Root

/-- A tree lists, each before those in it, the elements that items open, in the order of the items;
and the text of each is that of the items that stand in it and in no element in it. -/
structure InOrder (items : List Item) (tree : Node) : Prop where
  elements : (items.filterMap Item.opening?).mapM Element.ofTag =
    .ok (tree.preorder.map Node.element)
  texts : ∀ number node, tree.preorder[number]? = some node → ∃ parts,
    (Progress.start.within number items).mapM Item.words = .ok parts ∧
    node.text = String.ofList parts.flatten

theorem InOrder.of_accounts {items : List Item} {tree : Node}
    (accounts : Accounts .start [] items tree) : InOrder items tree := by
  obtain ⟨⟨opened, ofTags, whole⟩, texts⟩ := accounts
  constructor
  · rw [List.map_nil, List.nil_append, Node.entries, List.map_map] at whole
    rw [ofTags, ← whole]
    rfl
  · intro number node found
    have inside : number < tree.entries.length := by
      rw [Node.entries, List.length_map]
      exact (List.getElem?_eq_some_iff.mp found).1
    obtain ⟨parts, each, text⟩ := texts number inside
    refine ⟨parts, each, ?_⟩
    rw [Node.entries, textAt, List.getElem?_map, found] at text
    simpa [textAt, Node.entry] using text

theorem exists_root {items : List Item} (opens : ∃ tag, .tag tag ∈ items ∧ opensRoot tag = true) :
    ∃ front root rest, items = front ++ .tag root :: rest ∧
      (∀ tag, .tag tag ∈ front → opensRoot tag = false) ∧ opensRoot root = true := by
  induction items with
  | nil => simp at opens
  | cons item more ih =>
      by_cases here : ∃ tag, item = .tag tag ∧ opensRoot tag = true
      · obtain ⟨root, rfl, rooted⟩ := here
        exact ⟨[], root, more, rfl, by simp, rooted⟩
      · obtain ⟨tag, member, rooted⟩ := opens
        have behind : .tag tag ∈ more := by
          rcases List.mem_cons.mp member with same | behind
          · exact absurd ⟨tag, same.symm, rooted⟩ here
          · exact behind
        obtain ⟨front, root, rest, rfl, rootless, first⟩ := ih ⟨tag, behind, rooted⟩
        refine ⟨item :: front, root, rest, rfl, fun other among => ?_, first⟩
        rcases List.mem_cons.mp among with same | among
        · exact Bool.eq_false_iff.mpr fun rooted => here ⟨other, same.symm, rooted⟩
        · exact rootless other among

/-- There is no tree just if no tag opens a root or, from the first one that does to the tag that
closes it, some reference cannot be resolved. Otherwise no element is lost, doubled or moved. -/
theorem parse_in_order (document : String) :
    (parse document = .error .missingRoot ↔
      ∀ tag, .tag tag ∈ items document.toList → opensRoot tag = false) ∧
    ∀ front root rest, items document.toList = front ++ .tag root :: rest →
      (∀ tag, .tag tag ∈ front → opensRoot tag = false) → opensRoot root = true →
      ((∃ tree, parse document = .ok tree) ↔ ∀ item ∈ fromRoot root rest, item.Readable) ∧
      ∀ tree, parse document = .ok tree → InOrder (fromRoot root rest) tree := by
  have rooted : ∀ front root rest, items document.toList = front ++ .tag root :: rest →
      (∀ tag, .tag tag ∈ front → opensRoot tag = false) → opensRoot root = true →
      parse document = (treeOfRoot root rest).mapError .fault := by
    intro front root rest cut rootless opens
    rw [parse, cut, treeOfItems_root rootless opens]
  constructor
  · constructor
    · intro missing tag member
      apply Bool.eq_false_iff.mpr
      intro opens
      obtain ⟨front, root, rest, cut, rootless, first⟩ := exists_root ⟨tag, member, opens⟩
      rw [rooted front root rest cut rootless first] at missing
      cases found : treeOfRoot root rest with
      | error reason => rw [found] at missing; nomatch missing
      | ok tree => rw [found] at missing; nomatch missing
    · exact treeOfItems_rootless
  · intro front root rest cut rootless opens
    have outcome := treeOfRoot_outcome opens rest
    rw [rooted front root rest cut rootless opens]
    generalize treeOfRoot root rest = result at outcome
    simp only [← Item.fault?_eq_none_iff, ← List.findSome?_eq_none_iff]
    cases outcome with
    | @fault reason found =>
        change ((∃ tree, Except.error (Unreadable.fault reason) = .ok tree) ↔ _) ∧
          ∀ tree, Except.error (Unreadable.fault reason) = .ok tree → _
        simp [found]
    | @tree tree found accounts =>
        refine ⟨⟨fun _ => found, fun _ => ⟨tree, rfl⟩⟩, fun other same => ?_⟩
        obtain rfl := Except.ok.inj same
        exact .of_accounts accounts

/-- A picture that is closed once in a group, where that counts for nothing, and once outside. -/
def untidyMarkup : String :=
  "<!DOCTYPE svg><p>a<svg id='s'>b<g>c</svg><rect/></g></p>d<!-- e --></svg>f<g/>"

theorem parse_in_order_untidy : ∃ tree, parse untidyMarkup = .ok tree ∧
    InOrder [.tag "<svg id='s'>".toList, .text "b".toList, .tag "<g>".toList, .text "c".toList,
      .tag "</svg>".toList, .tag "<rect/>".toList, .tag "</g>".toList, .tag "</p>".toList,
      .text "d".toList, .tag "</svg>".toList] tree := by
  have cut : items untidyMarkup.toList =
      [.tag "<!DOCTYPE svg>".toList, .tag "<p>".toList, .text "a".toList] ++
        .tag "<svg id='s'>".toList ::
          [.text "b".toList, .tag "<g>".toList, .text "c".toList, .tag "</svg>".toList,
            .tag "<rect/>".toList, .tag "</g>".toList, .tag "</p>".toList, .text "d".toList,
            .tag "</svg>".toList, .text "f".toList, .tag "<g/>".toList] := by decide +kernel
  obtain ⟨succeeds, inOrder⟩ :=
    (parse_in_order untidyMarkup).2 _ _ _ cut (by simp; decide) (by decide)
  obtain ⟨tree, parsed⟩ := succeeds.mpr fun item member =>
    (Item.fault?_eq_none_iff item).mp (by revert item; decide +kernel)
  exact ⟨tree, parsed, inOrder tree parsed⟩

def numberedMarkup (digits : List Char) : List Char :=
  "<svg>".toList ++ (("&#".toList ++ digits ++ ";".toList) ++ "</svg>".toList)

theorem items_numberedMarkup {digits : List Char} (decimal : ∀ c ∈ digits, c.isDigit = true) :
    items (numberedMarkup digits) =
      [.tag "<svg>".toList, .text ("&#".toList ++ digits ++ ";".toList), .tag "</svg>".toList] := by
  have unopened : '<' ∉ "&#".toList ++ digits ++ ";".toList := by
    simp only [List.mem_append, not_or]
    refine ⟨⟨by decide, fun member => ?_⟩, by decide⟩
    have digit := decimal '<' member
    contradiction
  have closed : items "</svg>".toList = [.tag "</svg>".toList] := by decide +kernel
  have opened := @items_bracketed "svg".toList false
    ⟨by decide, by decide, by simp, by simp⟩
      ("&#".toList ++ digits ++ ";".toList ++ "</svg>".toList)
  have within := items_text (by simp) unopened "/svg>".toList
  exact opened.trans (congrArg _ (within.trans (congrArg _ closed)))

theorem parse_numberedMarkup {digits : List Char} (decimal : ∀ c ∈ digits, c.isDigit = true)
    (many : digitLimit < digits.length) :
    ∃ reason, parse (String.ofList (numberedMarkup digits)) = .error (.fault reason) := by
  have opens : opensRoot "<svg>".toList = true := by decide
  have overlong : HasOverlong ("&#".toList ++ digits ++ ";".toList) :=
    ⟨[], _, rfl, digits, [';'], rfl, decimal, many⟩
  have outcome := @treeOfRoot_outcome "<svg>".toList opens
    [.text ("&#".toList ++ digits ++ ";".toList), .tag "</svg>".toList]
  rw [parse, String.toList_ofList, items_numberedMarkup decimal, treeOfItems]
  rw [if_pos opens]
  generalize treeOfRoot _ _ = result at outcome
  cases outcome with
  | @fault reason found => exact ⟨reason, rfl⟩
  | tree found accounts =>
      rw [List.findSome?_eq_none_iff] at found
      have counts : .text ("&#".toList ++ digits ++ ";".toList) ∈ fromRoot "<svg>".toList
          [.text ("&#".toList ++ digits ++ ";".toList), .tag "</svg>".toList] :=
        List.mem_cons_of_mem _ List.mem_cons_self
      exact absurd overlong ((Item.fault?_eq_none_iff _).mp (found _ counts) _ List.mem_cons_self)

def paddedDigits (zeros : Nat) : List Char := List.replicate zeros '0' ++ ['6', '5']

theorem length_paddedDigits (zeros : Nat) : (paddedDigits zeros).length = zeros + 2 := by
  simp [paddedDigits]

theorem isDigit_paddedDigits (zeros : Nat) : ∀ c ∈ paddedDigits zeros, c.isDigit = true := by
  simp [paddedDigits, List.mem_replicate, or_imp, forall_and]

theorem parse_overlong :
    (∃ tag, .tag tag ∈ items (String.ofList (numberedMarkup (paddedDigits 4299))).toList ∧
      opensRoot tag = true) ∧
    ∃ reason, parse (String.ofList (numberedMarkup (paddedDigits 4299))) =
      .error (.fault reason) := by
  have decimal := isDigit_paddedDigits 4299
  have many : digitLimit < (paddedDigits 4299).length := by
    rw [length_paddedDigits]
    decide
  refine ⟨?_, parse_numberedMarkup decimal many⟩
  rw [String.toList_ofList, items_numberedMarkup decimal]
  exact ⟨_, List.mem_cons_self, by decide⟩

end Vignette.Markup
