import Vignette.Proofs.Text.Cutting
import Vignette.Style.Sheet

namespace Vignette.Style

/-! Writing sheets. Blanks may stand around every part of a rule; the parts are told apart by the
marks between them, which they do not hold. Reading gives back the rules, in their order. -/

/-- A rule as it is meant: selectors, with the declarations for each of them. -/
structure Rule where
  selectors : List String
  declarations : List (String × String)
deriving DecidableEq

def AllBlank (text : List Char) : Prop := ∀ c ∈ text, Text.isBlank c = true

def IsPart (part : List Char) : Prop := part ≠ [] ∧ Text.trim part = part

inductive Padded (part : List Char) : List Char → Prop
  | mk {before after : List Char} (blankBefore : AllBlank before) (blankAfter : AllBlank after) :
    Padded part (before ++ part ++ after)

/-- The texts of some items, with a mark between each and the next. -/
inductive Joined {α : Type} (Written : α → List Char → Prop) (mark : Char) :
    List α → List Char → Prop
  | last {item : α} {text : List Char} (written : Written item text) :
    Joined Written mark [item] text
  | cons {item : α} {rest : List α} {text more : List Char} (written : Written item text)
    (later : Joined Written mark rest more) :
    Joined Written mark (item :: rest) (text ++ mark :: more)

inductive DeclarationWritten (entry : String × String) : List Char → Prop
  | mk {name value : List Char} (left : Padded entry.1.toList name)
    (right : Padded entry.2.toList value) : DeclarationWritten entry (name ++ ':' :: value)

inductive BodyWritten : List (String × String) → List Char → Prop
  | empty {text : List Char} (blank : AllBlank text) : BodyWritten [] text
  | full {entries : List (String × String)} {text : List Char}
    (joined : Joined DeclarationWritten ';' entries text) : BodyWritten entries text

inductive RulesWritten : List Rule → List Char → Prop
  | nil {text : List Char} (blank : AllBlank text) : RulesWritten [] text
  | cons {rule : Rule} {rest : List Rule} {selectors body more : List Char}
    (front : Joined (fun selector => Padded selector.toList) ',' rule.selectors selectors)
    (inside : BodyWritten rule.declarations body) (later : RulesWritten rest more) :
    RulesWritten (rule :: rest) (selectors ++ '\x7b' :: (body ++ '\x7d' :: more))

def Avoids (text marks : List Char) : Prop := ∀ mark ∈ marks, mark ∉ text

structure SelectorWritable (selector : String) : Prop where
  part : IsPart selector.toList
  made : ∀ c ∈ selector.toList, isSelectorChar c = true ∧ c ≠ ','

structure DeclarationWritable (entry : String × String) : Prop where
  name : IsPart entry.1.toList
  lower : Text.lowerChars entry.1.toList = entry.1.toList
  nameFree : Avoids entry.1.toList [':', ';', '\x7b', '\x7d']
  value : IsPart entry.2.toList
  valueFree : Avoids entry.2.toList [';', '\x7b', '\x7d']

structure Rule.Writable (rule : Rule) : Prop where
  selectors : ∀ selector ∈ rule.selectors, SelectorWritable selector
  declarations : ∀ entry ∈ rule.declarations, DeclarationWritable entry

instance (part : List Char) : Decidable (IsPart part) := inferInstanceAs (Decidable (_ ∧ _))

instance (text marks : List Char) : Decidable (Avoids text marks) :=
  decidable_of_iff (marks.all (fun mark => !text.contains mark) = true) (by simp [Avoids])

instance (selector : String) : Decidable (SelectorWritable selector) :=
  decidable_of_iff (IsPart selector.toList ∧
      selector.toList.all (fun c => isSelectorChar c && c != ',') = true)
    ⟨fun ⟨part, made⟩ => ⟨part, by simpa using made⟩,
      fun ⟨part, made⟩ => ⟨part, by simpa using made⟩⟩

instance (entry : String × String) : Decidable (DeclarationWritable entry) :=
  decidable_of_iff (IsPart entry.1.toList ∧ Text.lowerChars entry.1.toList = entry.1.toList ∧
      Avoids entry.1.toList [':', ';', '\x7b', '\x7d'] ∧ IsPart entry.2.toList ∧
      Avoids entry.2.toList [';', '\x7b', '\x7d'])
    ⟨fun ⟨name, lower, nameFree, value, valueFree⟩ => ⟨name, lower, nameFree, value, valueFree⟩,
      fun ⟨name, lower, nameFree, value, valueFree⟩ => ⟨name, lower, nameFree, value, valueFree⟩⟩

instance (rule : Rule) : Decidable rule.Writable :=
  decidable_of_iff ((∀ selector ∈ rule.selectors, SelectorWritable selector) ∧
      ∀ entry ∈ rule.declarations, DeclarationWritable entry)
    ⟨fun ⟨selectors, declarations⟩ => ⟨selectors, declarations⟩,
      fun ⟨selectors, declarations⟩ => ⟨selectors, declarations⟩⟩

section Parts

variable {part text : List Char} {c : Char}

theorem AllBlank.not_mem (blank : AllBlank text) (solid : Text.isBlank c = false) : c ∉ text :=
  fun member => by
    rw [blank c member] at solid
    contradiction

theorem Padded.trim_eq (padded : Padded part text) (isPart : IsPart part) :
    Text.trim text = part := by
  obtain ⟨blankBefore, blankAfter⟩ := padded
  exact Text.trim_padded isPart.1 isPart.2 blankBefore blankAfter

theorem Padded.mem (padded : Padded part text) (member : c ∈ text) :
    Text.isBlank c = true ∨ c ∈ part := by
  obtain ⟨blankBefore, blankAfter⟩ := padded
  rw [List.mem_append, List.mem_append] at member
  rcases member with (before | within) | after
  · exact .inl (blankBefore c before)
  · exact .inr within
  · exact .inl (blankAfter c after)

variable {α : Type} {Written : α → List Char → Prop} {mark : Char} {items : List α}

theorem Joined.mem (joined : Joined Written mark items text) (member : c ∈ text) :
    c = mark ∨ ∃ item ∈ items, ∃ part, Written item part ∧ c ∈ part := by
  induction joined with
  | last written => exact .inr ⟨_, List.mem_cons_self, _, written, member⟩
  | cons written later ih =>
      rw [List.mem_append, List.mem_cons] at member
      rcases member with here | marked | behind
      · exact .inr ⟨_, List.mem_cons_self, _, written, here⟩
      · exact .inl marked
      · rcases ih behind with marked | ⟨item, among, part, partWritten, within⟩
        · exact .inl marked
        · exact .inr ⟨item, List.mem_cons_of_mem _ among, part, partWritten, within⟩

/-- If the mark stands in no part, the joined text splits into the texts of the items. -/
theorem Joined.filterMap_split {read : List Char → Option α}
    (joined : Joined Written mark items text)
    (unmarked : ∀ item ∈ items, ∀ part, Written item part → mark ∉ part)
    (reads : ∀ item ∈ items, ∀ part, Written item part → read part = some item) :
    (Text.splitAtEach (· == mark) text).filterMap read = items := by
  have whole {part : List Char} (free : mark ∉ part) : ∀ c ∈ part, (c == mark) = false :=
    fun c member => by simpa using fun same : c = mark => free (same ▸ member)
  induction joined with
  | last written =>
      have free := unmarked _ List.mem_cons_self _ written
      rw [Text.splitAtEach_of_unseparated (whole free),
        List.filterMap_cons_some (reads _ List.mem_cons_self _ written), List.filterMap_nil]
  | cons written later ih =>
      have free := unmarked _ List.mem_cons_self _ written
      have rest := ih (fun item member => unmarked item (List.mem_cons_of_mem _ member))
        fun item member => reads item (List.mem_cons_of_mem _ member)
      rw [Text.splitAtEach_append _ (whole free) (beq_self_eq_true mark),
        List.filterMap_cons_some (reads _ List.mem_cons_self _ written), rest]

end Parts

section Declarations

variable {entry : String × String} {entries : List (String × String)} {text : List Char} {c : Char}

theorem DeclarationWritten.mem (written : DeclarationWritten entry text) (member : c ∈ text) :
    Text.isBlank c = true ∨ c = ':' ∨ c ∈ entry.1.toList ∨ c ∈ entry.2.toList := by
  obtain ⟨left, right⟩ := written
  rw [List.mem_append, List.mem_cons] at member
  rcases member with before | marked | behind
  · rcases left.mem before with blank | within
    · exact .inl blank
    · exact .inr (.inr (.inl within))
  · exact .inr (.inl marked)
  · rcases right.mem behind with blank | within
    · exact .inl blank
    · exact .inr (.inr (.inr within))

theorem DeclarationWritable.not_mem {mark : Char} (writable : DeclarationWritable entry)
    (written : DeclarationWritten entry text) (marks : mark ∈ [';', '\x7b', '\x7d']) :
    mark ∉ text := by
  intro member
  have solid : Text.isBlank mark = false ∧ mark ≠ ':' := by
    simp only [List.mem_cons, List.not_mem_nil, or_false] at marks
    rcases marks with rfl | rfl | rfl
    all_goals decide
  rcases written.mem member with blank | colon | inName | inValue
  · rw [solid.1] at blank
    contradiction
  · exact solid.2 colon
  · exact writable.nameFree mark (List.mem_cons_of_mem _ marks) inName
  · exact writable.valueFree mark marks inValue

theorem declaration?_written (writable : DeclarationWritable entry)
    (written : DeclarationWritten entry text) : declaration? text = some entry := by
  obtain ⟨left, right⟩ := written
  have unmarked : ':' ∉ _ := fun member => by
    rcases left.mem member with blank | within
    · contradiction
    · exact writable.nameFree ':' List.mem_cons_self within
  rw [declaration?, Text.cutAtFirst_append _ unmarked, Option.bind_some]
  dsimp only
  rw [left.trim_eq writable.name, right.trim_eq writable.value, writable.lower,
    List.isEmpty_eq_false_iff.mpr writable.name.1, List.isEmpty_eq_false_iff.mpr writable.value.1,
    String.ofList_toList, String.ofList_toList]
  rfl

theorem declarationList_written (written : BodyWritten entries text)
    (writable : ∀ entry ∈ entries, DeclarationWritable entry) : declarationList text = entries := by
  cases written with
  | empty blank =>
      have unmarked : ';' ∉ text := blank.not_mem (by decide)
      have single : Text.splitAtEach (· == ';') text = [text] :=
        Text.splitAtEach_of_unseparated fun c member => by
          simpa using fun same : c = ';' => unmarked (same ▸ member)
      have uncut : Text.cutAtFirst ':' text = none :=
        Text.cutAtFirst_eq_none (blank.not_mem (by decide))
      rw [declarationList, single, List.filterMap_cons, declaration?, uncut]
      rfl
  | full joined =>
      exact joined.filterMap_split
        (fun entry member part written => (writable entry member).not_mem written (by simp))
        fun entry member part written => declaration?_written (writable entry member) written

end Declarations

section Rules

variable {selectors : List String} {text : List Char} {body : List Char}

theorem trailingSelectors_eq (made : ∀ c ∈ text, isSelectorChar c = true) :
    trailingSelectors text = text := by
  have whole : text.reverse.takeWhile isSelectorChar = text.reverse := by
    rw [← List.append_nil text.reverse, List.takeWhile_append_of_pos (by simpa using made)]
    rfl
  rw [trailingSelectors, whole, List.reverse_reverse]

theorem selectors_made
    (joined : Joined (fun selector => Padded selector.toList) ',' selectors text)
    (writable : ∀ selector ∈ selectors, SelectorWritable selector) :
    ∀ c ∈ text, isSelectorChar c = true := by
  have comma : isSelectorChar ',' = true := by decide
  intro c member
  rcases joined.mem member with rfl | ⟨selector, among, part, padded, within⟩
  · exact comma
  · rcases padded.mem within with blank | inside
    · simp [isSelectorChar, blank]
    · exact ((writable selector among).made c inside).1

theorem selectorList_written
    (joined : Joined (fun selector => Padded selector.toList) ',' selectors text)
    (writable : ∀ selector ∈ selectors, SelectorWritable selector) :
    Block.selectorList ⟨trailingSelectors text, body⟩ = selectors := by
  rw [Block.selectorList, trailingSelectors_eq (selectors_made joined writable),
    List.filterMap_map]
  apply joined.filterMap_split
  · intro selector among part padded member
    rcases padded.mem member with blank | inside
    · contradiction
    · exact ((writable selector among).made ',' inside).2 rfl
  · intro selector among part padded
    have isPart := (writable selector among).part
    rw [Function.comp_apply, padded.trim_eq isPart, List.isEmpty_eq_false_iff.mpr isPart.1,
      String.ofList_toList]
    rfl

theorem not_mem_body {entries : List (String × String)} (written : BodyWritten entries body)
    (writable : ∀ entry ∈ entries, DeclarationWritable entry) : '\x7d' ∉ body := by
  intro member
  cases written with
  | empty blank => exact blank.not_mem (by decide) member
  | full joined =>
      rcases joined.mem member with mark | ⟨entry, among, part, written, within⟩
      · contradiction
      · exact (writable entry among).not_mem written (by simp) within

theorem blocks_nil (unopened : '\x7b' ∉ text) : blocks text = [] := by
  rw [blocks]
  split
  · rfl
  · rename_i cut
    rw [Text.cutAtFirst_eq_none unopened] at cut
    contradiction

theorem blocks_cons {front more : List Char} (opened : '\x7b' ∉ front) (closed : '\x7d' ∉ body) :
    blocks (front ++ '\x7b' :: (body ++ '\x7d' :: more)) =
      ⟨trailingSelectors front, body⟩ :: blocks more := by
  rw [blocks]
  split
  · rename_i uncut
    rw [Text.cutAtFirst_append _ opened] at uncut
    contradiction
  · rename_i before inside cut
    rw [Text.cutAtFirst_append _ opened] at cut
    obtain ⟨rfl, rfl⟩ := Prod.mk.inj (Option.some.inj cut)
    split
    · rename_i uncut
      rw [Text.cutAtFirst_append _ closed] at uncut
      contradiction
    · rename_i inner rest cut
      rw [Text.cutAtFirst_append _ closed] at cut
      obtain ⟨rfl, rfl⟩ := Prod.mk.inj (Option.some.inj cut)
      rfl

def Block.rule (block : Block) : Rule := ⟨block.selectorList, declarationList block.body⟩

/-- A sheet is read as the rules it was written from. -/
theorem blocks_written {rules : List Rule} (written : RulesWritten rules text)
    (writable : ∀ rule ∈ rules, rule.Writable) :
    (blocks text).map Block.rule = rules := by
  induction written with
  | nil blank => rw [blocks_nil (blank.not_mem (by decide)), List.map_nil]
  | cons front inside later ih =>
      have own := writable _ List.mem_cons_self
      have made := selectors_made front own.selectors
      have opened : '\x7b' ∉ _ := fun member => by
        have selector := made _ member
        contradiction
      rw [blocks_cons opened (not_mem_body inside own.declarations), List.map_cons, Block.rule,
        selectorList_written front own.selectors, declarationList_written inside own.declarations,
        ih fun rule member => writable rule (List.mem_cons_of_mem _ member)]

end Rules

end Vignette.Style
