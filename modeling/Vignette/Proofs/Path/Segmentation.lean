import Mathlib.Data.List.Induction
import Vignette.Proofs.Path.Spacing

namespace Vignette.Path

/-! The tokens of path data are the only parts of it that lose nothing but separators and are cut
where the rule says, and nowhere else. -/

open Text (isBlank isDigit)

theorem kept_separators {gap : List Char} (separators : ∀ c ∈ gap, isSeparator c = true) :
    kept gap = [] := List.filter_eq_nil_iff.mpr (by simpa using separators)

/-- A part ends where `front` ends, so that the characters around that place are in different
parts. -/
def IsCut (parts : List (List Char)) (front : List Char) : Prop :=
  ∃ before after, parts = before ++ after ∧ before.flatten = front

/-- A text ends in a point and one or more digits. -/
def EndsInFraction (cs : List Char) : Prop :=
  ∃ front digits, cs = front ++ '.' :: digits ∧ digits ≠ [] ∧ ∀ d ∈ digits, isDigit d = true

/-- Whether two characters with nothing but separators between them are in different tokens. -/
def Apart (left : List Char) (a : Char) (gap : List Char) (b : Char) (right : List Char) : Prop :=
  gap ≠ [] ∨ a.isAlpha = true ∨ b.isAlpha = true ∨ (isDigit a = true ∧ b = '-') ∨
    (b = '.' ∧ digitFollows right = true ∧ EndsInFraction (left ++ a :: gap))

/-- What makes parts of a text its tokens. -/
structure Segmentation (text : List Char) (parts : List (List Char)) : Prop where
  ne_nil : [] ∉ parts
  complete : parts.flatten = kept text
  isCut_iff : ∀ left a gap b right, text = left ++ a :: gap ++ b :: right →
    isSeparator a = false → isSeparator b = false → (∀ c ∈ gap, isSeparator c = true) →
      (IsCut parts (kept (left ++ [a])) ↔ Apart left a gap b right)

section Cuts

variable {part front : List Char} {parts others : List (List Char)}

theorem isCut_nil : IsCut parts [] := ⟨[], parts, rfl, rfl⟩

theorem isCut_flatten : IsCut parts parts.flatten := ⟨parts, [], (List.append_nil _).symm, rfl⟩

theorem isCut_cons :
    IsCut (part :: parts) front ↔ front = [] ∨ ∃ rest, front = part ++ rest ∧ IsCut parts rest := by
  constructor
  · intro cut
    obtain ⟨before, after, same, rfl⟩ := cut
    cases before with
    | nil => exact .inl rfl
    | cons first before =>
        cases same
        exact .inr ⟨before.flatten, rfl, before, after, rfl, rfl⟩
  · intro place
    rcases place with rfl | ⟨rest, rfl, before, after, rfl, rfl⟩
    · exact isCut_nil
    · exact ⟨part :: before, after, rfl, rfl⟩

theorem isCut_head : IsCut (part :: parts) part :=
  isCut_cons.mpr (.inr ⟨[], (List.append_nil part).symm, isCut_nil⟩)

theorem eq_nil_of_isCut_nil (cut : IsCut [] front) : front = [] := by
  obtain ⟨before, after, none, rfl⟩ := cut
  rw [(List.append_eq_nil_iff.mp none.symm).1]
  rfl

/-- Behind the first part the cuts are those of the others. -/
theorem isCut_cons_append (ne_nil : part ≠ []) :
    IsCut (part :: parts) (part ++ front) ↔ IsCut parts front := by
  rw [isCut_cons]
  constructor
  · intro place
    rcases place with none | ⟨rest, same, cut⟩
    · exact absurd (List.append_eq_nil_iff.mp none).1 ne_nil
    · rwa [List.append_cancel_left same]
  · intro cut
    exact .inr ⟨front, rfl, cut⟩

/-- Parts are known from where they are cut. -/
theorem eq_of_isCut (ne_nil : [] ∉ parts) (others_ne_nil : [] ∉ others)
    (same : ∀ front, IsCut parts front ↔ IsCut others front) : parts = others := by
  induction parts generalizing others with
  | nil =>
      cases others with
      | nil => rfl
      | cons first rest =>
          have none := eq_nil_of_isCut_nil ((same first).mpr isCut_head)
          rw [none] at others_ne_nil
          exact absurd List.mem_cons_self others_ne_nil
  | cons part parts ih =>
      have part_ne_nil : part ≠ [] := fun none => ne_nil (none ▸ List.mem_cons_self)
      cases others with
      | nil => exact absurd (eq_nil_of_isCut_nil ((same part).mp isCut_head)) part_ne_nil
      | cons other others =>
          have other_ne_nil : other ≠ [] := fun none => others_ne_nil (none ▸ List.mem_cons_self)
          -- Each first part begins with the other.
          have equal : part = other := by
            rcases isCut_cons.mp ((same part).mp isCut_head) with none | ⟨more, longer, _⟩
            · exact absurd none part_ne_nil
            · rcases isCut_cons.mp ((same other).mpr isCut_head) with none | ⟨less, shorter, _⟩
              · exact absurd none other_ne_nil
              · have begins : other <+: part := ⟨more, longer.symm⟩
                have begun : part <+: other := ⟨less, shorter.symm⟩
                exact (begins.eq_of_length_le begun.length_le).symm
          cases equal
          have later := ih (fun member => ne_nil (List.mem_cons_of_mem _ member))
            (fun member => others_ne_nil (List.mem_cons_of_mem _ member)) (fun front => by
              rw [← isCut_cons_append part_ne_nil, same, isCut_cons_append part_ne_nil])
          rw [later]

end Cuts

/-- Characters that are kept next to each other have only separators between them. -/
theorem neighbours_of_kept {text front back : List Char} {a b : Char}
    (same : kept text = front ++ a :: b :: back) :
    ∃ left gap right, text = left ++ a :: gap ++ b :: right ∧ kept (left ++ [a]) = front ++ [a] ∧
      isSeparator a = false ∧ isSeparator b = false ∧ ∀ c ∈ gap, isSeparator c = true := by
  obtain ⟨first, others, rfl, before, rest⟩ := List.filter_eq_append_iff.mp same
  obtain ⟨lead, behind, rfl, skipped, solid, rest⟩ := List.filter_eq_cons_iff.mp rest
  obtain ⟨gap, right, rfl, between, next, _⟩ := List.filter_eq_cons_iff.mp rest
  simp only [Bool.not_eq_true', Bool.not_eq_false] at skipped solid between next
  refine ⟨first ++ lead, gap, right, by simp, ?_, solid, next, between⟩
  have kept_first : kept first = front := before
  rw [kept_append, kept_append, kept_first, kept_separators skipped, kept_solid [] solid]
  simp

namespace Segmentation

variable {text front : List Char} {parts others : List (List Char)}

theorem isCut_of_isCut (first : Segmentation text parts) (second : Segmentation text others)
    (cut : IsCut parts front) : IsCut others front := by
  obtain ⟨before, after, same, flat⟩ := cut
  have whole : kept text = front ++ after.flatten := by
    rw [← first.complete, same, List.flatten_append, flat]
  rcases List.eq_nil_or_concat front with rfl | ⟨start, a, rfl⟩
  · exact isCut_nil
  · rw [List.concat_eq_append] at *
    cases rest : after.flatten with
    | nil =>
        rw [rest, List.append_nil, ← second.complete] at whole
        exact whole ▸ isCut_flatten
    | cons b back =>
        rw [rest, List.append_assoc] at whole
        obtain ⟨left, gap, right, placed, last, solid, next, between⟩ := neighbours_of_kept whole
        have apart := (first.isCut_iff left a gap b right placed solid next between).mp
          ⟨before, after, same, flat.trans last.symm⟩
        exact last ▸ (second.isCut_iff left a gap b right placed solid next between).mpr apart

theorem unique (first : Segmentation text parts) (second : Segmentation text others) :
    parts = others :=
  eq_of_isCut first.ne_nil second.ne_nil fun _ =>
    ⟨first.isCut_of_isCut second, second.isCut_of_isCut first⟩

end Segmentation

section Glyphs

variable {front back : List Glyph} {glyph : Glyph}

theorem attach_eq (c : Char) (parts : List (List Char)) :
    Text.attach c parts = (c :: parts.headD []) :: parts.tail := by
  cases parts <;> rfl

theorem isCut_attach {c : Char} {part text : List Char} {parts : List (List Char)}
    (ne_nil : text ≠ []) :
    IsCut ((c :: part) :: parts) (c :: text) ↔ IsCut (part :: parts) text := by
  simp [isCut_cons, ne_nil]

/-- The tokens that glyphs make up are cut in front of the glyphs that open one. -/
theorem isCut_pieces (c : Char) (front : List Glyph) :
    IsCut (Text.attach c (pieces (front ++ glyph :: back))) (c :: front.map Glyph.char) ↔
      glyph.opens = true := by
  induction front generalizing c with
  | nil => cases opens : glyph.opens <;> simp [pieces, opens, attach_eq, isCut_cons]
  | cons first front ih =>
      have later := ih first.char
      cases opens : first.opens
      · rw [attach_eq] at later
        simp only [List.cons_append, pieces, opens, Bool.false_eq_true, if_false, attach_eq,
          List.headD_cons, List.tail_cons, List.map_cons]
        exact (isCut_attach (by simp)).trans later
      · simp only [List.cons_append, pieces, opens, if_true, List.map_cons]
        exact (isCut_cons_append (List.cons_ne_nil c [])).trans later

theorem isCut_group (ne_nil : front ≠ []) :
    IsCut (group (front ++ glyph :: back)) (front.map Glyph.char) ↔ glyph.opens = true := by
  cases front with
  | nil => contradiction
  | cons first front => exact isCut_pieces first.char front

theorem flatten_attach (c : Char) (parts : List (List Char)) :
    (Text.attach c parts).flatten = c :: parts.flatten := by
  cases parts <;> rfl

theorem flatten_pieces (glyphs : List Glyph) : (pieces glyphs).flatten = glyphs.map Glyph.char := by
  induction glyphs with
  | nil => rfl
  | cons first rest ih => cases opens : first.opens <;> simp [pieces, opens, flatten_attach, ih]

theorem flatten_group (glyphs : List Glyph) : (group glyphs).flatten = glyphs.map Glyph.char := by
  cases glyphs with
  | nil => rfl
  | cons first rest => simp [group, flatten_attach, flatten_pieces]

theorem nil_not_mem_attach (c : Char) {parts : List (List Char)} (others : [] ∉ parts.tail) :
    [] ∉ Text.attach c parts := by
  rw [attach_eq]
  simpa using others

theorem nil_not_mem_pieces_tail (glyphs : List Glyph) : [] ∉ (pieces glyphs).tail := by
  induction glyphs with
  | nil => simp [pieces]
  | cons first rest ih =>
      have attached := nil_not_mem_attach first.char ih
      rw [pieces]
      split
      · exact attached
      · exact fun member => attached (List.mem_of_mem_tail member)

theorem nil_not_mem_group (glyphs : List Glyph) : [] ∉ group glyphs := by
  cases glyphs with
  | nil => simp [group]
  | cons first rest => exact nil_not_mem_attach first.char (nil_not_mem_pieces_tail rest)

end Glyphs

theorem Left.after_separator (left : Left) {c : Char} (separator : isSeparator c = true) :
    left.after c = .nothing := by
  unfold Left.after
  exact if_pos separator

/-- What stands to the left of the character behind a text. -/
def Left.across (left : Left) (cs : List Char) : Left := cs.foldl Left.after left

/-- The glyphs of a text begin with as many as its front keeps characters, and go on with those of
the rest. -/
theorem glyphs_append (left : Left) (front back : List Char) :
    ∃ first, first.map Glyph.char = kept front ∧
      glyphs left (front ++ back) = first ++ glyphs (left.across front) back := by
  induction front generalizing left with
  | nil => exact ⟨[], rfl, rfl⟩
  | cons c front ih =>
      obtain ⟨first, chars, same⟩ := ih (left.after c)
      by_cases separator : isSeparator c = true
      · refine ⟨first, chars.trans (kept_separator front separator).symm, ?_⟩
        rw [List.cons_append, glyphs, if_pos separator, ← left.after_separator separator, same]
        rfl
      · refine ⟨⟨c, left.opens c (front ++ back)⟩ :: first, ?_, ?_⟩
        · rw [kept_solid front (Bool.not_eq_true _ ▸ separator), ← chars]
          rfl
        · rw [List.cons_append, glyphs, if_neg separator, same]
          rfl

@[simp] theorem Left.across_snoc (left : Left) (cs : List Char) (c : Char) :
    left.across (cs ++ [c]) = (left.across cs).after c := by
  simp [Left.across]

theorem Left.after_eq_point_iff {left : Left} {c : Char} : left.after c = .point ↔ c = '.' := by
  constructor
  · intro same
    unfold Left.after at same
    grind
  · intro point
    cases point
    cases left <;> decide

theorem Left.after_eq_fraction_iff {left : Left} {c : Char} :
    left.after c = .fraction ↔ isDigit c = true ∧ (left = .point ∨ left = .fraction) := by
  constructor
  · intro same
    unfold Left.after at same
    grind
  · intro fraction
    obtain ⟨digit, before⟩ := fraction
    have separator := isSeparator_of_isDigit digit
    have letter := Text.isAlpha_of_isDigit digit
    have point : c ≠ '.' := Text.ne_of_class digit (by decide)
    rcases before with rfl | rfl <;> simp [Left.after, separator, letter, point, digit]

theorem across_eq_point_iff (cs : List Char) :
    Left.nothing.across cs = .point ↔ ∃ front, cs = front ++ ['.'] := by
  induction cs using List.reverseRecOn with
  | nil => simp [Left.across]
  | append_singleton front c ih => simp [Left.after_eq_point_iff]

theorem endsInFraction_snoc {front : List Char} {c : Char} :
    EndsInFraction (front ++ [c]) ↔
      isDigit c = true ∧ ((∃ before, front = before ++ ['.']) ∨ EndsInFraction front) := by
  constructor
  · intro ends
    obtain ⟨before, digits, same, ne_nil, all⟩ := ends
    rcases List.eq_nil_or_concat digits with rfl | ⟨others, last, rfl⟩
    · contradiction
    · have split : front ++ [c] = (before ++ '.' :: others) ++ [last] := by simpa using same
      obtain ⟨rfl, ends⟩ := List.append_inj' split rfl
      cases ends
      have earlier : ∀ d ∈ others, isDigit d = true := fun d member => all d (by simp [member])
      refine ⟨all c (by simp), ?_⟩
      cases others with
      | nil => exact .inl ⟨before, rfl⟩
      | cons d others => exact .inr ⟨before, d :: others, rfl, by simp, earlier⟩
  · intro ends
    obtain ⟨digit, ⟨before, rfl⟩ | ⟨before, digits, rfl, ne_nil, all⟩⟩ := ends
    · exact ⟨before, [c], by simp, by simp, by simpa using digit⟩
    · refine ⟨before, digits ++ [c], by simp, by simp, ?_⟩
      simpa [or_imp, forall_and] using ⟨all, digit⟩

theorem across_eq_fraction_iff (cs : List Char) :
    Left.nothing.across cs = .fraction ↔ EndsInFraction cs := by
  induction cs using List.reverseRecOn with
  | nil => simp [Left.across, EndsInFraction]
  | append_singleton front c ih =>
      rw [Left.across_snoc, Left.after_eq_fraction_iff, ih, across_eq_point_iff, endsInFraction_snoc]

section Boundaries

variable {left right gap : List Char} {a b : Char}

theorem across_eq_nothing (between : ∀ c ∈ gap, isSeparator c = true) (ne_nil : gap ≠ []) :
    Left.nothing.across (left ++ a :: gap) = .nothing := by
  rcases List.eq_nil_or_concat gap with rfl | ⟨others, last, rfl⟩
  · exact absurd rfl ne_nil
  · have placed : left ++ a :: others.concat last = (left ++ a :: others) ++ [last] := by simp
    have separator : isSeparator last = true := between last (by simp)
    rw [placed, Left.across_snoc]
    exact Left.after_separator _ separator

/-- A character opens a token if it is in another one than the last character before it. -/
theorem opens_iff_apart (solid : isSeparator a = false)
    (between : ∀ c ∈ gap, isSeparator c = true) :
    (Left.nothing.across (left ++ a :: gap)).opens b right = true ↔ Apart left a gap b right := by
  by_cases ne_nil : gap = []
  · cases ne_nil
    have fraction := across_eq_fraction_iff (left ++ [a])
    rw [Apart, ← fraction, Left.across_snoc]
    generalize Left.nothing.across left = before
    by_cases letter : a.isAlpha = true
    · have after : before.after a = .letter := by simp [Left.after, solid, letter]
      simp [after, Left.opens, letter]
    · by_cases digit : isDigit a = true
      · have point : a ≠ '.' := Text.ne_of_class digit (by decide)
        have after : before.after a = .digit ∨ before.after a = .fraction := by
          cases before <;> simp [Left.after, solid, letter, digit, point]
        rcases after with after | after
        · simp [after, Left.opens, letter, digit]
        · simp [after, Left.opens, letter, digit, or_assoc]
      · have after : before.after a = .point ∨ before.after a = .other := by
          by_cases point : a = '.'
          · exact .inl (Left.after_eq_point_iff.mpr point)
          · simp [Left.after, solid, letter, digit, point]
        rcases after with after | after <;> simp [after, Left.opens, letter, digit]
  · rw [across_eq_nothing between ne_nil]
    exact iff_of_true rfl (.inl ne_nil)

/-- The parts of path data at which it is cut are its tokens. -/
theorem segmentation_cut (text : List Char) : Segmentation text (cut text) where
  ne_nil := by
    rw [cut_eq]
    exact nil_not_mem_group _
  complete := by rw [cut_eq, flatten_group, map_char_glyphs]
  isCut_iff left a gap b right placed solid next between := by
    obtain ⟨first, chars, same⟩ := glyphs_append .nothing (left ++ a :: gap) (b :: right)
    have front : first.map Glyph.char = kept (left ++ [a]) := by
      rw [chars, kept_append, kept_append, kept_solid gap solid, kept_solid [] solid,
        kept_separators between]
      rfl
    have ne_nil : first ≠ [] := by
      intro none
      cases none
      rw [kept_append, kept_solid [] solid] at front
      simp at front
    rw [cut_eq, placed, same, glyphs, if_neg (by simp [next]), ← front, isCut_group ne_nil]
    exact opens_iff_apart solid between

end Boundaries

/-- The tokens of path data are its only segmentation, and spacing it again changes nothing. -/
theorem tokens_segmentation :
    (∀ data parts, Segmentation data.toList (parts.map String.toList) ↔ parts = tokens data) ∧
      ∀ data, spaced (spaced data) = spaced data := by
  constructor
  · intro data parts
    have texts : (tokens data).map String.toList = cut data.toList := by
      simp [tokens, Function.comp_def]
    constructor
    · intro segmentation
      have same := segmentation.unique (segmentation_cut data.toList)
      rw [tokens, ← same]
      simp [Function.comp_def]
    · intro same
      cases same
      rw [texts]
      exact segmentation_cut data.toList
  · intro data
    rw [spaced, spaced, String.toList_ofList, normal_normal]

example : tokens "M1-2..5.5" = ["M", "1", "-2..5", ".5"] := rfl

end Vignette.Path
