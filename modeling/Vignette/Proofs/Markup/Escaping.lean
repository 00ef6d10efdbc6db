import Vignette.Markup.Entity

namespace Vignette.Markup

/-! Writing texts so that they can stand anywhere in markup. The five characters with a meaning
there are written as references; resolving references gives back the text. -/

/-- How a character with a meaning is written behind an ampersand. -/
def referenceTo? : Char → Option (List Char)
  | '&' => some "amp;".toList
  | '<' => some "lt;".toList
  | '>' => some "gt;".toList
  | '"' => some "quot;".toList
  | '\'' => some "#39;".toList
  | _ => none

def escapedChar (c : Char) : List Char :=
  match referenceTo? c with
  | some written => '&' :: written
  | none => [c]

def escaped (text : List Char) : List Char := text.flatMap escapedChar

theorem reference?_referenceTo {c : Char} {written : List Char}
    (special : referenceTo? c = some written) (rest : List Char) :
    reference? (written ++ rest) = some ⟨.ok [c], written.length⟩ := by
  unfold referenceTo? at special
  split at special
  all_goals cases special
  all_goals rfl

theorem resolveReferences_escapedChar (c : Char) (rest : List Char) :
    resolveReferences (escapedChar c ++ rest) = (resolveReferences rest).map (c :: ·) := by
  unfold escapedChar
  cases special : referenceTo? c with
  | some written =>
      dsimp only
      rw [List.cons_append, resolveReferences, if_pos rfl, reference?_referenceTo special]
      dsimp only
      rw [List.drop_left]
      rfl
  | none =>
      have plain : c ≠ '&' := by rintro rfl; cases special
      rw [List.singleton_append, resolveReferences, if_neg plain]

theorem resolveReferences_escaped (text : List Char) :
    resolveReferences (escaped text) = .ok text := by
  induction text with
  | nil => rw [escaped, List.flatMap_nil, resolveReferences]
  | cons c rest ih =>
      rw [escaped, List.flatMap_cons, resolveReferences_escapedChar, ← escaped, ih]
      rfl

theorem resolveReferences_plain {text : List Char} (plain : '&' ∉ text) :
    resolveReferences text = .ok text := by
  induction text with
  | nil => rw [resolveReferences]
  | cons c rest ih =>
      rw [List.mem_cons, not_or] at plain
      rw [resolveReferences, if_neg (Ne.symm plain.1), ih plain.2]
      rfl

theorem not_mem_referenceTo {c mark : Char} {written : List Char}
    (special : referenceTo? c = some written) (meaning : mark ∈ ['<', '>', '"', '\'']) :
    mark ∉ '&' :: written := by
  unfold referenceTo? at special
  split at special
  all_goals cases special
  all_goals
    simp only [List.mem_cons, List.not_mem_nil, or_false] at meaning
    rcases meaning with rfl | rfl | rfl | rfl
  all_goals decide

/-- The characters that are never left in a text. -/
theorem not_mem_escaped {mark : Char} (meaning : mark ∈ ['<', '>', '"', '\''])
    (text : List Char) : mark ∉ escaped text := by
  intro member
  obtain ⟨c, _, inside⟩ := List.mem_flatMap.mp member
  unfold escapedChar at inside
  cases special : referenceTo? c with
  | some written =>
      rw [special] at inside
      exact not_mem_referenceTo special meaning inside
  | none =>
      rw [special] at inside
      obtain rfl := List.mem_singleton.mp inside
      simp only [List.mem_cons, List.not_mem_nil, or_false] at meaning
      rcases meaning with rfl | rfl | rfl | rfl
      all_goals cases special

end Vignette.Markup
