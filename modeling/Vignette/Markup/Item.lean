import Vignette.Text.Part

namespace Vignette.Markup

/-! The items of a document: tags, and the texts between them. Comments are dropped. A bracket that
opens nothing is passed over. -/

/-- An item, as it is written; a tag keeps its brackets. -/
inductive Item where
  | tag (text : List Char)
  /-- A text in which references are to be resolved. -/
  | text (text : List Char)
  /-- A text that is taken as it is. -/
  | verbatim (text : List Char)
deriving DecidableEq, Repr

/-- What stands at an opening bracket: an item or a comment, and what follows it. -/
inductive Opening where
  | item (item : Item) (rest : List Char)
  | comment (rest : List Char)
  /-- Nothing; the bracket is passed over. -/
  | stray

def behindPhrase? (phrase : String) (cs : List Char) : Option (List Char) :=
  if phrase.toList.isPrefixOf cs then some (cs.drop phrase.length) else none

/-- The text between a phrase at the front and the first occurrence of another phrase after it, and
what follows. -/
def enclosed? (opening closing : String) (cs : List Char) : Option (List Char × List Char) :=
  (behindPhrase? opening cs).bind (Text.cutAtPhrase closing.toList)

/-- Reads what stands behind an opening bracket: quoted text, which is taken as it is, a comment,
or a tag up to the first closing bracket. -/
def opening (behind : List Char) : Opening :=
  match enclosed? "![CDATA[" "]]>" behind with
  | some (text, rest) => .item (.verbatim text) rest
  | none =>
    match enclosed? "!--" "-->" behind with
    | some (_, rest) => .comment rest
    | none =>
      match Text.cutAtFirst '>' behind with
      | some (inner, rest) => .item (.tag ('<' :: inner ++ ['>'])) rest
      | none => .stray

theorem enclosed?_length {first last : String} {cs text rest : List Char}
    (found : enclosed? first last cs = some (text, rest)) : rest.length ≤ cs.length := by
  simp only [enclosed?, behindPhrase?] at found
  split at found
  · simp only [Option.bind_some] at found
    have shorter := Text.cutAtPhrase_length found
    simp only [List.length_drop] at shorter
    omega
  · contradiction

def Opening.rest (behind : List Char) : Opening → List Char
  | .item _ rest | .comment rest => rest
  | .stray => behind

theorem opening_rest_length (behind : List Char) :
    ((opening behind).rest behind).length ≤ behind.length := by
  simp only [opening]
  split
  · rename_i found; exact enclosed?_length found
  · split
    · rename_i found; exact enclosed?_length found
    · split
      · rename_i found
        have whole := Text.cutAtFirst_eq_append found
        simp only [Opening.rest]
        rw [whole]
        simp only [List.length_append, List.length_cons]
        omega
      · exact Nat.le_refl _

def Opening.items : Opening → List Item
  | .item found _ => [found]
  | .comment _ | .stray => []

def items (cs : List Char) : List Item :=
  match cs with
  | [] => []
  | c :: rest =>
    if c = '<' then
      (opening rest).items ++ items ((opening rest).rest rest)
    else
      .text (c :: rest.takeWhile (· != '<')) :: items (rest.dropWhile (· != '<'))
termination_by cs.length
decreasing_by
  · exact Nat.lt_succ_of_le (opening_rest_length rest)
  · exact Nat.lt_succ_of_le (List.dropWhile_suffix _).length_le

end Vignette.Markup
