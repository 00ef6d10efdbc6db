import Vignette.Proofs.Bindings
import Vignette.Proofs.Style.Writing

namespace Vignette.Style

/-! Declarations of texts that are joined by a semicolon: what the second text declares is laid over
what the first one declares. Blanks and semicolons too many, and parts that declare nothing, change
nothing. -/

section Parts

variable {before after text chunk : List Char}

theorem allBlank_nil : AllBlank [] := by simp [AllBlank]

theorem declaration?_surrounded (chunk : List Char) (blankBefore : AllBlank before)
    (blankAfter : AllBlank after) : declaration? (before ++ chunk ++ after) = declaration? chunk := by
  have unmarked {edge : List Char} (blank : AllBlank edge) : ':' ∉ edge :=
    blank.not_mem (by decide)
  rw [declaration?, Text.cutAtFirst_surrounded chunk (unmarked blankBefore) (unmarked blankAfter),
    declaration?]
  cases Text.cutAtFirst ':' chunk with
  | none => rfl
  | some cut =>
      obtain ⟨name, value⟩ := cut
      have left := Text.trim_surrounded name blankBefore allBlank_nil
      have right := Text.trim_surrounded value allBlank_nil blankAfter
      rw [List.append_nil] at left
      rw [List.nil_append] at right
      simp only [Option.map_some, Option.bind_some, left, right]

theorem declarationList_joined (before after : List Char) :
    declarationList (before ++ ';' :: after) = declarationList before ++ declarationList after := by
  have split : Text.splitAtEach (· == ';') (before ++ ';' :: after) =
      Text.splitAtEach (· == ';') before ++ Text.splitAtEach (· == ';') after :=
    Text.splitAtEach_joined before after rfl
  rw [declarationList, split, List.filterMap_append]
  rfl

theorem declarationList_single (single : ';' ∉ chunk) :
    declarationList chunk = (declaration? chunk).toList := by
  have whole : ∀ c ∈ chunk, (c == ';') = false := fun c member => by
    simpa using fun same : c = ';' => single (same ▸ member)
  rw [declarationList, Text.splitAtEach_of_unseparated whole]
  cases found : declaration? chunk <;> simp [found]

theorem declarationList_blanks_before (text : List Char) (blank : AllBlank before) :
    declarationList (before ++ text) = declarationList text := by
  have unmarked : ';' ∉ before := blank.not_mem (by decide)
  have same (chunk : List Char) : declaration? (before ++ chunk) = declaration? chunk := by
    have surrounded := declaration?_surrounded chunk blank allBlank_nil
    rwa [List.append_nil] at surrounded
  by_cases more : ';' ∈ text
  · obtain ⟨chunk, rest, rfl, single⟩ := List.eq_append_cons_of_mem more
    rw [← List.append_assoc, declarationList_joined, declarationList_joined,
      declarationList_single single, declarationList_single (by simp [unmarked, single]), same]
  · rw [declarationList_single more, declarationList_single (by simp [unmarked, more]), same]

theorem declarationList_blanks_behind (text : List Char) (blank : AllBlank after) :
    declarationList (text ++ after) = declarationList text := by
  by_cases more : ';' ∈ text
  · obtain ⟨chunk, rest, rfl, single⟩ := List.eq_append_cons_of_mem more
    have shorter : rest.length < (chunk ++ ';' :: rest).length := by
      simp only [List.length_append, List.length_cons]
      omega
    rw [List.append_assoc, List.cons_append, declarationList_joined, declarationList_joined,
      declarationList_blanks_behind rest blank]
  · have unmarked : ';' ∉ after := blank.not_mem (by decide)
    have same := declaration?_surrounded text allBlank_nil blank
    rw [List.nil_append] at same
    rw [declarationList_single more, declarationList_single (by simp [unmarked, more]), same]
termination_by text.length

end Parts

/-- Blanks and semicolons, which may stand around declarations. -/
def IsSlack (text : List Char) : Prop := ∀ c ∈ text, Text.isBlank c = true ∨ c = ';'

instance (text : List Char) : Decidable (IsSlack text) :=
  decidable_of_iff (text.all (fun c => Text.isBlank c || c == ';') = true) (by simp [IsSlack])

theorem declarationList_nil : declarationList [] = [] := rfl

theorem declarationList_slack_before {before : List Char} (text : List Char)
    (slack : IsSlack before) : declarationList (before ++ text) = declarationList text := by
  induction before with
  | nil => rfl
  | cons c rest ih =>
      have later := ih fun d member => slack d (List.mem_cons_of_mem c member)
      rcases slack c List.mem_cons_self with blank | rfl
      · have alone : AllBlank [c] := by simpa [AllBlank] using blank
        exact (declarationList_blanks_before (rest ++ text) alone).trans later
      · exact (declarationList_joined [] (rest ++ text)).trans later

theorem declarationList_slack_behind {after : List Char} (text : List Char)
    (slack : IsSlack after) : declarationList (text ++ after) = declarationList text := by
  induction after generalizing text with
  | nil => rw [List.append_nil]
  | cons c rest ih =>
      have later := ih (text ++ [c]) fun d member => slack d (List.mem_cons_of_mem c member)
      rw [List.append_assoc, List.singleton_append] at later
      rw [later]
      rcases slack c List.mem_cons_self with blank | rfl
      · have alone : AllBlank [c] := by simpa [AllBlank] using blank
        exact declarationList_blanks_behind text alone
      · rw [declarationList_joined, declarationList_nil, List.append_nil]

/-- A part between semicolons that declares nothing: it has no colon, or nothing but blanks for a
name or for a value. -/
def IsVoid (chunk : List Char) : Prop :=
  ';' ∉ chunk ∧ (':' ∉ chunk ∨ ∃ name value, chunk = name ++ ':' :: value ∧ ':' ∉ name ∧
    (AllBlank name ∨ AllBlank value))

theorem declarationList_void {chunk : List Char} (void : IsVoid chunk) :
    declarationList chunk = [] := by
  obtain ⟨single, empty⟩ := void
  rw [declarationList_single single, Option.toList_eq_nil_iff, declaration?]
  rcases empty with uncut | ⟨name, value, rfl, unmarked, blank⟩
  · rw [Text.cutAtFirst_eq_none uncut]
    rfl
  · rw [Text.cutAtFirst_append value unmarked, Option.bind_some]
    dsimp only
    rcases blank with blank | blank
    · rw [Text.trim_of_blanks blank]
      rfl
    · rw [Text.trim_of_blanks blank]
      simp

theorem declarationsOf_joined (first second : List Char) :
    declarationsOf (first ++ ';' :: second) =
      (declarationsOf first).overlay (declarationsOf second) := by
  rw [declarationsOf, declarationList_joined, declarationsOf, declarationsOf,
    Bindings.overlay_ofList, Bindings.ofList, Bindings.putAll, List.foldl_append]
  rfl

/-- The declarations of two texts with a semicolon between them are those of the first under those
of the second. Stray semicolons and blanks make no difference, nor does a part that declares
nothing: it hides nothing that was declared before. -/
theorem declarations_joined :
    (∀ first second : String, declarations (first ++ ";" ++ second) =
      (declarations first).overlay (declarations second)) ∧
    (∀ (first second name : String), (declarations (first ++ ";" ++ second)).get? name =
      ((declarations second).get? name).or ((declarations first).get? name)) ∧
    (∀ before text after : String, IsSlack before.toList → IsSlack after.toList →
      declarations (before ++ text ++ after) = declarations text) ∧
    ∀ first chunk second : String, IsVoid chunk.toList →
      declarations (first ++ ";" ++ chunk ++ ";" ++ second) =
        declarations (first ++ ";" ++ second) := by
  have joined (first second : String) : declarations (first ++ ";" ++ second) =
      (declarations first).overlay (declarations second) := by
    have text : (first ++ ";" ++ second).toList = first.toList ++ ';' :: second.toList := by
      simp
    rw [declarations, text, declarationsOf_joined]
    rfl
  refine ⟨joined, ?_, ?_, ?_⟩
  · intro first second name
    rw [joined]
    exact Bindings.get?_overlay _ (Bindings.distinct_ofList _) name
  · intro before text after slackBefore slackAfter
    rw [declarations, declarationsOf, String.toList_append, String.toList_append,
      declarationList_slack_behind _ slackAfter, declarationList_slack_before _ slackBefore]
    rfl
  · intro first chunk second void
    have nothing : declarations chunk = .empty := by
      rw [declarations, declarationsOf, declarationList_void void]
      rfl
    rw [joined, joined first chunk, nothing, joined]
    rfl

/-- A fill without a value behind one with a value, among stray semicolons. -/
theorem declarations_joined_emptyFill :
    IsSlack " ; ".toList ∧ IsSlack ";;".toList ∧ IsVoid " fill :\t".toList ∧
    (declarations (" ; " ++ ("fill:red" ++ ";" ++ " fill :\t" ++ ";" ++ "stroke : lime") ++ ";;")).get?
      "fill" = some "red" := by
  have slackBefore : IsSlack " ; ".toList := by decide
  have slackAfter : IsSlack ";;".toList := by decide
  have blank : AllBlank "\t".toList := List.all_eq_true.mp rfl
  have void : IsVoid " fill :\t".toList :=
    ⟨by decide, .inr ⟨" fill ".toList, "\t".toList, rfl, by decide, .inr blank⟩⟩
  obtain ⟨_, looked, stray, nothing⟩ := declarations_joined
  refine ⟨slackBefore, slackAfter, void, ?_⟩
  rw [stray _ _ _ slackBefore slackAfter, nothing _ _ _ void, looked]
  decide

end Vignette.Style
