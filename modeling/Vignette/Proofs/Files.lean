import Mathlib.Tactic.SplitIfs
import Vignette.Files
import Vignette.Proofs.Text.Cutting

namespace Vignette

/-! Where paths lead while files are saved. Saving makes and removes no directory, so that a path
leads to the same place before and after it, and what stands at a place changes only where a file
is put. -/

namespace FileTree

variable {tree other saved : FileTree} {place target : List String} {path : String}

def SameDirectories (tree other : FileTree) : Prop :=
  ∀ place, tree.at? place = some .directory ↔ other.at? place = some .directory

theorem SameDirectories.symm (same : SameDirectories tree other) : SameDirectories other tree :=
  fun place => (same place).symm

theorem SameDirectories.trans (first : SameDirectories tree other)
    (second : SameDirectories other saved) : SameDirectories tree saved :=
  fun place => (first place).trans (second place)

/-! ### Paths -/

/-- Where one part of a path leads from a directory. -/
def advance (place : List String) (part : String) : Except FileCause (List String) :=
  if part = "" ∨ part = "." then .ok place
  else if part = ".." then .ok (outside place)
  else if nameLimit < part.utf8ByteSize then .error .nameTooLong
  else .ok (place ++ [part])

theorem follow_cons_eq_ok {part : String} {rest : List String} :
    tree.follow place (part :: rest) = .ok target ↔
      tree.at? place = some .directory ∧
        ∃ next, advance place part = .ok next ∧ tree.follow next rest = .ok target := by
  rw [follow, advance]
  cases tree.at? place with
  | none => simp
  | some entry =>
      cases entry with
      | directory => split_ifs <;> simp
      | file bytes => simp
      | picture picture bytes => simp

theorem SameDirectories.follow_ok (same : SameDirectories tree other) {parts : List String}
    (followed : tree.follow place parts = .ok target) :
    other.follow place parts = .ok target := by
  induction parts generalizing place with
  | nil => exact followed
  | cons part rest ih =>
      obtain ⟨directory, next, advanced, onward⟩ := follow_cons_eq_ok.mp followed
      exact follow_cons_eq_ok.mpr ⟨(same place).mp directory, next, advanced, ih onward⟩

theorem follow_append {front back : List String}
    (followed : tree.follow place (front ++ back) = .ok target) :
    ∃ middle, tree.follow place front = .ok middle ∧ tree.follow middle back = .ok target := by
  induction front generalizing place with
  | nil => exact ⟨place, rfl, followed⟩
  | cons part rest ih =>
      obtain ⟨directory, next, advanced, onward⟩ := follow_cons_eq_ok.mp followed
      obtain ⟨middle, before, behind⟩ := ih onward
      exact ⟨middle, follow_cons_eq_ok.mpr ⟨directory, next, advanced, before⟩, behind⟩

theorem place_eq_ok : tree.place path = .ok target ↔
    path.isEmpty = false ∧ path.utf8ByteSize ≤ pathLimit ∧
      tree.follow (startOf path) (parts path) = .ok target := by
  rw [FileTree.place]
  cases path.isEmpty with
  | true => simp
  | false =>
      by_cases long : pathLimit < path.utf8ByteSize
      · simp [long, Nat.not_le_of_lt long]
      · simp [long, Nat.le_of_not_lt long]

theorem SameDirectories.place_ok (same : SameDirectories tree other)
    (leads : tree.place path = .ok target) : other.place path = .ok target := by
  rw [place_eq_ok] at leads ⊢
  exact ⟨leads.1, leads.2.1, same.follow_ok leads.2.2⟩

theorem find_eq_ok {entry : Entry} : tree.find path = .ok entry ↔
    ∃ place, tree.place path = .ok place ∧ tree.at? place = some entry := by
  rw [find]
  cases tree.place path with
  | error cause => simp [Except.bind]
  | ok place =>
      simp only [Except.bind, Except.ok.injEq, exists_eq_left']
      cases tree.at? place <;> simp

theorem isDirectory_iff : tree.isDirectory path = true ↔ tree.find path = .ok .directory := by
  rw [isDirectory]
  rcases tree.find path with cause | (_ | bytes | ⟨picture, bytes⟩) <;> simp

theorem SameDirectories.isDirectory_eq (same : SameDirectories tree other) (path : String) :
    tree.isDirectory path = other.isDirectory path := by
  rw [Bool.eq_iff_iff, isDirectory_iff, isDirectory_iff, find_eq_ok, find_eq_ok]
  constructor
  · rintro ⟨place, leads, directory⟩
    exact ⟨place, same.place_ok leads, (same place).mp directory⟩
  · rintro ⟨place, leads, directory⟩
    exact ⟨place, same.symm.place_ok leads, (same place).mpr directory⟩

/-! ### Saving -/

theorem at?_of_given (given : isGiven place = true) : tree.at? place = some .directory :=
  if_pos given

theorem at?_put (free : isGiven target = false) (entry : Entry) (place : List String) :
    (tree.put target entry).at? place = if place = target then some entry else tree.at? place := by
  by_cases given : isGiven place = true
  · have apart : place ≠ target := by
      rintro rfl
      rw [free] at given
      cases given
    rw [at?_of_given given, if_neg apart, at?_of_given given]
  · rw [at?, at?, if_neg given, if_neg given, put]
    by_cases here : place = target
    · subst here
      have gone : (tree.entries.filter fun other => other.1 != place).find?
          (fun other => other.1 == place) = none := by simp
      rw [List.find?_append, gone, if_pos rfl]
      simp
    · have kept : (tree.entries.filter fun other => other.1 != target).find?
          (fun other => other.1 == place) = tree.entries.find? fun other => other.1 == place := by
        rw [List.find?_filter]
        refine congrArg (List.find? · tree.entries) (funext fun other => ?_)
        by_cases same : other.1 = place <;> simp [same, here]
      have elsewhere : ¬ target = place := fun same => here same.symm
      rw [List.find?_append, kept, if_neg here]
      simp [elsewhere]

theorem save_eq_ok {entry : Entry} : tree.save path entry = .ok saved ↔
    ∃ target, tree.place path = .ok target ∧ tree.refusal? target = none ∧
      saved = tree.put target entry := by
  rw [save]
  cases tree.place path with
  | error cause => simp
  | ok target =>
      cases refused : tree.refusal? target with
      | some cause => simp [refused]
      | none => simp [refused, eq_comm]

theorem at?_of_not_refused (allowed : tree.refusal? target = none) :
    tree.at? target ≠ some .directory := by
  intro directory
  rw [refusal?, directory] at allowed
  cases allowed

theorem isGiven_of_not_directory (other : tree.at? target ≠ some .directory) :
    isGiven target = false :=
  Bool.eq_false_iff.mpr fun given => other (at?_of_given given)

theorem sameDirectories_put (undirected : tree.at? target ≠ some .directory) {entry : Entry}
    (file : entry ≠ .directory) : SameDirectories tree (tree.put target entry) := by
  intro place
  rw [at?_put (isGiven_of_not_directory undirected)]
  by_cases here : place = target
  · subst here
    simp [undirected, file]
  · rw [if_neg here]

/-- A tree with entries put at places, one after the other. -/
def withEntries (tree : FileTree) (saves : List (List String × Entry)) : FileTree :=
  saves.foldl (fun tree save => tree.put save.1 save.2) tree

/-- At each place stands what was put there last. -/
theorem at?_withEntries {saves : List (List String × Entry)}
    (free : ∀ save ∈ saves, isGiven save.1 = false) (place : List String) :
    (tree.withEntries saves).at? place = (saves.reverse.lookup place).or (tree.at? place) := by
  induction saves generalizing tree with
  | nil => rfl
  | cons save rest ih =>
      obtain ⟨target, entry⟩ := save
      rw [withEntries, List.foldl_cons, ← withEntries,
        ih fun other member => free other (List.mem_cons_of_mem _ member),
        at?_put (free (target, entry) List.mem_cons_self), List.reverse_cons, List.lookup_append]
      cases rest.reverse.lookup place with
      | some later => rfl
      | none =>
          by_cases here : place = target
          · rw [here, List.lookup_cons_self, if_pos rfl]
            rfl
          · rw [List.lookup_cons, beq_false_of_ne here, if_neg here]
            rfl

/-! ### Names in directories -/

/-- Whether a name leads into the directory where it is looked up. -/
structure IsPlain (name : String) : Prop where
  whole : '/' ∉ name.toList
  nonempty : name ≠ ""
  notSame : name ≠ "."
  notOutside : name ≠ ".."

variable {name directory : String}

theorem parts_of_plain (plain : IsPlain name) : parts name = [name] := by
  rw [parts, Text.splitAtEach_of_unseparated]
  · simp
  · intro c member
    simp only [beq_eq_false_iff_ne, ne_eq]
    rintro rfl
    exact plain.whole member

theorem advance_of_plain (plain : IsPlain name) (advanced : advance place name = .ok target) :
    target = place ++ [name] := by
  rw [advance, if_neg (not_or.mpr ⟨plain.nonempty, plain.notSame⟩), if_neg plain.notOutside]
    at advanced
  split at advanced
  · cases advanced
  · exact (Except.ok.inj advanced).symm

theorem follow_of_plain (plain : IsPlain name)
    (followed : tree.follow place [name] = .ok target) : target = place ++ [name] := by
  obtain ⟨_, next, advanced, same⟩ := follow_cons_eq_ok.mp followed
  obtain rfl := Except.ok.inj same
  exact advance_of_plain plain advanced

theorem place_of_plain (plain : IsPlain name) (leads : tree.place name = .ok target) :
    target = [name] := by
  have here : startOf name = [] := by
    rw [startOf, if_neg]
    rw [String.startsWith_string_iff]
    rintro ⟨more, whole⟩
    exact plain.whole (whole ▸ List.mem_append_left _ (by decide))
  obtain ⟨_, _, followed⟩ := place_eq_ok.mp leads
  rw [here, parts_of_plain plain] at followed
  exact follow_of_plain plain followed

theorem startOf_joinPath (nonempty : directory.isEmpty = false) (name : String) :
    startOf (joinPath directory name) = startOf directory := by
  have filled : directory.toList ≠ [] := by
    simpa using nonempty
  obtain ⟨first, rest, whole⟩ := List.exists_cons_of_ne_nil filled
  have joined : ∃ more, (joinPath directory name).toList = first :: more := by
    rw [joinPath]
    split <;> simp [whole]
  obtain ⟨more, joined⟩ := joined
  have same : directory.startsWith "/" = (joinPath directory name).startsWith "/" := by
    rw [Bool.eq_iff_iff, String.startsWith_string_iff, String.startsWith_string_iff, whole, joined]
    simp
  rw [startOf, startOf, same]

/-- The parts of the paths to the names in a directory differ in the last one only. -/
theorem parts_joinPath (nonempty : directory.isEmpty = false) :
    ∃ front, ∀ name, IsPlain name → parts (joinPath directory name) = front ++ [name] := by
  have joined (before : List Char) {name : String} (plain : IsPlain name) :
      (Text.splitAtEach (· == '/') (before ++ '/' :: name.toList)).map String.ofList =
        (Text.splitAtEach (· == '/') before).map String.ofList ++ [name] := by
    rw [Text.splitAtEach_joined _ _ (by rfl), List.map_append]
    exact congrArg _ (parts_of_plain plain)
  cases ends : directory.endsWith "/" with
  | true =>
      have suffix : "/".toList <:+ directory.toSlice.copy.toList :=
        String.Slice.endsWith_string_iff.mp ends
      rw [String.copy_toSlice] at suffix
      obtain ⟨before, whole⟩ := suffix
      refine ⟨(Text.splitAtEach (· == '/') before).map String.ofList, fun name plain => ?_⟩
      rw [parts, joinPath, ends, Bool.or_true, if_pos rfl, String.toList_append, ← whole,
        List.append_assoc]
      exact joined before plain
  | false =>
      refine ⟨(Text.splitAtEach (· == '/') directory.toList).map String.ofList,
        fun name plain => ?_⟩
      rw [parts, joinPath, ends, nonempty, Bool.or_false, if_neg Bool.false_ne_true,
        String.toList_append, String.toList_append, List.append_assoc]
      exact joined directory.toList plain

theorem place_joinPath (nonempty : directory.isEmpty = false) :
    ∃ front, ∀ name, IsPlain name → ∀ (tree : FileTree) (target : List String),
      tree.place (joinPath directory name) = .ok target →
        ∃ inside, tree.follow (startOf directory) front = .ok inside ∧
          target = inside ++ [name] := by
  obtain ⟨front, split⟩ := parts_joinPath nonempty
  refine ⟨front, fun name plain tree target leads => ?_⟩
  obtain ⟨_, _, followed⟩ := place_eq_ok.mp leads
  rw [startOf_joinPath nonempty, split name plain] at followed
  obtain ⟨inside, before, last⟩ := follow_append followed
  exact ⟨inside, before, follow_of_plain plain last⟩

end FileTree

end Vignette
