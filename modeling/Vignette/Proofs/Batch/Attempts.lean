import Vignette.Batch.Run

namespace Vignette.Batch

/-! A batch as the list of its attempts, one for each document that is taken up. An attempt knows
the others by nothing but the files that they left, and one that saves nothing leaves the files as
they were. -/

/-- What became of one document: the files when it was taken up, what was printed, the files
afterwards, and whether it succeeded, unless it broke down. -/
structure Attempt where
  path : String
  before : FileTree
  printed : String
  after : FileTree
  result : Except Breakdown Bool

namespace Attempt

def succeeded (attempt : Attempt) : Bool :=
  match attempt.result with
  | .ok success => success
  | .error _ => false

def breakdown? (attempt : Attempt) : Option Breakdown :=
  match attempt.result with
  | .ok _ => none
  | .error breakdown => some breakdown

/-- Whether an attempt came to an end without an image, so that the next document is taken up. -/
def Failed (attempt : Attempt) : Prop := attempt.result = .ok false

theorem succeeded_iff {attempt : Attempt} :
    attempt.succeeded = true ↔ attempt.result = .ok true := by
  rw [succeeded]
  cases attempt.result <;> simp

theorem outcome_cases (attempt : Attempt) :
    attempt.succeeded = true ∧ attempt.breakdown? = none ∨
      attempt.Failed ∧ attempt.succeeded = false ∧ attempt.breakdown? = none ∨
      attempt.succeeded = false ∧ ∃ breakdown, attempt.breakdown? = some breakdown := by
  rcases outcome : attempt.result with reason | (_ | _) <;>
    simp [succeeded, breakdown?, Failed, outcome]

end Attempt

def attempt (host : Host) (request : Request) (tree : FileTree) (path : String) : Attempt :=
  let (target, warning) := targetOf request tree path
  let report := processFile host request target tree path
  ⟨path, tree, warning ++ report.printed, report.tree, report.result⟩

/-- Where the picture of a document goes. -/
def targetFor (request : Request) (tree : FileTree) (path : String) : String :=
  (targetOf request tree path).1.getD (pictureName path)

/-- What comes of a document: the files afterwards, and the line about it. -/
def treatment (host : Host) (request : Request) (tree : FileTree) (path : String) :
    FileTree × Except Setback String :=
  match load host tree path with
  | .error setback => (tree, .error setback)
  | .ok document =>
    processDocument host request (targetFor request tree path) tree path document

/-- The attempts at documents, one after the other, until a breakdown ends them. -/
def attempts (host : Host) (request : Request) (tree : FileTree) : List String → List Attempt
  | [] => []
  | path :: rest =>
    let made := attempt host request tree path
    made :: if made.breakdown?.isSome then [] else attempts host request made.after rest

def treeAfter (tree : FileTree) (made : List Attempt) : FileTree :=
  made.foldl (fun _ attempt => attempt.after) tree

def printedBy (made : List Attempt) : String := String.join (made.map Attempt.printed)

def breakdownOf? (made : List Attempt) : Option Breakdown := made.findSome? Attempt.breakdown?

variable {host : Host} {request : Request} {tree : FileTree}

theorem load_of_missing (host : Host) {path : String} (missing : tree.has path = false) :
    ∃ trouble, load host tree path = .error (.trouble trouble) := by
  rw [FileTree.has] at missing
  cases found : tree.find path with
  | ok entry => rw [found] at missing; cases missing
  | error cause =>
      refine ⟨.file ⟨cause, path⟩, ?_⟩
      rw [load, FileTree.read, found]
      rfl

theorem attempt_of_missing (host : Host) (request : Request) {path : String}
    (missing : tree.has path = false) :
    attempt host request tree path = ⟨path, tree,
      (targetOf request tree path).2 ++ ("Error: File not found: " ++ path ++ "\n"), tree,
        .ok false⟩ := by
  simp [attempt, processFile, missing]

theorem attempt_of_found (host : Host) (request : Request) {path : String}
    (found : tree.has path = true) :
    ∃ shown, let report := Report.ofOutcome path shown (treatment host request tree path)
      attempt host request tree path = ⟨path, tree,
        (targetOf request tree path).2 ++ report.printed, report.tree, report.result⟩ := by
  simp only [attempt, processFile, found, Bool.not_true, Bool.false_eq_true, if_false, treatment,
    targetFor]
  cases load host tree path with
  | error setback => exact ⟨_, rfl⟩
  | ok document => exact ⟨_, rfl⟩

theorem treatment_of_missing (host : Host) (request : Request) {path : String}
    (missing : tree.has path = false) :
    ∃ trouble, treatment host request tree path = (tree, .error (.trouble trouble)) := by
  obtain ⟨trouble, unread⟩ := load_of_missing host missing
  exact ⟨trouble, by rw [treatment, unread]⟩

theorem attempt_after (host : Host) (request : Request) (tree : FileTree) (path : String) :
    (attempt host request tree path).after = (treatment host request tree path).1 := by
  cases present : tree.has path with
  | false =>
      obtain ⟨trouble, refused⟩ := treatment_of_missing host request present
      rw [attempt_of_missing host request present, refused]
  | true =>
      obtain ⟨shown, made⟩ := attempt_of_found host request present
      rw [made]
      rcases treatment host request tree path with ⟨after, (_ | _) | line⟩ <;> rfl

theorem attempt_succeeded_iff {path : String} :
    (attempt host request tree path).succeeded = true ↔
      ∃ line, (treatment host request tree path).2 = .ok line := by
  rw [Attempt.succeeded_iff]
  cases present : tree.has path with
  | false =>
      obtain ⟨trouble, refused⟩ := treatment_of_missing host request present
      simp [attempt_of_missing host request present, refused]
  | true =>
      obtain ⟨shown, made⟩ := attempt_of_found host request present
      rw [made]
      rcases treatment host request tree path with ⟨after, (_ | _) | line⟩ <;>
        simp [Report.ofOutcome]

theorem attempt_broke_iff {path : String} {breakdown : Breakdown} :
    (attempt host request tree path).result = .error breakdown ↔
      (treatment host request tree path).2 = .error (.breakdown breakdown) := by
  cases present : tree.has path with
  | false =>
      obtain ⟨trouble, refused⟩ := treatment_of_missing host request present
      simp [attempt_of_missing host request present, refused]
  | true =>
      obtain ⟨shown, made⟩ := attempt_of_found host request present
      rw [made]
      rcases treatment host request tree path with ⟨after, (_ | _) | line⟩ <;>
        simp [Report.ofOutcome]

def IsErrorLine (path line : String) : Prop :=
  line = "Error: File not found: " ++ path ++ "\n" ∨ ∃ trouble, line = troubleLine path trouble

theorem attempt_failed_printed {path : String}
    (failed : (attempt host request tree path).Failed) :
    ∃ shown line, (attempt host request tree path).printed = shown ++ line ∧
      IsErrorLine path line := by
  cases present : tree.has path with
  | false =>
      rw [attempt_of_missing host request present]
      exact ⟨_, _, rfl, .inl rfl⟩
  | true =>
      obtain ⟨shown, made⟩ := attempt_of_found host request present
      rw [Attempt.Failed, made] at failed
      rw [made]
      generalize treatment host request tree path = outcome at failed ⊢
      rcases outcome with ⟨after, (trouble | _) | line⟩
      · exact ⟨_, _, (String.append_assoc ..).symm, .inr ⟨trouble, rfl⟩⟩
      · cases failed
      · cases failed

theorem attempts_cons_of_breakdown {path : String} {breakdown : Breakdown}
    (broke : (attempt host request tree path).breakdown? = some breakdown) (rest : List String) :
    attempts host request tree (path :: rest) = [attempt host request tree path] := by
  simp [attempts, broke]

theorem attempts_cons {path : String}
    (unbroken : (attempt host request tree path).breakdown? = none) (rest : List String) :
    attempts host request tree (path :: rest) = attempt host request tree path ::
      attempts host request (attempt host request tree path).after rest := by
  simp [attempts, unbroken]

theorem attempts_paths (host : Host) (request : Request) (tree : FileTree) (paths : List String) :
    (attempts host request tree paths).map Attempt.path <+: paths := by
  induction paths generalizing tree with
  | nil => exact List.prefix_rfl
  | cons path rest ih =>
      cases broke : (attempt host request tree path).breakdown? with
      | some breakdown =>
          rw [attempts_cons_of_breakdown broke]
          exact List.prefix_append [path] rest
      | none =>
          rw [attempts_cons broke]
          exact List.cons_prefix_cons.mpr ⟨rfl, ih _⟩

theorem breakdownOf?_cons (first : Attempt) (rest : List Attempt) :
    breakdownOf? (first :: rest) = first.breakdown?.or (breakdownOf? rest) := by
  rw [breakdownOf?, List.findSome?_cons]
  cases first.breakdown? <;> rfl

theorem attempts_paths_of_unbroken {paths : List String}
    (unbroken : breakdownOf? (attempts host request tree paths) = none) :
    (attempts host request tree paths).map Attempt.path = paths := by
  induction paths generalizing tree with
  | nil => rfl
  | cons path rest ih =>
      cases broke : (attempt host request tree path).breakdown? with
      | some breakdown =>
          rw [attempts_cons_of_breakdown broke, breakdownOf?_cons, broke] at unbroken
          cases unbroken
      | none =>
          rw [attempts_cons broke] at unbroken ⊢
          rw [breakdownOf?_cons, broke, Option.none_or] at unbroken
          rw [List.map_cons, ih unbroken]
          rfl

theorem attempts_append {front : List String}
    (unbroken : breakdownOf? (attempts host request tree front) = none) (back : List String) :
    attempts host request tree (front ++ back) =
      attempts host request tree front ++
        attempts host request (treeAfter tree (attempts host request tree front)) back := by
  induction front generalizing tree with
  | nil => rfl
  | cons path rest ih =>
      cases broke : (attempt host request tree path).breakdown? with
      | some breakdown =>
          rw [attempts_cons_of_breakdown broke, breakdownOf?_cons, broke] at unbroken
          cases unbroken
      | none =>
          rw [attempts_cons broke, breakdownOf?_cons, broke, Option.none_or] at unbroken
          rw [List.cons_append, attempts_cons broke, attempts_cons broke, ih unbroken]
          rfl

/-- A document whose attempt fails and leaves the files alone is no more to the others than if it
were not there. -/
theorem attempts_without_failed {front : List String} {path : String}
    (unbroken : breakdownOf? (attempts host request tree front) = none)
    (failed : (attempt host request
      (treeAfter tree (attempts host request tree front)) path).Failed)
    (unchanged : (attempt host request
      (treeAfter tree (attempts host request tree front)) path).after =
        treeAfter tree (attempts host request tree front))
    (back : List String) :
    ∃ later,
      attempts host request tree (front ++ back) = attempts host request tree front ++ later ∧
      attempts host request tree (front ++ path :: back) = attempts host request tree front ++
        attempt host request (treeAfter tree (attempts host request tree front)) path :: later := by
  have alone : (attempt host request
      (treeAfter tree (attempts host request tree front)) path).breakdown? = none := by
    rw [Attempt.breakdown?, failed]
  refine ⟨_, attempts_append unbroken back, ?_⟩
  rw [attempts_append unbroken, attempts_cons alone, unchanged]

/-- Every attempt is at a document of the batch, with the files that the attempts before it left. -/
theorem mem_attempts {paths : List String} {made : Attempt}
    (member : made ∈ attempts host request tree paths) :
    ∃ front back, paths = front ++ made.path :: back ∧
      breakdownOf? (attempts host request tree front) = none ∧
      made =
        attempt host request (treeAfter tree (attempts host request tree front)) made.path := by
  induction paths generalizing tree with
  | nil => cases member
  | cons path rest ih =>
      cases broke : (attempt host request tree path).breakdown? with
      | some breakdown =>
          rw [attempts_cons_of_breakdown broke] at member
          obtain rfl := List.mem_singleton.mp member
          exact ⟨[], rest, rfl, rfl, rfl⟩
      | none =>
          rw [attempts_cons broke] at member
          rcases List.mem_cons.mp member with rfl | later
          · exact ⟨[], rest, rfl, rfl, rfl⟩
          · obtain ⟨front, back, rfl, unbroken, same⟩ := ih later
            refine ⟨path :: front, back, rfl, ?_, ?_⟩
            · rw [attempts_cons broke, breakdownOf?_cons, broke, Option.none_or, unbroken]
            · rw [attempts_cons broke]
              exact same

def Progress.record (progress : Progress) (made : Attempt) : Progress where
  printed := progress.printed ++ made.printed
  tree := made.after
  succeeded := progress.succeeded + [made].countP Attempt.succeeded
  breakdown := made.breakdown?

theorem processFiles_cons {progress : Progress} (unbroken : progress.breakdown = none)
    (path : String) (rest : List String) :
    processFiles host request progress (path :: rest) =
      if (attempt host request progress.tree path).breakdown?.isSome then
        progress.record (attempt host request progress.tree path)
      else
        processFiles host request (progress.record (attempt host request progress.tree path))
          rest := by
  obtain ⟨printed, tree, succeeded, breakdown⟩ := progress
  obtain rfl : breakdown = none := unbroken
  rw [processFiles]
  rcases outcome : (processFile host request (targetOf request tree path).1 tree path).result with
    reason | (_ | _) <;>
    simp [Progress.record, attempt, Attempt.succeeded, Attempt.breakdown?, outcome,
      String.append_assoc]

theorem processFiles_eq {progress : Progress} (unbroken : progress.breakdown = none)
    (paths : List String) :
    processFiles host request progress paths =
      let made := attempts host request progress.tree paths
      ⟨progress.printed ++ printedBy made, treeAfter progress.tree made,
        progress.succeeded + made.countP Attempt.succeeded, breakdownOf? made⟩ := by
  induction paths generalizing progress with
  | nil =>
      obtain ⟨printed, tree, succeeded, breakdown⟩ := progress
      obtain rfl : breakdown = none := unbroken
      simp [processFiles, attempts, printedBy, treeAfter, breakdownOf?]
  | cons path rest ih =>
      rw [processFiles_cons unbroken]
      cases broke : (attempt host request progress.tree path).breakdown? with
      | some breakdown =>
          rw [attempts_cons_of_breakdown broke]
          simp [Progress.record, printedBy, treeAfter, breakdownOf?, broke]
      | none =>
          rw [attempts_cons broke, if_neg (by simp), ih broke]
          simp only [Progress.record, printedBy, List.map_cons, String.join_cons,
            String.append_assoc, treeAfter, List.foldl_cons, breakdownOf?_cons, broke,
            Option.none_or, List.countP_cons, List.countP_nil]
          simp [Nat.add_comm, Nat.add_left_comm]

end Vignette.Batch
