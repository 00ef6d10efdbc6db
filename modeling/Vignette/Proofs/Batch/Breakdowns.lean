import Vignette.Proofs.Batch.Attempts
import Vignette.Proofs.Drawing.Faults
import Vignette.Proofs.Files

namespace Vignette.Batch

/-! What becomes of the documents of a batch. One that cannot be found, read or saved is reported,
and the next one is taken up. But arithmetic that leads nowhere ends the batch, and so does a host
that cannot go on, so that the documents behind are not attempted. -/

variable {host : Host} {request : Request} {tree : FileTree} {path : String}

/-! ### Reading -/

/-- Whether a path leads to a file that holds a text, and the host can read it. -/
def Holds (host : Host) (tree : FileTree) (path text : String) : Prop :=
  ∃ bytes, tree.read path = .ok bytes ∧ host.readingLimit? bytes = none ∧
    Text.decode bytes = .ok text

theorem load_of_read {bytes : List UInt8} (read : tree.read path = .ok bytes) :
    load host tree path = host.read bytes := by
  rw [load, read]
  rfl

theorem Host.read_of_limit {bytes : List UInt8} {setback : Setback}
    (short : host.readingLimit? bytes = some setback) : host.read bytes = .error setback := by
  rw [Host.read, short]

theorem Host.read_of_decoded {bytes : List UInt8} {text : String}
    (unlimited : host.readingLimit? bytes = none) (decoded : Text.decode bytes = .ok text) :
    host.read bytes = (Document.read text).mapError .ofDocument := by
  rw [Host.read, unlimited]
  dsimp only
  rw [decoded]
  rfl

theorem Host.read_of_undecoded {bytes : List UInt8} {fault : Text.DecodingFault}
    (unlimited : host.readingLimit? bytes = none) (undecoded : Text.decode bytes = .error fault) :
    host.read bytes = .error (.trouble (.bytes fault)) := by
  rw [Host.read, unlimited]
  dsimp only
  rw [undecoded]
  rfl

theorem Holds.load_eq {text : String} (holds : Holds host tree path text) :
    load host tree path = (Document.read text).mapError .ofDocument := by
  obtain ⟨bytes, read, unlimited, decoded⟩ := holds
  rw [load_of_read read, Host.read_of_decoded unlimited decoded]

/-- A document is read from a text, unless the host has come to its limits or there is trouble with
the file. -/
theorem load_cases (host : Host) (tree : FileTree) (path : String) :
    (∃ text, Holds host tree path text) ∨
      (∃ bytes setback, tree.read path = .ok bytes ∧ host.readingLimit? bytes = some setback ∧
        load host tree path = .error setback) ∨
      ∃ trouble, load host tree path = .error (.trouble trouble) := by
  cases read : tree.read path with
  | error fault => exact .inr (.inr ⟨.file fault, by rw [load, read]; rfl⟩)
  | ok bytes =>
      rw [load_of_read read]
      cases limit : host.readingLimit? bytes with
      | some setback =>
          exact .inr (.inl ⟨bytes, setback, rfl, limit, Host.read_of_limit limit⟩)
      | none =>
          cases decoded : Text.decode bytes with
          | ok text => exact .inl ⟨text, bytes, read, limit, decoded⟩
          | error fault =>
              exact .inr (.inr ⟨.bytes fault, Host.read_of_undecoded limit decoded⟩)

theorem read_eq_fault {text : String} {reason : Fault} :
    Document.read text = .error (.markup (.fault reason)) ↔
      Markup.parse text = .error (.fault reason) := by
  rw [Document.read]
  cases Markup.parse text with
  | error unreadable => simp
  | ok root =>
      simp only [reduceCtorEq, iff_false]
      cases Document.ofTree root <;> intro failed <;> cases failed

variable {document : Document}

/-- A document is loaded exactly if it is read from the text of its file. -/
theorem load_eq_ok_iff :
    load host tree path = .ok document ↔
      ∃ text, Holds host tree path text ∧ Document.read text = .ok document := by
  constructor
  · intro loaded
    rcases load_cases host tree path with ⟨text, holds⟩ | ⟨_, setback, _, _, short⟩ |
      ⟨trouble, refused⟩
    · rw [holds.load_eq] at loaded
      cases read : Document.read text with
      | error fault => rw [read] at loaded; cases loaded
      | ok found =>
          rw [read] at loaded
          obtain rfl := Except.ok.inj loaded
          exact ⟨text, holds, read⟩
    · rw [short] at loaded
      cases loaded
    · rw [refused] at loaded
      cases loaded
  · rintro ⟨text, holds, read⟩
    rw [holds.load_eq, read]
    rfl

/-- Loading a document ends the batch exactly if the host comes to its limits or a number in the
markup has too many digits. -/
theorem load_broke_iff :
    (∃ breakdown, load host tree path = .error (.breakdown breakdown)) ↔
      (∃ bytes breakdown, tree.read path = .ok bytes ∧
        host.readingLimit? bytes = some (.breakdown breakdown)) ∨
      ∃ text reason, Holds host tree path text ∧
        Markup.parse text = .error (.fault reason) := by
  constructor
  · rintro ⟨breakdown, broke⟩
    rcases load_cases host tree path with ⟨text, holds⟩ | ⟨bytes, setback, read, limit, short⟩ |
      ⟨trouble, refused⟩
    · rw [holds.load_eq] at broke
      rcases read : Document.read text with ((_ | reason) | fault) | document
      · rw [read] at broke; cases broke
      · exact .inr ⟨text, reason, holds, read_eq_fault.mp read⟩
      · rw [read] at broke; cases broke
      · rw [read] at broke; cases broke
    · obtain rfl := Except.error.inj (short.symm.trans broke)
      exact .inl ⟨bytes, breakdown, read, limit⟩
    · cases refused.symm.trans broke
  · rintro (⟨bytes, breakdown, read, short⟩ | ⟨text, reason, holds, overlong⟩)
    · exact ⟨breakdown, by rw [load_of_read read, Host.read_of_limit short]⟩
    · exact ⟨.fault reason, by rw [holds.load_eq, read_eq_fault.mpr overlong]; rfl⟩

/-! ### Drawing -/

variable {options : Options} {picture : Picture}

theorem Host.draw_of_limit {setback : Setback}
    (short : host.drawingLimit? document options = some setback) :
    host.draw document options = .error setback := by
  rw [Host.draw, short]

theorem Host.draw_of_unlimited (unlimited : host.drawingLimit? document options = none) :
    host.draw document options =
      (document.pictureIn (host.typeface document.width document.height) options).mapError
        fun reason => .breakdown (.fault reason) := by
  rw [Host.draw, unlimited]

theorem undrawn_iff (host : Host) {text : String} (read : Document.read text = .ok document)
    (options : Options) :
    (∃ breakdown, host.draw document options = .error (.breakdown breakdown)) ↔
      (∃ breakdown, host.drawingLimit? document options = some (.breakdown breakdown)) ∨
        host.drawingLimit? document options = none ∧
          (Canvas.isTooLarge document.width document.height = true ∨
            ¬ document.Drawable options.mode) := by
  cases limit : host.drawingLimit? document options with
  | some setback => simp [Host.draw_of_limit limit]
  | none =>
      have succeeds := Document.pictureIn_succeeds
        (host.typeface document.width document.height) (Document.scope_of_read read) options
      rw [Host.draw_of_unlimited limit, ← Bool.not_eq_false, ← not_and_or, ← succeeds]
      cases document.pictureIn (host.typeface document.width document.height) options <;>
        simp [Except.mapError]

/-- Whether a path leads to a document that the host draws as a picture. -/
def Renders (host : Host) (request : Request) (tree : FileTree) (path : String)
    (picture : Picture) : Prop :=
  ∃ text document, Holds host tree path text ∧ Document.read text = .ok document ∧
    host.draw document request.options = .ok picture

/-! ### Saving -/

/-- Whether a path takes PNG data: its name says that it holds them, and it leads into a directory
without being one. -/
structure TakesPng (tree : FileTree) (path : String) : Prop where
  named : namesPng path = true
  free : ∃ place, tree.place path = .ok place ∧ tree.refusal? place = none

def Host.SavesPng (host : Host) : Prop :=
  ∀ tree path picture, TakesPng tree path → (host.save tree path picture).2 = none

theorem savesPng_bare : Host.bare.SavesPng := by
  rintro tree path picture ⟨named, place, leads, free⟩
  have saved : tree.save path (.picture picture (Png.encode picture)) = .ok _ :=
    FileTree.save_eq_ok.mpr ⟨place, leads, free, rfl⟩
  change (savePng tree path picture).2 = none
  rw [savePng, if_pos named, saved]

/-! ### Treating a document -/

theorem treatment_of_unread {setback : Setback}
    (unread : load host tree path = .error setback) :
    treatment host request tree path = (tree, .error setback) := by
  rw [treatment, unread]

theorem treatment_of_loaded (loaded : load host tree path = .ok document) :
    treatment host request tree path =
      processDocument host request (targetFor request tree path) tree path document := by
  rw [treatment, loaded]

theorem processDocument_of_checkOnly (host : Host) (target : String) (tree : FileTree)
    (path : String) (document : Document) (checked : request.checkOnly = true) :
    ∃ line, processDocument host request target tree path document = (tree, .ok line) := by
  rw [processDocument, if_pos checked]
  exact ⟨_, rfl⟩

theorem processDocument_of_undrawn {target : String} {setback : Setback}
    (rendered : request.checkOnly = false)
    (undrawn : host.draw document request.options = .error setback) :
    processDocument host request target tree path document = (tree, .error setback) := by
  rw [processDocument, if_neg (by simp [rendered]), undrawn]

theorem processDocument_of_drawn {target : String} (rendered : request.checkOnly = false)
    (drawn : host.draw document request.options = .ok picture) :
    processDocument host request target tree path document =
      ((host.save tree target picture).1,
        match (host.save tree target picture).2 with
        | some setback => .error setback
        | none => .ok (successLine request path target)) := by
  rw [processDocument, if_neg (by simp [rendered]), drawn]
  dsimp only
  rcases host.save tree target picture with ⟨after, _ | setback⟩ <;> rfl

/-- What a document that can be read has to be for its treatment to succeed. -/
inductive Fulfilled (host : Host) (request : Request) (tree : FileTree) (path : String)
    (document : Document) : Prop where
  | checked (checkOnly : request.checkOnly = true)
  | rendered {picture : Picture} (rendered : request.checkOnly = false)
    (drawn : host.draw document request.options = .ok picture)
    (kept : (host.save tree (targetFor request tree path) picture).2 = none)

theorem processDocument_ok_iff :
    (∃ line, (processDocument host request (targetFor request tree path) tree path document).2 =
        .ok line) ↔
      Fulfilled host request tree path document := by
  constructor
  · rintro ⟨line, done⟩
    cases checked : request.checkOnly with
    | true => exact .checked checked
    | false =>
        cases drawn : host.draw document request.options with
        | error setback => rw [processDocument_of_undrawn checked drawn] at done; cases done
        | ok picture =>
            rw [processDocument_of_drawn checked drawn] at done
            cases kept : (host.save tree (targetFor request tree path) picture).2 with
            | some setback => rw [kept] at done; cases done
            | none => exact .rendered checked drawn kept
  · rintro (checkOnly | ⟨rendered, drawn, kept⟩)
    · obtain ⟨line, done⟩ := processDocument_of_checkOnly host (targetFor request tree path) tree
        path document checkOnly
      exact ⟨line, by rw [done]⟩
    · rw [processDocument_of_drawn rendered drawn, kept]
      exact ⟨_, rfl⟩

theorem treatment_ok_iff :
    (∃ line, (treatment host request tree path).2 = .ok line) ↔
      ∃ text document, Holds host tree path text ∧ Document.read text = .ok document ∧
        Fulfilled host request tree path document := by
  constructor
  · rintro ⟨line, done⟩
    cases loaded : load host tree path with
    | error setback => rw [treatment_of_unread loaded] at done; cases done
    | ok document =>
        rw [treatment_of_loaded loaded] at done
        obtain ⟨text, holds, read⟩ := load_eq_ok_iff.mp loaded
        exact ⟨text, document, holds, read, processDocument_ok_iff.mp ⟨line, done⟩⟩
  · rintro ⟨text, document, holds, read, fulfilled⟩
    rw [treatment_of_loaded (load_eq_ok_iff.mpr ⟨text, holds, read⟩)]
    exact processDocument_ok_iff.mpr fulfilled

/-- Files change only where a picture is saved. -/
theorem treatment_after (host : Host) (request : Request) (tree : FileTree) (path : String) :
    (treatment host request tree path).1 = tree ∨ ∃ picture, request.checkOnly = false ∧
      Renders host request tree path picture ∧ (treatment host request tree path).1 =
        (host.save tree (targetFor request tree path) picture).1 := by
  cases loaded : load host tree path with
  | error setback => exact .inl (by rw [treatment_of_unread loaded])
  | ok document =>
      rw [treatment_of_loaded loaded]
      cases checked : request.checkOnly with
      | true =>
          obtain ⟨line, done⟩ := processDocument_of_checkOnly host (targetFor request tree path)
            tree path document checked
          exact .inl (by rw [done])
      | false =>
          cases drawn : host.draw document request.options with
          | error setback => exact .inl (by rw [processDocument_of_undrawn checked drawn])
          | ok picture =>
              rw [processDocument_of_drawn checked drawn]
              obtain ⟨text, holds, read⟩ := load_eq_ok_iff.mp loaded
              exact .inr ⟨picture, rfl, ⟨text, document, holds, read, drawn⟩, rfl⟩

/-- What makes a document end the batch: the host cannot read or draw it to its end, a number in its
markup has too many digits, its picture is too large to have a size in bytes, a color cannot be read
or a path cannot be flattened, or the host cannot save the picture, which then does not go where PNG
data can be written. -/
inductive Spoils (host : Host) (request : Request) (tree : FileTree) (path : String) : Prop where
  | reading {bytes : List UInt8} {breakdown : Breakdown} (read : tree.read path = .ok bytes)
    (short : host.readingLimit? bytes = some (.breakdown breakdown))
  | markup {text : String} {reason : Fault} (holds : Holds host tree path text)
    (overlong : Markup.parse text = .error (.fault reason))
  | limit {text : String} {document : Document} {breakdown : Breakdown}
    (holds : Holds host tree path text) (read : Document.read text = .ok document)
    (rendered : request.checkOnly = false)
    (short : host.drawingLimit? document request.options = some (.breakdown breakdown))
  | size {text : String} {document : Document} (holds : Holds host tree path text)
    (read : Document.read text = .ok document) (rendered : request.checkOnly = false)
    (unlimited : host.drawingLimit? document request.options = none)
    (large : Canvas.isTooLarge document.width document.height = true)
  | drawing {text : String} {document : Document} (holds : Holds host tree path text)
    (read : Document.read text = .ok document) (rendered : request.checkOnly = false)
    (unlimited : host.drawingLimit? document request.options = none)
    (undrawable : ¬ document.Drawable request.options.mode)
  | saving {picture : Picture} {breakdown : Breakdown} (rendered : request.checkOnly = false)
    (drawn : Renders host request tree path picture)
    (refused : (host.save tree (targetFor request tree path) picture).2 =
      some (.breakdown breakdown))
    (unfit : ¬ TakesPng tree (targetFor request tree path))

theorem processDocument_broke_iff {target : String} :
    (∃ breakdown, (processDocument host request target tree path document).2 =
        .error (.breakdown breakdown)) ↔
      request.checkOnly = false ∧
        ((∃ breakdown, host.draw document request.options = .error (.breakdown breakdown)) ∨
          ∃ picture breakdown, host.draw document request.options = .ok picture ∧
            (host.save tree target picture).2 = some (.breakdown breakdown)) := by
  cases checked : request.checkOnly with
  | true =>
      obtain ⟨line, done⟩ := processDocument_of_checkOnly host target tree path document checked
      simp [done]
  | false =>
      cases drawn : host.draw document request.options with
      | error setback => simp [processDocument_of_undrawn checked drawn]
      | ok picture =>
          rw [processDocument_of_drawn checked drawn]
          simp only [true_and, reduceCtorEq, exists_false, false_or, Except.ok.injEq,
            exists_and_left, exists_eq_left']
          cases (host.save tree target picture).2 <;> simp

theorem treatment_broke_iff (saves : host.SavesPng) :
    (∃ breakdown, (treatment host request tree path).2 = .error (.breakdown breakdown)) ↔
      Spoils host request tree path := by
  constructor
  · rintro ⟨breakdown, broke⟩
    cases loaded : load host tree path with
    | error setback =>
        rw [treatment_of_unread loaded] at broke
        obtain rfl := Except.error.inj broke
        rcases load_broke_iff.mp ⟨breakdown, loaded⟩ with ⟨bytes, _, read, short⟩ |
          ⟨text, reason, holds, overlong⟩
        · exact .reading read short
        · exact .markup holds overlong
    | ok document =>
        rw [treatment_of_loaded loaded] at broke
        obtain ⟨text, holds, read⟩ := load_eq_ok_iff.mp loaded
        obtain ⟨rendered, undrawn | ⟨picture, _, drawn, refused⟩⟩ :=
          processDocument_broke_iff.mp ⟨breakdown, broke⟩
        · rcases (undrawn_iff host read _).mp undrawn with ⟨_, short⟩ |
            ⟨unlimited, large | undrawable⟩
          · exact .limit holds read rendered short
          · exact .size holds read rendered unlimited large
          · exact .drawing holds read rendered unlimited undrawable
        · refine .saving rendered ⟨text, document, holds, read, drawn⟩ refused fun fit => ?_
          rw [saves _ _ picture fit] at refused
          cases refused
  · have unloaded (broke : ∃ breakdown, load host tree path = .error (.breakdown breakdown)) :
        ∃ breakdown, (treatment host request tree path).2 = .error (.breakdown breakdown) := by
      obtain ⟨breakdown, unread⟩ := broke
      exact ⟨breakdown, by rw [treatment_of_unread unread]⟩
    have undrawn {text : String} {document : Document} (holds : Holds host tree path text)
        (read : Document.read text = .ok document) (rendered : request.checkOnly = false)
        (cause : (∃ breakdown, host.drawingLimit? document request.options =
            some (.breakdown breakdown)) ∨
          host.drawingLimit? document request.options = none ∧
            (Canvas.isTooLarge document.width document.height = true ∨
              ¬ document.Drawable request.options.mode)) :
        ∃ breakdown, (treatment host request tree path).2 = .error (.breakdown breakdown) := by
      rw [treatment_of_loaded (load_eq_ok_iff.mpr ⟨text, holds, read⟩)]
      exact processDocument_broke_iff.mpr ⟨rendered, .inl ((undrawn_iff host read _).mpr cause)⟩
    rintro (⟨read, short⟩ | ⟨holds, overlong⟩ | ⟨holds, read, rendered, short⟩ |
      ⟨holds, read, rendered, unlimited, large⟩ | ⟨holds, read, rendered, unlimited, undrawable⟩ |
      ⟨rendered, ⟨text, document, holds, read, drawn⟩, refused, _⟩)
    · exact unloaded (load_broke_iff.mpr (.inl ⟨_, _, read, short⟩))
    · exact unloaded (load_broke_iff.mpr (.inr ⟨_, _, holds, overlong⟩))
    · exact undrawn holds read rendered (.inl ⟨_, short⟩)
    · exact undrawn holds read rendered (.inr ⟨unlimited, .inl large⟩)
    · exact undrawn holds read rendered (.inr ⟨unlimited, .inr undrawable⟩)
    · rw [treatment_of_loaded (load_eq_ok_iff.mpr ⟨text, holds, read⟩)]
      exact processDocument_broke_iff.mpr ⟨rendered, .inr ⟨_, _, drawn, refused⟩⟩

/-! ### Whole batches -/

theorem attempt_of_mem {paths : List String} {made : Attempt}
    (member : made ∈ attempts host request tree paths) :
    made = attempt host request made.before made.path := by
  obtain ⟨front, back, _, _, same⟩ := mem_attempts member
  rw [same]
  rfl

theorem breakdown?_iff_spoils (saves : host.SavesPng) {paths : List String} {made : Attempt}
    (member : made ∈ attempts host request tree paths) :
    (∃ breakdown, made.breakdown? = some breakdown) ↔
      Spoils host request made.before made.path := by
  rw [← treatment_broke_iff saves]
  refine exists_congr fun breakdown => ?_
  rw [← attempt_broke_iff, ← attempt_of_mem member, Attempt.breakdown?]
  cases made.result <;> simp

theorem breakdownOf?_iff_spoils (saves : host.SavesPng) (request : Request) (tree : FileTree)
    (paths : List String) :
    (∃ breakdown, breakdownOf? (attempts host request tree paths) = some breakdown) ↔
      ∃ made ∈ attempts host request tree paths, Spoils host request made.before made.path := by
  simp only [breakdownOf?, ← Option.isSome_iff_exists, List.findSome?_isSome_iff]
  refine exists_congr fun made => and_congr_right fun member => ?_
  rw [Option.isSome_iff_exists, breakdown?_iff_spoils saves member]

/-- A batch whose arguments make sense, told by its attempts. -/
structure Outcome.Accounts (outcome : Outcome) (host : Host) (request : Request)
    (tree : FileTree) : Prop where
  order : (attempts host request tree request.files).map Attempt.path <+: request.files
  files : outcome.tree = treeAfter tree (attempts host request tree request.files)
  /-- An attempt succeeds if its document can be read, drawn and saved. -/
  succeeded : ∀ made ∈ attempts host request tree request.files,
    made.succeeded = true ↔ ∃ text document, Holds host made.before made.path text ∧
      Document.read text = .ok document ∧ Fulfilled host request made.before made.path document
  /-- A picture that goes where PNG data can be written is saved there. -/
  saved : ∀ made ∈ attempts host request tree request.files, ∀ picture,
    request.checkOnly = false → Renders host request made.before made.path picture →
      TakesPng made.before (targetFor request made.before made.path) → made.succeeded = true
  /-- An attempt that neither succeeds nor ends the batch is reported. -/
  failed : ∀ made ∈ attempts host request tree request.files, made.succeeded = false →
    ¬ Spoils host request made.before made.path →
      ∃ shown line, made.printed = shown ++ line ∧ IsErrorLine made.path line
  /-- An attempt leaves the files alone, unless it saves the picture of its document. -/
  changed : ∀ made ∈ attempts host request tree request.files,
    made.after = made.before ∨ ∃ picture, request.checkOnly = false ∧
      Renders host request made.before made.path picture ∧
        made.after = (host.save made.before (targetFor request made.before made.path) picture).1
  /-- The other attempts are the same without one whose document cannot be read or drawn. -/
  apart : ∀ front path back before, request.files = front ++ path :: back →
    breakdownOf? (attempts host request tree front) = none →
    before = treeAfter tree (attempts host request tree front) →
    (attempt host request before path).Failed →
    (∀ picture, ¬ Renders host request before path picture) →
      ∃ later,
        attempts host request tree (front ++ back) =
          attempts host request tree front ++ later ∧
        attempts host request tree request.files = attempts host request tree front ++
          attempt host request before path :: later
  broken : (∃ breakdown, outcome.code = .error breakdown) ↔
    ∃ made ∈ attempts host request tree request.files, Spoils host request made.before made.path
  finished : (∀ made ∈ attempts host request tree request.files,
      ¬ Spoils host request made.before made.path) →
    (attempts host request tree request.files).map Attempt.path = request.files ∧
      outcome.code = .ok (if (attempts host request tree request.files).all Attempt.succeeded
        then 0 else 1) ∧
      outcome.printed = printedBy (attempts host request tree request.files) ++ ("\nProcessed " ++
        toString ((attempts host request tree request.files).countP Attempt.succeeded) ++ "/" ++
          toString request.files.length ++ " file(s) successfully\n")

theorem runRequest_of_broken {breakdown : Breakdown}
    (broke : breakdownOf? (attempts host request tree request.files) = some breakdown) :
    runRequest host request tree =
      ⟨.error breakdown, printedBy (attempts host request tree request.files),
        treeAfter tree (attempts host request tree request.files)⟩ := by
  rw [runRequest, processFiles_eq rfl]
  simp [broke]

theorem runRequest_of_unbroken
    (unbroken : breakdownOf? (attempts host request tree request.files) = none) :
    runRequest host request tree =
      ⟨.ok (if (attempts host request tree request.files).all Attempt.succeeded then 0 else 1),
        printedBy (attempts host request tree request.files) ++ ("\nProcessed " ++
          toString ((attempts host request tree request.files).countP Attempt.succeeded) ++ "/" ++
            toString request.files.length ++ " file(s) successfully\n"),
        treeAfter tree (attempts host request tree request.files)⟩ := by
  have many : (attempts host request tree request.files).length = request.files.length := by
    rw [← List.length_map Attempt.path, attempts_paths_of_unbroken unbroken]
  have all : (attempts host request tree request.files).countP Attempt.succeeded =
      request.files.length ↔
        (attempts host request tree request.files).all Attempt.succeeded = true := by
    rw [← many, List.countP_eq_length, List.all_eq_true]
  rw [runRequest, processFiles_eq rfl]
  simp [unbroken, ← all]

theorem run_of_asked (host : Host) {arguments : List String}
    (asked : Request.ofArguments arguments = .ok request) (tree : FileTree) :
    run host arguments tree = runRequest host request tree := by
  cases arguments with
  | nil => cases asked
  | cons argument rest => rw [run, if_neg (by simp), asked]

theorem runRequest_files (host : Host) (request : Request) (tree : FileTree) :
    (runRequest host request tree).tree =
      treeAfter tree (attempts host request tree request.files) := by
  cases broke : breakdownOf? (attempts host request tree request.files) with
  | some breakdown => rw [runRequest_of_broken broke]
  | none => rw [runRequest_of_unbroken broke]

theorem attempt_changed (host : Host) (request : Request) (tree : FileTree) (path : String) :
    (attempt host request tree path).after = tree ∨ ∃ picture, request.checkOnly = false ∧
      Renders host request tree path picture ∧ (attempt host request tree path).after =
        (host.save tree (targetFor request tree path) picture).1 := by
  rw [attempt_after]
  exact treatment_after host request tree path

theorem attempt_unchanged (undrawn : ∀ picture, ¬ Renders host request tree path picture) :
    (attempt host request tree path).after = tree := by
  rcases attempt_changed host request tree path with unchanged | ⟨picture, _, renders, _⟩
  · exact unchanged
  · exact absurd renders (undrawn picture)

theorem attempt_succeeded_of_png (saves : host.SavesPng) (rendered : request.checkOnly = false)
    (renders : Renders host request tree path picture)
    (fit : TakesPng tree (targetFor request tree path)) :
    (attempt host request tree path).succeeded = true := by
  obtain ⟨text, document, holds, read, drawn⟩ := renders
  exact attempt_succeeded_iff.mpr (treatment_ok_iff.mpr
    ⟨text, document, holds, read, .rendered rendered drawn (saves _ _ picture fit)⟩)

theorem runRequest_accounts (saves : host.SavesPng) (request : Request) (tree : FileTree) :
    (runRequest host request tree).Accounts host request tree where
  order := attempts_paths host request tree request.files
  files := runRequest_files host request tree
  succeeded made member := by
    rw [← treatment_ok_iff, ← attempt_succeeded_iff, ← attempt_of_mem member]
  saved made member picture rendered renders fit := by
    rw [attempt_of_mem member]
    exact attempt_succeeded_of_png saves rendered renders fit
  failed made member unsaved unspoilt := by
    rcases made.outcome_cases with ⟨saved, _⟩ | ⟨failed, _⟩ | ⟨_, broke⟩
    · rw [unsaved] at saved; cases saved
    · rw [attempt_of_mem member] at failed ⊢
      exact attempt_failed_printed failed
    · exact absurd ((breakdown?_iff_spoils saves member).mp broke) unspoilt
  changed made member := by
    have changed := attempt_changed host request made.before made.path
    rwa [← attempt_of_mem member] at changed
  apart front path back before whole unbroken reached failed undrawn := by
    subst reached
    obtain ⟨later, without, within⟩ := attempts_without_failed unbroken failed
      (attempt_unchanged undrawn) back
    exact ⟨later, without, whole ▸ within⟩
  broken := by
    rw [← breakdownOf?_iff_spoils saves]
    cases broke : breakdownOf? (attempts host request tree request.files) with
    | some breakdown => simp [runRequest_of_broken broke]
    | none => simp [runRequest_of_unbroken broke]
  finished unspoilt := by
    have unbroken : breakdownOf? (attempts host request tree request.files) = none := by
      rw [Option.eq_none_iff_forall_ne_some]
      intro breakdown broke
      obtain ⟨made, member, spoils⟩ :=
        (breakdownOf?_iff_spoils saves request tree request.files).mp ⟨breakdown, broke⟩
      exact unspoilt made member spoils
    refine ⟨attempts_paths_of_unbroken unbroken, ?_⟩
    rw [runRequest_of_unbroken unbroken]
    exact ⟨rfl, rfl⟩

/-- A batch prints how it is used if there are no arguments, and gives up if they make no sense. It
attempts its documents in order, reports those that fail, and comes to its end unless a document
spoils it. -/
theorem run_accounts (saves : host.SavesPng) (arguments : List String) (tree : FileTree) :
    arguments = [] ∧ run host arguments tree = ⟨.ok 0, usage, tree⟩ ∨
      (∃ fault, arguments ≠ [] ∧ Request.ofArguments arguments = .error fault ∧
        run host arguments tree = ⟨.ok 2, fault.message ++ "\n", tree⟩) ∨
      ∃ request, Request.ofArguments arguments = .ok request ∧
        (run host arguments tree).Accounts host request tree := by
  cases asked : Request.ofArguments arguments with
  | ok request =>
      rw [run_of_asked host asked]
      exact .inr (.inr ⟨request, rfl, runRequest_accounts saves request tree⟩)
  | error fault =>
      cases arguments with
      | nil => exact .inl ⟨rfl, rfl⟩
      | cons argument rest =>
          rw [run, if_neg (by simp), asked]
          exact .inr (.inl ⟨fault, by simp, rfl, rfl⟩)

/-- A document whose only shape has an infinite number in its color, and one without shapes. -/
def overbright : String := "<svg viewBox=\"0 0 1 1\"><rect fill=\"rgb(1e999,0,0)\"/></svg>"

def empty : String := "<svg viewBox=\"0 0 1 1\"/>"

def fileOf (name text : String) : List String × Entry := ([name], .file text.toUTF8.toList)

def desk : FileTree :=
  ⟨[fileOf "bad.svg" overbright, fileOf "good.svg" empty, fileOf "note.txt" "no picture"]⟩

/-- A text without a root fails alone. -/
theorem run_accounts_note : ∃ request,
    Request.ofArguments ["note.txt", "good.svg"] = .ok request ∧
    (run .bare ["note.txt", "good.svg"] desk).Accounts .bare request desk ∧
    (attempts .bare request desk request.files).map Attempt.path = ["note.txt", "good.svg"] ∧
    (run .bare ["note.txt", "good.svg"] desk).code = .ok 1 := by
  have asked : (Request.ofArguments ["note.txt", "good.svg"]).map Request.files =
      .ok ["note.txt", "good.svg"] := by decide +kernel
  have code : (run .bare ["note.txt", "good.svg"] desk).code = .ok 1 := by decide +kernel
  rcases run_accounts savesPng_bare ["note.txt", "good.svg"] desk with ⟨none, _⟩ |
    ⟨fault, _, refused, _⟩ | ⟨request, read, accounts⟩
  · cases none
  · rw [refused] at asked; cases asked
  · rw [read] at asked
    have files : request.files = ["note.txt", "good.svg"] := Except.ok.inj asked
    refine ⟨request, read, accounts, ?_, code⟩
    have unspoilt : ∀ made ∈ attempts .bare request desk request.files,
        ¬ Spoils .bare request made.before made.path := by
      intro made member spoils
      obtain ⟨breakdown, broke⟩ := accounts.broken.mpr ⟨made, member, spoils⟩
      rw [code] at broke
      cases broke
    rw [(accounts.finished unspoilt).1, files]

/-- A color beyond all numbers ends the batch: nothing is printed about its document, and the next
one is not attempted, although it succeeds alone. -/
theorem run_overbright :
    (run .bare ["bad.svg", "good.svg"] desk).code = .error (.fault .tooLarge) ∧
      (run .bare ["bad.svg", "good.svg"] desk).printed = "" ∧
      (run .bare ["bad.svg", "good.svg"] desk).tree.pictures = [] ∧
      (run .bare ["good.svg"] desk).code = .ok 0 ∧
      (run .bare ["good.svg"] desk).tree.pictures.map Prod.fst = [["good.png"]] := by
  decide +kernel

end Vignette.Batch
