import Mathlib.Data.List.Nodup
import Mathlib.Data.List.Perm.Subperm
import Vignette.Proofs.Batch.Breakdowns
import Vignette.Proofs.Files

namespace Vignette

/-! Where the pictures of a batch are afterwards. Each document is read as it was at the start, and
its picture is saved; but the picture of a document behind it goes to the same place if their names
without directory and extension agree, and then it is lost. -/

namespace FileTree

def EndsInPng (place : List String) : Prop :=
  ∃ directory name, place = directory ++ [name] ∧ ".png".toList <:+ name.toList

structure WithoutImages (tree : FileTree) : Prop where
  files : ∀ place bytes, tree.at? place = some (.file bytes) → ¬ EndsInPng place
  pictures : ∀ place picture bytes, tree.at? place ≠ some (.picture picture bytes)

/-- Whether a tree differs from an earlier one by images only. -/
structure Later (tree later : FileTree) : Prop where
  directories : SameDirectories tree later
  elsewhere : ∀ place, ¬ EndsInPng place → later.at? place = tree.at? place

variable {tree later : FileTree} {path : String} {target : List String}

theorem endsInPng_snoc (inside : List String) (name : String) :
    EndsInPng (inside ++ [name]) ↔ ".png".toList <:+ name.toList := by
  constructor
  · rintro ⟨directory, other, same, ends⟩
    obtain ⟨_, last⟩ := List.append_inj' same rfl
    obtain rfl := (List.cons.inj last).1
    exact ends
  · exact fun ends => ⟨inside, name, rfl, ends⟩

theorem withoutImages_of_entries (plain : ∀ entry ∈ tree.entries, ¬ EndsInPng entry.1 ∧
    ∀ picture bytes, entry.2 ≠ .picture picture bytes) : tree.WithoutImages := by
  have listed {place : List String} {entry : Entry} (stands : tree.at? place = some entry)
      (other : entry ≠ .directory) : (place, entry) ∈ tree.entries := by
    rw [at?] at stands
    split at stands
    · exact absurd (Option.some.inj stands).symm other
    · obtain ⟨found, first, rfl⟩ := Option.map_eq_some_iff.mp stands
      have same : found.1 = place := by simpa using List.find?_some first
      exact same ▸ List.mem_of_find?_eq_some first
  exact ⟨fun place bytes stands => (plain _ (listed stands (by simp))).1,
    fun place picture bytes stands => (plain _ (listed stands (by simp))).2 picture bytes rfl⟩

theorem Later.refl (tree : FileTree) : Later tree tree := ⟨fun _ => Iff.rfl, fun _ _ => rfl⟩

theorem Later.put (since : Later tree later) (ends : EndsInPng target)
    (undirected : later.at? target ≠ some .directory) {entry : Entry}
    (file : entry ≠ .directory) : Later tree (later.put target entry) where
  directories := since.directories.trans (sameDirectories_put undirected file)
  elsewhere place other := by
    have apart : place ≠ target := by
      rintro rfl
      exact other ends
    rw [at?_put (isGiven_of_not_directory undirected), if_neg apart, since.elsewhere place other]

/-- A file that was there at the start is read as it was then. -/
theorem Later.read_eq (since : Later tree later) (clean : tree.WithoutImages) {bytes : List UInt8}
    (input : tree.find path = .ok (.file bytes)) : later.read path = tree.read path := by
  obtain ⟨place, leads, file⟩ := find_eq_ok.mp input
  have still : later.find path = .ok (.file bytes) := by
    refine find_eq_ok.mpr ⟨place, since.directories.place_ok leads, ?_⟩
    rw [since.elsewhere place (clean.files place bytes file), file]
  rw [read, read, still, input]

end FileTree

namespace Batch

open FileTree

variable {host : Host} {request : Request} {tree later : FileTree} {path : String}

/-! ### Names of pictures -/

theorem pictureName_toList (path : String) :
    (pictureName path).toList = stem (baseName path.toList) ++ ".png".toList := by
  rw [pictureName, String.toList_append, String.toList_ofList]

theorem isPlain_pictureName (path : String) : IsPlain (pictureName path) := by
  have long : 4 ≤ (pictureName path).toList.length := by
    rw [pictureName_toList, List.length_append]
    exact Nat.le_add_left 4 _
  refine ⟨?_, ?_, ?_, ?_⟩
  · rw [pictureName_toList, List.mem_append, not_or]
    refine ⟨fun member => ?_, by decide⟩
    have inName : '/' ∈ baseName path.toList := List.mem_of_mem_take member
    rw [baseName, List.mem_reverse] at inName
    have apart := List.all_eq_true.mp List.all_takeWhile '/' inName
    simp at apart
  all_goals
    intro same
    rw [same] at long
    exact absurd long (by decide)

theorem endsInPng_pictureName (inside : List String) (path : String) :
    EndsInPng (inside ++ [pictureName path]) :=
  (endsInPng_snoc inside _).mpr (by rw [pictureName_toList]; exact List.suffix_append _ _)

/-- All pictures go to one directory, each under its name, unless there is a single one. -/
theorem targets_cases (request : Request) (tree : FileTree) :
    request.files.length = 1 ∨ ∃ inside, ∀ path target,
      tree.place (targetFor request tree path) = .ok target →
        target = inside ++ [pictureName path] := by
  have named (unset : ∀ path, (targetOf request tree path).1 = none) :
      ∃ inside, ∀ path target, tree.place (targetFor request tree path) = .ok target →
        target = inside ++ [pictureName path] := by
    refine ⟨[], fun path target leads => ?_⟩
    rw [targetFor, unset path] at leads
    exact place_of_plain (isPlain_pictureName path) leads
  cases given : request.output with
  | none => exact .inr (named fun path => by rw [targetOf, given])
  | some output =>
      cases empty : output.isEmpty with
      | true => exact .inr (named fun path => by simp [targetOf, given, empty])
      | false =>
          cases directory : tree.isDirectory output with
          | false =>
              by_cases single : request.files.length = 1
              · exact .inl single
              · exact .inr (named fun path => by simp [targetOf, given, empty, directory, single])
          | true =>
              refine .inr ?_
              obtain ⟨front, joined⟩ := place_joinPath empty
              have target (path : String) :
                  targetFor request tree path = joinPath output (pictureName path) := by
                simp [targetFor, targetOf, given, empty, directory]
              cases followed : tree.follow (startOf output) front with
              | error cause =>
                  -- No target leads anywhere, so that any directory will do.
                  refine ⟨[], fun path place leads => ?_⟩
                  rw [target] at leads
                  obtain ⟨inside, ends, _⟩ := joined _ (isPlain_pictureName path) _ _ leads
                  rw [followed] at ends
                  cases ends
              | ok inside =>
                  refine ⟨inside, fun path place leads => ?_⟩
                  rw [target] at leads
                  obtain ⟨other, ends, same⟩ := joined _ (isPlain_pictureName path) _ _ leads
                  obtain rfl := Except.ok.inj (followed.symm.trans ends)
                  exact same

theorem targetFor_eq (same : SameDirectories tree later) (path : String) :
    targetFor request later path = targetFor request tree path := by
  rw [targetFor, targetFor, targetOf, targetOf]
  cases request.output with
  | none => rfl
  | some output => simp only [same.isDirectory_eq]

/-! ### Saving -/

/-- Whether a host saves a picture by putting an image of it where the path leads, which is no
directory, and leaves all other files alone. -/
def Host.SavesInPlace (host : Host) : Prop :=
  ∀ tree path picture, (host.save tree path picture).2 = none →
    ∃ place bytes, tree.place path = .ok place ∧ tree.at? place ≠ some .directory ∧
      (host.save tree path picture).1 = tree.put place (.picture picture bytes)

theorem savesInPlace_bare : Host.bare.SavesInPlace := by
  intro tree path picture kept
  change (savePng tree path picture).2 = none at kept
  change ∃ place bytes, _ ∧ _ ∧ (savePng tree path picture).1 = _
  rw [savePng] at kept ⊢
  split at kept
  · rename_i named
    rw [if_pos named]
    cases saved : tree.save path (.picture picture (Png.encode picture)) with
    | error fault => rw [saved] at kept; cases kept
    | ok after =>
        obtain ⟨place, leads, free, same⟩ := save_eq_ok.mp saved
        exact ⟨place, _, leads, at?_of_not_refused free, same⟩
  · cases kept

theorem Holds.unique {text other : String} (first : Holds host tree path text)
    (second : Holds host tree path other) : text = other := by
  obtain ⟨bytes, read, _, decoded⟩ := first
  obtain ⟨_, again, _, same⟩ := second
  obtain rfl := Except.ok.inj (read.symm.trans again)
  exact Except.ok.inj (decoded.symm.trans same)

theorem renders_of_read_eq {picture : Picture} (same : later.read path = tree.read path)
    (renders : Renders host request later path picture) :
    Renders host request tree path picture := by
  obtain ⟨text, document, ⟨bytes, read, unlimited, decoded⟩, found, drawn⟩ := renders
  exact ⟨text, document, ⟨bytes, same ▸ read, unlimited, decoded⟩, found, drawn⟩

/-- An image of a document: the path of the document, and the place, the pixels and the bytes of the
image. -/
structure Image where
  path : String
  place : List String
  picture : Picture
  bytes : List UInt8

def Image.entry (image : Image) : List String × Entry :=
  (image.place, .picture image.picture image.bytes)

/-- Whether an image shows what the file of its document held at the start, and stands where its
target leads at the start. -/
structure Image.Due (host : Host) (request : Request) (tree : FileTree) (image : Image) :
    Prop where
  renders : Renders host request tree image.path image.picture
  leads : tree.place (targetFor request tree image.path) = .ok image.place
  free : isGiven image.place = false

/-- An attempt that draws and succeeds puts the image of its document in its place. -/
theorem attempt_puts (saves : host.SavesInPlace) (rendered : request.checkOnly = false)
    (succeeded : (attempt host request tree path).succeeded = true) :
    ∃ image : Image, image.path = path ∧ image.Due host request tree ∧
      tree.at? image.place ≠ some .directory ∧
      (attempt host request tree path).after =
        tree.put image.place (.picture image.picture image.bytes) := by
  obtain ⟨text, document, holds, read, fulfilled⟩ :=
    treatment_ok_iff.mp (attempt_succeeded_iff.mp succeeded)
  cases fulfilled with
  | checked checkOnly => rw [rendered] at checkOnly; cases checkOnly
  | @rendered picture _ drawn kept =>
      obtain ⟨place, bytes, leads, undirected, same⟩ := saves _ _ _ kept
      refine ⟨⟨path, place, picture, bytes⟩, rfl, ⟨⟨text, document, holds, read, drawn⟩, leads,
        isGiven_of_not_directory undirected⟩, undirected, ?_⟩
      rw [attempt_after, treatment_of_loaded (load_eq_ok_iff.mpr ⟨text, holds, read⟩),
        processDocument_of_drawn rendered drawn]
      exact same

theorem attempts_save (saves : host.SavesInPlace) {paths : List String}
    (clean : tree.WithoutImages) (rendered : request.checkOnly = false) (since : Later tree later)
    (inputs : ∀ path ∈ paths, ∃ bytes, tree.find path = .ok (.file bytes))
    (ends : ∀ path ∈ paths, ∀ target,
      tree.place (targetFor request tree path) = .ok target → EndsInPng target)
    (succeed : ∀ made ∈ attempts host request later paths, made.succeeded = true) :
    ∃ images : List Image, images.map Image.path = paths ∧
      (∀ image ∈ images, image.Due host request tree) ∧
      treeAfter later (attempts host request later paths) =
        later.withEntries (images.map Image.entry) := by
  induction paths generalizing later with
  | nil => exact ⟨[], rfl, by simp, rfl⟩
  | cons path rest ih =>
      have first : (attempt host request later path).succeeded = true :=
        succeed _ (by rw [attempts]; exact List.mem_cons_self)
      have unbroken : (attempt host request later path).breakdown? = none := by
        rw [Attempt.breakdown?, Attempt.succeeded_iff.mp first]
      obtain ⟨image, rfl, due, undirected, after⟩ := attempt_puts saves rendered first
      obtain ⟨bytes, input⟩ := inputs image.path List.mem_cons_self
      have leads := due.leads
      rw [targetFor_eq since.directories] at leads
      have leadsFirst := since.directories.symm.place_ok leads
      rw [attempts_cons unbroken, after] at succeed ⊢
      -- The rest starts from files that differ by one more image, so it reads the same documents.
      obtain ⟨images, paths, others, same⟩ := ih
        (since.put (ends image.path List.mem_cons_self _ leadsFirst) undirected (by simp))
        (fun other member => inputs other (List.mem_cons_of_mem _ member))
        (fun other member => ends other (List.mem_cons_of_mem _ member))
        fun made member => succeed made (List.mem_cons_of_mem _ member)
      have dueFirst : image.Due host request tree :=
        ⟨renders_of_read_eq (since.read_eq clean input) due.renders, leadsFirst, due.free⟩
      refine ⟨image :: images, congrArg _ paths, List.forall_mem_cons.mpr ⟨dueFirst, others⟩, ?_⟩
      rw [treeAfter, List.foldl_cons, after]
      exact same

theorem attempts_of_done {arguments : List String}
    (asked : Request.ofArguments arguments = .ok request)
    (done : (run host arguments tree).code = .ok 0) :
    (∀ made ∈ attempts host request tree request.files, made.succeeded = true) ∧
      (run host arguments tree).tree =
        treeAfter tree (attempts host request tree request.files) := by
  rw [run_of_asked host asked] at done ⊢
  refine ⟨?_, runRequest_files host request tree⟩
  cases broke : breakdownOf? (attempts host request tree request.files) with
  | some breakdown => rw [runRequest_of_broken broke] at done; cases done
  | none =>
      rw [runRequest_of_unbroken broke] at done
      by_contra unfinished
      rw [← List.all_eq_true] at unfinished
      rw [if_neg unfinished] at done
      cases done

theorem run_saves (saves : host.SavesInPlace) {arguments : List String}
    (asked : Request.ofArguments arguments = .ok request)
    (rendered : request.checkOnly = false) (clean : tree.WithoutImages)
    (inputs : ∀ path ∈ request.files, ∃ bytes, tree.find path = .ok (.file bytes))
    (done : (run host arguments tree).code = .ok 0) :
    ∃ images : List Image, images.map Image.path = request.files ∧
      (∀ image ∈ images, image.Due host request tree) ∧
      (run host arguments tree).tree = tree.withEntries (images.map Image.entry) := by
  obtain ⟨succeed, after⟩ := attempts_of_done asked done
  rw [after]
  rcases targets_cases request tree with single | ⟨inside, named⟩
  · -- The only target may lead anywhere, but no document is read after its picture is saved.
    obtain ⟨path, alone⟩ := List.length_eq_one_iff.mp single
    have only : attempts host request tree [path] = [attempt host request tree path] := by
      simp [attempts]
    rw [alone, only] at succeed ⊢
    obtain ⟨image, rfl, due, _, put⟩ :=
      attempt_puts saves rendered (succeed _ List.mem_cons_self)
    exact ⟨[image], rfl, by simpa using due, put⟩
  · refine attempts_save saves clean rendered (.refl tree) inputs (fun path _ target leads => ?_)
      succeed
    rw [named path target leads]
    exact endsInPng_pictureName inside path

/-! ### Images of their own -/

section Places

variable {images : List Image}

theorem lookup_of_distinct (distinct : (images.map Image.place).Nodup) {image : Image}
    (member : image ∈ images) :
    (images.map Image.entry).reverse.lookup image.place =
      some (.picture image.picture image.bytes) := by
  obtain ⟨later, earlier, whole⟩ := List.append_of_mem (List.mem_reverse.mpr member)
  refine List.lookup_eq_some_iff.mpr
    ⟨later.map Image.entry, earlier.map Image.entry, ?_, fun other among => ?_⟩
  · rw [← List.map_reverse, whole, List.map_append, List.map_cons]
    rfl
  · obtain ⟨before, inLater, rfl⟩ := List.mem_map.mp among
    rw [← List.nodup_reverse, ← List.map_reverse, whole, List.map_append, List.map_cons,
      List.nodup_append] at distinct
    rw [bne_iff_ne]
    exact (distinct.2.2 _ (List.mem_map_of_mem inLater) _ List.mem_cons_self).symm

theorem nodup_places_iff (paths : images.map Image.path = request.files)
    (due : ∀ image ∈ images, image.Due host request tree) :
    (images.map Image.place).Nodup ↔ (request.files.map pictureName).Nodup := by
  rw [← paths]
  rcases targets_cases request tree with single | ⟨inside, named⟩
  · rw [← paths, List.length_map] at single
    obtain ⟨image, rfl⟩ := List.length_eq_one_iff.mp single
    simp
  · have places : images.map Image.place =
        ((images.map Image.path).map pictureName).map fun name => inside ++ [name] := by
      rw [List.map_map, List.map_map]
      exact List.map_congr_left fun image member => named _ _ (due image member).leads
    rw [places, List.nodup_map_iff fun name other same => by simpa using same]

end Places

/-- After a batch that draws and succeeds, the image at each place is that of the last document
whose target leads there. So every document has an image of its own exactly if no two of them have
the same name without directory and extension. -/
theorem run_images (saves : host.SavesInPlace) {arguments : List String}
    (asked : Request.ofArguments arguments = .ok request)
    (rendered : request.checkOnly = false) (clean : tree.WithoutImages)
    (inputs : ∀ path ∈ request.files, ∃ bytes, tree.find path = .ok (.file bytes))
    (done : (run host arguments tree).code = .ok 0) :
    ∃ images : List Image, images.map Image.path = request.files ∧
      (∀ image ∈ images, image.Due host request tree) ∧
      (∀ place picture bytes,
        (run host arguments tree).tree.at? place = some (.picture picture bytes) ↔
          (images.map Image.entry).reverse.lookup place = some (.picture picture bytes)) ∧
      ((∃ own : List Image, own.map Image.path = request.files ∧ (own.map Image.place).Nodup ∧
        ∀ image ∈ own, Renders host request tree image.path image.picture ∧
          (run host arguments tree).tree.at? image.place =
            some (.picture image.picture image.bytes)) ↔
        (request.files.map pictureName).Nodup) := by
  obtain ⟨images, paths, due, after⟩ := run_saves saves asked rendered clean inputs done
  have free : ∀ entry ∈ images.map Image.entry, isGiven entry.1 = false :=
    List.forall_mem_map.mpr fun image member => (due image member).free
  have found (place : List String) (picture : Picture) (bytes : List UInt8) :
      (run host arguments tree).tree.at? place = some (.picture picture bytes) ↔
        (images.map Image.entry).reverse.lookup place = some (.picture picture bytes) := by
    rw [after, at?_withEntries free]
    cases (images.map Image.entry).reverse.lookup place with
    | some last => simp
    | none => simpa using clean.pictures place picture bytes
  refine ⟨images, paths, due, found, ?_⟩
  rw [← nodup_places_iff paths due]
  constructor
  · -- Images of their own stand at places that were saved to, and these are no more than they.
    rintro ⟨own, ownPaths, distinct, ownImages⟩
    have among : own.map Image.place ⊆ images.map Image.place := by
      intro place member
      obtain ⟨image, inOwn, rfl⟩ := List.mem_map.mp member
      obtain ⟨later, earlier, whole, _⟩ :=
        List.lookup_eq_some_iff.mp ((found _ _ _).mp (ownImages image inOwn).2)
      have put : (image.place, Entry.picture image.picture image.bytes) ∈
          (images.map Image.entry).reverse := by
        rw [whole]
        exact List.mem_append_right _ List.mem_cons_self
      obtain ⟨other, inImages, same⟩ := List.mem_map.mp (List.mem_reverse.mp put)
      exact List.mem_map.mpr ⟨other, inImages, congrArg Prod.fst same⟩
    have many : images.length = own.length := by
      rw [← List.length_map Image.path, paths, ← ownPaths, List.length_map]
    exact ((distinct.subperm among).perm_of_length_le (by simp [many])).nodup_iff.mp distinct
  · exact fun distinct => ⟨images, paths, distinct, fun image member =>
      ⟨(due image member).renders, (found _ _ _).mpr (lookup_of_distinct distinct member)⟩⟩

/-- Two directories, in which a document has the same name, and a third document. -/
def drawers : FileTree :=
  ⟨[(["a"], .directory), (["b"], .directory),
    (["a", "x.svg"], .file "<svg viewBox=\"0 0 1 1\"/>".toUTF8.toList),
    (["b", "x.svg"], .file "<svg viewBox=\"0 0 2 1\"/>".toUTF8.toList),
    (["b", "y.svg"], .file "<svg viewBox=\"0 0 3 1\"/>".toUTF8.toList)]⟩

theorem withoutImages_drawers : drawers.WithoutImages := by
  apply withoutImages_of_entries
  simp only [drawers, List.mem_cons, List.not_mem_nil, or_false, forall_eq_or_imp, forall_eq]
  refine ⟨⟨?_, by simp⟩, ⟨?_, by simp⟩, ⟨?_, by simp⟩, ⟨?_, by simp⟩, ⟨?_, by simp⟩⟩
  · exact (endsInPng_snoc [] "a").not.mpr (by decide)
  · exact (endsInPng_snoc [] "b").not.mpr (by decide)
  · exact (endsInPng_snoc ["a"] "x.svg").not.mpr (by decide)
  · exact (endsInPng_snoc ["b"] "x.svg").not.mpr (by decide)
  · exact (endsInPng_snoc ["b"] "y.svg").not.mpr (by decide)

theorem run_images_drawers : ∃ request, Request.ofArguments ["a/x.svg", "b/y.svg"] = .ok request ∧
    request.checkOnly = false ∧ drawers.WithoutImages ∧
    (∀ path ∈ request.files, ∃ bytes, drawers.find path = .ok (.file bytes)) ∧
    (run .bare ["a/x.svg", "b/y.svg"] drawers).code = .ok 0 ∧
    ∃ own : List Image, own.map Image.path = ["a/x.svg", "b/y.svg"] ∧
      (own.map Image.place).Nodup ∧
      ∀ image ∈ own, Renders .bare request drawers image.path image.picture ∧
        (run .bare ["a/x.svg", "b/y.svg"] drawers).tree.at? image.place =
          some (.picture image.picture image.bytes) := by
  have asked : (Request.ofArguments ["a/x.svg", "b/y.svg"]).map
      (fun request => (request.files, request.checkOnly)) =
        .ok (["a/x.svg", "b/y.svg"], false) := by decide +kernel
  have done : (run .bare ["a/x.svg", "b/y.svg"] drawers).code = .ok 0 := by decide +kernel
  cases read : Request.ofArguments ["a/x.svg", "b/y.svg"] with
  | error fault => rw [read] at asked; cases asked
  | ok request =>
      rw [read] at asked
      obtain ⟨files, rendered⟩ := Prod.mk.inj (Except.ok.inj asked)
      have inputs : ∀ path ∈ request.files, ∃ bytes, drawers.find path = .ok (.file bytes) := by
        rw [files, List.forall_mem_cons, List.forall_mem_singleton]
        exact ⟨⟨_, find_eq_ok.mpr ⟨["a", "x.svg"], by decide +kernel, rfl⟩⟩,
          ⟨_, find_eq_ok.mpr ⟨["b", "y.svg"], by decide +kernel, rfl⟩⟩⟩
      obtain ⟨_, _, _, _, own⟩ :=
        run_images savesInPlace_bare read rendered withoutImages_drawers inputs done
      rw [files] at own
      exact ⟨request, rfl, rendered, withoutImages_drawers, inputs, done,
        own.mpr (by decide +kernel)⟩

/-- Two documents of the same name are both reported, but the image of the first one is lost. -/
theorem run_drawers_lost :
    drawers.place "a/x.svg" = .ok ["a", "x.svg"] ∧ drawers.place "b/x.svg" = .ok ["b", "x.svg"] ∧
      (run .bare ["a/x.svg", "b/x.svg"] drawers).code = .ok 0 ∧
      (run .bare ["a/x.svg", "b/x.svg"] drawers).printed =
        "[OK] a/x.svg -> x.png\n[OK] b/x.svg -> x.png\n\nProcessed 2/2 file(s) successfully\n" ∧
      (run .bare ["a/x.svg", "b/x.svg"] drawers).tree.pictures.map
        (fun image => (image.1, image.2.1.width)) = [(["x.png"], 2)] := by
  decide +kernel

end Batch

end Vignette
