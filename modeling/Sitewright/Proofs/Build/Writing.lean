import Sitewright.Build.Output
import Sitewright.Proofs.FileTree.Steps

/-!
# Writing files below a folder

A file is written by making the folders that its path names and putting it into the last one. On a
tree that is one change (`SourceFile.exists_writeBelow`): the file is there, there are folders on
the way to it, and everything else is as it was. So if no path leads through a file or a folder of
another one, files can be written one after the other, and in the end the folder holds exactly
these files and the folders that lead to them (`SourceFile.exists_writeAll`).
-/

namespace Sitewright

open FileTree

/-! ### Folders that are there -/

/-- The path of a folder leads somewhere in a tree. -/
structure FileTree.Leads (tree : FileTree) (folder : String) (here : List String) : Prop where
  /-- The text can be a path. -/
  text : Char.ofNat 0 ∉ folder.toList
  /-- The way is there. -/
  way : tree.locate .none [] (FilePath.parts folder) = .ok here
  /-- There is a folder at its end. -/
  look : tree.look here = some .folder

namespace FileTree

variable {tree after : FileTree} {folder path : String} {here start : List String}

theorem partsOf_none (h : Char.ofNat 0 ∉ path.toList) :
    partsOf .none path = .ok (FilePath.parts path) := by
  have free : path.toList.contains (Char.ofNat 0) = false := by simpa using h
  rw [partsOf, free]
  rfl

/-- A folder that is found is somewhere. -/
theorem exists_leads {entries : List (String × FileTree)}
    (h : tree.find .none folder = .ok (.folder entries)) :
    ∃ here, tree.Leads folder here ∧ tree.at? here = some (.folder entries) := by
  by_cases text : Char.ofNat 0 ∈ folder.toList
  · have broken : partsOf .none folder = .error .notPath := by
      have holds : folder.toList.contains (Char.ofNat 0) = true := by simpa using text
      rw [partsOf, holds]
      rfl
    rw [find, broken] at h
    cases h
  · rw [find, partsOf_none text] at h
    simp only [bind, Except.bind] at h
    cases way : tree.locate .none [] (FilePath.parts folder) with
    | error fault =>
      rw [way] at h
      cases h
    | ok here =>
      rw [way] at h
      dsimp only at h
      cases found : tree.at? here with
      | none =>
        rw [found] at h
        cases h
      | some below =>
        rw [found] at h
        obtain rfl : below = .folder entries := Except.ok.inj h
        exact ⟨here, ⟨text, way, look_eq_folder_iff.mpr ⟨entries, found⟩⟩, found⟩

/-- The way to a folder does not need an empty part at its end. -/
theorem Leads.locate_start (h : tree.Leads folder here)
    (parts : FilePath.parts folder = start ∨ FilePath.parts folder = start ++ [""]) :
    tree.locate .none [] start = .ok here := by
  rcases parts with eq | eq
  · rw [← eq]
    exact h.way
  · have way := h.way
    rw [eq, locate_append] at way
    cases reached : tree.locate .none [] start with
    | error fault =>
      rw [reached] at way
      cases way
    | ok there =>
      rw [reached, Except.bind, locate] at way
      split at way
      · cases way
      · cases way
      · exact way

/-- A way stays where it is while its folders do. -/
theorem Leads.of_keeps (h : tree.Leads folder here)
    (keeps : ∀ names, tree.look names = some .folder → after.look names = some .folder) :
    after.Leads folder here :=
  ⟨h.text, locate_of_keeps keeps h.way, keeps here h.look⟩

end FileTree

/-! ### One file -/

/-- A path that can be written below a folder: all parts are names, and none of them holds a
character that no path can hold. -/
structure FilePath.GoesDown (path : String) : Prop where
  /-- The parts are names. -/
  named : ∀ part ∈ parts path, isName part = true
  /-- The text can be a path. -/
  text : Char.ofNat 0 ∉ path.toList

/-- A path that goes down goes through folders to a name. -/
theorem FilePath.GoesDown.exists_parts {path : String} (h : GoesDown path) :
    ∃ folders name, parts path = folders ++ [name] ∧ isIdle name = false ∧
      (∀ part ∈ folders, isName part = true) := by
  have some : parts path ≠ [] := by
    rw [parts_eq]
    simpa using Text.splitBy_ne_nil _ _
  refine ⟨(parts path).dropLast, (parts path).getLast some, ?_, ?_, ?_⟩
  · exact (List.dropLast_append_getLast some).symm
  · have name := h.named _ (List.getLast_mem some)
    rw [isName, Bool.and_eq_true, Bool.not_eq_true'] at name
    exact name.1
  · exact fun part mem ↦ h.named part (List.dropLast_subset _ mem)

/-- Two paths of which neither leads through the other. -/
def FilePath.Apart (a b : String) : Prop :=
  ¬ parts a <+: parts b ∧ ¬ parts b <+: parts a

namespace FileTree

variable {tree mid : FileTree} {path content : String} {here start folders : List String}
  {name : String}

/-- Making the folder that a path leads into makes the folders that the path names. -/
theorem makeFolders_parent (text : Char.ofNat 0 ∉ path.toList)
    (parts : FilePath.parts path = start ++ folders ++ [name])
    (busy : FilePath.isIdle name = false) (way : tree.locate .none [] start = .ok here)
    (look : tree.look here = some .folder) (made : tree.makeFrom .none here folders = .ok mid) :
    tree.makeFolders .none (FilePath.parent path) = .ok mid := by
  have parentText : Char.ofNat 0 ∉ (FilePath.parent path).toList := by
    intro mem
    rcases FilePath.mem_of_mem_parent mem with slash | inside
    · exact absurd slash (by decide)
    · exact text inside
  have whole : tree.makeFrom .none [] (start ++ folders) = .ok mid := by
    rw [makeFrom_append .none way look]
    exact made
  -- Idle parts at the end of the way are dropped.
  obtain ⟨idle, split, idles⟩ := FilePath.exists_dropIdle_append (start ++ folders)
  have kept : tree.makeFrom .none [] (FilePath.dropIdle (start ++ folders)) = .ok mid := by
    rw [split] at whole
    exact (makeFrom_append_idle idles).mp whole
  have noSlash : ∀ part ∈ FilePath.dropIdle (start ++ folders), '/' ∉ part.toList := by
    intro part mem
    have inside : part ∈ FilePath.parts path := by
      rw [parts, split]
      exact List.mem_append_left _ (List.mem_append_left _ mem)
    exact FilePath.slash_notMem_of_mem_parts inside
  rw [makeFolders, partsOf_none parentText, FilePath.parent_eq parts busy]
  change tree.makeFrom .none [] _ = _
  by_cases none : FilePath.dropIdle (start ++ folders) = []
  · -- Nothing is left of the way: it stays where it is.
    rw [none] at kept ⊢
    have here_ : FilePath.parts (String.intercalate "/" []) = [""] :=
      FilePath.parts_of_notMem (by decide)
    rw [here_, makeFrom, if_pos (by decide)]
    exact kept
  · rw [FilePath.parts_intercalate none noSlash]
    exact kept

/-- A file is put where its path leads. -/
theorem write_eq (text : Char.ofNat 0 ∉ path.toList)
    (way : tree.locate .none [] (FilePath.parts path) = .ok here) (free : tree.look here = none)
    (content : String) :
    tree.write .none path content = .ok (tree.set (.file content) here) := by
  have nothing : tree.at? here = none := Option.map_eq_none_iff.mp free
  rw [write, partsOf_none text]
  simp only [bind, Except.bind]
  rw [way]
  dsimp only
  rw [nothing]
  rfl

end FileTree

namespace SourceFile

variable {tree mid after : FileTree} {folder path : String} {here : List String}
  {files : List SourceFile} {file : SourceFile}

theorem run_bind {α β : Type} {x : ExceptT OutputError (StateM FileTree) α} {a : α}
    (h : x.run.run tree = (.ok a, mid)) (f : α → ExceptT OutputError (StateM FileTree) β) :
    (x >>= f).run.run tree = (f a).run.run mid := by
  rw [ExceptT.run_bind, StateT.run_bind, h]
  rfl

theorem run_bind_error {α β : Type} {x : ExceptT OutputError (StateM FileTree) α}
    {error : OutputError} (h : x.run.run tree = (.error error, mid))
    (f : α → ExceptT OutputError (StateM FileTree) β) :
    (x >>= f).run.run tree = (.error error, mid) := by
  rw [ExceptT.run_bind, StateT.run_bind, h]
  rfl

/-- A step on files is possible, or its fault is reported for the path. -/
theorem run_attempt (step : FileTree → Except FileFault FileTree) (path : String)
    (tree : FileTree) : (attempt path (FileSystem.onTree step)).run.run tree =
      match step tree with
      | .ok after => (.ok (), after)
      | .error fault => (.error (.file path fault), tree) := by
  have lifted {result : Except FileFault Unit} {after : FileTree}
      (ran : (FileSystem.onTree step).run tree = (result, after)) :
      (ExceptT.lift (FileSystem.onTree step) :
        ExceptT OutputError (StateM FileTree) (Except FileFault Unit)).run.run tree =
          (.ok result, after) := by
    rw [ExceptT.run_lift, StateT.run_map, ran]
    rfl
  cases h : step tree with
  | ok after =>
    have ran : (FileSystem.onTree step).run tree = (.ok (), after) := by
      rw [StateT.run, FileSystem.onTree, h]
    exact run_bind (lifted ran) _
  | error fault =>
    have ran : (FileSystem.onTree step).run tree = (.error fault, tree) := by
      rw [StateT.run, FileSystem.onTree, h]
    exact run_bind (lifted ran) _

/-- Writing a file below a folder is making the folders that its path names, and putting the file
into the last one. -/
theorem run_writeBelow {made : FileTree} (down : FilePath.GoesDown file.path)
    (folders : tree.makeFolders .none (FilePath.parent (FilePath.join folder file.path)) = .ok mid)
    (written : mid.write .none (FilePath.join folder file.path) file.content = .ok made) :
    (file.writeBelow (.ofTree .none) folder).run.run tree = (.ok (), made) := by
  have first := run_attempt
    (·.makeFolders .none (FilePath.parent (FilePath.join folder file.path)))
    (FilePath.parent (FilePath.join folder file.path)) tree
  have second := run_attempt (·.write .none (FilePath.join folder file.path) file.content)
    (FilePath.join folder file.path) mid
  rw [folders] at first
  rw [written] at second
  rw [writeBelow, if_pos (FilePath.isContained_of_names down.named)]
  dsimp only [FileSystem.ofTree]
  rw [run_bind first, second]

/-- **Writing a file below a folder.** If nothing is in the way and there is nothing at the end of
the path, then afterwards the file is there, there are folders on the way to it, and everything else
is as it was. -/
theorem exists_writeBelow (leads : tree.Leads folder here) (down : FilePath.GoesDown file.path)
    (free : ∀ before, before <+: FilePath.parts file.path → ∀ content,
      tree.look (here ++ before) ≠ some (.file content))
    (fresh : tree.look (here ++ FilePath.parts file.path) = none) :
    ∃ after, (file.writeBelow (.ofTree .none) folder).run.run tree = (.ok (), after) ∧
      Put tree here (FilePath.parts file.path) file.content after := by
  obtain ⟨folders, name, parts, busy, named⟩ := FilePath.GoesDown.exists_parts down
  obtain ⟨start, target, folderParts⟩ := FilePath.exists_parts_join folder file.path
  have way : tree.locate .none [] start = .ok here := leads.locate_start folderParts
  have text : Char.ofNat 0 ∉ (FilePath.join folder file.path).toList := by
    intro mem
    rcases FilePath.mem_of_mem_join mem with above | slash | below
    · exact leads.text above
    · exact absurd slash (by decide)
    · exact down.text below
  have names : ∀ part ∈ folders ++ [name], FilePath.isName part = true := parts ▸ down.named
  rw [parts, ← List.append_assoc] at fresh target
  -- The folders that the path names.
  obtain ⟨mid, made, opened⟩ := exists_makeFrom named leads.look fun before hbefore content ↦
    free before (hbefore.trans (parts ▸ List.prefix_append ..)) content
  have folders_made := makeFolders_parent text target busy way leads.look made
  -- The way to the file.
  have arrive : mid.locate .none [] (FilePath.parts (FilePath.join folder file.path)) =
      .ok (here ++ folders ++ [name]) := by
    have kept : mid.locate .none [] start = .ok here :=
      locate_of_keeps (fun _ folder ↦ opened.look_folder folder) way
    rw [target, List.append_assoc, locate_append, kept, Except.bind, opened.locate names,
      List.append_assoc]
  have written := write_eq text arrive (opened.look_next fresh) file.content
  rw [parts]
  exact ⟨_, run_writeBelow down folders_made written, opened.put fresh file.content⟩

/-! ### All files -/

/-- A folder of a tree has been filled with files: it holds these files and the folders that lead to
them, and everything else is as it was. -/
structure Fill (files : List SourceFile) (tree : FileTree) (here : List String)
    (after : FileTree) : Prop where
  /-- The files are those that were written, with their contents. -/
  file : ∀ names content, after.look (here ++ names) = some (.file content) ↔
    ∃ f ∈ files, FilePath.parts f.path = names ∧ f.content = content
  /-- The folders are those on the way to a file, and the one that was filled. -/
  folder : ∀ names, after.look (here ++ names) = some .folder ↔
    names = [] ∨ ∃ f ∈ files, names <+: FilePath.parts f.path ∧ names ≠ FilePath.parts f.path
  /-- Outside of the folder nothing has changed. -/
  outside : ∀ names, ¬ here <+: names → after.look names = tree.look names

/-- An empty folder has been filled with nothing. -/
theorem Fill.of_empty (h : tree.at? here = some .empty) : Fill [] tree here tree := by
  refine ⟨fun names content ↦ ?_, fun names ↦ ?_, fun names _ ↦ rfl⟩
  · simp [look_append_of_at? h, look_empty, ite_eq_iff]
  · simp [look_append_of_at? h, look_empty]

namespace Fill

/-- No file is in the way of one whose path stays apart. -/
theorem free (h : Fill files tree here mid)
    (apart : ∀ other ∈ files, FilePath.Apart other.path file.path) {before : List String}
    (hbefore : before <+: FilePath.parts file.path) (content : String) :
    mid.look (here ++ before) ≠ some (.file content) := by
  intro seen
  obtain ⟨other, mem, eq, -⟩ := (h.file before content).mp seen
  exact (apart other mem).1 (eq ▸ hbefore)

/-- And there is nothing at the end of its path. -/
theorem fresh (h : Fill files tree here mid) (down : FilePath.GoesDown file.path)
    (apart : ∀ other ∈ files, FilePath.Apart other.path file.path) :
    mid.look (here ++ FilePath.parts file.path) = none := by
  cases seen : mid.look (here ++ FilePath.parts file.path) with
  | none => rfl
  | some sight =>
    cases sight with
    | file content => exact absurd seen (h.free apart (List.prefix_refl _) content)
    | folder =>
      rcases (h.folder _).mp seen with none | ⟨other, mem, below, -⟩
      · obtain ⟨folders, name, parts, -⟩ := down.exists_parts
        rw [parts] at none
        exact absurd none (List.concat_ne_nil name folders)
      · exact absurd below (apart other mem).2

theorem clear (h : Fill files tree here mid) (down : FilePath.GoesDown file.path)
    (apart : ∀ other ∈ files, FilePath.Apart other.path file.path) :
    mid.Clear here (FilePath.parts file.path) := by
  refine ⟨fun before below _ ↦ h.free apart below, ?_⟩
  rw [h.fresh down apart]
  exact nofun

/-- **One more file.** -/
theorem put (h : Fill files tree here mid) (down : FilePath.GoesDown file.path)
    (apart : ∀ other ∈ files, FilePath.Apart other.path file.path)
    (put : Put mid here (FilePath.parts file.path) file.content after) :
    Fill (files ++ [file]) tree here after := by
  have clear := h.clear down apart
  refine ⟨fun names content ↦ ?_, fun names ↦ ?_, fun names outside ↦ ?_⟩
  · have split : (∃ f ∈ files ++ [file], FilePath.parts f.path = names ∧ f.content = content) ↔
        mid.look (here ++ names) = some (.file content) ∨
          FilePath.parts file.path = names ∧ file.content = content := by
      rw [h.file]
      simp only [List.mem_append, List.mem_singleton, or_and_right, exists_or, exists_eq_left]
    rw [split, put.look_eq_file_iff clear]
    split
    · rename_i eq
      rw [eq, h.fresh down apart]
      simp
    · rename_i ne
      rw [or_iff_left fun new ↦ ne new.1.symm]
  · rw [put.look_eq_folder_iff clear, h.folder]
    simp only [List.mem_append, List.mem_singleton, or_and_right, exists_or, exists_eq_left,
      or_assoc]
  · rw [put.look_outside outside, h.outside names outside]

theorem exists_writeBelow (h : Fill files tree here mid) (leads : mid.Leads folder here)
    (down : FilePath.GoesDown file.path)
    (apart : ∀ other ∈ files, FilePath.Apart other.path file.path) :
    ∃ after, (file.writeBelow (.ofTree .none) folder).run.run mid = (.ok (), after) ∧
      Fill (files ++ [file]) tree here after ∧ after.Leads folder here := by
  obtain ⟨after, ran, put⟩ :=
    SourceFile.exists_writeBelow leads down (fun _ below ↦ h.free apart below) (h.fresh down apart)
  have still : after.Leads folder here :=
    leads.of_keeps fun _ folder ↦ put.look_folder (h.clear down apart) folder
  exact ⟨after, ran, h.put down apart put, still⟩

end Fill

/-- **Files fill a folder.** Files whose paths go down and stay apart can be written one after the
other, and in the end they are what is in the folder. -/
theorem exists_writeAll (leads : tree.Leads folder here) (empty : tree.at? here = some .empty)
    (down : ∀ path ∈ files.map (·.path), FilePath.GoesDown path)
    (apart : (files.map (·.path)).Pairwise FilePath.Apart) :
    ∃ after, (writeAll files (.ofTree .none) folder).run.run tree = (.ok files.length, after) ∧
      Fill files tree here after := by
  -- The files that have been written already, and those that are still to be written.
  have run (done rest : List SourceFile) (mid : FileTree) (fill : Fill done tree here mid)
      (leads : mid.Leads folder here) (down : ∀ path ∈ rest.map (·.path), FilePath.GoesDown path)
      (apart : (done ++ rest).Pairwise fun a b ↦ FilePath.Apart a.path b.path) :
      ∃ after, (rest.forM fun file ↦ file.writeBelow (.ofTree .none) folder).run.run mid =
        (.ok (), after) ∧ Fill (done ++ rest) tree here after := by
    induction rest generalizing done mid with
    | nil => exact ⟨mid, rfl, by rwa [List.append_nil]⟩
    | cons file rest ih =>
      obtain ⟨first, others⟩ := List.forall_mem_cons.mp down
      have beside : ∀ other ∈ done, FilePath.Apart other.path file.path := fun other mem ↦
        (List.pairwise_append.mp apart).2.2 other mem file List.mem_cons_self
      obtain ⟨next, ran, filled, still⟩ := fill.exists_writeBelow leads first beside
      rw [List.append_cons] at apart ⊢
      obtain ⟨after, later, result⟩ := ih (done ++ [file]) next filled still others apart
      exact ⟨after, (run_bind ran _).trans later, result⟩
  obtain ⟨after, ran, fill⟩ :=
    run [] files tree (.of_empty empty) leads down (List.pairwise_map.mp apart)
  exact ⟨after, run_bind ran _, fill⟩

/-- **No path is refused.** Files whose paths are contained are never refused, whatever is below the
folder and however long names may be. -/
theorem run_writeAll_ne_unsafePath (limits : FileTree.Limits)
    (contained : ∀ path ∈ files.map (·.path), FilePath.isContained path = true)
    (folder path : String) (tree : FileTree) :
    ((writeAll files (.ofTree limits) folder).run.run tree).1 ≠ .error (.unsafePath path) := by
  -- Steps on files fail with faults of their own, one after the other as well.
  have attempts (step : FileTree → Except FileFault FileTree) (at_ : String) (tree : FileTree) :
      ((attempt at_ (FileSystem.onTree step)).run.run tree).1 ≠ .error (.unsafePath path) := by
    rw [run_attempt]
    split <;> exact nofun
  have sequence {α β : Type} {x : ExceptT OutputError (StateM FileTree) α}
      {f : α → ExceptT OutputError (StateM FileTree) β}
      (first : ∀ tree, (x.run.run tree).1 ≠ .error (.unsafePath path))
      (second : ∀ a tree, ((f a).run.run tree).1 ≠ .error (.unsafePath path)) (tree : FileTree) :
      ((x >>= f).run.run tree).1 ≠ .error (.unsafePath path) := by
    rw [ExceptT.run_bind, StateT.run_bind]
    cases ran : x.run.run tree with
    | mk result next =>
      cases result with
      | ok a => exact second a next
      | error e =>
        have fine := first tree
        rw [ran] at fine
        intro refused
        have eq : e = .unsafePath path := Except.error.inj refused
        exact fine (congrArg Except.error eq)
  refine sequence (fun tree ↦ ?_) (fun _ _ counted ↦ by cases counted) tree
  induction files generalizing tree with
  | nil => exact nofun
  | cons file rest ih =>
    obtain ⟨first, others⟩ := List.forall_mem_cons.mp contained
    refine sequence (fun tree ↦ ?_) (fun _ tree ↦ ih others tree) tree
    show ((file.writeBelow (.ofTree limits) folder).run.run tree).1 ≠ _
    rw [writeBelow, if_pos first]
    dsimp only [FileSystem.ofTree]
    exact sequence (attempts _ _) (fun _ ↦ attempts _ _) tree

end SourceFile

end Sitewright
