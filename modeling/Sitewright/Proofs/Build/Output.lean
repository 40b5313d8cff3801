import Sitewright.Proofs.Build.Writing
import Sitewright.Proofs.FileTree.Effects

/-!
# Writing arbitrary files

Files with any paths and contents at all, written below an empty folder. Whatever comes of it,
nothing outside of the folder has changed. A path is refused if one of its components is not a name,
and then the files before it have been written; and if nothing is refused and no step fails, all
have (`SourceFile.writeAll_staysInside`).

What has been written is told by the components of the paths (`SourceFile.Holds`): where several
files have the same ones, the folder holds the last, however their paths are spelled. So a file may
be overwritten, by a later one with its components. A file on the way of another one is never lost,
since then the step fails.
-/

namespace Sitewright.SourceFile

open FileTree FilePath

variable {tree mid after : FileTree} {limits : Limits} {folder : String} {here : List String}
  {files rest : List SourceFile} {file : SourceFile}

/-! ### One file -/

/-- What can come of writing a file below a folder. -/
inductive Attempt (file : SourceFile) (here : List String) (tree : FileTree) :
    Except OutputError Unit → FileTree → Prop where
  /-- The file has been put where its path leads. -/
  | written {after : FileTree} (contained : isContained file.path = true)
      (clear : tree.Clear here (steps file.path))
      (put : Put tree here (steps file.path) file.content after) :
      Attempt file here tree (.ok ()) after
  /-- The path has been refused, and nothing has been done. -/
  | refused (leaves : isContained file.path = false) :
      Attempt file here tree (.error (.unsafePath file.path)) tree
  /-- A step was not possible. Folders may have been made inside. -/
  | failed {after : FileTree} (path : String) (fault : FileFault)
      (outside : ∀ names, ¬ here <+: names → after.look names = tree.look names) :
      Attempt file here tree (.error (.file path fault)) after

/-- **Writing a file below a folder**, whatever its path. -/
theorem attempt_writeBelow (limits : Limits) (leads : tree.Leads folder here)
    (file : SourceFile) {result : Except OutputError Unit}
    (ran : (file.writeBelow (.ofTree limits) folder).run.run tree = (result, after)) :
    Attempt file here tree result after := by
  rw [writeBelow] at ran
  cases contained : isContained file.path with
  | false =>
    rw [contained, if_neg Bool.false_ne_true] at ran
    obtain ⟨rfl, rfl⟩ := Prod.mk.inj ran
    exact .refused contained
  | true =>
    rw [contained, if_pos rfl] at ran
    dsimp only [FileSystem.ofTree] at ran
    obtain ⟨start, target, folderParts⟩ := exists_parts_join folder file.path
    have way : tree.locate .none [] start = .ok here := leads.locate_start folderParts
    have down := up_notMem_of_isContained contained
    have first := run_attempt (·.makeFolders limits (parent (join folder file.path)))
      (parent (join folder file.path)) tree
    cases made : tree.makeFolders limits (parent (join folder file.path)) with
    | error fault =>
      rw [made] at first
      rw [run_bind_error first] at ran
      obtain ⟨rfl, rfl⟩ := Prod.mk.inj ran
      exact .failed _ fault fun _ _ ↦ rfl
    | ok mid =>
      rw [made] at first
      rw [run_bind first] at ran
      have second := run_attempt (·.write limits (join folder file.path) file.content)
        (join folder file.path) mid
      rw [second] at ran
      cases written : mid.write limits (join folder file.path) file.content with
      | error fault =>
        rw [written] at ran
        obtain ⟨rfl, rfl⟩ := Prod.mk.inj ran
        obtain ⟨front, short, opens⟩ := of_makeFolders_parent target way leads.look made
        have opened := (of_makeFrom (fun up ↦ down (short.subset up)) leads.look opens).1
        exact .failed _ fault fun names outside ↦ opened.look_outside outside
      | ok last =>
        rw [written] at ran
        obtain ⟨rfl, rfl⟩ := Prod.mk.inj ran
        obtain ⟨put, clear⟩ := put_of_write target down way leads.look made written
        exact .written contained clear put

/-! ### What a folder holds -/

/-- What the last of some files holds that have given names as their components. -/
def lastContent? (files : List SourceFile) (names : List String) : Option String :=
  (files.reverse.find? fun f ↦ components f.path = names.map .name).map (·.content)

/-- A folder holds some files, by the components of their paths, and the folders that lead to
them. -/
structure Holds (files : List SourceFile) (here : List String) (after : FileTree) : Prop where
  /-- There is one file for all that have the same components, with the content of the last. -/
  file : ∀ names content, after.look (here ++ names) = some (.file content) ↔
    lastContent? files names = some content
  /-- There are the folders on the way to a file, and the one that holds them. -/
  folder : ∀ names, after.look (here ++ names) = some .folder ↔ names = [] ∨ ∃ f ∈ files,
    names.map .name <+: components f.path ∧ names.map .name ≠ components f.path

theorem lastContent?_concat (files : List SourceFile) (file : SourceFile) (names : List String) :
    lastContent? (files ++ [file]) names =
      if components file.path = names.map .name then some file.content
      else lastContent? files names := by
  rw [lastContent?, List.reverse_append, List.reverse_singleton, List.singleton_append,
    List.find?_cons]
  split
  · rename_i here
    rw [if_pos (of_decide_eq_true here), Option.map_some]
  · rename_i elsewhere
    rw [if_neg (of_decide_eq_false elsewhere)]
    rfl

/-- An empty folder holds nothing. -/
theorem Holds.of_empty (h : tree.at? here = some .empty) : Holds [] here tree := by
  refine ⟨fun names content ↦ ?_, fun names ↦ ?_⟩
  · simp [look_append_of_at? h, look_empty, ite_eq_iff, lastContent?]
  · simp [look_append_of_at? h, look_empty]

/-- **One more file.** It stands in for one with the same components. -/
theorem Holds.put (h : Holds files here mid) (contained : isContained file.path = true)
    (clear : mid.Clear here (steps file.path))
    (put : Put mid here (steps file.path) file.content after) :
    Holds (files ++ [file]) here after := by
  have said := components_of_isContained contained
  have inj := FilePath.Component.name_injective
  refine ⟨fun names content ↦ ?_, fun names ↦ ?_⟩
  · have same : components file.path = names.map .name ↔ names = steps file.path := by
      rw [components_eq_map_iff, and_iff_right contained, eq_comm]
    rw [put.look_eq_file_iff clear, lastContent?_concat, if_congr same rfl rfl, h.file]
    split
    · exact (Option.some_inj).symm
    · rfl
  · rw [put.look_eq_folder_iff clear, h.folder]
    simp only [List.mem_append, List.mem_singleton, or_and_right, exists_or, exists_eq_left,
      or_assoc, said, List.prefix_map_iff_of_injective inj, inj.list_map.ne_iff]

/-! ### All files -/

/-- **Writing files one after the other**, below a folder that holds those that were written
before. -/
theorem holds_of_forM (limits : Limits) (done : List SourceFile) (leads : mid.Leads folder here)
    (holds : Holds done here mid) {result : Except OutputError Unit}
    (ran : (files.forM fun file ↦ file.writeBelow (.ofTree limits) folder).run.run mid =
      (result, after)) :
    (∀ names, ¬ here <+: names → after.look names = mid.look names) ∧
      (result = .ok () →
        (∀ f ∈ files, isContained f.path = true) ∧ Holds (done ++ files) here after) ∧
      (∀ path, result = .error (.unsafePath path) → ∃ before file later,
        files = before ++ file :: later ∧ file.path = path ∧ isContained path = false ∧
          (∀ f ∈ before, isContained f.path = true) ∧ Holds (done ++ before) here after) := by
  induction files generalizing done mid with
  | nil =>
    obtain ⟨rfl, rfl⟩ := Prod.mk.inj ran
    exact ⟨fun _ _ ↦ rfl, fun _ ↦ ⟨nofun, by rwa [List.append_nil]⟩, nofun⟩
  | cons file rest ih =>
    cases step : (file.writeBelow (.ofTree limits) folder).run.run mid with
    | mk reached next =>
      cases attempt_writeBelow limits leads file step with
      | written contained clear put =>
        have still : next.Leads folder here :=
          leads.of_keeps fun _ folder ↦ put.look_folder clear folder
        have held := holds.put contained clear put
        obtain ⟨outside, all, refused⟩ :=
          ih (done ++ [file]) still held ((run_bind step _).symm.trans ran)
        refine ⟨fun names away ↦ (outside names away).trans (put.look_outside away),
          fun ok ↦ ?_, fun path no ↦ ?_⟩
        · obtain ⟨safe, held⟩ := all ok
          rw [List.append_cons]
          exact ⟨List.forall_mem_cons.mpr ⟨contained, safe⟩, held⟩
        · obtain ⟨before, stop, later, rfl, eq, leaves, safe, held⟩ := refused path no
          refine ⟨file :: before, stop, later, rfl, eq, leaves,
            List.forall_mem_cons.mpr ⟨contained, safe⟩, ?_⟩
          rwa [List.append_cons]
      | refused leaves =>
        obtain ⟨rfl, rfl⟩ := Prod.mk.inj ((run_bind_error step _).symm.trans ran)
        refine ⟨fun _ _ ↦ rfl, nofun, fun path no ↦ ?_⟩
        obtain rfl : file.path = path := OutputError.unsafePath.inj (Except.error.inj no)
        exact ⟨[], file, rest, rfl, rfl, leaves, nofun, by rwa [List.append_nil]⟩
      | failed path fault outside =>
        obtain ⟨rfl, rfl⟩ := Prod.mk.inj ((run_bind_error step _).symm.trans ran)
        exact ⟨outside, nofun, nofun⟩

/-- **Writing stays inside.** Files with any paths are written below an empty folder. Outside of it
nothing changes; if all have been written, they are as many as there are files, and the folder holds
them, the last one for each list of components; and if a path has been refused, it is the first one
with a component that is not a name, and the folder holds what was before it. -/
theorem writeAll_staysInside (limits : Limits) (files : List SourceFile)
    (fresh : tree.find .none folder = .ok .empty) {result : Except OutputError Nat}
    (ran : (writeAll files (.ofTree limits) folder).run.run tree = (result, after)) :
    ∃ here, tree.locate .none [] (parts folder) = .ok here ∧
      (∀ names, ¬ here <+: names → after.look names = tree.look names) ∧
      (∀ n, result = .ok n → n = files.length ∧
        (∀ f ∈ files, ∀ c ∈ components f.path, c.isName = true) ∧ Holds files here after) ∧
      (∀ path, result = .error (.unsafePath path) → ∃ before file later,
        files = before ++ file :: later ∧ file.path = path ∧
          (∃ c ∈ components path, c.isName = false) ∧
          (∀ f ∈ before, ∀ c ∈ components f.path, c.isName = true) ∧ Holds before here after) := by
  obtain ⟨here, leads, found⟩ := exists_leads fresh
  refine ⟨here, leads.way, ?_⟩
  cases step : (files.forM fun file ↦ file.writeBelow (.ofTree limits) folder).run.run tree with
  | mk reached next =>
    obtain ⟨outside, all, refused⟩ := holds_of_forM limits [] leads (.of_empty found) step
    cases reached with
    | ok done =>
      obtain ⟨rfl, rfl⟩ := Prod.mk.inj ((run_bind step _).symm.trans ran)
      refine ⟨outside, fun n ok ↦ ?_, nofun⟩
      obtain ⟨safe, held⟩ := all rfl
      exact ⟨(Except.ok.inj ok).symm, fun f mem ↦ (isContained_iff _).mp (safe f mem), held⟩
    | error fault =>
      obtain ⟨rfl, rfl⟩ := Prod.mk.inj ((run_bind_error step _).symm.trans ran)
      refine ⟨outside, nofun, fun path no ↦ ?_⟩
      obtain ⟨before, file, later, eq, here_, leaves, safe, held⟩ :=
        refused path (congrArg Except.error (Except.error.inj no))
      exact ⟨before, file, later, eq, here_, (isContained_eq_false_iff path).mp leaves,
        fun f mem ↦ (isContained_iff _).mp (safe f mem), held⟩

/-- An empty folder beside a file. -/
def vacantFolder : FileTree := .folder [("notes", .file "keep"), ("out", .empty)]

/-- Two spellings of one path, and a path between them. -/
def respelled : List SourceFile := [⟨"a//b", "first"⟩, ⟨"a/c", "other"⟩, ⟨"a/./b", "last"⟩]

/-- A path that goes up, after one that does not. -/
def climbing : List SourceFile := [⟨"a/b", "inside"⟩, ⟨"a/../../notes", "lost"⟩, ⟨"c", "late"⟩]

/-- What comes of writing files below the empty folder. -/
def writtenOut (files : List SourceFile) : Except OutputError Nat × FileTree :=
  (writeAll files (.ofTree .none) "out/").run.run vacantFolder

theorem writeAll_staysInside_vacantFolder : vacantFolder.find .none "out/" = .ok .empty ∧
    ((writtenOut respelled).1 = .ok 3 ∧
      (writtenOut respelled).2.look ["notes"] = some (.file "keep") ∧
      (writtenOut respelled).2.look ["out", "a", "b"] = some (.file "last")) ∧
    (writtenOut climbing).1 = .error (.unsafePath "a/../../notes") ∧
      (writtenOut climbing).2.look ["notes"] = some (.file "keep") ∧
      Holds [⟨"a/b", "inside"⟩] ["out"] (writtenOut climbing).2 := by
  have fresh : vacantFolder.find .none "out/" = .ok .empty := rfl
  have way : vacantFolder.locate .none [] (parts "out/") = .ok ["out"] := rfl
  have all : (writtenOut respelled).1 = .ok 3 := by decide +kernel
  have stopped : (writtenOut climbing).1 = .error (.unsafePath "a/../../notes") := by
    decide +kernel
  have ran (files : List SourceFile) :
      (writeAll files (.ofTree .none) "out/").run.run vacantFolder =
        ((writtenOut files).1, (writtenOut files).2) := rfl
  obtain ⟨here, there, outside, held, -⟩ :=
    writeAll_staysInside .none respelled fresh (ran respelled)
  obtain rfl : ["out"] = here := Except.ok.inj (way.symm.trans there)
  obtain ⟨here, there, above, -, refused⟩ :=
    writeAll_staysInside .none climbing fresh (ran climbing)
  obtain rfl : ["out"] = here := Except.ok.inj (way.symm.trans there)
  have last : lastContent? respelled ["a", "b"] = some "last" := by decide +kernel
  have kept : vacantFolder.look ["notes"] = some (.file "keep") := by decide +kernel
  have beside : ¬ ["out"] <+: ["notes"] := by decide
  refine ⟨fresh, ⟨all, ?_, ?_⟩, stopped, ?_, ?_⟩
  · rw [outside _ beside, kept]
  · exact ((held 3 all).2.2.file ["a", "b"] "last").mpr last
  · rw [above _ beside, kept]
  · obtain ⟨before, file, later, eq, path, -, safe, holds⟩ := refused _ stopped
    -- The second file is the first one that is refused.
    rcases before with _ | ⟨first, _ | ⟨second, more⟩⟩
    · obtain ⟨rfl, -⟩ := List.cons.inj eq
      exact absurd path (by decide)
    · obtain ⟨rfl, -⟩ := List.cons.inj eq
      exact holds
    · obtain ⟨-, others⟩ := List.cons.inj eq
      obtain ⟨rfl, -⟩ := List.cons.inj others
      have named := safe _ (List.mem_cons_of_mem _ List.mem_cons_self) .up (by decide +kernel)
      exact absurd named Bool.false_ne_true

end Sitewright.SourceFile
