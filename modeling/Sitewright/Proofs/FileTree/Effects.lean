import Sitewright.Proofs.FileTree.Components
import Sitewright.Proofs.FileTree.Steps

/-!
# Steps that were taken

What a step has done if it was possible, whatever is in the tree and however long names may be. A
way that does not go up leads down through folders (`FileTree.of_locate`). Making folders along it
has made those, and no file was there (`FileTree.of_makeFrom`). So where a file has been written
below a folder, with the folders that its path leads through, it has been put at the end of the
names in the path, and neither a file on the way nor a folder at the end has been lost
(`FileTree.put_of_write`).
-/

namespace Sitewright.FileTree

open FilePath

variable {tree mid after : FileTree} {limits : Limits} {path content : String}
  {here there start parts names : List String}

/-! ### Ways that lead down -/

/-- A way that does not go up leads down through folders. -/
theorem of_locate (down : ".." ∉ parts) (h : tree.locate limits here parts = .ok there) :
    there = here ++ busy parts ∧ ∀ before, before <+: busy parts → before ≠ busy parts →
      tree.look (here ++ before) = some .folder := by
  induction parts generalizing here with
  | nil =>
    obtain rfl : here = there := Except.ok.inj h
    refine ⟨(List.append_nil here).symm, fun before short ne ↦ ?_⟩
    exact absurd (List.prefix_nil.mp short) ne
  | cons part parts ih =>
    obtain ⟨ahead, others⟩ := List.ne_and_not_mem_of_not_mem_cons down
    obtain ⟨top, ⟨idle, later⟩ | ⟨up, -⟩ | ⟨named, -, later⟩⟩ := locate_cons_eq_ok_iff.mp h
    · rw [busy_cons_of_isIdle idle]
      exact ih others later
    · exact absurd up.symm ahead
    · obtain ⟨eq, folders⟩ := ih others later
      rw [busy_cons (isName_iff.mp named).1]
      refine ⟨by rw [eq, List.append_assoc, List.singleton_append], fun before short ne ↦ ?_⟩
      cases before with
      | nil => rwa [List.append_nil]
      | cons name before =>
        obtain ⟨rfl, shorter⟩ := List.cons_prefix_cons.mp short
        rw [List.append_cons]
        exact folders before shorter fun eq ↦ ne (by rw [eq])

/-- Below a folder no file is on the way if none is from the first name on. -/
theorem ne_file_cons {name : String} (top : tree.look here = some .folder)
    (free : ∀ before, before <+: names → ∀ content,
      tree.look (here ++ [name] ++ before) ≠ some (.file content)) :
    ∀ before, before <+: name :: names → ∀ content,
      tree.look (here ++ before) ≠ some (.file content) := by
  intro before short content
  cases before with
  | nil =>
    rw [List.append_nil, top]
    exact nofun
  | cons first before =>
    obtain ⟨rfl, shorter⟩ := List.cons_prefix_cons.mp short
    rw [List.append_cons]
    exact free before shorter content

/-- Folders that have been made along a way that does not go up: they are there now, and no file
was. -/
theorem of_makeFrom (down : ".." ∉ parts) (top : tree.look here = some .folder)
    (h : tree.makeFrom limits here parts = .ok after) :
    Opened tree here (busy parts) after ∧ ∀ before, before <+: busy parts → ∀ content,
      tree.look (here ++ before) ≠ some (.file content) := by
  induction parts generalizing tree here with
  | nil =>
    obtain rfl : tree = after := Except.ok.inj h
    refine ⟨.nil top, fun before short content ↦ ?_⟩
    rw [List.prefix_nil.mp short, List.append_nil, top]
    exact nofun
  | cons part parts ih =>
    obtain ⟨ahead, others⟩ := List.ne_and_not_mem_of_not_mem_cons down
    rcases makeFrom_cons_eq_ok_iff.mp h with
      ⟨idle, later⟩ | ⟨up, -⟩ | ⟨named, -, ⟨folder, later⟩ | ⟨nothing, later⟩⟩
    · rw [busy_cons_of_isIdle idle]
      exact ih others top later
    · exact absurd up.symm ahead
    · rw [busy_cons (isName_iff.mp named).1]
      obtain ⟨opened, free⟩ := ih others folder later
      exact ⟨opened.cons_of_folder top folder, ne_file_cons top free⟩
    · rw [busy_cons (isName_iff.mp named).1]
      have made : (tree.set empty (here ++ [part])).look (here ++ [part]) = some .folder := by
        rw [look_set_empty top nothing, if_pos rfl]
      obtain ⟨opened, -⟩ := ih others made later
      refine ⟨opened.cons_of_none top nothing, ne_file_cons top fun before _ content ↦ ?_⟩
      rw [look_append_of_none nothing]
      exact nofun

/-! ### Steps on paths -/

theorem parts_of_partsOf (h : partsOf limits path = .ok parts) : parts = FilePath.parts path := by
  rw [partsOf] at h
  split at h
  · cases h
  · split at h
    · exact (Except.ok.inj h).symm
    · cases h

/-- Folders have been made along the parts of the path. -/
theorem of_makeFolders (h : tree.makeFolders limits path = .ok after) :
    tree.makeFrom .none [] (FilePath.parts path) = .ok after := by
  rw [makeFolders] at h
  cases found : partsOf limits path with
  | error fault =>
    rw [found] at h
    cases h
  | ok parts =>
    rw [found] at h
    rw [← parts_of_partsOf found]
    exact makeFrom_none h

/-- A file has been written where the path leads, and no folder was there. -/
theorem of_write (h : tree.write limits path content = .ok after) : ∃ there,
    tree.locate .none [] (FilePath.parts path) = .ok there ∧ tree.look there ≠ some .folder ∧
      after = tree.set (.file content) there := by
  rw [write] at h
  cases found : partsOf limits path with
  | error fault =>
    rw [found] at h
    cases h
  | ok parts =>
    rw [found] at h
    simp only [bind, Except.bind] at h
    cases way : tree.locate limits [] parts with
    | error fault =>
      rw [way] at h
      cases h
    | ok there =>
      rw [way] at h
      dsimp only at h
      refine ⟨there, parts_of_partsOf found ▸ locate_none way, ?_⟩
      split at h
      · cases h
      · rename_i other
        refine ⟨fun folder ↦ ?_, (Except.ok.inj h).symm⟩
        obtain ⟨entries, eq⟩ := look_eq_folder_iff.mp folder
        exact other entries eq

/-- Making the folder that a path leads into makes folders that the path names. -/
theorem of_makeFolders_parent (split : FilePath.parts path = start ++ parts)
    (way : tree.locate .none [] start = .ok here) (top : tree.look here = some .folder)
    (h : tree.makeFolders limits (parent path) = .ok mid) :
    ∃ front, front <+: parts ∧ tree.makeFrom .none here front = .ok mid := by
  obtain ⟨front, short, eq⟩ := exists_parts_parent path
  have made : tree.makeFrom .none [] front = .ok mid := by
    have whole := of_makeFolders h
    rcases eq with eq | ⟨rfl, eq⟩
    · rw [eq] at whole
      exact whole
    · have idle : ∀ part ∈ [""], isIdle part = true := by decide
      rw [eq] at whole
      exact (makeFrom_append_idle idle).mp whole
  rw [split] at short
  rcases List.prefix_or_prefix_of_prefix short (List.prefix_append start parts) with before | after
  · -- The way has not come further than to a folder that is there.
    obtain ⟨rest, rfl⟩ := before
    rw [locate_append] at way
    cases reached : tree.locate .none [] front with
    | error fault =>
      rw [reached] at way
      cases way
    | ok middle =>
      rw [reached, Except.bind] at way
      have folder : tree.look middle = some .folder := by
        cases rest with
        | nil =>
          obtain rfl : middle = here := Except.ok.inj way
          exact top
        | cons part rest => exact (locate_cons_eq_ok_iff.mp way).1
      have same := makeFrom_append .none reached folder []
      rw [List.append_nil, made] at same
      exact ⟨[], List.nil_prefix, same.symm⟩
  · obtain ⟨inner, rfl⟩ := after
    rw [makeFrom_append .none way top] at made
    exact ⟨inner, (List.prefix_append_right_inj start).mp short, made⟩

/-! ### A file that was written -/

/-- Folders have been opened, and now the way leads through folders to no folder: so it was clear,
because no file was where the folders are. -/
theorem Opened.clear {front : List String} (opened : Opened tree here front mid)
    (free : ∀ before, before <+: front → ∀ content,
      tree.look (here ++ before) ≠ some (.file content))
    (folders : ∀ before, before <+: names → before ≠ names →
      mid.look (here ++ before) = some .folder)
    (place : mid.look (here ++ names) ≠ some .folder) : tree.Clear here names := by
  refine ⟨fun before short ne content seen ↦ ?_, fun folder ↦ place (opened.look_folder folder)⟩
  have folder := folders before short ne
  rw [opened] at folder
  split at folder
  · rename_i between
    exact free before ((List.prefix_append_right_inj here).mp between.2) content seen
  · rw [seen] at folder
    cases folder

/-- **A file that was written.** It has been put at the end of the names in its path, and nothing
has been lost but a file that was there. -/
theorem put_of_write (split : FilePath.parts path = start ++ parts) (down : ".." ∉ parts)
    (way : tree.locate .none [] start = .ok here) (top : tree.look here = some .folder)
    (made : tree.makeFolders limits (parent path) = .ok mid)
    (written : mid.write limits path content = .ok after) :
    Put tree here (busy parts) content after ∧ tree.Clear here (busy parts) := by
  obtain ⟨front, short, made⟩ := of_makeFolders_parent split way top made
  obtain ⟨opened, free⟩ := of_makeFrom (fun up ↦ down (short.subset up)) top made
  obtain ⟨there, reached, place, rfl⟩ := of_write written
  have kept : mid.locate .none [] start = .ok here :=
    locate_of_keeps (fun _ folder ↦ opened.look_folder folder) way
  rw [split, locate_append, kept, Except.bind] at reached
  obtain ⟨rfl, folders⟩ := of_locate down reached
  refine ⟨?_, opened.clear free folders place⟩
  -- The file is not where the folder is that the way started in.
  rcases List.eq_nil_or_concat (busy parts) with none | ⟨inner, name, eq⟩
  · rw [none, List.append_nil] at place
    exact absurd (opened.look_folder top) place
  rw [List.concat_eq_append] at eq
  have inside : busy front <+: inner := by
    have below : busy front <+: inner ++ [name] := eq ▸ short.filter _
    rcases List.prefix_concat_iff.mp below with whole | inside
    · have folder : mid.look (here ++ busy parts) = some .folder := by
        rw [eq, ← whole, opened, if_pos onWay_end]
      exact absurd folder place
    · exact inside
  have onWay (middle : List String) (short : middle <+: inner) :
      mid.look (here ++ middle) = some .folder := by
    refine folders middle (eq ▸ short.trans (List.prefix_append ..)) fun whole ↦ ?_
    have longer := (whole.trans eq ▸ short).length_le
    rw [List.length_append, List.length_singleton] at longer
    omega
  rw [eq, ← List.append_assoc] at place ⊢
  exact opened.put_of_folders inside onWay place content

end Sitewright.FileTree
