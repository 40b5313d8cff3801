import Mathlib.Data.List.Infix
import Sitewright.FileTree.Basic
import Sitewright.Proofs.FileTree.Paths

/-!
# Steps on trees

A tree is seen as a map: at a list of names there is a folder, a file with its content, or nothing
(`FileTree.look`). Every step is then described by what can be seen after it, and nothing has to be
said about the order in which a folder keeps its entries. Putting a file or an empty folder into a
folder that is there changes what is seen at that place and below, and nowhere else; making folders
shows folders along the way and nothing else (`FileTree.exists_makeFrom`), and then a file can be
put at the end of the way (`FileTree.Opened.put`). What one part of a path does on the way is told
by `FileTree.locate_cons_eq_ok_iff` and `FileTree.makeFrom_cons_eq_ok_iff`.

How long names may be does not matter here. Bounds only refuse steps (`FileTree.locate_none`,
`FileTree.makeFrom_none`), so what is possible is told of a tree without limits.
-/

namespace Sitewright.FileTree

/-- No bounds on names and paths. -/
def Limits.none : Limits := ⟨Option.none, Option.none⟩

/-- What can be seen at a place of a tree. -/
inductive Sight where
  /-- A folder, whatever is in it. -/
  | folder
  /-- A file with its content. -/
  | file (content : String)
  deriving DecidableEq

/-- What a tree looks like from above. -/
def sight : FileTree → Sight
  | file content => .file content
  | folder _ => .folder

/-- What can be seen at the end of a list of names. -/
def look (tree : FileTree) (names : List String) : Option Sight := (tree.at? names).map sight

variable {tree new after : FileTree} {here there names rest parts more : List String}
  {name content : String}

/-! ### Looking -/

@[simp] theorem look_nil (tree : FileTree) : tree.look [] = some tree.sight := by
  rw [look, at?_nil, Option.map_some]

theorem sight_eq_folder_iff : tree.sight = .folder ↔ ∃ entries, tree = folder entries := by
  cases tree with
  | file content => simp [sight]
  | folder entries => simp [sight]

theorem at?_append (tree : FileTree) (names rest : List String) :
    tree.at? (names ++ rest) = (tree.at? names).bind fun below ↦ below.at? rest := by
  induction names generalizing tree with
  | nil => rw [List.nil_append, at?_nil, Option.bind_some]
  | cons name names ih =>
    cases tree with
    | file content => rfl
    | folder entries =>
      rw [List.cons_append, at?_folder_cons, at?_folder_cons, Option.bind_assoc]
      exact Option.bind_congr fun below _ ↦ ih below

theorem look_eq_folder_iff :
    tree.look names = some .folder ↔ ∃ entries, tree.at? names = some (folder entries) := by
  rw [look, Option.map_eq_some_iff]
  constructor
  · rintro ⟨found, eq, sight⟩
    obtain ⟨entries, rfl⟩ := sight_eq_folder_iff.mp sight
    exact ⟨entries, eq⟩
  · rintro ⟨entries, eq⟩
    exact ⟨folder entries, eq, rfl⟩

/-- Below a place there is what is in the tree at that place. -/
theorem look_append_of_at? (h : tree.at? here = some new) (names : List String) :
    tree.look (here ++ names) = new.look names := by
  rw [look, at?_append, h, Option.bind_some, look]

/-- Below nothing there is nothing. -/
theorem look_append_of_none (h : tree.look names = none) (rest : List String) :
    tree.look (names ++ rest) = none := by
  rw [look, Option.map_eq_none_iff] at h ⊢
  rw [at?_append, h, Option.bind_none]

/-- Below a file there is nothing. -/
theorem look_append_of_file (h : tree.look names = some (.file content)) (name : String)
    (rest : List String) : tree.look (names ++ name :: rest) = none := by
  obtain ⟨found, eq, sight⟩ := Option.map_eq_some_iff.mp h
  cases found with
  | folder entries => cases sight
  | file content =>
    rw [look, at?_append, eq, Option.bind_some, at?_file_cons, Option.map_none]

/-- Above something there are folders. -/
theorem look_of_append (h : tree.look (names ++ name :: rest) ≠ none) :
    tree.look names = some .folder := by
  cases found : tree.look names with
  | none => exact absurd (look_append_of_none found _) h
  | some sight =>
    cases sight with
    | folder => rfl
    | file content => exact absurd (look_append_of_file found name rest) h

/-- Below what is not a folder there is nothing. -/
theorem look_append_of_ne_folder (h : tree.look names ≠ some .folder) (name : String)
    (rest : List String) : tree.look (names ++ name :: rest) = none := by
  by_contra some
  exact h (look_of_append some)

/-- A way down to a folder starts in a folder and goes through one of its entries. -/
theorem exists_entry (h : tree.look (name :: here) = some .folder) : ∃ entries below,
    tree = .folder entries ∧ Entries.find? name entries = some below ∧
      below.look here = some .folder := by
  have top : tree.look [] = some .folder := look_of_append (by
    rw [List.nil_append, h]
    exact Option.some_ne_none _)
  rw [look_nil, Option.some.injEq] at top
  obtain ⟨entries, rfl⟩ := sight_eq_folder_iff.mp top
  rw [look, at?_folder_cons] at h
  cases found : Entries.find? name entries with
  | none =>
    rw [found] at h
    cases h
  | some below =>
    rw [found, Option.bind_some, ← look] at h
    exact ⟨entries, below, rfl, found, h⟩

/-! ### Putting something into a folder -/

/-- **What has been put somewhere is seen there.** -/
theorem look_set_append (h : tree.look here = some .folder) (new : FileTree) (name : String)
    (rest : List String) : (tree.set new (here ++ [name])).look (here ++ name :: rest) =
      new.look rest := by
  induction here generalizing tree with
  | nil =>
    rw [look_nil, Option.some.injEq] at h
    obtain ⟨entries, rfl⟩ := sight_eq_folder_iff.mp h
    rw [List.nil_append, List.nil_append, set, set, look, at?_folder_cons,
      Entries.find?_insert_self, Option.bind_some, look]
  | cons first here ih =>
    obtain ⟨entries, below, rfl, found, folder⟩ := exists_entry h
    rw [List.cons_append, List.cons_append, set, found, Option.getD_some, look, at?_folder_cons,
      Entries.find?_insert_self, Option.bind_some, ← look]
    exact ih folder

/-- **Elsewhere nothing changes.** -/
theorem look_set_elsewhere (h : tree.look here = some .folder) (new : FileTree)
    (elsewhere : ¬ here ++ [name] <+: names) :
    (tree.set new (here ++ [name])).look names = tree.look names := by
  induction here generalizing tree names with
  | nil =>
    rw [look_nil, Option.some.injEq] at h
    obtain ⟨entries, rfl⟩ := sight_eq_folder_iff.mp h
    cases names with
    | nil => rfl
    | cons other names =>
      have ne : other ≠ name := by
        rintro rfl
        exact elsewhere (by simp)
      rw [List.nil_append, set, set, look, look, at?_folder_cons, at?_folder_cons,
        Entries.find?_insert_of_ne ne]
  | cons first here ih =>
    obtain ⟨entries, below, rfl, found, folder⟩ := exists_entry h
    cases names with
    | nil => rfl
    | cons other names =>
      rw [List.cons_append, set, look, look, at?_folder_cons, at?_folder_cons]
      by_cases eq : other = first
      · subst eq
        rw [found, Option.getD_some, Entries.find?_insert_self, Option.bind_some,
          Option.bind_some, ← look, ← look]
        refine ih folder fun inside ↦ elsewhere ?_
        rw [List.cons_append]
        exact List.prefix_cons_inj other |>.mpr inside
      · rw [Entries.find?_insert_of_ne eq]

/-- A file or an empty folder in a place where no folder was changes what is seen there, and
nothing else. -/
theorem look_set_of_ne_folder (h : tree.look here = some .folder)
    (free : tree.look (here ++ [name]) ≠ some .folder)
    (bare : ∀ name rest, new.look (name :: rest) = none)
    (names : List String) : (tree.set new (here ++ [name])).look names =
      if names = here ++ [name] then some new.sight else tree.look names := by
  by_cases inside : here ++ [name] <+: names
  · obtain ⟨rest, rfl⟩ := inside
    rw [List.append_assoc, List.singleton_append, look_set_append h]
    cases rest with
    | nil => rw [if_pos rfl, look_nil]
    | cons next rest =>
      have below : tree.look (here ++ name :: next :: rest) = none := by
        have nothing := look_append_of_ne_folder free next rest
        rwa [List.append_assoc, List.singleton_append] at nothing
      rw [if_neg (by simp), below]
      exact bare next rest
  · rw [look_set_elsewhere h new inside, if_neg]
    rintro rfl
    exact inside (List.prefix_refl _)

theorem look_empty_cons (name : String) (rest : List String) :
    empty.look (name :: rest) = none := rfl

/-- In an empty folder nothing is seen but the folder. -/
theorem look_empty (names : List String) :
    empty.look names = if names = [] then some .folder else none := by
  cases names with
  | nil => rfl
  | cons name rest => rw [look_empty_cons, if_neg (List.cons_ne_nil name rest)]

/-- A folder that has been made is seen, and everything else is as it was. -/
theorem look_set_empty (h : tree.look here = some .folder)
    (nothing : tree.look (here ++ [name]) = none) (names : List String) :
    (tree.set empty (here ++ [name])).look names =
      if names = here ++ [name] then some .folder else tree.look names :=
  look_set_of_ne_folder h (by rw [nothing]; exact nofun) look_empty_cons names

theorem look_file_cons (content name : String) (rest : List String) :
    (file content).look (name :: rest) = none := rfl

/-! ### Finding the way -/

/-- The way leads on from where it led to. -/
theorem locate_append (limits : Limits) (tree : FileTree) (here parts more : List String) :
    tree.locate limits here (parts ++ more) =
      (tree.locate limits here parts).bind fun there ↦ tree.locate limits there more := by
  induction parts generalizing here with
  | nil => rfl
  | cons part parts ih =>
    rw [List.cons_append, locate, locate]
    split
    · rfl
    · rfl
    · split
      · exact ih here
      · split
        · exact ih here.dropLast
        · split
          · exact ih (here ++ [part])
          · rfl

/-- **One step of a way.** It starts in a folder, and its first part stays there, goes up, or is a
name that is not too long. -/
theorem locate_cons_eq_ok_iff {limits : Limits} {part : String} :
    tree.locate limits here (part :: rest) = .ok there ↔ tree.look here = some .folder ∧
      ((FilePath.isIdle part = true ∧ tree.locate limits here rest = .ok there) ∨
        (part = ".." ∧ tree.locate limits here.dropLast rest = .ok there) ∨
        (FilePath.isName part = true ∧ fits limits.name part = true ∧
          tree.locate limits (here ++ [part]) rest = .ok there)) := by
  rw [locate, look]
  cases tree.at? here with
  | none => simp
  | some found =>
    cases found with
    | file content => simp [sight]
    | folder entries =>
      by_cases idle : FilePath.isIdle part = true
      · simp [sight, idle, FilePath.isName_iff, FilePath.ne_up_of_isIdle idle]
      · by_cases up : part = ".."
        · have busy : FilePath.isIdle ".." = false := by decide
          simp [sight, busy, up, FilePath.isName_iff]
        · by_cases fit : fits limits.name part = true
          · simp [sight, idle, up, fit, FilePath.isName_iff]
          · simp [sight, idle, up, fit, FilePath.isName_iff]

/-- A way goes through folders, so a tree that shows all of them shows the way. -/
theorem locate_of_keeps {limits : Limits}
    (keeps : ∀ names, tree.look names = some .folder → after.look names = some .folder)
    (h : tree.locate limits here parts = .ok there) :
    after.locate limits here parts = .ok there := by
  induction parts generalizing here with
  | nil => exact h
  | cons part parts ih =>
    obtain ⟨top, step⟩ := locate_cons_eq_ok_iff.mp h
    refine locate_cons_eq_ok_iff.mpr ⟨keeps here top, ?_⟩
    rcases step with ⟨idle, later⟩ | ⟨up, later⟩ | ⟨named, fit, later⟩
    · exact .inl ⟨idle, ih later⟩
    · exact .inr (.inl ⟨up, ih later⟩)
    · exact .inr (.inr ⟨named, fit, ih later⟩)

/-- Bounds only refuse ways. -/
theorem locate_none {limits : Limits} (h : tree.locate limits here parts = .ok there) :
    tree.locate .none here parts = .ok there := by
  induction parts generalizing here with
  | nil => exact h
  | cons part parts ih =>
    obtain ⟨top, step⟩ := locate_cons_eq_ok_iff.mp h
    refine locate_cons_eq_ok_iff.mpr ⟨top, ?_⟩
    rcases step with ⟨idle, later⟩ | ⟨up, later⟩ | ⟨named, -, later⟩
    · exact .inl ⟨idle, ih later⟩
    · exact .inr (.inl ⟨up, ih later⟩)
    · exact .inr (.inr ⟨named, rfl, ih later⟩)

/-- Names lead below a folder if there is a folder at each but the last. -/
theorem locate_names (named : ∀ part ∈ parts, FilePath.isName part = true)
    (folders : ∀ before, before <+: parts → before ≠ parts →
      tree.look (here ++ before) = some .folder) :
    tree.locate .none here parts = .ok (here ++ parts) := by
  induction parts generalizing here with
  | nil => rw [locate, List.append_nil]
  | cons part parts ih =>
    obtain ⟨first, others⟩ := List.forall_mem_cons.mp named
    have top := folders [] List.nil_prefix (List.cons_ne_nil part parts).symm
    rw [List.append_nil] at top
    have next : tree.locate .none (here ++ [part]) parts = .ok (here ++ [part] ++ parts) := by
      refine ih others fun before hbefore ne ↦ ?_
      have one := folders (part :: before) ((List.prefix_cons_inj part).mpr hbefore)
        fun eq ↦ ne (List.cons.inj eq).2
      rwa [List.append_cons] at one
    rw [List.append_cons]
    exact locate_cons_eq_ok_iff.mpr ⟨top, .inr (.inr ⟨first, rfl, next⟩)⟩

/-! ### Making folders -/

/-- **One step of making folders.** The first part stays in the folder, goes up, or is a name that
is not too long; at the name there is a folder already, or an empty one is put there. -/
theorem makeFrom_cons_eq_ok_iff {limits : Limits} {part : String} :
    tree.makeFrom limits here (part :: rest) = .ok after ↔
      (FilePath.isIdle part = true ∧ tree.makeFrom limits here rest = .ok after) ∨
        (part = ".." ∧ tree.makeFrom limits here.dropLast rest = .ok after) ∨
        (FilePath.isName part = true ∧ fits limits.name part = true ∧
          ((tree.look (here ++ [part]) = some .folder ∧
              tree.makeFrom limits (here ++ [part]) rest = .ok after) ∨
            (tree.look (here ++ [part]) = none ∧
              (tree.set empty (here ++ [part])).makeFrom limits (here ++ [part]) rest =
                .ok after))) := by
  rw [makeFrom, look]
  by_cases idle : FilePath.isIdle part = true
  · simp [idle, FilePath.isName_iff, FilePath.ne_up_of_isIdle idle]
  · by_cases up : part = ".."
    · have busy : FilePath.isIdle ".." = false := by decide
      simp [busy, up, FilePath.isName_iff]
    · by_cases fit : fits limits.name part = true
      · cases found : tree.at? (here ++ [part]) with
        | none => simp [found, idle, up, fit, FilePath.isName_iff]
        | some below =>
          cases below with
          | file content => simp [found, sight, idle, up, fit, FilePath.isName_iff]
          | folder entries => simp [found, sight, idle, up, fit, FilePath.isName_iff]
      · simp [idle, up, fit, FilePath.isName_iff]

/-- Bounds only refuse to make folders. -/
theorem makeFrom_none {limits : Limits} (h : tree.makeFrom limits here parts = .ok after) :
    tree.makeFrom .none here parts = .ok after := by
  induction parts generalizing tree here with
  | nil => exact h
  | cons part parts ih =>
    refine makeFrom_cons_eq_ok_iff.mpr ?_
    rcases makeFrom_cons_eq_ok_iff.mp h with
      ⟨idle, later⟩ | ⟨up, later⟩ | ⟨named, -, ⟨folder, later⟩ | ⟨nothing, later⟩⟩
    · exact .inl ⟨idle, ih later⟩
    · exact .inr (.inl ⟨up, ih later⟩)
    · exact .inr (.inr ⟨named, rfl, .inl ⟨folder, ih later⟩⟩)
    · exact .inr (.inr ⟨named, rfl, .inr ⟨nothing, ih later⟩⟩)

/-- Where a way leads through folders, none has to be made. -/
theorem makeFrom_append (limits : Limits) (h : tree.locate limits here parts = .ok there)
    (end_ : tree.look there = some .folder) (more : List String) :
    tree.makeFrom limits here (parts ++ more) = tree.makeFrom limits there more := by
  induction parts generalizing here with
  | nil =>
    obtain rfl : here = there := Except.ok.inj h
    rfl
  | cons part parts ih =>
    rw [List.cons_append, makeFrom]
    rcases (locate_cons_eq_ok_iff.mp h).2 with ⟨idle, later⟩ | ⟨rfl, later⟩ | ⟨named, fit, later⟩
    · rw [if_pos idle]
      exact ih later
    · rw [if_neg (by decide), if_pos rfl]
      exact ih later
    · -- The folder is there, because the way leads through it or ends in it.
      have folder : tree.look (here ++ [part]) = some .folder := by
        cases parts with
        | nil =>
          obtain rfl : here ++ [part] = there := Except.ok.inj later
          exact end_
        | cons next parts => exact (locate_cons_eq_ok_iff.mp later).1
      obtain ⟨entries, found⟩ := look_eq_folder_iff.mp folder
      obtain ⟨busy, down⟩ := FilePath.isName_iff.mp named
      rw [busy, if_neg Bool.false_ne_true, if_neg down, fit, Bool.not_true,
        if_neg Bool.false_ne_true]
      dsimp only
      rw [found]
      exact ih later

/-- Idle parts at the end make no folder. -/
theorem makeFrom_append_idle {limits : Limits} {idle : List String}
    (h : ∀ part ∈ idle, FilePath.isIdle part = true) :
    tree.makeFrom limits here (parts ++ idle) = .ok after ↔
      tree.makeFrom limits here parts = .ok after := by
  induction parts generalizing tree here with
  | nil =>
    rw [List.nil_append]
    induction idle with
    | nil => rfl
    | cons part idle ih =>
      obtain ⟨first, others⟩ := List.forall_mem_cons.mp h
      have step : tree.makeFrom limits here (part :: idle) = tree.makeFrom limits here idle := by
        rw [makeFrom, if_pos first]
      rw [step]
      exact ih others
  | cons part parts ih =>
    rw [List.cons_append, makeFrom_cons_eq_ok_iff, makeFrom_cons_eq_ok_iff]
    simp only [ih]

/-! ### Folders on the way -/

/-- Names on the way from `here` along some parts, both ends included. -/
def OnWay (here parts names : List String) : Prop := here <+: names ∧ names <+: here ++ parts

instance (here parts names : List String) : Decidable (OnWay here parts names) :=
  inferInstanceAs (Decidable (_ ∧ _))

theorem onWay_start : OnWay here parts here := ⟨List.prefix_refl _, List.prefix_append ..⟩

theorem onWay_end : OnWay here parts (here ++ parts) := ⟨List.prefix_append .., List.prefix_refl _⟩

theorem onWay_nil_iff : OnWay here [] names ↔ names = here := by
  rw [OnWay, List.append_nil]
  constructor
  · rintro ⟨above, below⟩
    exact (above.eq_of_length_le below.length_le).symm
  · rintro rfl
    exact ⟨List.prefix_refl _, List.prefix_refl _⟩

/-- Past its start, a way is the way from the next folder on. -/
theorem onWay_cons_iff (past : names ≠ here) :
    OnWay here (name :: parts) names ↔ OnWay (here ++ [name]) parts names := by
  rw [OnWay, OnWay, List.append_assoc, List.singleton_append]
  constructor
  · rintro ⟨⟨more, rfl⟩, below⟩
    cases more with
    | nil => exact absurd (List.append_nil here) past
    | cons next more =>
      have first := (List.prefix_append_right_inj here).mp below
      obtain ⟨rfl, -⟩ := List.cons_prefix_cons.mp first
      exact ⟨(List.prefix_append_right_inj here).mpr ⟨more, rfl⟩, below⟩
  · rintro ⟨above, below⟩
    exact ⟨(List.prefix_append here [name]).trans above, below⟩

/-- A way does not lead back. -/
theorem not_onWay_before : ¬ OnWay (here ++ [name]) parts here := by
  rintro ⟨above, -⟩
  have longer := above.length_le
  rw [List.length_append, List.length_singleton] at longer
  omega

/-- There are folders on all of a way, and everything else is as it was. -/
def Opened (tree : FileTree) (here parts : List String) (after : FileTree) : Prop :=
  ∀ names, after.look names = if OnWay here parts names then some .folder else tree.look names

namespace Opened

variable {mid : FileTree}

theorem nil (start : tree.look here = some .folder) : Opened tree here [] tree := by
  intro names
  split
  · rename_i between
    rw [onWay_nil_iff.mp between, start]
  · rfl

/-- A way is opened folder by folder. -/
theorem cons (start : tree.look here = some .folder)
    (next : ∀ names, mid.look names =
      if names = here ++ [name] then some .folder else tree.look names)
    (h : Opened mid (here ++ [name]) parts after) : Opened tree here (name :: parts) after := by
  intro names
  rw [h names, next names]
  by_cases eq : names = here
  · rw [eq, if_neg not_onWay_before, if_neg (by simp), if_pos onWay_start, start]
  · rw [if_congr (onWay_cons_iff eq).symm rfl rfl]
    split
    · rfl
    · rename_i outside
      rw [if_neg]
      rintro rfl
      exact outside ((onWay_cons_iff eq).mpr onWay_start)

theorem cons_of_folder (start : tree.look here = some .folder)
    (found : tree.look (here ++ [name]) = some .folder)
    (h : Opened tree (here ++ [name]) parts after) : Opened tree here (name :: parts) after := by
  refine h.cons start fun names ↦ ?_
  split
  · rename_i eq
    rw [eq, found]
  · rfl

theorem cons_of_none (start : tree.look here = some .folder)
    (nothing : tree.look (here ++ [name]) = none)
    (h : Opened (tree.set empty (here ++ [name])) (here ++ [name]) parts after) :
    Opened tree here (name :: parts) after :=
  h.cons start (look_set_empty start nothing)

end Opened

/-- **Folders along the way.** Where no file is in the way, all folders on it can be made, and
nothing else changes. -/
theorem exists_makeFrom (named : ∀ part ∈ parts, FilePath.isName part = true)
    (start : tree.look here = some .folder)
    (free : ∀ before, before <+: parts → ∀ content,
      tree.look (here ++ before) ≠ some (.file content)) :
    ∃ after, tree.makeFrom .none here parts = .ok after ∧ Opened tree here parts after := by
  induction parts generalizing tree here with
  | nil => exact ⟨tree, rfl, .nil start⟩
  | cons part parts ih =>
    obtain ⟨first, others⟩ := List.forall_mem_cons.mp named
    have later (before : List String) (hbefore : before <+: parts) (content : String) :
        tree.look (here ++ [part] ++ before) ≠ some (.file content) := by
      rw [List.append_assoc, List.singleton_append]
      exact free (part :: before) ((List.prefix_cons_inj part).mpr hbefore) content
    cases found : tree.look (here ++ [part]) with
    | some seen =>
      cases seen with
      | file content =>
        have taken : tree.look (here ++ [part] ++ []) = some (.file content) := by
          rw [List.append_nil, found]
        exact absurd taken (later [] List.nil_prefix content)
      | folder =>
        obtain ⟨after, made, opened⟩ := ih others found later
        exact ⟨after, makeFrom_cons_eq_ok_iff.mpr (.inr (.inr ⟨first, rfl, .inl ⟨found, made⟩⟩)),
          opened.cons_of_folder start found⟩
    | none =>
      have next := look_set_empty start found
      have folder : (tree.set empty (here ++ [part])).look (here ++ [part]) = some .folder := by
        rw [next, if_pos rfl]
      have still (before : List String) (hbefore : before <+: parts) (content : String) :
          (tree.set empty (here ++ [part])).look (here ++ [part] ++ before) ≠
            some (.file content) := by
        rw [next]
        split
        · exact nofun
        · exact later before hbefore content
      obtain ⟨after, made, opened⟩ := ih others folder still
      exact ⟨after, makeFrom_cons_eq_ok_iff.mpr (.inr (.inr ⟨first, rfl, .inr ⟨found, made⟩⟩)),
        opened.cons_of_none start found⟩

/-! ### A file at the end of the way -/

/-- Some names lead to where a file can be: no file is on the way, and no folder at the end. -/
structure Clear (tree : FileTree) (here parts : List String) : Prop where
  /-- No file is on the way. -/
  above : ∀ before, before <+: parts → before ≠ parts → ∀ content,
    tree.look (here ++ before) ≠ some (.file content)
  /-- No folder is at the end. -/
  end_ : tree.look (here ++ parts) ≠ some .folder

/-- A file is at the end of a way, there are folders on the way to it, and everything else is as it
was. -/
def Put (tree : FileTree) (here parts : List String) (content : String) (after : FileTree) : Prop :=
  ∀ names, after.look names =
    if names = here ++ parts then some (.file content)
    else if OnWay here parts names then some .folder else tree.look names

namespace Opened

variable {mid : FileTree}

/-- Folders stay. -/
theorem look_folder (h : Opened tree here parts mid) (folder : tree.look names = some .folder) :
    mid.look names = some .folder := by
  rw [h names, folder, ite_self]

theorem look_outside (h : Opened tree here parts mid) (outside : ¬ here <+: names) :
    mid.look names = tree.look names := by
  rw [h, if_neg fun between ↦ outside between.1]

/-- What is new at the end of a way is still free when the way has been opened. -/
theorem look_next (h : Opened tree here parts mid) (fresh : tree.look (here ++ parts ++ [name]) =
    none) : mid.look (here ++ parts ++ [name]) = none := by
  have beyond : ¬ OnWay here parts (here ++ parts ++ [name]) := by
    rintro ⟨-, below⟩
    have longer := below.length_le
    rw [List.length_append, List.length_singleton] at longer
    omega
  rw [h, if_neg beyond, fresh]

/-- An opened way leads to its end, and to what comes next. -/
theorem locate (h : Opened tree here parts mid)
    (named : ∀ part ∈ parts ++ [name], FilePath.isName part = true) :
    mid.locate .none here (parts ++ [name]) = .ok (here ++ (parts ++ [name])) := by
  refine locate_names named fun before hbefore ne ↦ ?_
  have short : before <+: parts := by
    rcases List.prefix_concat_iff.mp hbefore with eq | short
    · exact absurd eq ne
    · exact short
  rw [h, if_pos ⟨List.prefix_append .., (List.prefix_append_right_inj here).mpr short⟩]

/-- A file can be put where folders lead, of which some may have been there before. -/
theorem put_of_folders {before : List String} (h : Opened tree here before mid)
    (short : before <+: parts)
    (folders : ∀ middle, middle <+: parts → mid.look (here ++ middle) = some .folder)
    (free : mid.look (here ++ parts ++ [name]) ≠ some .folder) (content : String) :
    Put tree here (parts ++ [name]) content
      (mid.set (.file content) (here ++ parts ++ [name])) := by
  have top : mid.look (here ++ parts) = some .folder := folders parts (List.prefix_refl _)
  intro names
  rw [look_set_of_ne_folder top free (look_file_cons _), ← List.append_assoc]
  by_cases eq : names = here ++ parts ++ [name]
  · rw [if_pos eq, if_pos eq]
    rfl
  · have below : OnWay here (parts ++ [name]) names ↔ OnWay here parts names := by
      rw [OnWay, ← List.append_assoc, List.prefix_concat_iff, or_iff_right eq]
      rfl
    rw [if_neg eq, if_neg eq, if_congr below rfl rfl]
    split
    · rename_i onWay
      obtain ⟨⟨middle, rfl⟩, inside⟩ := onWay
      exact folders middle ((List.prefix_append_right_inj here).mp inside)
    · rename_i outside
      rw [h, if_neg]
      rintro ⟨above, inside⟩
      exact outside ⟨above, inside.trans ((List.prefix_append_right_inj here).mpr short)⟩

/-- A file can be put at the end of an opened way. -/
theorem put (h : Opened tree here parts mid) (fresh : tree.look (here ++ parts ++ [name]) = none)
    (content : String) : Put tree here (parts ++ [name]) content
      (mid.set (.file content) (here ++ parts ++ [name])) := by
  refine h.put_of_folders (List.prefix_refl _) (fun middle inside ↦ ?_) ?_ content
  · rw [h, if_pos ⟨List.prefix_append .., (List.prefix_append_right_inj here).mpr inside⟩]
  · rw [h.look_next fresh]
    exact nofun

end Opened

namespace Put

/-- What is seen below the folder that the way starts in. -/
theorem look_append (h : Put tree here parts content after) (names : List String) :
    after.look (here ++ names) =
      if names = parts then some (.file content)
      else if names <+: parts then some .folder else tree.look (here ++ names) := by
  have onWay : OnWay here parts (here ++ names) ↔ names <+: parts := by
    rw [OnWay, List.prefix_append_right_inj, and_iff_right (List.prefix_append ..)]
  have end_ : here ++ names = here ++ parts ↔ names = parts := List.append_right_inj here
  rw [h, if_congr end_ rfl (if_congr onWay rfl rfl)]

theorem look_outside (h : Put tree here parts content after) (outside : ¬ here <+: names) :
    after.look names = tree.look names := by
  rw [h, if_neg, if_neg fun between ↦ outside between.1]
  rintro rfl
  exact outside (List.prefix_append ..)

/-- Folders stay. -/
theorem look_folder (h : Put tree here parts content after) (clear : tree.Clear here parts)
    (folder : tree.look names = some .folder) : after.look names = some .folder := by
  rw [h, if_neg, folder, ite_self]
  rintro rfl
  exact clear.end_ folder

/-- The files are the one that has been put there, and those elsewhere. -/
theorem look_eq_file_iff (h : Put tree here parts content after) (clear : tree.Clear here parts)
    (names : List String) (other : String) :
    after.look (here ++ names) = some (.file other) ↔
      if names = parts then content = other
      else tree.look (here ++ names) = some (.file other) := by
  rw [h.look_append]
  by_cases end_ : names = parts
  · rw [if_pos end_, if_pos end_]
    simp
  · rw [if_neg end_, if_neg end_]
    split
    · rename_i above
      exact ⟨nofun, fun file ↦ absurd file (clear.above names above end_ other)⟩
    · rfl

/-- The folders are those that were there, and those on the way. -/
theorem look_eq_folder_iff (h : Put tree here parts content after) (clear : tree.Clear here parts)
    (names : List String) : after.look (here ++ names) = some .folder ↔
      tree.look (here ++ names) = some .folder ∨ names <+: parts ∧ names ≠ parts := by
  rw [h.look_append]
  by_cases end_ : names = parts
  · rw [if_pos end_, or_iff_left fun above ↦ above.2 end_]
    exact ⟨nofun, fun folder ↦ absurd folder (end_ ▸ clear.end_)⟩
  · rw [if_neg end_, and_iff_left end_]
    split
    · rename_i above
      exact ⟨fun _ ↦ .inr above, fun _ ↦ rfl⟩
    · rename_i beside
      rw [or_iff_left beside]

end Put

end Sitewright.FileTree
