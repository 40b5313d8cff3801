import Sitewright.Proofs.Build.Files
import Sitewright.Proofs.Build.Writing
import Sitewright.Proofs.Image.Resolving
import Sitewright.Proofs.Naming.Names
import Sitewright.Site.Samples

/-!
# A site is a tree of files

The files of a site can be written below a folder, whatever the site is made of
(`Compiler.files_fill`): no path is given out twice, no path leaves the folder, and no file stands
where another one needs a folder.

The last point is the one that takes an argument, because routes and names are free texts. What is
derived from them is made of letters, digits and hyphens. So in all paths the folders are names
without a dot, and the file at the end is a name with one (`FilePath.isLeaf`); and a path of that
kind leads through another one only if it is the same.
-/

namespace Sitewright

open Naming

/-! ### Folders without dots, files with one -/

namespace FilePath

/-- Whether a part is the name of a folder: not empty, and made of name characters. -/
def isFolderName (part : String) : Bool := !part.isEmpty && part.toList.all isNameChar

/-- Whether a part is the name of a file: a name that is made of name characters and dots, with at
least one dot. -/
def isFileName (part : String) : Bool :=
  part.toList.all (fun c ↦ isNameChar c || c == '.') && part.toList.contains '.' && isName part

/-- Whether a path leads through folders to a file, told by their names. -/
def isLeaf (path : String) : Bool :=
  (parts path).dropLast.all isFolderName && (parts path).getLast?.any isFileName

variable {path a b part name : String} {folders : List String}

theorem isLeaf_of_parts (h : parts path = folders ++ [name])
    (hfolders : ∀ folder ∈ folders, isFolderName folder = true) (hname : isFileName name = true) :
    isLeaf path = true := by
  rw [isLeaf, h, List.dropLast_concat, List.getLast?_concat, Option.any_some, hname,
    List.all_eq_true.mpr hfolders]
  rfl

theorem exists_parts_of_isLeaf (h : isLeaf path = true) : ∃ folders name,
    parts path = folders ++ [name] ∧ (∀ folder ∈ folders, isFolderName folder = true) ∧
      isFileName name = true := by
  rw [isLeaf, Bool.and_eq_true, List.all_eq_true] at h
  obtain ⟨hfolders, last⟩ := h
  cases eq : (parts path).getLast? with
  | none =>
    rw [eq] at last
    cases last
  | some name =>
    rw [eq] at last
    obtain ⟨folders, split⟩ := List.getLast?_eq_some_iff.mp eq
    rw [split, List.dropLast_concat] at hfolders
    exact ⟨folders, name, split, hfolders, last⟩

theorem dot_notMem_of_isFolderName (h : isFolderName part = true) : '.' ∉ part.toList := by
  rw [isFolderName, Bool.and_eq_true, List.all_eq_true] at h
  intro mem
  have char := h.2 '.' mem
  cases char

theorem isName_of_isFolderName (h : isFolderName part = true) : isName part = true := by
  have some : part ≠ "" := by
    rintro rfl
    cases h
  have noDot := dot_notMem_of_isFolderName h
  have one : part ≠ "." := by
    rintro rfl
    exact noDot (by decide)
  have two : part ≠ ".." := by
    rintro rfl
    exact noDot (by decide)
  simp [isName, isIdle, some, one, two]

/-- Neither folders nor files have a character in their names that no path can hold. -/
theorem nul_notMem_of_isLeaf (h : isLeaf path = true) : Char.ofNat 0 ∉ path.toList := by
  obtain ⟨folders, name, eq, hfolders, hname⟩ := exists_parts_of_isLeaf h
  have clean : ∀ part ∈ parts path, Char.ofNat 0 ∉ part.toList := by
    rw [eq]
    refine List.forall_mem_append.mpr ⟨fun part mem nul ↦ ?_, List.forall_mem_singleton.mpr ?_⟩
    · have folder := hfolders part mem
      rw [isFolderName, Bool.and_eq_true, List.all_eq_true] at folder
      exact absurd (folder.2 _ nul) (by decide)
    · intro nul
      rw [isFileName, Bool.and_eq_true, Bool.and_eq_true, List.all_eq_true] at hname
      exact absurd (hname.1.1 _ nul) (by decide)
  rw [← intercalate_parts path, String.toList_intercalate]
  refine fun mem ↦ Text.forall_mem_intercalate (q := (· ≠ Char.ofNat 0)) (by decide) ?_ _ mem rfl
  intro piece hpiece c hc
  obtain ⟨part, hpart, rfl⟩ := List.mem_map.mp hpiece
  rintro rfl
  exact clean part hpart hc

theorem goesDown_of_isLeaf (h : isLeaf path = true) : GoesDown path := by
  obtain ⟨folders, name, eq, hfolders, hname⟩ := exists_parts_of_isLeaf h
  refine ⟨?_, nul_notMem_of_isLeaf h⟩
  rw [eq]
  refine List.forall_mem_append.mpr ⟨fun part mem ↦ isName_of_isFolderName (hfolders part mem), ?_⟩
  rw [isFileName, Bool.and_eq_true] at hname
  exact List.forall_mem_singleton.mpr hname.2

/-- **A file is no folder.** A path leads through another one only if they are the same. -/
theorem eq_of_leads_through (ha : isLeaf a = true) (hb : isLeaf b = true)
    (h : parts a <+: parts b) : a = b := by
  obtain ⟨_, fileA, eqA, -, hfile⟩ := exists_parts_of_isLeaf ha
  obtain ⟨foldersB, fileB, eqB, hfolders, -⟩ := exists_parts_of_isLeaf hb
  have dot : '.' ∈ fileA.toList := by
    rw [isFileName, Bool.and_eq_true, Bool.and_eq_true] at hfile
    simpa using hfile.1.2
  rw [eqB] at h
  rcases List.prefix_concat_iff.mp h with same | inside
  · exact parts_injective (same.trans eqB.symm)
  · -- The file at the end of `a` would be a folder of `b`.
    have mem : fileA ∈ parts a := by
      rw [eqA]
      exact List.mem_concat_self
    exact absurd dot (dot_notMem_of_isFolderName (hfolders fileA (inside.subset mem)))

theorem apart_of_isLeaf (ha : isLeaf a = true) (hb : isLeaf b = true) (ne : a ≠ b) : Apart a b :=
  ⟨fun h ↦ ne (eq_of_leads_through ha hb h), fun h ↦ ne (eq_of_leads_through hb ha h).symm⟩

end FilePath

open FilePath

/-! ### The paths of a site -/

theorem isFolderName_of_named {part : String} (some : part ≠ "") (h : Named part) :
    isFolderName part = true := by
  have nonempty : part.isEmpty = false := by simpa using some
  rw [isFolderName, nonempty, List.all_eq_true.mpr h]
  rfl

/-- The parts of the path of a slot. -/
theorem Slot.parts_path {slot : Slot} (named : Named slot.name) :
    parts slot.path = ["components", "sections", slot.name ++ ".tsx"] := by
  have noSlash : '/' ∉ (slot.name ++ ".tsx").toList := by
    intro mem
    rw [String.toList_append, List.mem_append] at mem
    rcases mem with inside | ending
    · exact absurd (named _ inside) (by decide)
    · exact absurd ending (by decide)
  have split : slot.path = "components" ++ "/" ++ "sections" ++ "/" ++ (slot.name ++ ".tsx") := by
    rw [Slot.path, ← String.append_assoc]
    rfl
  rw [split, parts_append, parts_append, parts_of_notMem (by decide), parts_of_notMem (by decide),
    parts_of_notMem noSlash]
  rfl

theorem Slot.isLeaf_path {slot : Slot} (named : Named slot.name) : isLeaf slot.path = true := by
  have chars : (slot.name ++ ".tsx").toList = slot.name.toList ++ ['.', 't', 's', 'x'] := by simp
  have long (other : String) (short : other.toList.length < 4) : slot.name ++ ".tsx" ≠ other := by
    rintro rfl
    rw [chars, List.length_append] at short
    have : ['.', 't', 's', 'x'].length = 4 := rfl
    omega
  have name : isName (slot.name ++ ".tsx") = true := by
    simp [isName, isIdle, long "" (by decide), long "." (by decide), long ".." (by decide)]
  have file : isFileName (slot.name ++ ".tsx") = true := by
    have letters : slot.name.toList.all (fun c ↦ isNameChar c || c == '.') = true := by
      refine List.all_eq_true.mpr fun c mem ↦ ?_
      rw [named c mem, Bool.true_or]
    have dot : (slot.name.toList ++ ['.', 't', 's', 'x']).contains '.' = true := by simp
    rw [isFileName, name, chars, dot, List.all_append, letters]
    rfl
  have split : parts slot.path = ["components", "sections"] ++ [slot.name ++ ".tsx"] :=
    parts_path named
  exact isLeaf_of_parts split (by decide) file

/-- The parts of a published route are its segments. -/
theorem Route.parts_of_normalize? {s route : String} (h : normalize? s = some route) :
    parts route ≠ [] ∧ ∀ part ∈ parts route, isFolderName part = true := by
  have some : segments s.toList ≠ [] := by
    intro none
    rw [normalize?_eq_none_iff.mpr none] at h
    cases h
  have names : ∀ part ∈ segments s.toList, part ≠ [] ∧ ∀ c ∈ part, isNameChar c = true :=
    fun _ ↦ named_of_mem_segments
  have joined : route.toList = List.intercalate ['/'] (segments s.toList) := by
    rw [normalize?, if_neg (by simpa using some), Option.some.injEq] at h
    rw [← h, String.toList_ofList]
  have split : parts route = (segments s.toList).map String.ofList := by
    have noSlash : ∀ part ∈ segments s.toList, '/' ∉ part := by
      intro part mem slash
      exact absurd ((names part mem).2 '/' slash) (by decide)
    rw [parts_eq, joined, Text.splitBy_intercalate some noSlash]
  rw [split]
  refine ⟨by simpa using some, List.forall_mem_map.mpr fun part mem ↦ ?_⟩
  obtain ⟨nonempty, chars⟩ := names part mem
  refine isFolderName_of_named ?_ (.ofList chars)
  simpa using nonempty

/-- The parts of the path of a page: its route, in a folder for all pages. -/
theorem PagePlan.parts_path (page : PagePlan) :
    parts page.path = "app" :: parts page.route ++ ["page.tsx"] := by
  have split : page.path = "app" ++ "/" ++ page.route ++ "/" ++ "page.tsx" := by
    have ending : "/page.tsx" = "/" ++ "page.tsx" := rfl
    rw [PagePlan.path, ending, ← String.append_assoc]
    rfl
  have first : parts "app" = ["app"] := parts_of_notMem (by decide)
  have last : parts "page.tsx" = ["page.tsx"] := parts_of_notMem (by decide)
  rw [split, parts_append, parts_append, first, last]
  rfl

theorem PagePlan.isLeaf_path {page : PagePlan}
    (h : ∀ part ∈ parts page.route, isFolderName part = true) : isLeaf page.path = true := by
  refine isLeaf_of_parts page.parts_path ?_ (by decide)
  exact List.forall_mem_cons.mpr ⟨by decide, h⟩

namespace Compiler

variable (compiler : Compiler) (config : SiteConfig)

/-- A component is the hero or stands in a slot, under a name. -/
theorem path_of_mem_componentSources {path : String}
    (h : path ∈ (compiler.componentSources config).map (·.1)) :
    path = Hero.path ∨ ∃ slot : Slot, Named slot.name ∧ path = slot.path := by
  rw [componentSources_eq, List.map_cons, List.mem_cons] at h
  refine h.imp_right fun later ↦ ?_
  obtain ⟨⟨_, source⟩, mem, rfl⟩ := List.mem_map.mp later
  obtain ⟨use, huse, eq⟩ := List.mem_filterMap.mp mem
  obtain ⟨-, -, rfl, -⟩ := Settled.source?_eq_some_iff.mp eq
  have placed := placement_mem_placements huse
  exact ⟨use.placement.slot, compiler.named_slot_of_mem_placements config placed, rfl⟩

/-- A published route is made of names. -/
theorem parts_route_of_mem_pages {page : PagePlan} (h : page ∈ (compiler.plan config).pages) :
    parts page.route ≠ [] ∧ ∀ part ∈ parts page.route, isFolderName part = true := by
  obtain ⟨source, -, route, -⟩ := compiler.exists_page_of_mem_pages config h
  exact Route.parts_of_normalize? route

theorem isLeaf_paths : ∀ path ∈ (compiler.sources config).files.map (·.path),
    isLeaf path = true := by
  rw [paths_sources]
  refine List.forall_mem_append.mpr ⟨List.forall_mem_append.mpr ⟨by decide, ?_⟩,
    List.forall_mem_cons.mpr ⟨by decide, List.forall_mem_map.mpr fun page mem ↦ ?_⟩⟩
  · intro path mem
    rcases compiler.path_of_mem_componentSources config mem with rfl | ⟨slot, named, rfl⟩
    · decide
    · exact slot.isLeaf_path named
  · exact PagePlan.isLeaf_path (compiler.parts_route_of_mem_pages config mem).2

/-- Pages have different routes, so they are written to different files. -/
theorem nodup_pagePaths : ((compiler.plan config).pages.map (·.path)).Nodup := by
  have routes : ((compiler.plan config).pages.map (·.route)).Nodup :=
    PageDecision.nodup_routes_plans [] (config.retainDrawn compiler.repertoire).pages
  refine List.pairwise_map.mpr ((List.pairwise_map.mp routes).imp fun ne eq ↦ ne ?_)
  exact (String.append_right_inj "app/").mp ((String.append_left_inj "/page.tsx").mp eq)

/-- The home page lies above all pages, because a published route has a part. -/
theorem home_notMem_pagePaths : "app/page.tsx" ∉ (compiler.plan config).pages.map (·.path) := by
  intro mem
  obtain ⟨page, hpage, eq⟩ := List.mem_map.mp mem
  have home : parts "app/page.tsx" = ["app", "page.tsx"] := by decide
  rw [← eq, page.parts_path] at home
  have none : parts page.route = [] := by simpa using home
  exact (compiler.parts_route_of_mem_pages config hpage).1 none

/-- Entries end in one name, and start in the folder for all pages. -/
theorem ends_of_mem_entryPaths {path : String}
    (h : path ∈ "app/page.tsx" :: (compiler.plan config).pages.map (·.path)) :
    (parts path).head? = some "app" ∧ (parts path).getLast? = some "page.tsx" := by
  rcases List.mem_cons.mp h with rfl | later
  · decide
  · obtain ⟨page, -, rfl⟩ := List.mem_map.mp later
    rw [page.parts_path, List.getLast?_concat]
    exact ⟨rfl, rfl⟩

/-- Only components lie with the sections, and the hero has a file name of its own. -/
theorem notMem_sharedPaths_of_component {path : String}
    (h : path ∈ (compiler.componentSources config).map (·.1)) : path ∉ sharedPaths := by
  intro shared
  rcases compiler.path_of_mem_componentSources config h with rfl | ⟨slot, -, rfl⟩
  · exact absurd shared (by decide)
  · have lies := Placement.liesWithSections_path slot
    rw [not_liesWithSections_of_mem_sharedPaths _ shared] at lies
    cases lies

/-- **No path is given out twice.** -/
theorem nodup_paths : ((compiler.sources config).files.map (·.path)).Nodup := by
  rw [paths_sources, List.nodup_append, List.nodup_append]
  refine ⟨⟨by decide, compiler.nodup_componentSources config, ?_⟩,
    List.nodup_cons.mpr ⟨compiler.home_notMem_pagePaths config, compiler.nodup_pagePaths config⟩,
    ?_⟩
  · rintro path shared _ component rfl
    exact compiler.notMem_sharedPaths_of_component config component shared
  · -- Entries are told from shared files by their last part and from components by their first.
    rintro path before _ entry rfl
    obtain ⟨head, last⟩ := compiler.ends_of_mem_entryPaths config entry
    rcases List.mem_append.mp before with shared | component
    · have clear : ∀ path ∈ sharedPaths, (parts path).getLast? ≠ some "page.tsx" := by decide
      exact clear path shared last
    · rcases compiler.path_of_mem_componentSources config component with rfl | ⟨slot, named, rfl⟩
      · exact absurd head (by decide)
      · rw [Slot.parts_path named, List.head?_cons] at head
        exact absurd head (by decide)

/-- Compiling resolves pictures in files, and leaves their paths alone. -/
theorem paths_compile (service : ImageService) (previous : ImageCache) :
    (compiler.compile service previous config).project.files.map (·.path) =
      (compiler.sources config).files.map (·.path) := by
  have files : (compiler.compile service previous config).project.files =
      ((compiler.imageTask (compiler.sources config)).resolve service previous
        (compiler.sources config).files).files := by
    rw [compile]
  rw [files]
  rcases (compiler.imageTask (compiler.sources config)).resolve_cases service previous
      (compiler.sources config).files with ⟨same, -⟩ | ⟨resolved, -⟩
  · rw [same]
  · rw [resolved, List.map_map]
    rfl

/-- **A site is a tree of files.** The paths of its files are pairwise different, all their parts
are names, and none leads through another. So no path is ever refused; and written below an empty
folder, the files are what is in the folder afterwards, and nothing outside of it has changed. -/
theorem files_fill :
    ((compiler.sources config).files.map (·.path)).Nodup ∧
      (∀ file ∈ (compiler.sources config).files, isContained file.path = true ∧
        ∀ part ∈ parts file.path, isName part = true) ∧
      ((compiler.sources config).files.map (·.path)).Pairwise Apart ∧
      ∀ service previous,
        let files := (compiler.compile service previous config).project.files
        files.map (·.path) = (compiler.sources config).files.map (·.path) ∧
          (∀ limits folder tree path,
            ((SourceFile.writeAll files (.ofTree limits) folder).run.run tree).1 ≠
              .error (.unsafePath path)) ∧
          ∀ folder tree, tree.find .none folder = .ok .empty →
            ∃ here after, tree.locate .none [] (parts folder) = .ok here ∧
              (SourceFile.writeAll files (.ofTree .none) folder).run.run tree =
                (.ok files.length, after) ∧
              SourceFile.Fill files tree here after := by
  have leaves := compiler.isLeaf_paths config
  have down : ∀ path ∈ (compiler.sources config).files.map (·.path), GoesDown path :=
    fun path mem ↦ goesDown_of_isLeaf (leaves path mem)
  -- Leaves have a dot in their last part only, so two of them are apart once they differ.
  have apart : ((compiler.sources config).files.map (·.path)).Pairwise Apart :=
    (compiler.nodup_paths config).imp_of_mem fun ha hb ne ↦
      apart_of_isLeaf (leaves _ ha) (leaves _ hb) ne
  refine ⟨compiler.nodup_paths config, fun file mem ↦ ?_, apart, fun service previous ↦ ?_⟩
  · have named := (down _ (List.mem_map_of_mem mem)).named
    exact ⟨isContained_of_names named, named⟩
  · have paths := compiler.paths_compile config service previous
    refine ⟨paths, fun limits folder tree path ↦ ?_, fun folder tree empty ↦ ?_⟩
    · refine SourceFile.run_writeAll_ne_unsafePath limits ?_ folder path tree
      rw [paths]
      exact fun path mem ↦ isContained_of_names (down path mem).named
    · obtain ⟨here, leads, found⟩ := FileTree.exists_leads empty
      rw [← paths] at down apart
      obtain ⟨after, ran, fill⟩ := SourceFile.exists_writeAll leads found down apart
      exact ⟨here, after, leads.way, ran, fill⟩

/-- An empty folder beside a file, in a folder. -/
def freshFolder : FileTree :=
  .folder [("srv", .folder [("notes.txt", .file "keep"), ("site", .empty)])]

theorem files_fill_freshFolder : freshFolder.find .none "/srv/./site/" = .ok .empty ∧
    ∃ after, (SourceFile.writeAll
        ((ofOptions .default).compile .offline .empty .restaurant).project.files
        (.ofTree .none) "/srv/./site/").run.run freshFolder =
      (.ok ((ofOptions .default).compile .offline .empty .restaurant).project.files.length, after) ∧
      after.look ["srv", "notes.txt"] = some (.file "keep") := by
  have fresh : freshFolder.find .none "/srv/./site/" = .ok .empty := rfl
  have way : freshFolder.locate .none [] (parts "/srv/./site/") = .ok ["srv", "site"] := rfl
  obtain ⟨here, after, there, ran, fill⟩ :=
    ((files_fill (ofOptions .default) .restaurant).2.2.2 .offline .empty).2.2 "/srv/./site/"
      freshFolder fresh
  refine ⟨fresh, after, ran, ?_⟩
  rw [way] at there
  obtain rfl : ["srv", "site"] = here := Except.ok.inj there
  rw [fill.outside _ (by decide)]
  rfl

end Compiler

end Sitewright
