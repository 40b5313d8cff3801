import Sitewright.Build.Sources
import Sitewright.Proofs.Build.Sheets
import Sitewright.Proofs.Naming.Names

/-!
# The files of components

A compiler leaves out the entries that it does not draw before anything is named. So each section
that is placed on a sheet can be drawn, and the first one under a path is: its file is there, it is
the only file under that path, and it shows that section under the name and the anchor of its slot
(`Compiler.shows_of_writer?`).

The file of a section is drawn after others, and its text depends on them only through the number of
pictures that were asked for before.
-/

namespace Sitewright

open Placement

/-! ### Drawing one after the other -/

namespace ImageLedger

@[simp] theorem cap_draw (ledger : ImageLedger) (source : SectionSource ImageRequest) :
    (ledger.draw source).2.cap = ledger.cap := by
  simp [draw]

/-- Every file that is drawn is the text of its source, with the requests placed after some
others. -/
theorem exists_place_of_mem_drawAll {ledger : ImageLedger}
    {sources : List (String × SectionSource ImageRequest)} {file : SourceFile}
    (h : file ∈ (ledger.drawAll sources).1) : ∃ source, (file.path, source) ∈ sources ∧
      ∃ before, file.content = (source.place ledger.cap before).1.text := by
  induction sources generalizing ledger with
  | nil => cases h
  | cons source rest ih =>
    obtain ⟨path, source⟩ := source
    rw [drawAll, List.mem_cons] at h
    rcases h with rfl | later
    · exact ⟨source, List.mem_cons_self, ledger.requests, rfl⟩
    · obtain ⟨other, mem, before, eq⟩ := ih later
      rw [cap_draw] at eq
      exact ⟨other, List.mem_cons_of_mem _ mem, before, eq⟩

end ImageLedger

/-! ### Sections that are drawn -/

/-- The sections that entries stand for, as far as their kinds are in the repertoire. -/
def Repertoire.sectionsOf (r : Repertoire) (entries : List SectionEntry) : List Section :=
  (SectionEntry.sectionsOf entries).filter fun s ↦ r.has s.kind

/-- Leaving out the entries that are not drawn leaves exactly the sections that are. -/
theorem Repertoire.sectionsOf_filter (r : Repertoire) (entries : List SectionEntry) :
    SectionEntry.sectionsOf ((entries.filter SectionEntry.isSupported).filter r.supports) =
      r.sectionsOf entries := by
  rw [sectionsOf, SectionEntry.sectionsOf, SectionEntry.sectionsOf, List.filter_filter,
    List.filterMap_filter, List.filter_filterMap]
  refine List.filterMap_congr fun entry _ ↦ ?_
  cases entry <;> simp [SectionEntry.isSupported, SectionEntry.section?, supports, Option.filter]

namespace Placement

/-- What a placed section is drawn from. -/
def source (setting : Setting) (p : Placement) : SectionSource ImageRequest :=
  p.content.source setting p.slot.name p.slot.anchor

/-- Whether a path leads to the directory of section components. -/
def liesWithSections (path : String) : Bool :=
  (Slot.directory ++ "/").toList.isPrefixOf path.toList

theorem liesWithSections_path (slot : Slot) : liesWithSections slot.path = true := by
  simp [liesWithSections, Slot.path, List.isPrefixOf_iff_prefix, List.append_assoc]

end Placement

theorem Settled.source?_eq_some_iff {repertoire : Repertoire} {setting : Setting} {use : Settled}
    {path : String} {source : SectionSource ImageRequest} :
    use.source? repertoire setting = some (path, source) ↔
      use.claim = .new ∧ repertoire.has use.placement.content.kind = true ∧
        path = use.placement.slot.path ∧ source = use.placement.source setting := by
  rw [source?, Option.ite_none_right_eq_some, Bool.and_eq_true, beq_iff_eq, and_assoc,
    Option.some.injEq, Prod.mk.injEq]
  simp only [Placement.source, eq_comm]

/-- What the components of a site are drawn in. -/
def SiteConfig.setting (config : SiteConfig) : Setting := ⟨config.theme.styles, config.business⟩

/-- The entry of a published page. -/
def SiteConfig.pageEntry (config : SiteConfig) (page : PagePlan) : PageEntry :=
  .ofPage config.business.name config.theme.styles page (Sheet.ofPage page).slots

namespace Compiler

variable (compiler : Compiler) (config : SiteConfig)

/-- The sheets that a compiler draws for a configuration. -/
def sheets : List Sheet :=
  .home (compiler.repertoire.sectionsOf config.sections) ::
    (SitePlan.ofConfig (config.retainDrawn compiler.repertoire)).pages.map .ofPage

theorem sheets_retainDrawn :
    (config.retainDrawn compiler.repertoire).sheets = compiler.sheets config := by
  rw [SiteConfig.sheets, sheets, ← Repertoire.sectionsOf_filter]
  rfl

/-- A published page is a page of the configuration, with all sections that are drawn. -/
theorem exists_page_of_mem_pages {plan : PagePlan}
    (h : plan ∈ (SitePlan.ofConfig (config.retainDrawn compiler.repertoire)).pages) :
    ∃ page ∈ config.pages, Route.normalize? page.path = some plan.route ∧
      plan.sections = compiler.repertoire.sectionsOf page.sections := by
  obtain ⟨kept, hkept, route, sections⟩ := SiteConfig.exists_page_of_mem_pages h
  obtain ⟨supported, hsupported, rfl⟩ := List.mem_map.mp hkept
  obtain ⟨page, mem, rfl⟩ := List.mem_map.mp hsupported
  exact ⟨page, mem, route, sections.trans (Repertoire.sectionsOf_filter ..)⟩

/-- The sections of all sheets in their slots. -/
def placements : List Placement := (compiler.sheets config).flatMap (·.placements)

theorem nodup_stands : ((compiler.placements config).map stand).Nodup := by
  rw [placements, ← sheets_retainDrawn]
  exact SiteConfig.nodup_stands _

/-- What is placed stands under a name. -/
theorem named_slot_of_mem_placements {p : Placement} (h : p ∈ compiler.placements config) :
    Naming.Named p.slot.name := by
  obtain ⟨sheet, -, hp⟩ := List.mem_flatMap.mp h
  have mem : p.slot ∈ sheet.slots := sheet.map_slot_placements ▸ List.mem_map_of_mem hp
  exact sheet.fits.named mem

theorem flatten_settled :
    (SitePlan.ofConfig (config.retainDrawn compiler.repertoire)).settled.flatten =
      (Settled.ofPlacements [] (compiler.placements config)).1 := by
  rw [SitePlan.settled_ofConfig, Settled.flatten_ofPages, sheets_retainDrawn]
  rfl

variable {compiler config}

/-- What is settled has been placed. -/
theorem placement_mem_placements {use : Settled}
    (h : use ∈ (Settled.ofPlacements [] (compiler.placements config)).1) :
    use.placement ∈ compiler.placements config := by
  rw [← Settled.map_placement_ofPlacements [] (compiler.placements config)]
  exact List.mem_map_of_mem h

/-- **No section loses its kind.** Whatever is placed can be drawn. -/
theorem has_kind_of_mem_placements {p : Placement} (h : p ∈ compiler.placements config) :
    compiler.repertoire.has p.content.kind = true := by
  have drawn {entries : List SectionEntry} {s : Section}
      (mem : s ∈ compiler.repertoire.sectionsOf entries) : compiler.repertoire.has s.kind = true :=
    (List.mem_filter.mp mem).2
  obtain ⟨sheet, hsheet, hp⟩ := List.mem_flatMap.mp h
  have content := Sheet.content_mem hp
  rcases List.mem_cons.mp hsheet with rfl | other
  · exact drawn content
  · obtain ⟨plan, hplan, rfl⟩ := List.mem_map.mp other
    obtain ⟨page, -, -, sections⟩ := compiler.exists_page_of_mem_pages config hplan
    exact drawn (sections ▸ content : p.content ∈ compiler.repertoire.sectionsOf page.sections)

/-! ### The files of components -/

variable (compiler config)

/-- The plan of a site. -/
def plan : SitePlan := SitePlan.ofConfig (config.retainDrawn compiler.repertoire)

/-- A published page has a sheet. -/
theorem ofPage_mem_sheets {page : PagePlan} (h : page ∈ (compiler.plan config).pages) :
    Sheet.ofPage page ∈ compiler.sheets config :=
  List.mem_cons_of_mem _ (List.mem_map_of_mem h)

/-- Every section that is placed is used, so a page uses the slots of its sheet. -/
theorem slots_plan : (compiler.plan config).slots compiler.repertoire =
    (compiler.sheets config).map (·.slots) := by
  have placed : (compiler.plan config).settled.map (·.map (·.placement)) =
      (compiler.sheets config).map (·.placements) := by
    rw [plan, SitePlan.settled_ofConfig, sheets_retainDrawn, Settled.map_placement_ofPages]
  have used : ∀ page ∈ (compiler.plan config).settled,
      page.filter (Settled.isUsed compiler.repertoire) = page := by
    intro page hpage
    refine List.filter_eq_self.mpr fun use huse ↦ ?_
    have mem : page.map (·.placement) ∈ (compiler.sheets config).map (·.placements) :=
      placed ▸ List.mem_map_of_mem hpage
    obtain ⟨sheet, hsheet, eq⟩ := List.mem_map.mp mem
    have hp : use.placement ∈ sheet.placements := eq ▸ List.mem_map_of_mem huse
    have kind := has_kind_of_mem_placements (List.mem_flatMap.mpr ⟨sheet, hsheet, hp⟩)
    rw [Settled.isUsed, kind, Bool.or_true]
  calc (compiler.plan config).slots compiler.repertoire
      = (compiler.plan config).settled.map (·.map (·.placement.slot)) :=
        List.map_congr_left fun page mem ↦ by rw [used page mem]
    _ = ((compiler.plan config).settled.map (·.map (·.placement))).map (·.map (·.slot)) := by
        simp [Function.comp_def]
    _ = (compiler.sheets config).map (·.slots) := by
        rw [placed, List.map_map]
        exact List.map_congr_left fun sheet _ ↦ sheet.map_slot_placements

/-- The entries are those of the homepage and of the published pages, each with the slots of its
sheet. -/
theorem entries_eq : compiler.entries config.setting (compiler.plan config) =
    ⟨"app/page.tsx", (PageEntry.home
      (Sheet.home (compiler.repertoire.sectionsOf config.sections)).slots).text⟩ ::
      (compiler.plan config).pages.map fun page ↦ ⟨page.path, (config.pageEntry page).text⟩ := by
  have zip : (compiler.plan config).pages.zip
      ((compiler.plan config).pages.map fun page ↦ (Sheet.ofPage page).slots) =
      (compiler.plan config).pages.map fun page ↦ (page, (Sheet.ofPage page).slots) := by
    simpa using List.zip_map' (f := id) (g := fun page ↦ (Sheet.ofPage page).slots)
      (l := (compiler.plan config).pages)
  rw [entries, slots_plan, sheets, List.map_cons, List.map_map]
  refine congrArg (List.cons _) ?_
  refine (congrArg (List.map _) zip).trans ?_
  rw [List.map_map]
  rfl

/-- What the components of a site are drawn from: the hero, and the sections that write files. -/
def componentSources : List (String × SectionSource ImageRequest) :=
  compiler.drawings config.setting (config.retainDrawn compiler.repertoire) (compiler.plan config)

/-- The files of the components of a site. -/
def componentFiles : List SourceFile :=
  ((ImageLedger.empty compiler.options.imageCap).drawAll (compiler.componentSources config)).1

theorem files_sources : (compiler.sources config).files =
    compiler.sharedFiles config.setting (config.retainDrawn compiler.repertoire) ++
      compiler.componentFiles config ++ compiler.entries config.setting (compiler.plan config) :=
  rfl

/-- The notices of a site are those about its entries, and those of its plan. -/
theorem notices_sources : (compiler.sources config).notices =
    config.entryNotices compiler.repertoire ++ (compiler.plan config).notices :=
  rfl

theorem mem_files_of_mem_componentFiles {file : SourceFile}
    (h : file ∈ compiler.componentFiles config) : file ∈ (compiler.sources config).files := by
  rw [files_sources]
  exact List.mem_append_left _ (List.mem_append_right _ h)

/-- The paths of the files that every page shares. -/
def sharedPaths : List String := ["package.json", "next.config.js", "tsconfig.json",
  "postcss.config.js", "tailwind.config.ts", "app/globals.css", "app/layout.tsx",
  "app/loading.tsx", Nav.path, Footer.path]

theorem paths_sharedFiles (setting : Setting) :
    (compiler.sharedFiles setting config).map (·.path) = sharedPaths :=
  rfl

theorem not_liesWithSections_of_mem_sharedPaths :
    ∀ path ∈ sharedPaths, liesWithSections path = false := by
  decide

theorem componentSources_eq : compiler.componentSources config =
    (Hero.path, .drawn (config.hero.component config.setting)) ::
      (Settled.ofPlacements [] (compiler.placements config)).1.filterMap
        (Settled.source? compiler.repertoire config.setting) := by
  rw [← flatten_settled]
  rfl

/-- The paths of the files of a site, in order: those that every page shares, those of the
components, and those of the entries. -/
theorem paths_sources : (compiler.sources config).files.map (·.path) =
    sharedPaths ++ (compiler.componentSources config).map (·.1) ++
      "app/page.tsx" :: (compiler.plan config).pages.map (·.path) := by
  rw [files_sources, List.map_append, List.map_append, paths_sharedFiles, componentFiles,
    paths_drawAll, entries_eq, List.map_cons, List.map_map]
  rfl

/-- No two components are drawn into one file. -/
theorem nodup_componentSources : ((compiler.componentSources config).map (·.1)).Nodup := by
  rw [componentSources_eq, List.map_cons, List.nodup_cons]
  constructor
  · intro mem
    obtain ⟨⟨path, source⟩, mem, eq⟩ := List.mem_map.mp mem
    obtain ⟨use, -, hsource⟩ := List.mem_filterMap.mp mem
    obtain ⟨-, -, hpath, -⟩ := Settled.source?_eq_some_iff.mp hsource
    have lies := liesWithSections_path use.placement.slot
    rw [← hpath] at lies
    obtain rfl : path = Hero.path := eq
    exact absurd lies (by decide)
  · refine List.pairwise_map.mpr (List.pairwise_filterMap.mpr ?_)
    refine (Settled.pairwise_path_ne (compiler.nodup_stands config)).imp fun ne a ha b hb eq ↦ ?_
    obtain ⟨hnew, -, hpath, -⟩ := Settled.source?_eq_some_iff.mp ha
    obtain ⟨hnew', -, hpath', -⟩ := Settled.source?_eq_some_iff.mp hb
    exact ne hnew hnew' (by rw [← hpath, ← hpath', eq])

theorem nodup_componentFiles : ((compiler.componentFiles config).map (·.path)).Nodup := by
  rw [componentFiles, paths_drawAll]
  exact compiler.nodup_componentSources config

/-- Only components lie in the directory of section components. -/
theorem mem_componentFiles_of_lies {file : SourceFile}
    (h : file ∈ (compiler.sources config).files) (lies : liesWithSections file.path = true) :
    file ∈ compiler.componentFiles config := by
  rw [files_sources, List.mem_append, List.mem_append] at h
  rcases h with (shared | component) | entry
  · have mem := List.mem_map_of_mem (f := (·.path)) shared
    rw [paths_sharedFiles] at mem
    exact absurd lies (Bool.eq_false_iff.mp (not_liesWithSections_of_mem_sharedPaths _ mem))
  · exact component
  · rw [entries_eq, List.mem_cons, List.mem_map] at entry
    rcases entry with rfl | ⟨page, -, rfl⟩
    · exact absurd lies (by simp [liesWithSections, Slot.directory])
    · exact absurd lies (by simp [liesWithSections, Slot.directory, PagePlan.path])

/-- A path shows a placed section if there is one file under it, and that is drawn from the section
under the name and the anchor of its slot. -/
structure Shows (path : String) (p : Placement) : Prop where
  /-- The slot of the section has the path. -/
  slot_path : p.slot.path = path
  /-- There is a file that is drawn from the section, after some number of requests. -/
  drawn : ∃ file ∈ (compiler.sources config).files, file.path = path ∧ ∃ before,
    file.content = ((p.source config.setting).place compiler.options.imageCap before).1.text
  /-- There is no other file under the path. -/
  unique : ∀ a ∈ (compiler.sources config).files, ∀ b ∈ (compiler.sources config).files,
    a.path = path → b.path = path → a = b

variable {compiler config}

/-- **The writer of a path is shown there.** -/
theorem shows_of_writer? {path : String} {writer : Placement}
    (h : writer? (compiler.placements config) path = some writer) :
    compiler.Shows config path writer := by
  have hpath := path_of_writer? h
  have hmem : writer ∈ compiler.placements config := List.mem_of_find?_eq_some h
  have lies : liesWithSections path = true := hpath ▸ liesWithSections_path writer.slot
  have source : (path, writer.source config.setting) ∈ compiler.componentSources config := by
    rw [componentSources_eq]
    refine List.mem_cons_of_mem _ (List.mem_filterMap.mpr ⟨_, Settled.mem_of_writer? h, ?_⟩)
    exact Settled.source?_eq_some_iff.mpr ⟨rfl, has_kind_of_mem_placements hmem, hpath.symm, rfl⟩
  -- The file that is drawn under the path is the one drawn from this source: paths do not repeat.
  have written : path ∈ (compiler.componentFiles config).map (·.path) := by
    rw [componentFiles, paths_drawAll]
    exact List.mem_map_of_mem source
  obtain ⟨file, hfile, rfl⟩ := List.mem_map.mp written
  refine ⟨hpath, ⟨file, ?_, rfl, ?_⟩, fun a ha b hb hapath hbpath ↦ ?_⟩
  · exact compiler.mem_files_of_mem_componentFiles config hfile
  · obtain ⟨other, hother, before, content⟩ := ImageLedger.exists_place_of_mem_drawAll hfile
    have same := List.inj_on_of_nodup_map (compiler.nodup_componentSources config) hother source rfl
    rw [Prod.mk.injEq] at same
    exact ⟨before, same.2 ▸ content⟩
  · exact List.inj_on_of_nodup_map (compiler.nodup_componentFiles config)
      (compiler.mem_componentFiles_of_lies config ha (hapath ▸ lies))
      (compiler.mem_componentFiles_of_lies config hb (hbpath ▸ lies)) (hapath.trans hbpath.symm)

end Compiler

end Sitewright
