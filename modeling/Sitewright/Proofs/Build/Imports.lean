import Sitewright.Proofs.Build.Files
import Sitewright.Proofs.Build.Statements

/-!
# What entries import

The entry file of the homepage imports the hero and then one component for each section that is
drawn; the entry of a published page imports one for each of its own. They come in the order of the
sections, none is missing, and each leads to a file of the site. All of this is read off the texts
of the entry files (`Compiler.entries_serve`).

A component that several pages use is imported by all of them, but only the first writes its file.
The others find it because whoever comes first under a path can always be drawn: what cannot has
been left out before anything was named.
-/

namespace Sitewright

open Placement

/-- An import leads to one of the files. -/
def Import.Resolves (files : List SourceFile) (i : Import) : Prop :=
  ∃ file ∈ files, i.source ++ ".tsx" = "@/" ++ file.path

/-- A file serves the sections of a page: it imports exactly one component for each, and what it
imports is there. -/
structure SourceFile.Serves (file : SourceFile) (first : Import) (reserved : List String)
    (sections : List Section) (files : List SourceFile) : Prop where
  /-- After the first import come the components, in slots that fit the sections. -/
  imports : ∃ slots, file.imports? = some (first :: slots.map Import.ofSlot) ∧
    Slot.Fits reserved (sections.map (·.baseName)) slots
  /-- Every component that is imported is one of the files. -/
  resolves : ∀ imports ∈ file.imports?, ∀ i ∈ imports, i.isType = false → i.Resolves files

namespace Compiler

variable (compiler : Compiler) (config : SiteConfig)

/-! ### The files of entries -/

/-- The sheet of the homepage. -/
def homeSheet : Sheet := .home (compiler.repertoire.sectionsOf config.sections)

/-- The entry file of the homepage. -/
def homeFile : SourceFile :=
  ⟨"app/page.tsx", (PageEntry.home (compiler.homeSheet config).slots).text⟩

/-- The entry file of a published page. -/
def pageFile (page : PagePlan) : SourceFile := ⟨page.path, (config.pageEntry page).text⟩

/-- The last files of a site are its entries, that of the homepage first. -/
theorem files_eq_append_entries : ∃ before, (compiler.sources config).files =
    before ++ compiler.homeFile config :: (compiler.plan config).pages.map (pageFile config) :=
  ⟨_, (files_sources compiler config).trans (by rw [entries_eq]; rfl)⟩

theorem legible_home : (PageEntry.home (compiler.homeSheet config).slots).Legible :=
  PageEntry.legible_home (Sheet.home _).fits

theorem imports?_homeFile : (compiler.homeFile config).imports? =
    some (⟨"Hero", "@/components/Hero", false⟩ ::
      (compiler.homeSheet config).slots.map Import.ofSlot) :=
  (compiler.legible_home config).imports?_text _

variable {compiler config}

theorem legible_pageEntry {page : PagePlan} (h : page ∈ (compiler.plan config).pages) :
    (config.pageEntry page).Legible := by
  have name := PageDecision.function_of_mem_plans h ▸ PagePlan.named_functionName page.route
  exact PageEntry.legible_ofPage (Sheet.ofPage page).fits config.theme.plain_styles name _

theorem imports?_pageFile {page : PagePlan} (h : page ∈ (compiler.plan config).pages) :
    (pageFile config page).imports? =
      some (⟨"Metadata", "next", true⟩ :: (Sheet.ofPage page).slots.map Import.ofSlot) :=
  (legible_pageEntry h).imports?_text _

/-! ### Where imports lead -/

theorem resolves_ofSlot {sheet : Sheet} (hsheet : sheet ∈ compiler.sheets config) {slot : Slot}
    (h : slot ∈ sheet.slots) : (Import.ofSlot slot).Resolves (compiler.sources config).files := by
  rw [← sheet.map_slot_placements] at h
  obtain ⟨p, hp, rfl⟩ := List.mem_map.mp h
  obtain ⟨writer, hwriter⟩ := exists_writer? (List.mem_flatMap.mpr ⟨sheet, hsheet, hp⟩)
  obtain ⟨file, mem, path, -⟩ := (shows_of_writer? hwriter).drawn
  exact ⟨file, mem, path ▸ p.slot.importPath_tsx⟩

theorem resolves_hero : (Import.mk "Hero" "@/components/Hero" false).Resolves
    (compiler.sources config).files := by
  have written : Hero.path ∈ (compiler.componentFiles config).map (·.path) := by
    rw [componentFiles, paths_drawAll]
    exact List.mem_cons_self
  obtain ⟨file, mem, path⟩ := List.mem_map.mp written
  exact ⟨file, compiler.mem_files_of_mem_componentFiles config mem, by rw [path]; rfl⟩

/-- A file that imports the components of a sheet serves its sections. -/
theorem serves_of_imports? {sheet : Sheet} (hsheet : sheet ∈ compiler.sheets config)
    {file : SourceFile} {first : Import}
    (h : file.imports? = some (first :: sheet.slots.map Import.ofSlot))
    (hfirst : first.isType = false → first.Resolves (compiler.sources config).files) :
    file.Serves first sheet.reserved sheet.sections (compiler.sources config).files where
  imports := ⟨sheet.slots, h, sheet.fits⟩
  resolves imports himports i mem component := by
    rw [h] at himports
    obtain rfl := Option.some.inj himports
    rcases List.mem_cons.mp mem with rfl | mem
    · exact hfirst component
    · obtain ⟨slot, hslot, rfl⟩ := List.mem_map.mp mem
      exact resolves_ofSlot hsheet hslot

/-- **Entries import what they show, and it is there.** The last files of a site are its entries,
that of the homepage first. Each of them, as its text is read, imports exactly one component for
each of the sections of its page that are drawn, in order, and every component that is imported is
one of the files. A slot always has the position of a section, and a section that writes its file
can always be drawn. -/
theorem entries_serve (compiler : Compiler) (config : SiteConfig) :
    let files := (compiler.sources config).files
    ∃ (before : List SourceFile) (home : SourceFile) (entry : PagePlan → SourceFile),
      files = before ++ home :: (compiler.plan config).pages.map entry ∧
      home.path = "app/page.tsx" ∧
      home.Serves ⟨"Hero", "@/components/Hero", false⟩ Slot.reservedNames
        (compiler.repertoire.sectionsOf config.sections) files ∧
      (∀ page ∈ (compiler.plan config).pages, (entry page).path = page.path ∧
        ∃ source ∈ config.pages, Route.normalize? source.path = some page.route ∧
          (entry page).Serves ⟨"Metadata", "next", true⟩ page.reservedNames
            (compiler.repertoire.sectionsOf source.sections) files) ∧
      (∀ sheet ∈ compiler.sheets config, ∀ slot ∈ sheet.slots,
        slot.index < sheet.sections.length) ∧
      ∀ use ∈ (compiler.plan config).settled.flatten, use.claim = .new →
        (use.source? compiler.repertoire config.setting).isSome = true := by
  obtain ⟨before, files⟩ := compiler.files_eq_append_entries config
  refine ⟨before, _, _, files, rfl, ?_, ?_, ?_, ?_⟩
  · exact serves_of_imports? List.mem_cons_self (compiler.imports?_homeFile config)
      fun _ ↦ resolves_hero
  · intro page hpage
    obtain ⟨source, hsource, route, sections⟩ := compiler.exists_page_of_mem_pages config hpage
    refine ⟨rfl, source, hsource, route, sections ▸ ?_⟩
    have sheet := compiler.ofPage_mem_sheets config hpage
    exact serves_of_imports? sheet (imports?_pageFile hpage) nofun
  · intro sheet _ slot hslot
    obtain ⟨i, hi, rfl⟩ := List.getElem_of_mem hslot
    rw [sheet.index_getElem]
    simpa using hi
  · intro use huse new
    rw [plan, flatten_settled] at huse
    have kind := has_kind_of_mem_placements (placement_mem_placements huse)
    exact Option.isSome_iff_exists.mpr
      ⟨_, Settled.source?_eq_some_iff.mpr ⟨new, kind, rfl, rfl⟩⟩

end Compiler

end Sitewright
