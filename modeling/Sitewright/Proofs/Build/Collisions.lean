import Sitewright.Proofs.Build.Imports

/-!
# Collisions are reported

Pages share one directory of components, so a page may import a file that another page wrote. It
then shows either the section that the page has itself, under the same name and anchor, or another
one, and then there is exactly one notice that says so (`Compiler.ShownOrReported`). This is so for
every section that is drawn and the file that the entry of its page imports for it
(`Compiler.collisions_reported`). No other notice speaks of a collision, and none is about the
homepage, whose sections come first and have names of their own.
-/

namespace Sitewright

open Placement

/-- A sheet writes the files of its own sections, as far as nobody came before. -/
theorem Sheet.writer?_placements {sheet : Sheet} {p : Placement} (h : p ∈ sheet.placements) :
    writer? sheet.placements p.slot.path = some p := by
  have paths := sheet.fits.nodup_paths
  rw [← sheet.map_slot_placements, List.map_map] at paths
  obtain ⟨writer, hwriter⟩ := exists_writer? h
  have same := List.inj_on_of_nodup_map paths (List.mem_of_find?_eq_some hwriter) h
    (path_of_writer? hwriter)
  exact same ▸ hwriter

/-- The notices about pages are about pages that are left out. -/
theorem PageDecision.exists_of_mem_notices {seen : List String} {pages : List Page}
    {notice : Notice} (h : notice ∈ (decidePages seen pages).filterMap notice?) :
    ∃ path reason, notice = .pageSkipped path reason := by
  induction pages generalizing seen with
  | nil => cases h
  | cons page rest ih =>
    rw [decidePages] at h
    cases hroute : Route.normalize? page.path with
    | none =>
      simp only [hroute, List.filterMap_cons, notice?, List.mem_cons] at h
      rcases h with rfl | later
      · exact ⟨_, _, rfl⟩
      · exact ih later
    | some route =>
      simp only [hroute] at h
      split at h <;> simp only [List.filterMap_cons, notice?, List.mem_cons] at h
      · rcases h with rfl | later
        · exact ⟨_, _, rfl⟩
        · exact ih later
      · exact ih h

/-- The notices about entries are about entries that are left out. -/
theorem SiteConfig.exists_of_mem_entryNotices {repertoire : Repertoire} {config : SiteConfig}
    {notice : Notice} (h : notice ∈ config.entryNotices repertoire) :
    ∃ route tag reason, notice = .unsupportedSection route tag reason := by
  rcases List.mem_append.mp h with h | h <;>
  · obtain ⟨entry, -, rfl⟩ := List.mem_map.mp h
    exact ⟨_, _, _, rfl⟩

namespace Compiler

variable {compiler : Compiler} {config : SiteConfig}

/-- Only claims make notices about collisions. -/
theorem filter_concerns_notices (path route : String) :
    (compiler.sources config).notices.filter (·.concerns path route) =
      ((Settled.ofPlacements [] (compiler.placements config)).1.filterMap
        Settled.notice?).filter (·.concerns path route) := by
  have entries : (config.entryNotices compiler.repertoire).filter (·.concerns path route) = [] :=
    List.filter_eq_nil_iff.mpr fun notice mem ↦ by
      obtain ⟨_, _, _, rfl⟩ := SiteConfig.exists_of_mem_entryNotices mem
      exact Bool.false_ne_true
  have pages : ((compiler.plan config).decisions.filterMap PageDecision.notice?).filter
      (·.concerns path route) = [] :=
    List.filter_eq_nil_iff.mpr fun notice mem ↦ by
      obtain ⟨_, _, rfl⟩ := PageDecision.exists_of_mem_notices mem
      exact Bool.false_ne_true
  rw [notices_sources, SitePlan.notices, List.filter_append, List.filter_append,
    List.filter_append, entries, pages, List.nil_append, List.append_nil, ← List.filter_append,
    ← List.filterMap_append, ← List.flatten_append, List.take_append_drop, plan, flatten_settled]

/-- Whoever has the route of the homepage writes its own file. -/
theorem writer?_of_home {p : Placement} (h : p ∈ compiler.placements config)
    (home : p.route = "/") : writer? (compiler.placements config) p.slot.path = some p := by
  obtain ⟨sheet, hsheet, hp⟩ := List.mem_flatMap.mp h
  rcases List.mem_cons.mp hsheet with rfl | other
  · rw [placements, sheets, List.flatMap_cons, writer?, List.find?_append, ← writer?,
      Sheet.writer?_placements hp, Option.some_or]
  · obtain ⟨page, hpage, rfl⟩ := List.mem_map.mp other
    rw [Sheet.route_of_mem hp] at home
    exact absurd home (SiteConfig.displayRoute_ne_home hpage)

variable (compiler config)

/-- What a page shows in a slot: the file that it imports is drawn from some section. Either that
has the same content, name and anchor as the section that the slot is for, and no notice is about
the slot on this page; or its content differs, and exactly one notice is, which names the file, the
page that wrote it, and this page. -/
def ShownOrReported (route : String) (s : Section) (slot : Slot) : Prop :=
  ∃ writer ∈ compiler.placements config, compiler.Shows config slot.path writer ∧
    (writer.content = s ∧ writer.slot.name = slot.name ∧ writer.slot.anchor = slot.anchor ∧
        (compiler.sources config).notices.filter (·.concerns slot.path route) = [] ∨
      writer.content ≠ s ∧
        (compiler.sources config).notices.filter (·.concerns slot.path route) =
          [.namingCollision slot.path writer.route route])

/-- The file of a page imports one component for each section of a sheet, and shows the section
there or reports that it does not. -/
def Presents (file : SourceFile) (first : Import) (sheet : Sheet) : Prop :=
  ∃ slots, file.imports? = some (first :: slots.map Import.ofSlot) ∧
    Slot.Fits sheet.reserved (sheet.sections.map (·.baseName)) slots ∧
    List.Forall₂ (compiler.ShownOrReported config sheet.route) sheet.sections slots

variable {compiler config}

/-- Whatever is placed is shown or reported. -/
theorem shownOrReported_of_mem_placements {p : Placement} (h : p ∈ compiler.placements config) :
    compiler.ShownOrReported config p.route p.content p.slot := by
  rw [← Settled.map_placement_ofPlacements [] (compiler.placements config)] at h
  obtain ⟨use, huse, rfl⟩ := List.mem_map.mp h
  obtain ⟨writer, hwriter, follows⟩ := Settled.exists_follows huse
  have shows := shows_of_writer? hwriter
  have apart := compiler.nodup_stands config
  refine ⟨writer, List.mem_of_find?_eq_some hwriter, shows, ?_⟩
  -- Only one section stands under this path on this page, so all such notices are its own.
  rw [filter_concerns_notices, Settled.filter_concerns apart huse, follows.notice?_eq]
  by_cases same : writer.content = use.placement.content
  · have name := Slot.path_inj.mp shows.slot_path
    refine .inl ⟨same, name, by rw [Slot.anchor, name, Slot.anchor], ?_⟩
    rw [if_pos same]
    rfl
  · refine .inr ⟨same, ?_⟩
    rw [if_neg same]
    rfl

/-- A file that imports the components of a sheet presents it. -/
theorem presents_of_imports? {sheet : Sheet} (hsheet : sheet ∈ compiler.sheets config)
    {file : SourceFile} {first : Import}
    (h : file.imports? = some (first :: sheet.slots.map Import.ofSlot)) :
    compiler.Presents config file first sheet := by
  refine ⟨sheet.slots, h, sheet.fits, Sheet.forall₂_slots fun p hp ↦ ?_⟩
  have placed : p ∈ compiler.placements config := List.mem_flatMap.mpr ⟨sheet, hsheet, hp⟩
  exact Sheet.route_of_mem hp ▸ shownOrReported_of_mem_placements placed

/-- A notice of a collision is about a section that another one is shown for, on a page that is not
the homepage. -/
theorem exists_of_namingCollision {path first later : String}
    (h : .namingCollision path first later ∈ (compiler.sources config).notices) :
    later ≠ "/" ∧ ∃ p ∈ compiler.placements config, ∃ writer ∈ compiler.placements config,
      compiler.Shows config path writer ∧ writer.content ≠ p.content ∧
      p.slot.path = path ∧ writer.route = first ∧ p.route = later := by
  have concerned : .namingCollision path first later ∈
      (compiler.sources config).notices.filter (·.concerns path later) :=
    List.mem_filter.mpr ⟨h, by simp [Notice.concerns]⟩
  rw [filter_concerns_notices] at concerned
  obtain ⟨use, huse, hnotice⟩ := List.mem_filterMap.mp (List.mem_of_mem_filter concerned)
  obtain ⟨writer, hwriter, follows⟩ := Settled.exists_follows huse
  rw [follows.notice?_eq] at hnotice
  obtain ⟨ne, eq⟩ := Option.ite_none_left_eq_some.mp hnotice
  obtain ⟨rfl, rfl, rfl⟩ := Notice.namingCollision.inj (Option.some.inj eq)
  have placed := placement_mem_placements huse
  refine ⟨fun home ↦ ne ?_, use.placement, placed, writer, List.mem_of_find?_eq_some hwriter,
    shows_of_writer? hwriter, ne, rfl, rfl, rfl⟩
  -- On the homepage the writer is the section itself, which cannot differ from itself.
  rw [writer?_of_home placed home] at hwriter
  exact congrArg Placement.content (Option.some.inj hwriter).symm

/-- **No section is replaced without a notice.** The last files of a site are its entries, that of
the homepage first. Each of them, as its text is read, imports one file for each section of its page
that is drawn. That file shows the section, under the same name and anchor, and no notice is about
it on that page; or it shows a section of different content, and exactly one notice says so, which
names the file and both pages. Conversely, every notice of a collision is about such a difference,
and never about the homepage. -/
theorem collisions_reported (compiler : Compiler) (config : SiteConfig) :
    (∃ (before : List SourceFile) (home : SourceFile) (entry : PagePlan → SourceFile),
      (compiler.sources config).files =
        before ++ home :: (compiler.plan config).pages.map entry ∧
      home.path = "app/page.tsx" ∧
      compiler.Presents config home ⟨"Hero", "@/components/Hero", false⟩
        ⟨"/", Slot.reservedNames, compiler.repertoire.sectionsOf config.sections⟩ ∧
      ∀ page ∈ (compiler.plan config).pages, (entry page).path = page.path ∧
        ∃ source ∈ config.pages, Route.normalize? source.path = some page.route ∧
          compiler.Presents config (entry page) ⟨"Metadata", "next", true⟩
            ⟨page.displayRoute, page.reservedNames,
              compiler.repertoire.sectionsOf source.sections⟩) ∧
    ∀ path first later, .namingCollision path first later ∈ (compiler.sources config).notices →
      later ≠ "/" ∧ ∃ p ∈ compiler.placements config, ∃ writer ∈ compiler.placements config,
        compiler.Shows config path writer ∧ writer.content ≠ p.content ∧
        p.slot.path = path ∧ writer.route = first ∧ p.route = later := by
  obtain ⟨before, files⟩ := compiler.files_eq_append_entries config
  refine ⟨⟨before, _, _, files, rfl, ?_, ?_⟩, fun _ _ _ ↦ exists_of_namingCollision⟩
  · exact presents_of_imports? List.mem_cons_self (compiler.imports?_homeFile config)
  · intro page hpage
    obtain ⟨source, hsource, route, sections⟩ := compiler.exists_page_of_mem_pages config hpage
    refine ⟨rfl, source, hsource, route, sections ▸ ?_⟩
    have sheet := compiler.ofPage_mem_sheets config hpage
    exact presents_of_imports? sheet (imports?_pageFile hpage)

end Compiler

end Sitewright
