import Sitewright.Proofs.Build.Collisions
import Sitewright.Proofs.Build.Notices
import Sitewright.Proofs.Build.Provenance

/-!
# Going on with a site

What a compilation returns is the start of the next edit, and an edit may add to it. This module
says what is sure to stay.

The configuration that is returned stands for the site: compiling it gives the same site again, and
only the notices about entries that were left out are gone (`Compiler.sources_returned`). That rests
on there being nothing left to leave out, since everything else is made of the entries that are
drawn.

More pages at the end of a site disturb nothing before them (`Compiler.pages_appended`). Pages share
their files, the numbers of pictures and the limit on them, but they get them in order. So each
stage on the way from pages to files is *prefix-monotone*: what it makes of more pages starts with
what it made of the first ones. Only the very last step is not, because the entries of pages come
after all components, and there the files move apart but stay, in order.
-/

namespace Sitewright

open Markup Placement

/-! ### The configuration that is returned -/

/-- Whether a notice is about an entry that was left out. -/
def Notice.isLeftOut : Notice → Bool
  | unsupportedSection .. => true
  | namingCollision .. | pageSkipped .. => false

namespace SiteConfig

variable (repertoire : Repertoire) (config : SiteConfig)

/-- Once the entries that are not drawn are left out, there are none to leave out. -/
theorem retainDrawn_retainDrawn : (config.retainDrawn repertoire).retainDrawn repertoire =
    config.retainDrawn repertoire := by
  rw [retainDrawn_eq, retainDrawn_eq]
  simp [filterSections, Function.comp_def]

theorem entryNotices_retainDrawn :
    (config.retainDrawn repertoire).entryNotices repertoire = [] := by
  have notices := perm_entryNotices repertoire (config.retainDrawn repertoire)
  rw [retainDrawn_eq, entryLists_filterSections, List.flatMap_map] at notices
  rw [retainDrawn_eq]
  refine List.perm_nil.mp (notices.trans (.of_eq ?_))
  exact List.flatMap_eq_nil_iff.mpr fun page _ ↦ by simp

/-- Notices about entries are about entries that were left out. -/
theorem filter_entryNotices : (config.entryNotices repertoire).filter (!·.isLeftOut) = [] := by
  refine List.filter_eq_nil_iff.mpr fun notice mem ↦ ?_
  obtain ⟨_, _, _, rfl⟩ := exists_of_mem_entryNotices mem
  exact Bool.false_ne_true

end SiteConfig

/-- Notices of a plan are about pages and collisions. -/
theorem SitePlan.filter_notices (config : SiteConfig) :
    (ofConfig config).notices.filter (!·.isLeftOut) = (ofConfig config).notices := by
  refine List.filter_eq_self.mpr fun notice mem ↦ ?_
  rw [notices, List.mem_append, List.mem_append] at mem
  rcases mem with (home | page) | other
  · obtain ⟨_, _, _, rfl⟩ := Compiler.exists_of_mem_collisions home
    rfl
  · obtain ⟨_, _, rfl⟩ := PageDecision.exists_of_mem_notices page
    rfl
  · obtain ⟨_, _, _, rfl⟩ := Compiler.exists_of_mem_collisions other
    rfl

namespace Compiler

variable (compiler : Compiler) (config : SiteConfig)

/-- The entries that are drawn make the whole site, but for the notices about the others. -/
theorem sources_retainDrawn : compiler.sources (config.retainDrawn compiler.repertoire) =
    { compiler.sources config with
      notices := (compiler.sources config).notices.filter (!·.isLeftOut) } := by
  have notices : (compiler.sources config).notices.filter (!·.isLeftOut) =
      (compiler.plan config).notices := by
    rw [notices_sources, List.filter_append, SiteConfig.filter_entryNotices, plan,
      SitePlan.filter_notices, List.nil_append]
  rw [notices, sources, SiteConfig.retainDrawn_retainDrawn, SiteConfig.entryNotices_retainDrawn]
  rfl

/-- Resolving adds nothing that depends on the other entries. -/
theorem compile_retainDrawn (service : ImageService) (previous : ImageCache) :
    let first := compiler.compile service previous config
    compiler.compile service previous (config.retainDrawn compiler.repertoire) =
      { first with project := { first.project with
        notices := first.project.notices.filter (!·.isLeftOut) } } := by
  have again := compiler.sources_retainDrawn config
  -- What there is to resolve is told by the ledger alone.
  have task : compiler.imageTask (compiler.sources (config.retainDrawn compiler.repertoire)) =
      compiler.imageTask (compiler.sources config) := by
    rw [again, imageTask, imageTask]
  dsimp only
  rw [compile_eq, compile_eq, task, again]

/-- **The configuration that is returned stands for the site.** Compiled again it gives the same
files, the same configuration and the same ledger, that is the same tokens under the same
descriptions, as many pictures and as many decorations; and of the notices all but those about
entries that were left out, in order. So with the same cache, and whoever answers, the whole
compilation is the same, down to what is asked for. -/
theorem sources_returned (compiler : Compiler) (config : SiteConfig) :
    compiler.sources (compiler.sources config).config =
        { compiler.sources config with
          notices := (compiler.sources config).notices.filter (!·.isLeftOut) } ∧
      ∀ (service : ImageService) (previous : ImageCache),
        let first := compiler.compile service previous config
        compiler.compile service previous first.project.config =
          { first with project := { first.project with
            notices := first.project.notices.filter (!·.isLeftOut) } } :=
  ⟨compiler.sources_retainDrawn config, compiler.compile_retainDrawn config⟩

end Compiler

/-! ### More pages -/

namespace SiteConfig

/-- The configuration with more pages after its own. -/
def withPages (config : SiteConfig) (more : List Page) : SiteConfig :=
  { config with pages := config.pages ++ more }

theorem retainDrawn_withPages (repertoire : Repertoire) (config : SiteConfig) (more : List Page) :
    ∃ kept, (config.withPages more).retainDrawn repertoire =
      (config.retainDrawn repertoire).withPages kept := by
  rw [retainDrawn_eq, retainDrawn_eq, withPages, filterSections, List.map_append]
  exact ⟨_, rfl⟩

end SiteConfig

/-- What becomes of a page is decided by the pages before it. -/
theorem prefix_decidePages_append (seen : List String) (pages more : List Page) :
    decidePages seen pages <+: decidePages seen (pages ++ more) := by
  induction pages generalizing seen with
  | nil => exact List.nil_prefix
  | cons page rest ih =>
    rw [List.cons_append, decidePages, decidePages]
    cases Route.normalize? page.path with
    | none => exact List.cons_prefix_cons.mpr ⟨rfl, ih seen⟩
    | some route =>
      dsimp only
      split
      · exact List.cons_prefix_cons.mpr ⟨rfl, ih seen⟩
      · exact List.cons_prefix_cons.mpr ⟨rfl, ih (route :: seen)⟩

/-- So is what becomes of a claim, by the claims before it. -/
theorem Settled.prefix_ofPlacements (owners : List Owner) {placements more : List Placement}
    (h : placements <+: more) :
    (ofPlacements owners placements).1 <+: (ofPlacements owners more).1 := by
  obtain ⟨later, rfl⟩ := h
  rw [ofPlacements_append]
  exact List.prefix_append ..

/-- And pictures are numbered by the pictures before them. -/
theorem SectionSource.prefix_placeAll (cap before : Nat)
    {sources more : List (String × SectionSource ImageRequest)} (h : sources <+: more) :
    placeAll cap before sources <+: placeAll cap before more := by
  obtain ⟨later, rfl⟩ := h
  induction sources generalizing before with
  | nil => exact List.nil_prefix
  | cons source rest ih => exact List.cons_prefix_cons.mpr ⟨rfl, ih _⟩

namespace Compiler

variable (compiler : Compiler) (config : SiteConfig) (more : List Page)

theorem prefix_pages :
    (compiler.plan config).pages <+: (compiler.plan (config.withPages more)).pages := by
  obtain ⟨kept, eq⟩ := config.retainDrawn_withPages compiler.repertoire more
  rw [plan, plan, eq]
  exact (prefix_decidePages_append [] _ kept).filterMap _

theorem prefix_placements :
    compiler.placements config <+: compiler.placements (config.withPages more) := by
  refine List.IsPrefix.flatMap (List.cons_prefix_cons.mpr ⟨rfl, ?_⟩) _
  exact (compiler.prefix_pages config more).map _

/-- The components of the first pages are drawn from the same sources, before those of more. -/
theorem prefix_componentSources :
    compiler.componentSources config <+: compiler.componentSources (config.withPages more) := by
  rw [componentSources_eq, componentSources_eq]
  refine List.cons_prefix_cons.mpr ⟨rfl, List.IsPrefix.filterMap _ ?_⟩
  exact Settled.prefix_ofPlacements [] (compiler.prefix_placements config more)

theorem prefix_placedSources :
    compiler.placedSources config <+: compiler.placedSources (config.withPages more) :=
  SectionSource.prefix_placeAll _ 0 (compiler.prefix_componentSources config more)

theorem prefix_componentFiles :
    compiler.componentFiles config <+: compiler.componentFiles (config.withPages more) := by
  rw [componentFiles_eq, componentFiles_eq]
  exact (compiler.prefix_placedSources config more).map _

theorem prefix_pictures :
    compiler.pictures config <+: compiler.pictures (config.withPages more) :=
  (compiler.prefix_placedSources config more).flatMap _

theorem prefix_entries : compiler.entries config.setting (compiler.plan config) <+:
    compiler.entries (config.withPages more).setting
      (compiler.plan (config.withPages more)) := by
  rw [entries_eq, entries_eq]
  exact List.cons_prefix_cons.mpr ⟨rfl, (compiler.prefix_pages config more).map _⟩

/-- **More pages disturb nothing.** If pages are added after those of a site, every file stays,
under its path, with its content and in order; every picture keeps its number, and so the tokens of
the site are the first ones of the larger site. -/
theorem pages_appended (compiler : Compiler) (config : SiteConfig) (more : List Page) :
    let site := compiler.sources config
    let larger := compiler.sources { config with pages := config.pages ++ more }
    site.files.Sublist larger.files ∧
      compiler.pictures config <+:
        compiler.pictures { config with pages := config.pages ++ more } ∧
      site.ledger.tokens <+: larger.ledger.tokens := by
  have pictures := compiler.prefix_pictures config more
  refine ⟨?_, pictures, ?_⟩
  · -- All pages share the same files, and new ones come after the components and the entries.
    have shared : compiler.sharedFiles config.setting (config.retainDrawn compiler.repertoire) =
        compiler.sharedFiles (config.withPages more).setting
          ((config.withPages more).retainDrawn compiler.repertoire) := rfl
    rw [files_sources, shared]
    exact ((List.Sublist.refl _).append (compiler.prefix_componentFiles config more).sublist).append
      (compiler.prefix_entries config more).sublist
  · rw [← filterMap_token?_pictures, ← filterMap_token?_pictures]
    exact pictures.filterMap _

end Compiler

end Sitewright
