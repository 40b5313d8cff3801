import Sitewright.Proofs.Build.Provenance
import Sitewright.Proofs.Image.Harvest
import Sitewright.Proofs.Render.Subjects

/-!
# Another theme for the same site

A theme is only style classes. They are spliced into the markup that is searched for image tags
later, so that a change of theme changes nothing but looks takes an argument: what a ledger sees of
a source are its subjects (`ImageLedger.draw_snd`), and the subjects of a site are a function of its
sections and its business (`Compiler.map_subjects_componentSources`). The plan of a site never asks
for the theme in the first place.

So a site with another theme has the same files by name, the same ledger and the same notices
(`Compiler.theme_edit`). It shows the same tokens, under the same descriptions, and a cache that
knows them all knows them still: nothing is asked for again.
-/

namespace Sitewright

open Markup

/-- The path that a section is drawn into and what it shows there, if it is drawn. -/
def Settled.shown? (repertoire : Repertoire) (business : Business) (use : Settled) :
    Option (String × List Subject) :=
  if use.claim == .new && repertoire.has use.placement.content.kind then
    some (use.placement.slot.path, use.placement.content.subjects business)
  else none

theorem Settled.map_subjects_source? {setting : Setting} (h : setting.styles.Plain)
    (repertoire : Repertoire) (use : Settled) :
    (use.source? repertoire setting).map (fun source ↦ (source.1, source.2.subjects)) =
      use.shown? repertoire setting.business := by
  have subjects := Section.subjects_source h use.placement.slot.named_anchor.plain
    use.placement.slot.name use.placement.content
  rw [source?, shown?]
  split
  · rw [Option.map_some, subjects]
  · rfl

namespace Compiler

variable (compiler : Compiler) (config : SiteConfig) (theme : Theme)

/-- **What a site shows.** The subjects of its sources do not depend on its theme. -/
theorem map_subjects_componentSources :
    (compiler.componentSources config).map (fun source ↦ (source.1, source.2.subjects)) =
      (Hero.path, config.hero.subjects) :: (compiler.plan config).settled.flatten.filterMap
        (Settled.shown? compiler.repertoire config.business) := by
  have sources : compiler.componentSources config =
      (Hero.path, .drawn (config.hero.component config.setting)) ::
        (compiler.plan config).settled.flatten.filterMap
          (Settled.source? compiler.repertoire config.setting) := rfl
  have hero : (SectionSource.drawn (config.hero.component config.setting)).subjects =
      config.hero.subjects := Hero.subjects_component config.setting config.hero
  have styles : config.setting.styles.Plain := config.theme.plain_styles
  rw [sources, List.map_cons, hero, List.map_filterMap]
  simp only [Settled.map_subjects_source? styles]
  rfl

/-- The plan of a site is made without its theme. -/
theorem plan_edit :
    compiler.plan { config with theme := theme } = compiler.plan config := rfl

theorem shown_edit : (compiler.componentSources { config with theme := theme }).map
      (fun source ↦ (source.1, source.2.subjects)) =
    (compiler.componentSources config).map fun source ↦ (source.1, source.2.subjects) := by
  have edited := compiler.map_subjects_componentSources { config with theme := theme }
  rw [compiler.plan_edit config theme] at edited
  exact edited.trans (compiler.map_subjects_componentSources config).symm

/-- The ledger of a site is what its subjects make of an empty one. -/
theorem ledger_sources : (compiler.sources config).ledger =
    ((compiler.componentSources config).map (·.2.subjects)).foldl ImageLedger.see
      (.empty compiler.options.imageCap) := by
  have drawn : (compiler.sources config).ledger =
      ((ImageLedger.empty compiler.options.imageCap).drawAll
        (compiler.componentSources config)).2 := rfl
  exact drawn.trans (ImageLedger.drawAll_snd _ (compiler.isClean_of_mem_componentSources config))

theorem ledger_edit : (compiler.sources { config with theme := theme }).ledger =
    (compiler.sources config).ledger := by
  have subjects := congrArg (List.map Prod.snd) (compiler.shown_edit config theme)
  rw [List.map_map, List.map_map] at subjects
  rw [ledger_sources, ledger_sources]
  exact congrArg (List.foldl ImageLedger.see _) subjects

theorem paths_edit : (compiler.sources { config with theme := theme }).files.map (·.path) =
    (compiler.sources config).files.map (·.path) := by
  have components := congrArg (List.map Prod.fst) (compiler.shown_edit config theme)
  rw [List.map_map, List.map_map] at components
  rw [paths_sources, paths_sources, plan_edit]
  exact congrArg (sharedPaths ++ · ++ _) components

theorem notices_edit : (compiler.sources { config with theme := theme }).notices =
    (compiler.sources config).notices := rfl

variable {compiler config}

/-- What a cache knows of one site it knows of every other with the same ledger. -/
theorem knows_of_ledger_eq {other : SiteConfig} {cache : ImageCache}
    (same : (compiler.sources other).ledger = (compiler.sources config).ledger)
    (knows : (compiler.imageTask (compiler.sources config)).Knows cache
      (compiler.sources config).files) :
    (compiler.imageTask (compiler.sources other)).Knows cache (compiler.sources other).files := by
  have task : compiler.imageTask (compiler.sources other) =
      compiler.imageTask (compiler.sources config) := by
    rw [imageTask, imageTask, same]
  rw [task]
  intro d mem
  obtain ⟨token, counts, rfl⟩ := List.mem_map.mp (List.mem_eraseDups.mp mem)
  have minted := (ImageTask.mem_tokens.mp counts).2
  rw [minted_imageTask] at minted
  exact knows _ (List.mem_eraseDups.mpr
    (List.mem_map_of_mem (mem_tokens_of_mem_minted minted)))

/-- A cache that has all addresses has them for every other site with the same ledger. -/
theorem requests_of_ledger_eq {edited : SiteConfig} {service : ImageService}
    {previous : ImageCache}
    (same : (compiler.sources edited).ledger = (compiler.sources config).ledger)
    (whole : (compiler.compile service previous config).project.status.isDegraded = false)
    (other : ImageService) : (compiler.compile other
      (compiler.compile service previous config).project.cache edited).requests = [] := by
  rw [status_compile] at whole
  rw [requests_compile, cache_compile]
  exact ImageTask.misses_eq_nil
    (knows_of_ledger_eq same (ImageTask.settles_of_isDegraded_eq_false whole).1)

variable (compiler config)

/-- **Another theme changes looks only.** Two configurations that differ in nothing but the theme
give files under the same paths, in the same order, the same ledger, that is the same tokens under
the same descriptions, as many pictures and as many decorations, and the same notices. So with the
cache of a compilation that misses no picture, nobody is asked when the site is compiled again under
another theme. -/
theorem theme_edit :
    (compiler.sources { config with theme := theme }).files.map (·.path) =
        (compiler.sources config).files.map (·.path) ∧
      (compiler.sources { config with theme := theme }).ledger =
        (compiler.sources config).ledger ∧
      (compiler.sources { config with theme := theme }).notices =
        (compiler.sources config).notices ∧
      ∀ (service : ImageService) (previous : ImageCache),
        (compiler.compile service previous config).project.status.isDegraded = false →
        ∀ other : ImageService, (compiler.compile other
          (compiler.compile service previous config).project.cache
          { config with theme := theme }).requests = [] :=
  ⟨compiler.paths_edit config theme, compiler.ledger_edit config theme,
    compiler.notices_edit config theme, fun _ _ whole other ↦
      requests_of_ledger_eq (compiler.ledger_edit config theme) whole other⟩

/-- The harbor in the dark: whoever answered before is gone, and is not missed. -/
theorem theme_edit_dark :
    ((ofOptions .default).compile answering .empty mirroring).project.status.isDegraded = false ∧
      ((ofOptions .default).compile .offline
        ((ofOptions .default).compile answering .empty mirroring).project.cache
        { mirroring with theme := ⟨.rose, .pink, .lime, .dark, .classic⟩ }).requests = [] := by
  have whole : ((ofOptions .default).compile answering .empty
      mirroring).project.status.isDegraded = false := by
    rw [status_mirroring, ImageStatus.isDegraded]
  exact ⟨whole, (theme_edit (ofOptions .default) mirroring _).2.2.2 answering .empty whole .offline⟩

end Compiler

end Sitewright
