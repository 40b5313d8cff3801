import Mathlib.Data.List.Forall2
import Mathlib.Data.List.Perm.Basic
import Sitewright.Proofs.Build.Files

/-!
# Nothing is left out without a notice

Compiling never fails, so whatever it leaves out it has to tell. It leaves out entries and pages.
Entries go in two passes over all pages, first those that stand for no section and then those whose
kind is not drawn, and pages go by their routes. This module adds it up: an entry is either kept, in
its place, or told about in exactly one notice; a page is either published, in its place, or told
about in exactly one notice; and there is no notice besides these and those of collisions
(`Compiler.nothing_left_out`).

The two passes are one: what the first keeps the second looks at, and their notices together are
those of all entries that are not drawn, in another order (`SiteConfig.perm_entryNotices`).
-/

namespace Sitewright

/-! ### Entries -/

/-- Why an entry is left out that is not drawn. -/
def SectionEntry.leftOutReason : SectionEntry → String
  | .unsupported u => u.reason
  | .supported s => "no renderer registered for '" ++ s.kind.tag ++ "'"

/-- The notice about an entry that is not drawn, on the page with a route. -/
def SectionEntry.leftOut (route : String) (entry : SectionEntry) : Notice :=
  .unsupportedSection (Route.display route) entry.typeTag entry.leftOutReason

/-- The first pass words its notices as `leftOut` does. -/
theorem SectionEntry.notice_unreadable (route : String) (entry : SectionEntry)
    (h : (!entry.isSupported) = true) :
    entry.notice route entry.unreadableReason = entry.leftOut route := by
  cases entry with
  | supported s => cases h
  | unsupported u => rfl

/-- So does the second on what the first keeps. -/
theorem SectionEntry.notice_undrawn (route : String) (entry : SectionEntry)
    (h : entry.isSupported = true) :
    entry.notice route entry.undrawnReason = entry.leftOut route := by
  cases entry with
  | supported s => rfl
  | unsupported u => cases h

/-- What is drawn stands for a section. -/
theorem Repertoire.supports_and_isSupported (repertoire : Repertoire) (entry : SectionEntry) :
    (repertoire.supports entry && entry.isSupported) = repertoire.supports entry := by
  cases entry with
  | supported s => exact Bool.and_true _
  | unsupported u => rfl

namespace SiteConfig

variable {config : SiteConfig} {keep : SectionEntry → Bool}

/-- The entries of all pages, with the route of each as it is written, the homepage first. -/
def entryLists (config : SiteConfig) : List (String × List SectionEntry) :=
  ("/", config.sections) :: config.pages.map fun page ↦ (page.path, page.sections)

theorem entryLists_filterSections : (config.filterSections keep).entryLists =
    config.entryLists.map fun page ↦ (page.1, page.2.filter keep) := by
  simp [entryLists, filterSections, Function.comp_def]

theorem rejectedSections_eq : config.rejectedSections keep "/" (·.path) =
    config.entryLists.flatMap fun page ↦
      (page.2.filter fun entry ↦ !keep entry).map fun entry ↦ (page.1, entry) := by
  simp [rejectedSections, entryLists, List.flatMap_map]

/-- Filtering twice is filtering once. -/
theorem retainDrawn_eq (repertoire : Repertoire) (config : SiteConfig) :
    config.retainDrawn repertoire = config.filterSections repertoire.supports := by
  have once (entries : List SectionEntry) :
      (entries.filter SectionEntry.isSupported).filter repertoire.supports =
        entries.filter repertoire.supports := by
    rw [List.filter_filter]
    exact List.filter_congr fun entry _ ↦ repertoire.supports_and_isSupported entry
  simp [retainDrawn, retainSupported, filterSections, once]

/-- On one page: what is not read and what is not drawn is what is left out. -/
theorem perm_leftOut (repertoire : Repertoire) (route : String) (entries : List SectionEntry) :
    ((entries.filter fun e ↦ !e.isSupported).map (fun e ↦ e.notice route e.unreadableReason) ++
      ((entries.filter SectionEntry.isSupported).filter fun e ↦ !repertoire.supports e).map
        (fun e ↦ e.notice route e.undrawnReason)).Perm
    ((entries.filter fun e ↦ !repertoire.supports e).map (·.leftOut route)) := by
  -- Both passes look through what is left out, since what is not read is not drawn.
  have unread : (entries.filter fun e ↦ !e.isSupported) =
      (entries.filter fun e ↦ !repertoire.supports e).filter fun e ↦ !e.isSupported := by
    rw [List.filter_filter]
    refine List.filter_congr fun entry _ ↦ ?_
    have drawn := repertoire.supports_and_isSupported entry
    cases read : entry.isSupported
    · rw [read, Bool.and_false] at drawn
      rw [← drawn]
      rfl
    · rfl
  have undrawn : ((entries.filter SectionEntry.isSupported).filter fun e ↦
      !repertoire.supports e) =
        (entries.filter fun e ↦ !repertoire.supports e).filter SectionEntry.isSupported :=
    List.filter_comm ..
  have first : ∀ e ∈ (entries.filter fun e ↦ !repertoire.supports e).filter fun e ↦
      !e.isSupported, e.notice route e.unreadableReason = e.leftOut route :=
    fun e mem ↦ e.notice_unreadable route (List.mem_filter.mp mem).2
  have second : ∀ e ∈ (entries.filter fun e ↦ !repertoire.supports e).filter
      SectionEntry.isSupported, e.notice route e.undrawnReason = e.leftOut route :=
    fun e mem ↦ e.notice_undrawn route (List.mem_filter.mp mem).2
  rw [unread, undrawn, List.map_congr_left first, List.map_congr_left second, ← List.map_append]
  refine List.Perm.map _ (List.perm_append_comm.trans ?_)
  exact List.filter_append_perm SectionEntry.isSupported _

/-- **Two passes tell of each entry once.** -/
theorem perm_entryNotices (repertoire : Repertoire) (config : SiteConfig) :
    (config.entryNotices repertoire).Perm (config.entryLists.flatMap fun page ↦
      (page.2.filter fun entry ↦ !repertoire.supports entry).map (·.leftOut page.1)) := by
  rw [entryNotices, unsupportedSections, rejectedSections_eq, rejectedSections_eq,
    retainSupported, entryLists_filterSections, List.flatMap_map, List.map_flatMap,
    List.map_flatMap]
  refine (List.flatMap_append_perm ..).trans (List.Perm.flatMap_left _ fun page _ ↦ ?_)
  simp only [List.map_map]
  exact perm_leftOut repertoire page.1 page.2

end SiteConfig

/-! ### Pages -/

namespace PageDecision

/-- What a decision about a page has to tell, if `draws` are the sections that are drawn of a page
and `known` the routes of published pages. -/
def Answers (draws : Page → List Section) (known : List String) (page : Page) : PageDecision → Prop
  | published plan => Route.normalize? page.path = some plan.route ∧ plan.title = page.title ∧
      plan.sections = draws page
  | skipped notice => ∃ reason, notice = .pageSkipped page.path reason ∧
      (Route.normalize? page.path = none ∨
        ∃ route ∈ known, Route.normalize? page.path = some route)

theorem Answers.mono {draws : Page → List Section} {known more : List String} {page : Page}
    {decision : PageDecision} (h : decision.Answers draws known page) (subset : known ⊆ more) :
    decision.Answers draws more page := by
  cases decision with
  | published plan => exact h
  | skipped notice =>
    obtain ⟨reason, eq, none | ⟨route, mem, some⟩⟩ := h
    · exact ⟨reason, eq, .inl none⟩
    · exact ⟨reason, eq, .inr ⟨route, subset mem, some⟩⟩

/-- **Every page is decided about**, one after the other: it is published unless it has no route or
its route is known. -/
theorem forall₂_decidePages (seen : List String) (pages : List Page) :
    List.Forall₂ (fun page decision ↦ decision.Answers (SectionEntry.sectionsOf ·.sections)
      (seen ++ (plans seen pages).map (·.route)) page) pages (decidePages seen pages) := by
  induction pages generalizing seen with
  | nil => exact .nil
  | cons page rest ih =>
    rw [plans, decidePages]
    cases hroute : Route.normalize? page.path with
    | none => exact .cons ⟨_, rfl, .inl hroute⟩ (ih seen)
    | some route =>
      dsimp only
      split
      · rename_i dup
        have known : route ∈ seen := List.contains_iff_mem.mp dup
        exact .cons ⟨_, rfl, .inr ⟨route, List.mem_append_left _ known, hroute⟩⟩ (ih seen)
      · refine .cons ⟨hroute, rfl, rfl⟩ ((ih (route :: seen)).imp fun _ _ answers ↦ ?_)
        -- The route of this page was known to the others, and is one of those published.
        refine answers.mono fun known mem ↦ ?_
        rcases List.mem_append.mp mem with before | later
        · rcases List.mem_cons.mp before with rfl | before
          · exact List.mem_append_right _ List.mem_cons_self
          · exact List.mem_append_left _ before
        · exact List.mem_append_right _ (List.mem_cons_of_mem _ later)

end PageDecision

namespace Compiler

variable (compiler : Compiler) (config : SiteConfig)

/-- The decisions of a compiler are about the pages of the configuration, one for each. -/
theorem forall₂_decisions : List.Forall₂
    (fun page decision ↦ decision.Answers (compiler.repertoire.sectionsOf ·.sections)
      ((compiler.plan config).pages.map (·.route)) page)
    config.pages (compiler.plan config).decisions := by
  have decided := PageDecision.forall₂_decidePages [] (config.retainDrawn compiler.repertoire).pages
  have pages : (config.retainDrawn compiler.repertoire).pages = config.pages.map fun page ↦
      { page with sections :=
        (page.sections.filter SectionEntry.isSupported).filter compiler.repertoire.supports } :=
    List.map_map
  rw [pages, List.forall₂_map_left_iff, ← pages] at decided
  refine decided.imp fun page decision answers ↦ ?_
  cases decision with
  | published plan =>
    obtain ⟨route, title, sections⟩ := answers
    exact ⟨route, title, sections.trans (compiler.repertoire.sectionsOf_filter page.sections)⟩
  | skipped notice => exact answers

/-- The notices about collisions are about nothing else. -/
theorem exists_of_mem_collisions {settled : List Settled} {notice : Notice}
    (h : notice ∈ settled.filterMap Settled.notice?) :
    ∃ path first later, notice = .namingCollision path first later := by
  obtain ⟨use, -, hnotice⟩ := List.mem_filterMap.mp h
  rw [Settled.notice?] at hnotice
  split at hnotice
  · exact ⟨_, _, _, (Option.some.inj hnotice).symm⟩
  · cases hnotice
  · cases hnotice

/-- **Nothing is left out without a notice.** Of each page exactly the entries are kept, in order,
that stand for a section whose kind is drawn. Every page of the configuration is decided about:
what is published has its entry file, in order and under a route of its own, with all sections of
the page that are drawn; and what is skipped has no route, or that of a published page. The notices
are one for each entry that is left out, with its tag and the route of its page, one for each page
that is skipped, and those about collisions. -/
theorem nothing_left_out :
    let sources := compiler.sources config
    let plan := compiler.plan config
    sources.config = config.filterSections compiler.repertoire.supports ∧
    (∃ collisions, (∀ notice ∈ collisions, ∃ path first later,
        notice = .namingCollision path first later) ∧
      sources.notices.Perm
        ((config.entryLists.flatMap fun page ↦
            (page.2.filter fun entry ↦ !compiler.repertoire.supports entry).map
              (·.leftOut page.1)) ++
          plan.decisions.filterMap PageDecision.notice? ++ collisions)) ∧
    List.Forall₂ (fun page decision ↦ decision.Answers (compiler.repertoire.sectionsOf ·.sections)
      (plan.pages.map (·.route)) page) config.pages plan.decisions ∧
    (plan.pages.map (·.route)).Nodup ∧
    ∃ (before : List SourceFile) (home : String) (text : PagePlan → String),
      sources.files = before ++ ⟨"app/page.tsx", home⟩ ::
        (plan.decisions.filterMap PageDecision.plan?).map (fun page ↦ ⟨page.path, text page⟩) := by
  dsimp only
  refine ⟨SiteConfig.retainDrawn_eq _ _, ?_, compiler.forall₂_decisions config,
    PageDecision.nodup_routes_plans [] _, _, _, fun page ↦ (config.pageEntry page).text,
    (files_sources compiler config).trans (by rw [entries_eq]; rfl)⟩
  -- The notices about pages come between those about collisions.
  have notices : (compiler.sources config).notices = config.entryNotices compiler.repertoire ++
      (((compiler.plan config).settled.take 1).flatten.filterMap Settled.notice? ++
        (compiler.plan config).decisions.filterMap PageDecision.notice? ++
        ((compiler.plan config).settled.drop 1).flatten.filterMap Settled.notice?) := rfl
  refine ⟨((compiler.plan config).settled.take 1).flatten.filterMap Settled.notice? ++
    ((compiler.plan config).settled.drop 1).flatten.filterMap Settled.notice?, ?_, ?_⟩
  · intro notice mem
    rcases List.mem_append.mp mem with home | other
    · exact exists_of_mem_collisions home
    · exact exists_of_mem_collisions other
  · rw [notices, List.append_assoc (List.flatMap ..)]
    refine (SiteConfig.perm_entryNotices compiler.repertoire config).append ?_
    rw [← List.append_assoc]
    exact List.perm_append_comm.append_right _

end Compiler

end Sitewright
