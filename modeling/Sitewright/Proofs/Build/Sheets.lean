import Sitewright.Proofs.Build.Claims
import Sitewright.Proofs.Naming.Slots

/-!
# Sheets

A sheet is a page as it is drawn: its route, the names that none of its sections gets, and its
sections. The sheets of a configuration are that of the homepage and those of the published pages
(`SiteConfig.sheets`), and its plan is nothing but their sections, placed in the slots of their page
and settled one sheet after the other (`SitePlan.settled_ofConfig`).

Two facts make the sheets good to work with. The sections of a sheet are those of its entries whose
kind is drawn, all of them and in order (`SiteConfig.exists_page_of_mem_pages`). And no two sections
stand under one path on one page (`SiteConfig.nodup_stands`), because the routes of sheets differ,
and so do the names on each.
-/

namespace Sitewright

open Placement

/-- A page as it is drawn. -/
structure Sheet where
  /-- The route as it is named to people. -/
  route : String
  /-- The names that no section gets. -/
  reserved : List String
  /-- The sections. -/
  sections : List Section

namespace Sheet

/-- The sheet of the homepage. -/
def home (sections : List Section) : Sheet := ⟨"/", Slot.reservedNames, sections⟩

/-- The sheet of a published page. -/
def ofPage (page : PagePlan) : Sheet := ⟨page.displayRoute, page.reservedNames, page.sections⟩

/-- The slots of the sections. -/
def slots (sheet : Sheet) : List Slot := Slot.allocate sheet.reserved sheet.sections

/-- The sections, each in the slot of its position. -/
def placements (sheet : Sheet) : List Placement :=
  (sheet.slots.zip sheet.sections).map fun (slot, s) ↦ ⟨sheet.route, slot, s⟩

theorem fits (sheet : Sheet) :
    Slot.Fits sheet.reserved (sheet.sections.map (·.baseName)) sheet.slots :=
  Slot.fits_allocate ..

@[simp] theorem length_slots (sheet : Sheet) : sheet.slots.length = sheet.sections.length :=
  Slot.length_allocate ..

/-- A slot has the position of its section. -/
theorem index_getElem (sheet : Sheet) {i : Nat} (h : i < sheet.slots.length) :
    sheet.slots[i].index = i := by
  have at_i := congrArg (·[i]?) sheet.fits.index
  have lt : i < sheet.sections.length := by simpa using h
  simpa [h, lt] using at_i

/-- **No section is lost or moved.** The slot of each one leads back to it. -/
theorem ofPage_eq_placements (sheet : Sheet) :
    Placement.ofPage sheet.route sheet.reserved sheet.sections = sheet.placements := by
  have fst : (sheet.slots.zip sheet.sections).map Prod.fst = sheet.slots :=
    List.map_fst_zip (by simp)
  rw [placements, Placement.ofPage, ← slots, ← fst, List.filterMap_map, fst,
    ← List.filterMap_eq_map]
  -- A slot and the section beside it have one position, and that is the index of the slot.
  refine List.filterMap_congr fun (slot, s) mem ↦ ?_
  obtain ⟨i, hi, eq⟩ := List.getElem_of_mem mem
  rw [List.getElem_zip, Prod.mk.injEq] at eq
  obtain ⟨rfl, rfl⟩ := eq
  simp [sheet.index_getElem]

@[simp] theorem map_slot_placements (sheet : Sheet) :
    sheet.placements.map (·.slot) = sheet.slots := by
  rw [placements, List.map_map]
  exact List.map_fst_zip (by simp)

@[simp] theorem map_content_placements (sheet : Sheet) :
    sheet.placements.map (·.content) = sheet.sections := by
  rw [placements, List.map_map]
  exact List.map_snd_zip (by simp)

/-- What holds of all placements holds of each section and its slot. -/
theorem forall₂_slots {sheet : Sheet} {r : Section → Slot → Prop}
    (h : ∀ p ∈ sheet.placements, r p.content p.slot) :
    List.Forall₂ r sheet.sections sheet.slots := by
  rw [← sheet.map_content_placements, ← sheet.map_slot_placements, List.forall₂_map_left_iff,
    List.forall₂_map_right_iff]
  exact List.forall₂_same.mpr h

theorem route_of_mem {sheet : Sheet} {p : Placement} (h : p ∈ sheet.placements) :
    p.route = sheet.route := by
  obtain ⟨_, -, rfl⟩ := List.mem_map.mp h
  rfl

theorem content_mem {sheet : Sheet} {p : Placement} (h : p ∈ sheet.placements) :
    p.content ∈ sheet.sections :=
  sheet.map_content_placements ▸ List.mem_map_of_mem h

end Sheet

/-! ### The sheets of a configuration -/

/-- The sheets of a configuration all of whose entries are drawn. -/
def SiteConfig.sheets (config : SiteConfig) : List Sheet :=
  .home (SectionEntry.sectionsOf config.sections) :: (SitePlan.ofConfig config).pages.map .ofPage

/-- A plan is its sheets, settled one after the other. -/
theorem SitePlan.settled_ofConfig (config : SiteConfig) : (ofConfig config).settled =
    Settled.ofPages [] (config.sheets.map (·.placements)) := by
  simp only [← Sheet.ofPage_eq_placements]
  rw [SiteConfig.sheets, List.map_cons, List.map_map]
  rfl

/-! ### Routes -/

theorem Route.ne_empty_of_normalize? {s route : String} (h : normalize? s = some route) :
    route ≠ "" := by
  rw [normalize?] at h
  cases hparts : segments s.toList with
  | nil => simp [hparts] at h
  | cons part rest =>
    have nonempty : part ≠ [] := by
      have mem : part ∈ segments s.toList := hparts ▸ List.mem_cons_self
      simpa using (List.mem_filter.mp mem).2
    simp only [hparts, List.isEmpty_cons, Bool.false_eq_true, if_false, Option.some.injEq] at h
    rw [← h, ← String.toList_inj.ne]
    cases rest <;> simp [nonempty, List.intercalate]

namespace PageDecision

/-- The pages that are published, when earlier ones have the routes `seen`. -/
def plans (seen : List String) (pages : List Page) : List PagePlan :=
  (decidePages seen pages).filterMap plan?

/-- A page is either left out, or published under a route that was not seen before. -/
theorem plans_cons (seen : List String) (page : Page) (rest : List Page) :
    plans seen (page :: rest) = plans seen rest ∨
      ∃ route, Route.normalize? page.path = some route ∧ route ∉ seen ∧
        plans seen (page :: rest) = ⟨route, page.title, PagePlan.functionName route,
          SectionEntry.sectionsOf page.sections⟩ :: plans (route :: seen) rest := by
  simp only [plans, decidePages]
  cases Route.normalize? page.path with
  | none => exact .inl rfl
  | some route =>
    by_cases dup : route ∈ seen
    · exact .inl (by simp [dup, List.filterMap_cons, plan?])
    · exact .inr ⟨route, rfl, dup, by simp [dup, plan?]⟩

variable {seen : List String} {pages : List Page} {plan : PagePlan}

/-- A published page is one of the pages, under its normalised route and with all its sections. -/
theorem exists_page_of_mem_plans (h : plan ∈ plans seen pages) :
    ∃ page ∈ pages, Route.normalize? page.path = some plan.route ∧
      plan.sections = SectionEntry.sectionsOf page.sections := by
  induction pages generalizing seen with
  | nil => cases h
  | cons page rest ih =>
    have later {seen : List String} (h : plan ∈ plans seen rest) :
        ∃ other ∈ page :: rest, Route.normalize? other.path = some plan.route ∧
          plan.sections = SectionEntry.sectionsOf other.sections := by
      obtain ⟨other, mem, found⟩ := ih h
      exact ⟨other, List.mem_cons_of_mem _ mem, found⟩
    rcases plans_cons seen page rest with eq | ⟨route, hroute, -, eq⟩
    · exact later (eq ▸ h)
    · rcases List.mem_cons.mp (eq ▸ h) with rfl | h
      · exact ⟨page, List.mem_cons_self, hroute, rfl⟩
      · exact later h

/-- The component of a published page is named after its route. -/
theorem function_of_mem_plans (h : plan ∈ plans seen pages) :
    plan.function = PagePlan.functionName plan.route := by
  induction pages generalizing seen with
  | nil => cases h
  | cons page rest ih =>
    rcases plans_cons seen page rest with eq | ⟨route, -, -, eq⟩
    · exact ih (eq ▸ h)
    · rcases List.mem_cons.mp (eq ▸ h) with rfl | h
      · rfl
      · exact ih h

/-- No page is published under a route that was seen before. -/
theorem route_notMem_seen (h : plan ∈ plans seen pages) : plan.route ∉ seen := by
  induction pages generalizing seen with
  | nil => cases h
  | cons page rest ih =>
    rcases plans_cons seen page rest with eq | ⟨route, -, fresh, eq⟩
    · exact ih (eq ▸ h)
    · rcases List.mem_cons.mp (eq ▸ h) with rfl | h
      · exact fresh
      · exact fun mem ↦ ih h (List.mem_cons_of_mem _ mem)

/-- Pages are published under different routes. -/
theorem nodup_routes_plans (seen : List String) (pages : List Page) :
    ((plans seen pages).map (·.route)).Nodup := by
  induction pages generalizing seen with
  | nil => exact List.nodup_nil
  | cons page rest ih =>
    rcases plans_cons seen page rest with eq | ⟨route, -, -, eq⟩
    · rw [eq]
      exact ih seen
    · rw [eq]
      refine List.nodup_cons.mpr ⟨fun mem ↦ ?_, ih _⟩
      obtain ⟨plan, hplan, same⟩ := List.mem_map.mp mem
      exact route_notMem_seen hplan (same ▸ List.mem_cons_self)

end PageDecision

namespace SiteConfig

theorem exists_page_of_mem_pages {config : SiteConfig} {plan : PagePlan}
    (h : plan ∈ (SitePlan.ofConfig config).pages) :
    ∃ page ∈ config.pages, Route.normalize? page.path = some plan.route ∧
      plan.sections = SectionEntry.sectionsOf page.sections :=
  PageDecision.exists_page_of_mem_plans h

/-- No published page has the route of the homepage. -/
theorem displayRoute_ne_home {config : SiteConfig} {plan : PagePlan}
    (h : plan ∈ (SitePlan.ofConfig config).pages) : plan.displayRoute ≠ "/" := by
  obtain ⟨page, -, hroute, -⟩ := exists_page_of_mem_pages h
  intro eq
  have empty : "/" ++ plan.route = "/" ++ "" := eq
  exact Route.ne_empty_of_normalize? hroute ((String.append_right_inj "/").mp empty)

/-- No two sheets have the same route. -/
theorem nodup_routes (config : SiteConfig) : (config.sheets.map (·.route)).Nodup := by
  rw [sheets, List.map_cons, List.map_map]
  refine List.nodup_cons.mpr ⟨fun mem ↦ ?_, ?_⟩
  · obtain ⟨plan, hplan, eq⟩ := List.mem_map.mp mem
    exact displayRoute_ne_home hplan eq
  · have routes : ((SitePlan.ofConfig config).pages.map (·.route)).Nodup :=
      PageDecision.nodup_routes_plans [] config.pages
    have display := routes.map (f := ("/" ++ ·)) fun _ _ ↦ (String.append_right_inj "/").mp
    rwa [List.map_map] at display

/-- **No two sections stand under one path on one page.** -/
theorem nodup_stands (config : SiteConfig) :
    ((config.sheets.flatMap (·.placements)).map stand).Nodup := by
  rw [List.map_flatMap, List.nodup_flatMap]
  -- On one sheet the paths differ, and between two sheets the routes do.
  constructor
  · intro sheet _
    have paths := sheet.fits.nodup_paths
    rw [← sheet.map_slot_placements, List.map_map] at paths
    exact List.Nodup.of_map Prod.fst (by rwa [List.map_map])
  · refine (List.pairwise_map.mp config.nodup_routes).imp fun {a b} ne ↦ ?_
    intro x ha hb
    obtain ⟨p, hp, rfl⟩ := List.mem_map.mp ha
    obtain ⟨q, hq, eq⟩ := List.mem_map.mp hb
    have route : q.route = p.route := congrArg Prod.snd eq
    rw [Sheet.route_of_mem hp, Sheet.route_of_mem hq] at route
    exact ne route.symm

end SiteConfig

end Sitewright
