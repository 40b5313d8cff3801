import Sitewright.Proofs.Build.Imports
import Sitewright.Proofs.Naming.Identifiers

/-!
# What entries bind

An entry file binds the names of the components that it imports and that of its own component, and
the entry of a published page besides a type and the constant that describes its document. A file
that binds a name twice does not compile, and neither does one with a name that is no identifier.
Which names a file binds is read off its text (`SourceFile.boundNames?`), so what is shown here is
that of the files (`Compiler.entries_bind_once`).

The names of slots differ from each other; what remains is that none of them is a name that the file
binds anyway. Those are reserved on their page, except the one constant, which starts with a small
letter, as no component does (`Slot.Fits.nodup_bound`).
-/

namespace Sitewright

open Naming

/-- The names of slots stand beside names that are reserved or belong to no component. -/
theorem Slot.Fits.nodup_bound {reserved : List String} {sections : List Section}
    {slots : List Slot} (h : Slot.Fits reserved (sections.map (·.baseName)) slots) {first : String}
    {others : List String} (distinct : (first :: others).Nodup)
    (apart : ∀ name ∈ first :: others, name ∈ reserved ∨ isComponentName name = false) :
    (first :: slots.map Slot.name ++ others).Nodup := by
  have free : ∀ name ∈ slots.map Slot.name, name ∉ first :: others := by
    intro name mem bound
    obtain ⟨slot, hslot, rfl⟩ := List.mem_map.mp mem
    rcases apart _ bound with taken | small
    · exact h.free slot hslot taken
    · rw [h.isComponentName_name hslot] at small
      cases small
  obtain ⟨new, others'⟩ := List.nodup_cons.mp distinct
  rw [List.cons_append, List.nodup_cons, List.mem_append, not_or, List.nodup_append']
  refine ⟨⟨fun mem ↦ free _ mem List.mem_cons_self, new⟩, h.nodup, others', ?_⟩
  exact fun name mem bound ↦ free name mem (List.mem_cons_of_mem _ bound)

/-- A file that binds some names, each once, and all of them names that can be bound. -/
structure SourceFile.BindsOnce (file : SourceFile) (names : List String) : Prop where
  /-- These are the names that the file binds. -/
  bound : file.boundNames? = some names
  /-- No name is bound twice. -/
  nodup : names.Nodup
  /-- Every name is an identifier. -/
  identifier : ∀ name ∈ names, isIdentifier name = true
  /-- A component that is imported starts with a capital. -/
  component : ∀ imports ∈ file.imports?, ∀ i ∈ imports, i.isType = false →
    isComponentName i.name = true

section Slots

variable {reserved : List String} {sections : List Section} {slots : List Slot}

/-- Names are identifiers if those beside the slots are. -/
theorem Slot.Fits.isIdentifier_of_mem (h : Slot.Fits reserved (sections.map (·.baseName)) slots)
    {first name : String} {others : List String}
    (beside : ∀ name ∈ first :: others, isIdentifier name = true)
    (mem : name ∈ first :: slots.map Slot.name ++ others) : isIdentifier name = true := by
  rcases List.mem_append.mp mem with before | other
  · rcases List.mem_cons.mp before with rfl | component
    · exact beside _ List.mem_cons_self
    · obtain ⟨slot, hslot, rfl⟩ := List.mem_map.mp component
      exact isIdentifier_of_isComponentName (h.isComponentName_name hslot)
  · exact beside _ (List.mem_cons_of_mem _ other)

/-- Imported components start with capitals if the first does, or is a type. -/
theorem Slot.Fits.isComponentName_of_mem (h : Slot.Fits reserved (sections.map (·.baseName)) slots)
    {first i : Import} (hfirst : first.isType = true ∨ isComponentName first.name = true)
    (mem : i ∈ first :: slots.map Import.ofSlot) (component : i.isType = false) :
    isComponentName i.name = true := by
  rcases List.mem_cons.mp mem with rfl | mem
  · rcases hfirst with type | name
    · rw [type] at component
      cases component
    · exact name
  · obtain ⟨slot, hslot, rfl⟩ := List.mem_map.mp mem
    exact h.isComponentName_name hslot

/-- A file binds each name once if it binds the names of slots, and beside them only identifiers
that are reserved or belong to no component. -/
theorem Slot.Fits.bindsOnce (h : Slot.Fits reserved (sections.map (·.baseName)) slots)
    {file : SourceFile} {first : Import} {others : List String}
    (imports : file.imports? = some (first :: slots.map Import.ofSlot))
    (bound : file.boundNames? = some (first.name :: slots.map Slot.name ++ others))
    (hfirst : first.isType = true ∨ isComponentName first.name = true)
    (distinct : (first.name :: others).Nodup)
    (apart : ∀ name ∈ first.name :: others, name ∈ reserved ∨ isComponentName name = false)
    (beside : ∀ name ∈ first.name :: others, isIdentifier name = true) :
    file.BindsOnce (first.name :: slots.map Slot.name ++ others) where
  bound := bound
  nodup := h.nodup_bound distinct apart
  identifier _ mem := h.isIdentifier_of_mem beside mem
  component _ himports _ mem := by
    rw [imports] at himports
    obtain rfl := Option.some.inj himports
    exact h.isComponentName_of_mem hfirst mem

end Slots

namespace PageEntry

theorem names_imports (first : Import) (slots : List Slot) :
    (first :: slots.map Import.ofSlot).map (·.name) = first.name :: slots.map Slot.name := by
  rw [List.map_cons, List.map_map]
  rfl

theorem boundNames_home (slots : List Slot) :
    (home slots).boundNames = "Hero" :: slots.map Slot.name ++ ["Home"] := by
  have imports := names_imports ⟨"Hero", "@/components/Hero", false⟩ slots
  rw [boundNames, home, imports]
  simp

theorem boundNames_ofPage (business : String) (styles : Styles) (plan : PagePlan)
    (slots : List Slot) : (ofPage business styles plan slots).boundNames =
      "Metadata" :: slots.map Slot.name ++ ["metadata", plan.function] := by
  have imports := names_imports ⟨"Metadata", "next", true⟩ slots
  rw [boundNames, ofPage, imports, List.append_assoc]
  rfl

end PageEntry

namespace Compiler

variable {compiler : Compiler} {config : SiteConfig}

/-- The entry of the homepage binds no name twice. -/
theorem bindsOnce_homeFile : (compiler.homeFile config).BindsOnce
    ("Hero" :: (compiler.homeSheet config).slots.map Slot.name ++ ["Home"]) := by
  have bound := (compiler.legible_home config).boundNames?_text "app/page.tsx"
  rw [PageEntry.boundNames_home] at bound
  have taken : ∀ name ∈ ["Hero", "Home"],
      name ∈ Slot.reservedNames ∨ isComponentName name = false := by decide
  exact (Sheet.home _).fits.bindsOnce (compiler.imports?_homeFile config) bound
    (.inr (by decide)) (by decide) taken (by decide)

/-- The entry of a published page binds no name twice. -/
theorem bindsOnce_pageFile {page : PagePlan} (h : page ∈ (compiler.plan config).pages) :
    (pageFile config page).BindsOnce
      ("Metadata" :: (Sheet.ofPage page).slots.map Slot.name ++ ["metadata", page.function]) := by
  have function := PageDecision.function_of_mem_plans h
  have capital : isComponentName page.function = true :=
    function ▸ PagePlan.isComponentName_functionName page.route
  have type : page.function ≠ "Metadata" := function ▸ PagePlan.functionName_ne_metadata page.route
  have small : isComponentName "metadata" = false := by decide
  have constant : page.function ≠ "metadata" := by
    intro eq
    rw [eq, small] at capital
    cases capital
  have bound := (legible_pageEntry h).boundNames?_text page.path
  rw [SiteConfig.pageEntry, PageEntry.boundNames_ofPage] at bound
  refine (Sheet.ofPage page).fits.bindsOnce (imports?_pageFile h) bound (.inl rfl) ?_ ?_ ?_
  · simp [type.symm, constant.symm]
  · simp [small, Sheet.ofPage, PagePlan.reservedNames]
  · refine List.forall_mem_cons.mpr ⟨by decide, List.forall_mem_cons.mpr ⟨by decide, ?_⟩⟩
    exact List.forall_mem_singleton.mpr (isIdentifier_of_isComponentName capital)

/-- **Entries bind each name once.** The last files of a site are its entries, that of the homepage
first. As its text is read, the homepage binds the hero, its sections and itself; a published page
binds the type and the constant of its document, its sections and itself. Each section that is drawn
has one of these names, in order. On each page they are different identifiers, and what is imported
as a component starts with a capital. -/
theorem entries_bind_once (compiler : Compiler) (config : SiteConfig) :
    ∃ (before : List SourceFile) (home : SourceFile) (entry : PagePlan → SourceFile),
      (compiler.sources config).files =
        before ++ home :: (compiler.plan config).pages.map entry ∧
      home.path = "app/page.tsx" ∧
      (∃ slots, Slot.Fits Slot.reservedNames
          ((compiler.repertoire.sectionsOf config.sections).map (·.baseName)) slots ∧
        home.BindsOnce ("Hero" :: slots.map Slot.name ++ ["Home"])) ∧
      ∀ page ∈ (compiler.plan config).pages, (entry page).path = page.path ∧
        ∃ source ∈ config.pages, Route.normalize? source.path = some page.route ∧
          ∃ slots, Slot.Fits page.reservedNames
              ((compiler.repertoire.sectionsOf source.sections).map (·.baseName)) slots ∧
            (entry page).BindsOnce
              ("Metadata" :: slots.map Slot.name ++ ["metadata", page.function]) := by
  obtain ⟨before, files⟩ := compiler.files_eq_append_entries config
  refine ⟨before, _, _, files, rfl, ⟨_, (Sheet.home _).fits, bindsOnce_homeFile⟩, ?_⟩
  intro page hpage
  obtain ⟨source, hsource, route, sections⟩ := compiler.exists_page_of_mem_pages config hpage
  have fits := (Sheet.ofPage page).fits
  exact ⟨rfl, source, hsource, route, _, sections ▸ fits, bindsOnce_pageFile hpage⟩

end Compiler

end Sitewright
