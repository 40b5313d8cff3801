import Sitewright.Edit.Keywords
import Sitewright.Proofs.Edit.Scope

/-!
# The targets of keywords

Every rule that classifies an edit by its words picks targets of two shapes only: fields of the
configuration that are written out in the rule, and entries of pages that the text names, each as a
whole. No rule aims at a field inside an entry, which is what lets an edit be clipped to its targets
(`SiteConfig.isWithin_clipTo_iff_reread`). And the one rule that classifies an edit as one of the
logo has the logo as its target, so setting the logo right away is setting a target.

Both facts are one property of a classification, `EditClassification.WellAimed`. It is shown rule by
rule, and the cascade keeps what all its rules have (`EditWords.classify_of_rules`).
-/

namespace Sitewright

open SiteConfig

namespace SiteConfig

/-! ### Whole targets -/

theorem EntryPlace.eq_of_prefix {place other : List String} (h : EntryPlace place)
    (hother : EntryPlace other) (pre : other <+: place) : place = other := by
  cases h <;> cases hother <;> simp_all

theorem isWhole_of_entryPlace {path : FieldPath} (h : EntryPlace path.segments) : IsWhole path :=
  fun _ hplace pre ↦ h.eq_of_prefix hplace pre

/-- Whether a path stays clear of the entries of pages: it does not lead into a list of pages or
entries. -/
def staysClear (path : FieldPath) : Bool :=
  match path.segments with
  | key :: _ :: _ => key != "sections" && key != "pages"
  | _ => true

theorem isWhole_of_staysClear {path : FieldPath} (h : staysClear path = true) : IsWhole path := by
  rintro place (⟨i⟩ | ⟨j, i⟩) ⟨rest, eq⟩ <;> simp [staysClear, ← eq] at h

end SiteConfig

/-! ### Well-aimed classifications -/

/-- No target lies inside an entry, and an edit of the logo aims at the logo. -/
structure EditClassification.WellAimed (c : EditClassification) : Prop where
  /-- Every target that reaches an entry is the entry. -/
  whole : ∀ target ∈ c.targets, IsWhole target
  /-- An edit of the logo has the logo as a target. -/
  logo : c.category = .logoOnly → .field "business.logoUrl" ∈ c.targets

namespace EditClassification

@[simp] theorem targets_normalized (c : EditClassification) :
    c.normalized.targets = c.targets := by
  rw [normalized]
  split <;> rfl

@[simp] theorem category_normalized (c : EditClassification) :
    c.normalized.category = c.category := by
  rw [normalized]
  split <;> rfl

theorem WellAimed.normalized {c : EditClassification} (h : c.WellAimed) :
    c.normalized.WellAimed where
  whole := by simpa using h.whole
  logo := by simpa using h.logo

/-- Away from the logo only the shape of the targets counts. -/
theorem WellAimed.ofTargets {category : EditCategory} {scope : EditScope}
    {targets : List FieldPath} {reasoning : String} (h : category ≠ .logoOnly)
    (whole : ∀ target ∈ targets, IsWhole target) :
    (EditClassification.ofTargets category scope targets reasoning).WellAimed :=
  ⟨whole, fun eq ↦ absurd eq h⟩

end EditClassification

namespace EditWords

variable {text : EditWords} {config : SiteConfig} {c : EditClassification} {target : FieldPath}

@[simp] theorem mem_only {α : Type} {condition : Bool} {a b : α} :
    b ∈ only condition a ↔ condition = true ∧ b = a := by
  cases condition <;> simp [only]

/-! ### What the rules aim at -/

theorem staysClear_of_mem_contactTargets (h : target ∈ text.contactTargets) :
    staysClear target = true := by
  rw [contactTargets, List.mem_eraseDups, List.mem_map] at h
  obtain ⟨entry, mem, rfl⟩ := h
  have clear : ∀ entry ∈ Keywords.contact, staysClear entry.2 = true := by decide
  exact clear entry (List.mem_of_mem_filter mem)

theorem staysClear_of_mem_styleTargets (h : target ∈ text.styleTargets) :
    staysClear target = true := by
  rw [styleTargets] at h
  split at h
  · obtain rfl := List.mem_singleton.mp h
    decide
  · simp only [List.mem_append, mem_only] at h
    rcases h with (((⟨-, rfl⟩ | ⟨-, rfl⟩) | ⟨-, rfl⟩) | ⟨-, rfl⟩) | ⟨-, rfl⟩ <;> decide

theorem exists_of_mem_entryHits {base : FieldPath} {entries : List SectionEntry}
    (h : target ∈ text.entryHits base entries) : ∃ i, target = base.item i := by
  obtain ⟨⟨entry, i⟩, -, rfl⟩ := List.mem_map.mp h
  exact ⟨i, rfl⟩

/-- The entries that a text names are addressed as entries. -/
theorem entryPlace_of_mem_sectionHits (h : target ∈ text.sectionHits config) :
    EntryPlace target.segments := by
  rcases List.mem_append.mp h with home | other
  · obtain ⟨i, rfl⟩ := exists_of_mem_entryHits home
    exact .home i
  · obtain ⟨⟨page, j⟩, -, mem⟩ := List.mem_flatMap.mp other
    obtain ⟨i, rfl⟩ := exists_of_mem_entryHits mem
    exact .page j i

theorem isWhole_of_mem_sectionHits (h : target ∈ text.sectionHits config) : IsWhole target :=
  isWhole_of_entryPlace (entryPlace_of_mem_sectionHits h)

/-! ### Rule by rule -/

theorem wellAimed_of_regenerateRule (h : c ∈ text.regenerateRule) : c.WellAimed := by
  obtain ⟨phrase, -, rfl⟩ := Option.map_eq_some_iff.mp h
  exact .ofTargets (by decide) (by simp)

theorem wellAimed_of_logoRule (h : c ∈ text.logoRule) : c.WellAimed := by
  obtain ⟨-, eq⟩ := Option.mem_ite_none_right.mp h
  obtain rfl := Option.some.inj eq
  refine ⟨fun target mem ↦ isWhole_of_staysClear ?_, fun _ ↦ List.mem_singleton_self _⟩
  obtain rfl := List.mem_singleton.mp mem
  decide

theorem wellAimed_of_structureRule (h : c ∈ text.structureRule config) : c.WellAimed := by
  obtain ⟨-, eq⟩ := Option.mem_ite_none_right.mp h
  obtain rfl := Option.some.inj eq
  refine .ofTargets (by decide) fun target mem ↦ isWhole_of_staysClear ?_
  rw [List.mem_cons, mem_only] at mem
  rcases mem with rfl | ⟨-, rfl⟩ <;> decide

theorem wellAimed_of_contactRule (h : c ∈ text.contactRule) : c.WellAimed := by
  obtain ⟨-, eq⟩ := Option.mem_ite_none_right.mp h
  obtain rfl := Option.some.inj eq
  refine .ofTargets (by decide) fun target mem ↦ isWhole_of_staysClear ?_
  split at mem
  · have clear : ∀ target ∈ Keywords.allContact, staysClear target = true := by decide
    exact clear target mem
  · exact staysClear_of_mem_contactTargets mem

theorem wellAimed_of_styleRule (h : c ∈ text.styleRule) : c.WellAimed := by
  obtain ⟨-, eq⟩ := Option.mem_ite_none_right.mp h
  obtain rfl := Option.some.inj eq
  exact .ofTargets (by decide) fun target mem ↦
    isWhole_of_staysClear (staysClear_of_mem_styleTargets mem)

theorem wellAimed_of_navigationRule (h : c ∈ text.navigationRule) : c.WellAimed := by
  obtain ⟨-, eq⟩ := Option.mem_ite_none_right.mp h
  obtain rfl := Option.some.inj eq
  refine .ofTargets (by decide) fun target mem ↦ isWhole_of_staysClear ?_
  rw [List.mem_append, mem_only, mem_only] at mem
  rcases mem with ⟨-, rfl⟩ | ⟨-, rfl⟩ <;> decide

theorem wellAimed_of_imageRule (h : c ∈ text.imageRule config) : c.WellAimed := by
  obtain ⟨-, eq⟩ := Option.mem_ite_none_right.mp h
  obtain rfl := Option.some.inj eq
  refine .ofTargets (by decide) fun target mem ↦ ?_
  rcases List.mem_cons.mp mem with rfl | mem
  · exact isWhole_of_staysClear (by decide)
  split at mem
  · obtain rfl := List.mem_singleton.mp mem
    exact isWhole_of_staysClear (by decide)
  · exact isWhole_of_mem_sectionHits mem

theorem wellAimed_contentRule (text : EditWords) (config : SiteConfig) :
    (text.contentRule config).WellAimed := by
  rw [contentRule]
  split
  · refine .ofTargets (by decide) fun target mem ↦ isWhole_of_staysClear ?_
    have clear : ∀ target ∈ [FieldPath.field "hero", .field "sections"],
        staysClear target = true := by decide
    exact clear target mem
  · refine .ofTargets (by decide) fun target mem ↦ ?_
    simp only [List.mem_append, mem_only] at mem
    rcases mem with ((⟨-, rfl⟩ | ⟨-, rfl⟩) | ⟨-, rfl⟩) | mem
    iterate 3 exact isWhole_of_staysClear (by decide)
    exact isWhole_of_mem_sectionHits mem

/-! ### The cascade -/

theorem of_mem_orElse {p : EditClassification → Prop} {first second : Option EditClassification}
    (hfirst : ∀ c ∈ first, p c) (hsecond : ∀ c ∈ second, p c) :
    ∀ c ∈ (first <|> second), p c := by
  cases first with
  | none => simpa using hsecond
  | some c => simpa using hfirst c rfl

/-- **The cascade keeps what its rules have.** -/
theorem classify_of_rules {p : EditClassification → Prop} (text : EditWords) (config : SiteConfig)
    (regenerate : ∀ c ∈ text.regenerateRule, p c) (logo : ∀ c ∈ text.logoRule, p c)
    (structure' : ∀ c ∈ text.structureRule config, p c) (contact : ∀ c ∈ text.contactRule, p c)
    (style : ∀ c ∈ text.styleRule, p c) (navigation : ∀ c ∈ text.navigationRule, p c)
    (images : ∀ c ∈ text.imageRule config, p c) (content : p (text.contentRule config)) :
    p (text.classify config) := by
  have rules := of_mem_orElse regenerate <| of_mem_orElse logo <| of_mem_orElse structure' <|
    of_mem_orElse contact <| of_mem_orElse style <| of_mem_orElse navigation images
  rw [classify]
  -- The last rule always applies, so it is the answer exactly if no other one is.
  cases h : (text.regenerateRule <|> text.logoRule <|> text.structureRule config <|>
      text.contactRule <|> text.styleRule <|> text.navigationRule <|> text.imageRule config) with
  | none => exact content
  | some c => exact rules c h

/-- **Classifying by words aims well**, whatever the text and the configuration are. -/
theorem wellAimed_classify (text : EditWords) (config : SiteConfig) :
    (text.classify config).WellAimed :=
  classify_of_rules text config (fun _ ↦ wellAimed_of_regenerateRule)
    (fun _ ↦ wellAimed_of_logoRule) (fun _ ↦ wellAimed_of_structureRule)
    (fun _ ↦ wellAimed_of_contactRule) (fun _ ↦ wellAimed_of_styleRule)
    (fun _ ↦ wellAimed_of_navigationRule) (fun _ ↦ wellAimed_of_imageRule)
    (wellAimed_contentRule text config)

end EditWords

end Sitewright
