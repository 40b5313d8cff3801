import Sitewright.Proofs.Edit.Routing

/-!
# Which entries an edit reaches

A text names entries of the homepage and of every other page, by their kinds or their titles, and
whoever makes the edit will change what is named. Unless a target lies at or above the entry, that
change is taken back. So for the kinds of edits that are about entries, the targets have to reach
every entry that is named, wherever it stands.

Edits of copy and of pictures do: their rules take all named entries for targets
(`EditClassification.Reaches.copy`). Edits of structure only do so for the homepage. A named entry
of another page is enough to make an edit one of structure, but its list is among the targets only
if the text says that pages are concerned (`EditClassification.Reaches.structural`). Otherwise the
edit is made and taken back, and nothing has changed in the end
(`EditClassification.ofKeywords_misses_page`).
-/

namespace Sitewright

open SiteConfig

namespace EntryRef

/-- Whether an entry stands on the homepage. -/
def isHome : EntryRef → Bool
  | home _ => true
  | page _ _ => false

/-- The place of the list that an entry stands in. -/
def list : EntryRef → List String
  | home _ => ["sections"]
  | page j _ => ["pages", toString j, "sections"]

theorem list_prefix_written (ref : EntryRef) : ref.list <+: ref.written := by
  cases ref with
  | home i => exact ⟨[toString i], rfl⟩
  | page j i => exact ⟨[toString i], rfl⟩

end EntryRef

/-! ### Named entries -/

namespace EditWords

variable {text : EditWords} {config : SiteConfig} {target : FieldPath} {ref : EntryRef}

/-- Whether a text names an entry of a configuration. -/
def Names (text : EditWords) (config : SiteConfig) (ref : EntryRef) : Prop :=
  ∃ entry, config.entryAt? ref = some entry ∧ text.namesEntry entry = true

/-- Whether a text says that pages are concerned. -/
def namesPages (text : EditWords) : Bool := text.hasAny ["page", "pages"]

theorem mem_entryHits_iff {base : FieldPath} {entries : List SectionEntry} :
    target ∈ text.entryHits base entries ↔
      ∃ i entry, entries[i]? = some entry ∧ text.namesEntry entry = true ∧
        target = base.item i := by
  rw [entryHits, List.mem_map]
  constructor
  · rintro ⟨⟨entry, i⟩, mem, rfl⟩
    obtain ⟨mem, named⟩ := List.mem_filter.mp mem
    exact ⟨i, entry, List.mk_mem_zipIdx_iff_getElem?.mp mem, named, rfl⟩
  · rintro ⟨i, entry, here, named, rfl⟩
    exact ⟨(entry, i),
      List.mem_filter.mpr ⟨List.mk_mem_zipIdx_iff_getElem?.mpr here, named⟩, rfl⟩

/-- **The hits of a text are the entries that it names**, on all pages. -/
theorem mem_sectionHits_iff : target ∈ text.sectionHits config ↔
    ∃ ref, text.Names config ref ∧ target = ⟨ref.written⟩ := by
  rw [sectionHits, List.mem_append, mem_entryHits_iff, List.mem_flatMap]
  constructor
  · rintro (⟨i, entry, here, named, rfl⟩ | ⟨⟨page, j⟩, there, mem⟩)
    · exact ⟨.home i, ⟨entry, here, named⟩, rfl⟩
    · obtain ⟨i, entry, here, named, rfl⟩ := mem_entryHits_iff.mp mem
      have there := List.mk_mem_zipIdx_iff_getElem?.mp there
      exact ⟨.page j i, ⟨entry, by rw [entryAt?, there, Option.bind_some, here], named⟩, rfl⟩
  · rintro ⟨ref, ⟨entry, here, named⟩, rfl⟩
    cases ref with
    | home i => exact .inl ⟨i, entry, here, named, rfl⟩
    | page j i =>
      obtain ⟨page, there, here⟩ := Option.bind_eq_some_iff.mp here
      exact .inr ⟨(page, j), List.mk_mem_zipIdx_iff_getElem?.mpr there,
        mem_entryHits_iff.mpr ⟨i, entry, here, named, rfl⟩⟩

theorem Names.mem_sectionHits (h : text.Names config ref) :
    (⟨ref.written⟩ : FieldPath) ∈ text.sectionHits config :=
  mem_sectionHits_iff.mpr ⟨ref, h, rfl⟩

end EditWords

/-! ### Reaching them -/

namespace EditClassification

variable {c : EditClassification} {text : EditWords} {config : SiteConfig} {p : List String}

/-- Whether an edit reaches a place: a target lies at or above it, and hence no change at the place
or below it is ever taken back. -/
def ReachesPlace (c : EditClassification) (p : List String) : Prop :=
  FieldPath.Cover c.targets p ∧
    ∀ diff : Diff, ∀ change ∈ diff.outside c.targets, ¬ p <+: change.path.segments

theorem reachesPlace_iff : c.ReachesPlace p ↔ FieldPath.Cover c.targets p := by
  refine ⟨And.left, fun cover ↦ ⟨cover, fun diff change mem below ↦ ?_⟩⟩
  have covered := Diff.isCovered_iff.mpr (cover.trans below)
  have outside := (List.mem_filter.mp mem).2
  rw [covered] at outside
  cases outside

/-- What a classification of a text reaches of the entries that the text names. -/
structure Reaches (c : EditClassification) (text : EditWords) (config : SiteConfig) : Prop where
  /-- An edit of copy or pictures reaches each of them. -/
  copy : c.category = .content ∨ c.category = .images →
    ∀ ref, text.Names config ref → c.ReachesPlace ref.written
  /-- An edit of structure reaches those on the homepage, in their list. It reaches one on another
  page, and its list, exactly if the text says that pages are concerned. -/
  structural : c.category = .structureMinor → ∀ ref, text.Names config ref →
    (c.ReachesPlace ref.list ↔ ref.isHome = true ∨ text.namesPages = true) ∧
      (c.ReachesPlace ref.written ↔ ref.isHome = true ∨ text.namesPages = true)

/-- Edits of other kinds need not reach any entry. -/
theorem Reaches.of_other {kind : EditCategory} (h : c.category = kind)
    (other : kind ∉ [.content, .images, .structureMinor]) : c.Reaches text config := by
  subst h
  simp only [List.mem_cons, List.not_mem_nil, or_false, not_or] at other
  exact ⟨fun kind ↦ (kind.elim other.1 other.2.1).elim, fun kind ↦ absurd kind other.2.2⟩

/-- Edits of copy and pictures that have all named entries for targets reach them. -/
theorem Reaches.of_hits (structural : c.category ≠ .structureMinor)
    (hits : ∀ hit ∈ text.sectionHits config, hit ∈ c.targets) : c.Reaches text config where
  copy _ _ named := reachesPlace_iff.mpr ⟨_, hits _ named.mem_sectionHits, List.prefix_rfl⟩
  structural kind := absurd kind structural

end EditClassification

namespace EditWords

variable {text : EditWords} {config : SiteConfig} {c : EditClassification}

open EditClassification

/-! ### Rule by rule -/

/-- The targets of an edit of structure cover a place exactly if the lists of the homepage are above
it, or the pages are and are concerned. -/
theorem cover_structural {p : List String} :
    FieldPath.Cover (.field "sections" :: only text.namesPages (.field "pages")) p ↔
      ["sections"] <+: p ∨ text.namesPages = true ∧ ["pages"] <+: p := by
  simp only [FieldPath.Cover, List.mem_cons, mem_only, exists_eq_or_imp, and_assoc,
    exists_and_left, exists_eq_left]
  rfl

theorem reaches_of_structureRule (h : c ∈ text.structureRule config) : c.Reaches text config := by
  obtain ⟨-, eq⟩ := Option.mem_ite_none_right.mp h
  obtain rfl := Option.some.inj eq
  have cover (ref : EntryRef) {p : List String} (lower : ref.list <+: p) :
      FieldPath.Cover (.field "sections" :: only text.namesPages (.field "pages")) p ↔
        ref.isHome = true ∨ text.namesPages = true := by
    obtain ⟨rest, rfl⟩ := lower
    rw [cover_structural]
    cases ref with
    | home i => exact iff_of_true (.inl ⟨rest, rfl⟩) (.inl rfl)
    | page j i =>
      simp [EntryRef.list, EntryRef.isHome]
  exact ⟨nofun, fun _ ref _ ↦ ⟨reachesPlace_iff.trans (cover ref List.prefix_rfl),
    reachesPlace_iff.trans (cover ref ref.list_prefix_written)⟩⟩

theorem reaches_of_imageRule (h : c ∈ text.imageRule config) : c.Reaches text config := by
  obtain ⟨-, eq⟩ := Option.mem_ite_none_right.mp h
  obtain rfl := Option.some.inj eq
  refine .of_hits (fun kind ↦ by cases kind) fun hit mem ↦ List.mem_cons_of_mem _ ?_
  have some : (text.sectionHits config).isEmpty = false :=
    List.isEmpty_eq_false_iff.mpr (List.ne_nil_of_mem mem)
  rwa [some]

theorem reaches_contentRule (text : EditWords) (config : SiteConfig) :
    (text.contentRule config).Reaches text config := by
  rw [contentRule]
  split
  · rename_i none
    refine .of_hits (fun kind ↦ by cases kind) fun hit mem ↦ ?_
    simp only [List.isEmpty_iff, List.append_eq_nil_iff] at none
    rw [none.2] at mem
    cases mem
  · exact .of_hits (fun kind ↦ by cases kind) fun hit mem ↦ List.mem_append_right _ mem

/-- A rule that finds edits of one kind finds no others. -/
theorem category_of_mem_ite {found : Prop} [Decidable found] {kind : EditCategory}
    {scope : EditScope} {targets : List FieldPath} {reasoning : String}
    (h : c ∈ if found then some (ofTargets kind scope targets reasoning) else none) :
    c.category = kind := by
  obtain ⟨-, eq⟩ := Option.mem_ite_none_right.mp h
  exact Option.some.inj eq ▸ rfl

theorem category_of_mem_regenerateRule (h : c ∈ text.regenerateRule) :
    c.category = .structureMajor := by
  obtain ⟨phrase, -, rfl⟩ := Option.map_eq_some_iff.mp h
  rfl

end EditWords

namespace EditClassification

open EditWords

/-- **Which entries an edit reaches.** Edits of copy and of pictures reach every entry that the text
names, on every page. Edits of structure reach the whole list of an entry of the homepage; they
reach that of an entry of another page exactly if the text says that pages are concerned. -/
theorem ofKeywords_reaches (s : String) (config : SiteConfig) :
    (ofKeywords s config).Reaches (.ofText s) config :=
  classify_of_rules _ config
    (fun _ h ↦ .of_other (category_of_mem_regenerateRule h) (by decide))
    (fun _ h ↦ .of_other (category_of_mem_ite h) (by decide))
    (fun _ ↦ reaches_of_structureRule)
    (fun _ h ↦ .of_other (category_of_mem_ite h) (by decide))
    (fun _ h ↦ .of_other (category_of_mem_ite h) (by decide))
    (fun _ h ↦ .of_other (category_of_mem_ite h) (by decide))
    (fun _ ↦ reaches_of_imageRule) (reaches_contentRule _ config)

/-- A site that answers one question, on a page of its own. -/
def helping : SiteConfig :=
  bare [] [⟨"/help", "Help", [.supported (.faq ⟨.accordion, "Questions", none, [⟨"q", "a"⟩]⟩)]⟩]

/-- The site when the questions have been removed. -/
def silent : SiteConfig := bare [] [⟨"/help", "Help", []⟩]

/-- **An edit can miss what it names.** The questions are all that is to be removed, and they are
why the edit is one of structure. Their page is not among its targets, so removing them is taken
back as a whole. -/
theorem ofKeywords_misses_page :
    (ofKeywords "Remove the FAQ" helping).category = .structureMinor ∧
      (EditWords.ofText "Remove the FAQ").Names helping (.page 0 0) ∧
      ¬ (ofKeywords "Remove the FAQ" helping).ReachesPlace (EntryRef.page 0 0).written ∧
      ((Router.run ⟨⟨.clip, true⟩, .keywords, fun _ _ _ ↦ .ok silent⟩ helping "Remove the FAQ"
        []).result.toOption.map fun outcome ↦ (outcome.diff, outcome.outOfScope)) =
          some (⟨[]⟩, [⟨["pages", "0", "sections"]⟩]) := by
  have verdict : ofKeywords "Remove the FAQ" helping = .ofTargets .structureMinor .moderate
      [.field "sections"] "adds, removes or moves sections" := by
    decide +kernel
  refine ⟨verdict ▸ rfl, ⟨_, rfl, by decide +kernel⟩, fun reached ↦ ?_, by decide +kernel⟩
  rw [verdict] at reached
  obtain ⟨target, mem, above⟩ := reached.1
  rw [List.mem_singleton.mp mem] at above
  exact absurd above (by decide)

end EditClassification

end Sitewright
