import Sitewright.Edit.Classification
import Sitewright.Edit.Scope
import Sitewright.Proofs.Diff.Nodes
import Sitewright.Proofs.Site.Entries
import Sitewright.Site.Samples

/-!
# Reported paths as targets

A difference is reported by the texts of its paths, and targets are named by such texts too. A
reported path can be sent back as a target exactly if it can be written: then its text is read as
the path, and otherwise it is read as nothing that covers the change, if it is read at all
(`SiteConfig.reported_targets`).

Every path into a configuration can be written, because the names of fields can
(`Codec.Addressable`) and so can indices. The exception are the entries that stand for no section
(`SiteConfig.ForeignPlace`). They are kept with whatever keys they have; among these are keys with a
dot in them, which look like two keys (`SiteConfig.reported_twice`).
-/

namespace Sitewright

open Codec

/-- The exchanged form of a path is read back if and only if its dotted form is. -/
theorem FieldPath.read_encode_iff {path : FieldPath} (dialect : Dialect) :
    codec.read dialect (.ofJson (codec.encode path)) = .ok path ↔ path.IsWritable := by
  rw [← parse_dotted_iff]
  simp only [codec, encode, Json.sorted, Document.ofJson, text, bind, Except.bind]
  cases parse path.dotted with
  | ok read => simp [pure, Except.pure]
  | error e => simp [throw, throwThe, MonadExceptOf.throw]

/-! ### Places in the value of a configuration -/

/-- The paths in a written entry can be written, unless the entry stands for no section. -/
theorem SectionEntry.isAddressableBut (entry : SectionEntry) :
    (codec.encode entry).IsAddressableBut fun place ↦
      (∃ u, entry = .unsupported u) ∧ place = [] := by
  cases entry with
  | supported s => exact s.isAddressable_write.but
  | unsupported u => exact fun _ _ ↦ .inr ⟨[], ⟨⟨u, rfl⟩, rfl⟩, List.nil_prefix⟩

theorem SectionEntry.isAddressableBut_list (entries : List SectionEntry) :
    ((list codec).encode entries).IsAddressableBut fun place ↦
      ∃ (i : Nat) (u : _), entries[i]? = some (.unsupported u) ∧ place = [toString i] := by
  refine (isAddressableBut_encode_list isAddressableBut entries).mono ?_
  rintro _ ⟨i, _, _, hentry, ⟨⟨u, rfl⟩, rfl⟩, rfl⟩
  exact ⟨i, u, hentry, rfl⟩

theorem Page.isAddressableBut (page : Page) :
    (codec.encode page).IsAddressableBut fun place ↦ ∃ (i : Nat) (u : _),
      page.sections[i]? = some (.unsupported u) ∧ place = ["sections", toString i] :=
  .of_steps fun hw ↦ by
    have mem := Entries.mem_of_find? ((page.step?_encode _).symm.trans hw)
    simp only [entries, List.mem_cons, Prod.mk.injEq, List.not_mem_nil, or_false] at mem
    obtain ⟨rfl, rfl⟩ | ⟨rfl, rfl⟩ | ⟨rfl, rfl⟩ := mem
    · exact ⟨by decide, (Codec.text.isAddressable_encode page.path).but⟩
    · exact ⟨by decide, (Codec.text.isAddressable_encode page.title).but⟩
    · refine ⟨by decide, (SectionEntry.isAddressableBut_list page.sections).mono ?_⟩
      rintro _ ⟨i, u, hu, rfl⟩
      exact ⟨i, u, hu, rfl⟩

namespace SiteConfig

/-- The places of the entries that stand for no section. -/
def ForeignPlace (config : SiteConfig) (place : List String) : Prop :=
  ∃ ref u, config.entryAt? ref = some (.unsupported u) ∧ place = ref.written

/-- The paths in a written configuration can be written, except in entries that stand for no
section. -/
theorem isAddressableBut (config : SiteConfig) :
    config.toJson.IsAddressableBut config.ForeignPlace :=
  .of_steps fun hw ↦ by
    have mem := Entries.mem_of_find? ((config.step?_toJson _).symm.trans hw)
    simp only [entries, List.mem_cons, Prod.mk.injEq, List.not_mem_nil, or_false] at mem
    obtain ⟨rfl, rfl⟩ | ⟨rfl, rfl⟩ | ⟨rfl, rfl⟩ | ⟨rfl, rfl⟩ | ⟨rfl, rfl⟩ | ⟨rfl, rfl⟩ |
      ⟨rfl, rfl⟩ | ⟨rfl, rfl⟩ := mem
    · exact ⟨by decide, (word.isAddressable_encode config.version).but⟩
    · exact ⟨by decide, (Business.codec.isAddressable_encode config.business).but⟩
    · exact ⟨by decide, (Theme.codec.isAddressable_encode config.theme).but⟩
    · exact ⟨by decide, (Nav.codec.isAddressable_encode config.nav).but⟩
    · exact ⟨by decide, (Hero.codec.isAddressable_encode config.hero).but⟩
    · refine ⟨by decide, (SectionEntry.isAddressableBut_list config.sections).mono ?_⟩
      rintro _ ⟨i, u, hu, rfl⟩
      exact ⟨.home i, u, hu, rfl⟩
    · exact ⟨by decide, (Footer.codec.isAddressable_encode config.footer).but⟩
    · refine ⟨by decide,
        (isAddressableBut_encode_list Page.isAddressableBut config.pages).mono ?_⟩
      rintro _ ⟨j, page, _, hpage, ⟨i, u, hu, rfl⟩, rfl⟩
      exact ⟨.page j i, u, by rw [entryAt?, hpage]; exact hu, rfl⟩

/-! ### Reported paths -/

/-- A change is reported at a path that can be written, or in an entry that stands for no section in
one of the configurations. -/
theorem isWritable_or_of_mem_paths {old new : SiteConfig} {path : FieldPath}
    (mem : path ∈ (old.diff new).paths) :
    path.IsWritable ∨
      ∃ place, (old.ForeignPlace place ∨ new.ForeignPlace place) ∧ place <+: path.segments := by
  obtain ⟨change, reported, rfl⟩ := List.mem_map.mp mem
  have between : change.IsBetween old.toJson new.toJson :=
    isBetween_of_mem_changes old.isSorted_toJson reported
  obtain ⟨inOld, inNew⟩ := between.isSome_at?
  by_cases added : change.kind = .added
  · have there := inNew (by rw [added]; decide)
    rcases new.isAddressableBut change.path there with writable | ⟨place, foreign, pre⟩
    · exact .inl writable
    · exact .inr ⟨place, .inr foreign, pre⟩
  · rcases old.isAddressableBut change.path (inOld added) with writable | ⟨place, foreign, pre⟩
    · exact .inl writable
    · exact .inr ⟨place, .inl foreign, pre⟩

theorem ForeignPlace.not_prefix_singleton {config : SiteConfig} {place : List String}
    (h : config.ForeignPlace place) (key : String) : ¬ place <+: [key] := by
  obtain ⟨ref, -, -, rfl⟩ := h
  cases ref <;> simp [EntryRef.written]

/-- No entry is at the top, so no key there is empty. -/
theorem segments_ne_of_mem_paths {old new : SiteConfig} {path : FieldPath}
    (mem : path ∈ (old.diff new).paths) : path.segments ≠ [""] := by
  intro eq
  rcases isWritable_or_of_mem_paths mem with writable | ⟨place, foreign, pre⟩
  · exact (writable "" (eq ▸ List.mem_singleton_self "")).1 rfl
  · rw [eq] at pre
    exact foreign.elim (·.not_prefix_singleton "" pre) (·.not_prefix_singleton "" pre)

/-- **Which reported paths are targets.** The text of a reported path is read back, in printed and
in exchanged form, if and only if the path can be written; the text of any other is read as nothing
that covers the change. Every path that cannot be written leads into an entry that stands for no
section, in the old configuration or in the new one. No two reported paths that can be written have
the same text. -/
theorem reported_targets (old new : SiteConfig) :
    (∀ path ∈ (old.diff new).paths,
      (FieldPath.parse path.dotted = .ok path ↔ path.IsWritable) ∧
      (∀ dialect, FieldPath.codec.read dialect (.ofJson (FieldPath.codec.encode path)) = .ok path ↔
        path.IsWritable) ∧
      ((∃ target, FieldPath.parse path.dotted = .ok target ∧ target.covers path = true) ↔
        path.IsWritable) ∧
      (path.IsWritable ∨ ∃ ref u,
        (old.entryAt? ref = some (.unsupported u) ∨ new.entryAt? ref = some (.unsupported u)) ∧
          ref.written <+: path.segments)) ∧
    (old.diff new).paths.Pairwise fun path other ↦
      path.IsWritable → other.IsWritable → path.dotted ≠ other.dotted := by
  refine ⟨fun path mem ↦ ⟨FieldPath.parse_dotted_iff, FieldPath.read_encode_iff,
    FieldPath.exists_covers_iff (segments_ne_of_mem_paths mem), ?_⟩, ?_⟩
  · rcases isWritable_or_of_mem_paths mem with writable | ⟨_, foreign, pre⟩
    · exact .inl writable
    · rcases foreign with ⟨ref, u, hu, rfl⟩ | ⟨ref, u, hu, rfl⟩
      · exact .inr ⟨ref, u, .inl hu, pre⟩
      · exact .inr ⟨ref, u, .inr hu, pre⟩
  · refine List.pairwise_map.mpr ?_
    refine (pairwise_apart_changes old.isSorted_toJson new.isSorted_toJson).imp ?_
    intro change other apart writable writable' same
    rw [writable.dotted_inj writable'] at same
    exact apart.1 (by rw [same])

/-- A site whose one entry stands for no section and has keys of its own. -/
def slideshow (text : String) : SiteConfig :=
  bare [.ofJson (.obj [("image", .obj [("alt", .str text)]), ("image.alt", .str text),
    ("slide one", .str text), ("type", .str "carousel")])] []

theorem paths_slideshow : ((slideshow "Boats").diff (slideshow "Sails")).paths =
    [⟨["sections", "0", "image", "alt"]⟩, ⟨["sections", "0", "image.alt"]⟩,
      ⟨["sections", "0", "slide one"]⟩] := by
  decide +kernel

theorem reported_targets_slideshow :
    (⟨["sections", "0", "image", "alt"]⟩ ∈ ((slideshow "Boats").diff (slideshow "Sails")).paths ∧
      FieldPath.parse "sections.0.image.alt" = .ok ⟨["sections", "0", "image", "alt"]⟩) ∧
    ⟨["sections", "0", "slide one"]⟩ ∈ ((slideshow "Boats").diff (slideshow "Sails")).paths ∧
      ¬ ∃ target, FieldPath.parse "sections.0.slide one" = .ok target ∧
        target.covers ⟨["sections", "0", "slide one"]⟩ = true := by
  obtain ⟨each, -⟩ := reported_targets (slideshow "Boats") (slideshow "Sails")
  rw [paths_slideshow] at each ⊢
  obtain ⟨reads, -⟩ := each ⟨["sections", "0", "image", "alt"]⟩ (by simp)
  obtain ⟨-, -, covered, -⟩ := each ⟨["sections", "0", "slide one"]⟩ (by simp)
  refine ⟨⟨by simp, reads.mpr (by decide)⟩, by simp, fun target ↦ ?_⟩
  exact absurd (covered.mp target) (by decide)

/-- Two reported paths may have one text, which is read as one of them and does not cover the other;
and the text of a reported path may be no path. -/
theorem reported_twice :
    (∃ path ∈ ((slideshow "Boats").diff (slideshow "Sails")).paths,
      ∃ other ∈ ((slideshow "Boats").diff (slideshow "Sails")).paths,
        path ≠ other ∧ path.dotted = other.dotted ∧
        FieldPath.parse path.dotted = .ok other ∧ other.covers path = false) ∧
    ∃ path ∈ ((slideshow "Boats").diff (slideshow "Sails")).paths,
      FieldPath.parse path.dotted = .error (.invalidSegment "slide one") := by
  rw [paths_slideshow]
  constructor
  · exact ⟨⟨["sections", "0", "image.alt"]⟩, by simp, ⟨["sections", "0", "image", "alt"]⟩, by simp,
      by decide, by rfl, by rfl, by rfl⟩
  · exact ⟨⟨["sections", "0", "slide one"]⟩, by simp, by rfl⟩

end SiteConfig

end Sitewright
