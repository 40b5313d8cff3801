import Sitewright.Proofs.Edit.Clipped

/-!
# Sections of a clipped edit

A section is one record or another, and its kind is one of its fields. Taking changes back field by
field can therefore leave fields of one kind under the tag of another, and such a value may be no
section at all (`SiteConfig.clipTo_loses_section`). The compiler would skip it, although it could
render what was there before the edit and what was there after it.

This is the only way to lose a section. At a place that targets do not reach into, the clipped value
is the old one or the new one (`Scope.TakenBack.cases_at`). And where the kind stays the same, every
mixture of the two records is a record of that kind (`Section.exists_ofJson_of_blend`), whatever the
targets in it are. So an entry can only be lost where an edit puts a section of another kind in its
place while its targets name parts of the section instead of the whole
(`SiteConfig.clipTo_keeps_sections`).
-/

namespace Sitewright

open Codec

namespace SiteConfig

/-- All entries of the configuration stand for sections. -/
def AllSupported (config : SiteConfig) : Prop :=
  ∀ ref entry, config.entryAt? ref = some entry → entry.isSupported = true

/-- An edit from a section of one kind to one of another whose targets reach into the section
without covering it. -/
def MixesKinds (old new : SiteConfig) (targets : List FieldPath) (ref : EntryRef) : Prop :=
  (∃ s t, old.entryAt? ref = some (.supported s) ∧ new.entryAt? ref = some (.supported t) ∧
      s.kind ≠ t.kind) ∧
    Scope.ReachInto old.toJson new.toJson targets ref.written

variable {config old new : SiteConfig} {targets : List FieldPath} {ref : EntryRef}
  {entry : SectionEntry}

theorem AllSupported.exists_section (h : config.AllSupported)
    (hentry : config.entryAt? ref = some entry) : ∃ s, entry = .supported s := by
  have supported := h ref entry hentry
  cases entry with
  | supported s => exact ⟨s, rfl⟩
  | unsupported u => cases supported

/-- What shows the same as an entry of a configuration without unsupported entries is a section. -/
theorem AllSupported.isSupported_reread (h : config.AllSupported) {v : Json}
    (hv : v.at? ref.written = some (SectionEntry.codec.encode entry))
    (same : ∀ rest, v.headAt (ref.written ++ rest) = config.toJson.headAt (ref.written ++ rest)) :
    entry.reread.isSupported = true := by
  simp only [Json.headAt_append, hv, at?_written, Option.bind_some] at same
  cases there : config.entryAt? ref with
  | none => simpa [there] using same []
  | some entry' =>
    obtain ⟨s, rfl⟩ := h.exists_section there
    rw [SectionEntry.reread_of_alike fun rest ↦ by simpa [there] using (same rest).symm]
    rfl

/-- An entry that is put together from two sides with sections is a section, or the sections are of
two kinds. -/
theorem isSupported_of_blend (hold : old.AllSupported) (hnew : new.AllSupported) {v : Json}
    (blend : Json.Blend old.toJson new.toJson v)
    (hv : v.at? ref.written = some (SectionEntry.codec.encode entry)) :
    entry.reread.isSupported = true ∨ ∃ s t, old.entryAt? ref = some (.supported s) ∧
      new.entryAt? ref = some (.supported t) ∧ s.kind ≠ t.kind := by
  obtain ⟨x, y, source, part⟩ := blend.at? hv
  rw [at?_written, at?_written] at source
  -- An entry that only one side has comes from that side alone.
  have alone {s : Section} (part : Json.Blend (SectionEntry.codec.encode (.supported s))
      (SectionEntry.codec.encode (.supported s)) (SectionEntry.codec.encode entry)) :
      entry.reread.isSupported = true := by
    rw [SectionEntry.reread_of_alike part.alike]
    rfl
  have left {e : SectionEntry} (he : old.entryAt? ref = some e) := hold.exists_section he
  have right {e : SectionEntry} (he : new.entryAt? ref = some e) := hnew.exists_section he
  generalize old.entryAt? ref = a at left source ⊢
  generalize new.entryAt? ref = b at right source ⊢
  cases a with
  | none =>
    cases b with
    | none => cases source
    | some b =>
      obtain ⟨t, rfl⟩ := right rfl
      cases source
      exact .inl (alone part)
  | some a =>
    obtain ⟨s, rfl⟩ := left rfl
    cases b with
    | none =>
      cases source
      exact .inl (alone part)
    | some b =>
      obtain ⟨t, rfl⟩ := right rfl
      cases source
      by_cases kind : t.kind = s.kind
      · obtain ⟨r, -, read⟩ :=
          Section.exists_ofJson_of_blend kind (Json.isSorted_sorted _) part
        rw [SectionEntry.reread_of_ok read]
        exact .inl rfl
      · exact .inr ⟨s, t, rfl, rfl, fun eq ↦ kind eq.symm⟩

/-- **Clipping keeps every section**, unless the edit puts a section of another kind in its place
and only parts of it are targets. -/
theorem clipTo_keeps_sections (hold : old.AllSupported) (hnew : new.AllSupported)
    (targets : List FieldPath) :
    ∃ r, old.clipTo new targets = .ok r ∧ ∀ ref entry, r.config.entryAt? ref = some entry →
      entry.isSupported = true ∨ MixesKinds old new targets ref := by
  obtain ⟨built, -, taken, hclip⟩ := old.exists_built new targets
  refine ⟨_, hclip, fun ref entry hentry ↦ ?_⟩
  by_cases none : ((old.diff new).outside targets).isEmpty = true
  · rw [if_pos none] at hentry
    exact .inl (hnew ref entry hentry)
  rw [if_neg none, entryAt?_reread, Option.map_eq_some_iff] at hentry
  obtain ⟨entry, hentry, rfl⟩ := hentry
  have here : built.toJson.at? ref.written = some (SectionEntry.codec.encode entry) := by
    rw [at?_written, hentry]
    rfl
  rcases taken.cases_at old.isSorted_toJson ref.written with same | same | reached
  · exact .inl (hold.isSupported_reread here same)
  · exact .inl (hnew.isSupported_reread here same)
  · exact (isSupported_of_blend hold hnew taken.blend here).imp id (⟨·, reached⟩)

theorem allSupported_bare (sections : List Section) :
    (bare (sections.map .supported) []).AllSupported := by
  intro ref entry hentry
  cases ref with
  | home i =>
    obtain ⟨s, -, rfl⟩ := List.mem_map.mp (List.mem_of_getElem? hentry)
    rfl
  | page j i => cases hentry

/-- The site with a gallery where the question was. -/
def exhibiting : SiteConfig := bare [.supported (.gallery ⟨.masonry, "Pictures", none, []⟩)] []

theorem clipTo_keeps_sections_exhibiting : answering.AllSupported ∧ exhibiting.AllSupported ∧
    ∃ r, answering.clipTo exhibiting [.field "hero.headline"] = .ok r ∧
      ∀ ref entry, r.config.entryAt? ref = some entry →
        entry.isSupported = true ∨
          MixesKinds answering exhibiting [.field "hero.headline"] ref := by
  have left : answering.AllSupported :=
    allSupported_bare [.faq ⟨.list, "Questions", none, [⟨"q", "a"⟩]⟩]
  have right : exhibiting.AllSupported :=
    allSupported_bare [.gallery ⟨.masonry, "Pictures", none, []⟩]
  exact ⟨left, right, clipTo_keeps_sections left right _⟩

/-- **A clipped edit can lose a section.** The layout of a section is all that may change here. The
clipped value has the questions in a layout that only galleries have, and that is no section. -/
theorem clipTo_loses_section :
    codec.IsRead answering ∧ codec.IsRead exhibiting ∧ answering.AllSupported ∧
      exhibiting.AllSupported ∧
      ∃ r, answering.clipTo exhibiting [.field "sections.0.variant"] = .ok r ∧
        ¬ r.config.AllSupported := by
  refine ⟨isRead_answering, isRead_of_reread (by simp [exhibiting, bare, reread]),
    allSupported_bare [.faq ⟨.list, "Questions", none, [⟨"q", "a"⟩]⟩],
    allSupported_bare [.gallery ⟨.masonry, "Pictures", none, []⟩], ?_⟩
  have lost : ((answering.clipTo exhibiting [.field "sections.0.variant"]).toOption.map fun r ↦
      (r.config.entryAt? (.home 0)).map (·.isSupported)) = some (some false) := by
    decide +kernel
  obtain ⟨r, hclip, hr⟩ := exists_of_map_toOption lost
  refine ⟨r, hclip, fun all ↦ ?_⟩
  obtain ⟨entry, hentry, unsupported⟩ := Option.map_eq_some_iff.mp hr
  cases (all _ entry hentry).symm.trans unsupported

end SiteConfig

end Sitewright
