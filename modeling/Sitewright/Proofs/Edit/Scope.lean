import Sitewright.Proofs.Edit.Clipping
import Sitewright.Proofs.Site.Entries
import Sitewright.Site.Samples

/-!
# What a clipped edit changes

The clipped *value* of an edit agrees with the old one outside the targets, whatever the edit and
the targets are (`Scope.TakenBack.agreeOutside`), and it is a written configuration, so clipping
never fails (`SiteConfig.exists_built`). What the edit returns is that value read again. Reading
leaves everything as it is except the entries of pages, and an entry is put together afresh from the
record of its kind: fields of another kind go, fields that are absent come with their defaults.

So whether a clipped edit stays within its targets is a question about entries alone, and
`SiteConfig.isWithin_clipTo_iff` says which: an edit leaves its targets exactly if some entry of the
clipped value, mixed from both sides and still a section, is written differently at a place that no
target covers. This happens (`SiteConfig.clipTo_leaves_targets`). If every target that reaches an
entry names the whole of it, then nothing is mixed and only an entry of the old configuration can be
written differently (`SiteConfig.isWithin_clipTo_iff_reread`).
-/

namespace Sitewright

open Codec

namespace SiteConfig

/-- What an edit changes lies within the targets exactly if the values agree outside them. -/
theorem isWithin_diff_iff {old new : SiteConfig} {targets : List FieldPath} :
    (old.diff new).isWithin targets = true ↔ old.toJson.AgreeOutside targets new.toJson :=
  Diff.isWithin_between_iff old.isSorted_toJson

/-- What reading the sections of a value again changes in it is covered by the targets. -/
def SettlesWithin (targets : List FieldPath) (v : Json) : Prop :=
  ∀ place, EntryPlace place → ∀ w s, v.at? place = some w → Section.ofJson w = .ok s →
    ∀ change ∈ changes w s.write.sorted, FieldPath.Cover targets (place ++ change.path.segments)

/-- **Clipping never fails.** The clipped value is the value of a configuration, and unless nothing
had to be taken back the result is that configuration with its entries settled. -/
theorem exists_built (old new : SiteConfig) (targets : List FieldPath) :
    ∃ built : SiteConfig, Scope.clipValue old.toJson new.toJson targets = .ok built.toJson ∧
      Scope.TakenBack old.toJson new.toJson targets ((old.diff new).outside targets)
        built.toJson ∧
      old.clipTo new targets =
        .ok ⟨if ((old.diff new).outside targets).isEmpty then new else built.reread,
          ((old.diff new).outside targets).map (·.path)⟩ := by
  obtain ⟨v, hv, taken⟩ :=
    Scope.exists_takenBack old.isSorted_toJson new.isSorted_toJson targets
  obtain ⟨built, rfl⟩ := exists_toJson taken.sorted taken.blend
  refine ⟨built, hv, taken, ?_⟩
  rw [clipTo]
  by_cases none : ((old.diff new).outside targets).isEmpty = true
  · have nil : (old.diff new).outside targets = [] := List.isEmpty_iff.mp none
    simp only [nil, List.isEmpty_nil, if_true, List.map_nil]
  · simp only [none, Bool.false_eq_true, if_false]
    simp only [hv, ofJson_toJson, bind, Except.bind, pure, Except.pure]

/-- For a configuration that was read the result is the clipped one even if nothing had to be taken
back. -/
theorem exists_clipTo (old : SiteConfig) {new : SiteConfig} (hnew : codec.IsRead new)
    (targets : List FieldPath) :
    ∃ built : SiteConfig, Scope.clipValue old.toJson new.toJson targets = .ok built.toJson ∧
      old.toJson.AgreeOutside targets built.toJson ∧
      old.clipTo new targets =
        .ok ⟨built.reread, ((old.diff new).outside targets).map (·.path)⟩ := by
  obtain ⟨built, hv, taken, hclip⟩ := old.exists_built new targets
  refine ⟨built, hv, taken.agreeOutside old.isSorted_toJson, ?_⟩
  rw [hclip]
  by_cases none : ((old.diff new).outside targets).isEmpty = true
  · have nil : (old.diff new).outside targets = [] := List.isEmpty_iff.mp none
    -- Nothing is taken back from the new value, and it is read as what it was written from.
    have same : new.toJson = built.toJson := by
      rw [Scope.clipValue, ← diff, nil, List.foldlM_nil] at hv
      exact Except.ok.inj hv
    have back : built.reread = new := by
      have read := ofJson_toJson built
      rw [← same, ofJson_toJson, reread_of_isRead hnew] at read
      exact (Except.ok.inj read).symm
    rw [if_pos none, back]
  · rw [if_neg none]

/-- Settling the entries of a configuration changes nothing outside the targets exactly if what it
changes in the sections is covered. -/
theorem agreeOutside_reread_iff (config : SiteConfig) (targets : List FieldPath) :
    config.toJson.AgreeOutside targets config.reread.toJson ↔
      SettlesWithin targets config.toJson := by
  constructor
  · intro agree place hplace w s hw hs change mem
    have sorted := config.isSorted_toJson.at? hw
    have between := isBetween_of_mem_changes sorted mem
    by_contra uncovered
    have here := agree _ uncovered
    rw [Json.headAt_append, Json.headAt_append, config.at?_reread hplace, hw, Option.map_some,
      Option.bind_some, Option.bind_some, SectionEntry.rewritten_of_ok hs] at here
    exact between.headAt_ne here
  · intro settles q hq
    -- Away from the entries nothing is settled; in one, a difference is a change that is covered.
    by_cases inside : ∃ place, EntryPlace place ∧ place <+: q
    · obtain ⟨place, hplace, rest, rfl⟩ := inside
      rw [Json.headAt_append, Json.headAt_append, config.at?_reread hplace]
      cases hw : config.toJson.at? place with
      | none => rfl
      | some w =>
        rw [Option.map_some, Option.bind_some, Option.bind_some]
        have sorted := config.isSorted_toJson.at? hw
        cases hs : Section.ofJson w with
        | error e => rw [SectionEntry.rewritten_of_error sorted hs]
        | ok s =>
          rw [SectionEntry.rewritten_of_ok hs]
          by_contra ne
          obtain ⟨change, between, above⟩ := exists_change_above ne
          have mem := mem_changes_of_isBetween between
          refine hq ((settles place hplace w s hw hs change mem).trans ?_)
          exact (List.prefix_append_right_inj place).mpr above
    · exact (config.headAt_reread fun place hplace above ↦ inside ⟨place, hplace, above⟩).symm

/-- **When a clipped edit stays within its targets.** The clipped value always does; its
configuration does exactly if reading the sections of the clipped value again changes nothing that
no target covers. -/
theorem isWithin_clipTo_iff (old : SiteConfig) {new : SiteConfig} (hnew : codec.IsRead new)
    (targets : List FieldPath) :
    ∃ r v, old.clipTo new targets = .ok r ∧
      Scope.clipValue old.toJson new.toJson targets = .ok v ∧
      (Diff.between old.toJson v).isWithin targets = true ∧
      ((old.diff r.config).isWithin targets = true ↔ SettlesWithin targets v) := by
  obtain ⟨built, hvalue, agree, hclip⟩ := old.exists_clipTo hnew targets
  refine ⟨_, _, hclip, hvalue,
    (Diff.isWithin_between_iff old.isSorted_toJson).mpr agree, ?_⟩
  rw [isWithin_diff_iff, ← agreeOutside_reread_iff]
  exact ⟨agree.symm.trans, agree.trans⟩

/-- A site that answers one question. -/
def answering : SiteConfig :=
  bare [.supported (.faq ⟨.list, "Questions", none, [⟨"q", "a"⟩]⟩)] []

/-- The site with an empty list of articles where the question was. -/
def announcing : SiteConfig := bare [.supported (.blogPreview ⟨.grid, "", none, []⟩)] []

theorem isRead_answering : codec.IsRead answering :=
  isRead_of_reread (by simp [answering, bare, reread])

theorem isRead_announcing : codec.IsRead announcing :=
  isRead_of_reread (by simp [announcing, bare, reread])

theorem isWithin_clipTo_iff_announcing : codec.IsRead announcing ∧
    ∃ r v, answering.clipTo announcing [.field "sections.0.type"] = .ok r ∧
      Scope.clipValue answering.toJson announcing.toJson [.field "sections.0.type"] = .ok v ∧
      (Diff.between answering.toJson v).isWithin [.field "sections.0.type"] = true ∧
      ((answering.diff r.config).isWithin [.field "sections.0.type"] = true ↔
        SettlesWithin [.field "sections.0.type"] v) :=
  ⟨isRead_announcing, isWithin_clipTo_iff answering isRead_announcing [.field "sections.0.type"]⟩

/-- **A clipped edit can leave its targets.** The kind of a section is all that may change here. The
clipped value keeps the questions under the new kind; reading it drops them and adds a list of
articles. -/
theorem clipTo_leaves_targets : codec.IsRead answering ∧ codec.IsRead announcing ∧
    ∃ r, answering.clipTo announcing [.field "sections.0.type"] = .ok r ∧
      (answering.diff r.config).isWithin [.field "sections.0.type"] = false := by
  refine ⟨isRead_answering, isRead_announcing, ?_⟩
  have outside : ((answering.clipTo announcing [.field "sections.0.type"]).toOption.map fun r ↦
      (answering.diff r.config).isWithin [.field "sections.0.type"]) = some false := by
    decide +kernel
  exact exists_of_map_toOption outside

/-! ### Targets that name whole entries -/

/-- A path that lies at an entry if it reaches one at all. -/
def IsWhole (path : FieldPath) : Prop :=
  ∀ place, EntryPlace place → place <+: path.segments → path.segments = place

/-- As long as no target lies inside an entry, settling both of two configurations keeps what they
share outside the targets. -/
theorem agreeOutside_reread {a b : SiteConfig} {targets : List FieldPath}
    (whole : ∀ target ∈ targets, IsWhole target)
    (agree : a.toJson.AgreeOutside targets b.toJson) :
    a.reread.toJson.AgreeOutside targets b.reread.toJson := by
  intro q hq
  by_cases inside : ∃ place, EntryPlace place ∧ place <+: q
  · obtain ⟨place, hplace, rest, rfl⟩ := inside
    -- Nothing in an entry is covered unless all of it is, so both have the same entry there.
    have uncovered (below : List String) : ¬ FieldPath.Cover targets (place ++ below) := by
      rintro ⟨target, mem, above⟩
      refine hq ⟨target, mem, ?_⟩
      rcases List.prefix_or_prefix_of_prefix above (List.prefix_append place below) with pre | pre
      · exact pre.trans (List.prefix_append ..)
      · rw [whole target mem place hplace pre]
        exact List.prefix_append ..
    have same (below : List String) := agree _ (uncovered below)
    simp only [Json.headAt_append] at same ⊢
    rw [a.at?_reread hplace, b.at?_reread hplace]
    cases hv : a.toJson.at? place with
    | none =>
      have absent := same []
      cases hw : b.toJson.at? place with
      | none => rfl
      | some w => simp [hv, hw] at absent
    | some v =>
      have present := same []
      cases hw : b.toJson.at? place with
      | none => simp [hv, hw] at present
      | some w =>
        have alike : v.Alike w := fun below ↦ by simpa [hv, hw] using same below
        exact SectionEntry.rewritten_alike (a.isSorted_toJson.at? hv) (b.isSorted_toJson.at? hw)
          alike rest
  · have away (config : SiteConfig) :=
      config.headAt_reread fun place hplace above ↦ inside ⟨place, hplace, above⟩
    rw [away, away]
    exact agree q hq

/-- **When an edit clipped to whole targets stays within them.** Nothing but the old configuration
counts: the edit stays within the targets exactly if settling that one does. -/
theorem isWithin_clipTo_iff_reread (old : SiteConfig) {new : SiteConfig} (hnew : codec.IsRead new)
    {targets : List FieldPath} (whole : ∀ target ∈ targets, IsWhole target) :
    ∃ r, old.clipTo new targets = .ok r ∧
      ((old.diff r.config).isWithin targets = true ↔
        (old.diff old.reread).isWithin targets = true) := by
  obtain ⟨built, -, agree, hclip⟩ := old.exists_clipTo hnew targets
  have settled := agreeOutside_reread whole agree
  refine ⟨_, hclip, ?_⟩
  rw [isWithin_diff_iff, isWithin_diff_iff]
  exact ⟨fun h ↦ h.trans settled.symm, fun h ↦ h.trans settled⟩

end SiteConfig

end Sitewright
