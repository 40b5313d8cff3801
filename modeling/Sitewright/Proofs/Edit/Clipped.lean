import Sitewright.Proofs.Edit.Scope

/-!
# What a clipped value is

Everything that `Scope.TakenBack` says of a clipped value it says place by place, and a sorted value
is what it shows (`Json.eq_of_signedHeadAt`). So the value itself is determined: whatever satisfies
`Scope.TakenBack` for the same changes and the same targets is the same value, in whatever order the
targets were given (`Scope.TakenBack.unique`). At a single place it is all old or all new, unless
some target lies strictly inside (`Scope.TakenBack.cases_at`).

`SiteConfig.exists_clipped` collects what the clipped value of two configurations has. It differs
from the old configuration within the targets only. It has every target as the new configuration
has it, unless the target is on one side only. It has everything that lies apart from the changes
taken back as the new configuration has it. `SiteConfig.clipTo_succeeds` adds that this value is
read as a configuration, so that clipping never fails.
-/

namespace Sitewright

/-- A list of targets counts by its members only. -/
theorem FieldPath.cover_congr {targets others : List FieldPath}
    (same : ∀ target, target ∈ others ↔ target ∈ targets) (p : List String) :
    Cover others p ↔ Cover targets p :=
  exists_congr fun target ↦ and_congr_left fun _ ↦ same target

theorem Diff.outside_congr {targets others : List FieldPath}
    (same : ∀ target, target ∈ others ↔ target ∈ targets) (diff : Diff) :
    diff.outside others = diff.outside targets := by
  refine List.filter_congr fun change _ ↦ congrArg not ?_
  rw [Bool.eq_iff_iff, isCovered_iff, isCovered_iff, FieldPath.cover_congr same]

namespace Scope

variable {old new v w : Json} {targets others : List FieldPath} {done : List Change}
  {p : List String}

theorem Spared.congr_targets (same : ∀ target, target ∈ others ↔ target ∈ targets) :
    Spared old new others p ↔ Spared old new targets p :=
  exists_congr fun target ↦ and_congr_left fun _ ↦ same target

/-- Below a target that is on one side only there is none that both sides have. -/
theorem Spared.of_cover {rest : List String} (h : Spared old new targets (p ++ rest))
    (cover : FieldPath.Cover targets p) : Spared old new targets p := by
  obtain ⟨target, mem, above, left, right⟩ := h
  rcases List.prefix_or_prefix_of_prefix above (List.prefix_append p rest) with pre | pre
  · exact ⟨target, mem, pre, left, right⟩
  · obtain ⟨other, memOther, preOther⟩ := cover
    exact ⟨other, memOther, preOther, Json.isSome_at?_of_prefix (preOther.trans pre) left,
      Json.isSome_at?_of_prefix (preOther.trans pre) right⟩

/-- A place that no target covers but some targets lie in, where one of the two values has them. -/
def ReachInto (old new : Json) (targets : List FieldPath) (p : List String) : Prop :=
  ¬ FieldPath.Cover targets p ∧ ∃ target ∈ targets, p <+: target.segments ∧
    ((old.at? target.segments).isSome = true ∨ (new.at? target.segments).isSome = true)

namespace TakenBack

/-- A target that both sides have is as the new side has it. -/
theorem at?_target (hnew : new.IsSorted) (h : TakenBack old new targets done v)
    {target : FieldPath} (mem : target ∈ targets) (left : (old.at? target.segments).isSome = true)
    (right : (new.at? target.segments).isSome = true) :
    v.at? target.segments = new.at? target.segments :=
  Json.at?_eq_of_signedHeadAt h.sorted hnew fun _ ↦
    h.spared _ ⟨target, mem, List.prefix_append .., left, right⟩

/-- What is apart from all changes that were taken back is as the new side has it. -/
theorem at?_apart (hnew : new.IsSorted) (h : TakenBack old new targets done v)
    (apart : ∀ change ∈ done, ¬ change.path.segments <+: p ∧ ¬ p <+: change.path.segments) :
    v.at? p = new.at? p := by
  refine Json.at?_eq_of_signedHeadAt h.sorted hnew fun rest ↦ h.ahead _ fun change mem above ↦ ?_
  rcases List.prefix_or_prefix_of_prefix above (List.prefix_append p rest) with pre | pre
  · exact (apart change mem).1 pre
  · exact (apart change mem).2 pre

/-- Every place is as one of the sides has it. -/
theorem signedHeadAt_eq (h : TakenBack old new targets done v) (q : List String) :
    v.signedHeadAt q = old.signedHeadAt q ∨ v.signedHeadAt q = new.signedHeadAt q := by
  by_cases spared : Spared old new targets q
  · exact .inr (h.spared q spared)
  by_cases above : ∃ change ∈ done, change.path.segments <+: q
  · exact .inl (h.behind q spared above)
  · exact .inr (h.ahead q fun change mem pre ↦ above ⟨change, mem, pre⟩)

theorem isSome_at? (h : TakenBack old new targets done v) {q : List String}
    (there : (v.at? q).isSome = true) :
    (old.at? q).isSome = true ∨ (new.at? q).isSome = true := by
  rw [← Json.signedHeadAt_isSome] at there
  rcases h.signedHeadAt_eq q with eq | eq <;> rw [eq, Json.signedHeadAt_isSome] at there
  · exact .inl there
  · exact .inr there

/-- **The clipped value is determined** by the changes that were taken back and by which targets
there are. -/
theorem unique (hv : TakenBack old new targets done v) (hw : TakenBack old new others done w)
    (same : ∀ target, target ∈ others ↔ target ∈ targets) : v = w := by
  refine Json.eq_of_signedHeadAt hv.sorted hw.sorted fun q ↦ ?_
  by_cases spared : Spared old new targets q
  · rw [hv.spared q spared, hw.spared q ((Spared.congr_targets same).mpr spared)]
  by_cases above : ∃ change ∈ done, change.path.segments <+: q
  · rw [hv.behind q spared above, hw.behind q ((Spared.congr_targets same).not.mpr spared) above]
  · have ahead : ∀ change ∈ done, ¬ change.path.segments <+: q :=
      fun change mem pre ↦ above ⟨change, mem, pre⟩
    rw [hv.ahead q ahead, hw.ahead q ahead]

/-- At a place that a target covers, the clipped value is the old value or the new one. -/
theorem cases_of_cover (hold : old.IsSorted)
    (h : TakenBack old new targets ((Diff.between old new).outside targets) v)
    (cover : FieldPath.Cover targets p) :
    (∀ rest, v.headAt (p ++ rest) = old.headAt (p ++ rest)) ∨
      ∀ rest, v.headAt (p ++ rest) = new.headAt (p ++ rest) := by
  by_cases spared : Spared old new targets p
  · exact .inr fun rest ↦ Json.headAt_congr (h.spared _ (spared.trans (List.prefix_append p rest)))
  by_cases above : ∃ change ∈ (Diff.between old new).outside targets, change.path.segments <+: p
  · obtain ⟨change, mem, pre⟩ := above
    exact .inl fun rest ↦ Json.headAt_congr (h.behind _ (fun below ↦ spared (below.of_cover cover))
      ⟨change, mem, pre.trans (List.prefix_append p rest)⟩)
  · -- A change inside the place would be covered, so nothing was taken back there.
    refine .inr fun rest ↦ Json.headAt_congr (h.ahead _ fun change mem pre ↦ ?_)
    rcases List.prefix_or_prefix_of_prefix pre (List.prefix_append p rest) with pre | pre
    · exact above ⟨change, mem, pre⟩
    · exact ((mem_outside_iff hold).mp mem).2 (cover.trans pre)

/-- At a place that no target covers or lies in, the clipped value is the old value. -/
theorem headAt_of_not_reachInto (hold : old.IsSorted)
    (h : TakenBack old new targets ((Diff.between old new).outside targets) v)
    (cover : ¬ FieldPath.Cover targets p) (reach : ¬ ReachInto old new targets p)
    (rest : List String) : v.headAt (p ++ rest) = old.headAt (p ++ rest) := by
  by_cases below : FieldPath.Cover targets (p ++ rest)
  · -- The target above lies inside the place, so neither side has it.
    obtain ⟨target, mem, above⟩ := below
    have inside := (List.prefix_or_prefix_of_prefix above (List.prefix_append p rest)).resolve_left
      fun pre ↦ cover ⟨target, mem, pre⟩
    have absent : ¬ ((old.at? target.segments).isSome = true ∨
        (new.at? target.segments).isSome = true) :=
      fun there ↦ reach ⟨cover, target, mem, inside, there⟩
    have gone {w : Json} (here : ¬ (w.at? target.segments).isSome = true) :
        w.headAt (p ++ rest) = none := by
      rw [← Option.not_isSome_iff_eq_none, Json.headAt_isSome]
      exact fun there ↦ here (Json.isSome_at?_of_prefix above there)
    rw [gone fun there ↦ absent (h.isSome_at? there), gone fun there ↦ absent (.inl there)]
  · exact (h.agreeOutside hold _ below).symm

/-- At a place the clipped value is the old value or the new one, unless targets reach into it. -/
theorem cases_at (hold : old.IsSorted)
    (h : TakenBack old new targets ((Diff.between old new).outside targets) v) (p : List String) :
    (∀ rest, v.headAt (p ++ rest) = old.headAt (p ++ rest)) ∨
      (∀ rest, v.headAt (p ++ rest) = new.headAt (p ++ rest)) ∨ ReachInto old new targets p := by
  by_cases cover : FieldPath.Cover targets p
  · exact (h.cases_of_cover hold cover).imp id .inl
  by_cases reach : ReachInto old new targets p
  · exact .inr (.inr reach)
  · exact .inl (h.headAt_of_not_reachInto hold cover reach)

end TakenBack

/-- The order of the targets does not matter, nor does how often each is given. -/
theorem clipValue_congr (hold : old.IsSorted) (hnew : new.IsSorted)
    (same : ∀ target, target ∈ others ↔ target ∈ targets) :
    clipValue old new others = clipValue old new targets := by
  obtain ⟨v, hv, takenV⟩ := exists_takenBack hold hnew targets
  obtain ⟨w, hw, takenW⟩ := exists_takenBack hold hnew others
  rw [Diff.outside_congr same] at takenW
  rw [hv, hw, takenV.unique takenW same]

end Scope

namespace SiteConfig

/-- **What clipping builds.** The clipped value differs from the old configuration within the
targets only. It has each target that both sides have, and each place that is apart from all changes
taken back, as the new configuration has them. How the targets are listed does not matter, and
without targets it is the old configuration. -/
theorem exists_clipped (old new : SiteConfig) (targets : List FieldPath) :
    ∃ v, Scope.clipValue old.toJson new.toJson targets = .ok v ∧
      (Diff.between old.toJson v).isWithin targets = true ∧
      (∀ target ∈ targets, (old.toJson.at? target.segments).isSome = true →
        (new.toJson.at? target.segments).isSome = true →
        v.at? target.segments = new.toJson.at? target.segments) ∧
      (∀ place, (∀ change ∈ (old.diff new).outside targets,
          ¬ change.path.segments <+: place ∧ ¬ place <+: change.path.segments) →
        v.at? place = new.toJson.at? place) ∧
      (∀ others, (∀ target, target ∈ others ↔ target ∈ targets) →
        Scope.clipValue old.toJson new.toJson others = .ok v ∧
        old.clipTo new others = old.clipTo new targets) ∧
      (targets = [] → v.same old.toJson = true) := by
  have hold := old.isSorted_toJson
  have hnew := new.isSorted_toJson
  obtain ⟨v, hv, taken⟩ := Scope.exists_takenBack hold hnew targets
  have agree := taken.agreeOutside hold
  refine ⟨v, hv, (Diff.isWithin_between_iff hold).mpr agree,
    fun _ mem left right ↦ taken.at?_target hnew mem left right,
    fun _ apart ↦ taken.at?_apart hnew apart, fun others same ↦ ⟨?_, ?_⟩, ?_⟩
  · rw [Scope.clipValue_congr hold hnew same, hv]
  · rw [clipTo, clipTo, Diff.outside_congr same, Scope.clipValue_congr hold hnew same]
  · rintro rfl
    -- No target covers anything, so the two values agree everywhere.
    refine (Json.same_iff_alike taken.sorted hold).mpr fun q ↦ (agree q ?_).symm
    rintro ⟨_, mem, -⟩
    cases mem

/-- A target named twice is copied as if it were named once: the questions get the layout of the
articles and keep all the rest. -/
theorem exists_clipped_announcing :
    ∃ v, Scope.clipValue answering.toJson announcing.toJson [.field "sections.0.variant"] = .ok v ∧
      v.at? ["sections", "0", "variant"] = some (.str "grid") ∧
      Scope.clipValue answering.toJson announcing.toJson
        [.field "sections.0.variant", .field "sections.0.variant"] = .ok v := by
  obtain ⟨v, hv, -, copied, -, others, -⟩ :=
    exists_clipped answering announcing [.field "sections.0.variant"]
  obtain ⟨again, -⟩ := others [.field "sections.0.variant", .field "sections.0.variant"] (by simp)
  have there := copied _ (List.mem_singleton_self _) (by decide +kernel) (by decide +kernel)
  exact ⟨v, hv, there.trans rfl, again⟩

/-- **Clipping never fails.** Every change that is to be taken back is found, and the value that is
left is read as a configuration. Unless nothing had to be taken back that configuration is the
result. -/
theorem clipTo_succeeds (old new : SiteConfig) (targets : List FieldPath) :
    ∃ v config, Scope.clipValue old.toJson new.toJson targets = .ok v ∧ ofJson v = .ok config ∧
      old.clipTo new targets =
        .ok ⟨if ((old.diff new).outside targets).isEmpty then new else config,
          ((old.diff new).outside targets).map (·.path)⟩ := by
  obtain ⟨built, hv, -, hclip⟩ := old.exists_built new targets
  exact ⟨_, _, hv, ofJson_toJson built, hclip⟩

end SiteConfig

end Sitewright
