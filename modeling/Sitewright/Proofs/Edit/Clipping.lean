import Sitewright.Edit.Scope
import Sitewright.Proofs.Diff.Agreement
import Sitewright.Proofs.Json.Blend

/-!
# Taking changes back

What `Scope.clipValue` makes of two values. Changes are taken back one after the other, and each
may be followed by copies of targets below it, so the value in between is neither the old nor the
new one. `Scope.TakenBack` says what it is, place by place: below a change that has been taken back
it shows the old value, everywhere else it still shows the new one, and at a target that both sides
have it shows the new one in any case. That no change lies above another is what makes the step
lemma go through (`Scope.TakenBack.step`): a change finds its place as the new value has it.

`Scope.exists_takenBack` is what comes of it: clipping a value always succeeds, and what stands at a
place of the clipped value depends on nothing but what the two sides have there and above. So the
clipped value agrees with the old one at every place that no target covers
(`Scope.TakenBack.agreeOutside`). It is a blend of the two sides, which is what its readers go by.

All this is about values. Whether the clipped value is a configuration, and which one, is another
matter.
-/

namespace Sitewright

namespace Json

/-- A change at a place that leaves everything alone which is not at or below `below` leaves
everything alone which is not at or below that part of the place. -/
theorem signedHeadAt_updateAt?_of_not_prefix_append {f : Json → Option Json} {v v' : Json}
    {p below q : List String} (h : v.updateAt? f p = some v')
    (hf : ∀ {w w'}, v.at? p = some w → f w = some w' →
      ∀ q, ¬ below <+: q → w'.signedHeadAt q = w.signedHeadAt q)
    (hq : ¬ p ++ below <+: q) : v'.signedHeadAt q = v.signedHeadAt q := by
  by_cases above : p <+: q
  · obtain ⟨rest, rfl⟩ := above
    obtain ⟨w, w', hw, hw', there⟩ := at?_updateAt? h
    rw [signedHeadAt_append, signedHeadAt_append, there, hw, Option.bind_some, Option.bind_some]
    exact hf hw hw' rest fun pre ↦ hq (List.prefix_append_right_inj p |>.mpr pre)
  · exact signedHeadAt_updateAt?_of_not_prefix h above

theorem signedHeadAt_of_same_steps {v w : Json} {key : String} (head : v.signedHead = w.signedHead)
    (steps : ∀ step, step ≠ key → v.step? step = w.step? step) {q : List String}
    (hq : ¬ [key] <+: q) : v.signedHeadAt q = w.signedHeadAt q := by
  cases q with
  | nil => simp [head]
  | cons step rest =>
    have ne : step ≠ key := fun eq ↦ hq (by simp [eq])
    rw [signedHeadAt_cons, signedHeadAt_cons, steps step ne]

end Json

namespace Change

/-! ### Where keys come and go -/

/-- A key that only one side has stands in an object on both sides. -/
theorem IsBetween.exists_objects {a b : Json} {change : Change} (h : change.IsBetween a b)
    (kind : change.kind ≠ .modified) : ∃ (parent : FieldPath) (key : String)
      (as bs : List (String × Json)), change.path = parent.child key ∧
        a.at? parent.segments = some (.obj as) ∧ b.at? parent.segments = some (.obj bs) := by
  have objects {a b : Json} (step : String) (heads : a.head = b.head)
      (differ : (a.step? step).isSome ≠ (b.step? step).isSome) :
      ∃ as bs, a = .obj as ∧ b = .obj bs := by
    rcases Json.cases_of_head_eq heads with obj | ⟨as, bs, rfl, rfl, length⟩ | ⟨-, none⟩
    · exact obj
    · exact absurd (Json.isSome_step?_arr length step) differ
    · exact absurd (by rw [(none step).1, (none step).2]) differ
  induction h with
  | here => exact absurd rfl kind
  | @inside a b x y step change heads left right inner ih =>
    obtain ⟨parent, key, as, bs, path, ha, hb⟩ := ih kind
    refine ⟨⟨step :: parent.segments⟩, key, as, bs, ?_, ?_, ?_⟩
    · rw [under, path]
      rfl
    · rw [Json.at?, left, Option.bind_some, ha]
    · rw [Json.at?, right, Option.bind_some, hb]
  | @gone a b step heads left right =>
    obtain ⟨as, bs, rfl, rfl⟩ := objects step heads (by simp [left, right])
    exact ⟨.root, step, as, bs, rfl, rfl, rfl⟩
  | @come a b step heads left right =>
    obtain ⟨as, bs, rfl, rfl⟩ := objects step heads (by simp [left, right])
    exact ⟨.root, step, as, bs, rfl, rfl, rfl⟩

theorem holder_child (parent : FieldPath) (key : String) :
    holder (parent.child key) = .ok (parent, key) := by
  rw [holder, FieldPath.parent?_child, FieldPath.last?_child]

/-! ### Taking one change back -/

/-- What taking a change back makes of a value: it has at the path what the old value has there,
and nothing else has changed. -/
structure Reverts (old new : Json) (change : Change) (v v' : Json) : Prop where
  sorted : v'.IsSorted
  at? : v'.at? change.path.segments = old.at? change.path.segments
  frame : ∀ q, ¬ change.path.segments <+: q → v'.signedHeadAt q = v.signedHeadAt q
  blend : Json.Blend old new v'

variable {old new v : Json} {change : Change}

theorem reverts_modified (sorted : old.IsSorted) (hv : v.IsSorted) (blend : Json.Blend old new v)
    (between : change.IsBetween old new) (kind : change.kind = .modified)
    (there : v.headAt change.path.segments = new.headAt change.path.segments) :
    ∃ v', change.revert old v = .ok v' ∧ Reverts old new change v v' := by
  have sides := between.at?
  rw [kind] at sides
  obtain ⟨x, y, hx, hy, -⟩ := sides
  obtain ⟨w, hw⟩ : ∃ w, v.at? change.path.segments = some w := by
    rw [← Option.isSome_iff_exists, ← Json.headAt_isSome, there, Json.headAt_isSome, hy]
    rfl
  obtain ⟨v', hv'⟩ : ∃ v', v.setAt? change.path.segments x = some v' :=
    Json.exists_updateAt? hw rfl
  refine ⟨v', by rw [revert]; simp [kind, hx, hv', found, bind, Except.bind], ?_, ?_, ?_, ?_⟩
  · exact hv.updateAt? (fun {_ _} _ _ eq ↦ Option.some.inj eq ▸ sorted.at? hx) hv'
  · obtain ⟨_, _, -, eq, here⟩ := Json.at?_updateAt? hv'
    rw [here, hx, eq]
  · exact fun q hq ↦ Json.signedHeadAt_updateAt?_of_not_prefix hv' hq
  · refine blend.updateAt? (fun {x' y' z z'} source _ eq ↦ ?_) hv'
    rw [hx, hy] at source
    cases source
    cases eq
    exact .left ..

/-- Gives an object a value under a key, or none, and leaves its other entries alone. -/
def SetsKey (f : Json → Option Json) (key : String) (value : Option Json) : Prop :=
  ∀ entries, ∃ entries', f (.obj entries) = some (.obj entries') ∧
    Entries.find? key entries' = value ∧
    (∀ other, other ≠ key → Entries.find? other entries' = Entries.find? other entries) ∧
    ((Json.obj entries).IsSorted → (Json.obj entries').IsSorted)

theorem setsKey_dropKey (key : String) : SetsKey (fun w ↦ some (dropKey key w)) key none :=
  fun entries ↦ ⟨Entries.erase key entries, rfl, Entries.find?_erase_self ..,
    fun _ ne ↦ Entries.find?_erase_of_ne ne _, fun sorted ↦ sorted.erase key⟩

theorem setsKey_putKey (key : String) {value : Json} (hvalue : value.IsSorted) :
    SetsKey (putKey key value) key (some value) :=
  fun entries ↦ ⟨Entries.insert key value entries, rfl, Entries.find?_insert_self ..,
    fun _ ne ↦ Entries.find?_insert_of_ne ne .., fun sorted ↦ sorted.insert hvalue key⟩

/-- Between two objects of which only one has a key, giving a blend what the old one has under the
key leaves a blend. -/
theorem blend_of_key {f : Json → Option Json} {key : String} {as bs : List (String × Json)}
    (spec : SetsKey f key (Entries.find? key as))
    (once : Entries.find? key as = none ∨ Entries.find? key bs = none) {z z' : Json}
    (blend : Json.Blend (.obj as) (.obj bs) z) (hz' : f z = some z') :
    Json.Blend (.obj as) (.obj bs) z' := by
  obtain ⟨zs, rfl⟩ := blend.exists_obj
  obtain ⟨shape, there, parts⟩ := blend
  obtain ⟨zs', result, here, others, -⟩ := spec zs
  obtain rfl := Option.some.inj (result.symm.trans hz')
  -- A step that both sides have is not the key, so it leads where it led before.
  have kept (step : String) (ha : ((Json.obj as).step? step).isSome = true)
      (hb : ((Json.obj bs).step? step).isSome = true) :
      ((Json.obj zs').step? step).isSome = true := by
    have ne : step ≠ key := by
      rintro rfl
      simp only [Json.step?] at ha hb
      rcases once with none | none <;> simp [none] at ha hb
    rw [Json.step?, others step ne]
    exact shape.elim (fun s ↦ s.steps step ha (.inr hb)) (fun s ↦ s.steps step hb (.inr ha))
  refine .node (.inl ⟨rfl, fun step ha hb ↦ kept step ha (hb.resolve_left (absurd rfl))⟩)
    (fun {step w} hw ↦ ?_) (fun {step w x y} hw source ↦ ?_)
  · by_cases eq : step = key
    · subst eq
      rw [Json.step?, here] at hw
      rw [Json.isSome_sources, Json.step?, hw]
      rfl
    · rw [Json.step?, others step eq] at hw
      exact there hw
  · by_cases eq : step = key
    · subst eq
      rw [Json.step?, here] at hw
      rw [Json.step?, Json.step?, hw, once.resolve_left (by simp [hw])] at source
      cases source
      exact .left ..
    · rw [Json.step?, others step eq] at hw
      exact parts hw source

section Keys

variable {parent : FieldPath} {key : String} {as bs vs : List (String × Json)}

theorem reverts_of_key {f : Json → Option Json} (hv : v.IsSorted) (blend : Json.Blend old new v)
    (path : change.path = parent.child key) (hold : old.at? parent.segments = some (.obj as))
    (hnew : new.at? parent.segments = some (.obj bs))
    (there : v.at? parent.segments = some (.obj vs)) (spec : SetsKey f key (Entries.find? key as))
    (once : Entries.find? key as = none ∨ Entries.find? key bs = none) :
    ∃ v', v.updateAt? f parent.segments = some v' ∧ Reverts old new change v v' := by
  obtain ⟨vs', step, here, others, sorted⟩ := spec vs
  obtain ⟨v', hv'⟩ := Json.exists_updateAt? there step
  refine ⟨v', hv', ?_, ?_, fun q hq ↦ ?_, ?_⟩
  · refine hv.updateAt? (fun {w w'} hw sortedW hw' ↦ ?_) hv'
    obtain rfl := Option.some.inj (there.symm.trans hw)
    exact Option.some.inj (step.symm.trans hw') ▸ sorted sortedW
  · obtain ⟨w, w', hw, hw', now⟩ := Json.at?_updateAt? hv'
    obtain rfl := Option.some.inj (there.symm.trans hw)
    obtain rfl := Option.some.inj (step.symm.trans hw')
    rw [path, FieldPath.segments_child, Json.at?_append, Json.at?_append, now, hold]
    simp only [Option.bind_some, Json.at?, Json.step?, here]
  · rw [path, FieldPath.segments_child] at hq
    refine Json.signedHeadAt_updateAt?_of_not_prefix_append hv' (fun {w w'} hw hw' q hq ↦ ?_) hq
    obtain rfl := Option.some.inj (there.symm.trans hw)
    obtain rfl := Option.some.inj (step.symm.trans hw')
    exact Json.signedHeadAt_of_same_steps (v := .obj vs') (w := .obj vs) rfl others hq
  · refine blend.updateAt? (fun {x y z z'} source inner hz' ↦ ?_) hv'
    rw [hold, hnew] at source
    cases source
    exact blend_of_key spec once inner hz'

/-- An object has under a key what stands at the key below it. -/
theorem at?_child_obj {w : Json} (h : w.at? parent.segments = some (.obj as)) (key : String) :
    w.at? (parent.child key).segments = Entries.find? key as := by
  simp [Json.at?_append, h, Json.at?, Json.step?, Option.bind_fun_some]

theorem reverts_added (hv : v.IsSorted) (blend : Json.Blend old new v)
    (between : change.IsBetween old new) (kind : change.kind = .added)
    (path : change.path = parent.child key) (hold : old.at? parent.segments = some (.obj as))
    (hnew : new.at? parent.segments = some (.obj bs))
    (there : v.at? parent.segments = some (.obj vs)) :
    ∃ v', change.revert old v = .ok v' ∧ Reverts old new change v v' := by
  have sides := between.at?
  rw [kind, path, at?_child_obj hold] at sides
  have spec : SetsKey (fun w ↦ some (dropKey key w)) key (Entries.find? key as) :=
    sides.1 ▸ setsKey_dropKey key
  obtain ⟨v', hv', reverts⟩ := reverts_of_key hv blend path hold hnew there spec (.inl sides.1)
  refine ⟨v', ?_, reverts⟩
  simp [revert, kind, path, holder_child, hv', bind, Except.bind, pure, Except.pure]

theorem reverts_removed (sorted : old.IsSorted) (hv : v.IsSorted) (blend : Json.Blend old new v)
    (between : change.IsBetween old new) (kind : change.kind = .removed)
    (path : change.path = parent.child key) (hold : old.at? parent.segments = some (.obj as))
    (hnew : new.at? parent.segments = some (.obj bs))
    (there : v.at? parent.segments = some (.obj vs)) :
    ∃ v', change.revert old v = .ok v' ∧ Reverts old new change v v' := by
  have sides := between.at?
  rw [kind, path, at?_child_obj hold, at?_child_obj hnew] at sides
  obtain ⟨previous, hprevious⟩ := Option.isSome_iff_exists.mp sides.1
  have left : old.at? (parent.child key).segments = some previous :=
    (at?_child_obj hold key).trans hprevious
  have spec : SetsKey (putKey key previous) key (Entries.find? key as) :=
    hprevious ▸ setsKey_putKey key (sorted.at? left)
  obtain ⟨v', hv', reverts⟩ := reverts_of_key hv blend path hold hnew there spec (.inr sides.2)
  have foundOld : found (parent.child key) (old.at? (parent.child key).segments) =
      .ok previous := by
    rw [left, found]
  refine ⟨v', ?_, reverts⟩
  simp only [revert, kind, path, foundOld, holder_child, bind, Except.bind]
  rw [hv', found]

end Keys

/-- A change that no other one lies above can be taken back as long as its place and the place
above are still as the new value has them. -/
theorem exists_revert (sorted : old.IsSorted) (hv : v.IsSorted) (blend : Json.Blend old new v)
    (between : change.IsBetween old new)
    (ahead : ∀ q, q <+: change.path.segments → v.headAt q = new.headAt q) :
    ∃ v', change.revert old v = .ok v' ∧ Reverts old new change v v' := by
  by_cases modified : change.kind = .modified
  · exact reverts_modified sorted hv blend between modified (ahead _ (List.prefix_refl _))
  obtain ⟨parent, key, as, bs, path, hold, hnew⟩ := between.exists_objects modified
  -- The place above is still as the new value has it, so there is an object to change.
  obtain ⟨vs, there⟩ : ∃ vs, v.at? parent.segments = some (.obj vs) := by
    have head := ahead parent.segments (by rw [path]; exact List.prefix_append ..)
    rw [Json.headAt, Json.headAt, hnew, Option.map_some, Option.map_eq_some_iff] at head
    obtain ⟨w, hw, object⟩ := head
    obtain ⟨vs, rfl⟩ := Json.exists_obj_of_head object
    exact ⟨vs, hw⟩
  cases kind : change.kind with
  | modified => exact absurd kind modified
  | added => exact reverts_added hv blend between kind path hold hnew there
  | removed => exact reverts_removed sorted hv blend between kind path hold hnew there

namespace Reverts

variable {v' : Json} {p : List String}

/-- Below a change that has been taken back there is the old value. -/
theorem at?_of_prefix (h : Reverts old new change v v') (below : change.path.segments <+: p) :
    v'.at? p = old.at? p := by
  obtain ⟨rest, rfl⟩ := below
  rw [Json.at?_append, Json.at?_append, h.at?]

theorem signedHeadAt_of_prefix (h : Reverts old new change v v')
    (below : change.path.segments <+: p) : v'.signedHeadAt p = old.signedHeadAt p := by
  rw [Json.signedHeadAt, Json.signedHeadAt, h.at?_of_prefix below]

end Reverts

end Change

/-! ### Copying targets -/

namespace Scope

variable {old new v w : Json} {targets : List FieldPath} {p q : List String}

/-- A place at or below a target that both values have. -/
def Spared (old new : Json) (targets : List FieldPath) (p : List String) : Prop :=
  ∃ target ∈ targets, target.segments <+: p ∧
    (old.at? target.segments).isSome = true ∧ (new.at? target.segments).isSome = true

namespace Spared

theorem cover (h : Spared old new targets p) : FieldPath.Cover targets p :=
  h.imp fun _ ⟨mem, above, _⟩ ↦ ⟨mem, above⟩

theorem trans (h : Spared old new targets p) (pq : p <+: q) : Spared old new targets q :=
  h.imp fun _ ⟨mem, above, there⟩ ↦ ⟨mem, above.trans pq, there⟩

end Spared

theorem spared_cons {target : FieldPath} {rest : List FieldPath} :
    Spared old new (target :: rest) p ↔ Spared old new [target] p ∨ Spared old new rest p := by
  simp [Spared]

/-- Only what the old value has of the targets counts. -/
theorem spared_congr (h : ∀ target ∈ targets, target.segments <+: p →
    (v.at? target.segments).isSome = (w.at? target.segments).isSome) :
    Spared v new targets p ↔ Spared w new targets p := by
  refine exists_congr fun target ↦ and_congr_right fun mem ↦ and_congr_right fun above ↦ ?_
  rw [h target mem above]

/-- What copying targets makes of a value: it shows the new value at the targets that both have,
and nothing else has changed. -/
structure Copied (old new : Json) (targets : List FieldPath) (v v' : Json) : Prop where
  sorted : v'.IsSorted
  blend : Json.Blend old new v'
  spared : ∀ q, Spared v new targets q → v'.signedHeadAt q = new.signedHeadAt q
  frame : ∀ q, ¬ Spared v new targets q → v'.signedHeadAt q = v.signedHeadAt q

theorem copied_target (sorted : new.IsSorted) (hv : v.IsSorted) (blend : Json.Blend old new v)
    (target : FieldPath) : Copied old new [target] v (copyTarget new v target) := by
  rw [copyTarget]
  cases value : new.at? target.segments with
  | none => exact ⟨hv, blend, fun q hq ↦ by simp [Spared, value] at hq, fun _ _ ↦ rfl⟩
  | some x =>
    dsimp only
    have there := Json.isSome_updateAt? (fun _ ↦ some x) target.segments v
    rw [← Json.setAt?] at there
    cases hv' : v.setAt? target.segments x with
    | none =>
      have absent : v.at? target.segments = none := by
        cases found : v.at? target.segments with
        | none => rfl
        | some y => simp [hv', found] at there
      exact ⟨hv, blend, fun q hq ↦ by simp [Spared, absent] at hq, fun _ _ ↦ rfl⟩
    | some v' =>
      obtain ⟨y, _, hy, eq, here⟩ := Json.at?_updateAt? hv'
      cases eq
      rw [Option.getD_some]
      refine ⟨?_, ?_, fun q hq ↦ ?_, fun q hq ↦ ?_⟩
      · exact hv.updateAt? (fun {_ _} _ _ eq ↦ Option.some.inj eq ▸ sorted.at? value) hv'
      · refine blend.updateAt? (fun {x y z z'} source _ eq ↦ ?_) hv'
        rw [value] at source
        cases eq
        cases hx : old.at? target.segments <;> rw [hx] at source <;> cases source <;>
          exact .right ..
      · obtain ⟨_, mem, ⟨rest, rfl⟩, -⟩ := hq
        obtain rfl := List.mem_singleton.mp mem
        rw [Json.signedHeadAt_append, Json.signedHeadAt_append, here, value]
      · refine Json.signedHeadAt_updateAt?_of_not_prefix hv' fun above ↦ hq ?_
        exact ⟨target, List.mem_singleton_self _, above, by rw [hy]; rfl, by rw [value]; rfl⟩

/-- Away from a copied target the value has what it had, so the targets that it has are the same. -/
theorem Copied.spared_iff {v' : Json} {others : List FieldPath}
    (h : Copied old new targets v v') (hq : ¬ Spared v new targets q) :
    Spared v' new others q ↔ Spared v new others q := by
  refine spared_congr fun target _ above ↦ ?_
  have away : ¬ Spared v new targets target.segments := fun spared ↦ hq (spared.trans above)
  rw [← Json.signedHeadAt_isSome, h.frame _ away, Json.signedHeadAt_isSome]

/-- Targets are copied one after the other, and it is as if they were copied at once. -/
theorem copied_targets (sorted : new.IsSorted) (hv : v.IsSorted) (blend : Json.Blend old new v)
    (targets : List FieldPath) :
    Copied old new targets v (targets.foldl (copyTarget new) v) := by
  induction targets generalizing v with
  | nil => exact ⟨hv, blend, fun _ ⟨_, mem, _⟩ ↦ (by cases mem), fun _ _ ↦ rfl⟩
  | cons target rest ih =>
    have first := copied_target sorted hv blend target
    have others := ih first.sorted first.blend
    refine ⟨others.sorted, others.blend, fun q hq ↦ ?_, fun q hq ↦ ?_⟩
    · by_cases later : Spared (copyTarget new v target) new rest q
      · exact others.spared q later
      · -- What a later target does not reach the first one must have reached.
        have here : Spared v new [target] q := by
          by_contra away
          exact later ((first.spared_iff away).mpr ((spared_cons.mp hq).resolve_left away))
        exact (others.frame q later).trans (first.spared q here)
    · rw [spared_cons, not_or] at hq
      have later := (first.spared_iff hq.1).not.mpr hq.2
      exact (others.frame q later).trans (first.frame q hq.1)

/-- Once an uncovered change has been taken back, the targets below it are there as they are in the
old value. -/
theorem spared_below_iff {change : Change} (reverts : Change.Reverts old new change v w)
    (uncovered : ¬ FieldPath.Cover targets change.path.segments) :
    Spared w new (targets.filter fun target ↦ change.path.isAbove target) q ↔
      change.path.segments <+: q ∧ Spared old new targets q := by
  constructor
  · rintro ⟨target, mem, above, there, there'⟩
    obtain ⟨mem, inside⟩ := List.mem_filter.mp mem
    rw [FieldPath.isAbove, Bool.and_eq_true, FieldPath.covers_iff] at inside
    rw [reverts.at?_of_prefix inside.2] at there
    exact ⟨inside.2.trans above, target, mem, above, there, there'⟩
  · rintro ⟨here, target, mem, above, there, there'⟩
    have inside : ¬ target.segments <+: change.path.segments :=
      fun pre ↦ uncovered ⟨target, mem, pre⟩
    have pre := (List.prefix_or_prefix_of_prefix above here).resolve_left inside
    rw [← reverts.at?_of_prefix pre] at there
    refine ⟨target, List.mem_filter.mpr ⟨mem, ?_⟩, above, there, there'⟩
    rw [FieldPath.isAbove, Bool.and_eq_true, FieldPath.covers_iff, decide_eq_true_iff]
    refine ⟨Nat.lt_of_le_of_ne pre.length_le fun eq ↦ inside ?_, pre⟩
    exact (pre.eq_of_length eq) ▸ List.prefix_refl _

/-! ### The whole run -/

/-- What stands between the new value and the clipped one once some of the changes have been taken
back. -/
structure TakenBack (old new : Json) (targets : List FieldPath) (done : List Change) (v : Json) :
    Prop where
  sorted : v.IsSorted
  blend : Json.Blend old new v
  /-- Where nothing has been taken back, there is the new value. -/
  ahead : ∀ q, (∀ change ∈ done, ¬ change.path.segments <+: q) →
    v.signedHeadAt q = new.signedHeadAt q
  /-- Where something has been taken back, there is the old value unless a target spares it. -/
  behind : ∀ q, ¬ Spared old new targets q → (∃ change ∈ done, change.path.segments <+: q) →
    v.signedHeadAt q = old.signedHeadAt q
  /-- At a target that both sides have, there is the new value. -/
  spared : ∀ q, Spared old new targets q → v.signedHeadAt q = new.signedHeadAt q

namespace TakenBack

/-- Before anything is taken back there is the new value. -/
theorem start (hnew : new.IsSorted) : TakenBack old new targets [] new :=
  ⟨hnew, .right .., fun _ _ ↦ rfl, fun _ _ ⟨_, mem, _⟩ ↦ (by cases mem), fun _ _ ↦ rfl⟩

/-- One more change is taken back. -/
theorem step (hold : old.IsSorted) (hnew : new.IsSorted) {done : List Change}
    (h : TakenBack old new targets done v) {change : Change} (between : change.IsBetween old new)
    (uncovered : ¬ FieldPath.Cover targets change.path.segments)
    (apart : ∀ other ∈ done, Change.Apart change other) :
    ∃ v', revertAround old new targets v change = .ok v' ∧
      TakenBack old new targets (change :: done) v' := by
  -- Nothing at or above the change has been taken back, because what has been is apart from it.
  obtain ⟨w, hw, reverts⟩ := Change.exists_revert hold h.sorted h.blend between fun q hq ↦
    Json.headAt_congr (h.ahead q fun other mem above ↦ (apart other mem).2 (above.trans hq))
  have copied := copied_targets hnew reverts.sorted reverts.blend
    (targets.filter fun target ↦ change.path.isAbove target)
  -- The copied targets are those below the change, where the value is the old one.
  have below {q : List String} := spared_below_iff (q := q) reverts uncovered
  refine ⟨_, by rw [revertAround, hw]; rfl, copied.sorted, copied.blend, fun q hq ↦ ?_,
    fun q hq above ↦ ?_, fun q hq ↦ ?_⟩
  · have ⟨first, others⟩ := List.forall_mem_cons.mp hq
    rw [copied.frame q fun spared ↦ first (below.mp spared).1, reverts.frame q first,
      h.ahead q others]
  · rw [copied.frame q fun spared ↦ hq (below.mp spared).2]
    by_cases here : change.path.segments <+: q
    · exact reverts.signedHeadAt_of_prefix here
    · rw [reverts.frame q here]
      obtain ⟨other, mem, above⟩ := above
      rcases List.mem_cons.mp mem with rfl | mem
      · exact absurd above here
      · exact h.behind q hq ⟨other, mem, above⟩
  · by_cases here : change.path.segments <+: q
    · exact copied.spared q (below.mpr ⟨here, hq⟩)
    · rw [copied.frame q fun spared ↦ here (below.mp spared).1, reverts.frame q here,
        h.spared q hq]

/-- All of a list of changes are taken back, if each is apart from those before it. -/
theorem run (hold : old.IsSorted) (hnew : new.IsSorted) {rest done : List Change}
    (h : TakenBack old new targets done v) (between : ∀ change ∈ rest, change.IsBetween old new)
    (uncovered : ∀ change ∈ rest, ¬ FieldPath.Cover targets change.path.segments)
    (apart : rest.Pairwise Change.Apart)
    (apartDone : ∀ change ∈ rest, ∀ other ∈ done, Change.Apart change other) :
    ∃ v', rest.foldlM (revertAround old new targets) v = .ok v' ∧
      TakenBack old new targets (rest.reverse ++ done) v' := by
  induction rest generalizing v done with
  | nil => exact ⟨v, rfl, h⟩
  | cons change rest ih =>
    have ⟨here, later⟩ := List.forall_mem_cons.mp between
    have ⟨uncoveredHere, uncoveredLater⟩ := List.forall_mem_cons.mp uncovered
    have ⟨apartHere, apartLater⟩ := List.forall_mem_cons.mp apartDone
    have ⟨apartFirst, apartRest⟩ := List.pairwise_cons.mp apart
    obtain ⟨w, hw, taken⟩ := h.step hold hnew here uncoveredHere apartHere
    obtain ⟨v', hv', takenAll⟩ := ih taken later uncoveredLater apartRest
      fun next mem other memOther ↦ by
        rcases List.mem_cons.mp memOther with rfl | memOther
        · exact (apartFirst next mem).symm
        · exact apartLater next mem other memOther
    refine ⟨v', by rw [List.foldlM_cons, hw]; exact hv', ?_⟩
    rw [List.reverse_cons, List.append_assoc]
    exact takenAll

end TakenBack

theorem mem_outside_iff (hold : old.IsSorted) {change : Change} :
    change ∈ (Diff.between old new).outside targets ↔
      change.IsBetween old new ∧ ¬ FieldPath.Cover targets change.path.segments := by
  rw [Diff.outside, List.mem_filter, ← mem_changes_iff hold, ← Diff.isCovered_iff,
    Bool.not_eq_true', Bool.not_eq_true]
  rfl

/-- **Clipping a value succeeds**, with all changes outside the targets taken back. -/
theorem exists_takenBack (hold : old.IsSorted) (hnew : new.IsSorted) (targets : List FieldPath) :
    ∃ v, clipValue old new targets = .ok v ∧
      TakenBack old new targets ((Diff.between old new).outside targets) v := by
  have apart : ((Diff.between old new).outside targets).Pairwise Change.Apart :=
    (pairwise_apart_changes hold hnew).sublist List.filter_sublist
  obtain ⟨v, hv, taken⟩ := (TakenBack.start hnew).run hold hnew
    (fun _ mem ↦ ((mem_outside_iff hold).mp mem).1)
    (fun _ mem ↦ ((mem_outside_iff hold).mp mem).2) apart (by simp)
  refine ⟨v, hv, taken.sorted, taken.blend, ?_, ?_, taken.spared⟩
  · simpa using taken.ahead
  · simpa using taken.behind

/-- The clipped value agrees with the old one at every place that no target covers. -/
theorem TakenBack.agreeOutside (hold : old.IsSorted)
    (h : TakenBack old new targets ((Diff.between old new).outside targets) v) :
    old.AgreeOutside targets v := by
  intro q hq
  by_cases above : ∃ change ∈ (Diff.between old new).outside targets,
      change.path.segments <+: q
  · exact (Json.headAt_congr (h.behind q (fun spared ↦ hq spared.cover) above)).symm
  · -- Where nothing was taken back nothing had to be: a difference there would have been listed.
    rw [Json.headAt_congr (h.ahead q fun change mem pre ↦ above ⟨change, mem, pre⟩)]
    by_contra ne
    obtain ⟨change, between, pre⟩ := exists_change_above ne
    have uncovered : ¬ FieldPath.Cover targets change.path.segments :=
      fun cover ↦ hq (cover.trans pre)
    exact above ⟨change, (mem_outside_iff hold).mpr ⟨between, uncovered⟩, pre⟩

end Scope

end Sitewright
