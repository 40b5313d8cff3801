import Sitewright.Diff
import Sitewright.Proofs.Json.Places

/-!
# What a difference says

A difference lists paths, and what it says is about all places: two values have the same head at
every place that does not lie at or below a listed path (`exists_change_above`), and different heads
at every listed path (`Change.IsBetween.headAt_ne`). So a difference stays within a set of targets
exactly if the two values agree outside the targets (`Diff.isWithin_between_iff`), and staying
within targets is an equivalence of values, which the list of changes does not show.

The recursion of `changes` goes over lists of entries and items. Everything about it is derived from
its description step by step, `Change.IsBetween`, in which an object and a list are the same thing:
a node with steps.

Two listed paths never lie on one line (`pairwise_apart_changes`), so what is done at one of them
leaves the others alone.
-/

namespace Sitewright

open Json (Head)

namespace Change

@[simp] theorem segments_under (step : String) (change : Change) :
    (change.under step).path.segments = step :: change.path.segments := rfl

/-- The changes between two values, one step at a time. -/
inductive IsBetween : Json → Json → Change → Prop where
  /-- The nodes themselves differ. -/
  | here {a b : Json} (heads : a.head ≠ b.head) : IsBetween a b ⟨.root, .modified⟩
  /-- A change below a step that both have. -/
  | inside {a b x y : Json} {step : String} {change : Change} (heads : a.head = b.head)
      (left : a.step? step = some x) (right : b.step? step = some y)
      (inner : IsBetween x y change) : IsBetween a b (change.under step)
  /-- A step that only the old value has. -/
  | gone {a b : Json} {step : String} (heads : a.head = b.head)
      (left : (a.step? step).isSome = true) (right : b.step? step = none) :
      IsBetween a b ⟨⟨[step]⟩, .removed⟩
  /-- A step that only the new value has. -/
  | come {a b : Json} {step : String} (heads : a.head = b.head) (left : a.step? step = none)
      (right : (b.step? step).isSome = true) : IsBetween a b ⟨⟨[step]⟩, .added⟩

end Change

/-! ### The changes, step by step -/

theorem changes_of_head_ne {a b : Json} (h : a.head ≠ b.head) :
    changes a b = [⟨.root, .modified⟩] := by
  rcases a with _ | _ | ⟨_ | _⟩ | _ | _ | _ <;> rcases b with _ | _ | ⟨_ | _⟩ | _ | _ | _ <;>
    simp_all [changes, Json.same, Json.head, JsonNumber.same, Binary64.same_iff]

/-- Two nodes with one head are two objects, two lists of one length, or two equal scalars. -/
theorem Json.cases_of_head_eq {a b : Json} (h : a.head = b.head) :
    (∃ as bs, a = .obj as ∧ b = .obj bs) ∨
      (∃ as bs, a = .arr as ∧ b = .arr bs ∧ as.length = bs.length) ∨
      (changes a b = [] ∧ ∀ step, a.step? step = none ∧ b.step? step = none) := by
  rcases a with _ | _ | ⟨_ | _⟩ | _ | _ | _ <;> rcases b with _ | _ | ⟨_ | _⟩ | _ | _ | _ <;>
    simp_all [changes, Json.same, Json.head, Json.step?, JsonNumber.same, Binary64.same_iff]

theorem mem_itemChanges {i : Nat} {as bs : List Json} {change : Change} :
    change ∈ itemChanges i as bs ↔ ∃ (j : Nat) (x y : Json) (inner : Change),
      as[j]? = some x ∧ bs[j]? = some y ∧ inner ∈ changes x y ∧
        change = inner.under (toString (i + j)) := by
  induction as generalizing i bs with
  | nil => simp [itemChanges]
  | cons a as ih =>
    cases bs with
    | nil => simp [itemChanges]
    | cons b bs =>
      rw [itemChanges, List.mem_append, List.mem_map, ih]
      constructor
      · rintro (⟨inner, mem, rfl⟩ | ⟨j, x, y, inner, hx, hy, mem, rfl⟩)
        · exact ⟨0, a, b, inner, rfl, rfl, mem, rfl⟩
        · exact ⟨j + 1, x, y, inner, hx, hy, mem, by rw [Nat.add_assoc, Nat.add_comm 1 j]⟩
      · rintro ⟨j, x, y, inner, hx, hy, mem, rfl⟩
        cases j with
        | zero =>
          cases hx
          cases hy
          exact .inl ⟨inner, mem, rfl⟩
        | succ j =>
          exact .inr ⟨j, x, y, inner, hx, hy, mem, by rw [Nat.add_assoc, Nat.add_comm 1 j]⟩

theorem mem_entryChanges {as bs : List (String × Json)} {change : Change} :
    change ∈ entryChanges as bs ↔ ∃ (key : String) (x : Json), (key, x) ∈ as ∧
      ((∃ y inner, Entries.find? key bs = some y ∧ inner ∈ changes x y ∧
          change = inner.under key) ∨
        (Entries.find? key bs = none ∧ change = ⟨⟨[key]⟩, .removed⟩)) := by
  induction as with
  | nil => simp [entryChanges]
  | cons entry as ih =>
    obtain ⟨k, v⟩ := entry
    have first : change ∈ entryChanges [(k, v)] bs ↔
        (∃ y inner, Entries.find? k bs = some y ∧ inner ∈ changes v y ∧ change = inner.under k) ∨
          (Entries.find? k bs = none ∧ change = ⟨⟨[k]⟩, .removed⟩) := by
      simp only [entryChanges, List.append_nil]
      cases Entries.find? k bs <;> simp [eq_comm]
    have split : entryChanges ((k, v) :: as) bs =
        entryChanges [(k, v)] bs ++ entryChanges as bs := by
      simp only [entryChanges, List.append_nil]
    rw [split, List.mem_append, ih]
    refine (or_congr_left first).trans ⟨?_, ?_⟩
    · rintro (here | ⟨key, x, mem, there⟩)
      · exact ⟨k, v, List.mem_cons_self, here⟩
      · exact ⟨key, x, List.mem_cons_of_mem _ mem, there⟩
    · rintro ⟨key, x, mem, there⟩
      rcases List.mem_cons.mp mem with eq | mem
      · cases eq
        exact .inl there
      · exact .inr ⟨key, x, mem, there⟩

theorem mem_addedKeys {as bs : List (String × Json)} {change : Change} :
    change ∈ addedKeys as bs ↔ ∃ key, Entries.find? key as = none ∧
      (Entries.find? key bs).isSome = true ∧ change = ⟨⟨[key]⟩, .added⟩ := by
  simp only [addedKeys, List.mem_map, List.mem_filter, Option.isNone_iff_eq_none, Prod.exists]
  constructor
  · rintro ⟨key, v, ⟨mem, none⟩, rfl⟩
    exact ⟨key, none, Entries.has_iff.mpr (List.mem_map_of_mem mem), rfl⟩
  · rintro ⟨key, none, some, rfl⟩
    obtain ⟨v, hv⟩ := Option.isSome_iff_exists.mp some
    exact ⟨key, v, ⟨Entries.mem_of_find? hv, none⟩, rfl⟩

/-- Every change between two values is listed. -/
theorem mem_changes_of_isBetween {a b : Json} {change : Change} (h : change.IsBetween a b) :
    change ∈ changes a b := by
  induction h with
  | here heads =>
    rw [changes_of_head_ne heads]
    exact List.mem_singleton_self _
  | inside heads left right _ mem =>
    rcases Json.cases_of_head_eq heads with
      ⟨as, bs, rfl, rfl⟩ | ⟨as, bs, rfl, rfl, length⟩ | ⟨-, none⟩
    · rw [changes, List.mem_append, mem_entryChanges]
      exact .inl ⟨_, _, Entries.mem_of_find? left, .inl ⟨_, _, right, mem, rfl⟩⟩
    · rw [changes, if_pos length, mem_itemChanges]
      obtain ⟨i, rfl, hi⟩ := Json.exists_index_of_step? left
      rw [Json.step?_arr_toString] at right
      exact ⟨i, _, _, _, hi, right, mem, by rw [Nat.zero_add]⟩
    · cases (none _).1.symm.trans left
  | gone heads left right =>
    -- Lists of one length have the same steps, so only objects are left here and below.
    obtain ⟨x, left⟩ := Option.isSome_iff_exists.mp left
    rcases Json.cases_of_head_eq heads with
      ⟨as, bs, rfl, rfl⟩ | ⟨as, bs, rfl, rfl, length⟩ | ⟨-, none⟩
    · rw [changes, List.mem_append, mem_entryChanges]
      exact .inl ⟨_, _, Entries.mem_of_find? left, .inr ⟨right, rfl⟩⟩
    · have there := Json.isSome_step?_arr length ‹String›
      simp [left, right] at there
    · cases (none _).1.symm.trans left
  | come heads left right =>
    rcases Json.cases_of_head_eq heads with
      ⟨as, bs, rfl, rfl⟩ | ⟨as, bs, rfl, rfl, length⟩ | ⟨-, none⟩
    · rw [changes, List.mem_append, mem_addedKeys]
      exact .inr ⟨_, left, right, rfl⟩
    · have there := Json.isSome_step?_arr length ‹String›
      simp [left, right] at there
    · rw [(none _).2] at right
      cases right

/-- Every listed change is one. That the old value is sorted only matters where an object has a key
twice. -/
theorem isBetween_of_mem_changes {a b : Json} (ha : a.IsSorted) {change : Change}
    (mem : change ∈ changes a b) : change.IsBetween a b := by
  induction a using Json.stepInduction generalizing b change with
  | h a ih =>
  by_cases heads : a.head = b.head
  · rcases Json.cases_of_head_eq heads with
      ⟨as, bs, rfl, rfl⟩ | ⟨as, bs, rfl, rfl, length⟩ | ⟨none, -⟩
    · have keys : Entries.Sorted as := ha.of_obj.1
      rw [changes, List.mem_append, mem_entryChanges, mem_addedKeys] at mem
      rcases mem with ⟨key, x, there, here⟩ | ⟨key, none, some, rfl⟩
      · -- A key that stands in the list is the one that is found, because no key stands twice.
        have hx : (Json.obj as).step? key = some x :=
          (Entries.find?_eq_some_iff keys.nodup).mpr there
        rcases here with ⟨y, inner, hy, mem, rfl⟩ | ⟨none, rfl⟩
        · exact .inside heads hx hy (ih hx (ha.step? hx) mem)
        · exact .gone heads (by rw [hx]; rfl) none
      · exact .come heads none some
    · rw [changes, if_pos length, mem_itemChanges] at mem
      obtain ⟨j, x, y, inner, hx, hy, mem, rfl⟩ := mem
      rw [← Json.step?_arr_toString] at hx hy
      rw [Nat.zero_add]
      exact .inside heads hx hy (ih hx (ha.step? hx) mem)
    · simp [none] at mem
  · rw [changes_of_head_ne heads, List.mem_singleton] at mem
    exact mem ▸ .here heads

/-- **The listed changes are the changes.** -/
theorem mem_changes_iff {a b : Json} (ha : a.IsSorted) {change : Change} :
    change ∈ changes a b ↔ change.IsBetween a b :=
  ⟨isBetween_of_mem_changes ha, mem_changes_of_isBetween⟩

/-! ### What is said at a listed path -/

/-- What stands at the path of a change: what the kind of the change says about the two sides. -/
theorem Change.IsBetween.at? {a b : Json} {change : Change} (h : change.IsBetween a b) :
    match change.kind with
    | .removed => (a.at? change.path.segments).isSome = true ∧ b.at? change.path.segments = none
    | .added => a.at? change.path.segments = none ∧ (b.at? change.path.segments).isSome = true
    | .modified => ∃ x y, a.at? change.path.segments = some x ∧
        b.at? change.path.segments = some y ∧ x.head ≠ y.head := by
  induction h with
  | here heads => exact ⟨_, _, rfl, rfl, heads⟩
  | @inside a b x y step change heads left right inner ih =>
    have ha : a.at? (change.under step).path.segments = x.at? change.path.segments := by
      rw [segments_under, Json.at?, left, Option.bind_some]
    have hb : b.at? (change.under step).path.segments = y.at? change.path.segments := by
      rw [segments_under, Json.at?, right, Option.bind_some]
    rw [ha, hb]
    exact ih
  | gone heads left right => simpa [Json.at?, right] using left
  | come heads left right => simpa [Json.at?, left] using right

/-- At a listed path the two sides differ. -/
theorem Change.IsBetween.headAt_ne {a b : Json} {change : Change} (h : change.IsBetween a b) :
    a.headAt change.path.segments ≠ b.headAt change.path.segments := by
  have there := h.at?
  rw [Json.headAt, Json.headAt]
  cases kind : change.kind <;> rw [kind] at there
  · intro eq
    rw [there.1] at eq
    have some := there.2
    rw [← Option.isSome_map (f := Json.head), ← eq] at some
    cases some
  · intro eq
    rw [there.2] at eq
    have some := there.1
    rw [← Option.isSome_map (f := Json.head), eq] at some
    cases some
  · obtain ⟨x, y, hx, hy, ne⟩ := there
    rw [hx, hy]
    exact fun eq ↦ ne (Option.some.inj eq)

/-- Wherever two values differ, a change is listed there or above. -/
theorem exists_change_above {a b : Json} {p : List String} (h : a.headAt p ≠ b.headAt p) :
    ∃ change : Change, change.IsBetween a b ∧ change.path.segments <+: p := by
  induction p generalizing a b with
  | nil => exact ⟨_, .here fun eq ↦ h (congrArg some eq), List.nil_prefix⟩
  | cons step rest ih =>
    by_cases heads : a.head = b.head
    · rw [Json.headAt_cons, Json.headAt_cons] at h
      cases left : a.step? step with
      | none =>
        cases right : b.step? step with
        | none => simp [left, right] at h
        | some y => exact ⟨_, .come heads left (by rw [right]; rfl), by simp⟩
      | some x =>
        cases right : b.step? step with
        | none => exact ⟨_, .gone heads (by rw [left]; rfl) right, by simp⟩
        | some y =>
          rw [left, right] at h
          obtain ⟨change, between, above⟩ := ih h
          exact ⟨_, .inside heads left right between, List.cons_prefix_cons.mpr ⟨rfl, above⟩⟩
    · exact ⟨_, .here heads, List.nil_prefix⟩

/-! ### Independence of changes -/

/-- Neither of two changes lies at or below the other. -/
def Change.Apart (c d : Change) : Prop :=
  ¬ c.path.segments <+: d.path.segments ∧ ¬ d.path.segments <+: c.path.segments

namespace Change.Apart

theorem symm {c d : Change} (h : Apart c d) : Apart d c := ⟨h.2, h.1⟩

theorem under {c d : Change} (h : Apart c d) (step : String) :
    Apart (c.under step) (d.under step) :=
  ⟨fun pre ↦ h.1 (List.cons_prefix_cons.mp pre).2, fun pre ↦ h.2 (List.cons_prefix_cons.mp pre).2⟩

theorem of_steps {c d : Change} {step step' : String} {p q : List String}
    (hc : c.path.segments = step :: p) (hd : d.path.segments = step' :: q) (ne : step ≠ step') :
    Apart c d := by
  rw [Apart, hc, hd]
  exact ⟨fun pre ↦ ne (List.cons_prefix_cons.mp pre).1,
    fun pre ↦ ne (List.cons_prefix_cons.mp pre).1.symm⟩

end Change.Apart

theorem pairwise_apart_under {cs : List Change} (h : cs.Pairwise Change.Apart) (step : String) :
    (cs.map (Change.under step)).Pairwise Change.Apart :=
  List.pairwise_map.mpr (h.imp fun apart ↦ apart.under step)

theorem pairwise_apart_itemChanges {as : List Json}
    (h : ∀ v ∈ as, ∀ w : Json, w.IsSorted → (changes v w).Pairwise Change.Apart) (i : Nat)
    {bs : List Json} (hbs : ∀ w ∈ bs, w.IsSorted) :
    (itemChanges i as bs).Pairwise Change.Apart := by
  induction as generalizing i bs with
  | nil => simp [itemChanges]
  | cons v as ih =>
    cases bs with
    | nil => simp [itemChanges]
    | cons w bs =>
      have ⟨first, others⟩ := List.forall_mem_cons.mp h
      have ⟨hw, hbs⟩ := List.forall_mem_cons.mp hbs
      rw [itemChanges]
      refine List.pairwise_append.mpr
        ⟨pairwise_apart_under (first w hw) _, ih others (i + 1) hbs, fun c hc d hd ↦ ?_⟩
      obtain ⟨inner, -, rfl⟩ := List.mem_map.mp hc
      obtain ⟨j, x, y, inner', -, -, -, rfl⟩ := mem_itemChanges.mp hd
      -- Every change after the first item starts with a later index.
      refine .of_steps rfl rfl fun eq ↦ ?_
      have := Json.toString_injective eq
      omega

theorem pairwise_apart_entryChanges {as : List (String × Json)}
    (h : ∀ entry ∈ as, ∀ w : Json, w.IsSorted → (changes entry.2 w).Pairwise Change.Apart)
    (nodup : (as.map (·.1)).Nodup) {bs : List (String × Json)}
    (hbs : ∀ entry ∈ bs, entry.2.IsSorted) :
    (entryChanges as bs).Pairwise Change.Apart := by
  induction as with
  | nil => simp [entryChanges]
  | cons entry as ih =>
    obtain ⟨k, v⟩ := entry
    have ⟨first, others⟩ := List.forall_mem_cons.mp h
    rw [List.map_cons, List.nodup_cons] at nodup
    rw [entryChanges]
    refine List.pairwise_append.mpr ⟨?_, ih others nodup.2, fun c hc d hd ↦ ?_⟩
    · cases hw : Entries.find? k bs with
      | none => exact List.pairwise_singleton ..
      | some w => exact pairwise_apart_under (first w (hbs _ (Entries.mem_of_find? hw))) k
    · -- Gone or changed inside, the first entry puts its key in front; the others have other keys.
      have head : ∃ p, c.path.segments = k :: p := by
        cases hw : Entries.find? k bs with
        | none =>
          rw [hw] at hc
          exact ⟨[], by rw [List.mem_singleton.mp hc]⟩
        | some w =>
          rw [hw] at hc
          obtain ⟨inner, -, rfl⟩ := List.mem_map.mp hc
          exact ⟨_, rfl⟩
      obtain ⟨p, hp⟩ := head
      obtain ⟨key, x, mem, there⟩ := mem_entryChanges.mp hd
      have ne : k ≠ key := fun eq ↦ nodup.1 (eq ▸ List.mem_map_of_mem (f := (·.1)) mem)
      rcases there with ⟨y, inner, -, -, rfl⟩ | ⟨-, rfl⟩
      · exact .of_steps hp rfl ne
      · exact .of_steps hp rfl ne

theorem pairwise_apart_addedKeys (as : List (String × Json)) {bs : List (String × Json)}
    (nodup : (bs.map (·.1)).Nodup) : (addedKeys as bs).Pairwise Change.Apart := by
  refine List.pairwise_map.mpr (.imp ?_ ((List.pairwise_map.mp nodup).sublist List.filter_sublist))
  exact fun ne ↦ .of_steps rfl rfl ne

/-- Of two listed changes neither lies at or below the other. -/
theorem pairwise_apart_changes {a b : Json} (ha : a.IsSorted) (hb : b.IsSorted) :
    (changes a b).Pairwise Change.Apart := by
  induction a using Json.stepInduction generalizing b with
  | h a ih =>
  by_cases heads : a.head = b.head
  · rcases Json.cases_of_head_eq heads with
      ⟨as, bs, rfl, rfl⟩ | ⟨as, bs, rfl, rfl, length⟩ | ⟨none, -⟩
    · obtain ⟨keys, parts⟩ := ha.of_obj
      obtain ⟨keys', parts'⟩ := hb.of_obj
      rw [changes]
      refine List.pairwise_append.mpr ⟨?_, pairwise_apart_addedKeys as keys'.nodup,
        fun c hc d hd ↦ ?_⟩
      · refine pairwise_apart_entryChanges (fun entry mem w hw ↦ ?_) keys.nodup parts'
        exact ih ((Entries.find?_eq_some_iff keys.nodup).mpr mem) (parts entry mem) hw
      · obtain ⟨key, x, mem, there⟩ := mem_entryChanges.mp hc
        obtain ⟨key', none, -, rfl⟩ := mem_addedKeys.mp hd
        have ne : key ≠ key' := fun eq ↦
          Entries.find?_eq_none_iff.mp none (eq ▸ List.mem_map_of_mem (f := (·.1)) mem)
        rcases there with ⟨y, inner, -, -, rfl⟩ | ⟨-, rfl⟩
        · exact .of_steps rfl rfl ne
        · exact .of_steps rfl rfl ne
    · rw [changes, if_pos length]
      refine pairwise_apart_itemChanges (fun v mem w hw ↦ ?_) 0 hb.of_arr
      obtain ⟨i, hi⟩ := List.mem_iff_getElem?.mp mem
      exact ih ((Json.step?_arr_toString as i).trans hi) (ha.of_arr v mem) hw
    · rw [none]
      exact .nil
  · rw [changes_of_head_ne heads]
    exact List.pairwise_singleton ..

/-! ### Staying within targets -/

/-- Whether a target lies at or above a place. -/
def FieldPath.Cover (targets : List FieldPath) (p : List String) : Prop :=
  ∃ target ∈ targets, target.segments <+: p

theorem Diff.isCovered_iff {targets : List FieldPath} {change : Change} :
    isCovered targets change = true ↔ FieldPath.Cover targets change.path.segments := by
  simp [isCovered, FieldPath.Cover, FieldPath.covers_iff]

theorem FieldPath.Cover.trans {targets : List FieldPath} {p q : List String}
    (h : Cover targets p) (pq : p <+: q) : Cover targets q :=
  h.imp fun _ ⟨mem, above⟩ ↦ ⟨mem, above.trans pq⟩

/-- Two values that show the same at every place that no target covers. -/
def Json.AgreeOutside (targets : List FieldPath) (a b : Json) : Prop :=
  ∀ p, ¬ FieldPath.Cover targets p → a.headAt p = b.headAt p

namespace Json.AgreeOutside

variable {targets : List FieldPath} {a b c : Json}

theorem refl (targets : List FieldPath) (a : Json) : AgreeOutside targets a a := fun _ _ ↦ rfl

theorem symm (h : AgreeOutside targets a b) : AgreeOutside targets b a :=
  fun p hp ↦ (h p hp).symm

theorem trans (hab : AgreeOutside targets a b) (hbc : AgreeOutside targets b c) :
    AgreeOutside targets a c := fun p hp ↦ (hab p hp).trans (hbc p hp)

end Json.AgreeOutside

/-- A difference stays within targets exactly if the two sides agree outside of them. -/
theorem Diff.isWithin_between_iff {targets : List FieldPath} {a b : Json} (ha : a.IsSorted) :
    (Diff.between a b).isWithin targets = true ↔ a.AgreeOutside targets b := by
  rw [isWithin_iff]
  constructor
  · intro covered p hp
    by_contra ne
    obtain ⟨change, between, above⟩ := exists_change_above ne
    have listed := covered change (mem_changes_of_isBetween between)
    exact hp ((isCovered_iff.mp listed).trans above)
  · intro agree change mem
    rw [isCovered_iff]
    by_contra uncovered
    exact (isBetween_of_mem_changes ha mem).headAt_ne (agree _ uncovered)

end Sitewright
