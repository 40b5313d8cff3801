import Sitewright.Proofs.Edit.Clipping

/-!
# Replaying a difference

A difference lists paths and no values, so replaying it means to go through its changes on the old
value and to take from the new one what stands at each path. The main result is that a difference is
exact (`Diff.exact_between`): it is empty just for equal values, its paths are independent of each
other, what it says of a path is so on both sides, and replaying it, in whatever order, leads from
the old value to the new one.

Playing a change is what taking back its mirror image does, the change in the other direction
(`Change.revert_mirrored`). So a replay is a run of taking back from the new value's point of view,
with no targets to spare, and the run lemma of that development is all that is needed: where a
change has been played there is the new value, and everywhere else the old value is left, which
agrees with the new one there because a difference would have been listed.
-/

namespace Sitewright

namespace Change

/-! ### Playing a change -/

/-- Plays a change: `v` gets what `new` has there. A key that is to go and is not there is gone
already. -/
def play (new v : Json) (change : Change) : Option Json :=
  let path := change.path
  match change.kind with
  | .modified => (new.at? path.segments).bind fun value => v.setAt? path.segments value
  | .added =>
    path.parent?.bind fun parent => path.last?.bind fun key =>
      (new.at? path.segments).bind fun value => v.updateAt? (putKey key value) parent.segments
  | .removed =>
    path.parent?.bind fun parent => path.last?.map fun key =>
      (v.updateAt? (fun w => some (dropKey key w)) parent.segments).getD v

/-- What a change says about the two sides. -/
def Holds (old new : Json) (change : Change) : Prop :=
  let before := old.at? change.path.segments
  let after := new.at? change.path.segments
  match change.kind with
  | .added => before = none ∧ after.isSome = true
  | .removed => before.isSome = true ∧ after = none
  | .modified => ∃ x y, before = some x ∧ after = some y ∧ x.same y = false

/-! ### Mirror images -/

/-- The change in the other direction. -/
def mirrored (change : Change) : Change where
  path := change.path
  kind :=
    match change.kind with
    | .added => .removed
    | .removed => .added
    | .modified => .modified

variable {old new v : Json} {change : Change}

theorem IsBetween.mirrored (h : change.IsBetween old new) : change.mirrored.IsBetween new old := by
  induction h with
  | here heads => exact .here heads.symm
  | inside heads left right _ ih => exact .inside heads.symm right left ih
  | gone heads left right => exact .come heads.symm right left
  | come heads left right => exact .gone heads.symm right left

theorem found_eq_ok_iff {path : FieldPath} {found? : Option Json} {w : Json} :
    found path found? = .ok w ↔ found? = some w := by
  cases found? <;> simp [found]

/-- Taking back the mirror image of a change plays the change. -/
theorem revert_mirrored {v' : Json} :
    change.mirrored.revert new v = .ok v' ↔ change.play new v = some v' := by
  obtain ⟨path, kind⟩ := change
  have here (path : FieldPath) (w : Json) : found path (some w) = .ok w := rfl
  have missing (path : FieldPath) : found path none = .error (.missingPath path) := rfl
  cases kind with
  | modified =>
    cases value : new.at? path.segments with
    | none => simp [revert, play, mirrored, value, missing, bind, Except.bind]
    | some w => simp [revert, play, mirrored, value, here, found_eq_ok_iff, bind, Except.bind]
  | added =>
    cases parent : path.parent? with
    | none => simp [revert, play, mirrored, holder, parent, bind, Except.bind]
    | some above =>
      cases last : path.last? with
      | none => simp [revert, play, mirrored, holder, parent, last, bind, Except.bind]
      | some key =>
        cases value : new.at? path.segments with
        | none =>
          simp [revert, play, mirrored, holder, parent, last, value, missing, bind, Except.bind]
        | some w =>
          simp [revert, play, mirrored, holder, parent, last, value, here, found_eq_ok_iff, bind,
            Except.bind]
  | removed =>
    cases parent : path.parent? with
    | none => simp [revert, play, mirrored, holder, parent, bind, Except.bind]
    | some above =>
      cases last : path.last? with
      | none => simp [revert, play, mirrored, holder, parent, last, bind, Except.bind]
      | some key =>
        simp [revert, play, mirrored, holder, parent, last, bind, Except.bind, pure, Except.pure]

/-- A run of taking back mirror images, with no targets to spare, is a replay. -/
theorem foldlM_play {changes : List Change} {v' : Json}
    (h : (changes.map mirrored).foldlM (Scope.revertAround new old []) v = .ok v') :
    changes.foldlM (play new) v = some v' := by
  induction changes generalizing v with
  | nil =>
    have eq : v = v' := Except.ok.inj h
    rw [eq]
    rfl
  | cons change rest ih =>
    rw [List.map_cons, List.foldlM_cons] at h
    have alone : Scope.revertAround new old [] v change.mirrored =
        change.mirrored.revert new v := by
      rw [Scope.revertAround]
      cases change.mirrored.revert new v <;> rfl
    rw [alone] at h
    cases step : change.mirrored.revert new v with
    | error e =>
      rw [step] at h
      cases h
    | ok w =>
      rw [step] at h
      rw [List.foldlM_cons, revert_mirrored.mp step]
      exact ih h

/-! ### Single changes -/

/-- A listed change says what is so. -/
theorem IsBetween.holds (hold : old.IsSorted) (hnew : new.IsSorted)
    (h : change.IsBetween old new) : change.Holds old new := by
  have sides := h.at?
  cases kind : change.kind with
  | added =>
    rw [kind] at sides
    simpa only [Holds, kind] using sides
  | removed =>
    rw [kind] at sides
    simpa only [Holds, kind] using sides
  | modified =>
    rw [kind] at sides
    obtain ⟨x, y, hx, hy, heads⟩ := sides
    have differ : x.same y = false := by
      -- Sorted values are equal if they have the same heads everywhere, and these differ at once.
      rw [← Bool.not_eq_true, Json.same_iff_alike (hold.at? hx) (hnew.at? hy)]
      intro alike
      exact heads alike.head
    simpa only [Holds, kind] using ⟨x, y, hx, hy, differ⟩

end Change

variable {old new : Json}

/-! ### Equal values -/

/-- Two values have the same heads everywhere if no change lies between them. -/
theorem alike_of_changes_eq_nil (h : changes old new = []) : Json.Alike old new := by
  intro p
  by_contra ne
  obtain ⟨change, between, -⟩ := exists_change_above ne
  have mem := mem_changes_of_isBetween between
  rw [h] at mem
  cases mem

theorem changes_eq_nil_iff (hold : old.IsSorted) (hnew : new.IsSorted) :
    changes old new = [] ↔ old.same new = true := by
  rw [Json.same_iff_alike hold hnew]
  constructor
  · exact alike_of_changes_eq_nil
  · intro alike
    rw [List.eq_nil_iff_forall_not_mem]
    intro change mem
    have differ := (isBetween_of_mem_changes hold mem).headAt_ne
    exact differ (alike change.path.segments)

/-! ### The whole replay -/

/-- Changes that lie between two values, each apart from the others, lead from the old value to the
new one if none is left out. -/
theorem exists_replay (hold : old.IsSorted) (hnew : new.IsSorted) {order : List Change}
    (perm : order.Perm (changes old new)) :
    ∃ v, order.foldlM (Change.play new) old = some v ∧ v.same new = true := by
  have between : ∀ change ∈ order, change.IsBetween old new := by
    intro change mem
    exact isBetween_of_mem_changes hold (perm.subset mem)
  have mirrors : ∀ change ∈ order.map Change.mirrored, change.IsBetween new old := by
    intro change mem
    obtain ⟨source, there, rfl⟩ := List.mem_map.mp mem
    exact (between source there).mirrored
  have apart : (order.map Change.mirrored).Pairwise Change.Apart := by
    rw [List.pairwise_map]
    exact perm.symm.pairwise (pairwise_apart_changes hold hnew) Change.Apart.symm
  -- Taking back goes from new to old, so with the sides swapped a run of it is a replay.
  have uncovered (p : List String) : ¬ FieldPath.Cover [] p := fun ⟨_, mem, _⟩ ↦ by cases mem
  obtain ⟨v, run, taken⟩ := (Scope.TakenBack.start hold).run hnew hold mirrors
    (fun _ _ ↦ uncovered _) apart (by simp)
  refine ⟨v, Change.foldlM_play run, ?_⟩
  rw [Json.same_iff_alike taken.sorted hnew]
  intro p
  by_cases above : ∃ change ∈ (order.map Change.mirrored).reverse ++ [],
      change.path.segments <+: p
  · exact Json.headAt_congr (taken.behind p (fun spared ↦ uncovered p spared.cover) above)
  · -- Nothing was played at or above the place, so no difference lies there either.
    rw [Json.headAt_congr (taken.ahead p fun change mem pre ↦ above ⟨change, mem, pre⟩)]
    by_contra differ
    obtain ⟨change, listed, pre⟩ := exists_change_above differ
    have mem : change ∈ order := perm.mem_iff.mpr (mem_changes_of_isBetween listed)
    refine above ⟨change.mirrored, ?_, pre⟩
    rw [List.append_nil, List.mem_reverse]
    exact List.mem_map_of_mem mem

namespace Diff

/-- **A difference is exact.** It is empty just for equal values; of two of its paths neither lies
at or below the other; every change says what is so; and the changes, played on the old value in any
order, give the new one. -/
theorem exact_between (hold : old.IsSorted) (hnew : new.IsSorted) :
    ((between old new).changes = [] ↔ old.same new = true) ∧
      (between old new).changes.Pairwise Change.Apart ∧
      (∀ change ∈ (between old new).changes, change.Holds old new) ∧
      ∀ order : List Change, order.Perm (between old new).changes →
        ∃ v, order.foldlM (Change.play new) old = some v ∧ v.same new = true := by
  refine ⟨changes_eq_nil_iff hold hnew, pairwise_apart_changes hold hnew, ?_, ?_⟩
  · intro change mem
    exact (isBetween_of_mem_changes hold mem).holds hold hnew
  · intro order perm
    exact exists_replay hold hnew perm

/-- A value with an empty key, a key that looks like an index and one with a dot. -/
def tangled : Json := .sorted (.obj [
  ("", .arr [.ofInt 1, .ofInt 2]),
  ("0", .obj [("a.b", .str "x"), ("c", .null)]),
  ("list", .arr [.obj [("1", .bool true)], .arr []])])

/-- The value after an edit that changes every kind of place. -/
def retangled : Json := .sorted (.obj [
  ("", .arr [.ofInt 1]),
  ("0", .obj [("a.b", .str "y"), ("d/e", .arr [.null])]),
  ("list", .arr [.obj [("1", .bool true), ("", .null)], .obj []])])

theorem exact_between_tangled : tangled.IsSorted ∧ retangled.IsSorted ∧
    (between tangled retangled).changes.length = 6 ∧
      ∃ v, (between tangled retangled).changes.reverse.foldlM (Change.play retangled) tangled =
        some v ∧ v.same retangled = true := by
  have sorted : tangled.IsSorted := Json.isSorted_sorted _
  have sorted' : retangled.IsSorted := Json.isSorted_sorted _
  have exact := exact_between sorted sorted'
  exact ⟨sorted, sorted', by decide +kernel, exact.2.2.2 _ (List.reverse_perm _)⟩

end Diff

end Sitewright
