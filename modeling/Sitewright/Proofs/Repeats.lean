import Mathlib.Data.List.Basic

/-!
# Dropping repeats

A list without repeats keeps the first of equal elements. Dropping repeats commutes with keeping
what has a property (`filter_eraseDups`), and repeats that are dropped after a map or after joining
lists may be dropped before as well (`eraseDups_map_eraseDups`, `eraseDups_flatMap_eraseDups`).
-/

namespace Sitewright

variable {α β : Type} [BEq α]

/-- Dropping repeats goes from the first element of a list to the others that differ from it, and so
does an argument about it. -/
@[elab_as_elim]
theorem repeatsInduction {motive : List α → Prop} (nil : motive [])
    (cons : ∀ a l, motive (l.filter fun b ↦ !b == a) → motive (a :: l)) (l : List α) :
    motive l := by
  induction length : l.length using Nat.strongRecOn generalizing l with
  | ind n ih =>
  cases l with
  | nil => exact nil
  | cons a l =>
    refine cons a l (ih _ ?_ _ rfl)
    rw [← length, List.length_cons]
    exact Nat.lt_succ_of_le (List.length_filter_le ..)

variable [LawfulBEq α] [BEq β] [LawfulBEq β]

/-- What is kept of a list without repeats is what is kept of the list, without repeats. -/
theorem filter_eraseDups (p : α → Bool) (l : List α) :
    l.eraseDups.filter p = (l.filter p).eraseDups := by
  induction l using repeatsInduction with
  | nil => rfl
  | cons a l ih =>
    rw [List.eraseDups_cons]
    by_cases h : p a = true
    · rw [List.filter_cons_of_pos h, List.filter_cons_of_pos h, List.eraseDups_cons, ih,
        List.filter_filter, List.filter_filter]
      simp only [Bool.and_comm]
    · -- What is kept is not `a`, so it does not matter that `a` was dropped before.
      rw [List.filter_cons_of_neg h, List.filter_cons_of_neg h, ih, List.filter_filter]
      congr 1
      refine List.filter_congr fun b _ ↦ ?_
      by_cases same : b = a
      · rw [same, Bool.eq_false_iff.mpr h, Bool.false_and]
      · simp [same]

theorem nodup_eraseDups (l : List α) : l.eraseDups.Nodup := by
  induction l using repeatsInduction with
  | nil => exact List.nodup_nil
  | cons a l ih =>
    rw [List.eraseDups_cons]
    refine List.nodup_cons.mpr ⟨?_, ih⟩
    rw [List.mem_eraseDups, List.mem_filter]
    simp

theorem length_eraseDups_le (l : List α) : l.eraseDups.length ≤ l.length :=
  (nodup_eraseDups l).length_le_of_subset fun _ mem ↦ List.mem_eraseDups.mp mem

/-- Repeats that are dropped in the end may be dropped before. -/
theorem eraseDups_map_eraseDups (f : α → β) (l : List α) :
    (l.eraseDups.map f).eraseDups = (l.map f).eraseDups := by
  induction l using repeatsInduction with
  | nil => rfl
  | cons a l ih =>
    -- What is left to compare has no element that goes where `a` goes.
    have same : ((l.filter fun b ↦ !b == a).map f).filter (fun c ↦ !c == f a) =
        (l.map f).filter fun c ↦ !c == f a := by
      rw [List.filter_map, List.filter_map, List.filter_filter]
      congr 1
      refine List.filter_congr fun b _ ↦ ?_
      by_cases eq : b = a
      · simp [eq]
      · simp [eq]
    rw [List.eraseDups_cons, List.map_cons, List.map_cons, List.eraseDups_cons,
      List.eraseDups_cons, ← filter_eraseDups, ih, filter_eraseDups, same]

theorem eraseDups_eraseDups (l : List α) : l.eraseDups.eraseDups = l.eraseDups := by
  have h := eraseDups_map_eraseDups id l
  rwa [List.map_id, List.map_id] at h

/-- Repeats within the parts of a list may be dropped before. -/
theorem eraseDups_flatMap_eraseDups {γ : Type} (g : γ → List α) (l : List γ) :
    (l.flatMap fun c ↦ (g c).eraseDups).eraseDups = (l.flatMap g).eraseDups := by
  induction l with
  | nil => rfl
  | cons c l ih =>
    have others (ds : List α) : ds.removeAll (g c).eraseDups = ds.removeAll (g c) :=
      List.filter_congr fun d _ ↦ by
        rw [Bool.eq_iff_iff]
        simp
    rw [List.flatMap_cons, List.flatMap_cons, List.eraseDups_append, List.eraseDups_append,
      eraseDups_eraseDups, others]
    congr 1
    rw [List.removeAll, List.removeAll, ← filter_eraseDups, ← filter_eraseDups, ih]

end Sitewright
