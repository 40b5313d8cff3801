import Mathlib.Data.List.Nodup
import Sitewright.Naming.Slot
import Sitewright.Proofs.Json.Places

/-!
# Slots fit their sections

The slots of a page are one for each section, in order, each with the base name of its section, and
their names are pairwise different and not reserved (`Slot.fits_allocate`). The only step that takes
an argument is that a free number is always found: the numbers that are tried give pairwise
different names, one more of them than names are taken.

What a slot is used for depends on its name alone, and different names give different files
(`Slot.path_inj`).
-/

namespace Sitewright.Slot

/-! ### Numbered names -/

theorem numbered_injective (base : String) {m n : Nat} (h : numbered base m = numbered base n) :
    m = n := by
  have bare (k : Nat) (eq : base = base ++ toString k) : False := by
    have empty : "" = toString k := (String.append_right_inj base).mp (by simpa using eq)
    simp at empty
  unfold numbered at h
  split at h <;> split at h
  · omega
  · exact (bare n h).elim
  · exact (bare m h.symm).elim
  · exact Json.toString_injective ((String.append_right_inj base).mp h)

/-- **The next number is free**, and it lies above the last one. -/
theorem freeNumber_spec (taken : List String) (base : String) (last : Nat) :
    last < freeNumber taken base last ∧ numbered base (freeNumber taken base last) ∉ taken := by
  rw [freeNumber]
  cases h : ((List.range (taken.length + 1)).map (last + 1 + ·)).find? fun number ↦
      !taken.contains (numbered base number) with
  | some number =>
    obtain ⟨i, -, rfl⟩ := List.mem_map.mp (List.mem_of_find?_eq_some h)
    have free := List.find?_some h
    rw [Option.getD_some]
    exact ⟨by omega, by simpa using free⟩
  | none =>
    -- All the names that were tried are taken, but there are more of them than taken names.
    have subset : (List.range (taken.length + 1)).map (fun i ↦ numbered base (last + 1 + i)) ⊆
        taken := by
      intro name mem
      obtain ⟨i, hi, rfl⟩ := List.mem_map.mp mem
      simpa using List.find?_eq_none.mp h (last + 1 + i) (List.mem_map.mpr ⟨i, hi, rfl⟩)
    have nodup : ((List.range (taken.length + 1)).map
        (fun i ↦ numbered base (last + 1 + i))).Nodup := by
      refine List.Nodup.map (fun i j eq ↦ ?_) List.nodup_range
      have := numbered_injective base eq
      omega
    have := nodup.length_le_of_subset subset
    rw [List.length_map, List.length_range] at this
    omega

/-! ### Allocation -/

/-- Slots that fit a list of base names: one for each, in order, under names that are pairwise
different and not reserved. -/
structure Fits (reserved bases : List String) (slots : List Slot) : Prop where
  /-- The slots are in order. -/
  index : slots.map (·.index) = List.range bases.length
  /-- Each slot has the base name it was given out for. -/
  base : slots.map (·.base) = bases
  /-- No name is given out twice. -/
  nodup : (slots.map name).Nodup
  /-- No name is reserved. -/
  free : ∀ slot ∈ slots, slot.name ∉ reserved

theorem fits_nil (reserved : List String) : Fits reserved [] [] :=
  ⟨rfl, rfl, List.nodup_nil, nofun⟩

variable {reserved bases : List String} {slots : List Slot}

theorem Fits.length (h : Fits reserved bases slots) : slots.length = bases.length := by
  simpa using congrArg List.length h.base

theorem Fits.extend (h : Fits reserved bases slots) (base : String) :
    Fits reserved (bases ++ [base]) (extend reserved slots base) := by
  have fresh := (freeNumber_spec (reserved ++ slots.map name) base (lastNumber slots base)).2
  rw [List.mem_append, not_or] at fresh
  refine ⟨?_, ?_, ?_, ?_⟩
  · simp [Slot.extend, h.index, h.length, List.range_succ]
  · simp [Slot.extend, h.base]
  · rw [Slot.extend, List.map_append, List.map_singleton]
    exact List.nodup_append.mpr ⟨h.nodup, List.nodup_singleton _, by grind [name]⟩
  · intro slot mem
    rcases List.mem_append.mp mem with old | new
    · exact h.free slot old
    · obtain rfl := List.mem_singleton.mp new
      exact fresh.1

theorem Fits.foldl_extend (h : Fits reserved bases slots) (more : List String) :
    Fits reserved (bases ++ more) (more.foldl (Slot.extend reserved) slots) := by
  induction more generalizing bases slots with
  | nil => simpa using h
  | cons base rest ih => simpa using ih (h.extend base)

/-- **Slots fit their sections.** -/
theorem fits_allocate (reserved : List String) (sections : List Section) :
    Fits reserved (sections.map (·.baseName)) (allocate reserved sections) :=
  (fits_nil reserved).foldl_extend _

/-! ### What follows from a name -/

theorem path_inj {a b : Slot} : a.path = b.path ↔ a.name = b.name := by
  simp [path]

/-- No file is given out twice. -/
theorem Fits.nodup_paths (h : Fits reserved bases slots) : (slots.map path).Nodup :=
  List.pairwise_map.mpr ((List.pairwise_map.mp h.nodup).imp fun ne eq ↦ ne (path_inj.mp eq))

theorem importPath_tsx (slot : Slot) : slot.importPath ++ ".tsx" = "@/" ++ slot.path := by
  simp [importPath, path, String.append_assoc]

end Sitewright.Slot
