import Mathlib.Data.List.Basic
import Sitewright.Json.Document

/-!
# Sorted values

A value is sorted if each of its objects lists its entries in the order of their keys, each key
once. Values that come from a text are sorted, and so are the written forms of all records; for
such values an object is the same thing as the look-ups in it (`Entries.ext_of_sorted`), and that is
what all later reasoning about objects goes by.

Sorting is the identity on sorted values (`Json.sorted_eq_self`), and a sorted value comes back from
its document (`Document.toJson_ofJson`).
-/

namespace Sitewright

namespace Entries

variable {α : Type}

/-! ### Look-ups -/

theorem mem_of_find? {key : String} {value : α} {entries : List (String × α)}
    (h : find? key entries = some value) : (key, value) ∈ entries := by
  induction entries with
  | nil => simp [find?] at h
  | cons entry rest ih =>
    obtain ⟨k, v⟩ := entry
    rw [find?] at h
    split at h
    · simp_all
    · exact List.mem_cons_of_mem _ (ih h)

theorem find?_eq_none_iff {key : String} {entries : List (String × α)} :
    find? key entries = none ↔ key ∉ entries.map (·.1) := by
  rw [← has_iff, has]
  cases find? key entries <;> simp

/-- Where no key is repeated, being found is being there. -/
theorem find?_eq_some_iff {entries : List (String × α)} (h : (entries.map (·.1)).Nodup)
    {key : String} {value : α} :
    find? key entries = some value ↔ (key, value) ∈ entries := by
  refine ⟨mem_of_find?, fun mem ↦ ?_⟩
  induction entries with
  | nil => simp at mem
  | cons entry rest ih =>
    obtain ⟨k, v⟩ := entry
    rw [List.map_cons, List.nodup_cons] at h
    rw [find?]
    rcases List.mem_cons.mp mem with eq | mem
    · obtain ⟨rfl, rfl⟩ := Prod.mk.inj eq
      simp
    · have ne : k ≠ key := fun eq ↦ h.1 (eq ▸ List.mem_map_of_mem (f := (·.1)) mem)
      rw [if_neg ne]
      exact ih h.2 mem

/-! ### Order -/

theorem Sorted.nodup {entries : List (String × α)} (h : Sorted entries) :
    (entries.map (·.1)).Nodup :=
  List.Pairwise.imp (fun lt ↦ fun eq ↦ String.lt_irrefl _ (eq ▸ lt)) h

/-- Sorted entries are determined by the look-ups in them. -/
theorem ext_of_sorted {a b : List (String × α)} (ha : Sorted a) (hb : Sorted b)
    (h : ∀ key, find? key a = find? key b) : a = b := by
  have nodup {es : List (String × α)} (hes : Sorted es) : es.Nodup :=
    List.Pairwise.of_map _ (fun _ _ ne eq ↦ ne (congrArg _ eq)) hes.nodup
  have perm : a.Perm b := (List.perm_ext_iff_of_nodup (nodup ha) (nodup hb)).mpr fun entry ↦ by
    rw [← find?_eq_some_iff ha.nodup, ← find?_eq_some_iff hb.nodup, h]
  have antisymm (x y : String × α) (_ : x ∈ a) (_ : y ∈ b) (lt : x.1 < y.1) (gt : y.1 < x.1) :
      x = y := absurd (String.lt_trans lt gt) (String.lt_irrefl _)
  exact perm.eq_of_pairwise antisymm (List.pairwise_map.mp ha) (List.pairwise_map.mp hb)

theorem sorted_erase {entries : List (String × α)} (h : Sorted entries) (key : String) :
    Sorted (erase key entries) :=
  List.Pairwise.sublist (List.filter_sublist.map _) h

/-- What is found after entries were put in one by one: the last of them with the key, or what was
there before. -/
theorem find?_foldl_insert {entries : List (String × α)} (h : (entries.map (·.1)).Nodup)
    (key : String) (start : List (String × α)) :
    find? key (entries.foldl (fun sorted entry ↦ insert entry.1 entry.2 sorted) start) =
      (find? key entries).or (find? key start) := by
  induction entries generalizing start with
  | nil => simp [find?]
  | cons entry rest ih =>
    obtain ⟨k, v⟩ := entry
    rw [List.map_cons, List.nodup_cons] at h
    rw [List.foldl_cons, ih h.2, find?]
    by_cases eq : k = key
    · subst eq
      simp [find?_eq_none_iff.mpr h.1]
    · simp [eq, find?_insert_of_ne (Ne.symm eq)]

theorem find?_sort {entries : List (String × α)} (h : (entries.map (·.1)).Nodup) (key : String) :
    find? key (sort entries) = find? key entries := by
  rw [sort, find?_foldl_insert h]
  simp [find?]

theorem sort_eq_self {entries : List (String × α)} (h : Sorted entries) : sort entries = entries :=
  ext_of_sorted (sorted_sort _) h (find?_sort h.nodup)

theorem mem_insert {key : String} {value : α} {entries : List (String × α)} {entry : String × α}
    (h : entry ∈ insert key value entries) : entry = (key, value) ∨ entry ∈ entries := by
  induction entries with
  | nil => exact .inl (List.mem_singleton.mp h)
  | cons first rest ih =>
    rw [insert] at h
    split at h
    · exact (List.mem_cons.mp h).imp id (List.mem_cons_of_mem _)
    · split at h
      · exact List.mem_cons.mp h
      · rcases List.mem_cons.mp h with rfl | h
        · exact .inr (by simp)
        · exact (ih h).imp id (List.mem_cons_of_mem _)

theorem mem_of_mem_foldl_insert {entries start : List (String × α)} {entry : String × α}
    (h : entry ∈ entries.foldl (fun sorted entry ↦ insert entry.1 entry.2 sorted) start) :
    entry ∈ entries ∨ entry ∈ start := by
  induction entries generalizing start with
  | nil => exact .inr h
  | cons first rest ih =>
    rcases ih h with h | h
    · exact .inl (List.mem_cons_of_mem _ h)
    · exact (mem_insert h).imp (fun eq ↦ by simp [eq]) id

theorem mem_of_mem_sort {entries : List (String × α)} {entry : String × α}
    (h : entry ∈ sort entries) : entry ∈ entries :=
  (mem_of_mem_foldl_insert h).resolve_right (by simp)

end Entries

namespace Json

/-! ### Induction over values -/

/-- What holds of a list if it holds of its items, of an object if it holds of its values, and of
everything without parts, holds of every value. -/
@[induction_eliminator]
theorem induction {P : Json → Prop} (null : P null) (bool : ∀ b, P (bool b))
    (num : ∀ n, P (num n)) (str : ∀ s, P (str s))
    (arr : ∀ items, (∀ v ∈ items, P v) → P (arr items))
    (obj : ∀ entries, (∀ entry ∈ entries, P entry.2) → P (obj entries)) (v : Json) : P v :=
  @Json.rec P (fun items ↦ ∀ v ∈ items, P v) (fun entries ↦ ∀ entry ∈ entries, P entry.2)
    (fun entry ↦ P entry.2) null bool num str arr obj (by simp)
    (fun _ _ first rest ↦ by simpa using ⟨first, rest⟩)
    (by simp) (fun _ _ first rest ↦ List.forall_mem_cons.mpr ⟨first, rest⟩) (fun _ _ h ↦ h) v

/-! ### Sorted values -/

/-- Every object in a value lists its entries in the order of their keys, each key once. -/
inductive IsSorted : Json → Prop where
  | null : IsSorted null
  | bool (b : Bool) : IsSorted (bool b)
  | num (n : JsonNumber) : IsSorted (num n)
  | str (s : String) : IsSorted (str s)
  | arr {items : List Json} (parts : ∀ v ∈ items, IsSorted v) : IsSorted (arr items)
  | obj {entries : List (String × Json)} (keys : Entries.Sorted entries)
      (parts : ∀ entry ∈ entries, IsSorted entry.2) : IsSorted (obj entries)

theorem IsSorted.of_arr {items : List Json} (h : (Json.arr items).IsSorted) :
    ∀ v ∈ items, v.IsSorted := by
  cases h
  assumption

theorem IsSorted.of_obj {entries : List (String × Json)} (h : (Json.obj entries).IsSorted) :
    Entries.Sorted entries ∧ ∀ entry ∈ entries, entry.2.IsSorted := by
  cases h
  exact ⟨‹_›, ‹_›⟩

theorem IsSorted.erase {entries : List (String × Json)} (h : (Json.obj entries).IsSorted)
    (key : String) : (Json.obj (Entries.erase key entries)).IsSorted := by
  obtain ⟨keys, parts⟩ := h.of_obj
  exact .obj (Entries.sorted_erase keys key) fun entry mem ↦
    parts entry (List.mem_of_mem_filter mem)

theorem IsSorted.insert {entries : List (String × Json)} (h : (Json.obj entries).IsSorted)
    {value : Json} (hvalue : value.IsSorted) (key : String) :
    (Json.obj (Entries.insert key value entries)).IsSorted := by
  obtain ⟨keys, parts⟩ := h.of_obj
  refine .obj (Entries.sorted_insert keys ..) fun entry mem ↦ ?_
  rcases Entries.mem_insert mem with rfl | mem
  · exact hvalue
  · exact parts entry mem

theorem sortedItems_eq_map (items : List Json) : sortedItems items = items.map sorted := by
  induction items with
  | nil => rfl
  | cons v rest ih => rw [sortedItems, ih, List.map_cons]

theorem sortedValues_eq_map (entries : List (String × Json)) :
    sortedValues entries = entries.map fun entry ↦ (entry.1, entry.2.sorted) := by
  induction entries with
  | nil => rfl
  | cons entry rest ih =>
    obtain ⟨k, v⟩ := entry
    rw [sortedValues, ih, List.map_cons]

theorem isSorted_sorted (v : Json) : v.sorted.IsSorted := by
  induction v with
  | null => exact .null
  | bool b => exact .bool b
  | num n => exact .num n
  | str s => exact .str s
  | arr items ih =>
    rw [sorted, sortedItems_eq_map]
    exact .arr (List.forall_mem_map.mpr ih)
  | obj entries ih =>
    rw [sorted, sortedValues_eq_map]
    refine .obj (Entries.sorted_sort _) fun entry mem ↦ ?_
    obtain ⟨source, there, rfl⟩ := List.mem_map.mp (Entries.mem_of_mem_sort mem)
    exact ih source there

theorem sorted_eq_self {v : Json} (h : v.IsSorted) : v.sorted = v := by
  induction h with
  | null | bool | num | str => rfl
  | arr _ ih =>
    rw [sorted, sortedItems_eq_map, List.map_congr_left (g := id) ih, List.map_id]
  | obj keys _ ih =>
    rw [sorted, sortedValues_eq_map, ofEntries]
    rw [List.map_congr_left (g := id) fun entry mem ↦ by simp [ih entry mem], List.map_id,
      Entries.sort_eq_self keys]

end Json

/-! ### Documents of sorted values -/

namespace Document

mutual

/-- What a document stands for is sorted, in whatever order its entries come. -/
theorem isSorted_of_toJson : (d : Document) → ∀ {v : Json}, d.toJson = .ok v → v.IsSorted
  | null, _, h => by cases h; exact .null
  | bool b, _, h => by cases h; exact .bool b
  | num n, _, h => by cases h; exact .num n
  | str s, _, h => by cases h; exact .str s
  | list items ending, _, h => by
    simp only [toJson, bind, Except.bind] at h
    split at h
    · cases h
    · rename_i values hvalues
      split at h <;> cases h
      exact .arr (isSorted_of_toItems items hvalues)
  | map entries ending, _, h => by
    simp only [toJson, bind, Except.bind] at h
    split at h
    · cases h
    · rename_i values hvalues
      split at h <;> cases h
      have := isSorted_of_toEntries entries hvalues List.Pairwise.nil (by simp)
      exact .obj this.1 this.2
  | stop _, _, h => by cases h

theorem isSorted_of_toItems : (ds : List Document) → ∀ {vs : List Json}, toItems ds = .ok vs →
    ∀ v ∈ vs, v.IsSorted
  | [], _, h => by cases h; simp
  | d :: rest, _, h => by
    simp only [toItems, bind, Except.bind] at h
    split at h
    · cases h
    · rename_i v hv
      split at h <;> cases h
      rename_i vs hvs
      exact List.forall_mem_cons.mpr ⟨isSorted_of_toJson d hv, isSorted_of_toItems rest hvs⟩

theorem isSorted_of_toEntries : (ds : List (String × Document)) →
    ∀ {start es : List (String × Json)}, toEntries start ds = .ok es →
      Entries.Sorted start → (∀ entry ∈ start, entry.2.IsSorted) →
      Entries.Sorted es ∧ ∀ entry ∈ es, entry.2.IsSorted
  | [], _, _, h, keys, parts => by cases h; exact ⟨keys, parts⟩
  | (k, d) :: rest, start, _, h, keys, parts => by
    simp only [toEntries, bind, Except.bind] at h
    split at h
    · cases h
    · rename_i v hv
      refine isSorted_of_toEntries rest h (Entries.sorted_insert keys k v) fun entry mem ↦ ?_
      rcases Entries.mem_insert mem with rfl | mem
      · exact isSorted_of_toJson d hv
      · exact parts entry mem

end

theorem ofItems_eq_map (items : List Json) : ofItems items = items.map ofJson := by
  induction items with
  | nil => rfl
  | cons v rest ih => rw [ofItems, ih, List.map_cons]

theorem toItems_ofItems {items : List Json} (h : ∀ v ∈ items, (ofJson v).toJson = .ok v) :
    toItems (ofItems items) = .ok items := by
  induction items with
  | nil => rfl
  | cons v rest ih =>
    have ⟨first, others⟩ := List.forall_mem_cons.mp h
    simp [ofItems, toItems, first, ih others, bind, Except.bind, pure, Except.pure]

theorem toEntries_ofEntries {entries : List (String × Json)}
    (h : ∀ entry ∈ entries, (ofJson entry.2).toJson = .ok entry.2)
    (start : List (String × Json)) :
    toEntries start (ofEntries entries) =
      .ok (entries.foldl (fun sorted entry ↦ Entries.insert entry.1 entry.2 sorted) start) := by
  induction entries generalizing start with
  | nil => rfl
  | cons entry rest ih =>
    have ⟨first, others⟩ := List.forall_mem_cons.mp h
    simp only [ofEntries, toEntries, first, bind, Except.bind, List.foldl_cons]
    exact ih others _

/-- A sorted value comes back from its document. -/
theorem toJson_ofJson {v : Json} (h : v.IsSorted) : (ofJson v).toJson = .ok v := by
  induction h with
  | null | bool | num | str => rfl
  | arr _ ih =>
    simp [ofJson, toJson, toItems_ofItems ih, endingRead, bind, Except.bind, pure, Except.pure]
  | @obj entries keys _ ih =>
    have eq : entries.foldl (fun sorted entry ↦ Entries.insert entry.1 entry.2 sorted) [] =
        entries := Entries.sort_eq_self keys
    simp [ofJson, toJson, toEntries_ofEntries ih, eq, endingRead, bind, Except.bind, pure,
      Except.pure]

mutual

/-- Nothing in the document of a value keeps it from being passed over. -/
theorem skipBreak_ofJson : (v : Json) → (ofJson v).skipBreak = none
  | .null | .bool _ | .num _ | .str _ => rfl
  | .arr items => by simp [ofJson, skipBreak, skipItems_ofItems items]
  | .obj entries => by simp [ofJson, skipBreak, skipEntries_ofEntries entries]

theorem skipItems_ofItems : (items : List Json) → skipItems (ofItems items) = none
  | [] => rfl
  | v :: rest => by simp [ofItems, skipItems, skipBreak_ofJson v, skipItems_ofItems rest]

theorem skipEntries_ofEntries : (entries : List (String × Json)) →
    skipEntries (ofEntries entries) = none
  | [] => rfl
  | (_, v) :: rest => by
    simp [ofEntries, skipEntries, skipBreak_ofJson v, skipEntries_ofEntries rest]

end

end Document

end Sitewright
