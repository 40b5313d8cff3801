/-!
# Entries

Values under text keys, as a list that is sorted by key and has each key once. Objects of the
exchanged data are kept so, and also the tables that a compilation carries along, so that equal
tables are equal lists and nothing depends on the order in which entries were put in.
-/

namespace Sitewright.Entries

variable {α : Type}

/-- The value under a key. -/
def find? (key : String) : List (String × α) → Option α
  | [] => none
  | (k, v) :: rest => if k = key then some v else find? key rest

/-- Whether a key has a value. -/
def has (key : String) (entries : List (String × α)) : Bool := (find? key entries).isSome

/-- Entries with the value under a key set: the entry is replaced, or put where its key belongs in
the order. -/
def insert (key : String) (value : α) : List (String × α) → List (String × α)
  | [] => [(key, value)]
  | (k, v) :: rest =>
    if k = key then (key, value) :: rest
    else if key < k then (key, value) :: (k, v) :: rest
    else (k, v) :: insert key value rest

/-- Entries with a value put under a key that has none; an earlier value stays. -/
def insertNew (key : String) (value : α) (entries : List (String × α)) : List (String × α) :=
  if has key entries then entries else insert key value entries

/-- Entries without the value under a key. -/
def erase (key : String) (entries : List (String × α)) : List (String × α) :=
  entries.filter fun entry => entry.1 != key

/-- Entries in the order of their keys; of several entries with one key the last counts. -/
def sort (entries : List (String × α)) : List (String × α) :=
  entries.foldl (fun sorted entry => insert entry.1 entry.2 sorted) []

/-! ### Laws -/

@[simp] theorem find?_insert_self (key : String) (value : α) (entries : List (String × α)) :
    find? key (insert key value entries) = some value := by
  induction entries with
  | nil => simp [insert, find?]
  | cons entry rest ih =>
    obtain ⟨k, v⟩ := entry
    by_cases h : k = key
    · simp [insert, find?, h]
    · by_cases lt : key < k <;> simp [insert, find?, h, lt, ih]

theorem find?_insert_of_ne {key other : String} (h : other ≠ key) (value : α)
    (entries : List (String × α)) :
    find? other (insert key value entries) = find? other entries := by
  induction entries with
  | nil => simp [insert, find?, Ne.symm h]
  | cons entry rest ih =>
    obtain ⟨k, v⟩ := entry
    by_cases hk : k = key
    · subst hk
      simp [insert, find?, Ne.symm h]
    · by_cases lt : key < k
      · simp [insert, find?, hk, lt, Ne.symm h]
      · simp [insert, find?, hk, lt, ih]

theorem find?_erase_self (key : String) (entries : List (String × α)) :
    find? key (erase key entries) = none := by
  induction entries with
  | nil => rfl
  | cons entry rest ih =>
    obtain ⟨k, v⟩ := entry
    by_cases h : k = key <;> simp_all [erase, find?]

theorem find?_erase_of_ne {key other : String} (h : other ≠ key) (entries : List (String × α)) :
    find? other (erase key entries) = find? other entries := by
  induction entries with
  | nil => rfl
  | cons entry rest ih =>
    obtain ⟨k, v⟩ := entry
    by_cases hk : k = key
    · subst hk
      simp_all [erase, find?, Ne.symm h]
    · by_cases ho : k = other <;> simp_all [erase, find?]

theorem has_iff {key : String} {entries : List (String × α)} :
    has key entries = true ↔ key ∈ entries.map (·.1) := by
  induction entries with
  | nil => simp [has, find?]
  | cons entry rest ih =>
    obtain ⟨k, v⟩ := entry
    by_cases h : k = key
    · simp [has, find?, h]
    · simp only [has, find?, h] at ih ⊢
      simp [ih, Ne.symm h]

/-! ### Order -/

/-- Entries in the order of their keys, each key once. -/
def Sorted (entries : List (String × α)) : Prop := (entries.map (·.1)).Pairwise (· < ·)

theorem lt_of_not_lt {a b : String} (ne : a ≠ b) (h : ¬ b < a) : a < b := by
  rcases Std.le_iff_lt_or_eq.mp (String.not_lt.mp h) with lt | eq
  · exact lt
  · exact absurd eq ne

theorem mem_keys_insert {key other : String} {value : α} {entries : List (String × α)} :
    other ∈ (insert key value entries).map (·.1) ↔ other = key ∨ other ∈ entries.map (·.1) := by
  induction entries with
  | nil => simp [insert]
  | cons entry rest ih =>
    obtain ⟨k, v⟩ := entry
    rw [insert]
    split
    · simp_all
    · split
      · simp
      · simp only [List.map_cons, List.mem_cons, ih]
        exact or_left_comm

/-- Putting an entry in keeps the order. -/
theorem sorted_insert {entries : List (String × α)} (h : Sorted entries) (key : String)
    (value : α) : Sorted (insert key value entries) := by
  induction entries with
  | nil => simp [Sorted, insert]
  | cons entry rest ih =>
    obtain ⟨k, v⟩ := entry
    have ⟨first, others⟩ := List.pairwise_cons.mp h
    rw [insert]
    split
    · rename_i eq
      subst eq
      exact h
    · rename_i ne
      split
      · rename_i lt
        refine List.pairwise_cons.mpr ⟨fun other mem => ?_, h⟩
        rcases List.mem_cons.mp mem with rfl | mem
        · exact lt
        · exact String.lt_trans lt (first other mem)
      · rename_i notLt
        refine List.pairwise_cons.mpr ⟨fun other mem => ?_, ih others⟩
        rcases mem_keys_insert.mp mem with rfl | mem
        · exact lt_of_not_lt ne notLt
        · exact first other mem

theorem sorted_sort (entries : List (String × α)) : Sorted (sort entries) := by
  suffices ∀ acc : List (String × α), Sorted acc →
      Sorted (entries.foldl (fun sorted entry => insert entry.1 entry.2 sorted) acc) from
    this [] List.Pairwise.nil
  induction entries with
  | nil => exact fun _ h => h
  | cons entry rest ih => exact fun acc h => ih _ (sorted_insert h ..)

end Sitewright.Entries
