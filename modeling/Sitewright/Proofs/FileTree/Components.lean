import Mathlib.Data.List.Infix
import Sitewright.Proofs.FileTree.Paths

/-!
# Components of paths

What a path says, as opposed to how it is spelled: whether it starts at the root or in the current
folder, where it goes up, and the names that it goes down through. Repeated slashes, and dots that
are not at the start, say nothing, so that several spellings are one path.

A path is contained if all of its components are names (`FilePath.isContained_iff`), and then these
names are where it leads to (`FilePath.components_eq_map_iff`).
-/

namespace Sitewright.FilePath

/-- A component of a path. -/
inductive Component where
  /-- The root, at the start of an absolute path. -/
  | root
  /-- The current folder, at the start of a path. -/
  | current
  /-- The folder above. -/
  | up
  /-- A file or a folder below. -/
  | name (s : String)
  deriving DecidableEq

/-- Whether a component is the name of a file or a folder. -/
def Component.isName : Component → Bool
  | name _ => true
  | root | current | up => false

theorem Component.name_injective : Function.Injective name := fun _ _ ↦ name.inj

/-- What a part says that is not at the start of a path. -/
def component? (part : String) : Option Component :=
  if isIdle part then none else if part = ".." then some .up else some (.name part)

/-- What the first part of a path says: nothing stands before the first slash of an absolute path,
and a dot is said only here. -/
def firstComponent? (part : String) (rest : List String) : Option Component :=
  if part = "" then if rest.isEmpty then none else some .root
  else if part = "." then some .current else component? part

/-- The components of a path. -/
def components (path : String) : List Component :=
  match parts path with
  | [] => []
  | first :: rest => (firstComponent? first rest).toList ++ rest.filterMap component?

variable {path : String} {part : String} {rest names : List String}

/-! ### Parts that say something -/

/-- The parts that do not stay where they are. -/
def busy (parts : List String) : List String := parts.filter fun part ↦ !isIdle part

theorem steps_eq (path : String) : steps path = busy (parts path) := rfl

theorem busy_cons_of_isIdle (h : isIdle part = true) (rest : List String) :
    busy (part :: rest) = busy rest := by
  rw [busy, List.filter_cons, h]
  rfl

theorem busy_cons (h : isIdle part = false) (rest : List String) :
    busy (part :: rest) = part :: busy rest := by
  rw [busy, List.filter_cons, h]
  rfl

/-- Where nothing goes up, the components are the names. -/
theorem filterMap_component? (h : ".." ∉ rest) :
    rest.filterMap component? = (busy rest).map .name := by
  induction rest with
  | nil => rfl
  | cons part rest ih =>
    obtain ⟨down, others⟩ := List.ne_and_not_mem_of_not_mem_cons h
    rw [List.filterMap_cons, component?, ih others]
    cases idle : isIdle part with
    | true => rw [if_pos rfl, busy_cons_of_isIdle idle]
    | false => rw [if_neg Bool.false_ne_true, if_neg (Ne.symm down), busy_cons idle, List.map_cons]

theorem up_mem_filterMap_component? (h : ".." ∈ rest) : .up ∈ rest.filterMap component? :=
  List.mem_filterMap.mpr ⟨"..", h, rfl⟩

/-! ### Contained paths -/

theorem isContained_eq_true_iff {first : String} (h : parts path = first :: rest) :
    isContained path = true ↔
      (first ≠ "" ∨ rest = []) ∧ first ≠ "." ∧ first ≠ ".." ∧ ".." ∉ rest := by
  rw [isContained, h]
  simp only [Bool.and_eq_true, Bool.or_eq_true, bne_iff_ne, List.isEmpty_iff, List.all_cons,
    List.all_eq_true, and_assoc]
  refine and_congr_right fun _ ↦ and_congr_right fun _ ↦ and_congr_right fun _ ↦ ?_
  exact ⟨fun all mem ↦ all ".." mem rfl, fun none part mem eq ↦ none (eq ▸ mem)⟩

theorem up_notMem_of_isContained (h : isContained path = true) : ".." ∉ parts path := by
  cases eq : parts path with
  | nil => exact List.not_mem_nil
  | cons first rest =>
    obtain ⟨-, -, down, others⟩ := (isContained_eq_true_iff eq).mp h
    rw [List.mem_cons, not_or]
    exact ⟨Ne.symm down, others⟩

/-- The components of a contained path are the names that it goes down through. -/
theorem components_of_isContained (h : isContained path = true) :
    components path = (steps path).map .name := by
  cases eq : parts path with
  | nil =>
    rw [components, steps_eq, eq]
    rfl
  | cons first rest =>
    obtain ⟨relative, here, -⟩ := (isContained_eq_true_iff eq).mp h
    have start : (firstComponent? first rest).toList = [first].filterMap component? := by
      by_cases none : first = ""
      · rw [none, relative.resolve_left (not_not.mpr none)]
        rfl
      · rw [firstComponent?, if_neg none, if_neg here, List.filterMap_cons]
        cases component? first <;> rfl
    have whole : components path = (first :: rest).filterMap component? := by
      rw [components, eq]
      dsimp only
      rw [start, ← List.filterMap_append, List.singleton_append]
    rw [whole, filterMap_component? (eq ▸ up_notMem_of_isContained h), steps_eq, eq]

/-- **Contained paths.** A path is contained if all of its components are names. -/
theorem isContained_iff (path : String) :
    isContained path = true ↔ ∀ c ∈ components path, c.isName = true := by
  constructor
  · intro h c mem
    rw [components_of_isContained h] at mem
    obtain ⟨name, -, rfl⟩ := List.mem_map.mp mem
    rfl
  · intro h
    cases eq : parts path with
    | nil => rw [isContained, eq]
    | cons first rest =>
      rw [components, eq] at h
      dsimp only at h
      have start (c : Component) (said : firstComponent? first rest = some c) :
          c.isName = true :=
        h c (List.mem_append_left _ (Option.mem_toList.mpr said))
      -- Whatever is not a name would be said.
      refine (isContained_eq_true_iff eq).mpr ⟨?_, ?_, ?_, ?_⟩
      · by_contra absolute
        obtain ⟨rfl, some⟩ : first = "" ∧ rest ≠ [] := by simpa using absolute
        have root : firstComponent? "" rest = Option.some .root := by
          rw [firstComponent?, if_pos rfl, if_neg (by simpa using some)]
        exact Bool.false_ne_true (start .root root)
      · rintro rfl
        exact Bool.false_ne_true (start .current rfl)
      · rintro rfl
        exact Bool.false_ne_true (start .up rfl)
      · intro up
        exact Bool.false_ne_true (h .up (List.mem_append_right _ (up_mem_filterMap_component? up)))

theorem isContained_eq_false_iff (path : String) :
    isContained path = false ↔ ∃ c ∈ components path, c.isName = false := by
  rw [← Bool.not_eq_true, isContained_iff]
  simp

/-- Names are the components of a path if it is contained and goes down through them. -/
theorem components_eq_map_iff :
    components path = names.map .name ↔ isContained path = true ∧ steps path = names := by
  constructor
  · intro h
    have contained : isContained path = true := by
      refine (isContained_iff path).mpr fun c mem ↦ ?_
      rw [h] at mem
      obtain ⟨name, -, rfl⟩ := List.mem_map.mp mem
      rfl
    rw [components_of_isContained contained] at h
    exact ⟨contained, Component.name_injective.list_map h⟩
  · rintro ⟨contained, rfl⟩
    exact components_of_isContained contained

/-- Spellings of one path, and of one that is not contained. -/
example : components "a//b" = [.name "a", .name "b"] ∧ components "a/./b/" = components "a//b" ∧
    components "./a/b" = [.current, .name "a", .name "b"] ∧
    components "/a/../b" = [.root, .name "a", .up, .name "b"] := by decide

end Sitewright.FilePath
