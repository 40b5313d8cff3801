import Sitewright.Build.Plan
import Sitewright.Proofs.Naming.Routes
import Sitewright.Proofs.Naming.Slots

/-!
# Names

The names of components and pages, the anchors of sections and the segments of routes are made of
words of ASCII letters and digits, with numbers and hyphens, whatever they are derived from
(`Naming.Named`). So they are plain, and none of them holds a slash or a dot.
-/

namespace Sitewright

/-! ### Words -/

namespace Naming

/-- Joined words are made of letters and digits. -/
theorem all_isAlphanum_pascalChars (cs : List Char) :
    (pascalChars cs).all Char.isAlphanum = true := by
  rw [List.all_eq_true]
  intro c mem
  obtain ⟨_, hcapital, mem⟩ := List.mem_flatten.mp mem
  obtain ⟨word, hword, rfl⟩ := List.mem_map.mp hcapital
  have letters := (Text.mem_wordsOf hword).2
  cases word with
  | nil => cases mem
  | cons d ds =>
    rcases List.mem_cons.mp mem with rfl | mem
    · exact Text.forall_isAlphanum (p := fun c ↦ c.toUpper.isAlphanum) (by decide)
        (letters d List.mem_cons_self)
    · exact letters c (List.mem_cons_of_mem _ mem)

theorem isNameChar_of_mem_pascalChars (cs : List Char) :
    ∀ c ∈ pascalChars cs, isNameChar c = true :=
  fun c mem ↦ isNameChar_of_isAlphanum (List.all_eq_true.mp (all_isAlphanum_pascalChars cs) c mem)

/-- Joined words start with a capital or a digit. -/
theorem isLower_head_pascalChars {cs : List Char} {c : Char}
    (h : (pascalChars cs).head? = some c) : c.isLower = false := by
  cases words : Text.wordsOf Char.isAlphanum cs with
  | nil =>
    rw [pascalChars, words] at h
    cases h
  | cons word rest =>
    obtain ⟨some, letters⟩ := Text.mem_wordsOf (words ▸ List.mem_cons_self)
    obtain ⟨d, ds, rfl⟩ := List.exists_cons_of_ne_nil some
    rw [pascalChars, words] at h
    have upper : (!d.toUpper.isLower) = true :=
      Text.forall_isAlphanum (p := fun c ↦ !c.toUpper.isLower) (by decide)
        (letters d List.mem_cons_self)
    rw [← Option.some.inj h]
    exact (Bool.not_eq_true' _).mp upper

theorem isNameChar_of_mem_kebabFrom {first : Bool} {last : Option Char} {cs : List Char} :
    ∀ c ∈ kebabFrom first last cs, isNameChar c = true := by
  induction cs generalizing first last with
  | nil => exact fun c mem ↦ absurd mem List.not_mem_nil
  | cons d ds ih =>
    rw [kebabFrom]
    split
    · rename_i upper
      have letter : d.isAlphanum = true := by
        show (d.isUpper || d.isLower || d.isDigit) = true
        rw [upper, Bool.true_or, Bool.true_or]
      refine List.forall_mem_append.mpr
        ⟨?_, List.forall_mem_cons.mpr ⟨isNameChar_toLower letter, ih⟩⟩
      split
      · exact List.forall_mem_nil _
      · exact List.forall_mem_singleton.mpr rfl
    · split
      · rename_i letter
        exact List.forall_mem_cons.mpr ⟨isNameChar_of_isAlphanum letter, ih⟩
      · split
        · exact ih
        · exact List.forall_mem_cons.mpr ⟨by decide, ih⟩

theorem named_pascalCase (s : String) : Named (pascalCase s) :=
  .ofList (isNameChar_of_mem_pascalChars _)

theorem named_kebabCase (s : String) : Named (kebabCase s) :=
  .ofList isNameChar_of_mem_kebabFrom

end Naming

open Naming

/-! ### Sections and pages -/

theorem Section.named_baseName (s : Section) : Named s.baseName := by
  rw [baseName.eq_def]
  split
  · rename_i s
    have chars := isNameChar_of_mem_pascalChars s.componentName.toList
    split
    · exact .lit rfl
    · rename_i c cs eq
      have name : Named (String.ofList (c :: cs)) := .ofList (eq ▸ chars)
      split
      · exact name
      · exact .after rfl name
  · exact named_pascalCase _

/-- The base name of a section starts with a capital. -/
theorem Section.exists_baseName (s : Section) :
    ∃ c cs, s.baseName.toList = c :: cs ∧ c.isLower = false := by
  have tags (kind : SectionKind) :
      ∃ c cs, (pascalCase kind.tag).toList = c :: cs ∧ c.isLower = false := by
    cases kind <;> exact ⟨_, _, rfl, rfl⟩
  rw [baseName.eq_def]
  split
  · rename_i s
    split
    · exact ⟨'C', _, rfl, rfl⟩
    · rename_i c cs eq
      split
      · have head : (pascalChars s.componentName.toList).head? = some c := by
          rw [eq]
          rfl
        exact ⟨c, cs, String.toList_ofList, isLower_head_pascalChars head⟩
      · exact ⟨'C', _, String.toList_append, rfl⟩
  · exact tags s.kind

namespace Slot

theorem named_name {slot : Slot} (base : Named slot.base) : Named slot.name := by
  rw [name, numbered]
  split
  · exact base
  · exact .append base (named_toString _)

theorem named_anchor (slot : Slot) : Named slot.anchor := named_kebabCase _

/-- The names of slots come from the base names of sections. -/
theorem Fits.named {reserved : List String} {sections : List Section} {slots : List Slot}
    (h : Fits reserved (sections.map (·.baseName)) slots) {slot : Slot} (mem : slot ∈ slots) :
    Named slot.name := by
  refine named_name ?_
  have base : slot.base ∈ sections.map (·.baseName) := h.base ▸ List.mem_map_of_mem mem
  obtain ⟨s, -, eq⟩ := List.mem_map.mp base
  rw [← eq]
  exact s.named_baseName

/-- So they start with a capital. -/
theorem Fits.exists_name {reserved : List String} {sections : List Section} {slots : List Slot}
    (h : Fits reserved (sections.map (·.baseName)) slots) {slot : Slot} (mem : slot ∈ slots) :
    ∃ c cs, slot.name.toList = c :: cs ∧ c.isLower = false := by
  have base : slot.base ∈ sections.map (·.baseName) := h.base ▸ List.mem_map_of_mem mem
  obtain ⟨s, -, eq⟩ := List.mem_map.mp base
  obtain ⟨c, cs, chars, capital⟩ := s.exists_baseName
  rw [eq] at chars
  rw [name, numbered]
  split
  · exact ⟨c, cs, chars, capital⟩
  · refine ⟨c, cs ++ (toString slot.number).toList, ?_, capital⟩
    rw [String.toList_append, chars, List.cons_append]

end Slot

theorem PagePlan.named_functionName (route : String) : Named (functionName route) := by
  have chars := isNameChar_of_mem_pascalChars route.toList
  rw [functionName]
  split
  · exact .lit rfl
  · rename_i c cs eq
    have name : Named (String.ofList (c :: cs)) := .ofList (eq ▸ chars)
    refine .before (.append ?_ name) rfl
    split <;> exact .lit rfl

/-! ### Routes -/

namespace Route

/-- The segments of a route are names. -/
theorem named_of_mem_segments {cs part : List Char} (h : part ∈ segments cs) :
    part ≠ [] ∧ ∀ c ∈ part, isNameChar c = true := by
  have segment := isSegment_of_mem_segments h
  refine ⟨segment.ne_nil, fun c mem ↦ ?_⟩
  rcases segment.mem mem with letter | rfl
  · exact isNameChar_of_isAlphanum (isAlphanum_of_isLetter letter)
  · decide

end Route

end Sitewright
