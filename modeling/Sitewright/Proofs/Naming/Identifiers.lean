import Sitewright.Proofs.Naming.Names

/-!
# Names of components are identifiers

A name that is bound in a file has to be an identifier, and a component has to start with a capital,
since markup takes anything else for an element of the page. The names of sections and pages are
both, whatever texts they are derived from: words of ASCII letters and digits are joined with
capitals, what would start with a digit gets a word before it, and what is left of everything by
that has a name of its own.

So there is one notion here, that of a component name (`Naming.isComponentName`), and it is kept by
everything that is written after one: numbers of slots, and the word that ends the component of a
page (`Naming.isComponentName_append`).
-/

namespace Sitewright

namespace Naming

/-- Whether a text is an identifier: a letter, and then letters and digits. -/
def isIdentifier (s : String) : Bool :=
  s.toList.head?.any Char.isAlpha && s.toList.all Char.isAlphanum

/-- Whether a text is the name of a component: an identifier that starts with a capital. -/
def isComponentName (s : String) : Bool :=
  s.toList.head?.any Char.isUpper && s.toList.all Char.isAlphanum

theorem isIdentifier_of_isComponentName {s : String} (h : isComponentName s = true) :
    isIdentifier s = true := by
  rw [isComponentName, Bool.and_eq_true, Option.any_eq_true] at h
  obtain ⟨⟨c, head, upper⟩, letters⟩ := h
  rw [isIdentifier, Bool.and_eq_true, Option.any_eq_true]
  refine ⟨⟨c, head, ?_⟩, letters⟩
  show (c.isUpper || c.isLower) = true
  rw [upper, Bool.true_or]

/-- **A component name stays one, whatever letters and digits follow.** -/
theorem isComponentName_append {s t : String} (h : isComponentName s = true)
    (letters : t.toList.all Char.isAlphanum = true) : isComponentName (s ++ t) = true := by
  rw [isComponentName, Bool.and_eq_true, Option.any_eq_true] at h ⊢
  obtain ⟨⟨c, head, upper⟩, before⟩ := h
  refine ⟨⟨c, ?_, upper⟩, ?_⟩
  · rw [String.toList_append, List.head?_append, head, Option.some_or]
  · rw [String.toList_append, List.all_append, before, letters, Bool.and_self]

/-- Joined words that start with a letter are the name of a component. -/
theorem isComponentName_pascalChars {cs rest : List Char} {c : Char}
    (h : pascalChars cs = c :: rest) (letter : c.isAlpha = true) :
    isComponentName (String.ofList (c :: rest)) = true := by
  have lower : c.isLower = false := isLower_head_pascalChars (by rw [h, List.head?_cons])
  have either : (c.isUpper || c.isLower) = true := letter
  have upper : c.isUpper = true := by rwa [lower, Bool.or_false] at either
  have letters := all_isAlphanum_pascalChars cs
  rw [h] at letters
  rw [isComponentName, String.toList_ofList, letters, List.head?_cons, Option.any_some, upper,
    Bool.and_self]

/-- Numbers are made of digits. -/
theorem all_isAlphanum_toString (n : Nat) : (toString n).toList.all Char.isAlphanum = true := by
  rw [List.all_eq_true]
  intro c mem
  rw [Nat.toString_eq_ofList_toDigits, String.toList_ofList] at mem
  have digit := Nat.isDigit_of_mem_toDigits (by decide) (by decide) mem
  rw [Char.isAlphanum, digit, Bool.or_true]

end Naming

open Naming

/-! ### Sections -/

/-- The base name of a section is the name of a component, whatever a custom section is called. -/
theorem Section.isComponentName_baseName (s : Section) : isComponentName s.baseName = true := by
  have tags (kind : SectionKind) : isComponentName (pascalCase kind.tag) = true := by
    cases kind <;> decide
  rw [baseName.eq_def]
  split
  · rename_i s
    split
    · decide
    · rename_i c cs eq
      have letters := all_isAlphanum_pascalChars s.componentName.toList
      split
      · rename_i letter
        exact isComponentName_pascalChars eq letter
      · exact isComponentName_append (by decide) (by rwa [String.toList_ofList, ← eq])
  · exact tags s.kind

namespace Slot

/-- Numbers make no difference. -/
theorem isComponentName_of_base {slot : Slot} (base : isComponentName slot.base = true) :
    isComponentName slot.name = true := by
  rw [name, numbered]
  split
  · exact base
  · exact isComponentName_append base (all_isAlphanum_toString _)

/-- **Slots have the names of components.** -/
theorem Fits.isComponentName_name {reserved : List String} {sections : List Section}
    {slots : List Slot} (h : Fits reserved (sections.map (·.baseName)) slots) {slot : Slot}
    (mem : slot ∈ slots) : isComponentName slot.name = true := by
  refine isComponentName_of_base ?_
  have base : slot.base ∈ sections.map (·.baseName) := h.base ▸ List.mem_map_of_mem mem
  obtain ⟨s, -, eq⟩ := List.mem_map.mp base
  rw [← eq]
  exact s.isComponentName_baseName

end Slot

/-! ### Pages -/

namespace PagePlan

/-- The component of a page ends with the word for one. -/
theorem exists_functionName (route : String) : ∃ head, functionName route = head ++ "Page" := by
  rw [functionName]
  split
  · exact ⟨"", rfl⟩
  · exact ⟨_, rfl⟩

/-- **The component of a page has the name of one**, whatever its route starts with. -/
theorem isComponentName_functionName (route : String) :
    isComponentName (functionName route) = true := by
  have letters := all_isAlphanum_pascalChars route.toList
  rw [functionName]
  split
  · decide
  · rename_i c cs eq
    refine isComponentName_append ?_ (by decide)
    rw [eq] at letters
    split
    · exact isComponentName_append (by decide) (by rwa [String.toList_ofList])
    · -- A letter or a digit that is no digit is a letter.
      rename_i digit
      have alphanum : c.isAlphanum = true := (List.all_eq_true.mp letters) c List.mem_cons_self
      have letter : c.isAlpha = true := by
        rwa [Char.isAlphanum, Bool.eq_false_iff.mpr digit, Bool.or_false] at alphanum
      rw [String.empty_append]
      exact isComponentName_pascalChars eq letter

/-- So it is not the type that entries import. -/
theorem functionName_ne_metadata (route : String) : functionName route ≠ "Metadata" := by
  obtain ⟨head, eq⟩ := exists_functionName route
  intro same
  have ending : "Page".toList <:+ "Metadata".toList :=
    ⟨head.toList, by rw [← same, eq, String.toList_append]⟩
  exact absurd ending (by decide)

end PagePlan

end Sitewright
