import Sitewright.Proofs.Build.Files
import Sitewright.Proofs.Naming.Identifiers
import Sitewright.Site.Samples

/-!
# Anchors are unique

A link within a page leads to the one element whose anchor it names, so no two elements may share
one. The anchor of a section is the name of its component, hyphenated: a hyphen goes before each
capital but the first character, and the capitals become small letters. For texts in general that
loses something, but not for names of components. They start with a capital and hold neither hyphens
nor gaps, so behind one more hyphen every capital has become a hyphen and a letter, and they can be
read back (`Naming.joinHyphenated_hyphenated`). Different names therefore have different anchors
(`Naming.kebabCase_inj`).

The hero stands on the homepage beside the sections, under an anchor of its own. It is the anchor of
a name that is reserved on every page, which is all that keeps sections away from it
(`Slot.Fits.anchor_ne`).
-/

namespace Sitewright

namespace Naming

/-! ### Hyphenated names -/

/-- A character of a hyphenated name. -/
def hyphenatedChar (c : Char) : List Char := if c.isUpper then ['-', c.toLower] else [c]

/-- A hyphenated name read back: a hyphen and the letter after it are a capital. -/
def joinHyphenated : List Char → List Char
  | [] => []
  | [c] => [c]
  | c :: d :: cs =>
    if c = '-' then d.toUpper :: joinHyphenated cs else c :: joinHyphenated (d :: cs)

variable {cs : List Char} {s t : String}

theorem joinHyphenated_cons {c : Char} (h : c ≠ '-') (cs : List Char) :
    joinHyphenated (c :: cs) = c :: joinHyphenated cs := by
  cases cs with
  | nil => rfl
  | cons d cs => rw [joinHyphenated, if_neg h]

theorem joinHyphenated_hyphen (c : Char) (cs : List Char) :
    joinHyphenated ('-' :: c :: cs) = c.toUpper :: joinHyphenated cs := by
  rw [joinHyphenated, if_pos rfl]

theorem isAlphanum_of_isUpper {c : Char} (h : c.isUpper = true) : c.isAlphanum = true := by
  show (c.isUpper || c.isLower || c.isDigit) = true
  rw [h, Bool.true_or, Bool.true_or]

theorem toUpper_toLower_of_isUpper {c : Char} (h : c.isUpper = true) : c.toLower.toUpper = c := by
  have same : (!c.isUpper || c.toLower.toUpper == c) = true :=
    Text.forall_isAlphanum (p := fun c ↦ !c.isUpper || c.toLower.toUpper == c) (by decide)
      (isAlphanum_of_isUpper h)
  rw [h] at same
  exact eq_of_beq same

/-- **Letters and digits can be read back from a hyphenated name.** -/
theorem joinHyphenated_hyphenated (h : cs.all Char.isAlphanum = true) :
    joinHyphenated (cs.flatMap hyphenatedChar) = cs := by
  induction cs with
  | nil => rfl
  | cons c cs ih =>
    rw [List.all_cons, Bool.and_eq_true] at h
    obtain ⟨first, others⟩ := h
    rw [List.flatMap_cons, hyphenatedChar]
    by_cases upper : c.isUpper = true
    · rw [if_pos upper, List.cons_append, List.singleton_append, joinHyphenated_hyphen, ih others,
        toUpper_toLower_of_isUpper upper]
    · have letter : c ≠ '-' := by
        rintro rfl
        cases first
      rw [if_neg upper, List.singleton_append, joinHyphenated_cons letter, ih others]

/-- Letters and digits are hyphenated one by one. -/
theorem kebabFrom_of_all_isAlphanum (h : cs.all Char.isAlphanum = true) (last : Option Char) :
    kebabFrom false last cs = cs.flatMap hyphenatedChar := by
  induction cs generalizing last with
  | nil => rfl
  | cons c cs ih =>
    rw [List.all_cons, Bool.and_eq_true] at h
    obtain ⟨first, others⟩ := h
    rw [kebabFrom, List.flatMap_cons, hyphenatedChar]
    by_cases upper : c.isUpper = true
    · rw [if_pos upper, if_pos upper, ih others]
      rfl
    · rw [if_neg upper, if_neg upper, if_pos first, ih others]
      rfl

/-- The name of a component is hyphenated character by character, but for the hyphen that would
stand before the first one. -/
theorem hyphen_cons_kebabCase (h : isComponentName s = true) :
    '-' :: (kebabCase s).toList = s.toList.flatMap hyphenatedChar := by
  rw [isComponentName, Bool.and_eq_true, Option.any_eq_true] at h
  obtain ⟨⟨c, head, upper⟩, letters⟩ := h
  obtain ⟨cs, chars⟩ := List.head?_eq_some_iff.mp head
  rw [chars, List.all_cons, Bool.and_eq_true] at letters
  rw [kebabCase, String.toList_ofList, chars, kebabFrom, if_pos upper, if_pos rfl,
    List.nil_append, kebabFrom_of_all_isAlphanum letters.2, List.flatMap_cons, hyphenatedChar,
    if_pos upper]
  rfl

/-- **Different names of components have different hyphenated forms.** -/
theorem kebabCase_inj (hs : isComponentName s = true) (ht : isComponentName t = true) :
    kebabCase s = kebabCase t ↔ s = t := by
  have letters {s : String} (h : isComponentName s = true) : s.toList.all Char.isAlphanum = true :=
    ((Bool.and_eq_true _ _).mp h).2
  refine ⟨fun eq ↦ ?_, congrArg kebabCase⟩
  have chars : s.toList.flatMap hyphenatedChar = t.toList.flatMap hyphenatedChar := by
    rw [← hyphen_cons_kebabCase hs, ← hyphen_cons_kebabCase ht, eq]
  rw [← String.toList_inj, ← joinHyphenated_hyphenated (letters hs), chars,
    joinHyphenated_hyphenated (letters ht)]

end Naming

open Naming

/-! ### Sections -/

namespace Slot

theorem isComponentName_of_mem_allocate {reserved : List String} {sections : List Section}
    {slot : Slot} (mem : slot ∈ allocate reserved sections) : isComponentName slot.name = true :=
  (fits_allocate reserved sections).isComponentName_name mem

namespace Fits

variable {reserved : List String} {sections : List Section} {slots : List Slot}

/-- No anchor is given out twice. -/
theorem nodup_anchors (h : Fits reserved (sections.map (·.baseName)) slots) :
    (slots.map anchor).Nodup := by
  refine List.pairwise_map.mpr ((List.pairwise_map.mp h.nodup).imp_of_mem ?_)
  intro a b ha hb ne eq
  exact ne ((kebabCase_inj (h.isComponentName_name ha) (h.isComponentName_name hb)).mp eq)

/-- No section has the anchor of a reserved name. -/
theorem anchor_ne (h : Fits reserved (sections.map (·.baseName)) slots) {slot : Slot}
    (mem : slot ∈ slots) {name : String} (isReserved : name ∈ reserved)
    (component : isComponentName name = true) : slot.anchor ≠ kebabCase name := by
  intro eq
  have same := (kebabCase_inj (h.isComponentName_name mem) component).mp eq
  exact h.free slot mem (same ▸ isReserved)

end Fits

end Slot

/-- Every page reserves the name of the homepage. -/
theorem Sheet.home_mem_reserved {compiler : Compiler} {config : SiteConfig} {sheet : Sheet}
    (h : sheet ∈ compiler.sheets config) : "Home" ∈ sheet.reserved := by
  have shared : "Home" ∈ Slot.reservedNames := by decide
  rcases List.mem_cons.mp h with rfl | other
  · exact shared
  · obtain ⟨plan, -, rfl⟩ := List.mem_map.mp other
    exact List.mem_append_left _ shared

/-! ### Elements -/

/-- The anchor of a component on its page: the identifier of its outermost element. -/
def Component.anchor? {ι : Type} (component : Component ι) : Option String :=
  match component.root with
  | .element _ attributes _ _ =>
    (attributes.find? (·.name == "id")).bind fun found ↦
      match found.value with
      | .fixed s => some s
      | _ => none
  | _ => none

theorem SectionDraft.anchor?_component (draft : SectionDraft) (name anchor : String) :
    (draft.component name anchor).anchor? = some anchor :=
  rfl

theorem Hero.anchor?_component (setting : Setting) (hero : Hero) :
    (hero.component setting).anchor? = some "home" :=
  rfl

/-- A section that is drawn has the anchor that it is drawn with. -/
theorem Section.anchor?_of_source {setting : Setting} {name anchor : String} {s : Section}
    {component : Component ImageRequest} (h : s.source setting name anchor = .drawn component) :
    component.anchor? = some anchor := by
  cases s with
  | custom s => cases h
  | _ =>
    cases h
    exact SectionDraft.anchor?_component ..

namespace Compiler

/-- **Anchors are unique.** On the homepage and on every published page the anchors of the sections
are pairwise different, and none of them is the anchor of the hero. They are the anchors that the
drawn sections have on their pages. More generally, wherever two slots are given out, they have the
same anchor only if they have the same name. -/
theorem anchors_unique (compiler : Compiler) (config : SiteConfig) :
    (config.hero.component config.setting).anchor? = some "home" ∧
      (∀ slots ∈ (compiler.plan config).slots compiler.repertoire,
        (slots.map Slot.anchor).Nodup ∧ "home" ∉ slots.map Slot.anchor) ∧
      (∀ p ∈ compiler.placements config, ∀ component,
        p.source config.setting = .drawn component → component.anchor? = some p.slot.anchor) ∧
      ∀ (reserved others : List String) (sections more : List Section),
        ∀ a ∈ Slot.allocate reserved sections, ∀ b ∈ Slot.allocate others more,
          kebabCase a.name = kebabCase b.name → a.name = b.name := by
  refine ⟨Hero.anchor?_component .., ?_, fun p _ component ↦ Section.anchor?_of_source, ?_⟩
  · rw [slots_plan]
    refine List.forall_mem_map.mpr fun sheet mem ↦ ⟨sheet.fits.nodup_anchors, fun home ↦ ?_⟩
    obtain ⟨slot, hslot, eq⟩ := List.mem_map.mp home
    -- The anchor of the hero is that of a reserved name.
    have reserved : kebabCase "Home" = "home" := by decide
    exact sheet.fits.anchor_ne hslot (Sheet.home_mem_reserved mem) (by decide)
      (eq.trans reserved.symm)
  · intro reserved others sections more a ha b hb eq
    have left := Slot.isComponentName_of_mem_allocate ha
    have right := Slot.isComponentName_of_mem_allocate hb
    exact (kebabCase_inj left right).mp eq

/-- A homepage whose sections are called like itself, and like each other but for their capitals
and hyphens. -/
def lookalikes : SiteConfig :=
  .bare [.supported (.custom ⟨.own, "home", ""⟩), .supported (.custom ⟨.own, "faqA", ""⟩),
    .supported (.custom ⟨.own, "Faq-a", ""⟩), .supported (.custom ⟨.own, "FAQ a", ""⟩)] []

theorem anchors_unique_lookalikes :
    ∃ slots ∈ ((ofOptions .default).plan lookalikes).slots .full,
      slots.map Slot.name = ["Home2", "FaqA", "FaqA2", "FAQA"] ∧
        (slots.map Slot.anchor).Nodup ∧ "home" ∉ slots.map Slot.anchor := by
  have home : ∃ slots ∈ ((ofOptions .default).plan lookalikes).slots .full,
      slots.map Slot.name = ["Home2", "FaqA", "FaqA2", "FAQA"] := by
    decide +kernel
  obtain ⟨slots, mem, names⟩ := home
  exact ⟨slots, mem, names, (anchors_unique (ofOptions .default) lookalikes).2.1 slots mem⟩

end Compiler

end Sitewright
