import Sitewright.Studio.Validator

/-!
# Which sections are let through

A validator counts the braces of a code from left to right and gives up when one is closed that was
not open. What it lets through is given by a grammar, which does not count: a text of braces is
balanced if it is empty, or a pair of braces around a balanced text before another one
(`Custom.Balanced`). Both say the same (`Custom.isBalanced_iff`).

One direction is easy, since a balanced text leaves every count as it is. For the other one the
grammar has to speak of texts in the middle of which braces are open. A text that closes `depth`
braces is made of balanced texts with that many closing braces between them (`Custom.Closes`); this
is what holds of the rest of a code after any part of it has been counted.
-/

namespace Sitewright

namespace Custom

variable {depth : Nat} {cs bs inner : List Char}

/-! ### Counting braces -/

theorem openBraces?_append (depth : Nat) (a b : List Char) :
    openBraces? depth (a ++ b) = (openBraces? depth a).bind fun after ↦ openBraces? after b := by
  induction a generalizing depth with
  | nil => rfl
  | cons c a ih =>
    rw [List.cons_append, openBraces?, openBraces?]
    split
    · exact ih (depth + 1)
    · split
      · split
        · rfl
        · exact ih (depth - 1)
      · exact ih depth

/-- Other characters are passed over. -/
theorem braces_cons_of_ne {c : Char} (opening : c ≠ '\x7b') (closing : c ≠ '\x7d')
    (cs : List Char) : braces (c :: cs) = braces cs :=
  List.filter_cons_of_neg (by simp [opening, closing])

/-- Only braces count. -/
theorem openBraces?_braces (depth : Nat) (cs : List Char) :
    openBraces? depth (braces cs) = openBraces? depth cs := by
  induction cs generalizing depth with
  | nil => rfl
  | cons c cs ih =>
    rw [openBraces?]
    split
    · rename_i opening
      subst opening
      exact ih (depth + 1)
    · rename_i notOpening
      split
      · rename_i closing
        subst closing
        show (if depth = 0 then none else openBraces? (depth - 1) (braces cs)) = _
        rw [ih]
      · rename_i notClosing
        rw [braces_cons_of_ne notOpening notClosing, ih]

/-! ### Counting and the grammar -/

/-- A balanced text leaves as many braces open as there were before it. -/
theorem Balanced.openBraces?_eq (h : Balanced bs) (depth : Nat) :
    openBraces? depth bs = some depth := by
  induction h generalizing depth with
  | empty => rfl
  | @pair inner rest _ _ ihInner ihRest =>
    rw [openBraces?_append]
    calc (openBraces? (depth + 1) inner).bind (openBraces? · ('\x7d' :: rest))
        = openBraces? (depth + 1) ('\x7d' :: rest) := by rw [ihInner, Option.bind_some]
      _ = openBraces? depth rest := rfl
      _ = some depth := ihRest depth

/-- Texts of braces that close a number of braces: balanced texts with that many closing braces
between them. -/
def Closes : Nat → List Char → Prop
  | 0, bs => Balanced bs
  | depth + 1, bs => ∃ inner rest, Balanced inner ∧ Closes depth rest ∧ bs = inner ++ '\x7d' :: rest

/-- A pair of braces around a balanced text closes nothing. -/
theorem Closes.pair (hinner : Balanced inner) (h : Closes depth bs) :
    Closes depth ('\x7b' :: inner ++ '\x7d' :: bs) := by
  cases depth with
  | zero => exact .pair hinner h
  | succ depth =>
    obtain ⟨first, rest, hfirst, hrest, rfl⟩ := h
    exact ⟨'\x7b' :: inner ++ '\x7d' :: first, rest, .pair hinner hfirst, hrest, by simp⟩

/-- If all braces are closed at the end, the text closes those that were open before it. -/
theorem closes_of_openBraces? (h : openBraces? depth cs = some 0) : Closes depth (braces cs) := by
  induction cs generalizing depth with
  | nil =>
    obtain rfl : depth = 0 := Option.some.inj h
    exact .empty
  | cons c cs ih =>
    rw [openBraces?] at h
    split at h
    · -- The brace that is opened here is the first one that the rest closes.
      rename_i opening
      subst opening
      obtain ⟨inner, rest, hinner, hrest, eq⟩ := ih h
      have whole : braces ('\x7b' :: cs) = '\x7b' :: inner ++ '\x7d' :: rest :=
        congrArg (List.cons '\x7b') eq
      rw [whole]
      exact hrest.pair hinner
    · rename_i notOpening
      split at h
      · rename_i closing
        subst closing
        obtain ⟨some, h⟩ := Option.ite_none_left_eq_some.mp h
        obtain ⟨depth, rfl⟩ := Nat.exists_eq_succ_of_ne_zero some
        exact ⟨[], braces cs, .empty, ih h, rfl⟩
      · rename_i notClosing
        rw [braces_cons_of_ne notOpening notClosing]
        exact ih h

/-- **Counting decides the grammar.** -/
theorem isBalanced_iff : isBalanced cs = true ↔ Balanced (braces cs) := by
  rw [isBalanced, beq_iff_eq]
  constructor
  · exact closes_of_openBraces?
  · intro h
    rw [← openBraces?_braces]
    exact h.openBraces?_eq 0

instance (cs : List Char) : Decidable (Balanced (braces cs)) :=
  decidable_of_iff _ isBalanced_iff

/-- There may be as many of each brace and still one without a partner. -/
example : ¬ Balanced (braces ['\x7d', '.', '\x7b']) := by decide

/-! ### Sound sections -/

/-- What a custom section has to have. -/
structure IsSound (s : Custom) : Prop where
  /-- Its component has a name that is not blank. -/
  named : Text.isBlank s.componentName = false
  /-- Its code has a default export. -/
  exporting : "export default".toList <:+: s.code.toList
  /-- The braces of its code, taken alone, are balanced. -/
  balanced : Balanced (braces s.code.toList)

/-- A section has no fault exactly if it is sound. -/
theorem fault?_eq_none_iff {s : Custom} : s.fault? = none ↔ s.IsSound := by
  have exporting : Text.contains s.code "export default" = true ↔
      "export default".toList <:+: s.code.toList := Text.occursIn_iff
  have parts : s.IsSound ↔ Text.isBlank s.componentName = false ∧
      Text.contains s.code "export default" = true ∧ isBalanced s.code.toList = true := by
    rw [exporting, isBalanced_iff]
    exact ⟨fun h ↦ ⟨h.named, h.exporting, h.balanced⟩, fun ⟨named, exporting, balanced⟩ ↦
      ⟨named, exporting, balanced⟩⟩
  rw [parts, fault?]
  cases Text.isBlank s.componentName <;> cases Text.contains s.code "export default" <;>
    cases isBalanced s.code.toList <;> simp

end Custom

namespace SectionEntry

/-- Entries that are no custom sections, or sound ones. -/
def IsAdmitted (entry : SectionEntry) : Prop :=
  ∀ s, entry.section? = some (.custom s) → s.IsSound

theorem fault?_eq_none_iff {entry : SectionEntry} : entry.fault? = none ↔ entry.IsAdmitted := by
  rw [fault?, IsAdmitted]
  split
  · rename_i s custom
    rw [custom, Custom.fault?_eq_none_iff]
    exact ⟨fun sound t eq ↦ by cases eq; exact sound, fun h ↦ h s rfl⟩
  · rename_i other
    exact iff_of_true rfl fun s custom ↦ absurd custom (other s)

instance (entry : SectionEntry) : Decidable entry.IsAdmitted :=
  decidable_of_iff _ fault?_eq_none_iff

end SectionEntry

/-- **Exactly the admitted entries are let through**, in their order: those that are no custom
sections, and those whose component has a name and whose code has a default export and balanced
braces. -/
theorem Validator.structural_lets_through (entries : List SectionEntry) :
    Validator.structural entries = .ok (entries.filter fun entry ↦ entry.IsAdmitted) := by
  rw [structural]
  congr 1
  refine List.filter_congr fun entry _ ↦ ?_
  rw [Bool.eq_iff_iff, Option.isNone_iff_eq_none, decide_eq_true_eq,
    SectionEntry.fault?_eq_none_iff]

end Sitewright
