import Sitewright.Proofs.Text.Pieces
import Sitewright.Text.Words

/-!
# Words of texts

Every character of the class of a text's words is in one of them, so a text without words is one
without such characters (`Text.wordsOf_eq_nil_iff`). Words on both sides of a character that belongs
to none are found independently (`Text.wordsOf_append_cons`).
-/

namespace Sitewright.Text

variable {p : Char → Bool} {c : Char} {cs word : List Char} {words : List (List Char)}

/-- Every character that is no separator is in some piece. -/
theorem exists_mem_splitBy (mem : c ∈ cs) (h : p c = false) :
    ∃ piece ∈ splitBy p cs, c ∈ piece := by
  induction cs with
  | nil => cases mem
  | cons d cs ih =>
    rw [splitBy]
    split
    · rename_i separator
      rcases List.mem_cons.mp mem with rfl | mem
      · rw [h] at separator
        cases separator
      · obtain ⟨piece, hpiece, inside⟩ := ih mem
        exact ⟨piece, List.mem_cons_of_mem _ hpiece, inside⟩
    · cases pieces : splitBy p cs with
      | nil => exact absurd pieces (splitBy_ne_nil p cs)
      | cons first rest =>
        rcases List.mem_cons.mp mem with rfl | mem
        · exact ⟨c :: first, List.mem_cons_self, List.mem_cons_self⟩
        · obtain ⟨piece, hpiece, inside⟩ := ih mem
          rw [pieces] at hpiece
          rcases List.mem_cons.mp hpiece with rfl | hpiece
          · exact ⟨d :: piece, List.mem_cons_self, List.mem_cons_of_mem _ inside⟩
          · exact ⟨piece, List.mem_cons_of_mem _ hpiece, inside⟩

theorem splitBy_map (f : Char → Char) (cs : List Char) :
    splitBy p (cs.map f) = (splitBy (fun c ↦ p (f c)) cs).map (List.map f) := by
  induction cs with
  | nil => rfl
  | cons c cs ih =>
    rw [List.map_cons, splitBy, splitBy, ih]
    split
    · rfl
    · cases splitBy (fun c ↦ p (f c)) cs <;> rfl

/-- A text has no words exactly if none of its characters belongs to one. -/
theorem wordsOf_eq_nil_iff : wordsOf p cs = [] ↔ ∀ c ∈ cs, p c = false := by
  constructor
  · intro none c mem
    rw [← Bool.not_eq_true]
    intro h
    obtain ⟨piece, hpiece, inside⟩ := exists_mem_splitBy (p := (!p ·)) mem (by rw [h]; rfl)
    have word : piece ∈ wordsOf p cs :=
      List.mem_filter.mpr ⟨hpiece, by simp [List.ne_nil_of_mem inside]⟩
    rw [none] at word
    cases word
  · intro h
    refine List.eq_nil_iff_forall_not_mem.mpr fun word mem ↦ ?_
    obtain ⟨some, letters⟩ := mem_wordsOf mem
    obtain ⟨c, rest, rfl⟩ := List.exists_cons_of_ne_nil some
    have other := h c (mem_of_mem_splitBy (List.mem_of_mem_filter mem) List.mem_cons_self)
    rw [letters c List.mem_cons_self] at other
    cases other

/-- A text that is one word. -/
theorem wordsOf_of_forall (some : cs ≠ []) (h : ∀ c ∈ cs, p c = true) : wordsOf p cs = [cs] := by
  rw [wordsOf, splitBy_of_forall fun c mem ↦ by rw [h c mem]; rfl]
  simp [some]

/-- The words on both sides of a character that belongs to none. -/
theorem wordsOf_append_cons (h : p c = false) (a b : List Char) :
    wordsOf p (a ++ c :: b) = wordsOf p a ++ wordsOf p b := by
  rw [wordsOf, splitBy_append_cons (by rw [h]; rfl), List.filter_append]
  rfl

/-! ### Hyphens -/

@[simp] theorem hyphenated_nil : hyphenated [] = [] := rfl

@[simp] theorem hyphenated_singleton (word : List Char) : hyphenated [word] = word := by
  simp [hyphenated, List.intercalate]

theorem hyphenated_cons (some : words ≠ []) (word : List Char) :
    hyphenated (word :: words) = word ++ '-' :: hyphenated words := by
  obtain ⟨next, rest, rfl⟩ := List.exists_cons_of_ne_nil some
  exact intercalate_cons_cons '-' word next rest

end Sitewright.Text
