import Sitewright.Text.Lines

/-!
# Words

A text seen as words: the longest runs of characters of a class, without what stands between them.
Names of components, routes and packages are made of such words, and edits are matched by them.
-/

namespace Sitewright.Text

/-- The words of a text whose characters satisfy `p`. -/
def wordsOf (p : Char → Bool) (cs : List Char) : List (List Char) :=
  (splitBy (fun c => !p c) cs).filter fun word => !word.isEmpty

/-- Words with one hyphen between neighbours. -/
def hyphenated (words : List (List Char)) : List Char := List.intercalate ['-'] words

theorem splitBy_all {p : Char → Bool} {cs : List Char} :
    ∀ piece ∈ splitBy p cs, ∀ c ∈ piece, p c = false := by
  induction cs with
  | nil => simp [splitBy]
  | cons c cs ih =>
    intro piece mem
    rw [splitBy] at mem
    split at mem
    · rcases List.mem_cons.mp mem with rfl | mem
      · simp
      · exact ih piece mem
    · rename_i hc
      split at mem
      · rcases List.mem_singleton.mp mem with rfl
        intro d hd
        rcases List.mem_singleton.mp hd with rfl
        simpa using hc
      · rename_i first rest eq
        rw [eq] at ih
        rcases List.mem_cons.mp mem with rfl | mem
        · intro d hd
          rcases List.mem_cons.mp hd with rfl | hd
          · simpa using hc
          · exact ih first (List.mem_cons_self ..) d hd
        · exact ih piece (List.mem_cons_of_mem _ mem)

/-- A word holds characters of its class only. -/
theorem mem_wordsOf {p : Char → Bool} {cs word : List Char} (h : word ∈ wordsOf p cs) :
    word ≠ [] ∧ ∀ c ∈ word, p c = true := by
  obtain ⟨mem, ne⟩ := List.mem_filter.mp h
  refine ⟨fun e => by simp [e] at ne, fun c hc => ?_⟩
  simpa using splitBy_all word mem c hc

end Sitewright.Text
