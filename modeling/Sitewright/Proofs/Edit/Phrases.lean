import Sitewright.Edit.Keywords
import Sitewright.Proofs.Text.Pieces
import Sitewright.Proofs.Text.Plain

/-!
# Phrases in edits

A phrase is looked for as a run of characters: the words of the edit are written with one space
between neighbours and one at either end, and so are the words of the phrase. What is found that way
is what is meant. A space stands before and after every word and nowhere else, because no letter or
number is lowered to a space (`Text.space_mem_of_mem_lowerChars`); so a run of characters between
two spaces is a run of whole words (`Text.bordered_infix_iff`). A phrase occurs in a text exactly if
its words are neighbours among the words of the text, in its order (`EditWords.hasPhrase_iff`).
-/

namespace Sitewright

/-! ### Lower case -/

namespace Text

theorem eq_of_ofNat_eq_space {n : Nat} (h : Char.ofNat n = ' ') : n = 32 := by
  by_cases valid : n.isValidChar
  · rw [Char.ofNat, dif_pos valid] at h
    exact congrArg Char.toNat h
  · rw [Char.ofNat, dif_neg valid] at h
    exact absurd h (by decide)

/-- Only the space is lowered to a space. -/
theorem eq_space_of_mem_lowerChar {c : Char} (mem : ' ' ∈ lowerChar c) : c = ' ' := by
  have above : lowerRuns.all (fun run ↦ 32 < (run.first : Int) + run.offset) = true := by
    decide +kernel
  rw [lowerChar] at mem
  split at mem
  · have same : (c.toLower == ' ') = (c == ' ') := apply_toLower (f := (· == ' ')) (by decide) c
    rw [← List.mem_singleton.mp mem, beq_self_eq_true] at same
    exact eq_of_beq same.symm
  · split at mem
    · exact absurd mem (by decide)
    · split at mem
      · -- The character lies in a run of the table, and every run leads to a place above the space.
        rename_i n found
        obtain ⟨run, listed, lowered⟩ := List.exists_of_findSome?_eq_some found
        have low := of_decide_eq_true (List.all_eq_true.mp above run listed)
        rw [LowerRun.lower?] at lowered
        split at lowered
        · rename_i inside
          simp only [Bool.and_eq_true, decide_eq_true_eq] at inside
          have value := Option.some.inj lowered
          have space := eq_of_ofNat_eq_space (List.mem_singleton.mp mem).symm
          omega
        · cases lowered
      · exact (List.mem_singleton.mp mem).symm

theorem space_mem_of_mem_lowerFrom {before cs : List Char} (mem : ' ' ∈ lowerFrom before cs) :
    ' ' ∈ cs := by
  induction cs generalizing before with
  | nil => exact mem
  | cons c cs ih =>
    rw [lowerFrom] at mem
    rcases List.mem_append.mp mem with here | later
    · split at here
      · split at here
        · exact absurd here (by decide)
        · exact absurd here (by decide)
      · rw [eq_space_of_mem_lowerChar here]
        exact List.mem_cons_self
    · exact List.mem_cons_of_mem _ (ih later)

theorem space_mem_of_mem_lowerChars {cs : List Char} (mem : ' ' ∈ lowerChars cs) : ' ' ∈ cs :=
  space_mem_of_mem_lowerFrom mem

end Text

/-! ### Phrases -/

/-- What is looked for in an edit: one or more words with a single space between neighbours. -/
structure Phrase where
  /-- The words. -/
  words : List (List Char)
  words_ne_nil : words ≠ []
  ne_nil : ∀ word ∈ words, word ≠ []
  space_notMem : ∀ word ∈ words, ' ' ∉ word

namespace Phrase

/-- The phrase as it is written. -/
def text (phrase : Phrase) : String := String.ofList (List.intercalate [' '] phrase.words)

end Phrase

namespace EditWords

variable {text : EditWords}

theorem hasPhrase_text_iff (h : ∀ word ∈ text.words, ' ' ∉ word) (phrase : Phrase) :
    text.hasPhrase phrase.text = true ↔ phrase.words <:+: text.words := by
  rw [hasPhrase, Text.occursIn_iff, Phrase.text, String.toList_ofList, padded,
    Text.bordered_infix_bordered_iff phrase.words_ne_nil phrase.space_notMem, joined]
  cases words : text.words with
  | nil =>
    -- Between the two spaces stands nothing, which counts as a piece but is no word.
    have piece : Text.splitBy (· == ' ') (List.intercalate [' '] []) = [[]] := rfl
    rw [piece]
    constructor
    · intro found
      obtain ⟨word, mem⟩ := List.exists_mem_of_ne_nil _ phrase.words_ne_nil
      exact absurd (List.mem_singleton.mp (found.subset mem)) (phrase.ne_nil word mem)
    · intro found
      exact absurd (List.infix_nil.mp found) phrase.words_ne_nil
  | cons word rest =>
    rw [words] at h
    rw [Text.splitBy_intercalate (List.cons_ne_nil word rest) h]

/-- No word of a text holds a space. -/
theorem space_notMem_of_mem_words {s : String} : ∀ word ∈ (ofText s).words, ' ' ∉ word := by
  intro word mem space
  obtain ⟨plain, hplain, rfl⟩ := List.mem_map.mp mem
  have letter := (Text.mem_wordsOf hplain).2 ' ' (Text.space_mem_of_mem_lowerChars space)
  cases letter

/-- **A phrase occurs where its words stand side by side.** -/
theorem hasPhrase_iff (s : String) (phrase : Phrase) :
    (ofText s).hasPhrase phrase.text = true ↔
      phrase.words <:+: (Text.wordsOf Text.isAlphanumeric s.toList).map Text.lowerChars :=
  hasPhrase_text_iff space_notMem_of_mem_words phrase

/-- Case and punctuation do not matter, and a part of a word is no word. -/
example : (ofText "Please START -- over!").hasPhrase "start over" = true ∧
    (ofText "Restart over there").hasPhrase "start over" = false := by
  decide

end EditWords

end Sitewright
