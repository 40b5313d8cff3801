import Mathlib.Data.List.Infix
import Sitewright.Text.Lines

/-!
# Replacing phrases

What becomes of a text in which a phrase is replaced. If the text was put together from blocks, one
for each character of another text, a replacement is looked at block by block: a block is either the
phrase itself, or no occurrence of the phrase starts inside it (`Text.shuns`), and then the
replacement is made block by block (`Text.replaceChars_flatMap`). This is how escapes are undone.

A phrase that does not occur is not replaced, and one that occurs makes the text shorter if its
replacement is shorter.
-/

namespace Sitewright.Text

/-! ### Replacing in blocks -/

/-- Whether two texts differ at a position that both have. -/
def clash : List Char → List Char → Bool
  | p :: ps, c :: cs => p != c || clash ps cs
  | _, _ => false

/-- Whether no occurrence of a phrase starts inside a block, whatever follows the block. -/
def shuns (phrase : List Char) : List Char → Bool
  | [] => true
  | c :: cs => clash phrase (c :: cs) && shuns phrase cs

variable {phrase replacement : List Char}

theorem isPrefixOf_append_of_clash {cs : List Char} (h : clash phrase cs = true)
    (rest : List Char) : phrase.isPrefixOf (cs ++ rest) = false := by
  induction phrase generalizing cs with
  | nil => cases h
  | cons p ps ih =>
    cases cs with
    | nil => cases h
    | cons c cs =>
      rw [List.cons_append, List.isPrefixOf]
      rcases Bool.or_eq_true_iff.mp h with differ | h
      · rw [beq_eq_false_iff_ne.mpr (bne_iff_ne.mp differ), Bool.false_and]
      · rw [ih h, Bool.and_false]

theorem replaceFrom_append_of_shuns {block : List Char} (h : shuns phrase block = true)
    (rest : List Char) : replaceFrom phrase replacement 0 (block ++ rest) =
      block ++ replaceFrom phrase replacement 0 rest := by
  induction block with
  | nil => rfl
  | cons c block ih =>
    obtain ⟨here, later⟩ := Bool.and_eq_true_iff.mp h
    have other := isPrefixOf_append_of_clash here rest
    rw [List.cons_append] at other ⊢
    rw [replaceFrom, if_neg (Bool.eq_false_iff.mp other), ih later, List.cons_append]

theorem replaceFrom_length_append (taken rest : List Char) :
    replaceFrom phrase replacement taken.length (taken ++ rest) =
      replaceFrom phrase replacement 0 rest := by
  induction taken with
  | nil => rfl
  | cons c taken ih => exact ih

theorem replaceFrom_phrase_append (ne : phrase ≠ []) (rest : List Char) :
    replaceFrom phrase replacement 0 (phrase ++ rest) =
      replacement ++ replaceFrom phrase replacement 0 rest := by
  obtain ⟨p, ps, rfl⟩ := List.exists_cons_of_ne_nil ne
  have here : (p :: ps).isPrefixOf (p :: (ps ++ rest)) = true :=
    List.isPrefixOf_iff_prefix.mpr (List.prefix_append (p :: ps) rest)
  rw [List.cons_append, replaceFrom, if_pos here, List.length_cons, Nat.add_sub_cancel,
    replaceFrom_length_append]

/-- A replacement in a text of blocks is made block by block, if each block is the phrase or shuns
it. -/
theorem replaceChars_flatMap {write write' : Char → List Char} (ne : phrase ≠ [])
    (h : ∀ c, write c = phrase ∧ write' c = replacement ∨
      shuns phrase (write c) = true ∧ write' c = write c) (cs : List Char) :
    replaceChars phrase replacement (cs.flatMap write) = cs.flatMap write' := by
  induction cs with
  | nil => rfl
  | cons c cs ih =>
    rw [replaceChars] at ih ⊢
    rw [List.flatMap_cons, List.flatMap_cons]
    rcases h c with ⟨eq, eq'⟩ | ⟨shun, eq'⟩
    · rw [eq, eq', replaceFrom_phrase_append ne, ih]
    · rw [eq', replaceFrom_append_of_shuns shun, ih]

/-! ### Replacing nothing -/

variable {cs : List Char}

/-- A shorter replacement makes no text longer. -/
theorem length_replaceFrom_le (shorter : replacement.length ≤ phrase.length) (skip : Nat)
    (cs : List Char) : (replaceFrom phrase replacement skip cs).length ≤ cs.length - skip := by
  induction cs generalizing skip with
  | nil => cases skip <;> exact Nat.zero_le _
  | cons c cs ih =>
    cases skip with
    | succ skip =>
      rw [replaceFrom, List.length_cons, Nat.add_sub_add_right]
      exact ih skip
    | zero =>
      rw [replaceFrom]
      split
      · rename_i here
        have fits := (List.isPrefixOf_iff_prefix.mp here).length_le
        have later := ih (phrase.length - 1)
        rw [List.length_append]
        rw [List.length_cons] at fits ⊢
        omega
      · have later := ih 0
        rw [List.length_cons, List.length_cons]
        omega

/-- A phrase that occurs makes a text shorter if its replacement is shorter. -/
theorem length_replaceChars_lt (shorter : replacement.length < phrase.length)
    (occurs : phrase <:+: cs) : (replaceChars phrase replacement cs).length < cs.length := by
  rw [replaceChars]
  induction cs with
  | nil =>
    rw [List.infix_nil.mp occurs] at shorter
    cases shorter
  | cons c cs ih =>
    rw [replaceFrom]
    split
    · rename_i here
      have fits := (List.isPrefixOf_iff_prefix.mp here).length_le
      have later := length_replaceFrom_le shorter.le (phrase.length - 1) cs
      rw [List.length_append]
      rw [List.length_cons] at fits ⊢
      omega
    · rename_i other
      rw [List.isPrefixOf_iff_prefix] at other
      rw [List.length_cons, List.length_cons]
      exact Nat.succ_lt_succ (ih ((List.infix_cons_iff.mp occurs).resolve_left other))

/-- A phrase that does not occur is not replaced. -/
theorem replaceChars_of_not_infix (h : ¬ phrase <:+: cs) :
    replaceChars phrase replacement cs = cs := by
  rw [replaceChars]
  induction cs with
  | nil => rfl
  | cons c cs ih =>
    obtain ⟨other, later⟩ := not_or.mp (mt List.infix_cons_iff.mpr h)
    rw [replaceFrom, if_neg (mt List.isPrefixOf_iff_prefix.mp other), ih later]

end Sitewright.Text
