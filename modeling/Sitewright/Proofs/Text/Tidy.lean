import Mathlib.Data.List.Chain
import Mathlib.Data.List.Infix
import Sitewright.Proofs.Text.Pieces
import Sitewright.Text.Class

/-!
# Reading tidy text

Generated files are searched as texts, although they were printed from trees. What a search finds in
a printed tree is nevertheless decided by the tree, because printing only does two things to the
texts of its parts: it puts them beside each other, and it moves lines to the right. This module
says what a search has to satisfy for both to be harmless.

A text is *tidy* if every angle bracket that opens is closed on the same line, with no other one in
between and no value left open (`Text.Tidy`). Two texts are *apart* if a character at the border
between them belongs to neither a word nor an attribute (`Text.Apart`). A *reader* is a search that
ignores blanks and finds in two texts beside each other what it finds in each, if the first is tidy
and they are apart (`Text.Reader`). The main result is that a reader finds in an indented tidy text
what it finds in the text itself (`Text.Reader.indentChars`).

The texts of a configuration may break lines anywhere, so tidiness is stated for lines of any
content, and a carriage return before a line feed may go.
-/

namespace Sitewright.Text

/-! ### Gaps -/

/-- Characters that belong to neither a word nor the value of an attribute. -/
def isGap (c : Char) : Bool := !isWordChar c && !isDecimalDigit c && c != '=' && c != '"'

theorem isWordChar_of_isGap {c : Char} (h : isGap c = true) : isWordChar c = false := by
  rw [isGap, Bool.and_eq_true, Bool.and_eq_true, Bool.and_eq_true, Bool.not_eq_true'] at h
  exact h.1.1.1

/-- Whether there is a gap at the border of two texts, if both have one. -/
def Apart (a b : List Char) : Prop :=
  (∀ c, a.getLast? = some c → isGap c = true) ∨ (∀ c, b.head? = some c → isGap c = true)

theorem Apart.of_head {a b : List Char} {c : Char} (h : isGap c = true) : Apart a (c :: b) :=
  .inr fun d hd ↦ by rwa [← Option.some.inj hd]

theorem Apart.of_last {a b : List Char} {c : Char} (h : isGap c = true) : Apart (a ++ [c]) b :=
  .inl fun d hd ↦ by
    rw [List.getLast?_concat] at hd
    rwa [← Option.some.inj hd]

theorem Apart.of_isGap_last {a : List Char} (h : a.getLast?.any isGap = true) (b : List Char) :
    Apart a b := .inl fun c hc ↦ by simpa [hc] using h

/-- What a text starts with does not matter to what comes after it. -/
theorem Apart.of_append {a b c : List Char} (h : Apart (a ++ b) c) : Apart b c :=
  h.imp_left fun gap d last ↦ gap d (by rw [List.getLast?_append, last, Option.some_or])

/-- Whether there is a gap at the border of two texts. -/
def Bordered (a b : List Char) : Prop :=
  a.getLast?.any isGap = true ∨ b.head?.any isGap = true

theorem Bordered.apart {a b : List Char} (h : Bordered a b) (rest : List Char) :
    Apart a (b ++ rest) := by
  rcases h with last | head
  · exact .of_isGap_last last _
  · cases b with
    | nil => cases head
    | cons c b => exact .of_head head

/-! ### Tidy texts -/

/-- Characters that may stand between the brackets of a tag: no line breaks and no brackets. They
are told by their codes, so that a long text is checked fast. -/
def isInert (c : Char) : Bool :=
  !(c.toNat.beq 10 || c.toNat.beq 13 || c.toNat.beq 60 || c.toNat.beq 62)

theorem beq_toNat_eq_false_iff {c d : Char} : c.toNat.beq d.toNat = false ↔ c ≠ d := by
  rw [← Bool.not_eq_true, Nat.beq_eq, Char.toNat_inj]

theorem isInert_iff {c : Char} : isInert c = true ↔ c ≠ '\n' ∧ c ≠ '\r' ∧ c ≠ '<' ∧ c ≠ '>' := by
  simp only [← beq_toNat_eq_false_iff]
  simp [isInert, and_assoc]

/-- Where one is between the brackets of a tag. -/
inductive TagPlace where
  /-- Outside of values. -/
  | bare
  /-- In a value between double quotes. -/
  | quoted
  /-- In an expression between braces, and so many braces deeper. -/
  | braced (depth : Nat)
  deriving DecidableEq

namespace TagPlace

/-- Where one is after a character. -/
def next (place : TagPlace) (c : Char) : TagPlace :=
  match place with
  | bare => if c = '"' then quoted else if c = '\x7b' then braced 0 else bare
  | quoted => if c = '"' then bare else quoted
  | braced 0 => if c = '\x7b' then braced 1 else if c = '\x7d' then bare else braced 0
  | braced (depth + 1) =>
    if c = '\x7b' then braced (depth + 2) else if c = '\x7d' then braced depth
    else braced (depth + 1)

/-- Where one is after several characters. -/
def after (place : TagPlace) (cs : List Char) : TagPlace := cs.foldl next place

@[simp] theorem after_nil (place : TagPlace) : place.after [] = place := rfl

@[simp] theorem after_cons (place : TagPlace) (c : Char) (cs : List Char) :
    place.after (c :: cs) = (place.next c).after cs := rfl

theorem after_append (place : TagPlace) (a b : List Char) :
    place.after (a ++ b) = (place.after a).after b := List.foldl_append

end TagPlace

/-- What may stand between the brackets of a tag: no line breaks and no brackets, and every quote
and every brace that opens a value is closed again. -/
structure IsBody (body : List Char) : Prop where
  /-- There are no line breaks and no brackets. -/
  inert : ∀ c ∈ body, isInert c = true
  /-- All values are closed. -/
  closed : TagPlace.bare.after body = .bare

/-- Every bracket that opens is closed on the same line, and none opens in between. -/
inductive Tidy : List Char → Prop where
  /-- There is nothing. -/
  | nil : Tidy []
  /-- A character outside of tags. -/
  | char {c : Char} {cs : List Char} (ne : c ≠ '<') (rest : Tidy cs) : Tidy (c :: cs)
  /-- A tag. -/
  | tag {body cs : List Char} (isBody : IsBody body) (rest : Tidy cs) :
    Tidy ('<' :: (body ++ '>' :: cs))

/-- A text that is one tag, from its bracket to the closing one. -/
def IsTag (cs : List Char) : Prop :=
  ∃ body, IsBody body ∧ cs = '<' :: (body ++ ['>'])

theorem IsTag.tidy {cs : List Char} (h : IsTag cs) : Tidy cs := by
  obtain ⟨body, isBody, rfl⟩ := h
  exact .tag isBody .nil

/-- A tag starts with a gap. -/
theorem IsTag.head_append {cs : List Char} (h : IsTag cs) (rest : List Char) :
    (cs ++ rest).head?.any isGap = true := by
  obtain ⟨body, -, rfl⟩ := h
  rfl

/-- A tag ends with a gap. -/
theorem IsTag.append_last {cs : List Char} (h : IsTag cs) (before : List Char) :
    (before ++ cs).getLast?.any isGap = true := by
  obtain ⟨body, -, rfl⟩ := h
  have last : (before ++ '<' :: (body ++ ['>'])).getLast? = some '>' := by
    rw [← List.cons_append, ← List.append_assoc]
    exact List.getLast?_concat
  rw [last]
  decide

namespace Tidy

variable {a b cs : List Char}

theorem of_forall_ne (h : ∀ c ∈ cs, c ≠ '<') : Tidy cs := by
  induction cs with
  | nil => exact .nil
  | cons c cs ih =>
    obtain ⟨ne, others⟩ := List.forall_mem_cons.mp h
    exact .char ne (ih others)

theorem append (ha : Tidy a) (hb : Tidy b) : Tidy (a ++ b) := by
  induction ha with
  | nil => exact hb
  | char ne _ ih => exact .char ne ih
  | tag isBody _ ih =>
    rw [List.cons_append, List.append_assoc, List.cons_append]
    exact .tag isBody ih

/-- A line break is outside of tags, so what stands before it and after it is tidy. -/
theorem of_append_cons {c : Char} (h : Tidy (a ++ c :: b)) (outside : isInert c = false)
    (noTag : c ≠ '<') (noEnd : c ≠ '>') : Tidy a ∧ Tidy b := by
  generalize eq : a ++ c :: b = cs at h
  induction h generalizing a with
  | nil => exact absurd eq (by simp)
  | char ne rest ih =>
    cases a with
    | nil =>
      obtain ⟨-, rfl⟩ := List.cons.inj eq
      exact ⟨.nil, rest⟩
    | cons x a =>
      obtain ⟨rfl, tail⟩ := List.cons.inj eq
      obtain ⟨ha, hb⟩ := ih tail
      exact ⟨.char ne ha, hb⟩
  | @tag body others isBody rest ih =>
    cases a with
    | nil => exact absurd (List.cons.inj eq).1 noTag
    | cons x a =>
      obtain ⟨rfl, tail⟩ := List.cons.inj eq
      -- The break stands neither in the tag nor at its end, so it comes after it.
      rcases List.append_eq_append_iff.mp tail with ⟨x, rfl, border⟩ | ⟨x, rfl, border⟩
      · cases x with
        | nil => exact absurd (List.cons.inj border).1 noEnd
        | cons y x =>
          obtain ⟨rfl, -⟩ := List.cons.inj border
          rw [isBody.inert c (by simp)] at outside
          cases outside
      · cases x with
        | nil => exact absurd (List.cons.inj border).1.symm noEnd
        | cons y x =>
          obtain ⟨rfl, after⟩ := List.cons.inj border
          obtain ⟨ha, hb⟩ := ih after.symm
          exact ⟨.tag isBody ha, hb⟩

theorem of_line_feed (h : Tidy (a ++ '\n' :: b)) : Tidy a ∧ Tidy b :=
  h.of_append_cons (by decide) (by decide) (by decide)

theorem dropReturn (h : Tidy cs) : Tidy (dropReturn cs) := by
  rw [Text.dropReturn]
  split
  · rename_i last
    obtain ⟨init, rfl⟩ := List.getLast?_eq_some_iff.mp last
    rw [List.dropLast_concat]
    exact (h.of_append_cons (by decide) (by decide) (by decide)).1
  · exact h

theorem spaces (n : Nat) : Tidy (spaces n) :=
  of_forall_ne fun c mem ↦ by
    rw [List.eq_of_mem_replicate mem]
    decide

theorem indentLine (h : Tidy cs) (n : Nat) : Tidy (indentLine n cs) := by
  rw [Text.indentLine]
  split
  · exact .nil
  · exact (spaces n).append h

/-- The lines of a tidy text are tidy, and tidy lines make up a tidy text. -/
theorem intercalate_iff {lines : List (List Char)} :
    Tidy (List.intercalate ['\n'] lines) ↔ ∀ line ∈ lines, Tidy line := by
  induction lines with
  | nil => simp [List.intercalate, Tidy.nil]
  | cons line rest ih =>
    cases rest with
    | nil => simp [List.intercalate]
    | cons next rest =>
      rw [intercalate_cons_cons, List.forall_mem_cons, ← ih]
      exact ⟨fun h ↦ h.of_line_feed, fun h ↦ h.1.append (.char (by decide) h.2)⟩

end Tidy

/-! ### Readers -/

/-- A search that ignores blanks and takes texts that are apart one after the other. -/
structure Reader {β : Type} (find : List Char → List β) : Prop where
  /-- Nothing is found in nothing. -/
  nil : find [] = []
  /-- A blank at the start is ignored. -/
  blank : ∀ c cs, c = ' ' ∨ c = '\n' ∨ c = '\r' → find (c :: cs) = find cs
  /-- What is found in two texts that are apart is what is found in each. -/
  append : ∀ {a b}, Tidy a → Apart a b → find (a ++ b) = find a ++ find b

/-- The pieces of a tidy text between line feeds are tidy. -/
theorem tidy_of_mem_splitBy {cs line : List Char} (h : Tidy cs)
    (mem : line ∈ splitBy (· == '\n') cs) : Tidy line := by
  rw [← intercalate_splitBy '\n' cs, Tidy.intercalate_iff] at h
  exact h line mem

theorem endLines_cons_cons (line next : List Char) (rest : List (List Char)) :
    endLines (line :: next :: rest) = dropReturn line :: endLines (next :: rest) := rfl

theorem tidy_of_mem_endLines {lines : List (List Char)} (h : ∀ line ∈ lines, Tidy line) :
    ∀ line ∈ endLines lines, Tidy line := by
  induction lines with
  | nil => exact h
  | cons line rest ih =>
    obtain ⟨first, others⟩ := List.forall_mem_cons.mp h
    cases rest with
    | nil =>
      rw [endLines]
      split
      · exact fun _ mem ↦ absurd mem List.not_mem_nil
      · exact h
    | cons next rest =>
      rw [endLines_cons_cons]
      exact List.forall_mem_cons.mpr ⟨first.dropReturn, ih others⟩

theorem tidy_indentChars {cs : List Char} (h : Tidy cs) (n : Nat) : Tidy (indentChars n cs) := by
  rw [indentChars, Tidy.intercalate_iff]
  intro line mem
  obtain ⟨inner, hinner, rfl⟩ := List.mem_map.mp mem
  exact (tidy_of_mem_endLines (fun _ ↦ tidy_of_mem_splitBy h) inner hinner).indentLine n

namespace Reader

variable {β : Type} {find : List Char → List β} (reader : Reader find) {cs : List Char}
include reader

theorem blanks (n : Nat) : find (spaces n ++ cs) = find cs := by
  induction n with
  | zero => rfl
  | succ n ih => exact (reader.blank ' ' _ (.inl rfl)).trans ih

theorem spaces (n : Nat) : find (spaces n) = [] := by
  rw [← List.append_nil (Text.spaces n), reader.blanks, reader.nil]

theorem line_feed {a : List Char} (h : Tidy a) : find (a ++ '\n' :: cs) = find a ++ find cs := by
  rw [reader.append h (.of_head (by decide)), reader.blank _ _ (.inr (.inl rfl))]

theorem dropReturn (h : Tidy cs) : find (dropReturn cs) = find cs := by
  rw [Text.dropReturn]
  split
  · rename_i last
    obtain ⟨init, rfl⟩ := List.getLast?_eq_some_iff.mp last
    have tidy := (h.of_append_cons (by decide) (by decide) (by decide)).1
    rw [List.dropLast_concat, reader.append tidy (.of_head (by decide)),
      reader.blank _ _ (.inr (.inr rfl)), reader.nil, List.append_nil]
  · rfl

theorem indentLine (n : Nat) : find (indentLine n cs) = find cs := by
  rw [Text.indentLine]
  split
  · rename_i empty
    rw [List.isEmpty_iff.mp empty]
  · exact reader.blanks n

theorem intercalate {lines : List (List Char)} (h : ∀ line ∈ lines, Tidy line) :
    find (List.intercalate ['\n'] lines) = lines.flatMap find := by
  induction lines with
  | nil => exact reader.nil
  | cons line rest ih =>
    obtain ⟨first, others⟩ := List.forall_mem_cons.mp h
    cases rest with
    | nil => simp [List.intercalate]
    | cons next rest =>
      rw [intercalate_cons_cons, reader.line_feed first, ih others]
      rfl

/-- Of line endings nothing is found. -/
theorem endLines {lines : List (List Char)} (h : ∀ line ∈ lines, Tidy line) :
    (endLines lines).flatMap find = lines.flatMap find := by
  induction lines with
  | nil => rfl
  | cons line rest ih =>
    obtain ⟨first, others⟩ := List.forall_mem_cons.mp h
    cases rest with
    | nil =>
      rw [Text.endLines]
      split
      · rename_i empty
        rw [List.isEmpty_iff.mp empty]
        simp [reader.nil]
      · rfl
    | cons next rest =>
      rw [endLines_cons_cons, List.flatMap_cons, ih others, reader.dropReturn first]
      rfl

/-- **Moving lines to the right hides nothing.** -/
theorem indentChars (h : Tidy cs) (n : Nat) : find (indentChars n cs) = find cs := by
  have pieces : ∀ line ∈ splitBy (· == '\n') cs, Tidy line := fun _ ↦ tidy_of_mem_splitBy h
  have lines : ∀ line ∈ linesOf cs, Tidy line := tidy_of_mem_endLines pieces
  have indented : ∀ line ∈ (linesOf cs).map (Text.indentLine n), Tidy line := by
    intro line mem
    obtain ⟨inner, hinner, rfl⟩ := List.mem_map.mp mem
    exact (lines inner hinner).indentLine n
  have same : (fun line ↦ find (Text.indentLine n line)) = find :=
    funext fun _ ↦ reader.indentLine n
  calc find (Text.indentChars n cs)
      = (linesOf cs).flatMap find := by
        rw [Text.indentChars, reader.intercalate indented, List.flatMap_map, same]
    _ = find (List.intercalate ['\n'] (splitBy (· == '\n') cs)) := by
        rw [linesOf, reader.endLines pieces, reader.intercalate pieces]
    _ = find cs := by rw [intercalate_splitBy]

/-- Of pieces with gaps at their borders nothing is hidden and nothing comes into being. -/
theorem flatten {pieces : List (List Char)} (h : ∀ piece ∈ pieces, Tidy piece)
    (chain : pieces.IsChain Bordered) :
    Tidy pieces.flatten ∧ find pieces.flatten = pieces.flatMap find := by
  induction pieces with
  | nil => exact ⟨.nil, reader.nil⟩
  | cons piece rest ih =>
    obtain ⟨first, others⟩ := List.forall_mem_cons.mp h
    obtain ⟨tidy, found⟩ := ih others chain.tail
    have apart : Apart piece rest.flatten := by
      cases rest with
      | nil => exact .inr fun c hc ↦ by cases hc
      | cons next rest =>
        exact (List.isChain_cons_cons.mp chain).1.apart _
    refine ⟨first.append tidy, ?_⟩
    rw [List.flatten_cons, reader.append first apart, found, List.flatMap_cons]

/-- A text between two tags. -/
theorem between {opening inner closing : List Char} (ho : IsTag opening) (hi : Tidy inner)
    (hc : IsTag closing) : Tidy (opening ++ inner ++ closing) ∧
      find (opening ++ inner ++ closing) = find opening ++ find inner ++ find closing := by
  have apart : Apart opening inner := by
    have last := ho.append_last []
    exact .of_isGap_last last inner
  have apart' : Apart (opening ++ inner) closing := by
    have head := hc.head_append []
    exact .inr fun c hc ↦ by simpa [hc] using head
  have tidy := ho.tidy.append hi
  exact ⟨tidy.append hc.tidy, by rw [reader.append tidy apart', reader.append ho.tidy apart]⟩

end Reader

end Sitewright.Text
