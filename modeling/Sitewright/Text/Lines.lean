/-!
# Lines, pieces and replacements

Operations on text that look at its characters one by one: splitting at a separator, splitting into
lines, indenting a block of lines, and replacing every occurrence of a phrase. All of them are
structural recursions on the list of characters.

A line ends at a line feed. A carriage return directly before the line feed belongs to the line
ending, and the piece after the last line feed counts only if it holds something; so indenting a
block also drops the carriage returns of its inner line endings.
-/

namespace Sitewright.Text

/-- The pieces of a text between the characters that satisfy `p`. There is always one more piece
than there are separators. -/
def splitBy (p : Char → Bool) : List Char → List (List Char)
  | [] => [[]]
  | c :: cs =>
    if p c then [] :: splitBy p cs
    else
      match splitBy p cs with
      | [] => [[c]]
      | piece :: rest => (c :: piece) :: rest

theorem splitBy_ne_nil (p : Char → Bool) (cs : List Char) : splitBy p cs ≠ [] := by
  induction cs with
  | nil => simp [splitBy]
  | cons c cs ih =>
    rw [splitBy]
    split
    · simp
    · split <;> simp

/-- The pieces and the separators between them make up the text. -/
theorem intercalate_splitBy (separator : Char) (cs : List Char) :
    List.intercalate [separator] (splitBy (· == separator) cs) = cs := by
  induction cs with
  | nil => simp [splitBy, List.intercalate]
  | cons c cs ih =>
    rw [splitBy]
    split
    · rename_i h
      have h := eq_of_beq h
      cases e : splitBy (· == separator) cs with
      | nil => exact absurd e (splitBy_ne_nil _ cs)
      | cons piece rest =>
        rw [e] at ih
        simp [List.intercalate, List.intersperse, h] at ih ⊢
        exact ih
    · cases e : splitBy (· == separator) cs with
      | nil => exact absurd e (splitBy_ne_nil _ cs)
      | cons piece rest =>
        rw [e] at ih
        cases rest <;> simp [List.intercalate, List.intersperse] at ih ⊢ <;> exact ih

/-- The pieces of a text around one separator character. -/
def splitOn (separator : Char) (s : String) : List String :=
  (splitBy (· == separator) s.toList).map String.ofList

/-- The pieces of a text between pairs of line feeds. -/
def splitParagraphs : List Char → List (List Char)
  | [] => [[]]
  | '\n' :: '\n' :: cs => [] :: splitParagraphs cs
  | c :: cs =>
    match splitParagraphs cs with
    | [] => [[c]]
    | piece :: rest => (c :: piece) :: rest

/-- A line without the carriage return of its ending. -/
def dropReturn (line : List Char) : List Char :=
  if line.getLast? = some '\r' then line.dropLast else line

/-- The pieces before a line feed, each without the carriage return of its ending, and what follows
the last line feed if it is not empty. -/
def endLines : List (List Char) → List (List Char)
  | [] => []
  | [last] => if last.isEmpty then [] else [last]
  | line :: rest => dropReturn line :: endLines rest

/-- The lines of a text. -/
def linesOf (cs : List Char) : List (List Char) :=
  endLines (splitBy (· == '\n') cs)

/-- A number of spaces. -/
def spaces (n : Nat) : List Char :=
  List.replicate n ' '

/-- A line moved to the right; an empty line stays empty. -/
def indentLine (n : Nat) (line : List Char) : List Char :=
  if line.isEmpty then [] else spaces n ++ line

/-- Every line of a text moved to the right by `n` spaces. -/
def indentChars (n : Nat) (cs : List Char) : List Char :=
  List.intercalate ['\n'] ((linesOf cs).map (indentLine n))

/-- Every line of a text moved to the right by `n` spaces. -/
def indent (n : Nat) (s : String) : String :=
  String.ofList (indentChars n s.toList)

/-- The worker of `replaceChars`: `skip` characters still belong to an occurrence that has been
replaced already. -/
def replaceFrom (phrase replacement : List Char) : Nat → List Char → List Char
  | _, [] => []
  | 0, c :: cs =>
    if phrase.isPrefixOf (c :: cs) then
      replacement ++ replaceFrom phrase replacement (phrase.length - 1) cs
    else c :: replaceFrom phrase replacement 0 cs
  | skip + 1, _ :: cs => replaceFrom phrase replacement skip cs

/-- A text with every occurrence of a non-empty phrase replaced, from left to right and without
overlaps. -/
def replaceChars (phrase replacement cs : List Char) : List Char :=
  replaceFrom phrase replacement 0 cs

/-- A text with every occurrence of a non-empty phrase replaced, from left to right and without
overlaps. -/
def replaceAll (phrase replacement s : String) : String :=
  String.ofList (replaceChars phrase.toList replacement.toList s.toList)

/-- What follows a phrase that a text starts with. -/
def afterPhrase? : List Char → List Char → Option (List Char)
  | [], cs => some cs
  | _ :: _, [] => none
  | p :: ps, c :: cs => if p = c then afterPhrase? ps cs else none

/-- A phrase is followed by what it has to be put before. -/
theorem afterPhrase?_eq_some_iff {phrase cs rest : List Char} :
    afterPhrase? phrase cs = some rest ↔ cs = phrase ++ rest := by
  induction phrase generalizing cs with
  | nil => simp [afterPhrase?]
  | cons p ps ih =>
    cases cs with
    | nil => simp [afterPhrase?]
    | cons c cs =>
      by_cases h : p = c
      · simp [afterPhrase?, h, ih]
      · simp [afterPhrase?, h, Ne.symm h]

/-- Whether a phrase occurs in a text as a run of neighbouring characters. -/
def occursIn (phrase : List Char) : List Char → Bool
  | [] => phrase.isEmpty
  | c :: cs => phrase.isPrefixOf (c :: cs) || occursIn phrase cs

theorem occursIn_iff {phrase cs : List Char} : occursIn phrase cs = true ↔ phrase <:+: cs := by
  induction cs with
  | nil => simp [occursIn, List.isEmpty_iff]
  | cons c cs ih => simp [occursIn, ih, List.infix_cons_iff]

/-- Whether one text occurs in another as a run of neighbouring characters. -/
def contains (s phrase : String) : Bool :=
  occursIn phrase.toList s.toList

/-- Texts joined by a separator. -/
def joinWith (separator : String) (pieces : List String) : String :=
  String.intercalate separator pieces

end Sitewright.Text
