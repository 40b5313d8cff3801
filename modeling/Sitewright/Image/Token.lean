import Sitewright.Markup.Basic

/-!
# Image tokens in a text

The address of a picture is not known while its component is drawn. Until it is, a token stands in
its place: `IMG_` and a number, as the whole value of a source attribute. A text is read as a list
of *pieces*, single characters and source attributes that hold a token, and everything that is done
with tokens is done piece by piece: finding them, and putting addresses in their place. What is not
such an attribute is never touched, because it is a list of characters that stay as they are.

The number is written in decimal digits of any script, and the attribute starts at the border of a
word, so that `data-src` counts and `mysrc` does not.
-/

namespace Sitewright

/-- What every token starts with. -/
def imageTokenHead : List Char := ['I', 'M', 'G', '_']

/-- A piece of a text. -/
inductive Piece where
  /-- A character. -/
  | char (c : Char)
  /-- A source attribute that holds the token with the given digits. -/
  | source (digits : List Char)
  deriving DecidableEq

namespace Piece

/-- How a source attribute starts. -/
def sourceHead : List Char := ['s', 'r', 'c', '=', '"']

/-- A source attribute with a value. -/
def attributeOf (value : List Char) : List Char := sourceHead ++ value ++ ['"']

/-- The characters of a piece. -/
def chars : Piece → List Char
  | char c => [c]
  | source digits => attributeOf (imageTokenHead ++ digits)

/-- The digits of the token in a source attribute that the characters start with. -/
def digitsAt? (cs : List Char) : Option (List Char) :=
  (Text.afterPhrase? (sourceHead ++ imageTokenHead) cs).bind fun rest =>
    let digits := rest.takeWhile Text.isDecimalDigit
    if !digits.isEmpty && (rest.dropWhile Text.isDecimalDigit).head? == some '"' then some digits
    else none

/-- The pieces of a text. The worker of `ofChars`: `skip` characters still belong to an attribute
that has been found already, and `inWord` tells whether a word goes on. -/
def scan (inWord : Bool) : Nat → List Char → List Piece
  | _, [] => []
  | skip + 1, _ :: cs => scan false skip cs
  | 0, c :: cs =>
    match if inWord then none else digitsAt? (c :: cs) with
    | some digits =>
      source digits :: scan false ((chars (source digits)).length - 1) cs
    | none => char c :: scan (Text.isWordChar c) 0 cs

/-- The pieces of a text. -/
def ofChars (cs : List Char) : List Piece := scan false 0 cs

/-- The token in a piece. -/
def token? : Piece → Option String
  | char _ => none
  | source digits => some (String.ofList (imageTokenHead ++ digits))

/-- The characters of a piece with the address of its token in the place of the token, if it has
one. -/
def resolve (address : String → Option String) (piece : Piece) : List Char :=
  match piece.token?.bind address with
  | some url => attributeOf url.toList
  | none => piece.chars

/-! ### Pieces make up the text -/

/-- A source attribute is found only where it stands. -/
theorem eq_of_digitsAt? {cs digits : List Char} (h : digitsAt? cs = some digits) :
    ∃ rest, cs = chars (source digits) ++ rest := by
  obtain ⟨after, hafter, h⟩ := Option.bind_eq_some_iff.mp h
  have split := List.takeWhile_append_dropWhile (p := Text.isDecimalDigit) (l := after)
  simp only [Option.ite_none_right_eq_some, Bool.and_eq_true, beq_iff_eq, Option.some.injEq] at h
  obtain ⟨⟨-, quote⟩, rfl⟩ := h
  obtain ⟨rest, hrest⟩ := List.head?_eq_some_iff.mp quote
  rw [hrest] at split
  refine ⟨rest, ?_⟩
  rw [Text.afterPhrase?_eq_some_iff.mp hafter]
  simpa [chars, attributeOf] using split.symm

theorem flatMap_chars_scan (inWord : Bool) (skip : Nat) (cs : List Char) :
    (scan inWord skip cs).flatMap chars = cs.drop skip := by
  induction cs generalizing inWord skip with
  | nil => cases skip <;> simp [scan]
  | cons c cs ih =>
    cases skip with
    | succ skip => simp [scan, ih]
    | zero =>
      rw [scan]
      split
      · rename_i digits h
        have h : digitsAt? (c :: cs) = some digits := by
          cases inWord <;> simp_all
        obtain ⟨rest, h⟩ := eq_of_digitsAt? h
        have head : chars (source digits) = 's' :: (chars (source digits)).tail := rfl
        rw [head] at h
        obtain ⟨rfl, rfl⟩ := List.cons.inj h
        rw [List.flatMap_cons, ih, head]
        simp
      · simp [ih, chars]

/-- The pieces of a text make up the text. -/
theorem flatMap_chars_ofChars (cs : List Char) : (ofChars cs).flatMap chars = cs :=
  flatMap_chars_scan false 0 cs

end Piece

/-- The tokens in source attributes of a text, each once, in the order in which they first appear.
-/
def tokensIn (s : String) : List String :=
  ((Piece.ofChars s.toList).filterMap Piece.token?).eraseDups

/-- A text with addresses in the place of tokens. -/
def resolveTokens (address : String → Option String) (s : String) : String :=
  String.ofList ((Piece.ofChars s.toList).flatMap (Piece.resolve address))

/-- Without an address nothing changes. -/
theorem resolveTokens_none (s : String) : resolveTokens (fun _ => none) s = s := by
  have h : Piece.resolve (fun _ => none) = Piece.chars := by
    funext piece
    simp [Piece.resolve]
  simp [resolveTokens, h, Piece.flatMap_chars_ofChars]

end Sitewright
