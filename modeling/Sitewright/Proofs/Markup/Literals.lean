import Sitewright.Json.Reader
import Sitewright.Markup.Escape

/-!
# Reading string literals back

A text is written into a script as a literal between double quotes, and a script reads a literal by
rules of its own, which are spelled out here: what may not stand in a literal as it is, what each
escape stands for, and where the literal ends. Scripts hold texts as code units of 16 bits, and so
does a literal: a character beyond the first plane stands for two units, and so may two escapes.

Reading goes through a literal character by character, and what a character means depends on the
characters before it (`Literal.Place`). Escapes are only ever begun by a backslash and each of them
is complete, so what is written of one character leads from between two characters to between two
characters and yields the units of the character (`Literal.pass_literalChar`). That is the step; a
whole literal follows by induction on the text, and what comes after the literal is left alone
(`stringLiteral_denotes`).
-/

namespace Sitewright

/-! ### Code units -/

namespace Text

/-- The code units of 16 bits that a code point is written with. -/
def unitsOf (n : Nat) : List Nat :=
  if n < 0x10000 then [n] else [0xD800 + (n - 0x10000) / 0x400, 0xDC00 + (n - 0x10000) % 0x400]

/-- The text that is written with code units, after the first half of a pair if there is one. Half
of a pair alone stands for nothing. -/
def ofUnits? : Option Nat → List Nat → Option (List Char)
  | none, [] => some []
  | some _, [] => none
  | none, u :: units =>
    if 0xD800 ≤ u ∧ u < 0xDC00 then ofUnits? (some u) units
    else if 0xDC00 ≤ u ∧ u < 0xE000 then none
    else (ofUnits? none units).map (Char.ofNat u :: ·)
  | some first, u :: units =>
    if 0xDC00 ≤ u ∧ u < 0xE000 then
      (ofUnits? none units).map
        (Char.ofNat (0x10000 + (first - 0xD800) * 0x400 + (u - 0xDC00)) :: ·)
    else none

theorem ofUnits?_unitsOf_append (c : Char) (units : List Nat) :
    ofUnits? none (unitsOf c.toNat ++ units) = (ofUnits? none units).map (c :: ·) := by
  have valid : c.toNat < 0xD800 ∨ 0xDFFF < c.toNat ∧ c.toNat < 0x110000 := c.valid
  rw [unitsOf]
  split
  · have high : ¬ (0xD800 ≤ c.toNat ∧ c.toNat < 0xDC00) := by omega
    have low : ¬ (0xDC00 ≤ c.toNat ∧ c.toNat < 0xE000) := by omega
    rw [List.singleton_append, ofUnits?, if_neg high, if_neg low, Char.ofNat_toNat]
  · -- The two halves of a pair hold the upper and the lower part of what is beyond the first plane.
    obtain ⟨n, eq⟩ : ∃ n, c.toNat = 0x10000 + n := ⟨c.toNat - 0x10000, by omega⟩
    have rest : c.toNat - 0x10000 = n := by omega
    have high : 0xD800 ≤ 0xD800 + n / 0x400 ∧ 0xD800 + n / 0x400 < 0xDC00 := by omega
    have low : 0xDC00 ≤ 0xDC00 + n % 0x400 ∧ 0xDC00 + n % 0x400 < 0xE000 := by omega
    have back : 0x10000 + (0xD800 + n / 0x400 - 0xD800) * 0x400 + (0xDC00 + n % 0x400 - 0xDC00) =
        c.toNat := by omega
    rw [rest, List.cons_append, List.singleton_append, ofUnits?, if_pos high, ofUnits?,
      if_pos low, back, Char.ofNat_toNat]

/-- A text is what its code units stand for. -/
theorem ofUnits?_flatMap (cs : List Char) :
    ofUnits? none (cs.flatMap fun c ↦ unitsOf c.toNat) = some cs := by
  induction cs with
  | nil => rfl
  | cons c cs ih => rw [List.flatMap_cons, ofUnits?_unitsOf_append, ih, Option.map_some]

/-- Whether a character ends a line. -/
def isLineEnd (c : Char) : Bool :=
  c == '\n' || c == '\r' || c.toNat == 0x2028 || c.toNat == 0x2029

end Text

/-! ### Literals -/

namespace Literal

/-- Where one is in a literal. -/
inductive Place where
  /-- Between two characters. -/
  | plain
  /-- After a backslash. -/
  | escaped
  /-- After an escaped zero, which no digit may follow. -/
  | zero
  /-- After an escaped carriage return, to which a line feed belongs. -/
  | returned
  /-- After the letter of a code, before its digits. -/
  | code
  /-- In a code of which so many digits are missing, after digits that make up a number. -/
  | digits (missing number : Nat)
  /-- In a code between braces, after digits that make up a number, if there was one. -/
  | braced (number : Option Nat)

namespace Place

/-- Whether a quote ends the literal here. -/
def isBetween : Place → Bool
  | plain | zero | returned => true
  | _ => false

/-- A character that is not part of an escape. Lines may not end in a literal. -/
def next (c : Char) : Option (Place × List Nat) :=
  if c = '\\' then some (escaped, [])
  else if Text.isLineEnd c then none
  else some (plain, Text.unitsOf c.toNat)

/-- A character after a backslash. An escaped end of a line stands for nothing, and a character
without a meaning of its own for itself. -/
def escape (c : Char) : Option (Place × List Nat) :=
  match c with
  | 'b' => some (plain, [8])
  | 't' => some (plain, [9])
  | 'n' => some (plain, [10])
  | 'v' => some (plain, [11])
  | 'f' => some (plain, [12])
  | 'r' => some (plain, [13])
  | '0' => some (zero, [0])
  | 'x' => some (digits 2 0, [])
  | 'u' => some (code, [])
  | '\r' => some (returned, [])
  | c =>
    if c.isDigit then none
    else if Text.isLineEnd c then some (plain, [])
    else some (plain, Text.unitsOf c.toNat)

/-- One more digit of a code. -/
def digit (missing number : Nat) (c : Char) : Option (Place × List Nat) :=
  (Document.hexValue? c).map fun value ↦
    let number := number * 16 + value
    if missing ≤ 1 then (plain, [number]) else (digits (missing - 1) number, [])

/-- A character between the braces of a code. -/
def inBraces (number : Option Nat) (c : Char) : Option (Place × List Nat) :=
  if c = '\x7d' then (number.filter (· < 0x110000)).map fun n ↦ (plain, Text.unitsOf n)
  else (Document.hexValue? c).map fun value ↦ (braced (some (number.getD 0 * 16 + value)), [])

/-- Where a character leads, and the code units that it completes. -/
def step (place : Place) (c : Char) : Option (Place × List Nat) :=
  match place with
  | plain => next c
  | escaped => escape c
  | zero => if c.isDigit then none else next c
  | returned => if c = '\n' then some (plain, []) else next c
  | code => if c = '\x7b' then some (braced none, []) else digit 4 0 c
  | digits missing number => digit missing number c
  | braced number => inBraces number c

end Place

/-- Reads a literal up to the quote that ends it: its code units, and what follows the quote. -/
def read : Place → List Char → Option (List Nat × List Char)
  | _, [] => none
  | place, c :: cs =>
    if c = '"' ∧ place.isBetween = true then some ([], cs)
    else (place.step c).bind fun move ↦ (read move.1 cs).map (.map (move.2 ++ ·) id)

/-- The text of the literal that a script starts with, and what follows the literal. -/
def text? : List Char → Option (String × List Char)
  | '"' :: cs => (read .plain cs).bind fun found ↦
    (Text.ofUnits? none found.1).map fun text ↦ (String.ofList text, found.2)
  | _ => none

/-- A script knows more escapes than are ever written. -/
example : text? "\"\\x41\\u\x7b1F600\x7d\\ud83d\\ude00\\q\";".toList =
    some ("A😀😀q", [';']) := by decide +kernel

/-- Goes through characters that do not end a literal: where they lead, and their code units. -/
def pass : Place → List Char → Option (Place × List Nat)
  | place, [] => some (place, [])
  | place, c :: cs =>
    if c = '"' ∧ place.isBetween = true then none
    else (place.step c).bind fun move ↦ (pass move.1 cs).map (.map id (move.2 ++ ·))

/-- What has been gone through is read. -/
theorem read_append {place last : Place} {units : List Nat} {cs : List Char}
    (h : pass place cs = some (last, units)) (rest : List Char) :
    read place (cs ++ rest) = (read last rest).map (.map (units ++ ·) id) := by
  induction cs generalizing place units with
  | nil =>
    obtain ⟨rfl, rfl⟩ := Prod.mk.inj (Option.some.inj h)
    exact (Option.map_id' ..).symm
  | cons c cs ih =>
    rw [pass] at h
    split at h
    · cases h
    · rename_i inside
      obtain ⟨move, hmove, h⟩ := Option.bind_eq_some_iff.mp h
      obtain ⟨⟨_, others⟩, hpass, h⟩ := Option.map_eq_some_iff.mp h
      obtain ⟨rfl, rfl⟩ := Prod.mk.inj h
      rw [List.cons_append, read, if_neg inside, hmove, Option.bind_some, ih hpass, Option.map_map]
      exact congrArg (Option.map · _) (funext fun _ ↦ Prod.ext (List.append_assoc ..).symm rfl)

/-! ### What is written of one character -/

theorem digit_hexDigit {d : Nat} (h : d < 16) (missing number : Nat) :
    Place.digit missing number (Text.hexDigit d) = some (
      if missing ≤ 1 then (.plain, [number * 16 + d])
      else (.digits (missing - 1) (number * 16 + d), [])) := by
  have values : ∀ d < 16, Document.hexValue? (Text.hexDigit d) = some d := by decide
  rw [Place.digit, values d h]
  rfl

/-- What is written by its code stands for the code unit with that number. -/
theorem pass_code {n : Nat} (h : n < 0x10000) :
    pass .plain (['\\', 'u'] ++ Text.hexFixed 4 n) = some (.plain, [n]) := by
  have digits : Text.hexFixed 4 n = [Text.hexDigit (n / 16 / 16 / 16 % 16),
      Text.hexDigit (n / 16 / 16 % 16), Text.hexDigit (n / 16 % 16), Text.hexDigit (n % 16)] := rfl
  have noBrace : ∀ d < 16, Text.hexDigit d ≠ '\x7b' := by decide
  have number : (((n / 16 / 16 / 16 % 16) * 16 + n / 16 / 16 % 16) * 16 + n / 16 % 16) * 16 +
      n % 16 = n := by omega
  have below (d : Nat) : d % 16 < 16 := Nat.mod_lt d (by decide)
  simp [pass, Place.step, Place.next, Place.escape, Place.isBetween, digits, below,
    noBrace _ (below _), digit_hexDigit, number]

/-- Characters that are written by their codes: controls and the ends of lines. -/
theorem coded_iff {c : Char} :
    (c.toNat == 0x2028 || c.toNat == 0x2029 || Text.isControl c) = true ↔
      Text.isLineEnd c = true ∨ Text.isControl c = true := by
  have feed : Text.isControl '\n' = true := rfl
  have ret : Text.isControl '\r' = true := rfl
  simp only [Text.isLineEnd, Bool.or_eq_true, beq_iff_eq]
  constructor
  · rintro ((eq | eq) | control)
    · exact .inl (.inl (.inr eq))
    · exact .inl (.inr eq)
    · exact .inr control
  · rintro ((((rfl | rfl) | eq) | eq) | control)
    · exact .inr feed
    · exact .inr ret
    · exact .inl (.inl eq)
    · exact .inl (.inr eq)
    · exact .inr control

theorem toNat_lt_of_coded {c : Char}
    (h : (c.toNat == 0x2028 || c.toNat == 0x2029 || Text.isControl c) = true) :
    c.toNat < 0x10000 := by
  simp only [Text.isControl, Bool.or_eq_true, beq_iff_eq, Bool.and_eq_true, decide_eq_true_eq] at h
  omega

/-- What is written of a character is gone through as a whole and stands for the character. -/
theorem pass_literalChar (c : Char) :
    pass .plain (Markup.literalChar c) = some (.plain, Text.unitsOf c.toNat) := by
  unfold Markup.literalChar
  split
  case h_7 quote backslash _ _ _ _ =>
    split
    · rename_i coded
      have first := toNat_lt_of_coded coded
      rw [pass_code first, Text.unitsOf, if_pos first]
    · rename_i kept
      have line : Text.isLineEnd c = false :=
        Bool.eq_false_iff.mpr fun ends ↦ kept (coded_iff.mpr (.inl ends))
      have noQuote : c ≠ '"' := quote
      have noBackslash : c ≠ '\\' := backslash
      simp [pass, Place.step, Place.next, noQuote, noBackslash, line]
  all_goals rfl

/-- What may stand in a literal as it is written: no end of a line, no control and no bracket. -/
def isBare (c : Char) : Bool := !Text.isLineEnd c && !Text.isControl c && c != '<'

theorem isBare_hexFixed (width n : Nat) : (Text.hexFixed width n).all isBare = true := by
  have digits : ∀ d < 16, isBare (Text.hexDigit d) = true := by decide
  induction width generalizing n with
  | zero => rfl
  | succ width ih =>
    rw [Text.hexFixed, List.all_append, ih, List.all_cons, digits _ (Nat.mod_lt n (by decide))]
    rfl

theorem isBare_literalChar (c : Char) : (Markup.literalChar c).all isBare = true := by
  unfold Markup.literalChar
  split
  case h_7 _ _ _ _ _ bracket =>
    split
    · rw [List.all_append, isBare_hexFixed]
      rfl
    · rename_i kept
      rw [coded_iff, not_or, Bool.not_eq_true, Bool.not_eq_true] at kept
      have noBracket : c ≠ '<' := bracket
      simp [isBare, kept, noBracket]
  all_goals rfl

end Literal

namespace Markup

open Literal

/-- What stands between the quotes of a literal is read up to the quote after it. -/
theorem read_flatMap_literalChar (cs rest : List Char) :
    read .plain (cs.flatMap literalChar ++ '"' :: rest) =
      some (cs.flatMap fun c ↦ Text.unitsOf c.toNat, rest) := by
  induction cs with
  | nil => rfl
  | cons c cs ih =>
    rw [List.flatMap_cons, List.append_assoc, read_append (pass_literalChar c), ih,
      Option.map_some]
    rfl

/-- **A literal denotes its text.** Between its quotes there are no ends of lines, no controls and
no brackets. A script that starts with the literal reads it up to its last quote and no further,
whatever comes after it, and what it reads is the text. -/
theorem stringLiteral_denotes (s : String) :
    (∃ body, (stringLiteral s).toList = '"' :: (body ++ ['"']) ∧
      ∀ c ∈ body, Text.isLineEnd c = false ∧ Text.isControl c = false ∧ c ≠ '<') ∧
    ∀ rest, text? ((stringLiteral s).toList ++ rest) = some (s, rest) := by
  have written : (stringLiteral s).toList = '"' :: (s.toList.flatMap literalChar ++ ['"']) := by
    rw [stringLiteral, String.toList_ofList, List.cons_append]
  refine ⟨⟨_, written, fun c mem ↦ ?_⟩, fun rest ↦ ?_⟩
  · obtain ⟨d, -, mem⟩ := List.mem_flatMap.mp mem
    have bare := List.all_eq_true.mp (isBare_literalChar d) c mem
    simpa [isBare, and_assoc] using bare
  · rw [written, List.cons_append, List.append_assoc, List.singleton_append, text?,
      read_flatMap_literalChar, Option.bind_some, Text.ofUnits?_flatMap, Option.map_some,
      String.ofList_toList]

end Markup

end Sitewright
