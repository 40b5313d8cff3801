/-!
# Positions in a YAML text

A YAML text is read by its layout: which line a token stands on, and in which column. A cursor keeps
these beside the rest of the text. Line ends are told apart no more than the format does: a text is
normalized first, after which a line feed stands for every line end but the two separators of
Unicode, which keep their own character.
-/

namespace Sitewright.Yaml

/-! ### Characters -/

/-- Characters that may stand in a text. -/
def isAllowed (c : Char) : Bool :=
  let n := c.toNat
  n == 9 || n == 10 || n == 13 || (32 ≤ n && n < 127) || n == 0x85 ||
    (0xA0 ≤ n && n != 0xFFFE && n != 0xFFFF)

/-- The text with a line feed for every carriage return, with or without a line feed after it, and
for every next-line character. -/
def normalize : List Char → List Char
  | [] => []
  | '\r' :: '\n' :: cs => '\n' :: normalize cs
  | c :: cs => (if c == '\r' || c.toNat == 0x85 then '\n' else c) :: normalize cs

/-- Line ends of a normalized text. -/
def isBreak (c : Char) : Bool := c == '\n' || c.toNat == 0x2028 || c.toNat == 0x2029

/-- Blanks within a line. -/
def isBlank (c : Char) : Bool := c == ' ' || c == '\t'

/-- The mark that tells in which order the bytes of a text stand. -/
def isByteOrderMark (c : Char) : Bool := c.toNat == 0xFEFF

/-- Characters of a name. -/
def isNameChar (c : Char) : Bool := c.isAlphanum || c == '_' || c == '-'

/-- Characters that are marks within brackets. -/
def isBracketMark (c : Char) : Bool := [',', '[', ']', '\x7b', '\x7d'].contains c

/-- Whether a mark that `cs` follows stands alone: a blank, a line end or the end of the text
follows. -/
def standsAlone : List Char → Bool
  | [] => true
  | c :: _ => isBlank c || isBreak c

/-! ### Cursors -/

/-- A position in a text. -/
structure Cursor where
  /-- The text from there on. -/
  rest : List Char
  /-- The number of its line. -/
  line : Nat
  /-- The number of characters before it in its line. -/
  column : Nat

namespace Cursor

/-- The start of a text. -/
def start (cs : List Char) : Cursor := ⟨cs, 0, 0⟩

/-- The position after `count` characters of the same line, within that line. -/
def advance (count : Nat) (cursor : Cursor) : Cursor :=
  { cursor with rest := cursor.rest.drop count, column := cursor.column + count }

/-- Whether a character before a token is passed over. A tab is, unless a key may start there, and
so is a mark of the byte order at the start of a line. -/
def isPassedOver (inBrackets keysAllowed : Bool) (column : Nat) (c : Char) : Bool :=
  c == ' ' || (c == '\t' && (inBrackets || !keysAllowed)) || (column == 0 && isByteOrderMark c)

/-- The position of the next token, and whether a key may start there: blanks, line ends and
comments are passed over, and outside brackets a key may start in every line. -/
def skipFrom (inBrackets : Bool) : Bool → Bool → Nat → Nat → List Char → Cursor × Bool
  | _, keysAllowed, line, column, [] => (⟨[], line, column⟩, keysAllowed)
  | inComment, keysAllowed, line, column, c :: cs =>
    if isBreak c then skipFrom inBrackets false (keysAllowed || !inBrackets) (line + 1) 0 cs
    else if inComment || isPassedOver inBrackets keysAllowed column c then
      skipFrom inBrackets inComment keysAllowed line (column + 1) cs
    else if c == '#' then skipFrom inBrackets true keysAllowed line (column + 1) cs
    else (⟨c :: cs, line, column⟩, keysAllowed)

/-- The position of the next token, and whether a key may start there. -/
def skip (inBrackets keysAllowed : Bool) (cursor : Cursor) : Cursor × Bool :=
  skipFrom inBrackets false keysAllowed cursor.line cursor.column cursor.rest

/-- Whether three marks that separate documents stand at the start of a line. -/
def isSeparator (column : Nat) (cs : List Char) : Bool :=
  column == 0 &&
    match cs with
    | a :: b :: c :: rest => a == b && b == c && (a == '-' || a == '.') && standsAlone rest
    | _ => false

end Cursor

end Sitewright.Yaml
