import Sitewright.Text.Class
import Sitewright.Text.Lines
import Sitewright.Text.Quoted

/-!
# Escaping

The text of a configuration ends up in three places of a generated component: between tags, inside a
double-quoted attribute, and inside a string literal. Each place has its own escaping, and each is
done character by character, so what a text can contribute to its surroundings is decided by what
one character can.

A link is attribute text with one more rule: a target whose scheme would run a script is replaced by
the empty anchor.
-/

namespace Sitewright.Markup

/-! ### Text between tags -/

/-- One character between tags. Angle brackets would open a tag and braces an expression. -/
def textChar (c : Char) : List Char :=
  match c with
  | '&' => ['&', 'a', 'm', 'p', ';']
  | '<' => ['&', 'l', 't', ';']
  | '>' => ['&', 'g', 't', ';']
  | '\x7b' => ['&', '#', '1', '2', '3', ';']
  | '\x7d' => ['&', '#', '1', '2', '5', ';']
  | c => [c]

/-- A text between tags. -/
def escapeText (s : String) : String := String.ofList (s.toList.flatMap textChar)

/-- No escaped text holds a character that would open a tag or an expression. -/
theorem ne_of_mem_textChar {c d : Char} (h : d ∈ textChar c) :
    d ≠ '<' ∧ d ≠ '>' ∧ d ≠ '\x7b' ∧ d ≠ '\x7d' := by
  unfold textChar at h
  split at h <;> simp at h
  · rcases h with rfl | rfl | rfl | rfl | rfl <;> decide
  · rcases h with rfl | rfl | rfl | rfl <;> decide
  · rcases h with rfl | rfl | rfl | rfl <;> decide
  · rcases h with rfl | rfl | rfl | rfl | rfl | rfl <;> decide
  · rcases h with rfl | rfl | rfl | rfl | rfl | rfl <;> decide
  · subst h; exact ⟨by assumption, by assumption, by assumption, by assumption⟩

/-! ### Attributes -/

/-- One character inside a double-quoted attribute. Line breaks and tabs become spaces. -/
def attributeChar (c : Char) : List Char :=
  match c with
  | '&' => ['&', 'a', 'm', 'p', ';']
  | '"' => ['&', 'q', 'u', 'o', 't', ';']
  | '<' => ['&', 'l', 't', ';']
  | '>' => ['&', 'g', 't', ';']
  | '\n' => [' ']
  | '\r' => [' ']
  | '\t' => [' ']
  | c => [c]

/-- The characters of an attribute value. -/
def attributeChars (cs : List Char) : List Char := cs.flatMap attributeChar

/-- A text inside a double-quoted attribute. -/
def escapeAttribute (s : String) : String := String.ofList (attributeChars s.toList)

/-- No attribute value holds a character that would end it or the tag. -/
theorem ne_of_mem_attributeChar {c d : Char} (h : d ∈ attributeChar c) :
    d ≠ '"' ∧ d ≠ '<' ∧ d ≠ '>' := by
  unfold attributeChar at h
  split at h <;> simp at h
  · rcases h with rfl | rfl | rfl | rfl | rfl <;> decide
  · rcases h with rfl | rfl | rfl | rfl | rfl | rfl <;> decide
  · rcases h with rfl | rfl | rfl | rfl <;> decide
  · rcases h with rfl | rfl | rfl | rfl <;> decide
  · subst h; decide
  · subst h; decide
  · subst h; decide
  · subst h; exact ⟨by assumption, by assumption, by assumption⟩

/-- The characters that those of an attribute value stand for. The ampersand comes last, so that an
escaped entity is not taken for an entity. -/
def unescapeChars (cs : List Char) : List Char :=
  let cs := Text.replaceChars ['&', 'q', 'u', 'o', 't', ';'] ['"'] cs
  let cs := Text.replaceChars ['&', '#', '3', '9', ';'] ['\''] cs
  let cs := Text.replaceChars ['&', 'l', 't', ';'] ['<'] cs
  let cs := Text.replaceChars ['&', 'g', 't', ';'] ['>'] cs
  Text.replaceChars ['&', 'a', 'm', 'p', ';'] ['&'] cs

/-- The text that an attribute value stands for. -/
def unescapeAttribute (s : String) : String := String.ofList (unescapeChars s.toList)

/-! ### String literals -/

/-- One character inside a double-quoted string literal. The angle bracket is escaped too, so that
no literal can close the script element it is embedded in. -/
def literalChar (c : Char) : List Char :=
  match c with
  | '"' => ['\\', '"']
  | '\\' => ['\\', '\\']
  | '\n' => ['\\', 'n']
  | '\r' => ['\\', 'r']
  | '\t' => ['\\', 't']
  | '<' => ['\\', 'u', '0', '0', '3', 'c']
  | c =>
    if c.toNat == 0x2028 || c.toNat == 0x2029 || Text.isControl c then
      ['\\', 'u'] ++ Text.hexFixed 4 c.toNat
    else [c]

/-- A string literal, with its quotes. -/
def stringLiteral (s : String) : String :=
  String.ofList ('"' :: s.toList.flatMap literalChar ++ ['"'])

/-! ### Links -/

/-- The schemes that no link may have. -/
def blockedSchemes : List (List Char) :=
  ["javascript".toList, "vbscript".toList, "data".toList]

/-- What stands before the first colon of a link, without white space and controls and in lower
case. -/
def schemeChars (cs : List Char) : List Char :=
  ((cs.takeWhile (· != ':')).filter fun c => !Text.isSpace c && !Text.isControl c).map Char.toLower

/-- Whether a link has a scheme that no link may have. -/
def isBlocked (cs : List Char) : Bool :=
  cs.contains ':' && blockedSchemes.contains (schemeChars cs)

/-- The target of a link inside a double-quoted attribute. -/
def linkChars (cs : List Char) : List Char :=
  let target := Text.trimChars cs
  if target.isEmpty || isBlocked target then ['#'] else attributeChars target

/-- The target of a link inside a double-quoted attribute. -/
def link (s : String) : String := String.ofList (linkChars s.toList)

end Sitewright.Markup
