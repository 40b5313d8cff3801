import Sitewright.Json.Document
import Sitewright.Json.Numeral

/-!
# Reading JSON text

The document of a JSON text. Reading never fails: a text that breaks the format yields a document
with a stop at the break. White space may stand around every value and mark; containers nested more
than 127 deep have no value, though they can be passed over.

The reader goes through the text once. Its recursion is on a bound that starts at the length of the
text, and every step that needs it takes at least one character, so the bound is never reached.
-/

namespace Sitewright.Document

/-- The deepest nesting of lists and maps that has a value. -/
def nestingLimit : Nat := 127

/-- White space of the format. -/
def isJsonSpace (c : Char) : Bool :=
  c == ' ' || c == '\n' || c == '\t' || c == '\r'

/-- The text without the white space it starts with. -/
def skipSpace (cs : List Char) : List Char :=
  cs.dropWhile isJsonSpace

/-- A value read from the front of a text: the value, and the rest of the text unless reading has to
stop altogether. -/
structure Front (α : Type) where
  /-- What was read. -/
  value : α
  /-- The text after it. -/
  rest : Option (List Char)

/-- The end of reading at a break. -/
def Front.halt (b : Break) : Front Document := ⟨stop (.hard b), none⟩

/-! ### Texts -/

/-- The value of a hexadecimal digit. -/
def hexValue? (c : Char) : Option Nat :=
  if c.isDigit then some (c.toNat - 48)
  else if 'a' ≤ c && c ≤ 'f' then some (c.toNat - 87)
  else if 'A' ≤ c && c ≤ 'F' then some (c.toNat - 55)
  else none

/-- The value of four hexadecimal digits. -/
def hexFour? (a b c d : Char) : Option Nat := do
  let w ← hexValue? a
  let x ← hexValue? b
  let y ← hexValue? c
  let z ← hexValue? d
  return ((w * 16 + x) * 16 + y) * 16 + z

/-- Whether a text takes at least four bytes. -/
def hasFourBytes (cs : List Char) : Bool := 4 ≤ (String.ofList (cs.take 4)).utf8ByteSize

/-- Reads four hexadecimal digits. In their place, four bytes of something else break the format. -/
def readHexFour (cs : List Char) : Except Break (Nat × List Char) :=
  let missing : Break := if hasFourBytes cs then .malformed else .truncated
  match cs with
  | a :: b :: c :: d :: rest =>
    match hexFour? a b c d with
    | some n => .ok (n, rest)
    | none => .error missing
  | _ => .error missing

/-- What reading the characters of a text, up to its closing quote, comes to. -/
inductive TextFront where
  /-- The text is closed; a fault says that it has no value. -/
  | closed (s : List Char) (fault : Option Break) (rest : List Char)
  /-- The text cannot be passed. -/
  | broken (s : Stop)

/-- The second half of a surrogate pair, if the text continues with one. -/
def lowSurrogate? : List Char → Except Break (Nat × List Char)
  | '\\' :: 'u' :: rest => do
    let (n, rest) ← readHexFour rest
    if 0xDC00 ≤ n && n ≤ 0xDFFF then return (n, rest) else throw .malformed
  | [] => .error .truncated
  | ['\\'] => .error .truncated
  | _ => .error .malformed

/-- The character a one-letter escape stands for. -/
def escapedChar? (c : Char) : Option Char :=
  match c with
  | '"' => some '"'
  | '\\' => some '\\'
  | '/' => some '/'
  | 'b' => some (Char.ofNat 8)
  | 'f' => some (Char.ofNat 12)
  | 'n' => some '\n'
  | 'r' => some '\r'
  | 't' => some '\t'
  | _ => none

/-- Reads the characters of a text up to its closing quote; `seen` holds those already read, the
last one first, and `fault` the first reason why they have no value. -/
def readChars : Nat → List Char → Option Break → List Char → TextFront
  | 0, _, fault, _ => .broken (.text (fault.getD .truncated) (some .truncated))
  | bound + 1, seen, fault, cs =>
    let broken (b : Break) : TextFront := .broken (.text (fault.getD b) (some b))
    match cs with
    | [] => broken .truncated
    | '"' :: rest => .closed seen.reverse fault rest
    | '\\' :: 'u' :: rest =>
      match readHexFour rest with
      | .error b => broken b
      | .ok (n, rest) =>
        if 0xDC00 ≤ n && n ≤ 0xDFFF then
          readChars bound seen (fault.or (some .malformed)) rest
        else if 0xD800 ≤ n && n ≤ 0xDBFF then
          match lowSurrogate? rest with
          | .ok (low, rest) =>
            let c := Char.ofNat (0x10000 + (n - 0xD800) * 0x400 + (low - 0xDC00))
            readChars bound (c :: seen) fault rest
          | .error b => readChars bound seen (fault.or (some b)) rest
        else readChars bound (Char.ofNat n :: seen) fault rest
    | ['\\'] => broken .truncated
    | '\\' :: c :: rest =>
      match escapedChar? c with
      | some c => readChars bound (c :: seen) fault rest
      | none => broken .malformed
    | c :: rest =>
      if c.toNat < 32 then broken .malformed else readChars bound (c :: seen) fault rest

/-- Reads a text after its opening quote. -/
def readText (cs : List Char) : TextFront :=
  readChars (cs.length + 1) [] none cs

/-! ### Numbers and words -/

/-- The digit values a text starts with, and the rest. -/
def takeDigits (cs : List Char) : List Nat × List Char :=
  ((cs.takeWhile Char.isDigit).map fun c => c.toNat - 48, cs.dropWhile Char.isDigit)

/-- Where digits are needed but the text continues otherwise. -/
def digitsMissing : List Char → Break
  | [] => .truncated
  | _ => .malformed

/-- Reads an exponent mark and its digits, if they follow. -/
def readExponent (cs : List Char) : Except Break (Option (Bool × List Nat) × List Char) :=
  match cs with
  | c :: rest =>
    if c == 'e' || c == 'E' then
      let (negative, rest) :=
        match rest with
        | '+' :: rest => (false, rest)
        | '-' :: rest => (true, rest)
        | rest => (false, rest)
      match takeDigits rest with
      | ([], rest) => .error (digitsMissing rest)
      | (digits, rest) => .ok (some (negative, digits), rest)
    else .ok (none, cs)
  | [] => .ok (none, cs)

/-- Reads a point and its digits, if they follow. -/
def readFraction (cs : List Char) : Except Break (Option (List Nat) × List Char) :=
  match cs with
  | '.' :: rest =>
    match takeDigits rest with
    | ([], rest) => .error (digitsMissing rest)
    | (digits, rest) => .ok (some digits, rest)
  | _ => .ok (none, cs)

/-- Reads the parts of a number after its sign. -/
def readNumeral (negative : Bool) (cs : List Char) : Except Break (Numeral × List Char) :=
  match takeDigits cs with
  | ([], rest) => .error (digitsMissing rest)
  | (0 :: _ :: _, _) => .error .malformed
  | (whole, rest) => do
    let (fraction, rest) ← readFraction rest
    let (exponent, rest) ← readExponent rest
    return (⟨negative, whole, fraction, exponent⟩, rest)

/-- Reads a number after its sign. -/
def readNumber (negative : Bool) (cs : List Char) : Front Document :=
  match readNumeral negative cs with
  | .error b => ⟨stop (.number b), none⟩
  | .ok (n, rest) =>
    match n.value with
    | some v => ⟨num v, some rest⟩
    | none => ⟨stop .valueless, some rest⟩

/-- Reads the rest of a word that stands for `value`. -/
def readWord (value : Document) : List Char → List Char → Front Document
  | [], rest => ⟨value, some rest⟩
  | _ :: _, [] => ⟨stop (.word .truncated), none⟩
  | w :: word, c :: rest =>
    if w == c then readWord value word rest else ⟨stop (.word .malformed), none⟩

/-! ### Values -/

/-- A list or map at a depth: beyond the limit it has no value, but is passed over as it is. -/
def atDepth (depth : Nat) (front : Front Document) : Front Document :=
  if depth < nestingLimit then front
  else ⟨stop (.text .malformed front.value.skipBreak), front.rest⟩

mutual

/-- Reads a value below `depth` containers. -/
def readValue : Nat → Nat → List Char → Front Document
  | 0, _, _ => .halt .truncated
  | bound + 1, depth, cs =>
    match skipSpace cs with
    | [] => .halt .truncated
    | 'n' :: rest => readWord null ['u', 'l', 'l'] rest
    | 't' :: rest => readWord (bool true) ['r', 'u', 'e'] rest
    | 'f' :: rest => readWord (bool false) ['a', 'l', 's', 'e'] rest
    | '-' :: rest => readNumber true rest
    | '"' :: rest =>
      match readText rest with
      | .closed s none rest => ⟨str (String.ofList s), some rest⟩
      | .closed _ (some b) rest => ⟨stop (.text b none), some rest⟩
      | .broken s => ⟨stop s, none⟩
    | '[' :: rest => atDepth depth (readList bound (depth + 1) rest)
    | '\x7b' :: rest => atDepth depth (readMap bound (depth + 1) rest)
    | c :: rest => if c.isDigit then readNumber false (c :: rest) else .halt .malformed

/-- Reads the items of a list after its opening bracket. -/
def readList : Nat → Nat → List Char → Front Document
  | 0, _, _ => .halt .truncated
  | bound + 1, depth, cs =>
    match skipSpace cs with
    | [] => ⟨list [] (some (.hard .truncated)), none⟩
    | ']' :: rest => ⟨list [] none, some rest⟩
    | rest =>
      let items := readItems bound depth rest
      ⟨list items.value.1 items.value.2, items.rest⟩

/-- Reads an item, and the items after it, up to the closing bracket. -/
def readItems : Nat → Nat → List Char → Front (List Document × Option Stop)
  | 0, _, _ => ⟨([], some (.hard .truncated)), none⟩
  | bound + 1, depth, cs =>
    let item := readValue bound depth cs
    match item.rest with
    | none => ⟨([item.value], none), none⟩
    | some rest =>
      match skipSpace rest with
      | ']' :: rest => ⟨([item.value], none), some rest⟩
      | ',' :: rest =>
        match skipSpace rest with
        | ']' :: _ => ⟨([item.value], some (.hard .malformed)), none⟩
        | rest =>
          let items := readItems bound depth rest
          ⟨(item.value :: items.value.1, items.value.2), items.rest⟩
      | [] => ⟨([item.value], some (.hard .truncated)), none⟩
      | _ => ⟨([item.value], some (.hard .malformed)), none⟩

/-- Reads the entries of a map after its opening brace. -/
def readMap : Nat → Nat → List Char → Front Document
  | 0, _, _ => .halt .truncated
  | bound + 1, depth, cs =>
    match skipSpace cs with
    | '\x7d' :: rest => ⟨map [] none, some rest⟩
    | rest =>
      let entries := readEntries bound depth rest
      ⟨map entries.value.1 entries.value.2, entries.rest⟩

/-- Reads a key and its value, and the entries after them, up to the closing brace. -/
def readEntries : Nat → Nat → List Char → Front (List (String × Document) × Option Stop)
  | 0, _, _ => ⟨([], some (.hard .truncated)), none⟩
  | bound + 1, depth, cs =>
    match cs with
    | [] => ⟨([], some (.hard .truncated)), none⟩
    | '"' :: rest =>
      match readText rest with
      | .broken s => ⟨([], some s), none⟩
      | .closed key fault rest =>
        let entries := readEntry bound depth (String.ofList key) rest
        match fault with
        | none => entries
        | some b =>
          -- A key without a value ends the map for a reader and is passed over otherwise.
          let passed := (skipEntries entries.value.1).or (entries.value.2.bind (·.onSkip))
          ⟨([], some (.text b passed)), entries.rest⟩
    | '[' :: _ => ⟨([], some (.noKey .malformed (some .list))), none⟩
    | '\x7b' :: _ => ⟨([], some (.noKey .malformed (some .map))), none⟩
    | rest =>
      match (readValue bound depth rest).value.found with
      | .ok found => ⟨([], some (.noKey .malformed (some found))), none⟩
      | .error s => ⟨([], some (.noKey s.onRead none)), none⟩

/-- Reads the value of a key, and the entries after it, up to the closing brace. -/
def readEntry : Nat → Nat → String → List Char → Front (List (String × Document) × Option Stop)
  | 0, _, _, _ => ⟨([], some (.hard .truncated)), none⟩
  | bound + 1, depth, key, cs =>
    match skipSpace cs with
    | ':' :: rest =>
      let item := readValue bound depth rest
      match item.rest with
      | none => ⟨([(key, item.value)], none), none⟩
      | some rest =>
        match skipSpace rest with
        | '\x7d' :: rest => ⟨([(key, item.value)], none), some rest⟩
        | ',' :: rest =>
          let entries := readEntries bound depth (skipSpace rest)
          ⟨((key, item.value) :: entries.value.1, entries.value.2.map Stop.afterEntry),
            entries.rest⟩
        | [] => ⟨([(key, item.value)], some (.hard .truncated)), none⟩
        | _ => ⟨([(key, item.value)], some (.hard .malformed)), none⟩
    | [] => ⟨([(key, stop (.hard .truncated))], none), none⟩
    | _ => ⟨([(key, stop (.hard .malformed))], none), none⟩

end

/-- The document of a JSON text, and what is wrong after its end. -/
def readJson (s : String) : Document × Option Break :=
  let cs := s.toList
  let front := readValue (3 * cs.length + 8) 0 cs
  match front.rest with
  | none => (front.value, none)
  | some rest => (front.value, if (skipSpace rest).isEmpty then none else some .malformed)

end Document

/-- The value of a JSON text. -/
def Json.parse (s : String) : Except Break Json := do
  let (document, trailing) := Document.readJson s
  let value ← document.toJson
  match trailing with
  | none => return value
  | some b => throw b

end Sitewright
