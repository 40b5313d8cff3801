import Sitewright.Text.Lines
import Sitewright.Toml.Scalar
import Sitewright.Toml.Table

/-!
# Reading TOML text

The document of a TOML text. A text is a sequence of lines: blank ones, headers, each of which opens
a table, and pairs of a key and a value, which go into the table opened last. Values reach over
several lines only within texts in three marks and within lists.

The table opened last is kept apart from the others until the next header, or the end of the text,
closes it. The recursion is on a bound that starts at the length of the text.
-/

namespace Sitewright.Toml

/-! ### Values -/

/-- Containers cannot be nested this deep. -/
def nestingLimit : Nat := 80

/-- What follows a word that a text starts with. -/
def afterWord? (word : String) (cs : List Char) : Option (List Char) :=
  Text.afterPhrase? word.toList cs

mutual

/-- Reads a value within `depth` containers. -/
def readValue : Nat → Nat → List Char → Option (Document × List Char)
  | 0, _, _ => none
  | bound + 1, depth, cs =>
    match Quotation.at? cs, cs with
    | some q, _ => (readText q cs).map fun (s, rest) => (.str s, rest)
    | none, '[' :: rest =>
      if depth + 1 < nestingLimit then
        (readItems bound (depth + 1) rest).map fun (items, rest) => (.list items none, rest)
      else none
    | none, '\x7b' :: rest =>
      if depth + 1 < nestingLimit then
        match skipBlanks rest with
        | '\x7d' :: rest => some (.map [] none, rest)
        | rest =>
          (readPairs bound (depth + 1) [] rest).map fun (entries, rest) =>
            (.map (documents entries) none, rest)
      else none
    | none, _ =>
      match afterWord? "true" cs, afterWord? "false" cs with
      | some rest, _ => some (.bool true, rest)
      | _, some rest => some (.bool false, rest)
      | none, none => (readMoment cs).or (readNumber cs)

/-- Reads the items of a list, after its bracket or a comma, up to the closing bracket. -/
def readItems : Nat → Nat → List Char → Option (List Document × List Char)
  | 0, _, _ => none
  | bound + 1, depth, cs =>
    match skipLayout false cs with
    | ']' :: rest => some ([], rest)
    | rest => do
      let (d, rest) ← readValue bound depth rest
      match skipLayout false rest with
      | ']' :: rest => return ([d], rest)
      | ',' :: rest =>
        let (items, rest) ← readItems bound depth rest
        return (d :: items, rest)
      | _ => none

/-- Reads a pair of a table that is written as a value, and the pairs after it, up to the closing
brace. -/
def readPairs : Nat → Nat → Entries → List Char → Option (Entries × List Char)
  | 0, _, _, _ => none
  | bound + 1, depth, entries, cs => do
    let ((path, key), rest) ← readKey cs
    let rest ← after? '=' rest
    let (d, rest) ← readValue bound depth (skipBlanks rest)
    let entries ← Entries.put? path key d .header entries
    match skipBlanks rest with
    | '\x7d' :: rest => return (entries, rest)
    | ',' :: rest => readPairs bound depth entries rest
    | _ => none

end

/-! ### Lines -/

/-- The header of a table. -/
structure Header where
  /-- Whether the table is one more in a list. -/
  isItem : Bool
  /-- All parts of its name but the last one. -/
  path : List String
  /-- The last part of its name. -/
  key : String

/-- A text that has been read up to a line. -/
structure Draft where
  /-- The tables that are closed. -/
  root : Entries
  /-- The header of the table that is open; without one it is the outermost. -/
  header : Option Header
  /-- The entries of the table that is open. -/
  current : Entries

namespace Draft

/-- Nothing has been read. -/
def empty : Draft := ⟨[], none, []⟩

/-- The tables once the open one is closed. -/
def close? (draft : Draft) : Option Entries :=
  match draft.header with
  | none => some draft.current
  | some h =>
    let put (_ : Origin) (es : Entries) : Option Entries :=
      if h.isItem then Entries.append? h.key draft.current es
      else some (Entries.set h.key (.table .header draft.current) es)
    Entries.update? .mentioned put h.path .header draft.root

/-- The draft with another table open. -/
def open? (draft : Draft) (header : Header) : Option Draft := do
  let root ← draft.close?
  let parent ← Entries.at? header.path root
  let start ←
    if header.isItem then Entries.openingItem? header.key parent
    else Entries.opening? header.key parent
  return ⟨root, some header, start⟩

/-- The draft with a pair in its open table. -/
def put? (draft : Draft) (path : List String) (key : String) (d : Document) : Option Draft :=
  (Entries.put? path key d .header draft.current).map fun entries =>
    { draft with current := entries }

end Draft

/-- Reads a header after its first bracket. -/
def readHeader (cs : List Char) : Option (Header × List Char) :=
  match cs with
  | '[' :: rest => do
    let ((path, key), rest) ← readKey rest
    let rest ← after? ']' rest
    let rest ← after? ']' rest
    return (⟨true, path, key⟩, rest)
  | rest => do
    let ((path, key), rest) ← readKey rest
    let rest ← after? ']' rest
    return (⟨false, path, key⟩, rest)

/-- Reads the lines of a text. -/
def readLines : Nat → Draft → List Char → Option Entries
  | 0, _, _ => none
  | bound + 1, draft, cs =>
    match skipBlanks cs with
    | [] => draft.close?
    | '[' :: rest => do
      let (header, rest) ← readHeader rest
      let rest ← afterLine? rest
      let draft ← draft.open? header
      readLines bound draft rest
    | c :: rest =>
      if c == '#' || c == '\n' || c == '\r' then
        (afterLine? (c :: rest)).bind (readLines bound draft)
      else do
        let ((path, key), rest) ← readKey (c :: rest)
        let rest ← after? '=' rest
        let (d, rest) ← readValue (2 * rest.length + 2) 0 (skipBlanks rest)
        let rest ← afterLine? rest
        let draft ← draft.put? path key d
        readLines bound draft rest

end Sitewright.Toml

namespace Sitewright

/-- The document of a TOML text, if it follows the format. A byte order mark may stand in front. -/
def Document.ofToml? (s : String) : Option Document :=
  let cs := s.toList
  let cs := (Toml.after? (Char.ofNat 0xFEFF) cs).getD cs
  (Toml.readLines (cs.length + 1) .empty cs).map fun entries => .map (Toml.documents entries) none

end Sitewright
