import Sitewright.Yaml.Directive
import Sitewright.Yaml.Scalar

/-!
# Tokens

A YAML text as a list of tokens. Indentation is turned into tokens of its own: one where a block
starts, and one where it ends, so that whoever reads the tokens need not know about columns.

That a scalar or a bracket is a key shows only at the colon after it. A `KeyPlace` remembers where
such a key may have started; when the colon comes, the token for the key is put in at that place. A
key stands in one line, is not longer than a bound, and is required where the entries of an open
block start. There is one such place for the block and one within every open bracket.
-/

namespace Sitewright.Yaml

/-- A token. -/
inductive Token where
  /-- A directive. -/
  | directive (d : Directive)
  /-- The mark before a document. -/
  | documentStart
  /-- The mark after a document. -/
  | documentEnd
  /-- The start of a list laid out by indentation. -/
  | blockList
  /-- The start of a map laid out by indentation. -/
  | blockMap
  /-- The end of a list or a map laid out by indentation. -/
  | blockEnd
  /-- The bracket before a list. -/
  | openList
  /-- The bracket after a list. -/
  | closeList
  /-- The bracket before a map. -/
  | openMap
  /-- The bracket after a map. -/
  | closeMap
  /-- The mark of an item. -/
  | item
  /-- A comma within brackets. -/
  | comma
  /-- The start of a key. -/
  | key
  /-- The colon before a value. -/
  | value
  /-- A name given to the next node, by its number. -/
  | anchor (id : Nat)
  /-- The name of another node, by its number. -/
  | reference (id : Nat)
  /-- A tag of the next node. -/
  | tag (t : TagText)
  /-- A scalar. -/
  | scalar (s : Scalar)
  deriving DecidableEq

/-! ### Layout -/

/-- A place where a key may have started. -/
structure KeyPlace where
  /-- Whether nothing but a key can stand there. -/
  isRequired : Bool
  /-- Its line. -/
  line : Nat
  /-- Its column. -/
  column : Nat
  /-- The number of tokens before it. -/
  position : Nat

/-- A key is not longer than this. -/
def keyLimit : Nat := 1024

/-- Whether a key from this place can end at a cursor. -/
def KeyPlace.reaches (key : KeyPlace) (cursor : Cursor) : Bool :=
  key.line = cursor.line && cursor.column ≤ key.column + keyLimit

/-- What is known while tokens are read. -/
structure Layout where
  /-- The position. -/
  cursor : Cursor
  /-- The columns of the open blocks, the innermost first. -/
  blocks : List Nat
  /-- Whether a key or a block may start here. -/
  keysAllowed : Bool
  /-- Where the innermost key may have started. -/
  key : Option KeyPlace
  /-- Where the keys around each open bracket may have started, the innermost first. -/
  outerKeys : List (Option KeyPlace)
  /-- The names of nodes and their numbers. -/
  anchors : List (String × Nat)
  /-- The tokens, the last one first. -/
  tokens : List Token
  /-- The number of tokens. -/
  count : Nat

namespace Layout

/-- The layout at the start of a text. -/
def start (cs : List Char) : Layout := ⟨.start cs, [], true, none, [], [], [], 0⟩

/-- Whether a bracket is open. -/
def inBrackets (l : Layout) : Bool := !l.outerKeys.isEmpty

/-- The first column within the innermost block. -/
def floor (l : Layout) : Nat :=
  match l.blocks with
  | [] => 0
  | column :: _ => column + 1

/-! ### Tokens -/

/-- The layout with another token. -/
def emit (token : Token) (l : Layout) : Layout :=
  { l with tokens := token :: l.tokens, count := l.count + 1 }

/-- The layout with a token of `size` characters. -/
def take (size : Nat) (token : Token) (l : Layout) : Layout :=
  { l with cursor := l.cursor.advance size }.emit token

/-- The layout with tokens put in where `position` tokens stand before them. -/
def insertAt (position : Nat) (tokens : List Token) (l : Layout) : Layout :=
  let later := l.count - position
  { l with
    tokens := l.tokens.take later ++ (tokens.reverse ++ l.tokens.drop later)
    count := l.count + tokens.length }

@[simp] theorem count_emit (token : Token) (l : Layout) : (l.emit token).count = l.count + 1 := rfl

/-! ### Blocks -/

/-- Whether a block in a column would be a new one. -/
def opensBlock (column : Nat) (l : Layout) : Bool :=
  !l.inBrackets && l.blocks.head?.all (· < column)

/-- Starts a block in a column, unless it is already open there. -/
def openBlock (column : Nat) (token : Token) (l : Layout) : Layout :=
  if l.opensBlock column then { l with blocks := column :: l.blocks }.emit token else l

/-- Ends blocks as long as their columns satisfy `isOver`. Within brackets no block ends. -/
def closeBlocks (isOver : Nat → Bool) (l : Layout) : Layout :=
  if l.inBrackets then l
  else
    (l.blocks.takeWhile isOver).foldl (fun l _ => l.emit .blockEnd)
      { l with blocks := l.blocks.dropWhile isOver }

/-- Goes to the next token and ends the blocks to the right of it. -/
def skip (l : Layout) : Layout :=
  let (cursor, keysAllowed) := l.cursor.skip l.inBrackets l.keysAllowed
  { l with cursor := cursor, keysAllowed := keysAllowed }.closeBlocks (cursor.column < ·)

/-! ### Keys -/

/-- The layout without the place where a key may have started. There is none if a key is required
there. -/
def dropKey? (l : Layout) : Option Layout :=
  if l.key.any (·.isRequired) then none else some { l with key := none }

/-- The layout with this place as one where a key may start, if one may. -/
def saveKey? (l : Layout) : Option Layout :=
  if l.keysAllowed then
    let isRequired := !l.inBrackets && l.blocks.head? == some l.cursor.column
    l.dropKey?.map fun l =>
      { l with key := some ⟨isRequired, l.cursor.line, l.cursor.column, l.count⟩ }
  else some l

/-- The layout before a node, after which no key may start. -/
def beforeNode? (l : Layout) : Option Layout :=
  l.saveKey?.map fun l => { l with keysAllowed := false }

/-- Takes the mark of an entry, which starts a block if need be. -/
def takeMark? (block mark : Token) (l : Layout) : Option Layout :=
  if l.inBrackets then
    l.dropKey?.map fun l => { l with keysAllowed := false }.take 1 mark
  else if l.keysAllowed then
    (l.openBlock l.cursor.column block).dropKey?.map (take 1 mark)
  else none

/-- Takes a colon that no key in the same line stands before. -/
def takeColonAlone? (l : Layout) : Option Layout :=
  if l.inBrackets then some ({ l with keysAllowed := false }.take 1 .value)
  else if l.keysAllowed then some ((l.openBlock l.cursor.column .blockMap).take 1 .value)
  else none

/-- Takes a colon after a key. -/
def takeColonAfter (key : KeyPlace) (l : Layout) : Layout :=
  let isNew := l.opensBlock key.column
  let blocks := if isNew then key.column :: l.blocks else l.blocks
  { l with key := none, keysAllowed := false, blocks := blocks }
    |>.insertAt key.position (if isNew then [.blockMap, .key] else [.key])
    |>.take 1 .value

/-- Takes a colon. -/
def takeColon? (l : Layout) : Option Layout :=
  match l.key with
  | none => l.takeColonAlone?
  | some key =>
    if key.reaches l.cursor then some (l.takeColonAfter key)
    else { l with key := none }.takeColonAlone?.filter fun _ => !key.isRequired

/-! ### Brackets -/

/-- Takes an opening bracket. -/
def takeOpening? (token : Token) (l : Layout) : Option Layout :=
  l.saveKey?.map fun l =>
    { l with key := none, outerKeys := l.key :: l.outerKeys, keysAllowed := true }.take 1 token

/-- Takes a closing bracket. -/
def takeClosing? (token : Token) (l : Layout) : Option Layout :=
  match l.outerKeys with
  | [] => none
  | key :: outer =>
    l.dropKey?.map fun l =>
      { l with key := key, outerKeys := outer, keysAllowed := false }.take 1 token

/-- Takes a comma, after which a key may start. -/
def takeComma? (l : Layout) : Option Layout :=
  if l.inBrackets then
    l.dropKey?.map fun l => { l with keysAllowed := true }.take 1 .comma
  else none

/-! ### Nodes -/

/-- What may follow a name. -/
def endsName (cs : List Char) : Bool :=
  standsAlone cs ||
    cs.head?.any fun c => ['?', ':', ',', ']', '\x7d', '%', '@'].contains c || c.toNat == 0x60

/-- The name after a mark. -/
def nameAfterMark? (cs : List Char) : Option (List Char) :=
  let name := (cs.drop 1).takeWhile isNameChar
  if !name.isEmpty && endsName (cs.drop (1 + name.length)) then some name else none

/-- Takes a name given to a node. A name that was given before is given anew. Numbers count the
names, so that a name given anew has a number that the next new name has too. -/
def takeAnchor? (l : Layout) : Option Layout := do
  let name ← nameAfterMark? l.cursor.rest
  let id := l.anchors.length
  let others := l.anchors.filter (·.1 != String.ofList name)
  let l ← { l with anchors := (String.ofList name, id) :: others }.beforeNode?
  return l.take (1 + name.length) (.anchor id)

/-- Takes the name of a node, which must have been given before. -/
def takeReference? (l : Layout) : Option Layout := do
  let name ← nameAfterMark? l.cursor.rest
  let id ← l.anchors.lookup (String.ofList name)
  let l ← l.beforeNode?
  return l.take (1 + name.length) (.reference id)

/-- Takes a tag. -/
def takeTag? (l : Layout) : Option Layout := do
  let (tag, size) ← readTag l.cursor.rest
  let rest := l.cursor.rest.drop size
  if standsAlone rest || (l.inBrackets && rest.head? == some ',') then
    l.beforeNode?.map (take size (.tag tag))
  else none

/-- Takes a scalar that ends at a cursor. -/
def takeScalar (s : Scalar) (after : Cursor) (l : Layout) : Layout :=
  { l with cursor := after }.emit (.scalar s)

/-- Takes a block of lines, after which a key may start. -/
def takeBlock? (l : Layout) : Option Layout := do
  let l ← l.dropKey?
  let (s, after) ← readBlock l.floor l.cursor
  return { l with keysAllowed := true }.takeScalar s after

/-- Takes a quoted scalar. -/
def takeQuoted? (mark : Char) (l : Layout) : Option Layout := do
  let l ← l.beforeNode?
  let (s, after) ← readQuoted mark l.cursor
  return l.takeScalar s after

/-- Takes a plain scalar. If a line ends after it, a key may start in the next one. -/
def takePlain? (l : Layout) : Option Layout := do
  let l ← l.beforeNode?
  let plain ← readPlain ⟨l.inBrackets, l.floor⟩ l.cursor
  return { l with keysAllowed := plain.endsLine }.takeScalar plain.scalar plain.after

/-! ### Documents -/

/-- The layout between documents: no block is open, and no key may start. -/
def betweenDocuments? (l : Layout) : Option Layout :=
  if l.inBrackets then none
  else (l.closeBlocks fun _ => true).dropKey?.map fun l => { l with keysAllowed := false }

/-- Takes a directive. -/
def takeDirective? (l : Layout) : Option Layout := do
  let l ← l.betweenDocuments?
  let body := l.cursor.rest.drop 1
  let (directive, rest) ← readDirective body
  return l.take (1 + (body.length - rest.length)) (.directive directive)

/-- Takes the mark before or after a document. -/
def takeSeparator? (l : Layout) : Option Layout :=
  let token : Token := if l.cursor.rest.head? == some '-' then .documentStart else .documentEnd
  l.betweenDocuments?.map (take 3 token)

/-- All tokens, at the end of a text. -/
def finish? (l : Layout) : Option (List Token) :=
  l.betweenDocuments?.map fun l => l.tokens.reverse

/-! ### Texts -/

/-- Takes the token that starts with `c`, before `cs`. -/
def next? (c : Char) (cs : List Char) (l : Layout) : Option Layout :=
  if l.cursor.column == 0 && c == '%' then l.takeDirective?
  else if Cursor.isSeparator l.cursor.column (c :: cs) then l.takeSeparator?
  else
    let isMark := l.inBrackets || standsAlone cs
    match c with
    | '[' => l.takeOpening? .openList
    | '\x7b' => l.takeOpening? .openMap
    | ']' => l.takeClosing? .closeList
    | '\x7d' => l.takeClosing? .closeMap
    | ',' => l.takeComma?
    | '-' =>
      if !standsAlone cs then l.takePlain?
      else if l.inBrackets then none
      else l.takeMark? .blockList .item
    | '?' => if isMark then l.takeMark? .blockMap .key else l.takePlain?
    | ':' => if isMark then l.takeColon? else l.takePlain?
    | '*' => l.takeReference?
    | '&' => l.takeAnchor?
    | '!' => l.takeTag?
    | '|' => if l.inBrackets then none else l.takeBlock?
    | '>' => if l.inBrackets then none else l.takeBlock?
    | '\'' => l.takeQuoted? c
    | '"' => l.takeQuoted? c
    | _ => l.takePlain?

/-- Takes all tokens that are left. Every token takes a character, so that a bound above their
number is never reached. -/
def tokens? : Nat → Layout → Option (List Token)
  | 0, _ => none
  | bound + 1, l =>
    let l := l.skip
    match l.cursor.rest with
    | [] => l.finish?
    | c :: cs => (l.next? c cs).bind (tokens? bound)

end Layout

/-- The tokens of a text, if it follows the format. -/
def Token.ofText? (s : String) : Option (List Token) :=
  let cs := s.toList
  if cs.all isAllowed then (Layout.start (normalize cs)).tokens? (cs.length + 1) else none

end Sitewright.Yaml
