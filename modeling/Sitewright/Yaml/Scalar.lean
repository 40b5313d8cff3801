import Sitewright.Json.Reader
import Sitewright.Yaml.Cursor

/-!
# Scalars of YAML

A scalar is written plainly, in one of two quotings, or as an indented block of lines. A scalar that
reaches over several lines is folded: a single line end counts as a space, and of several in a row
the first is dropped. What is between two words of a scalar is therefore gathered as a `Gap` and
decided when the next word is met.

A reader of a scalar takes the position where it starts and answers with the scalar and the position
after it, or with nothing if the text breaks the format.
-/

namespace Sitewright.Yaml

/-- How a scalar is written. -/
inductive ScalarStyle where
  /-- Without quotation. -/
  | plain
  /-- In quotation marks. -/
  | quoted
  /-- As a block of lines. -/
  | literal
  /-- As a block of lines that are folded. -/
  | folded
  deriving DecidableEq

/-- A scalar. -/
structure Scalar where
  /-- Its characters. -/
  text : String
  /-- How it is written. -/
  style : ScalarStyle
  deriving DecidableEq

/-- The scalar that stands for nothing at all. -/
def Scalar.empty : Scalar := ⟨"", .plain⟩

/-! ### Gaps -/

/-- What stands between two words of a scalar. -/
inductive Gap where
  /-- Nothing. -/
  | none
  /-- Blanks, the last one first. -/
  | blanks (cs : List Char)
  /-- Line ends: the first, unless it is escaped, and the others, the last one first. Blanks around
  them do not count. -/
  | breaks (first : Option Char) (others : List Char)

namespace Gap

/-- The gap with another blank. -/
def blank (c : Char) : Gap → Gap
  | none => blanks [c]
  | blanks cs => blanks (c :: cs)
  | breaks first others => breaks first others

/-- The gap with another line end. -/
def lineEnd (c : Char) : Gap → Gap
  | breaks first others => breaks first (c :: others)
  | _ => breaks (some c) []

/-- Whether the gap ends a line. -/
def isBreaks : Gap → Bool
  | breaks _ _ => true
  | _ => false

/-- Whether there is a gap. -/
def isSome : Gap → Bool
  | none => false
  | _ => true

/-- What a gap stands for in the scalar, the last character first. -/
def folded : Gap → List Char
  | none => []
  | blanks cs => cs
  | breaks (some '\n') [] => [' ']
  | breaks (some '\n') others => others
  | breaks (some c) others => others ++ [c]
  | breaks Option.none others => others

end Gap

/-! ### Plain scalars -/

/-- Characters that no plain scalar starts with. -/
def isIndicator (c : Char) : Bool :=
  isBracketMark c || ['#', '&', '*', '!', '|', '>', '\'', '"', '%', '@'].contains c ||
    c.toNat == 0x60

/-- Whether a plain scalar starts here. -/
def startsPlain (inBrackets : Bool) : List Char → Bool
  | [] => false
  | c :: cs =>
    if isBlank c || isBreak c then false
    else if c == '-' then !standsAlone cs
    else if c == '?' || c == ':' then !inBrackets && !standsAlone cs
    else !isIndicator c

/-- Where a plain scalar is looked for. -/
structure PlainContext where
  /-- Whether it is within brackets. -/
  inBrackets : Bool
  /-- The first column in which it may go on after a line end. -/
  floor : Nat

/-- Whether a plain scalar ends before `c`, after a gap, in a column. -/
def PlainContext.endsAfterGap (context : PlainContext) (gap : Gap) (column : Nat) (c : Char)
    (cs : List Char) : Bool :=
  gap.isSome &&
    (c == '#' || Cursor.isSeparator column (c :: cs) ||
      (gap.isBreaks && !context.inBrackets && column < context.floor))

/-- Whether a plain scalar ends before `c`. -/
def PlainContext.endsBefore (context : PlainContext) (c : Char) (cs : List Char) : Bool :=
  (c == ':' && standsAlone cs) || (context.inBrackets && isBracketMark c)

/-- Whether `c` is a colon that is neither a mark nor a character of a scalar. -/
def PlainContext.isStrayColon (context : PlainContext) (c : Char) (cs : List Char) : Bool :=
  context.inBrackets && c == ':' && cs.head?.any fun d => isBracketMark d || d == '?'

/-- A plain scalar, and where it ends. -/
structure PlainEnd where
  /-- The scalar. -/
  scalar : Scalar
  /-- The position of what follows it. -/
  after : Cursor
  /-- Whether a line end stands between the two. -/
  endsLine : Bool

/-- The plain scalar of characters, the last one first. -/
def PlainEnd.of (seen : List Char) (gap : Gap) (after : Cursor) : PlainEnd :=
  ⟨⟨String.ofList seen.reverse, .plain⟩, after, gap.isBreaks⟩

/-- Reads a plain scalar; `seen` holds its characters before the gap, the last one first. -/
def plainFrom (context : PlainContext) : List Char → Gap → Nat → Nat → List Char →
    Option PlainEnd
  | seen, gap, line, column, [] => some (.of seen gap ⟨[], line, column⟩)
  | seen, gap, line, column, c :: cs =>
    if isBreak c then plainFrom context seen (gap.lineEnd c) (line + 1) 0 cs
    else if isBlank c then
      if c == '\t' && gap.isBreaks && column < context.floor then none
      else plainFrom context seen (gap.blank c) line (column + 1) cs
    else if context.endsAfterGap gap column c cs then some (.of seen gap ⟨c :: cs, line, column⟩)
    else if context.isStrayColon c cs then none
    else if context.endsBefore c cs then some (.of seen gap ⟨c :: cs, line, column⟩)
    else plainFrom context (c :: (gap.folded ++ seen)) .none line (column + 1) cs

/-- Reads a plain scalar. -/
def readPlain (context : PlainContext) (cursor : Cursor) : Option PlainEnd :=
  if startsPlain context.inBrackets cursor.rest then
    plainFrom context [] .none cursor.line cursor.column cursor.rest
  else none

/-! ### Quoted scalars -/

/-- The character that an escape of one letter stands for. -/
def letterEscape? (c : Char) : Option Char :=
  match c with
  | '0' => some (Char.ofNat 0)
  | 'a' => some (Char.ofNat 7)
  | 'b' => some (Char.ofNat 8)
  | 't' => some '\t'
  | '\t' => some '\t'
  | 'n' => some '\n'
  | 'v' => some (Char.ofNat 11)
  | 'f' => some (Char.ofNat 12)
  | 'r' => some '\r'
  | 'e' => some (Char.ofNat 27)
  | ' ' => some ' '
  | '"' => some '"'
  | '/' => some '/'
  | '\\' => some '\\'
  | 'N' => some (Char.ofNat 0x85)
  | '_' => some (Char.ofNat 0xA0)
  | 'L' => some (Char.ofNat 0x2028)
  | 'P' => some (Char.ofNat 0x2029)
  | _ => none

/-- The number of hexadecimal digits after an escape. -/
def escapeDigits? (c : Char) : Option Nat :=
  match c with
  | 'x' => some 2
  | 'u' => some 4
  | 'U' => some 8
  | _ => none

/-- The character that an escape stands for, after its backslash, and the length of the escape. -/
def escaped? : List Char → Option (Char × Nat)
  | [] => none
  | c :: cs =>
    match escapeDigits? c with
    | none => (letterEscape? c).map fun e => (e, 1)
    | some digits => do
      let values ← (cs.take digits).mapM Document.hexValue?
      let n := values.foldl (fun n d => n * 16 + d) 0
      if values.length = digits && (n < 0xD800 || (0xE000 ≤ n && n < 0x110000)) then
        return (Char.ofNat n, digits + 1)
      else none

/-- Reads a quoted scalar after its mark. In double quotes a backslash escapes what follows it; in
single quotes the mark is written twice. -/
def quotedFrom (mark : Char) : Nat → List Char → Gap → Nat → Nat → List Char →
    Option (String × Cursor)
  | 0, _, _, _, _, _ => none
  | bound + 1, seen, gap, line, column, cs =>
    match cs with
    | [] => none
    | c :: rest =>
      if isBreak c then quotedFrom mark bound seen (gap.lineEnd c) (line + 1) 0 rest
      else if isBlank c then quotedFrom mark bound seen (gap.blank c) line (column + 1) rest
      else if Cursor.isSeparator column cs then none
      else
        let before := gap.folded ++ seen
        if c == '\\' && mark == '"' then
          match rest with
          | [] => none
          | d :: more =>
            if isBreak d then
              quotedFrom mark bound before (.breaks none []) (line + 1) 0 more
            else
              (escaped? rest).bind fun (e, length) =>
                quotedFrom mark bound (e :: before) .none line (column + 1 + length)
                  (rest.drop length)
        else if c == mark then
          if mark == '\'' && rest.head? == some '\'' then
            quotedFrom mark bound ('\'' :: before) .none line (column + 2) (rest.drop 1)
          else some (String.ofList before.reverse, ⟨rest, line, column + 1⟩)
        else quotedFrom mark bound (c :: before) .none line (column + 1) rest

/-- Reads a quoted scalar. -/
def readQuoted (mark : Char) (cursor : Cursor) : Option (Scalar × Cursor) :=
  (quotedFrom mark (cursor.rest.length + 1) [] .none cursor.line (cursor.column + 1)
    (cursor.rest.drop 1)).map fun (s, after) => (⟨s, .quoted⟩, after)

/-! ### Blocks of lines -/

/-- What becomes of the line ends at the end of a block of lines. -/
inductive Chomping where
  /-- All are dropped. -/
  | strip
  /-- One is kept. -/
  | clip
  /-- All are kept. -/
  | keep

/-- How a block of lines is read. -/
structure BlockStyle where
  /-- Whether single line ends count as spaces. -/
  isFolded : Bool
  /-- What becomes of the line ends at its end. -/
  chomping : Chomping
  /-- How far its lines are indented, if that is given. -/
  indentation : Option Nat

/-- What a sign in the header of a block of lines says. -/
def chomping? (c : Char) : Option Chomping :=
  if c == '+' then some .keep else if c == '-' then some .strip else none

/-- What a digit in the header of a block of lines says. -/
def indentation? (c : Char) : Option Nat :=
  if c.isDigit && c != '0' then some (c.toNat - 48) else none

/-- The style that the header of a block of lines gives, and the length of the header. -/
def blockStyle (isFolded : Bool) (cs : List Char) : BlockStyle × Nat :=
  match cs with
  | c :: rest =>
    match chomping? c, indentation? c with
    | some chomping, _ =>
      match rest.head?.bind indentation? with
      | some n => (⟨isFolded, chomping, some n⟩, 2)
      | none => (⟨isFolded, chomping, none⟩, 1)
    | none, some n =>
      match rest.head?.bind chomping? with
      | some chomping => (⟨isFolded, chomping, some n⟩, 2)
      | none => (⟨isFolded, .clip, some n⟩, 1)
    | none, none => (⟨isFolded, .clip, none⟩, 0)
  | [] => (⟨isFolded, .clip, none⟩, 0)

/-- The lines before the next one that holds something. -/
structure Blanks where
  /-- Their line ends, the last one first. -/
  breaks : List Char
  /-- The largest column that was reached by spaces alone. -/
  reach : Nat
  /-- The position after them and after the indentation of the next line. -/
  cursor : Cursor

/-- Passes over lines that hold nothing, and over the indentation of the next one. Without a given
indentation all spaces count as such. -/
def blanksFrom (indentation : Option Nat) : List Char → Nat → Nat → Nat → List Char →
    Option Blanks
  | breaks, reach, line, column, [] => some ⟨breaks, max reach column, ⟨[], line, column⟩⟩
  | breaks, reach, line, column, c :: cs =>
    let isIndented := indentation.any (· ≤ column)
    if c == ' ' && !isIndented then blanksFrom indentation breaks reach line (column + 1) cs
    else if c == '\t' && !isIndented then none
    else if isBreak c then
      blanksFrom indentation (c :: breaks) (max reach column) (line + 1) 0 cs
    else some ⟨breaks, max reach column, ⟨c :: cs, line, column⟩⟩

/-- What is said between two lines of a block, the last character first. A line end counts as a
space, or is dropped before others, if the style has it so and neither line starts with a blank. -/
def joint (style : BlockStyle) (afterBlank beforeBlank : Bool) (lineEnd others : List Char) :
    List Char :=
  if style.isFolded && lineEnd == ['\n'] && !afterBlank && !beforeBlank then
    if others.isEmpty then [' '] else others
  else others ++ lineEnd

/-- Reads the lines of a block. `seen` holds those already read, `lineEnd` the end of the last of
them, and `afterBlank` tells whether that one started with a blank. -/
def blockFrom (style : BlockStyle) (indentation : Nat) : Nat → List Char → List Char → Bool →
    Blanks → Option (String × Cursor)
  | 0, _, _, _, _ => none
  | bound + 1, seen, lineEnd, afterBlank, blanks =>
    let cursor := blanks.cursor
    match cursor.column == indentation, cursor.rest with
    | true, c :: _ =>
      let beforeBlank := isBlank c
      let content := cursor.rest.takeWhile fun c => !isBreak c
      let before :=
        content.reverse ++ (joint style afterBlank beforeBlank lineEnd blanks.breaks ++ seen)
      match cursor.rest.drop content.length with
      | [] =>
        blockFrom style indentation bound before [] beforeBlank
          ⟨[], 0, ⟨[], cursor.line, cursor.column + content.length⟩⟩
      | e :: rest =>
        (blanksFrom (some indentation) [] 0 (cursor.line + 1) 0 rest).bind fun blanks =>
          blockFrom style indentation bound before [e] beforeBlank blanks
    | _, _ =>
      let ending :=
        match style.chomping with
        | .strip => []
        | .clip => lineEnd
        | .keep => blanks.breaks ++ lineEnd
      some (String.ofList (ending ++ seen).reverse, cursor)

/-- Reads a block of lines within blocks that end before column `floor`. -/
def readBlock (floor : Nat) (cursor : Cursor) : Option (Scalar × Cursor) := do
  let isFolded := cursor.rest.head? == some '>'
  let (style, length) := blockStyle isFolded (cursor.rest.drop 1)
  let header := (cursor.rest.drop (1 + length)).dropWhile isBlank
  let header := if header.head? == some '#' then header.dropWhile fun c => !isBreak c else header
  let (line, body) ←
    match header with
    | [] => some (cursor.line, [])
    | c :: rest => if isBreak c then some (cursor.line + 1, rest) else none
  let given := style.indentation.map fun n => (floor - 1) + n
  let blanks ← blanksFrom given [] 0 line 0 body
  let indentation := given.getD (max blanks.reach (max floor 1))
  let (s, after) ← blockFrom style indentation (body.length + 2) [] [] false blanks
  return (⟨s, if isFolded then .folded else .literal⟩, after)

end Sitewright.Yaml
