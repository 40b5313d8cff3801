import Sitewright.Json.Reader

/-!
# Keys and scalars of TOML

The smallest pieces of a TOML text: blanks and line ends, texts in their four quotings, keys,
numbers, dates and times. A reader of a piece takes the characters from where the piece starts and
answers with what it read and the characters after it, or with nothing if the text breaks the
format. It takes as much as belongs to the piece; whatever then follows is looked at by the reader
of the line.
-/

namespace Sitewright.Toml

/-! ### Lines -/

/-- Blanks within a line. -/
def isBlank (c : Char) : Bool := c == ' ' || c == '\t'

/-- The text without the blanks it starts with. -/
def skipBlanks (cs : List Char) : List Char := cs.dropWhile isBlank

/-- Characters that may stand within a line: all but controls, of which the tab is allowed. -/
def isLineChar (c : Char) : Bool := c == '\t' || (32 ≤ c.toNat && c.toNat != 127)

/-- What follows a line end. -/
def afterLineEnd? : List Char → Option (List Char)
  | '\n' :: cs => some cs
  | '\r' :: '\n' :: cs => some cs
  | _ => none

/-- The text without the comment it starts with. -/
def skipComment : List Char → List Char
  | '#' :: cs => cs.dropWhile isLineChar
  | cs => cs

/-- What follows the line, if only blanks and a comment are left of it. -/
def afterLine? (cs : List Char) : Option (List Char) :=
  match skipComment (skipBlanks cs) with
  | [] => some []
  | cs => afterLineEnd? cs

/-- The text without the blanks, line ends and comments it starts with; `inComment` tells whether it
starts within a comment. -/
def skipLayout (inComment : Bool) : List Char → List Char
  | [] => []
  | '\n' :: cs => skipLayout false cs
  | '\r' :: '\n' :: cs => skipLayout false cs
  | c :: cs =>
    if inComment then if isLineChar c then skipLayout true cs else c :: cs
    else if isBlank c then skipLayout false cs
    else if c == '#' then skipLayout true cs
    else c :: cs

/-! ### Texts -/

/-- A quotation mark, and whether a backslash escapes what follows it. -/
structure Quotation where
  /-- The mark. -/
  mark : Char
  /-- Whether there are escapes. -/
  escapes : Bool

/-- The quotation that a text starts with. -/
def Quotation.at? : List Char → Option Quotation
  | '"' :: _ => some ⟨'"', true⟩
  | '\'' :: _ => some ⟨'\'', false⟩
  | _ => none

/-- The character with a number. Halves of surrogate pairs are none. -/
def scalarOf? (n : Nat) : Option Char :=
  if n < 0xD800 || (0xE000 ≤ n && n < 0x110000) then some (Char.ofNat n) else none

/-- The character whose number is written in hexadecimal with `digits` digits. -/
def numbered? (digits : Nat) (cs : List Char) : Option (Char × List Char) := do
  let values ← (cs.take digits).mapM Document.hexValue?
  if values.length = digits then
    let c ← scalarOf? (values.foldl (fun n d => n * 16 + d) 0)
    return (c, cs.drop digits)
  else none

/-- The character that an escape stands for, after its backslash. -/
def escaped? : List Char → Option (Char × List Char)
  | 'u' :: cs => numbered? 4 cs
  | 'U' :: cs => numbered? 8 cs
  | '/' :: _ => none
  | c :: cs => (Document.escapedChar? c).map fun e => (e, cs)
  | [] => none

/-- Reads a text of one line after its mark; `seen` holds the characters read, the last one first.
-/
def readLineText : Nat → Quotation → List Char → List Char → Option (String × List Char)
  | 0, _, _, _ => none
  | bound + 1, q, seen, cs =>
    match cs with
    | [] => none
    | c :: rest =>
      if c == q.mark then some (String.ofList seen.reverse, rest)
      else if c == '\\' && q.escapes then
        (escaped? rest).bind fun (c, rest) => readLineText bound q (c :: seen) rest
      else if isLineChar c then readLineText bound q (c :: seen) rest
      else none

/-- The text without the blanks and line ends it starts with. -/
def skipBlankLines : List Char → List Char
  | [] => []
  | '\n' :: cs => skipBlankLines cs
  | '\r' :: '\n' :: cs => skipBlankLines cs
  | c :: cs => if isBlank c then skipBlankLines cs else c :: cs

/-- What follows a backslash that joins lines: the rest of its line is blank, and so is all that is
skipped after it. -/
def afterJoin? (cs : List Char) : Option (List Char) :=
  (afterLineEnd? (skipBlanks cs)).map skipBlankLines

/-- Reads a text of several lines after its three marks. It ends with three marks, and up to two
marks directly before them belong to it. -/
def readLinesText : Nat → Quotation → List Char → List Char → Option (String × List Char)
  | 0, _, _, _ => none
  | bound + 1, q, seen, cs =>
    match cs with
    | [] => none
    | c :: rest =>
      if [q.mark, q.mark, q.mark].isPrefixOf cs then
        let rest := rest.drop 2
        let extra := (rest.take 2).takeWhile (· == q.mark)
        some (String.ofList (seen.reverse ++ extra), rest.drop extra.length)
      else if c == '\\' && q.escapes then
        match afterJoin? rest with
        | some rest => readLinesText bound q seen rest
        | none => (escaped? rest).bind fun (c, rest) => readLinesText bound q (c :: seen) rest
      else
        match afterLineEnd? cs with
        | some rest => readLinesText bound q ('\n' :: seen) rest
        | none => if isLineChar c then readLinesText bound q (c :: seen) rest else none

/-- Reads a text of one line. -/
def readQuoted (q : Quotation) (cs : List Char) : Option (String × List Char) :=
  readLineText (cs.length + 1) q [] (cs.drop 1)

/-- Reads a text. A line end directly after three marks does not belong to it. -/
def readText (q : Quotation) (cs : List Char) : Option (String × List Char) :=
  if [q.mark, q.mark, q.mark].isPrefixOf cs then
    let body := cs.drop 3
    readLinesText (cs.length + 1) q [] ((afterLineEnd? body).getD body)
  else readQuoted q cs

/-! ### Keys -/

/-- Characters of a key without quotation. -/
def isKeyChar (c : Char) : Bool := c.isAlphanum || c == '_' || c == '-'

/-- Reads one part of a key. -/
def readKeyPart (cs : List Char) : Option (String × List Char) :=
  match Quotation.at? cs with
  | some q => readQuoted q cs
  | none =>
    let name := cs.takeWhile isKeyChar
    if name.isEmpty then none else some (String.ofList name, cs.dropWhile isKeyChar)

/-- A key cannot have this many parts. -/
def keyLimit : Nat := 80

/-- Reads the parts of a key, with dots between them and blanks around each, at most `bound`. -/
def readKeyParts : Nat → List Char → Option (List String × List Char)
  | 0, _ => none
  | bound + 1, cs => do
    let (part, rest) ← readKeyPart (skipBlanks cs)
    match skipBlanks rest with
    | '.' :: rest =>
      let (parts, rest) ← readKeyParts bound rest
      return (part :: parts, rest)
    | rest => return ([part], rest)

/-- Reads a key: all its parts but the last one, and the last one. -/
def readKey (cs : List Char) : Option ((List String × String) × List Char) := do
  let (parts, rest) ← readKeyParts (keyLimit - 1) cs
  let last ← parts.getLast?
  return ((parts.dropLast, last), rest)

/-! ### Numbers -/

/-- The digits that a text starts with, where an underscore may stand between two of them. -/
def takeDigits (isDigit : Char → Bool) : List Char → List Char × List Char
  | c :: '_' :: d :: cs =>
    if isDigit c && isDigit d then
      let (digits, rest) := takeDigits isDigit (d :: cs)
      (c :: digits, rest)
    else if isDigit c then ([c], '_' :: d :: cs)
    else ([], c :: '_' :: d :: cs)
  | c :: cs =>
    if isDigit c then
      let (digits, rest) := takeDigits isDigit cs
      (c :: digits, rest)
    else ([], c :: cs)
  | [] => ([], [])

/-- The values of digits. -/
def valuesOf (digits : List Char) : List Nat := digits.filterMap Document.hexValue?

/-- An integer of 64 bits. -/
def integer? (n : Int) : Option Document :=
  if -(Nat.pow 2 63 : Int) ≤ n && n < (Nat.pow 2 63 : Int) then some (.num (.int n)) else none

/-- Reads an integer in another base after its mark. -/
def readBase (base : Nat) (cs : List Char) : Option (Document × List Char) :=
  let (digits, rest) := takeDigits (fun c => (Document.hexValue? c).any (· < base)) cs
  if digits.isEmpty then none
  else (integer? ((valuesOf digits).foldl (fun n d => n * base + d) 0 : Nat)).map fun d => (d, rest)

/-- A floating-point number, rounded once. One above all that can be represented is refused; one
below them follows the format but has no value. -/
def float? (n : Numeral) : Option Document :=
  match n.nearest? with
  | some x => some (.num (.float x))
  | none => if n.negative then some (.stop .valueless) else none

/-- Reads a sign, if there is one: whether it is negative. -/
def readSign : List Char → Bool × List Char
  | '+' :: cs => (false, cs)
  | '-' :: cs => (true, cs)
  | cs => (false, cs)

/-- Reads a point and the digits after it, if there is one. -/
def readFraction : List Char → Option (Option (List Nat) × List Char)
  | '.' :: cs =>
    match takeDigits Char.isDigit cs with
    | ([], _) => none
    | (digits, rest) => some (some (valuesOf digits), rest)
  | cs => some (none, cs)

/-- Reads an exponent, if there is one. -/
def readExponent : List Char → Option (Option (Bool × List Nat) × List Char)
  | c :: cs =>
    if c == 'e' || c == 'E' then
      let (negative, cs) := readSign cs
      match takeDigits Char.isDigit cs with
      | ([], _) => none
      | (digits, rest) => some (some (negative, valuesOf digits), rest)
    else some (none, c :: cs)
  | [] => some (none, [])

/-- Reads the digits before a point: a zero stands alone. -/
def readWhole : List Char → Option (List Nat × List Char)
  | '0' :: cs => some ([0], cs)
  | cs =>
    match takeDigits Char.isDigit cs with
    | ([], _) => none
    | (digits, rest) => some (valuesOf digits, rest)

/-- Reads a decimal number after its sign. -/
def readDecimal (negative : Bool) (cs : List Char) : Option (Document × List Char) := do
  let (whole, rest) ← readWhole cs
  let (fraction, rest) ← readFraction rest
  let (exponent, rest) ← readExponent rest
  match fraction, exponent with
  | none, none =>
    let n : Int := Numeral.ofDigits whole
    let d ← integer? (if negative then -n else n)
    return (d, rest)
  | _, _ =>
    let d ← float? ⟨negative, whole, fraction, exponent⟩
    return (d, rest)

/-- Reads a number. Infinity, and what is not a number, follow the format but have no value. -/
def readNumber (cs : List Char) : Option (Document × List Char) :=
  match cs with
  | '0' :: 'x' :: rest => readBase 16 rest
  | '0' :: 'o' :: rest => readBase 8 rest
  | '0' :: 'b' :: rest => readBase 2 rest
  | _ =>
    match readSign cs with
    | (_, 'i' :: 'n' :: 'f' :: rest) => some (.stop .valueless, rest)
    | (_, 'n' :: 'a' :: 'n' :: rest) => some (.stop .valueless, rest)
    | (negative, rest) => readDecimal negative rest

/-! ### Dates and times -/

/-- Reads a number of `digits` digits that lies between two bounds. -/
def readFixed (digits low high : Nat) (cs : List Char) : Option (Nat × List Char) :=
  let front := cs.take digits
  if front.length = digits && front.all Char.isDigit then
    let n := Numeral.ofDigits (valuesOf front)
    if low ≤ n && n ≤ high then some (n, cs.drop digits) else none
  else none

/-- What follows a character that must stand here. -/
def after? (mark : Char) : List Char → Option (List Char)
  | c :: cs => if c == mark then some cs else none
  | [] => none

/-- The number of days of a month. -/
def daysOf (year month : Nat) : Nat :=
  if month = 2 then if year % 4 = 0 && (year % 100 != 0 || year % 400 = 0) then 29 else 28
  else if [4, 6, 9, 11].contains month then 30
  else 31

/-- What follows a date. -/
def afterDate? (cs : List Char) : Option (List Char) := do
  let (year, rest) ← readFixed 4 0 9999 cs
  let rest ← after? '-' rest
  let (month, rest) ← readFixed 2 1 12 rest
  let rest ← after? '-' rest
  let (_, rest) ← readFixed 2 1 (daysOf year month) rest
  return rest

/-- What follows the hours and minutes of a time. -/
def afterMinutes? (cs : List Char) : Option (List Char) := do
  let (_, rest) ← readFixed 2 0 23 cs
  let rest ← after? ':' rest
  let (_, rest) ← readFixed 2 0 59 rest
  return rest

/-- What follows a time. -/
def afterTime? (cs : List Char) : Option (List Char) := do
  let rest ← afterMinutes? cs
  let rest ← after? ':' rest
  let (_, rest) ← readFixed 2 0 60 rest
  match rest with
  | '.' :: more => if more.head?.any Char.isDigit then return more.dropWhile Char.isDigit else none
  | rest => return rest

/-- What follows the distance of a time from the standard time, if that is given. -/
def afterOffset (cs : List Char) : List Char :=
  match cs with
  | c :: rest =>
    if c == 'Z' || c == 'z' then rest
    else if c == '+' || c == '-' then (afterMinutes? rest).getD cs
    else cs
  | [] => []

/-- What follows a date, a time, or both. -/
def afterMoment? (cs : List Char) : Option (List Char) :=
  match afterDate? cs with
  | some rest =>
    match rest with
    | c :: more =>
      if c == 'T' || c == 't' || c == ' ' then some (((afterTime? more).map afterOffset).getD rest)
      else some rest
    | [] => some []
  | none => afterTime? cs

/-- Reads a date, a time, or both. A moment is a record of a kind of its own, with a single entry
that no other record has. -/
def readMoment (cs : List Char) : Option (Document × List Char) :=
  (afterMoment? cs).map fun rest =>
    (.map [("", .str (String.ofList (cs.take (cs.length - rest.length))))] none, rest)

end Sitewright.Toml
