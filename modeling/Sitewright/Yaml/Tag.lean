import Sitewright.Json.Reader
import Sitewright.Yaml.Cursor

/-!
# Tags

A tag says of what kind a node is. It is written in full between angle brackets, or as a handle and
a rest of it; a handle stands for the start of a tag. Two handles are there in every text, and
others are declared before it.

A reader takes the characters from where the tag starts and answers with what it read and the number
of characters that it takes, or with nothing if the text breaks the format.
-/

namespace Sitewright.Yaml

/-! ### Characters of tags -/

/-- Characters of a tag that stand for themselves; some of them only between angle brackets. -/
def isTagChar (inAngles : Bool) (c : Char) : Bool :=
  isNameChar c || ";/?:@&=+$.!~*'()".toList.contains c || (inAngles && [',', '[', ']'].contains c)

/-- The byte that a percent sign and two digits stand for. -/
def byte? : List Char → Option Nat
  | '%' :: a :: b :: _ => do
    let high ← Document.hexValue? a
    let low ← Document.hexValue? b
    return high * 16 + low
  | _ => none

/-- The number of bytes of a character, and what its first byte says about it. -/
def leadingByte? (n : Nat) : Option (Nat × Nat) :=
  if n < 0x80 then some (1, n)
  else if n < 0xC0 then none
  else if n < 0xE0 then some (2, n - 0xC0)
  else if n < 0xF0 then some (3, n - 0xE0)
  else if n < 0xF8 then some (4, n - 0xF0)
  else none

/-- Adds the next `count` bytes of a character to what is known about it. -/
def trailingBytes? : Nat → Nat → List Char → Option Nat
  | 0, n, _ => some n
  | count + 1, n, cs => do
    let b ← byte? cs
    if 0x80 ≤ b && b < 0xC0 then trailingBytes? count (n * 64 + (b - 0x80)) (cs.drop 3) else none

/-- The character whose bytes are written out, and the number of characters that they take. -/
def bytesChar? (cs : List Char) : Option (Char × Nat) := do
  let (count, n) ← (byte? cs).bind leadingByte?
  let n ← trailingBytes? (count - 1) n (cs.drop 3)
  return (Char.ofNat n, 3 * count)

/-- Reads the characters of a tag. -/
def tagCharsFrom (inAngles : Bool) : Nat → List Char → Option (List Char × Nat)
  | 0, _ => some ([], 0)
  | bound + 1, cs =>
    match cs with
    | '%' :: _ => do
      let (c, size) ← bytesChar? cs
      let (more, count) ← tagCharsFrom inAngles bound (cs.drop size)
      return (c :: more, size + count)
    | c :: rest =>
      if isTagChar inAngles c then
        (tagCharsFrom inAngles bound rest).map fun (more, count) => (c :: more, count + 1)
      else some ([], 0)
    | [] => some ([], 0)

/-- Reads the characters of a tag. -/
def readTagChars (inAngles : Bool) (cs : List Char) : Option (List Char × Nat) :=
  tagCharsFrom inAngles cs.length cs

/-- Reads the characters of a tag, of which there is at least one. -/
def readSomeTagChars (inAngles : Bool) (cs : List Char) : Option (List Char × Nat) :=
  (readTagChars inAngles cs).filter fun read => 0 < read.2

/-! ### Tags as they are written -/

/-- A tag as it is written. -/
structure TagText where
  /-- The handle, which is empty for a tag in full. -/
  handle : String
  /-- The rest of the tag. -/
  suffix : String
  deriving DecidableEq

/-- The characters of a handle: an exclamation mark, a name, and perhaps another mark. -/
def handleChars : List Char → List Char
  | '!' :: cs =>
    let name := cs.takeWhile isNameChar
    '!' :: name ++ (if cs[name.length]? == some '!' then ['!'] else [])
  | _ => []

/-- Whether a handle is closed by a second mark. -/
def isClosed (handle : List Char) : Bool := 1 < handle.length && handle.getLast? == some '!'

/-- Reads a tag after its mark, up to what may follow a tag. -/
def readTag (cs : List Char) : Option (TagText × Nat) :=
  match cs with
  | '!' :: '<' :: rest => do
    let (chars, count) ← readSomeTagChars true rest
    if rest[count]? == some '>' then return (⟨"", String.ofList chars⟩, count + 3) else none
  | _ =>
    let handle := handleChars cs
    let rest := cs.drop handle.length
    if isClosed handle then
      (readSomeTagChars false rest).map fun (chars, count) =>
        (⟨String.ofList handle, String.ofList chars⟩, handle.length + count)
    else
      (readTagChars false rest).map fun (chars, count) =>
        let suffix := handle.drop 1 ++ chars
        (if suffix.isEmpty then ⟨"", "!"⟩ else ⟨"!", String.ofList suffix⟩,
          handle.length + count)

/-! ### Tags -/

/-- The starts of tags that handles stand for. -/
abbrev TagHandles := List (String × String)

/-- The handles that are there in every text. -/
def TagHandles.standard : TagHandles := [("!", "!"), ("!!", "tag:yaml.org,2002:")]

/-- The tag that is written. Its handle must have been declared. -/
def TagText.resolve? (handles : TagHandles) (tag : TagText) : Option String :=
  if tag.handle.isEmpty then some tag.suffix
  else (handles.lookup tag.handle).map fun start => start ++ tag.suffix

/-- The tag of truth values. -/
def truthTag : String := "tag:yaml.org,2002:bool"

/-- The tag of integers. -/
def integerTag : String := "tag:yaml.org,2002:int"

/-- The tag of floating-point numbers. -/
def floatTag : String := "tag:yaml.org,2002:float"

/-- The tag of the absent value. -/
def nullTag : String := "tag:yaml.org,2002:null"

/-- The choice that a tag names, if it is one of the text itself. -/
def choiceOf? (tag : String) : Option String :=
  match tag.toList with
  | ['!'] => some "!"
  | '!' :: name => some (String.ofList name)
  | _ => none

end Sitewright.Yaml
