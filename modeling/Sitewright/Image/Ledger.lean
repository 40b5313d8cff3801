import Sitewright.Entries
import Sitewright.Image.Token
import Sitewright.Render.Section

/-!
# The ledger of a compilation

While the components of a site are drawn, a ledger counts the pictures asked for and collects what
they are said to show. The first requests, up to a limit, become pictures with a token of their own;
the rest become decorations. So the ledger only has to count requests: how many pictures and how
many decorations there are follows from that number and the limit.

The descriptions are read off the finished markup: an image tag whose source is a token that has
been given out describes that token by its alternative text. The first description of a token
stands, and a tag that names a token of a later picture is passed over.
-/

namespace Sitewright

/-! ### Image tags -/

namespace ImageTag

/-- The image tag that the characters start with, up to the first closing bracket. -/
def at? (cs : List Char) : Option (List Char) :=
  (Text.afterPhrase? ['<', 'i', 'm', 'g'] cs).bind fun rest =>
    if rest.head?.any Text.isWordChar || !rest.contains '>' then none
    else some (['<', 'i', 'm', 'g'] ++ rest.takeWhile (· != '>') ++ ['>'])

/-- The image tags of a text. The worker of `allIn`: `skip` characters still belong to a tag that
has been found already. -/
def scan : Nat → List Char → List (List Char)
  | _, [] => []
  | skip + 1, _ :: cs => scan skip cs
  | 0, c :: cs =>
    match at? (c :: cs) with
    | some tag => tag :: scan (tag.length - 1) cs
    | none => scan 0 cs

/-- The image tags of a text. -/
def allIn (cs : List Char) : List (List Char) := scan 0 cs

/-- The digits of the first token in a source attribute of a tag. -/
def digits? (tag : List Char) : Option (List Char) :=
  (Piece.ofChars tag).findSome? fun
    | .char _ => none
    | .source digits => some digits

/-- The value of an alternative text that the characters start with. -/
def alternativeAt? (cs : List Char) : Option (List Char) :=
  (Text.afterPhrase? ['a', 'l', 't', '=', '"'] cs).bind fun rest =>
    if rest.contains '"' then some (rest.takeWhile (· != '"')) else none

/-- The value of the first alternative text of a tag; `inWord` tells whether a word goes on. -/
def alternativeFrom? (inWord : Bool) : List Char → Option (List Char)
  | [] => none
  | c :: cs =>
    match if inWord then none else alternativeAt? (c :: cs) with
    | some value => some value
    | none => alternativeFrom? (Text.isWordChar c) cs

/-- What the picture of a tag shows. -/
def description? (tag : List Char) : Option String :=
  (alternativeFrom? false tag).map fun value => String.ofList (Markup.unescapeChars value)

end ImageTag

/-! ### The ledger -/

/-- What is known of the pictures of a compilation. -/
structure ImageLedger where
  /-- How many requests become pictures. -/
  cap : Nat
  /-- The number of requests so far. -/
  requests : Nat
  /-- What the pictures show, by token. -/
  descriptions : List (String × String)
  deriving DecidableEq

namespace ImageLedger

/-- A ledger without requests. -/
def empty (cap : Nat) : ImageLedger := ⟨cap, 0, []⟩

/-- The number of pictures. -/
def minted (ledger : ImageLedger) : Nat := min ledger.cap ledger.requests

/-- The number of decorations. -/
def fallbacks (ledger : ImageLedger) : Nat := ledger.requests - ledger.minted

/-- The tokens of the pictures, in order. -/
def tokens (ledger : ImageLedger) : List String :=
  (List.range ledger.minted).map fun n => imageToken (n + 1)

/-- The token of the next picture, or none if the limit is reached, and the ledger with the request
counted. -/
def mint (ledger : ImageLedger) : Option String × ImageLedger :=
  (if ledger.requests < ledger.cap then some (imageToken (ledger.requests + 1)) else none,
    { ledger with requests := ledger.requests + 1 })

/-- The number that ASCII digits stand for. -/
def numberOf? (digits : List Char) : Option Nat :=
  if digits.all Char.isDigit then
    some (digits.foldl (fun n c => 10 * n + (c.toNat - '0'.toNat)) 0)
  else none

/-- Whether digits name a picture that has been given out. -/
def isMinted (ledger : ImageLedger) (digits : List Char) : Bool :=
  (numberOf? digits).any fun n => 1 ≤ n && n ≤ ledger.minted

/-- The token that a tag describes, and the description. -/
def described? (ledger : ImageLedger) (tag : List Char) : Option (String × String) :=
  (ImageTag.digits? tag).bind fun digits =>
    if ledger.isMinted digits then
      (Text.unlessBlank (ImageTag.description? tag)).map fun description =>
        (String.ofList (imageTokenHead ++ digits), description)
    else none

/-- The ledger with the description of a tag, unless its token has one already. -/
def note (ledger : ImageLedger) (tag : List Char) : ImageLedger :=
  match ledger.described? tag with
  | some (token, description) =>
    { ledger with
      descriptions := Entries.insertNew token description ledger.descriptions }
  | none => ledger

/-- The ledger with the descriptions of all image tags of a text. -/
def harvest (ledger : ImageLedger) (markup : String) : ImageLedger :=
  (ImageTag.allIn markup.toList).foldl note ledger

/-- The text of a source, with its requests placed, and the ledger with its descriptions. -/
def draw (ledger : ImageLedger) (source : SectionSource ImageRequest) : String × ImageLedger :=
  let (placed, after) := source.place ledger.cap ledger.requests
  let text := placed.text
  (text, ({ ledger with requests := after } : ImageLedger).harvest text)

/-! ### Counting -/

theorem minted_le_cap (ledger : ImageLedger) : ledger.minted ≤ ledger.cap := Nat.min_le_left ..

/-- Every request becomes a picture or a decoration. -/
theorem minted_add_fallbacks (ledger : ImageLedger) :
    ledger.minted + ledger.fallbacks = ledger.requests := by
  unfold fallbacks minted
  omega

@[simp] theorem length_tokens (ledger : ImageLedger) : ledger.tokens.length = ledger.minted := by
  simp [tokens]

@[simp] theorem requests_note (ledger : ImageLedger) (tag : List Char) :
    (ledger.note tag).requests = ledger.requests := by
  unfold note
  split <;> rfl

@[simp] theorem cap_note (ledger : ImageLedger) (tag : List Char) :
    (ledger.note tag).cap = ledger.cap := by
  unfold note
  split <;> rfl

/-- Descriptions change neither the count nor the limit. -/
theorem foldl_note (ledger : ImageLedger) (tags : List (List Char)) :
    (tags.foldl note ledger).requests = ledger.requests ∧
      (tags.foldl note ledger).cap = ledger.cap := by
  induction tags generalizing ledger with
  | nil => simp
  | cons tag rest ih => simpa using ih (ledger.note tag)

@[simp] theorem requests_harvest (ledger : ImageLedger) (markup : String) :
    (ledger.harvest markup).requests = ledger.requests := (foldl_note ..).1

@[simp] theorem cap_harvest (ledger : ImageLedger) (markup : String) :
    (ledger.harvest markup).cap = ledger.cap := (foldl_note ..).2

end ImageLedger

end Sitewright
