import Sitewright.Codec.Error
import Sitewright.Codec.Outline
import Sitewright.Codec.Schema
import Sitewright.Json.Reader

/-!
# Codecs

A codec is a two-way description of how the values of a type are written: it reads them from
documents, writes them as JSON, and describes them by a schema and by an outline of what it reads.
Each record of a configuration has one codec, and its reading, writing, schema and outline follow
from the same list of fields.

Formats differ in details that have nothing to do with the records: what is said about a list with
too many items, or what counts as nothing after a choice. These details are a `Dialect`.

Writing keeps the fields in the order of their declaration; `Codec.encode` sorts them.
-/

namespace Sitewright

/-- What a format decides about reading. -/
structure Dialect where
  /-- The fault of a record given as a list with too many items, if that is one: the number of
  items, and the number of fields. -/
  surplus : Nat → Nat → Option ReadError
  /-- Whether an empty map counts as the absent value after a choice. -/
  emptyMapIsUnit : Bool
  /-- Whether an empty list counts as the absent value after a choice. -/
  emptyListIsUnit : Bool
  /-- Whether a choice that is neither a text nor a map breaks the format itself. -/
  strictChoice : Bool

namespace Dialect

/-- Reading from a value. -/
def value : Dialect where
  surplus length _ := some (.invalidLength length "fewer elements in array")
  emptyMapIsUnit := false
  emptyListIsUnit := false
  strictChoice := false

/-- Reading the fields that stand beside the tag of a tagged value. -/
def tagged : Dialect where
  surplus length fields :=
    some (.invalidLength length (ReadError.elements fields ++ " in sequence"))
  emptyMapIsUnit := true
  emptyListIsUnit := false
  strictChoice := false

/-- Reading from JSON text. -/
def jsonText : Dialect where
  surplus _ _ := some (.broken .malformed)
  emptyMapIsUnit := false
  emptyListIsUnit := false
  strictChoice := true

/-- Reading from TOML text. -/
def tomlText : Dialect where
  surplus _ _ := none
  emptyMapIsUnit := true
  emptyListIsUnit := true
  strictChoice := false

end Dialect

/-- How the values of a type are read, written and described. -/
structure Codec (α : Type) where
  /-- The description. -/
  schema : Schema
  /-- What is looked for in a document. -/
  outline : Outline
  /-- The value of a document. -/
  read : Dialect → Document → Except ReadError α
  /-- The written form, with fields in the order of their declaration. -/
  write : α → Json

namespace Codec

variable {α : Type}

/-- The written form with sorted fields. -/
def encode (codec : Codec α) (a : α) : Json := (codec.write a).sorted

/-- The value that a JSON value stands for. -/
def decode (codec : Codec α) (v : Json) : Except ReadError α :=
  codec.read Dialect.value (Document.ofJson v)

/-- The value that a JSON text stands for. -/
def decodeText (codec : Codec α) (s : String) : Except ReadError α := do
  let (document, trailing) := Document.readJson s
  let a ← codec.read Dialect.jsonText document
  match trailing with
  | none => return a
  | some b => throw (.broken b)

/-! ### Scalars -/

/-- Texts. -/
def text : Codec String where
  schema := ⟨.text, []⟩
  outline := .text
  read _ d :=
    match d with
    | .str s => .ok s
    | d => .error (d.mismatch "a string")
  write := .str

/-- Truth values. -/
def truth : Codec Bool where
  schema := ⟨.truth, []⟩
  outline := .truth
  read _ d :=
    match d with
    | .bool b => .ok b
    | d => .error (d.mismatch "a boolean")
  write := .bool

/-- An integer below a bound. -/
def checkBounded (bound : Nat) (kind : String) (n : Int) : Except ReadError (Fin bound) :=
  if h : 0 ≤ n ∧ n.toNat < bound then .ok ⟨n.toNat, h.2⟩
  else .error (.invalidValue (.num (.int n)) kind)

/-- Natural numbers below a bound that their type carries. -/
def bounded (bound : Nat) (kind format : String) : Codec (Fin bound) where
  schema := ⟨.natural format, []⟩
  outline := .natural
  read _ d :=
    match d with
    | .num (.int n) => checkBounded bound kind n
    | d => .error (d.mismatch kind)
  write n := .ofNat n

/-- Natural numbers of 8 bits. -/
def byte : Codec (Fin UInt8.size) := bounded UInt8.size "u8" "uint8"

/-- Natural numbers of 32 bits. -/
def word : Codec (Fin UInt32.size) := bounded UInt32.size "u32" "uint32"

/-- Natural numbers that are read only below a bound. -/
def natural (bound : Nat) (kind format : String) : Codec Nat where
  schema := ⟨.natural format, []⟩
  outline := .natural
  read dialect d := ((bounded bound kind format).read dialect d).map (·.val)
  write := .ofNat

/-- Natural numbers of 64 bits that count something. -/
def count : Codec Nat := natural UInt64.size "usize" "uint"

/-- Natural numbers of 64 bits. -/
def long : Codec Nat := natural UInt64.size "u64" "uint64"

/-! ### Containers -/

/-- Values that may be absent. -/
def nullable (codec : Codec α) : Codec (Option α) where
  schema := ⟨.nullable codec.schema.shape, codec.schema.definitions⟩
  outline := .nullable codec.outline
  read dialect d :=
    match d with
    | .null => .ok none
    | d => (codec.read dialect d).map some
  write
    | none => .null
    | some a => codec.write a

/-- Reads values one after the other. -/
def readItems (read : Document → Except ReadError α) :
    List Document → Option Stop → Except ReadError (List α)
  | [], none => .ok []
  | [], some s => .error (.broken s.onRead)
  | d :: rest, ending => do
    let a ← read d
    let as ← readItems read rest ending
    return a :: as

/-- Lists. -/
def list (codec : Codec α) : Codec (List α) where
  schema := ⟨.list codec.schema.shape, codec.schema.definitions⟩
  outline := .list codec.outline
  read dialect d :=
    match d with
    | .list items ending => readItems (codec.read dialect) items ending
    | d => .error (d.mismatch "a sequence")
  write as := .arr (as.map codec.write)

/-! ### Choices -/

/-- The value with a tag. -/
def ofTag? (all : List α) (tag : α → String) (name : String) : Option α :=
  all.find? fun a => tag a == name

/-- The value with a tag, or the fault of an unknown one. -/
def checkTag (all : List α) (tag : α → String) (name : String) : Except ReadError α :=
  match ofTag? all tag name with
  | some a => .ok a
  | none => .error (.unknownVariant name (all.map tag))

/-- Checks that nothing is said after a choice. -/
def checkUnit (dialect : Dialect) : Document → Except ReadError Unit
  | .null => .ok ()
  | .map [] none => if dialect.emptyMapIsUnit then .ok () else .error (.invalidType .map "unit")
  | .list [] none => if dialect.emptyListIsUnit then .ok () else .error (.invalidType .list "unit")
  | d => .error (d.mismatch "unit")

/-- Reads a choice that is written as a map. -/
def readChoiceMap (all : List α) (tag : α → String) (dialect : Dialect) :
    List (String × Document) → Option Stop → Except ReadError α
  | [], some s => .error s.choiceFault
  | [(key, d)], ending => do
    let a ← checkTag all tag key
    checkUnit dialect d
    match ending with
    | none => return a
    | some s => throw s.choiceFault
  | (key, d) :: _ :: _, _ =>
    if dialect.strictChoice then do
      let _ ← checkTag all tag key
      checkUnit dialect d
      throw (.broken .malformed)
    else .error (.invalidValue .map "map with a single key")
  | [], none =>
    if dialect.strictChoice then .error (.broken .malformed)
    else .error (.invalidValue .map "map with a single key")

/-- A closed choice, each value under its tag. -/
def choice (name : String) (definition : Json) (all : List α) (tag : α → String) : Codec α where
  schema := ⟨.named name, [(name, definition)]⟩
  outline := .choice
  read dialect d :=
    match d with
    | .str s => checkTag all tag s
    | .map entries ending => readChoiceMap all tag dialect entries ending
    | .stop s => .error s.choiceFault
    | d =>
      if dialect.strictChoice then .error (.broken .malformed)
      else .error (d.mismatch "string or map")
  write a := .str (tag a)

/-- The definition of a choice whose values speak for themselves. -/
def tagsDefinition (about : String) (tags : List String) : Json :=
  .obj [("description", .str about), ("enum", Json.ofTexts tags), ("type", .str "string")]

/-- The definition of a choice each of whose values is described. -/
def describedDefinition (about : String) (values : List (String × String)) : Json :=
  .obj [("description", .str about),
    ("oneOf", .arr (values.map fun (tag, meaning) => tagsDefinition meaning [tag]))]

end Codec

end Sitewright
