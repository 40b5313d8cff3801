import Sitewright.Codec.Basic

/-!
# Records

The codec of a record is put together from its fields, in the order of declaration. A record is
written as an object. It is read from a map, whose entries may come in any order and of which
unknown ones are passed over, or from a list of the field values in the order of declaration.

Of several faults in a map the one that stands first in the text counts. Every reader of a field
therefore looks for its own entry, reports a fault together with the position of that entry, and two
readers are combined by keeping the fault of the smaller position; an absent field is a fault after
all entries. So the order in which fields are declared and the order in which they are written do
not get into each other's way, and reading a well-formed map is simply reading each field.
-/

namespace Sitewright

/-- A value, or a fault and the position of the entry that it was found at. -/
inductive Attempt (α : Type) where
  /-- Reading succeeded. -/
  | value (a : α)
  /-- Reading failed at an entry. -/
  | fault (position : Nat) (error : ReadError)

namespace Attempt

variable {α β : Type}

/-- Applies one outcome to another; of two faults the earlier one counts, and the left one of two at
the same position. -/
def both : Attempt (α → β) → Attempt α → Attempt β
  | value f, value a => value (f a)
  | fault i e, value _ => fault i e
  | value _, fault j e => fault j e
  | fault i e, fault j e' => if j < i then fault j e' else fault i e

/-- The outcome without the position. -/
def toExcept : Attempt α → Except ReadError α
  | value a => .ok a
  | fault _ e => .error e

@[simp] theorem both_value (f : α → β) (a : α) : both (value f) (value a) = value (f a) := rfl

end Attempt

/-- The first entry with a key: its position, counted from `position`, its value, and the entries
after it. -/
def firstEntry (key : String) (position : Nat) :
    List (String × Document) → Option (Nat × Document × List (String × Document))
  | [] => none
  | (k, d) :: rest =>
    if k = key then some (position, d, rest) else firstEntry key (position + 1) rest

/-- The first entry of another key that cannot be passed over, and the end of the entries. -/
def passOver (keys : List String) (ending : Option Stop) :
    Nat → List (String × Document) → Attempt Unit
  | position, [] =>
    match ending with
    | none => .value ()
    | some s => .fault position (.broken s.onRead)
  | position, (k, d) :: rest =>
    if keys.contains k then passOver keys ending (position + 1) rest
    else
      match d.skipBreak with
      | none => passOver keys ending (position + 1) rest
      | some b => .fault position (.broken b)

/-- A record given as a list of its field values. -/
structure Positional where
  /-- The kind of record. -/
  record : String
  /-- The number of its fields. -/
  fields : Nat
  /-- The field values. -/
  items : List Document
  /-- The stop after them. -/
  ending : Option Stop

/-- The fields of a record of type `ρ` from which an `α` is made. -/
structure Fields (ρ α : Type) where
  /-- What is said about the fields. -/
  members : List Member
  /-- The definitions their schemas mention. -/
  definitions : List (String × Json)
  /-- Reads the fields from the entries of a map. -/
  fromMap : Dialect → List (String × Document) → Attempt α
  /-- Reads the fields from a list, the first of them from the item with the given index. -/
  fromList : Dialect → Positional → Nat → Except ReadError α
  /-- Writes the fields. -/
  toEntries : ρ → List (String × Json)

namespace Fields

variable {ρ α β : Type}

/-- Reads one field from the entries of a map. -/
def readEntry (codec : Codec α) (name : String) (default : Option α) (dialect : Dialect)
    (entries : List (String × Document)) : Attempt α :=
  match firstEntry name 0 entries with
  | none =>
    match default with
    | some a => .value a
    | none => .fault entries.length (.missingField name)
  | some (i, d, rest) =>
    match codec.read dialect d with
    | .error e => .fault i e
    | .ok a =>
      match firstEntry name (i + 1) rest with
      | none => .value a
      | some (j, _, _) => .fault j (.duplicateField name)

/-- Reads one field from a list. -/
def readItem (codec : Codec α) (default : Option α) (dialect : Dialect) (given : Positional)
    (index : Nat) : Except ReadError α :=
  match given.items[index]? with
  | some d => codec.read dialect d
  | none =>
    match given.ending, default with
    | some s, _ => .error (.broken s.onRead)
    | none, some a => .ok a
    | none, none =>
      .error (.invalidLength index
        ("struct " ++ given.record ++ " with " ++ ReadError.elements given.fields))

/-- A field, described by its key, what it means, how it is taken from the record, how its value is
written, and the value it has when it is absent. -/
def ofField (name about : String) (get : ρ → α) (codec : Codec α) (default : Option α) :
    Fields ρ α where
  members := [⟨name, about, codec.schema.shape, codec.outline, default.map codec.write⟩]
  definitions := codec.schema.definitions
  fromMap := readEntry codec name default
  fromList := readItem codec default
  toEntries r := [(name, codec.write (get r))]

instance : Functor (Fields ρ) where
  map f fields :=
    { fields with
      fromMap := fun dialect entries => .both (.value f) (fields.fromMap dialect entries)
      fromList := fun dialect given index => (fields.fromList dialect given index).map f }

instance : Seq (Fields ρ) where
  seq f rest :=
    let g := rest ()
    { members := f.members ++ g.members
      definitions := f.definitions ++ g.definitions
      fromMap := fun dialect entries =>
        .both (f.fromMap dialect entries) (g.fromMap dialect entries)
      fromList := fun dialect given index => do
        let h ← f.fromList dialect given index
        let a ← g.fromList dialect given (index + f.members.length)
        return h a
      toEntries := fun r => f.toEntries r ++ g.toEntries r }

/-- Reads a record from the entries of a map. -/
def readMap (fields : Fields ρ α) (dialect : Dialect) (entries : List (String × Document))
    (ending : Option Stop) : Except ReadError α :=
  let others := passOver (fields.members.map (·.name)) ending 0 entries
  (Attempt.both (.both (.value fun _ a => a) others) (fields.fromMap dialect entries)).toExcept

/-- Reads a record from a list of its field values. -/
def readList (fields : Fields ρ α) (record : String) (dialect : Dialect) (items : List Document)
    (ending : Option Stop) : Except ReadError α := do
  let total := fields.members.length
  let a ← fields.fromList dialect ⟨record, total, items, ending⟩ 0
  let fault := if total < items.length then dialect.surplus items.length total else none
  match fault, ending with
  | some e, _ => throw e
  | none, some s => throw (.broken s.onRead)
  | none, none => return a

/-- Reads a record. -/
def read (fields : Fields ρ α) (record : String) (dialect : Dialect) :
    Document → Except ReadError α
  | .map entries ending => fields.readMap dialect entries ending
  | .list items ending => fields.readList record dialect items ending
  | d => .error (d.mismatch ("struct " ++ record))

end Fields

namespace Codec

variable {ρ α : Type}

/-- A required field. -/
abbrev field (name about : String) (get : ρ → α) (codec : Codec α) : Fields ρ α :=
  .ofField name about get codec none

/-- A field with a value for its absence. -/
abbrev fieldOr (name about : String) (get : ρ → α) (codec : Codec α) (default : α) : Fields ρ α :=
  .ofField name about get codec (some default)

/-- A required text. -/
abbrev textField (name : String) (get : ρ → String) : Fields ρ String := field name "" get text

/-- A text that is empty when it is absent. -/
abbrev textFieldOrEmpty (name : String) (get : ρ → String) : Fields ρ String :=
  fieldOr name "" get text ""

/-- A text that may be absent. -/
abbrev optionalText (name : String) (get : ρ → Option String) : Fields ρ (Option String) :=
  fieldOr name "" get (nullable text) none

/-- A list that is empty when it is absent. -/
abbrev listField (name : String) (get : ρ → List α) (codec : Codec α) : Fields ρ (List α) :=
  fieldOr name "" get (list codec) []

/-- A record with the given fields, under the name that its schema has. -/
def record (name about : String) (fields : Fields ρ ρ) : Codec ρ where
  schema :=
    ⟨.named name, (name, Member.recordSchema about fields.members) :: fields.definitions⟩
  outline := .record (fields.members.map fun member => (member.name, member.outline))
  read := fields.read name
  write r := .obj (fields.toEntries r)

end Codec

end Sitewright
