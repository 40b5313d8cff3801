import Sitewright.Json.Document

/-!
# Tables

The tables of a TOML text while they are put together. A text may come back to a table and add to
it, but not in every way: how a table came to be decides who may still add to it. A table that is
only mentioned on the way to another one is *implicit* and may later get a header of its own; one
that is made by a key with dots may be extended by such keys; one with a header of its own may not
have a second one, and keys with dots may not reach into it from outside. Tables and lists that are
written as values are closed.

Every operation answers nothing when its rule is broken, so a text that is read to its end has kept
all of them.
-/

namespace Sitewright.Toml

/-- How a table came to be. -/
inductive Origin where
  /-- It is mentioned in the header of another table. -/
  | mentioned
  /-- It is made by a key with dots. -/
  | dotted
  /-- It has a header. -/
  | header
  deriving DecidableEq

/-- What a key of a table stands for. -/
inductive Item where
  /-- A value; nothing can be added to it. -/
  | value (d : Document)
  /-- A table. -/
  | table (origin : Origin) (entries : List (String × Item))
  /-- A list of tables, of which the last one is being added to. -/
  | tables (items : List (List (String × Item)))

/-- The entries of a table, in the order of the text. -/
abbrev Entries := List (String × Item)

namespace Entries

/-- What a key stands for. -/
def find? (key : String) : Entries → Option Item
  | [] => none
  | (k, item) :: rest => if k = key then some item else find? key rest

/-- The entries with an item under a key, in its old place or else at the end. -/
def set (key : String) (item : Item) : Entries → Entries
  | [] => [(key, item)]
  | (k, old) :: rest => if k = key then (key, item) :: rest else (k, old) :: set key item rest

/-- The entries with those of the last table of a list changed. -/
def updateLast? (f : Entries → Option Entries) : List Entries → Option (List Entries)
  | [] => none
  | [last] => (f last).map fun changed => [changed]
  | first :: rest => (updateLast? f rest).map (first :: ·)

/-- Changes the table at the end of a path of keys, where `f` gets to know how that table came to
be. Tables on the way are made as `origin` if they are missing. A key with dots must not pass a
table that has a header. -/
def update? (origin : Origin) (f : Origin → Entries → Option Entries) :
    List String → Origin → Entries → Option Entries
  | [], own, entries => f own entries
  | key :: path, _, entries =>
    match find? key entries with
    | none =>
      (update? origin f path origin []).map fun es => set key (.table origin es) entries
    | some (.value _) => none
    | some (.table own es) =>
      if origin = .dotted && own = .header then none
      else (update? origin f path own es).map fun es => set key (.table own es) entries
    | some (.tables items) =>
      (updateLast? (update? origin f path .header) items).map fun items =>
        set key (.tables items) entries

/-- Adds a value under a key with dots: `path` holds all its parts but the last one. -/
def put? (path : List String) (key : String) (d : Document) (own : Origin) (entries : Entries) :
    Option Entries :=
  let add (origin : Origin) (es : Entries) : Option Entries :=
    if (origin == .dotted) == path.isEmpty then none
    else if (find? key es).isSome then none
    else some (set key (.value d) es)
  update? .dotted add path own entries

/-- The table at the end of a path of keys. One that is missing has no entries. -/
def at? : List String → Entries → Option Entries
  | [], entries => some entries
  | key :: path, entries =>
    match find? key entries with
    | none => some []
    | some (.value _) => none
    | some (.table _ es) => at? path es
    | some (.tables items) => items.getLast?.bind (at? path)

/-- The entries that a table starts with when its header is met, if it may have one: none, or those
of a table that has only been mentioned. -/
def opening? (key : String) (entries : Entries) : Option Entries :=
  match find? key entries with
  | none => some []
  | some (.table .mentioned es) => some es
  | some _ => none

/-- The entries that one more table of a list starts with, if there can be such a list. -/
def openingItem? (key : String) (entries : Entries) : Option Entries :=
  match find? key entries with
  | none => some []
  | some (.tables _) => some []
  | some _ => none

/-- The entries with another table in the list under a key. -/
def append? (key : String) (table entries : Entries) : Option Entries :=
  match find? key entries with
  | none => some (set key (.tables [table]) entries)
  | some (.tables items) => some (set key (.tables (items ++ [table])) entries)
  | some _ => none

end Entries

/-! ### Documents -/

mutual

/-- An item as a document. -/
def Item.toDocument : Item → Document
  | .value d => d
  | .table _ entries => .map (documents entries) none
  | .tables items => .list (tableDocuments items) none

/-- The entries of a table as documents. -/
def documents : List (String × Item) → List (String × Document)
  | [] => []
  | (key, item) :: rest => (key, item.toDocument) :: documents rest

/-- The tables of a list as documents. -/
def tableDocuments : List (List (String × Item)) → List Document
  | [] => []
  | entries :: rest => .map (documents entries) none :: tableDocuments rest

end

end Sitewright.Toml
