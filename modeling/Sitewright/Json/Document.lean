import Sitewright.Json.Basic

/-!
# Documents

What a text says, as far as it can be read: values in the order of the text, with repeated keys, and
with a mark wherever reading has to stop. A reader of a format turns the whole text into a document
once; everything that is later asked of the text is asked of the document.

A document keeps what a `Json` value has lost. Which of two faults is met first depends on the order
of the text, a repeated key is a fault of some records, and a text that breaks off still has a
meaning up to the break. What a stop comes to depends on what is wanted there, so it records three
outcomes: that of reading any value, that of passing over it, and that of reading a choice, which
looks no further than the first character. A number too large to represent, half of a surrogate pair
and an overly deep nesting can be passed over.
-/

namespace Sitewright

/-- Why a text cannot be read further. -/
inductive Break where
  /-- The text does not follow the format. -/
  | malformed
  /-- The text ends too early. -/
  | truncated
  deriving DecidableEq

/-- What a document holds at a place, as far as a report shows it. -/
inductive Found where
  /-- The absent value. -/
  | null
  /-- A truth value. -/
  | bool (b : Bool)
  /-- A number. -/
  | num (n : JsonNumber)
  /-- A text. -/
  | str (s : String)
  /-- A list. -/
  | list
  /-- A map. -/
  | map
  deriving DecidableEq

/-- A place where reading stops. -/
structure Stop where
  /-- What happens when the value is read. -/
  onRead : Break
  /-- What happens when the value is passed over; nothing if it can be passed over. -/
  onSkip : Option Break
  /-- What happens when a choice is read. -/
  onChoice : Break
  /-- The value that stands where a choice written as a map has its tag. -/
  instead : Option Found
  deriving DecidableEq

namespace Stop

/-- A place that cannot be passed, whatever is wanted of it. -/
def hard (b : Break) : Stop := ⟨b, some b, b, none⟩

/-- A value that follows the format but cannot be represented. -/
def valueless : Stop := ⟨.malformed, none, .malformed, none⟩

/-- A word that breaks off or is none. No choice starts like it. -/
def word (b : Break) : Stop := ⟨b, some b, .malformed, none⟩

/-- A number that breaks off or is none. -/
def number (b : Break) : Stop := ⟨b, some .malformed, .malformed, none⟩

/-- A text without a value. -/
def text (fault : Break) (onSkip : Option Break) : Stop := ⟨fault, onSkip, fault, none⟩

/-- Another value where a key should stand. -/
def noKey (onChoice : Break) (instead : Option Found) : Stop :=
  ⟨.malformed, some .malformed, onChoice, instead⟩

/-- The same stop after the only entry that a choice can have. -/
def afterEntry (s : Stop) : Stop := { s with onChoice := .malformed, instead := none }

@[simp] theorem afterEntry_onRead (s : Stop) : s.afterEntry.onRead = s.onRead := rfl

@[simp] theorem afterEntry_onSkip (s : Stop) : s.afterEntry.onSkip = s.onSkip := rfl

end Stop

/-- The values of a text in the order of the text. -/
inductive Document where
  /-- The absent value. -/
  | null
  /-- A truth value. -/
  | bool (b : Bool)
  /-- A number. -/
  | num (n : JsonNumber)
  /-- A text. -/
  | str (s : String)
  /-- Values in order, and the stop after them if the list does not end well. -/
  | list (items : List Document) (ending : Option Stop)
  /-- Keys and values in order, and the stop after them if the map does not end well. -/
  | map (entries : List (String × Document)) (ending : Option Stop)
  /-- A place where reading stops. -/
  | stop (s : Stop)

namespace Document

instance : Inhabited Document := ⟨null⟩

/-! ### Values as documents -/

mutual

/-- A value as a document: entries in the order of their keys. -/
def ofJson : Json → Document
  | .null => null
  | .bool b => bool b
  | .num n => num n
  | .str s => str s
  | .arr items => list (ofItems items) none
  | .obj entries => map (ofEntries entries) none

/-- The items of a list as documents. -/
def ofItems : List Json → List Document
  | [] => []
  | v :: rest => ofJson v :: ofItems rest

/-- The entries of an object as documents. -/
def ofEntries : List (String × Json) → List (String × Document)
  | [] => []
  | (k, v) :: rest => (k, ofJson v) :: ofEntries rest

end

/-! ### Documents as values -/

/-- The outcome of reaching the end of a list or map. -/
def endingRead : Option Stop → Except Break Unit
  | none => .ok ()
  | some s => .error s.onRead

mutual

/-- The value of a document: of several entries with one key the last counts. The first stop in the
order of the text is the fault. -/
def toJson : Document → Except Break Json
  | null => .ok .null
  | bool b => .ok (.bool b)
  | num n => .ok (.num n)
  | str s => .ok (.str s)
  | list items ending => do
    let values ← toItems items
    endingRead ending
    return .arr values
  | map entries ending => do
    let values ← toEntries [] entries
    endingRead ending
    return .obj values
  | stop s => .error s.onRead

/-- The values of the items of a list. -/
def toItems : List Document → Except Break (List Json)
  | [] => .ok []
  | d :: rest => do
    let v ← d.toJson
    let vs ← toItems rest
    return v :: vs

/-- The values of the entries of a map, added to those already read. -/
def toEntries (sorted : List (String × Json)) : List (String × Document) →
    Except Break (List (String × Json))
  | [] => .ok sorted
  | (k, d) :: rest => do
    let v ← d.toJson
    toEntries (Entries.insert k v sorted) rest

end

/-! ### Passing over a value -/

mutual

/-- The first stop that cannot be passed over. -/
def skipBreak : Document → Option Break
  | list items ending => (skipItems items).or (ending.bind (·.onSkip))
  | map entries ending => (skipEntries entries).or (ending.bind (·.onSkip))
  | stop s => s.onSkip
  | _ => none

/-- The first stop of a list of values that cannot be passed over. -/
def skipItems : List Document → Option Break
  | [] => none
  | d :: rest => d.skipBreak.or (skipItems rest)

/-- The first stop of the values of a map that cannot be passed over. -/
def skipEntries : List (String × Document) → Option Break
  | [] => none
  | (_, d) :: rest => d.skipBreak.or (skipEntries rest)

end

/-! ### What a document holds -/

/-- What a document holds at its outermost level. -/
def found : Document → Except Stop Found
  | null => .ok .null
  | bool b => .ok (.bool b)
  | num n => .ok (.num n)
  | str s => .ok (.str s)
  | list _ _ => .ok .list
  | map _ _ => .ok .map
  | stop s => .error s

end Document

end Sitewright
