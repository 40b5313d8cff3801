import Sitewright.Json.Document
import Sitewright.Text.Lines
import Sitewright.Text.Quoted

/-!
# Reading faults

Why a document does not have the shape that is asked for. A fault is a cause: what was found, and
what was expected in its place. The wording of all causes is in one function, `ReadError.message`.
-/

namespace Sitewright

/-- The wording of what was found. -/
def Found.text : Found → String
  | null => "null"
  | bool b => "boolean `" ++ (if b then "true" else "false") ++ "`"
  | num (.int n) => "integer `" ++ toString n ++ "`"
  | num (.float x) => "floating point `" ++ x.text ++ "`"
  | str s => "string " ++ Text.quoted s
  | list => "sequence"
  | map => "map"

/-- What a value holds. -/
def Found.ofJson : Json → Found
  | .null => null
  | .bool b => bool b
  | .num n => num n
  | .str s => str s
  | .arr _ => list
  | .obj _ => map

/-- Why a document cannot be read as what is asked for. -/
inductive ReadError where
  /-- The text breaks off. -/
  | broken (b : Break)
  /-- Another kind of value was expected. -/
  | invalidType (found : Found) (expected : String)
  /-- A value of the right kind is out of bounds. -/
  | invalidValue (found : Found) (expected : String)
  /-- A list has the wrong number of items. -/
  | invalidLength (length : Nat) (expected : String)
  /-- A record lacks a field. -/
  | missingField (name : String)
  /-- A record has a field twice. -/
  | duplicateField (name : String)
  /-- A choice is none of those allowed. -/
  | unknownVariant (tag : String) (allowed : List String)
  /-- A text that is read further is not well formed there. -/
  | custom (message : String)
  deriving DecidableEq

namespace ReadError

/-- A name between grave accents. -/
def accented (s : String) : String := "`" ++ s ++ "`"

/-- The allowed choices, as a report lists them. -/
def choices : List String → String
  | [] => "there are no variants"
  | [a] => "expected " ++ accented a
  | [a, b] => "expected " ++ accented a ++ " or " ++ accented b
  | all => "expected one of " ++ Text.joinWith ", " (all.map accented)

/-- The wording of a fault. -/
def message : ReadError → String
  | broken .malformed => "malformed text"
  | broken .truncated => "unexpected end of text"
  | invalidType found expected => "invalid type: " ++ found.text ++ ", expected " ++ expected
  | invalidValue found expected => "invalid value: " ++ found.text ++ ", expected " ++ expected
  | invalidLength length expected =>
    "invalid length " ++ toString length ++ ", expected " ++ expected
  | missingField name => "missing field " ++ accented name
  | duplicateField name => "duplicate field " ++ accented name
  | unknownVariant tag allowed => "unknown variant " ++ accented tag ++ ", " ++ choices allowed
  | custom message => message

/-- A number of elements, as a report counts them. -/
def elements (n : Nat) : String :=
  toString n ++ (if n = 1 then " element" else " elements")

end ReadError

/-- The fault of a document that holds another kind of value than the expected one. -/
def Document.mismatch (d : Document) (expected : String) : ReadError :=
  match d.found with
  | .ok found => .invalidType found expected
  | .error s => .broken s.onRead

/-- The fault of a choice that cannot be read at a stop. -/
def Stop.choiceFault (s : Stop) : ReadError :=
  match s.instead with
  | some found => .invalidType found "variant identifier"
  | none => .broken s.onChoice

end Sitewright
