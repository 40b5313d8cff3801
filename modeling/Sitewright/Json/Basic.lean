import Sitewright.Entries
import Sitewright.Number.Binary64

/-!
# JSON values

The data that site configurations are exchanged in. An object is a list of entries sorted by key,
each key once; the operations here keep it so, and `Json.obj` is otherwise unconstrained, so that a
value can also be held in the order in which its fields are declared until it is sorted.

Equality of values is `Json.same`. It is structural except that the two floating-point zeros are
equal; an integer never equals a floating-point number.
-/

namespace Sitewright

/-- A JSON number: an integer, or a binary floating-point number. -/
inductive JsonNumber where
  /-- An integer from `-2 ^ 63` to `2 ^ 64 - 1`. -/
  | int (n : Int)
  /-- A number written with a fraction or an exponent, or too large for an integer. -/
  | float (x : Binary64)
  deriving DecidableEq

/-- Equality of numbers: integers by value, floating-point numbers numerically. -/
def JsonNumber.same : JsonNumber → JsonNumber → Bool
  | .int m, .int n => m == n
  | .float x, .float y => x.same y
  | _, _ => false

/-- The text of a number. -/
def JsonNumber.text : JsonNumber → String
  | .int n => toString n
  | .float x => x.text

/-- A JSON value. -/
inductive Json where
  /-- The absent value. -/
  | null
  /-- A truth value. -/
  | bool (b : Bool)
  /-- A number. -/
  | num (n : JsonNumber)
  /-- A text. -/
  | str (s : String)
  /-- A list of values. -/
  | arr (items : List Json)
  /-- Values under keys. -/
  | obj (entries : List (String × Json))

namespace Json

instance : Inhabited Json := ⟨null⟩

/-- An integer as a value. -/
def ofInt (n : Int) : Json := num (.int n)

/-- A natural number as a value. -/
def ofNat (n : Nat) : Json := num (.int n)

/-- An optional text: absence is `null`. -/
def ofText? : Option String → Json
  | none => null
  | some s => str s

/-- A list of texts. -/
def ofTexts (texts : List String) : Json := arr (texts.map str)

/-! ### Equality -/

mutual

/-- Whether two values are equal. -/
def same : Json → Json → Bool
  | null, null => true
  | bool a, bool b => a == b
  | num a, num b => a.same b
  | str a, str b => a == b
  | arr a, arr b => sameItems a b
  | obj a, obj b => sameEntries a b
  | _, _ => false

/-- Whether two lists hold equal values in the same order. -/
def sameItems : List Json → List Json → Bool
  | [], [] => true
  | a :: as, b :: bs => a.same b && sameItems as bs
  | _, _ => false

/-- Whether two lists hold equal values under the same keys in the same order. -/
def sameEntries : List (String × Json) → List (String × Json) → Bool
  | [], [] => true
  | (k, a) :: as, (l, b) :: bs => k == l && a.same b && sameEntries as bs
  | _, _ => false

end

mutual

/-- Every value equals itself. -/
theorem same_refl : (v : Json) → v.same v = true
  | null => by simp [same]
  | bool b => by simp [same]
  | num (.int n) => by simp [same, JsonNumber.same]
  | num (.float x) => by simp [same, JsonNumber.same, Binary64.same_refl]
  | str s => by simp [same]
  | arr items => by simp [same, sameItems_refl items]
  | obj entries => by simp [same, sameEntries_refl entries]

theorem sameItems_refl : (vs : List Json) → sameItems vs vs = true
  | [] => by simp [sameItems]
  | v :: rest => by simp [sameItems, same_refl v, sameItems_refl rest]

theorem sameEntries_refl : (es : List (String × Json)) → sameEntries es es = true
  | [] => by simp [sameEntries]
  | (k, v) :: rest => by simp [sameEntries, same_refl v, sameEntries_refl rest]

end

instance : BEq Json := ⟨same⟩

/-! ### Objects -/

/-- An object with the given entries. -/
def ofEntries (entries : List (String × Json)) : Json := obj (Entries.sort entries)

/-- The value under a key, if the value is an object that has it. -/
def get? (key : String) : Json → Option Json
  | obj entries => Entries.find? key entries
  | _ => none

/-- The text, if the value is one. -/
def text? : Json → Option String
  | str s => some s
  | _ => none

mutual

/-- The value with the entries of all its objects in the order of their keys. -/
def sorted : Json → Json
  | arr items => arr (sortedItems items)
  | obj entries => ofEntries (sortedValues entries)
  | v => v

/-- The values of a list, sorted one by one. -/
def sortedItems : List Json → List Json
  | [] => []
  | v :: rest => v.sorted :: sortedItems rest

/-- The values of entries, sorted one by one. -/
def sortedValues : List (String × Json) → List (String × Json)
  | [] => []
  | (k, v) :: rest => (k, v.sorted) :: sortedValues rest

end

end Json

end Sitewright
