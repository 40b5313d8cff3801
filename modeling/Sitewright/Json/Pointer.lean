import Sitewright.Json.Basic
import Sitewright.Text.Lines

/-!
# Places in a value

Looking up and changing the value at a list of steps, each an object key or a list index. An index
is written in decimal without leading zeros, so every place has one list of steps. The pointer form
of a place writes the steps after slashes, with the slash and the tilde escaped.
-/

namespace Sitewright.Json

/-- The list index a step stands for. -/
def indexStep? (step : String) : Option Nat :=
  let cs := step.toList
  if cs.isEmpty || !cs.all Char.isDigit || (cs.head? == some '0' && cs.length != 1) then none
  else some (cs.foldl (fun n c => n * 10 + (c.toNat - 48)) 0)

/-- The value one step below. -/
def step? (step : String) : Json → Option Json
  | obj entries => Entries.find? step entries
  | arr items => (indexStep? step).bind fun i => items[i]?
  | _ => none

/-- The value at the end of a list of steps. -/
def at? : List String → Json → Option Json
  | [], v => some v
  | step :: rest, v => (v.step? step).bind (at? rest)

/-- The value with the one a step below replaced, if there is such a place. -/
def setStep? (v : Json) (step : String) (new : Json) : Option Json :=
  match v with
  | obj entries => (Entries.find? step entries).map fun _ => obj (Entries.insert step new entries)
  | arr items =>
    (indexStep? step).bind fun i => if i < items.length then some (arr (items.set i new)) else none
  | _ => none

/-- The value with the one at the end of a list of steps changed by `f`, if there is such a place
and `f` succeeds on it. -/
def updateAt? (f : Json → Option Json) : List String → Json → Option Json
  | [], v => f v
  | step :: rest, v =>
    (v.step? step).bind fun below =>
      (updateAt? f rest below).bind fun changed => v.setStep? step changed

/-- The value with the one at the end of a list of steps replaced, if there is such a place. -/
def setAt? (v : Json) (steps : List String) (new : Json) : Option Json :=
  updateAt? (fun _ => some new) steps v

@[simp] theorem at?_nil (v : Json) : at? [] v = some v := rfl

theorem at?_append (v : Json) (p q : List String) :
    at? (p ++ q) v = (at? p v).bind (at? q) := by
  induction p generalizing v with
  | nil => simp
  | cons step rest ih =>
    simp only [List.cons_append, at?]
    cases v.step? step with
    | none => rfl
    | some below => simp [ih]

/-! ### Pointers -/

/-- One step of a pointer with its escapes undone. -/
def unescapeStep (step : List Char) : List Char :=
  Text.replaceChars ['~', '0'] ['~'] (Text.replaceChars ['~', '1'] ['/'] step)

/-- The steps of a pointer. A pointer is empty or starts with a slash. -/
def pointerSteps? (pointer : String) : Option (List String) :=
  match pointer.toList with
  | [] => some []
  | '/' :: rest =>
    some ((Text.splitBy (· == '/') rest).map fun step => String.ofList (unescapeStep step))
  | _ => none

/-- The value a pointer leads to. -/
def atPointer? (pointer : String) (v : Json) : Option Json :=
  (pointerSteps? pointer).bind fun steps => v.at? steps

/-- The pointer above a pointer, and its last step as it is written. -/
def splitPointer? (pointer : String) : Option (String × String) :=
  match (Text.splitOn '/' pointer).reverse with
  | last :: piece :: pieces => some (String.intercalate "/" (piece :: pieces).reverse, last)
  | _ => none

/-- An object with an entry; other values have no entries. -/
def withEntry (key : String) (new : Json) : Json → Option Json
  | obj entries => some (obj (Entries.insert key new entries))
  | _ => none

/-- The value with the one that a pointer leads to replaced. An entry that is missing from the
object above it is added, and a value without such a place stays as it is. -/
def place (v : Json) (pointer : String) (new : Json) : Json :=
  let set (pointer : String) (f : Json → Option Json) : Option Json :=
    (pointerSteps? pointer).bind fun steps => v.updateAt? f steps
  let added (_ : Unit) : Option Json :=
    (splitPointer? pointer).bind fun (above, key) => set above (withEntry key new)
  ((set pointer fun _ => some new).orElse added).getD v

end Sitewright.Json
