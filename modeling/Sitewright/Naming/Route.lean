import Sitewright.Text.Words

/-!
# Routes

The route of a page as configurations write it is free text. The route it is published under is made
of segments, each of lower-case words with hyphens between them, and the segments are joined by
slashes. Hyphens, underscores and spaces separate words, slashes separate segments, and all other
characters are dropped. A text of which nothing is left has no route: such a page is taken for the
homepage.
-/

namespace Sitewright.Route

/-- Whether a character separates the words of a segment. -/
def isGap (c : Char) : Bool := c == '-' || c == '_' || c == ' '

/-- One segment of a route. -/
def segment (cs : List Char) : List Char :=
  let kept := (cs.filter fun c => c.isAlphanum || isGap c).map Char.toLower
  Text.hyphenated (Text.wordsOf (fun c => !isGap c) kept)

/-- The segments of a route. -/
def segments (cs : List Char) : List (List Char) :=
  ((Text.splitBy (· == '/') cs).map segment).filter fun s => !s.isEmpty

/-- The route that a page is published under. -/
def normalize? (s : String) : Option String :=
  let parts := segments s.toList
  if parts.isEmpty then none else some (String.ofList (List.intercalate ['/'] parts))

theorem normalize?_eq_none_iff {s : String} : normalize? s = none ↔ segments s.toList = [] := by
  simp [normalize?]

/-- A route as it is named to people: the published one after a slash, or the text as it is if there
is none. -/
def display (s : String) : String :=
  match normalize? s with
  | some route => "/" ++ route
  | none => s

end Sitewright.Route
