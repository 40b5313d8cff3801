import Sitewright.Text.Class
import Sitewright.Text.Lines

/-!
# Field paths

A field path addresses a place in a configuration: a list of segments, each an object key or the
decimal index of a list item. Edits name their targets by paths, and differences are reported at
paths.

A path has two written forms. The dotted form is for people and for exchange; it can only be read
back if every segment is non-empty and made of letters, numbers, hyphens and underscores. The
pointer form admits any segment: the slash that separates segments and the tilde that marks an
escape are themselves escaped.
-/

namespace Sitewright

/-- A place in a configuration, as the keys and indices that lead to it. -/
structure FieldPath where
  /-- The keys and indices, from the outside in. -/
  segments : List String
  deriving DecidableEq

/-- Why a text is not a field path. -/
inductive PathError where
  /-- Two dots stand side by side, or a dot stands at an end. -/
  | emptySegment
  /-- A segment holds a character that no segment may hold. -/
  | invalidSegment (segment : String)
  deriving DecidableEq

/-- The wording of a path error. -/
def PathError.message : PathError → String
  | emptySegment => "path contains empty segment"
  | invalidSegment segment =>
    "invalid segment: " ++ segment ++ " (must be alphanumeric, '-' or '_')"

namespace FieldPath

/-- The path of the whole configuration. -/
def root : FieldPath := ⟨[]⟩

/-- The path of a place inside an object or list. -/
def child (path : FieldPath) (segment : String) : FieldPath := ⟨path.segments ++ [segment]⟩

/-- The path of a list item. -/
def item (path : FieldPath) (index : Nat) : FieldPath := path.child (toString index)

/-- The path of the place that directly holds this one; the root has none. -/
def parent? (path : FieldPath) : Option FieldPath :=
  if path.segments.isEmpty then none else some ⟨path.segments.dropLast⟩

/-- The last segment; the root has none. -/
def last? (path : FieldPath) : Option String := path.segments.getLast?

/-- Whether a path lies at or below this one. -/
def covers (path other : FieldPath) : Bool := path.segments.isPrefixOf other.segments

/-- Whether a path lies below this one. -/
def isAbove (path other : FieldPath) : Bool :=
  path.segments.length < other.segments.length && path.covers other

/-- The order of segment lists, by the code points of the segments. -/
def compareSegments : List String → List String → Ordering
  | [], [] => .eq
  | [], _ :: _ => .lt
  | _ :: _, [] => .gt
  | a :: as, b :: bs => if a = b then compareSegments as bs else if a < b then .lt else .gt

/-! ### Dotted form -/

/-- The dotted form. -/
def dotted (path : FieldPath) : String := Text.joinWith "." path.segments

/-- Whether a character may stand in a segment of the dotted form. -/
def isSegmentChar (c : Char) : Bool := Text.isAlphanumeric c || c == '_' || c == '-'

/-- Checks one segment of a dotted path. -/
def checkSegment (segment : String) : Except PathError String :=
  if segment.isEmpty then .error .emptySegment
  else if segment.toList.all isSegmentChar then .ok segment
  else .error (.invalidSegment segment)

/-- Reads the dotted form. The empty text is the root; of several bad segments the first counts. -/
def parse (s : String) : Except PathError FieldPath :=
  if s.isEmpty then .ok root
  else ((Text.splitOn '.' s).mapM checkSegment).map FieldPath.mk

/-- The path of a dotted form that is written out in the library. -/
def field (s : String) : FieldPath := ⟨Text.splitOn '.' s⟩

/-! ### Pointer form -/

/-- One character of a segment in pointer form. -/
def escapePointerChar (c : Char) : List Char :=
  if c == '~' then ['~', '0'] else if c == '/' then ['~', '1'] else [c]

/-- The pointer form: every segment after a slash. -/
def pointer (path : FieldPath) : String :=
  String.ofList (path.segments.flatMap fun segment =>
    '/' :: segment.toList.flatMap escapePointerChar)

/-! ### Laws -/

@[simp] theorem segments_child (path : FieldPath) (segment : String) :
    (path.child segment).segments = path.segments ++ [segment] := rfl

@[simp] theorem parent?_child (path : FieldPath) (segment : String) :
    (path.child segment).parent? = some path := by
  simp [parent?, child]

@[simp] theorem last?_child (path : FieldPath) (segment : String) :
    (path.child segment).last? = some segment := by
  simp [last?, child]

theorem covers_iff {path other : FieldPath} :
    path.covers other = true ↔ path.segments <+: other.segments :=
  List.isPrefixOf_iff_prefix

theorem covers_self (path : FieldPath) : path.covers path = true :=
  covers_iff.mpr (List.prefix_refl _)

end FieldPath

end Sitewright
