import Sitewright.FieldPath
import Sitewright.Json.Pointer

/-!
# Differences

The difference of two values as a list of changed paths. Objects are compared key by key, lists of
one length item by item; lists of different lengths, and all other values, either are equal or have
changed as a whole. A reported path never lies above another, so the changes are independent of each
other: replaying them in any order on the old value, with values taken from the new one, gives the
new value.

Changes come in the order of the old value, with the keys that only the new value has after the keys
of the old one.
-/

namespace Sitewright

/-- What happened at a path. -/
inductive ChangeKind where
  /-- Only the new value has the key. -/
  | added
  /-- Only the old value has the key. -/
  | removed
  /-- Both have the place, with different values. -/
  | modified
  deriving DecidableEq

/-- The name of a kind of change in exchanged data. -/
def ChangeKind.tag : ChangeKind → String
  | added => "added"
  | removed => "removed"
  | modified => "modified"

/-- The mark of a kind of change in a printed difference. -/
def ChangeKind.mark : ChangeKind → String
  | added => "+"
  | removed => "-"
  | modified => "~"

/-- One changed path. -/
structure Change where
  /-- Where the change is. -/
  path : FieldPath
  /-- What happened there. -/
  kind : ChangeKind
  deriving DecidableEq

namespace Change

/-- The change seen from one step further outside. -/
def under (step : String) (change : Change) : Change :=
  { change with path := ⟨step :: change.path.segments⟩ }

/-- The printed form. -/
def text (change : Change) : String := change.kind.mark ++ " " ++ change.path.dotted

/-- The exchanged form. -/
def toJson (change : Change) : Json :=
  .obj [("path", .str change.path.dotted), ("kind", .str change.kind.tag)]

end Change

/-- The keys of `new` that `old` does not have, as added. -/
def addedKeys (old new : List (String × Json)) : List Change :=
  (new.filter fun entry => (Entries.find? entry.1 old).isNone).map fun entry =>
    ⟨⟨[entry.1]⟩, .added⟩

mutual

/-- The changes from one value to another. -/
def changes : Json → Json → List Change
  | .obj a, .obj b => entryChanges a b ++ addedKeys a b
  | .arr a, .arr b =>
    if a.length = b.length then itemChanges 0 a b
    else [⟨.root, .modified⟩]
  | a, b => if a.same b then [] else [⟨.root, .modified⟩]

/-- The changes at the keys of the old object. -/
def entryChanges : List (String × Json) → List (String × Json) → List Change
  | [], _ => []
  | (k, v) :: rest, b =>
    (match Entries.find? k b with
      | some w => (changes v w).map (Change.under k)
      | none => [⟨⟨[k]⟩, .removed⟩]) ++ entryChanges rest b

/-- The changes of list items, the first of which has the given index. -/
def itemChanges : Nat → List Json → List Json → List Change
  | index, v :: vs, w :: ws =>
    (changes v w).map (Change.under (toString index)) ++ itemChanges (index + 1) vs ws
  | _, _, _ => []

end

/-- The difference of two values. -/
structure Diff where
  /-- The changes, in document order. -/
  changes : List Change
  deriving DecidableEq

namespace Diff

/-- The difference between two values. -/
def between (old new : Json) : Diff := ⟨Sitewright.changes old new⟩

/-- The changed paths. -/
def paths (diff : Diff) : List FieldPath := diff.changes.map (·.path)

/-- Whether a target covers a change: it lies at or above the changed path. -/
def isCovered (targets : List FieldPath) (change : Change) : Bool :=
  targets.any fun target => target.covers change.path

/-- The changes that no target covers. -/
def outside (targets : List FieldPath) (diff : Diff) : List Change :=
  diff.changes.filter fun change => !isCovered targets change

/-- Whether every change is covered by a target. -/
def isWithin (targets : List FieldPath) (diff : Diff) : Bool := (diff.outside targets).isEmpty

/-- The printed form, one change to a line. -/
def text (diff : Diff) : String :=
  String.join (diff.changes.map fun change => change.text ++ "\n")

/-- The exchanged form. -/
def toJson (diff : Diff) : Json :=
  .obj [("changes", .arr (diff.changes.map Change.toJson))]

theorem isWithin_iff {targets : List FieldPath} {diff : Diff} :
    diff.isWithin targets = true ↔ ∀ change ∈ diff.changes, isCovered targets change = true := by
  simp [isWithin, outside, List.isEmpty_iff]

end Diff

end Sitewright
