import Sitewright.Diff
import Sitewright.Site.Config

/-!
# Edit scope

An edit is meant to change certain places of a configuration, its targets, and nothing else.
`SiteConfig.clipTo` takes a configuration from before an edit and one from after it and takes back
every change that no target covers.

A change is taken back on the value of the new configuration: a changed place gets its old value, an
added key is removed, a removed key is put back. A change above a target cannot be kept, but the
target inside it can: a list that was resized is put back as it was, and then each target in it that
both sides have gets its new value again.
-/

namespace Sitewright

/-- Why an edit cannot be clipped. -/
inductive ClipError where
  /-- The clipped value is no configuration. -/
  | unreadable (error : ReadError)
  /-- A reported path is not there. -/
  | missingPath (path : FieldPath)
  deriving DecidableEq

/-- The wording of a clipping error. -/
def ClipError.message : ClipError → String
  | unreadable error => "clipped config is invalid: " ++ error.message
  | missingPath path => "path not found while reverting: " ++ path.dotted

namespace Change

/-- The result of a step that fails where a path is missing. -/
def found (path : FieldPath) : Option Json → Except ClipError Json
  | some v => .ok v
  | none => .error (.missingPath path)

/-- The place that holds a changed key, and the key. -/
def holder (path : FieldPath) : Except ClipError (FieldPath × String) :=
  match path.parent?, path.last? with
  | some parent, some key => .ok (parent, key)
  | _, _ => .error (.missingPath path)

/-- Removes a key from an object. -/
def dropKey (key : String) : Json → Json
  | .obj entries => .obj (Entries.erase key entries)
  | v => v

/-- Puts a key back into an object. -/
def putKey (key : String) (value : Json) : Json → Option Json
  | .obj entries => some (.obj (Entries.insert key value entries))
  | _ => none

/-- Takes a change back: `v` gets what `old` has there. -/
def revert (old : Json) (change : Change) (v : Json) : Except ClipError Json :=
  let path := change.path
  match change.kind with
  | .modified => do
    let previous ← found path (old.at? path.segments)
    found path (v.setAt? path.segments previous)
  | .added => do
    let (parent, key) ← holder path
    return (v.updateAt? (fun w => some (dropKey key w)) parent.segments).getD v
  | .removed => do
    let (parent, key) ← holder path
    let previous ← found path (old.at? path.segments)
    found parent (v.updateAt? (putKey key previous) parent.segments)

end Change

namespace Scope

/-- Gives `v` the value that `new` has at a target, if both have the target. -/
def copyTarget (new v : Json) (target : FieldPath) : Json :=
  match new.at? target.segments with
  | some value => (v.setAt? target.segments value).getD v
  | none => v

/-- Takes one change back and copies the targets below it. -/
def revertAround (old new : Json) (targets : List FieldPath) (v : Json) (change : Change) :
    Except ClipError Json := do
  let reverted ← change.revert old v
  return (targets.filter fun target => change.path.isAbove target).foldl (copyTarget new) reverted

/-- The value of an edit with every change outside the targets taken back. -/
def clipValue (old new : Json) (targets : List FieldPath) : Except ClipError Json :=
  ((Diff.between old new).outside targets).foldlM (revertAround old new targets) new

end Scope

/-- An edit clipped to its targets. -/
structure Clipped where
  /-- The configuration. -/
  config : SiteConfig
  /-- The paths whose changes were taken back. -/
  reverted : List FieldPath

namespace SiteConfig

/-- The difference between two configurations. -/
def diff (old new : SiteConfig) : Diff := Diff.between old.toJson new.toJson

/-- An edit from `old` to `new` with every change outside the targets taken back. An edit that stays
within its targets is left as it is. -/
def clipTo (old new : SiteConfig) (targets : List FieldPath) : Except ClipError Clipped :=
  let outside := (old.diff new).outside targets
  if outside.isEmpty then .ok ⟨new, []⟩
  else do
    let value ← Scope.clipValue old.toJson new.toJson targets
    match ofJson value with
    | .ok config => return ⟨config, outside.map (·.path)⟩
    | .error e => throw (.unreadable e)

end SiteConfig

end Sitewright
