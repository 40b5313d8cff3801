import Sitewright.Site.Section

/-!
# Owners of files

Pages share one directory of section components. The first page that has a section under a path
writes its file and owns it; a later page with an equal section under the same path uses the file,
and one with a different section is in conflict with the owner, whose file stands.
-/

namespace Sitewright

/-- A file and the section it was written for. -/
structure Owner where
  /-- The path of the file. -/
  path : String
  /-- The route of the page that wrote it. -/
  route : String
  /-- The section. -/
  content : Section
  deriving DecidableEq

/-- What becomes of a section that wants a path. -/
inductive Claim where
  /-- The path was free. -/
  | new
  /-- The path has the file of an equal section. -/
  | reused
  /-- The path has the file of another section, from the page with the given route. -/
  | conflict (firstRoute : String)
  deriving DecidableEq

namespace Owner

/-- The owner of a path. -/
def find? (path : String) (owners : List Owner) : Option Owner :=
  owners.find? fun owner => owner.path == path

/-- What becomes of a section of a page that wants a path. -/
def claim (owners : List Owner) (path : String) (content : Section) : Claim :=
  match find? path owners with
  | none => .new
  | some owner => if owner.content = content then .reused else .conflict owner.route

/-- The owners after a section of a page has wanted a path. -/
def register (owners : List Owner) (path route : String) (content : Section) : List Owner :=
  match find? path owners with
  | none => owners ++ [⟨path, route, content⟩]
  | some _ => owners

/-! ### Laws -/

theorem claim_eq_new_iff {owners : List Owner} {path : String} {content : Section} :
    claim owners path content = .new ↔ find? path owners = none := by
  unfold claim
  split
  · simp [*]
  · split <;> simp [*]

end Owner

end Sitewright
