/-!
# Source files

A file of a generated project: where it goes, and its text.
-/

namespace Sitewright

/-- A file of a project. -/
structure SourceFile where
  /-- Where it goes, below the directory of the project. -/
  path : String
  /-- The text. -/
  content : String
  deriving DecidableEq

end Sitewright
