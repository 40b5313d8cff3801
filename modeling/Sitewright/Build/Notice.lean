import Sitewright.Json.Basic

/-!
# Notices

What a compilation leaves out or does otherwise than the configuration says. Compiling never fails;
whatever cannot be done is passed over, and a notice says so.
-/

namespace Sitewright

/-- Something that was passed over. -/
inductive Notice where
  /-- An entry of a page that cannot be drawn. -/
  | unsupportedSection (route typeTag reason : String)
  /-- A section whose file was written by another page for a different section. -/
  | namingCollision (path firstRoute laterRoute : String)
  /-- A page that cannot be published. -/
  | pageSkipped (path reason : String)
  deriving DecidableEq

namespace Notice

/-- A notice as it is told to people. -/
def text : Notice → String
  | unsupportedSection route typeTag reason =>
    route ++ ": dropped section '" ++ typeTag ++ "': " ++ reason
  | namingCollision path firstRoute laterRoute =>
    laterRoute ++ ": " ++ path ++ " already written by " ++ firstRoute ++
      " for a different section; reusing it"
  | pageSkipped path reason => "page '" ++ path ++ "' skipped: " ++ reason

/-- A notice as exchanged data. -/
def toJson : Notice → Json
  | unsupportedSection route typeTag reason =>
    .obj [("kind", .str "unsupported-section"), ("reason", .str reason), ("route", .str route),
      ("type_tag", .str typeTag)]
  | namingCollision path firstRoute laterRoute =>
    .obj [("first_route", .str firstRoute), ("kind", .str "naming-collision"),
      ("later_route", .str laterRoute), ("path", .str path)]
  | pageSkipped path reason =>
    .obj [("kind", .str "page-skipped"), ("path", .str path), ("reason", .str reason)]

end Notice

end Sitewright
