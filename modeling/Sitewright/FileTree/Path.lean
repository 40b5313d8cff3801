import Sitewright.Text.Lines

/-!
# File paths

A path is a text whose parts stand between slashes. What it leads to is decided by its parts: an
empty part and a single dot stay where they are, two dots go up, and every other part is the name of
a file or a folder. The text itself is kept for what is said about the path.
-/

namespace Sitewright.FilePath

/-- The parts of a path. -/
def parts (path : String) : List String := Text.splitOn '/' path

/-- Whether a part stays where it is. -/
def isIdle (part : String) : Bool := part == "" || part == "."

/-- Whether a part is a name. -/
def isName (part : String) : Bool := !isIdle part && part != ".."

/-- The parts of a path that do not stay where they are. -/
def steps (path : String) : List String := (parts path).filter fun part => !isIdle part

/-- Whether a path is relative, does not start with a dot, and never goes up. -/
def isContained (path : String) : Bool :=
  match parts path with
  | [] => true
  | first :: rest =>
    (first != "" || rest.isEmpty) && first != "." && (first :: rest).all (· != "..")

/-- A path below a folder. -/
def join (folder path : String) : String :=
  if folder.isEmpty || folder.toList.getLast? == some '/' then folder ++ path
  else folder ++ "/" ++ path

/-- Parts without the idle ones at their end. -/
def dropIdle (parts : List String) : List String := (parts.reverse.dropWhile isIdle).reverse

/-- The folder that a path leads into. -/
def parent (path : String) : String :=
  String.intercalate "/" (dropIdle (dropIdle (parts path)).dropLast)

/-- What stands after the last dot of the name that a path ends with, if the dot is not its first
character. -/
def extension? (path : String) : Option String :=
  match (dropIdle (parts path)).getLast? with
  | none => none
  | some name =>
    match (Text.splitOn '.' name).reverse with
    | last :: before =>
      if name == ".." || before.isEmpty || before == [""] then none else some last
    | [] => none

end Sitewright.FilePath
