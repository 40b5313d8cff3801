import Sitewright.Entries
import Sitewright.FileTree.Path

/-!
# File trees

Folders and files as a value, for what a program does to them: it reads files, makes folders and
writes files. There are no links and no permissions, and names that differ in case are different.
How long names and paths may be is a parameter, since file systems differ in that.

A step that is not possible leaves the tree as it is and says why.
-/

namespace Sitewright

/-! ### Faults -/

/-- Why a step on files is not possible. -/
inductive FileFault where
  /-- There is nothing at the path. -/
  | missing
  /-- There is a file where a folder is to be made. -/
  | taken
  /-- The path leads through a file. -/
  | notFolder
  /-- There is a folder where a file is wanted. -/
  | isFolder
  /-- A name, or the whole path, is too long. -/
  | nameTooLong
  /-- The path holds a character that no path can hold. -/
  | notPath
  /-- Something else, in the words of whoever reports it. -/
  | other (s : String)
  deriving DecidableEq

/-- The wording of a fault. -/
def FileFault.message : FileFault → String
  | missing => "No such file or directory (os error 2)"
  | taken => "File exists (os error 17)"
  | notFolder => "Not a directory (os error 20)"
  | isFolder => "Is a directory (os error 21)"
  | nameTooLong => "File name too long (os error 36)"
  | notPath => "file name contained an unexpected NUL byte"
  | other s => s

/-! ### Trees -/

/-- A file with its content, or a folder with what is in it by name. -/
inductive FileTree where
  /-- A file. -/
  | file (content : String)
  /-- A folder. -/
  | folder (entries : List (String × FileTree))

namespace FileTree

instance : Inhabited FileTree := ⟨folder []⟩

/-- A folder with nothing in it. -/
def empty : FileTree := folder []

/-- What is at the end of a list of names. -/
def at? (tree : FileTree) : List String → Option FileTree
  | [] => some tree
  | name :: names =>
    match tree with
    | file _ => none
    | folder entries => (Entries.find? name entries).bind fun below => below.at? names

/-- The tree with `new` at the end of a list of names. Folders that are missing on the way are made,
and a file on the way stays. -/
def set (tree new : FileTree) : List String → FileTree
  | [] => new
  | name :: names =>
    match tree with
    | file content => file content
    | folder entries =>
      folder (Entries.insert name (set ((Entries.find? name entries).getD empty) new names) entries)

mutual

/-- The files of a tree below a path, with their paths and contents. -/
def filesBelow (path : String) : FileTree → List (String × String)
  | file content => [(path, content)]
  | folder entries => filesOf path entries

/-- The files of what is in a folder. -/
def filesOf (path : String) : List (String × FileTree) → List (String × String)
  | [] => []
  | (name, tree) :: rest => filesBelow (FilePath.join path name) tree ++ filesOf path rest

end

/-- The files of a tree with their paths and contents, in the order of the paths. -/
def files (tree : FileTree) : List (String × String) := Entries.sort (tree.filesBelow "")

/-! ### Steps -/

/-- How long names and paths may be, in bytes, where there are bounds. -/
structure Limits where
  /-- The longest name. -/
  name : Option Nat
  /-- The longest path. -/
  path : Option Nat

/-- Whether a text is not longer than a bound, if there is one. -/
def fits (bound : Option Nat) (s : String) : Bool := bound.all (s.utf8ByteSize ≤ ·)

/-- The names that a path leads to from the folder `here`. There need not be anything at the end,
but everything on the way must be a folder. -/
def locate (limits : Limits) (tree : FileTree) :
    List String → List String → Except FileFault (List String)
  | here, [] => .ok here
  | here, part :: rest =>
    match tree.at? here with
    | none => .error .missing
    | some (file _) => .error .notFolder
    | some (folder _) =>
      if FilePath.isIdle part then locate limits tree here rest
      else if part = ".." then locate limits tree here.dropLast rest
      else if fits limits.name part then locate limits tree (here ++ [part]) rest
      else .error .nameTooLong

/-- The parts of a path, if it can be one. -/
def partsOf (limits : Limits) (path : String) : Except FileFault (List String) :=
  if path.toList.contains (Char.ofNat 0) then .error .notPath
  else if fits limits.path path then .ok (FilePath.parts path)
  else .error .nameTooLong

/-- What is at the end of a path. -/
def find (limits : Limits) (tree : FileTree) (path : String) : Except FileFault FileTree := do
  let names ← tree.locate limits [] (← partsOf limits path)
  match tree.at? names with
  | some found => return found
  | none => throw .missing

/-- The content of a file. -/
def read (limits : Limits) (tree : FileTree) (path : String) : Except FileFault String := do
  match ← tree.find limits path with
  | file content => return content
  | folder _ => throw .isFolder

/-- The tree with a file, in a folder that is there. -/
def write (limits : Limits) (tree : FileTree) (path content : String) :
    Except FileFault FileTree := do
  let names ← tree.locate limits [] (← partsOf limits path)
  match tree.at? names with
  | some (folder _) => throw .isFolder
  | _ => return tree.set (file content) names

/-- The tree with every folder on the way from the folder `here`. -/
def makeFrom (limits : Limits) (tree : FileTree) :
    List String → List String → Except FileFault FileTree
  | _, [] => .ok tree
  | here, part :: rest =>
    if FilePath.isIdle part then makeFrom limits tree here rest
    else if part = ".." then makeFrom limits tree here.dropLast rest
    else if !fits limits.name part then .error .nameTooLong
    else
      let names := here ++ [part]
      match tree.at? names with
      | some (folder _) => makeFrom limits tree names rest
      | some (file _) => .error (if rest.isEmpty then .taken else .notFolder)
      | none => makeFrom limits (tree.set empty names) names rest

/-- The tree with every folder of a path. -/
def makeFolders (limits : Limits) (tree : FileTree) (path : String) :
    Except FileFault FileTree := do
  tree.makeFrom limits [] (← partsOf limits path)

/-! ### Laws -/

@[simp] theorem at?_nil (tree : FileTree) : tree.at? [] = some tree := by
  unfold at?
  rfl

@[simp] theorem at?_folder_cons (entries : List (String × FileTree)) (name : String)
    (names : List String) :
    (folder entries).at? (name :: names) =
      (Entries.find? name entries).bind fun below => below.at? names := rfl

@[simp] theorem at?_file_cons (content name : String) (names : List String) :
    (file content).at? (name :: names) = none := rfl

end FileTree

end Sitewright
