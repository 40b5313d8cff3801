import Sitewright.Build.Project
import Sitewright.FileTree.System

/-!
# Writing projects

The files of a project are written below a folder, each into the folders that its path names. A path
that would leave the folder is refused, and so is everything after it; what stands before it has
been written by then.
-/

namespace Sitewright

/-- Why a project is not written. -/
inductive OutputError where
  /-- A path leaves the folder. -/
  | unsafePath (path : String)
  /-- A step on files is not possible. -/
  | file (path : String) (fault : FileFault)
  deriving DecidableEq

/-- The wording of an error. -/
def OutputError.message : OutputError → String
  | unsafePath path => "refusing to write outside the output directory: " ++ path
  | file path fault => "I/O error at " ++ path ++ ": " ++ fault.message

namespace SourceFile

variable {m : Type → Type} [Monad m]

/-- Takes a step on files and names the path if it fails. -/
def attempt (path : String) (step : m (Except FileFault Unit)) : ExceptT OutputError m Unit := do
  match ← (step : m _) with
  | .ok () => return ()
  | .error fault => throw (.file path fault)

/-- Writes a file below a folder. -/
def writeBelow (file : SourceFile) (system : FileSystem m) (folder : String) :
    ExceptT OutputError m Unit := do
  if FilePath.isContained file.path then
    let target := FilePath.join folder file.path
    let parent := FilePath.parent target
    attempt parent (system.makeFolders parent)
    attempt target (system.write target file.content)
  else throw (.unsafePath file.path)

/-- Writes files below a folder, one after the other, and counts them. -/
def writeAll (files : List SourceFile) (system : FileSystem m) (folder : String) :
    ExceptT OutputError m Nat := do
  files.forM fun file => file.writeBelow system folder
  return files.length

end SourceFile

end Sitewright
