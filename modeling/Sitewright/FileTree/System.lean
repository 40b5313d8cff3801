import Sitewright.FileTree.Basic

/-!
# File systems

The steps on files that the program takes, apart from where the files are. A command is written for
any file system; it is run on the files of a machine, and reasoned about on a tree.
-/

namespace Sitewright

/-- The steps on files, as effects of `m`. -/
structure FileSystem (m : Type → Type) where
  /-- The content of a file. -/
  read : String → m (Except FileFault String)
  /-- Whether there is anything at a path. -/
  isThere : String → m Bool
  /-- Makes every folder of a path. -/
  makeFolders : String → m (Except FileFault Unit)
  /-- Writes a file in a folder that is there. -/
  write : String → String → m (Except FileFault Unit)

namespace FileSystem

/-- The outcome of a step on a tree: the tree after it, or the fault. -/
def onTree (step : FileTree → Except FileFault FileTree) :
    StateM FileTree (Except FileFault Unit) := fun tree =>
  match step tree with
  | .ok next => (.ok (), next)
  | .error fault => (.error fault, tree)

/-- The file system of a tree whose names and paths are limited. -/
def ofTree (limits : FileTree.Limits) : FileSystem (StateM FileTree) where
  read path := fun tree => (tree.read limits path, tree)
  isThere path := fun tree => ((tree.find limits path).isOk, tree)
  makeFolders path := onTree fun tree => tree.makeFolders limits path
  write path content := onTree fun tree => tree.write limits path content

end FileSystem

end Sitewright
