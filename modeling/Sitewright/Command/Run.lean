import Sitewright.Build.Output
import Sitewright.Command.Basic
import Sitewright.Edit.Keywords
import Sitewright.Settings

/-!
# Running commands

What a command does on a file system, and the text that it prints. A configuration is read as YAML
if the name of its file says so, and as JSON otherwise. The first step that fails ends the command.
-/

namespace Sitewright

/-- Why a command fails. -/
inductive CommandError where
  /-- A configuration cannot be read from its file. -/
  | configUnread (path : String)
  /-- A file holds no configuration. -/
  | configInvalid (path : String)
  /-- The settings cannot be read from their file. -/
  | settingsUnread (path : String) (fault : FileFault)
  /-- A file holds no settings. -/
  | settingsInvalid (error : ReadError)
  /-- An image cache cannot be read from its file. -/
  | cacheUnread (path : String)
  /-- A file holds no image cache. -/
  | cacheInvalid (path : String)
  /-- The image cache cannot be written. -/
  | cacheUnwritten (path : String)
  /-- The project cannot be written. -/
  | output (error : OutputError)

/-- The wording of an error. -/
def CommandError.message : CommandError → String
  | configUnread path => "reading config " ++ path
  | configInvalid path => "parsing config " ++ path
  | settingsUnread path fault => "cannot read settings from " ++ path ++ ": " ++ fault.message
  | settingsInvalid error => "invalid settings: " ++ error.message
  | cacheUnread path => "reading image cache " ++ path
  | cacheInvalid path => "parsing image cache " ++ path
  | cacheUnwritten path => "writing image cache " ++ path
  | output error => error.message

/-- What is said about the pictures of a project. -/
def ImageStatus.label : ImageStatus → String
  | noImages => "none"
  | complete => "complete"
  | incomplete unresolved => "partial (" ++ toString unresolved.length ++ " unresolved)"
  | unavailable reason => "unavailable (" ++ reason ++ ")"

/-- What is said about a project that has been written. -/
def Project.summary (project : Project) (written : Nat) (out : String) : String :=
  "wrote " ++ toString written ++ " files to " ++ out ++
    "\nimages: " ++ project.status.label ++
    "\nfingerprint: " ++ project.fingerprint.text ++ "\n" ++
    String.join (project.notices.map fun notice => "warning: " ++ notice.text ++ "\n")

/-- The source of pictures of a request. -/
def CompileRequest.images (request : CompileRequest) : ImageService :=
  if request.isOffline then ImageService.offline else ImageService.PhotoCollection.default.service

namespace Command

variable {m : Type → Type} [Monad m]

/-- The value of a step on files, or another error in place of its fault. -/
def orError {α : Type} (error : FileFault → CommandError) (step : m (Except FileFault α)) :
    ExceptT CommandError m α := do
  match ← (step : m _) with
  | .ok a => return a
  | .error fault => throw (error fault)

/-- Whether the name of a file says that it holds YAML. -/
def isYaml (path : String) : Bool :=
  FilePath.extension? path == some "yaml" || FilePath.extension? path == some "yml"

/-- The configuration in a file. -/
def loadConfig (system : FileSystem m) (path : String) : ExceptT CommandError m SiteConfig := do
  let text ← orError (fun _ => .configUnread path) (system.read path)
  match if isYaml path then SiteConfig.ofYamlText text else SiteConfig.ofJsonText text with
  | .ok config => return config
  | .error _ => throw (.configInvalid path)

/-- The settings in a file, or the default ones if no file is named. -/
def loadSettings (system : FileSystem m) :
    Option String → ExceptT CommandError m Settings
  | none => return .default
  | some path => do
    let text ← orError (.settingsUnread path) (system.read path)
    match Settings.ofToml text with
    | .ok settings => return settings
    | .error e => throw (.settingsInvalid e)

/-- The image cache in a file, which is empty if no file is named or there is none. -/
def loadCache (system : FileSystem m) : Option String → ExceptT CommandError m ImageCache
  | none => return .empty
  | some path => do
    if ← (system.isThere path : m _) then
      let text ← orError (fun _ => .cacheUnread path) (system.read path)
      match ImageCache.codec.decodeText text with
      | .ok cache => return cache
      | .error _ => throw (.cacheInvalid path)
    else return .empty

/-- Writes an image cache, if a file is named. -/
def saveCache (system : FileSystem m) (cache : ImageCache) :
    Option String → ExceptT CommandError m Unit
  | none => return ()
  | some path => orError (fun _ => .cacheUnwritten path) (system.write path cache.toJson.pretty)

/-- Compiles a configuration and writes the project. -/
def runCompile (system : FileSystem m) (request : CompileRequest) :
    ExceptT CommandError m String := do
  let config ← loadConfig system request.config
  let settings ← loadSettings system request.settings
  let previous ← loadCache system request.cache
  let compiler : Compiler := ⟨Repertoire.full, settings.compiler⟩
  let project := (compiler.compile request.images previous config).project
  let written ← (SourceFile.writeAll project.files system request.out).adapt .output
  saveCache system project.cache request.cache
  return project.summary written request.out

/-- Runs a command: the text that it prints. -/
def run (system : FileSystem m) : Command → ExceptT CommandError m String
  | compile request => runCompile system request
  | diff old new => do
    let old ← loadConfig system old
    let new ← loadConfig system new
    return (old.diff new).toJson.pretty
  | classify config text => do
    let config ← loadConfig system config
    let verdict := (EditClassification.ofKeywords text config).normalized
    return (EditClassification.codec.write verdict).pretty
  | schema => return SiteConfig.schema.pretty

end Command

end Sitewright
