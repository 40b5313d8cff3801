import Sitewright.Build.Sources
import Sitewright.Image.Resolution

/-!
# Projects

A compiled site: its files with pictures in place, what they need to be built, and what the next
compilation of the same site wants to know, its image cache.
-/

namespace Sitewright

/-- A compiled site. -/
structure Project where
  /-- The files, in order. -/
  files : List SourceFile
  /-- The packages it needs when it runs. -/
  dependencies : List (String × String)
  /-- The packages it needs when it is built. -/
  devDependencies : List (String × String)
  /-- The configuration with only those entries that were drawn. -/
  config : SiteConfig
  /-- The image cache for the next compilation. -/
  cache : ImageCache
  /-- How resolving pictures ended. -/
  status : ImageStatus
  /-- What was passed over. -/
  notices : List Notice

namespace Project

/-- The file at a path. -/
def file? (project : Project) (path : String) : Option SourceFile :=
  project.files.find? fun file => file.path == path

/-- The paths of all files, in order. -/
def paths (project : Project) : List String := project.files.map (·.path)

/-- The fingerprint of all files. -/
def fingerprint (project : Project) : Fingerprint :=
  .ofEntries (project.files.map fun file => (file.path, file.content))

end Project

/-- A compiled site, and the descriptions that were asked for while compiling. -/
structure Compilation where
  /-- The site. -/
  project : Project
  /-- The descriptions, in order. -/
  requests : List String

namespace Compiler

/-- What there is to resolve in sources. -/
def imageTask (compiler : Compiler) (sources : Sources) : ImageTask :=
  ⟨sources.ledger.tokens, sources.ledger.descriptions, compiler.options.fallbackDescription⟩

/-- Compiles a configuration with the cache of an earlier compilation. -/
def compile (compiler : Compiler) (service : ImageService) (previous : ImageCache)
    (config : SiteConfig) : Compilation :=
  let sources := compiler.sources config
  let resolution := (compiler.imageTask sources).resolve service previous sources.files
  { project :=
      { files := resolution.files
        dependencies := compiler.options.packages.dependencies
        devDependencies := compiler.options.packages.devDependencies
        config := sources.config
        cache := resolution.cache
        status := resolution.status
        notices := sources.notices }
    requests := resolution.requests }

end Compiler

end Sitewright
