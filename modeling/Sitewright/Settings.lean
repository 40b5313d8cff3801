import Sitewright.Build.Options
import Sitewright.Edit.Router
import Sitewright.Toml.Reader

/-!
# Settings

Everything that can be tuned, in one file. Every table of it and every key is optional, and keys
that nobody knows are passed over.
-/

namespace Sitewright

open Codec

/-- How many image caches are kept, and for how long. -/
structure CacheSettings where
  /-- The projects that are kept before the one not used for longest is dropped. -/
  maxProjects : Nat
  /-- The seconds that a cache is kept without being used; with zero it is kept forever. -/
  ttlSeconds : Nat
  deriving DecidableEq

namespace CacheSettings

/-- The settings that are used if no others are named. -/
def default : CacheSettings := ⟨1024, 86400⟩

/-- The written form of `CacheSettings`. -/
def codec : Codec CacheSettings :=
  record "CacheSettings" "Sizing of the per-project image-cache store" <|
    CacheSettings.mk <$> fieldOr "max_projects" "" (·.maxProjects) long default.maxProjects
      <*> fieldOr "ttl_secs" "" (·.ttlSeconds) long default.ttlSeconds

/-- The seconds after which an unused cache is dropped, if it ever is. -/
def idleSeconds? (settings : CacheSettings) : Option Nat :=
  if settings.ttlSeconds = 0 then none else some settings.ttlSeconds

end CacheSettings

/-- All settings. -/
structure Settings where
  /-- How sites are compiled. -/
  compiler : BuildOptions
  /-- How edits are made. -/
  router : RouterSettings
  /-- How image caches are kept. -/
  cache : CacheSettings
  deriving DecidableEq

namespace Settings

/-- The settings that are used if no others are named. -/
def default : Settings := ⟨.default, .default, .default⟩

/-- The written form of `Settings`. -/
def codec : Codec Settings :=
  record "Settings" "All tunables" <|
    Settings.mk <$> fieldOr "compiler" "" (·.compiler) BuildOptions.codec .default
      <*> fieldOr "router" "" (·.router) RouterSettings.codec .default
      <*> fieldOr "cache" "" (·.cache) CacheSettings.codec .default

/-- The settings that a TOML text stands for. -/
def ofToml (s : String) : Except ReadError Settings :=
  match Document.ofToml? s with
  | none => .error (.broken .malformed)
  | some d => codec.read Dialect.tomlText d

end Settings

end Sitewright
