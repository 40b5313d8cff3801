import Sitewright.Build.Project
import Sitewright.Studio.Validator

/-!
# Studio sessions

A session serves any number of projects: it creates sites from prompts, compiles them and edits
them. Of each project it keeps one thing, the image cache of its last compilation, so that a picture
that has been found once is not asked for again, whatever happens to the configuration in between.

A step of a session is a function of the caches before it. It answers with what was asked of others
and with the caches after it, which differ from those before only if the step compiled something.
-/

namespace Sitewright

/-! ### Caches of projects -/

/-- The image caches of projects. -/
structure CacheStore where
  /-- Whether there is room for any cache at all. -/
  hasRoom : Bool
  /-- The caches, by project. -/
  entries : List (String × ImageCache)
  deriving DecidableEq

namespace CacheStore

/-- A store without caches. -/
def empty (hasRoom : Bool) : CacheStore := ⟨hasRoom, []⟩

/-- The cache of a project; an unknown project has an empty one. -/
def get (store : CacheStore) (project : String) : ImageCache :=
  (Entries.find? project store.entries).getD .empty

/-- The store with the cache of a project. -/
def put (store : CacheStore) (project : String) (cache : ImageCache) : CacheStore :=
  if store.hasRoom then { store with entries := Entries.insert project cache store.entries }
  else store

/-- The store without the cache of a project. -/
def forget (store : CacheStore) (project : String) : CacheStore :=
  { store with entries := Entries.erase project store.entries }

/-- The number of projects with a cache. -/
def size (store : CacheStore) : Nat := store.entries.length

@[simp] theorem get_empty (hasRoom : Bool) (project : String) :
    (empty hasRoom).get project = .empty := rfl

theorem get_put_self {store : CacheStore} (h : store.hasRoom = true) (project : String)
    (cache : ImageCache) : (store.put project cache).get project = cache := by
  simp [put, get, h]

theorem get_put_of_ne (store : CacheStore) {project other : String} (h : other ≠ project)
    (cache : ImageCache) : (store.put project cache).get other = store.get other := by
  unfold put get
  split
  · simp [Entries.find?_insert_of_ne h]
  · rfl

end CacheStore

/-! ### Steps -/

/-- Makes a configuration from a prompt. -/
abbrev Generator := String → List Upload → Except CollaboratorError SiteConfig

/-- Who a session works with. -/
structure Studio where
  /-- How sites are compiled. -/
  compiler : Compiler
  /-- How edits are made. -/
  router : RouterSettings
  /-- Makes configurations. -/
  generator : Generator
  /-- Classifies edits. -/
  classifier : Classifier
  /-- Makes edits. -/
  mutator : Mutator
  /-- Tells which entries may be compiled. -/
  validator : Validator
  /-- Where pictures come from. -/
  images : ImageService

/-- What was asked of others in a step. -/
structure StudioCalls where
  /-- The prompts for new configurations. -/
  prompts : List String
  /-- The descriptions of pictures. -/
  images : List String
  /-- The edits. -/
  edits : List MutatorCall
  deriving DecidableEq

/-- Nothing was asked. -/
def StudioCalls.none : StudioCalls := ⟨[], [], []⟩

/-- A step of a session that leads to an `α`. -/
structure StudioStep (α : Type) where
  /-- What came of it. -/
  result : Except EditError α
  /-- The caches after it. -/
  store : CacheStore
  /-- What could be seen of an edit. -/
  events : List EditEvent
  /-- What was asked of others. -/
  calls : StudioCalls

/-- An edit of a project. -/
structure StudioEdit where
  /-- What came of the edit. -/
  outcome : EditOutcome
  /-- The project, compiled from the resulting configuration. -/
  project : Project
  /-- Whether the configuration was made anew. -/
  regenerated : Bool

/-- The prompt for a different site. The business keeps its name. -/
def regeneratePrompt (text : String) (config : SiteConfig) : String :=
  let name := Text.trim config.business.name
  if name.isEmpty then Text.trim text else Text.trim text ++ "\n\nBusiness name: " ++ name

/-- The configuration with only those entries that may be compiled. -/
def SiteConfig.validated (validator : Validator) (config : SiteConfig) :
    Except CollaboratorError SiteConfig := do
  let sections ← validator config.sections
  let pages ← config.pages.mapM fun page => do
    return { page with sections := ← validator page.sections }
  return { config with sections := sections, pages := pages }

namespace Studio

/-- Compiles a configuration for a project. -/
def compile (studio : Studio) (store : CacheStore) (project : String) (config : SiteConfig) :
    StudioStep Project :=
  let compilation := studio.compiler.compile studio.images (store.get project) config
  ⟨.ok compilation.project, store.put project compilation.project.cache, [],
    ⟨[], compilation.requests, []⟩⟩

/-- Validates a configuration and compiles it for a project. -/
def publish (studio : Studio) (store : CacheStore) (project : String) (config : SiteConfig) :
    StudioStep Project :=
  match config.validated studio.validator with
  | .error e => ⟨.error (.collaborator e), store, [], .none⟩
  | .ok config => studio.compile store project config

/-- Makes a configuration from a prompt and compiles it for a project. -/
def create (studio : Studio) (store : CacheStore) (project prompt : String)
    (uploads : List Upload) : StudioStep Project :=
  match studio.generator prompt uploads with
  | .error e => ⟨.error (.collaborator e), store, [], ⟨[prompt], [], []⟩⟩
  | .ok config =>
    let step := studio.publish store project config
    { step with calls := { step.calls with prompts := [prompt] } }

/-- The configuration after an edit, and the prompts for it: a new one if the edit asks for it. -/
def next (studio : Studio) (config : SiteConfig) (text : String) (uploads : List Upload)
    (outcome : EditOutcome) : Except CollaboratorError SiteConfig × List String :=
  if outcome.shouldRegenerate then
    let prompt := regeneratePrompt text config
    (studio.generator prompt uploads, [prompt])
  else (.ok outcome.config, [])

/-- Edits the configuration of a project and compiles what comes of it. -/
def edit (studio : Studio) (store : CacheStore) (project : String) (config : SiteConfig)
    (text : String) (uploads : List Upload) : StudioStep StudioEdit :=
  let run := (Router.mk studio.router studio.classifier studio.mutator).run config text uploads
  match run.result with
  | .error e => ⟨.error e, store, run.events, ⟨[], [], run.mutatorCalls⟩⟩
  | .ok outcome =>
    let (next, prompts) := studio.next config text uploads outcome
    match next with
    | .error e =>
      ⟨.error (.collaborator e), store, run.events, ⟨prompts, [], run.mutatorCalls⟩⟩
    | .ok config =>
      let step := studio.publish store project config
      ⟨step.result.map fun p => ⟨outcome, p, outcome.shouldRegenerate⟩, step.store, run.events,
        ⟨prompts, step.calls.images, run.mutatorCalls⟩⟩

end Studio

end Sitewright
