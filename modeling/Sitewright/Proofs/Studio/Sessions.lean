import Sitewright.Proofs.Build.Recompiling
import Sitewright.Studio.Session

/-!
# Image caches over sessions

A session is a sequence of calls for any projects. Who a studio works with may have changed from one
call to the next, as everybody outside does: it may fail, or answer differently when it is asked
again. So a call brings its own studio (`StudioCall`), and whatever holds of all sequences of calls
holds for collaborators with a memory too.

One step lemma says what a call can do to the caches (`StudioStep.Faithful`): a call that succeeds
stores the cache of its project, one that fails stores nothing, and what is asked for is new. Each
way to make a call comes down to compiling, so the lemma is proved there and carried through
validating, creating and editing. The rest is a run of steps.
-/

namespace Sitewright

/-! ### Calls -/

/-- What a studio is asked to do for a project. -/
inductive StudioRequest where
  /-- Make a site from a prompt. -/
  | create (prompt : String) (uploads : List Upload)
  /-- Compile a configuration. -/
  | compile (config : SiteConfig)
  /-- Edit a configuration. -/
  | edit (config : SiteConfig) (text : String) (uploads : List Upload)

/-- A step with what came of it put differently. -/
def StudioStep.map {α β : Type} (f : α → β) (step : StudioStep α) : StudioStep β :=
  { step with result := step.result.map f }

/-- A call of a session. -/
structure StudioCall where
  /-- The studio as it is at the time of the call. -/
  studio : Studio
  /-- The project. -/
  project : String
  /-- What is to be done. -/
  request : StudioRequest

/-- The step that a call makes. -/
def StudioCall.step (call : StudioCall) (store : CacheStore) : StudioStep Project :=
  match call.request with
  | .create prompt uploads => call.studio.create store call.project prompt uploads
  | .compile config => call.studio.compile store call.project config
  | .edit config text uploads =>
    (call.studio.edit store call.project config text uploads).map (·.project)

namespace CacheStore

/-- The caches after some calls. -/
def after (store : CacheStore) (calls : List StudioCall) : CacheStore :=
  calls.foldl (fun store call ↦ (call.step store).store) store

@[simp] theorem after_nil (store : CacheStore) : store.after [] = store := rfl

theorem after_cons (store : CacheStore) (call : StudioCall) (calls : List StudioCall) :
    store.after (call :: calls) = (call.step store).store.after calls := rfl

@[simp] theorem hasRoom_put (store : CacheStore) (project : String) (cache : ImageCache) :
    (store.put project cache).hasRoom = store.hasRoom := by
  rw [put]
  split <;> rfl

theorem find?_put_self {store : CacheStore} (room : store.hasRoom = true) (project : String)
    (cache : ImageCache) :
    Entries.find? project (store.put project cache).entries = some cache := by
  rw [put, if_pos room]
  exact Entries.find?_insert_self project cache store.entries

theorem find?_put_of_ne (store : CacheStore) {project other : String} (ne : other ≠ project)
    (cache : ImageCache) :
    Entries.find? other (store.put project cache).entries = Entries.find? other store.entries := by
  rw [put]
  split
  · exact Entries.find?_insert_of_ne ne cache store.entries
  · rfl

/-- Whether every address that one store knows is known to another. -/
def Within (store other : CacheStore) : Prop :=
  ∀ project d url, (store.get project).find? d = some url →
    (other.get project).find? d = some url

theorem Within.refl (store : CacheStore) : store.Within store := fun _ _ _ h ↦ h

theorem Within.trans {a b c : CacheStore} (hab : a.Within b) (hbc : b.Within c) : a.Within c :=
  fun project d url h ↦ hbc project d url (hab project d url h)

end CacheStore

/-! ### What compiling does -/

namespace Compiler

variable {compiler : Compiler} {service : ImageService} {previous : ImageCache}
  {config : SiteConfig} {d url : String}

theorem find?_cache_compile (h : previous.find? d = some url) :
    (compiler.compile service previous config).project.cache.find? d = some url := by
  rw [cache_compile]
  exact ImageTask.find?_cache_resolve h

theorem find?_of_mem_requests (h : d ∈ (compiler.compile service previous config).requests) :
    previous.find? d = none := by
  rw [requests_compile] at h
  exact ImageTask.find?_of_mem_misses h

end Compiler

/-! ### What a step does -/

/-- A step for a project is faithful to the caches before it. -/
structure StudioStep.Faithful (store : CacheStore) (project : String) (step : StudioStep Project) :
    Prop where
  /-- If it succeeds, it stores the cache of the project and nothing else. -/
  stored : ∀ p, step.result = .ok p → step.store = store.put project p.cache
  /-- If it fails, it stores nothing. -/
  refused : ∀ e, step.result = .error e → step.store = store
  /-- The cache that is stored knows what the one before it knew. -/
  grown : ∀ p, step.result = .ok p → ∀ d url, (store.get project).find? d = some url →
    p.cache.find? d = some url
  /-- What it asks for had no address. -/
  fresh : ∀ d ∈ step.calls.images, (store.get project).find? d = none

namespace StudioStep.Faithful

variable {store : CacheStore} {project : String} {step : StudioStep Project}

/-- A step that fails before anything is compiled. -/
theorem of_error (e : EditError) (events : List EditEvent) (prompts : List String)
    (edits : List MutatorCall) :
    Faithful store project ⟨.error e, store, events, ⟨prompts, [], edits⟩⟩ where
  stored _ hp := by cases hp
  refused _ _ := rfl
  grown _ hp := by cases hp
  fresh _ hd := by cases hd

/-- A step that stores what a compilation leads to. -/
theorem of_compilation {c : Compilation}
    (grown : ∀ d url, (store.get project).find? d = some url → c.project.cache.find? d = some url)
    (fresh : ∀ d ∈ c.requests, (store.get project).find? d = none) :
    Faithful store project ⟨.ok c.project, store.put project c.project.cache, [],
      ⟨[], c.requests, []⟩⟩ where
  stored p hp := by rw [Except.ok.inj hp]
  refused _ he := by cases he
  grown p hp := Except.ok.inj hp ▸ grown
  fresh := fresh

/-- Only what came of a step, the caches and the pictures matter. -/
theorem of_eq {other : StudioStep Project} (h : Faithful store project step)
    (result : other.result = step.result) (stores : other.store = step.store)
    (images : other.calls.images = step.calls.images) : Faithful store project other where
  stored p hp := stores.trans (h.stored p (result.symm.trans hp))
  refused e he := stores.trans (h.refused e (result.symm.trans he))
  grown p hp := h.grown p (result.symm.trans hp)
  fresh d hd := h.fresh d (images ▸ hd)

theorem hasRoom (h : Faithful store project step) : step.store.hasRoom = store.hasRoom := by
  cases hresult : step.result with
  | error e => rw [h.refused e hresult]
  | ok p => rw [h.stored p hresult, CacheStore.hasRoom_put]

/-- A step loses no address of any project. -/
theorem within (h : Faithful store project step) (room : store.hasRoom = true) :
    store.Within step.store := by
  intro other d url known
  cases hresult : step.result with
  | error e => rwa [h.refused e hresult]
  | ok p =>
    rw [h.stored p hresult]
    by_cases same : other = project
    · subst same
      rw [CacheStore.get_put_self room]
      exact h.grown p hresult d url known
    · rwa [CacheStore.get_put_of_ne store same]

end StudioStep.Faithful

namespace Studio

variable (studio : Studio) (store : CacheStore) (project : String)

theorem faithful_compile (config : SiteConfig) :
    (studio.compile store project config).Faithful store project := by
  rw [compile]
  exact .of_compilation (fun _ _ h ↦ Compiler.find?_cache_compile h)
    fun _ hd ↦ Compiler.find?_of_mem_requests hd

theorem faithful_publish (config : SiteConfig) :
    (studio.publish store project config).Faithful store project := by
  rw [publish]
  cases config.validated studio.validator with
  | error e => exact .of_error ..
  | ok config => exact studio.faithful_compile store project config

theorem faithful_create (prompt : String) (uploads : List Upload) :
    (studio.create store project prompt uploads).Faithful store project := by
  rw [create]
  cases studio.generator prompt uploads with
  | error e => exact .of_error ..
  | ok config => exact (studio.faithful_publish store project config).of_eq rfl rfl rfl

theorem faithful_edit (config : SiteConfig) (text : String) (uploads : List Upload) :
    ((studio.edit store project config text uploads).map (·.project)).Faithful store project := by
  rw [edit]
  -- An edit may fail as an edit, as a new configuration, or as what is published in the end.
  cases ((Router.mk studio.router studio.classifier studio.mutator).run config text
    uploads).result with
  | error e => exact .of_error ..
  | ok outcome =>
    cases hnext : studio.next config text uploads outcome with
    | mk next prompts =>
      cases next with
      | error e =>
        simp only [hnext]
        exact .of_error ..
      | ok config =>
        simp only [hnext]
        refine (studio.faithful_publish store project config).of_eq ?_ rfl rfl
        simp only [StudioStep.map]
        cases (studio.publish store project config).result <;> rfl

end Studio

/-! ### Sessions -/

/-- Each call makes a step that is faithful to the caches before it. -/
theorem StudioCall.faithful_step (call : StudioCall) (store : CacheStore) :
    (call.step store).Faithful store call.project := by
  rw [step]
  cases call.request with
  | create prompt uploads => exact call.studio.faithful_create ..
  | compile config => exact call.studio.faithful_compile ..
  | edit config text uploads => exact call.studio.faithful_edit ..

namespace CacheStore

theorem hasRoom_after (store : CacheStore) (calls : List StudioCall) :
    (store.after calls).hasRoom = store.hasRoom := by
  induction calls generalizing store with
  | nil => rfl
  | cons call rest ih => rw [after_cons, ih, (call.faithful_step store).hasRoom]

/-- No address is lost over a session. -/
theorem within_after {store : CacheStore} (room : store.hasRoom = true)
    (calls : List StudioCall) : store.Within (store.after calls) := by
  induction calls generalizing store with
  | nil => exact .refl store
  | cons call rest ih =>
    have step := call.faithful_step store
    have later := ih (step.hasRoom.trans room)
    exact (step.within room).trans later

/-- **Pictures are found once for each project.** At any moment of a session, a call that succeeds
leaves its project with the cache of what it compiled and touches no other project, one that fails
changes nothing at all, and whatever is asked for has no address yet. What has an address keeps it
for the rest of the session. -/
theorem session_faithful (entries : List (String × ImageCache)) (earlier : List StudioCall)
    (call : StudioCall) (later : List StudioCall) :
    let store := (CacheStore.mk true entries).after earlier
    let step := call.step store
    (∀ p, step.result = .ok p →
        Entries.find? call.project step.store.entries = some p.cache ∧
          ∀ other ≠ call.project,
            Entries.find? other step.store.entries = Entries.find? other store.entries) ∧
      (∀ e, step.result = .error e → step.store = store) ∧
      (∀ d ∈ step.calls.images, (store.get call.project).find? d = none) ∧
      ∀ project d url, (store.get project).find? d = some url →
        ((store.after later).get project).find? d = some url := by
  intro store step
  have room : store.hasRoom = true := hasRoom_after ⟨true, entries⟩ earlier
  have faithful : step.Faithful store call.project := call.faithful_step store
  refine ⟨fun p hp ↦ ?_, faithful.refused, faithful.fresh, within_after room later⟩
  rw [faithful.stored p hp]
  exact ⟨store.find?_put_self room call.project p.cache,
    fun other ne ↦ store.find?_put_of_ne ne p.cache⟩

end CacheStore

end Sitewright
