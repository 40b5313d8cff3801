import Sitewright.Build.Project
import Sitewright.Proofs.Image.Descriptions
import Sitewright.Proofs.Image.Resolving
import Sitewright.Site.Samples

/-!
# Compiling again

A compilation whose pictures are all in place is a fixpoint: compiled again with the cache that came
out, the same configuration gives the same project, and nothing is asked for
(`Compiler.compile_again`). Who answers in the second run does not matter, because nobody is asked,
and who answered in the first run does not matter either, because of an answer nothing is kept but
the address.

What carries this is that the end of resolving is a function of the cache alone once the cache knows
every description there is (`ImageTask.Settles`). A first run that misses no address ends as that
function says of the cache it returns, whichever of the descriptions it had to ask for; and a second
run ends as that function says because it has no misses.
-/

namespace Sitewright

/-! ### Answers that are kept -/

namespace ImageAnswer

variable {d : String} {answers : List ImageAnswer}

/-- An answer never makes an address go. -/
theorem isSome_find?_record {cache : ImageCache} (h : (cache.find? d).isSome = true)
    (answer : ImageAnswer) : ((record cache answer).find? d).isSome = true := by
  rw [record]
  cases answer.result with
  | error e => exact h
  | ok url =>
    dsimp only
    by_cases same : d = answer.description
    · rw [same, ImageCache.find?_insert_self]
      rfl
    · rw [ImageCache.find?_insert_of_ne _ same]
      exact h

theorem isSome_find?_foldl_record {cache : ImageCache} (h : (cache.find? d).isSome = true)
    (answers : List ImageAnswer) : ((answers.foldl record cache).find? d).isSome = true := by
  induction answers generalizing cache with
  | nil => exact h
  | cons answer rest ih => exact ih (isSome_find?_record h answer)

/-- An answer that is an address is kept. -/
theorem isSome_find?_of_mem {answer : ImageAnswer} (mem : answer ∈ answers) {url : String}
    (ok : answer.result = .ok url) (cache : ImageCache) :
    ((answers.foldl record cache).find? answer.description).isSome = true := by
  induction answers generalizing cache with
  | nil => cases mem
  | cons first rest ih =>
    rcases List.mem_cons.mp mem with rfl | later
    · have kept : ((record cache answer).find? answer.description).isSome = true := by
        rw [record, ok, ImageCache.find?_insert_self]
        rfl
      exact isSome_find?_foldl_record kept rest
    · exact ih later (record cache first)

/-- An address that answers add to a cache is the answer to its description. -/
theorem ok_of_find?_foldl_record {service : ImageService} {descriptions : List String}
    {cache : ImageCache} {url : String}
    (known : ∀ url, cache.find? d = some url → service d = .ok url)
    (h : ((ask service descriptions).foldl record cache).find? d = some url) :
    service d = .ok url := by
  induction descriptions generalizing cache with
  | nil => exact known url h
  | cons first rest ih =>
    refine ih (fun found hfound ↦ ?_) h
    dsimp only at hfound
    cases answer : service first with
    | error e =>
      rw [record, answer] at hfound
      exact known found hfound
    | ok address =>
      rw [record, answer] at hfound
      dsimp only at hfound
      by_cases same : d = first
      · rw [same, ImageCache.find?_insert_self] at hfound
        rw [same, answer, Option.some.inj hfound]
      · rw [ImageCache.find?_insert_of_ne _ same] at hfound
        exact known found hfound

end ImageAnswer

/-! ### When resolving is settled -/

namespace ImageTask

variable {task : ImageTask} {service : ImageService} {previous cache : ImageCache}
  {files : List SourceFile}

/-- Whether a cache has an address for every description behind the tokens of files. -/
def Knows (task : ImageTask) (cache : ImageCache) (files : List SourceFile) : Prop :=
  ∀ d ∈ task.descriptionsOf (task.tokens files), (cache.find? d).isSome = true

/-- How resolving ends if a cache has all addresses: with that cache, and with its addresses in the
place of all tokens, if there are any. -/
structure Settles (task : ImageTask) (known : ImageCache) (sources : List SourceFile)
    (resolution : ImageResolution) : Prop where
  /-- The files hold the addresses of the cache. -/
  files : resolution.files = if (task.tokens sources).isEmpty then sources
    else sources.map (task.resolveFile (task.tokens sources) known)
  /-- The cache is the one that has all addresses. -/
  cache : resolution.cache = known
  /-- Nothing is missing. -/
  status : resolution.status = if (task.tokens sources).isEmpty then .noImages else .complete

/-- A cache that has all addresses has no misses. -/
theorem misses_eq_nil (knows : task.Knows cache files) : task.misses cache files = [] := by
  rw [misses, List.filter_eq_nil_iff]
  intro d mem
  have known : cache.has d = true := knows d mem
  rw [known]
  decide

/-- **With all addresses at hand nobody is asked.** -/
theorem settles_of_knows (knows : task.Knows cache files) (service : ImageService) :
    task.Settles cache files (task.resolve service cache files) ∧
      (task.resolve service cache files).requests = [] := by
  refine ⟨?_, requests_resolve.trans (misses_eq_nil knows)⟩
  by_cases none : task.tokens files = []
  · rw [resolve_of_tokens_eq_nil none]
    exact ⟨by simp [none], rfl, by simp [none]⟩
  · -- Nobody is asked, so there are no answers.
    have silent : task.answers service cache files = [] := by
      rw [answers, misses_eq_nil knows]
      rfl
    have same : task.recorded service cache files = cache := by
      rw [recorded, silent, List.foldl_nil]
    rw [resolve_of_answers none (by rw [silent]; rfl), same, silent]
    exact ⟨by simp [none], rfl, by simp [none, ImageAnswer.unresolved]⟩

/-- Without an error among the answers, each description has an address when they are recorded. -/
theorem knows_recorded
    (fine : ∀ answer ∈ task.answers service previous files, answer.error? = none) :
    task.Knows (task.recorded service previous files) files := by
  intro d mem
  by_cases old : (previous.find? d).isSome = true
  · exact ImageAnswer.isSome_find?_foldl_record old _
  · -- What had no address before was asked for.
    have missing : (!previous.has d) = true := by
      rw [Bool.not_eq_true']
      exact Bool.eq_false_iff.mpr old
    have miss : d ∈ task.misses previous files := List.mem_filter.mpr ⟨mem, missing⟩
    have asked : (⟨d, service d⟩ : ImageAnswer) ∈ task.answers service previous files :=
      List.mem_map_of_mem miss
    have result := fine _ asked
    cases answer : service d with
    | error e =>
      rw [ImageAnswer.error?, answer] at result
      cases result
    | ok url => exact ImageAnswer.isSome_find?_of_mem asked answer previous

/-- **A run that misses no address leaves a cache that has them all**, and ends as that cache
says. -/
theorem settles_of_isDegraded_eq_false
    (h : (task.resolve service previous files).status.isDegraded = false) :
    task.Knows (task.resolve service previous files).cache files ∧
      task.Settles (task.resolve service previous files).cache files
        (task.resolve service previous files) := by
  by_cases none : task.tokens files = []
  · -- Without tokens there is no description to know.
    have nothing : ∀ cache, task.Knows cache files := by
      intro cache d mem
      rw [none] at mem
      cases mem
    rw [resolve_of_tokens_eq_nil none]
    exact ⟨nothing _, by simp [none], rfl, by simp [none]⟩
  cases available : ImageAnswer.noneAvailable (task.answers service previous files) with
  | true =>
    rw [resolve_of_noneAvailable available] at h
    cases h
  | false =>
    -- Somebody answered, and never with an error.
    rw [resolve_of_answers none available] at h ⊢
    by_cases fine : ImageAnswer.unresolved (task.answers service previous files) = []
    · exact ⟨knows_recorded (ImageAnswer.unresolved_eq_nil_iff.mp fine), by simp [none], rfl,
        by simp [none, fine]⟩
    · rw [if_neg fine] at h
      cases h

/-- What is complete has the addresses of its cache in the place of all tokens that count. -/
theorem knows_of_complete (h : (task.resolve service previous files).status = .complete) :
    task.Knows (task.resolve service previous files).cache files ∧
      (task.resolve service previous files).files = files.map
        (task.resolveFile (task.tokens files) (task.resolve service previous files).cache) := by
  have whole : (task.resolve service previous files).status.isDegraded = false := by
    rw [h, ImageStatus.isDegraded]
  obtain ⟨knows, settles⟩ := settles_of_isDegraded_eq_false whole
  refine ⟨knows, ?_⟩
  have status := settles.status
  by_cases empty : (task.tokens files).isEmpty = true
  · rw [h, if_pos empty] at status
    cases status
  · rw [settles.files, if_neg empty]

/-- Without an earlier compilation, the addresses in the cache are answers. -/
theorem ok_of_find?_cache {d url : String}
    (h : (task.resolve service .empty files).cache.find? d = some url) : service d = .ok url := by
  have none : ∀ url, ImageCache.empty.find? d = some url → service d = .ok url := nofun
  rcases task.resolve_cases service .empty files with ⟨-, cache⟩ | ⟨-, cache⟩
  · exact none url (cache ▸ h)
  · rw [cache] at h
    exact ImageAnswer.ok_of_find?_foldl_record none h

/-- What counts as a token. -/
theorem mem_tokens {token : String} : token ∈ task.tokens files ↔
    (∃ file ∈ files, token ∈ tokensIn file.content) ∧ token ∈ task.minted := by
  rw [tokens, List.mem_eraseDups, List.mem_filter, List.mem_flatMap, List.contains_iff_mem]

/-- Where a token counts, a source of pictures that always answers leaves nothing missing. -/
theorem status_resolve_of_ok (some : task.tokens files ≠ [])
    (ok : ∀ d, ∃ url, service d = .ok url) (previous : ImageCache) :
    (task.resolve service previous files).status = .complete := by
  have fine : ∀ answer ∈ task.answers service previous files, answer.error? = none := by
    intro answer mem
    obtain ⟨d, -, rfl⟩ := List.mem_map.mp mem
    obtain ⟨url, result⟩ := ok d
    rw [ImageAnswer.error?, result]
  rw [resolve_of_answers some (ImageAnswer.noneAvailable_eq_false fine)]
  exact if_pos (ImageAnswer.unresolved_eq_nil_iff.mpr fine)

end ImageTask

/-! ### Compiling -/

namespace Compiler

theorem minted_imageTask (compiler : Compiler) (sources : Sources) :
    (compiler.imageTask sources).minted = sources.ledger.tokens := rfl

/-- Everything that is compiled, with the resolving of pictures named. -/
theorem compile_eq (compiler : Compiler) (service : ImageService) (previous : ImageCache)
    (config : SiteConfig) : compiler.compile service previous config =
      let resolution := (compiler.imageTask (compiler.sources config)).resolve service previous
        (compiler.sources config).files
      ⟨⟨resolution.files, compiler.options.packages.dependencies,
        compiler.options.packages.devDependencies, (compiler.sources config).config,
        resolution.cache, resolution.status, (compiler.sources config).notices⟩,
        resolution.requests⟩ := by
  rw [compile]

theorem cache_compile {compiler : Compiler} {service : ImageService} {previous : ImageCache}
    {config : SiteConfig} : (compiler.compile service previous config).project.cache =
      ((compiler.imageTask (compiler.sources config)).resolve service previous
        (compiler.sources config).files).cache := by
  rw [compile]

theorem status_compile {compiler : Compiler} {service : ImageService} {previous : ImageCache}
    {config : SiteConfig} : (compiler.compile service previous config).project.status =
      ((compiler.imageTask (compiler.sources config)).resolve service previous
        (compiler.sources config).files).status := by
  rw [compile]

theorem requests_compile {compiler : Compiler} {service : ImageService} {previous : ImageCache}
    {config : SiteConfig} : (compiler.compile service previous config).requests =
      (compiler.imageTask (compiler.sources config)).misses previous
        (compiler.sources config).files := by
  rw [← @ImageTask.requests_resolve _ service, compile]

/-- A token that was given out counts where it stands in a file. -/
theorem mem_tokens_imageTask {compiler : Compiler} {config : SiteConfig} {file : SourceFile}
    {token : String} (mem : file ∈ (compiler.sources config).files)
    (named : token ∈ tokensIn file.content)
    (minted : token ∈ (compiler.sources config).ledger.tokens) : token ∈
      (compiler.imageTask (compiler.sources config)).tokens (compiler.sources config).files := by
  rw [ImageTask.mem_tokens, minted_imageTask]
  exact ⟨⟨file, mem, named⟩, minted⟩

/-- A component that shows a picture which was given out is completed by a source of pictures that
always answers. -/
theorem status_compile_of_ok {compiler : Compiler} {config : SiteConfig} {file : SourceFile}
    {token : String} (drawn : file ∈ compiler.componentFiles config)
    (named : token ∈ tokensIn file.content)
    (minted : token ∈ (compiler.sources config).ledger.tokens) {service : ImageService}
    (ok : ∀ d, ∃ url, service d = .ok url) (previous : ImageCache) :
    (compiler.compile service previous config).project.status = .complete := by
  have mem := compiler.mem_files_of_mem_componentFiles config drawn
  have counts := mem_tokens_imageTask mem named minted
  have complete := ImageTask.status_resolve_of_ok (List.ne_nil_of_mem counts) ok previous
  rw [compile_eq]
  dsimp only
  rw [complete]

/-- **Compiling again changes nothing.** A compilation that ends without missing a picture, repeated
with the cache that it returned, gives the same project and asks for nothing, whoever answers. -/
theorem compile_again (compiler : Compiler) (service : ImageService) (previous : ImageCache)
    (config : SiteConfig)
    (settled : (compiler.compile service previous config).project.status = .noImages ∨
      (compiler.compile service previous config).project.status = .complete)
    (other : ImageService) :
    compiler.compile other (compiler.compile service previous config).project.cache config =
      ⟨(compiler.compile service previous config).project, []⟩ := by
  have whole : (compiler.compile service previous config).project.status.isDegraded = false := by
    rcases settled with none | complete
    · rw [none, ImageStatus.isDegraded]
    · rw [complete, ImageStatus.isDegraded]
  rw [compile_eq compiler service] at whole ⊢
  dsimp only at whole ⊢
  -- Both runs end as one cache says: the first by what it recorded, the second by what it knew.
  obtain ⟨knows, before⟩ := ImageTask.settles_of_isDegraded_eq_false whole
  obtain ⟨after, requests⟩ := ImageTask.settles_of_knows knows other
  rw [compile_eq compiler other]
  dsimp only
  rw [after.files.trans before.files.symm, after.cache, after.status.trans before.status.symm,
    requests]

/-- A source of pictures that has an address for everything. -/
def answering : ImageService := fun description ↦ .ok ("https://images.test/" ++ description)

/-- A site with a picture of the harbor in its hero, and code that shows the picture once more. -/
def mirroring : SiteConfig :=
  { SiteConfig.bare [.supported (.custom ⟨.own, "Mirror", "<img src=\"IMG_1\" />"⟩)] [] with
    hero := ⟨.split, "Hello", "", ⟨"Go", "#"⟩, none, "The harbor"⟩ }

/-- The code is drawn as it was given. -/
theorem mem_componentFiles_mirroring :
    (⟨"components/sections/Mirror.tsx", "<img src=\"IMG_1\" />\n"⟩ : SourceFile) ∈
      (ofOptions .default).componentFiles mirroring := by
  rw [componentFiles, ImageLedger.files_drawAll]
  decide +kernel

theorem minted_mirroring : "IMG_1" ∈ ((ofOptions .default).sources mirroring).ledger.tokens := by
  rw [tokens_sources]
  decide +kernel

theorem named_mirroring : "IMG_1" ∈ tokensIn "<img src=\"IMG_1\" />\n" := by decide +kernel

theorem status_mirroring :
    ((ofOptions .default).compile answering .empty mirroring).project.status = .complete :=
  status_compile_of_ok mem_componentFiles_mirroring named_mirroring minted_mirroring
    (fun _ ↦ ⟨_, rfl⟩) .empty

theorem compile_again_mirroring :
    ((ofOptions .default).compile answering .empty mirroring).project.status = .complete ∧
      (ofOptions .default).compile .offline
          ((ofOptions .default).compile answering .empty mirroring).project.cache mirroring =
        ⟨((ofOptions .default).compile answering .empty mirroring).project, []⟩ :=
  ⟨status_mirroring, compile_again (ofOptions .default) answering .empty mirroring
    (.inr status_mirroring) .offline⟩

end Compiler

end Sitewright
