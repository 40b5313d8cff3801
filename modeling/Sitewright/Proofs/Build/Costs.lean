import Sitewright.Proofs.Build.Provenance
import Sitewright.Proofs.Image.Accounting

/-!
# What pictures cost

A picture that is given out is paid for, so two things are owed to whoever pays. The limit on
pictures bounds the cost and nothing else (`Compiler.limit_bounds_cost`): what a site asks for is
read off its sources before any request is answered, so the limit decides how many of the requests
become pictures, and neither which files there are nor what notices say. And no picture is given out
in vain (`Compiler.pictures_shown`): whatever got a token is printed into the file of the component
that asked for it.

The first rests on the sources being drawn without the limit, which enters only when requests are
placed. The second rests on the count of tokens in a placed source
(`SectionSource.count_tokens`), which no layout can lose.
-/

namespace Sitewright

open Markup

/-! ### Asking no more than was given out -/

namespace ImageTask

variable {task : ImageTask} {service : ImageService} {previous : ImageCache}
  {files : List SourceFile}

/-- Each token counts once, and only if it was given out. -/
theorem length_tokens_le : (task.tokens files).length ≤ task.minted.length :=
  (nodup_eraseDups _).length_le_of_subset fun _ mem ↦ (mem_tokens.mp mem).2

/-- **Nobody is asked more often than pictures were given out**, whatever the files say. -/
theorem length_misses_le : (task.misses previous files).length ≤ task.minted.length :=
  calc (task.misses previous files).length
      ≤ (task.descriptionsOf (task.tokens files)).length := List.length_filter_le ..
    _ ≤ ((task.tokens files).map task.descriptionOf).length := length_eraseDups_le _
    _ = (task.tokens files).length := List.length_map _
    _ ≤ task.minted.length := length_tokens_le

/-- There are no pictures exactly if no token counts. -/
theorem status_resolve_eq_noImages_iff :
    (task.resolve service previous files).status = .noImages ↔ task.tokens files = [] := by
  constructor
  · intro none
    by_contra some
    cases available : ImageAnswer.noneAvailable (task.answers service previous files) with
    | true =>
      rw [resolve_of_noneAvailable available] at none
      cases none
    | false =>
      rw [resolve_of_answers some available] at none
      dsimp only at none
      split at none <;> cases none
  · intro unseen
    rw [resolve_of_tokens_eq_nil unseen]

end ImageTask

/-! ### The file of a picture -/

namespace SectionSource

/-- What is placed is one of the sources, with its requests placed after some others. -/
theorem exists_of_mem_placeAll {cap before : Nat}
    {sources : List (String × SectionSource ImageRequest)}
    {placed : String × SectionSource PlacedImage} (h : placed ∈ placeAll cap before sources) :
    ∃ source ∈ sources, ∃ start, placed = (source.1, (source.2.place cap start).1) := by
  induction sources generalizing before with
  | nil => cases h
  | cons source rest ih =>
    rcases List.mem_cons.mp h with rfl | later
    · exact ⟨source, List.mem_cons_self, before, rfl⟩
    · obtain ⟨other, mem, found⟩ := ih later
      exact ⟨other, List.mem_cons_of_mem _ mem, found⟩

/-- **A source prints the tokens of its pictures.** -/
theorem mem_tokensIn_of_mem_images {source : SectionSource ImageRequest} (h : source.IsClean)
    {cap before : Nat} {token : String}
    (mem : token ∈ (source.place cap before).1.images.filterMap PlacedImage.token?) :
    token ∈ tokensIn (source.place cap before).1.text := by
  have count := count_tokens h cap before token
  have own := List.count_pos_iff.mpr mem
  have found : token ∈ Piece.tokens (source.place cap before).1.text.toList :=
    List.count_pos_iff.mp (by omega)
  exact List.mem_eraseDups.mpr found

end SectionSource

namespace Compiler

variable (compiler : Compiler) (config : SiteConfig)

/-- A token that was given out stands in the file of the component that asked for its picture. -/
theorem exists_source_of_mem_tokens {token : String}
    (h : token ∈ (compiler.sources config).ledger.tokens) :
    ∃ source ∈ compiler.placedSources config,
      token ∈ source.2.images.filterMap PlacedImage.token? ∧ token ∈ tokensIn source.2.text := by
  rw [← filterMap_token?_pictures, pictures] at h
  obtain ⟨picture, mem, eq⟩ := List.mem_filterMap.mp h
  obtain ⟨source, placed, shown⟩ := List.mem_flatMap.mp mem
  have own : token ∈ source.2.images.filterMap PlacedImage.token? :=
    List.mem_filterMap.mpr ⟨picture, shown, eq⟩
  refine ⟨source, placed, own, ?_⟩
  obtain ⟨drawn, hdrawn, start, rfl⟩ := SectionSource.exists_of_mem_placeAll placed
  exact SectionSource.mem_tokensIn_of_mem_images
    (compiler.isClean_of_mem_componentSources config drawn hdrawn) own

/-- What is placed is written to a file of the site. -/
theorem mem_files_of_mem_placedSources {source : String × SectionSource PlacedImage}
    (h : source ∈ compiler.placedSources config) :
    ⟨source.1, source.2.text⟩ ∈ (compiler.sources config).files := by
  refine compiler.mem_files_of_mem_componentFiles config ?_
  rw [componentFiles_eq]
  exact List.mem_map_of_mem h

/-! ### The main results -/

/-- As often as pictures were given out, and no more, somebody is asked for an address. -/
theorem length_requests_compile_le (service : ImageService) (previous : ImageCache) :
    (compiler.compile service previous config).requests.length ≤
      (compiler.sources config).ledger.minted := by
  rw [requests_compile, ← ImageLedger.length_tokens, ← minted_imageTask]
  exact ImageTask.length_misses_le

/-- **The limit on pictures bounds the cost and nothing else.** What the components of a site ask
for is decided by its sections and the kinds that are drawn, in order. Under whatever options, the
first requests become pictures, up to the limit and with the tokens from one on, and the others
become decorations; the files have the same paths, and the notices say the same. And whatever the
files say and the cache knows, nobody is asked more often than pictures were given out. -/
theorem limit_bounds_cost (repertoire : Repertoire) (config : SiteConfig) :
    ∃ (asked : List ImageRequest) (paths : List String) (notices : List Notice),
      ∀ options : BuildOptions,
        let compiler : Compiler := ⟨repertoire, options⟩
        let site := compiler.sources config
        let given := min options.imageCap asked.length
        compiler.pictures config = asked.mapIdx (placeRequest options.imageCap) ∧
          site.ledger.minted = given ∧
          site.ledger.fallbacks = asked.length - given ∧
          site.ledger.tokens = (List.range given).map (fun n ↦ imageToken (n + 1)) ∧
          site.files.map (·.path) = paths ∧
          site.notices = notices ∧
          ∀ (service : ImageService) (previous : ImageCache),
            (compiler.compile service previous config).requests.length ≤ given := by
  let drawn : Compiler := ⟨repertoire, .default⟩
  refine ⟨(drawn.componentSources config).flatMap (·.2.images),
    (drawn.sources config).files.map (·.path), (drawn.sources config).notices, fun options ↦ ?_⟩
  -- Sources and plan are made without the options.
  have sources : (Compiler.mk repertoire options).componentSources config =
      drawn.componentSources config := rfl
  obtain ⟨cap, requests⟩ := count_sources ⟨repertoire, options⟩ config
  rw [sources] at requests
  have minted : ((Compiler.mk repertoire options).sources config).ledger.minted =
      min options.imageCap ((drawn.componentSources config).flatMap (·.2.images)).length := by
    rw [ImageLedger.minted, cap, requests]
  dsimp only
  refine ⟨?_, minted, ?_, ?_, ?_, rfl, fun service previous ↦ ?_⟩
  · rw [pictures_eq, sources]
  · rw [ImageLedger.fallbacks, requests, minted]
  · rw [ImageLedger.tokens, minted]
  · rw [paths_sources, paths_sources, sources]
    rfl
  · rw [← minted]
    exact length_requests_compile_le _ config service previous

/-- Eight pictures are asked for, and six are given out. -/
example : ((ofOptions .default).pictures (SiteConfig.bare [.supported (.gallery ⟨.grid, "Gallery",
    none, List.replicate 8 ⟨"A boat", none⟩⟩)] [])).map (·.number) =
      [some 1, some 2, some 3, some 4, some 5, some 6, none, none] := by
  decide +kernel

/-- **No picture is given out in vain.** The token of every picture that was given out stands in a
source attribute of a file of the site, the one of the component that asked for the picture. So
whoever is asked and whatever the cache knows, a compilation ends without pictures exactly if none
was given out. -/
theorem pictures_shown (compiler : Compiler) (config : SiteConfig) :
    (∀ token ∈ (compiler.sources config).ledger.tokens,
      ∃ file ∈ (compiler.sources config).files, token ∈ tokensIn file.content ∧
        ∃ source ∈ compiler.placedSources config, file = ⟨source.1, source.2.text⟩ ∧
          token ∈ source.2.images.filterMap PlacedImage.token?) ∧
      ∀ (service : ImageService) (previous : ImageCache),
        (compiler.compile service previous config).project.status = .noImages ↔
          (compiler.sources config).ledger.minted = 0 := by
  constructor
  · intro token mem
    obtain ⟨source, placed, own, found⟩ := compiler.exists_source_of_mem_tokens config mem
    exact ⟨_, compiler.mem_files_of_mem_placedSources config placed, found, source, placed, rfl,
      own⟩
  · intro service previous
    rw [status_compile, ImageTask.status_resolve_eq_noImages_iff, ← ImageLedger.length_tokens,
      List.length_eq_zero_iff]
    constructor
    · -- A token that was given out would count.
      intro uncounted
      refine List.eq_nil_iff_forall_not_mem.mpr fun token mem ↦ ?_
      have counts := mem_tokens_of_mem_minted mem
      rw [uncounted] at counts
      cases counts
    · intro none
      refine List.eq_nil_iff_forall_not_mem.mpr fun token mem ↦ ?_
      have minted := (ImageTask.mem_tokens.mp mem).2
      rw [minted_imageTask, none] at minted
      cases minted

/-- A homepage with a gallery, and a page that has the same one and uses its file. -/
def sharing : SiteConfig :=
  let gallery : Gallery := ⟨.masonry, "Gallery", none, [⟨"Boats & sails", some "src=\"IMG_2\""⟩]⟩
  SiteConfig.bare [.supported (.gallery gallery)]
    [⟨"/boats", "Boats", [.supported (.gallery gallery)]⟩]

theorem pictures_shown_sharing :
    imageToken 1 ∈ ((ofOptions .default).sources sharing).ledger.tokens ∧
      (∃ file ∈ ((ofOptions .default).sources sharing).files,
        imageToken 1 ∈ tokensIn file.content) ∧
      ((ofOptions .default).compile .offline .empty sharing).project.status ≠ .noImages := by
  have asked : ((ofOptions .default).pictures sharing).length = 1 := by decide +kernel
  have tokens : ((ofOptions .default).sources sharing).ledger.tokens = [imageToken 1] := by
    rw [tokens_sources, asked]
    rfl
  have given : imageToken 1 ∈ ((ofOptions .default).sources sharing).ledger.tokens := by
    rw [tokens]
    exact List.mem_singleton_self _
  obtain ⟨shown, status⟩ := pictures_shown (ofOptions .default) sharing
  obtain ⟨file, mem, named, -⟩ := shown _ given
  refine ⟨given, ⟨file, mem, named⟩, fun none ↦ ?_⟩
  have minted := (status .offline .empty).mp none
  rw [← ImageLedger.length_tokens, tokens] at minted
  cases minted

end Compiler

end Sitewright
