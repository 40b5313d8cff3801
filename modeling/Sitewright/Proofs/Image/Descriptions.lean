import Sitewright.Proofs.Build.Files
import Sitewright.Proofs.Image.Ledgers
import Sitewright.Proofs.Naming.Names
import Sitewright.Proofs.Render.Section
import Sitewright.Site.Samples

/-!
# Pictures keep their descriptions

Descriptions are not handed on when a picture is asked for: they are read off the finished texts,
among them texts that hold code of the configuration. That they come out right rests on the order of
things. When the text of a source is read, the pictures before it have been described and the first
description stands, while tokens of later pictures count for nothing yet. And a source that asks for
pictures holds no image tags but theirs, in the order of their numbers, so each token is described
for the first time by its own tag.

The invariant is `ImageLedger.Faithful`. A tag of any kind keeps it, the tag of the next picture
extends it by that picture, and from there it goes through the tags of a source
(`Faithful.read`), a source (`Faithful.draw`) and all sources (`Faithful.drawAll`). The main result
is `Compiler.pictures_described`.
-/

namespace Sitewright

open Markup

/-! ### Reading tags -/

namespace ImageLedger

variable {ledger : ImageLedger} {pictures : List PlacedImage} {tag : List Char}

/-- A ledger whose descriptions are those of some pictures, the first ones of a compilation. -/
structure Faithful (ledger : ImageLedger) (pictures : List PlacedImage) : Prop where
  /-- Each of them is described as it was asked for. -/
  shown : ∀ picture ∈ pictures, ∀ n, picture.number = some n →
    Text.isBlank picture.request.description = false →
      Entries.find? (imageToken n) ledger.descriptions = some (oneLine picture.request.description)
  /-- The tokens of later pictures are not described yet. -/
  fresh : ∀ n, pictures.length < n → Entries.find? (imageToken n) ledger.descriptions = none

theorem faithful_empty (cap : Nat) : (empty cap).Faithful [] :=
  ⟨fun _ mem ↦ absurd mem List.not_mem_nil, fun _ _ ↦ rfl⟩

/-- A tag describes only a picture that has been given out. -/
theorem le_minted_of_described? {n : Nat} {description : String}
    (h : ledger.described? tag = some (imageToken n, description)) : n ≤ ledger.minted := by
  obtain ⟨⟨zeros, m, -, le, eq⟩, -⟩ := isGiven_of_described? h
  rw [← paddedToken_zero, paddedToken_inj] at eq
  exact eq.2 ▸ le

/-- **A tag of any kind changes no description of a picture.** -/
theorem Faithful.note (h : ledger.Faithful pictures) (given : ledger.minted ≤ pictures.length)
    (tag : List Char) : (ledger.note tag).Faithful pictures := by
  cases found : ledger.described? tag with
  | none =>
    rw [ImageLedger.note, found]
    exact h
  | some described =>
    obtain ⟨token, description⟩ := described
    rw [ImageLedger.note, found]
    refine ⟨fun picture mem n number some ↦ ?_, fun n later ↦ ?_⟩
    · exact Entries.find?_insertNew_of_some (h.shown picture mem n number some)
    · have ne : imageToken n ≠ token := by
        rintro rfl
        have le := le_minted_of_described? found
        omega
      exact (Entries.find?_insertNew_of_ne ne).trans (h.fresh n later)

theorem Faithful.foldl_note (h : ledger.Faithful pictures) (given : ledger.minted ≤ pictures.length)
    (tags : List (List Char)) : (tags.foldl ImageLedger.note ledger).Faithful pictures := by
  induction tags generalizing ledger with
  | nil => exact h
  | cons tag rest ih =>
    refine ih (h.note given tag) ?_
    rw [minted, cap_note, requests_note]
    exact given

/-- A picture with nothing to be shown needs no description. -/
theorem Faithful.skip (h : ledger.Faithful pictures) {picture : PlacedImage}
    (nothing : picture.number = none ∨ Text.isBlank picture.request.description = true) :
    ledger.Faithful (pictures ++ [picture]) := by
  refine ⟨fun other mem n number some ↦ ?_, fun n later ↦ h.fresh n ?_⟩
  · rcases List.mem_append.mp mem with mem | mem
    · exact h.shown other mem n number some
    · obtain rfl := List.mem_singleton.mp mem
      rcases nothing with none | blank
      · rw [none] at number
        cases number
      · rw [blank] at some
        cases some
  · rw [List.length_append] at later
    exact Nat.lt_of_le_of_lt (Nat.le_add_right ..) later

/-- **The tag of the next picture describes it.** -/
theorem Faithful.note_picture (h : ledger.Faithful pictures) {request : ImageRequest}
    (given : pictures.length + 1 ≤ ledger.minted) :
    (ledger.note (printImage ⟨request, some (pictures.length + 1)⟩).toList).Faithful
      (pictures ++ [⟨request, some (pictures.length + 1)⟩]) := by
  have described := described?_printImage request ⟨Nat.le_add_left 1 pictures.length, given⟩
  cases blank : Text.isBlank request.description with
  | true =>
    rw [blank, if_pos rfl] at described
    rw [ImageLedger.note, described]
    exact h.skip (.inr blank)
  | false =>
    rw [blank, if_neg Bool.false_ne_true] at described
    rw [ImageLedger.note, described]
    refine ⟨fun picture mem n number some ↦ ?_, fun n later ↦ ?_⟩
    · rcases List.mem_append.mp mem with mem | mem
      · exact Entries.find?_insertNew_of_some (h.shown picture mem n number some)
      · obtain rfl := List.mem_singleton.mp mem
        rw [← Option.some.inj number]
        exact Entries.find?_insertNew_self (h.fresh _ (Nat.lt_succ_self _))
    · rw [List.length_append, List.length_singleton] at later
      have ne : imageToken n ≠ imageToken (pictures.length + 1) := fun eq ↦ by
        have same := imageToken_injective eq
        omega
      exact (Entries.find?_insertNew_of_ne ne).trans (h.fresh n (by omega))

/-- The image tags of the next picture, if it is one and not a decoration. -/
theorem Faithful.note_placed (h : ledger.Faithful pictures) {request : ImageRequest}
    (plain : request.Plain) (asked : pictures.length + 1 ≤ ledger.requests) :
    ((ImageTag.allIn (printImage (placeRequest ledger.cap pictures.length request)).toList).foldl
      ImageLedger.note ledger).Faithful
      (pictures ++ [placeRequest ledger.cap pictures.length request]) := by
  rw [placeRequest]
  split
  · rename_i lt
    have given : pictures.length + 1 ≤ ledger.minted := by
      rw [minted]
      exact Nat.le_min.mpr ⟨lt, asked⟩
    rw [allIn_printImage_some plain, List.foldl_cons, List.foldl_nil]
    exact h.note_picture given
  · rw [allIn_printImage_none plain, List.foldl_nil]
    exact h.skip (.inl rfl)

/-- The image tags of the next pictures. -/
theorem Faithful.read (h : ledger.Faithful pictures) {requests : List ImageRequest}
    (plain : ∀ request ∈ requests, request.Plain)
    (asked : pictures.length + requests.length ≤ ledger.requests) :
    (((requests.mapIdx fun i ↦ placeRequest ledger.cap (pictures.length + i)).flatMap
      fun picture ↦ ImageTag.allIn (printImage picture).toList).foldl
        ImageLedger.note ledger).Faithful
      (pictures ++ requests.mapIdx fun i ↦ placeRequest ledger.cap (pictures.length + i)) := by
  induction requests generalizing ledger pictures with
  | nil =>
    rw [List.mapIdx_nil, List.append_nil]
    exact h
  | cons request rest ih =>
    obtain ⟨first, others⟩ := List.forall_mem_cons.mp plain
    rw [List.length_cons] at asked
    have next := h.note_placed first (by omega)
    have kept := ImageLedger.foldl_note ledger
      (ImageTag.allIn (printImage (placeRequest ledger.cap pictures.length request)).toList)
    have later := ih next others (by rw [kept.1, List.length_append, List.length_singleton]; omega)
    rw [kept.2, List.length_append, List.length_singleton] at later
    have shift (i : Nat) : pictures.length + 1 + i = pictures.length + (i + 1) := by omega
    simp only [shift] at later
    rw [List.mapIdx_cons, List.flatMap_cons, List.foldl_append, List.append_cons]
    exact later

end ImageLedger

/-! ### Sources with their pictures placed -/

namespace SectionSource

theorem images_place (cap before : Nat) (source : SectionSource ImageRequest) :
    (source.place cap before).1.images =
      source.images.mapIdx fun i ↦ placeRequest cap (before + i) := by
  cases source with
  | drawn c => exact Markup.images_place cap before c.root
  | given code => rfl

theorem place_snd (cap before : Nat) (source : SectionSource ImageRequest) :
    (source.place cap before).2 = before + source.images.length := by
  cases source with
  | drawn c => exact Markup.place_snd cap before c.root
  | given code => rfl

/-- Sources one after the other, each with its requests placed after those before it. -/
def placeAll (cap : Nat) (before : Nat) :
    List (String × SectionSource ImageRequest) → List (String × SectionSource PlacedImage)
  | [] => []
  | (path, source) :: rest =>
    let (placed, after) := source.place cap before
    (path, placed) :: placeAll cap after rest

/-- The pictures of placed sources are their requests, numbered on. -/
theorem images_placeAll (cap before : Nat) (sources : List (String × SectionSource ImageRequest)) :
    (placeAll cap before sources).flatMap (·.2.images) =
      (sources.flatMap (·.2.images)).mapIdx fun i ↦ placeRequest cap (before + i) := by
  induction sources generalizing before with
  | nil => rfl
  | cons source rest ih =>
    obtain ⟨path, source⟩ := source
    have shift (i : Nat) :
        before + source.images.length + i = before + (i + source.images.length) := by omega
    simp only [placeAll, List.flatMap_cons, images_place, ih, place_snd, List.mapIdx_append, shift]

/-- A source that has no pictures, or is a component whose image tags are its pictures. -/
def IsFair (source : SectionSource ImageRequest) : Prop :=
  source.images = [] ∨ ∃ c, source = .drawn c ∧ Text.Plain c.name ∧
    Clean ImageRequest.Plain False c.root

/-- **The image tags of a component are its pictures.** -/
theorem allIn_text {c : Component ImageRequest} (name : Text.Plain c.name)
    (h : Clean ImageRequest.Plain False c.root) (cap before : Nat) :
    ImageTag.allIn ((SectionSource.drawn c).place cap before).1.text.toList =
      ((SectionSource.drawn c).place cap before).1.images.flatMap fun picture ↦
        ImageTag.allIn (printImage picture).toList := by
  have placed : Clean (fun picture : PlacedImage ↦ picture.request.Plain) False
      (c.root.place cap before).1 := h.place (fun _ _ plain ↦ plain) before
  have reads := reads_component (c := (c.place cap before).1) ImageTag.reader_allIn
    (fun cs bracket _ ↦ ImageTag.allIn_eq_nil_of_notMem bracket)
    (fun _ plain ↦ isTag_printImage plain) name placed
  exact reads.2.trans placed.found_allIn

end SectionSource

/-! ### Drawing -/

namespace ImageLedger

variable {ledger : ImageLedger} {pictures : List PlacedImage}

/-- A source is drawn with its requests placed after those before it. -/
theorem draw_fst (ledger : ImageLedger) (source : SectionSource ImageRequest) :
    (ledger.draw source).1 = (source.place ledger.cap ledger.requests).1.text := rfl

theorem requests_draw (ledger : ImageLedger) (source : SectionSource ImageRequest) :
    (ledger.draw source).2.requests = (source.place ledger.cap ledger.requests).2 :=
  requests_harvest ..

theorem files_drawAll (ledger : ImageLedger)
    (sources : List (String × SectionSource ImageRequest)) :
    (ledger.drawAll sources).1 =
      (SectionSource.placeAll ledger.cap ledger.requests sources).map fun (path, placed) ↦
        ⟨path, placed.text⟩ := by
  induction sources generalizing ledger with
  | nil => rfl
  | cons source rest ih =>
    obtain ⟨path, source⟩ := source
    have next := ih (ledger.draw source).2
    rw [cap_draw, requests_draw] at next
    simp only [drawAll, SectionSource.placeAll, List.map_cons, next, draw_fst]

/-- Drawing counts the requests of all sources, and leaves the limit alone. -/
theorem count_drawAll (ledger : ImageLedger)
    (sources : List (String × SectionSource ImageRequest)) :
    (ledger.drawAll sources).2.cap = ledger.cap ∧
      (ledger.drawAll sources).2.requests =
        ledger.requests + (sources.flatMap (·.2.images)).length := by
  induction sources generalizing ledger with
  | nil => exact ⟨rfl, rfl⟩
  | cons source rest ih =>
    obtain ⟨path, source⟩ := source
    obtain ⟨cap, requests⟩ := ih (ledger.draw source).2
    rw [cap_draw] at cap
    rw [requests_draw, SectionSource.place_snd] at requests
    refine ⟨cap, requests.trans ?_⟩
    rw [List.flatMap_cons, List.length_append]
    exact Nat.add_assoc ..

/-- **Reading a component describes its pictures.** -/
theorem Faithful.harvest (h : ledger.Faithful pictures) {c : Component ImageRequest}
    (name : Text.Plain c.name) (clean : Clean ImageRequest.Plain False c.root)
    (asked : pictures.length + c.root.images.length ≤ ledger.requests) :
    (ledger.harvest ((SectionSource.drawn c).place ledger.cap pictures.length).1.text).Faithful
      (pictures ++ ((SectionSource.drawn c).place ledger.cap pictures.length).1.images) := by
  rw [ImageLedger.harvest, SectionSource.allIn_text name clean, SectionSource.images_place]
  exact h.read clean.forall_images asked

/-- Drawing a source describes its pictures. -/
theorem Faithful.draw (h : ledger.Faithful pictures) (asked : ledger.requests = pictures.length)
    {source : SectionSource ImageRequest} (fair : source.IsFair) :
    (ledger.draw source).2.Faithful
      (pictures ++ (source.place ledger.cap ledger.requests).1.images) := by
  have after := SectionSource.place_snd ledger.cap pictures.length source
  -- The requests of a source are counted before its text is read.
  let counted : ImageLedger :=
    { ledger with requests := (source.place ledger.cap pictures.length).2 }
  have before : counted.Faithful pictures := ⟨h.shown, h.fresh⟩
  have drawn : (ledger.draw source).2 =
      counted.harvest (source.place ledger.cap pictures.length).1.text := by
    rw [ImageLedger.draw, asked]
  rw [drawn, asked]
  rcases fair with none | ⟨c, rfl, name, clean⟩
  · have given : counted.minted ≤ pictures.length := by
      rw [none, List.length_nil, Nat.add_zero] at after
      rw [minted]
      exact (Nat.min_le_right ..).trans after.le
    rw [SectionSource.images_place, none, List.mapIdx_nil, List.append_nil]
    exact before.foldl_note given _
  · exact before.harvest name clean after.ge

theorem length_images_place (cap before : Nat) (source : SectionSource ImageRequest) :
    (source.place cap before).1.images.length = source.images.length := by
  rw [SectionSource.images_place, List.length_mapIdx]

/-- **Drawing one source after the other describes all pictures.** -/
theorem Faithful.drawAll (h : ledger.Faithful pictures) (asked : ledger.requests = pictures.length)
    {sources : List (String × SectionSource ImageRequest)}
    (fair : ∀ source ∈ sources, source.2.IsFair) :
    (ledger.drawAll sources).2.Faithful (pictures ++
      (SectionSource.placeAll ledger.cap ledger.requests sources).flatMap (·.2.images)) := by
  induction sources generalizing ledger pictures with
  | nil =>
    rw [SectionSource.placeAll, List.flatMap_nil, List.append_nil]
    exact h
  | cons source rest ih =>
    obtain ⟨path, source⟩ := source
    obtain ⟨first, others⟩ := List.forall_mem_cons.mp fair
    have count : (ledger.draw source).2.requests =
        (pictures ++ (source.place ledger.cap ledger.requests).1.images).length := by
      rw [requests_draw, SectionSource.place_snd, List.length_append, length_images_place, asked]
    have next := ih (h.draw asked first) count others
    rw [cap_draw, requests_draw, List.append_assoc] at next
    exact next

end ImageLedger

/-! ### The pictures of a site -/

namespace Compiler

variable (compiler : Compiler) (config : SiteConfig)

/-- What the components of a site are drawn from, with its pictures placed. -/
def placedSources : List (String × SectionSource PlacedImage) :=
  SectionSource.placeAll compiler.options.imageCap 0 (compiler.componentSources config)

/-- The pictures of a site, in the order in which they are asked for. -/
def pictures : List PlacedImage := (compiler.placedSources config).flatMap (·.2.images)

/-- The files of the components are the texts of the placed sources. -/
theorem componentFiles_eq : compiler.componentFiles config =
    (compiler.placedSources config).map fun source ↦ ⟨source.1, source.2.text⟩ :=
  ImageLedger.files_drawAll ..

/-- The pictures of a site are the requests of its sources, numbered up to the limit. -/
theorem pictures_eq : compiler.pictures config =
    ((compiler.componentSources config).flatMap (·.2.images)).mapIdx
      (placeRequest compiler.options.imageCap) := by
  rw [pictures, placedSources, SectionSource.images_placeAll]
  simp only [Nat.zero_add]

/-- The ledger of a site counts the requests of its sources. -/
theorem count_sources :
    (compiler.sources config).ledger.cap = compiler.options.imageCap ∧
      (compiler.sources config).ledger.requests =
        ((compiler.componentSources config).flatMap (·.2.images)).length := by
  have count := ImageLedger.count_drawAll (.empty compiler.options.imageCap)
    (compiler.componentSources config)
  exact ⟨count.1, count.2.trans (Nat.zero_add _)⟩

/-- The tokens of a site are those of its pictures, up to the limit. -/
theorem tokens_sources : (compiler.sources config).ledger.tokens =
    (List.range (min compiler.options.imageCap (compiler.pictures config).length)).map fun n ↦
      imageToken (n + 1) := by
  obtain ⟨cap, requests⟩ := compiler.count_sources config
  rw [ImageLedger.tokens, ImageLedger.minted, cap, requests, pictures_eq, List.length_mapIdx]

/-- A component of a site is the hero or a section in its slot. -/
theorem eq_of_mem_componentSources {source : String × SectionSource ImageRequest}
    (h : source ∈ compiler.componentSources config) :
    source = (Hero.path, .drawn (config.hero.component config.setting)) ∨
      ∃ p ∈ compiler.placements config, source = (p.slot.path, p.source config.setting) := by
  rw [componentSources_eq] at h
  refine (List.mem_cons.mp h).imp_right fun mem ↦ ?_
  obtain ⟨path, source⟩ := source
  obtain ⟨use, huse, eq⟩ := List.mem_filterMap.mp mem
  obtain ⟨-, -, rfl, rfl⟩ := Settled.source?_eq_some_iff.mp eq
  exact ⟨use.placement, Compiler.placement_mem_placements huse, rfl⟩

/-- Every source of a site holds no image tags but its pictures, or no pictures. -/
theorem isFair_of_mem_componentSources :
    ∀ source ∈ compiler.componentSources config, source.2.IsFair := by
  have styles : config.setting.styles.Plain := config.theme.plain_styles
  intro source mem
  rcases compiler.eq_of_mem_componentSources config mem with rfl | ⟨p, placed, rfl⟩
  · exact .inr ⟨_, rfl, .lit rfl, Hero.clean_component styles _⟩
  have name := (compiler.named_slot_of_mem_placements config placed).plain
  have anchor := p.slot.named_anchor.plain
  by_cases logos : p.content.kind = .logoCloud
  · exact .inl (Section.images_source_of_logoCloud styles anchor _ logos)
  · rcases Section.source_cases styles anchor p.slot.name p.content with
      ⟨code, given⟩ | ⟨c, drawn, named, clean⟩
    · refine .inl ?_
      rw [Placement.source, given]
      rfl
    · exact .inr ⟨c, drawn, named ▸ name, clean.mono logos⟩

/-- **Pictures keep the description they were asked with.** The components of a site are drawn from
placed sources, whose pictures are the requests of all renderers, numbered in order up to the limit;
and what a picture with a number was asked to show, if anything, is its description, on one line. -/
theorem pictures_described :
    compiler.componentFiles config =
        (compiler.placedSources config).map (fun source ↦ ⟨source.1, source.2.text⟩) ∧
      compiler.pictures config = ((compiler.componentSources config).flatMap (·.2.images)).mapIdx
        (placeRequest compiler.options.imageCap) ∧
      ∀ picture ∈ compiler.pictures config, ∀ n, picture.number = some n →
        Text.isBlank picture.request.description = false →
          Entries.find? (imageToken n) (compiler.sources config).ledger.descriptions =
            some (oneLine picture.request.description) := by
  refine ⟨ImageLedger.files_drawAll .., ?_, ?_⟩
  · rw [pictures, placedSources, SectionSource.images_placeAll]
    simp only [Nat.zero_add]
  · have faithful := (ImageLedger.faithful_empty compiler.options.imageCap).drawAll rfl
      (compiler.isFair_of_mem_componentSources config)
    exact faithful.shown

/-- A homepage with code that names the picture after it. -/
def claiming : SiteConfig where
  __ := SiteConfig.bare [
    .supported (.custom ⟨.own, "Promo", "<img src=\"IMG_2\" alt=\"mine\" />"⟩),
    .supported (.gallery ⟨.grid, "Gallery", none, [⟨"Boats &\nsails", none⟩]⟩)] []
  hero := ⟨.split, "Hello", "", ⟨"Go", "#"⟩, none, "The harbor"⟩

theorem pictures_described_claiming : ∃ picture ∈ (ofOptions .default).pictures claiming,
    picture.number = some 2 ∧ Text.isBlank picture.request.description = false ∧
      Entries.find? (imageToken 2) ((ofOptions .default).sources claiming).ledger.descriptions =
        some "Boats & sails" := by
  have second : ∃ picture ∈ (ofOptions .default).pictures claiming,
      picture.number = some 2 ∧ picture.request.description = "Boats &\nsails" := by
    decide +kernel
  obtain ⟨picture, mem, number, description⟩ := second
  have some : Text.isBlank picture.request.description = false := by
    rw [description]
    decide
  have shown := (pictures_described (ofOptions .default) claiming).2.2 picture mem 2 number some
  rw [description] at shown
  exact ⟨picture, mem, number, some, shown.trans (by decide)⟩

end Compiler

end Sitewright
