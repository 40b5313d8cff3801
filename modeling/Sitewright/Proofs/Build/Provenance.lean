import Sitewright.Build.Project
import Sitewright.Proofs.Build.Mute
import Sitewright.Proofs.Build.Recompiling
import Sitewright.Proofs.Image.Copy

/-!
# Where tokens come from

Resolving looks for tokens in finished files, and does not know who wrote a source attribute. So
what it replaces is decided by what the files hold, and this module says what that is. The tokens in
the files of a site, each as often as it appears, are those that were given out, each once, where
its picture is printed, and those in the copy of the site: its texts, the addresses of its logos,
and given code (`Compiler.copyTokens`). All other files and all other parts of them hold none.

Hence resolving touches the copy exactly if the copy names a token that has an address
(`Compiler.compile_touches`), and that can be (`Compiler.compile_touches_copy`).
-/

namespace Sitewright

open Markup
open Text (Mute)

/-- The tokens of a file, as often as they appear. -/
def SourceFile.tokens (file : SourceFile) : List String := Piece.tokens file.content.toList

/-! ### Components without pictures -/

/-- A component that asks for no picture holds the tokens of its copy. -/
theorem Component.count_tokens_of_no_pictures {c : Component PlacedImage} (name : Text.Plain c.name)
    (h : ∀ ok : PlacedImage → Prop, Clean ok True c.root) (token : String) :
    (Piece.tokens c.source.toList).count token = c.root.copyTokens.count token := by
  have none : c.root.images = [] :=
    List.eq_nil_iff_forall_not_mem.mpr (h fun _ ↦ False).forall_images
  have count := Component.count_tokens name (h fun picture ↦ picture.request.Plain) token
  rw [none, List.filterMap_nil, List.count_nil, Nat.zero_add] at count
  exact count

/-! ### Entries of pages -/

namespace Import

/-- An import holds no token: a space stands before the quote of what it imports from. -/
theorem mute_text {i : Import} (name : Text.Plain i.name) (source : Text.Plain i.source) :
    Mute i.text := by
  have bound : Text.Quotable (if i.isType then "type \x7b " ++ i.name ++ " \x7d" else i.name) := by
    split
    · exact .before (.after rfl name.quotable) rfl
    · exact name.quotable
  have quotes := source.quote_notMem
  rw [Mute, text]
  generalize (if i.isType then "type \x7b " ++ i.name ++ " \x7d" else i.name) = binding at bound
  have start : Piece.tokens ("import " ++ binding ++ " from").toList = [] := by
    have plain : Text.Quotable ("import " ++ binding ++ " from") := .before (.after rfl bound) rfl
    exact Piece.tokens_eq_nil_of_notMem plain.quote_notMem
  have path : Piece.tokens ([] ++ '"' :: (i.source.toList ++ ['"'])) = [] :=
    Piece.tokens_quoted_eq_nil List.not_mem_nil quotes (by decide)
  have parts : ("import " ++ binding ++ " from \"" ++ i.source ++ "\";\n").toList =
      ("import " ++ binding ++ " from").toList ++
        ' ' :: (([] ++ '"' :: (i.source.toList ++ ['"'])) ++ [';', '\n']) := by
    simp [String.toList_append]
  have space : Text.Apart ("import " ++ binding ++ " from").toList
      (' ' :: (([] ++ '"' :: (i.source.toList ++ ['"'])) ++ [';', '\n'])) := .of_head (by decide)
  have semicolon : Text.Apart ([] ++ '"' :: (i.source.toList ++ ['"'])) [';', '\n'] :=
    .of_head (by decide)
  rw [parts, Piece.tokens_append space, start, Piece.tokens_cons_of_isGap (by decide),
    Piece.tokens_append semicolon, path]
  exact Piece.tokens_eq_nil_of_notMem (by decide)

/-- An import is a line. -/
theorem isGap_last_text (i : Import) : i.text.toList.getLast?.any Text.isGap = true := by
  rw [text]
  exact Text.isGap_last_append rfl _

theorem mute_ofSlot {slot : Slot} (name : Text.Plain slot.name) : Mute (ofSlot slot).text := by
  have path : Text.Plain slot.importPath :=
    .append (.append (.append (.lit rfl) (.lit rfl)) (.lit rfl)) name
  exact mute_text name path

end Import

/-- The names of slots are names of tags. -/
theorem Slot.Fits.isTagName_name {reserved : List String} {sections : List Section}
    {slots : List Slot} (h : Fits reserved (sections.map (·.baseName)) slots) {slot : Slot}
    (mem : slot ∈ slots) : isTagName slot.name.toList = true := by
  have named := List.all_eq_true.mpr (h.named mem)
  obtain ⟨c, cs, chars, capital⟩ := h.exists_name mem
  have other : List.isPrefixOf ['i', 'm', 'g'] slot.name.toList = false := by
    have ne : 'i' ≠ c := by
      rintro rfl
      cases capital
    rw [chars, List.isPrefixOf, beq_false_of_ne ne, Bool.false_and]
  have some : slot.name.toList.isEmpty = false := by
    rw [chars]
    rfl
  rw [isTagName, named, other, some]
  rfl

namespace PageEntry

variable {entry : PageEntry} {reserved : List String} {sections : List Section}
  {slots : List Slot}

theorem mute_metadataText (title : String) : Mute (metadataText title) :=
  .before (.after rfl (by decide) (.guarded guards_literalChar title.toList)) rfl (by decide)

theorem isGap_last_metadataText (title : String) :
    (metadataText title).toList.getLast?.any Text.isGap = true := Text.isGap_last_append rfl _

/-- What an entry holds of tokens, its component does. -/
theorem tokens_text (imports : ∀ i ∈ entry.imports, Mute i.text) :
    Piece.tokens entry.text.toList = Piece.tokens entry.component.source.toList := by
  have lines : Mute (String.join (entry.imports.map Import.text) ++ "\n") := by
    refine .before (.join ?_ ?_) rfl (by decide)
    · exact List.forall_mem_map.mpr imports
    · exact List.forall_mem_map.mpr fun i _ ↦ i.isGap_last_text
  have feed : (String.join (entry.imports.map Import.text) ++ "\n").toList.getLast?.any
      Text.isGap = true := Text.isGap_last_append rfl _
  rw [text, String.toList_append]
  generalize String.join (entry.imports.map Import.text) ++ "\n" = start at lines feed
  -- What stands before the component is mute and ends with a gap.
  cases entry.title with
  | none =>
    have apart := Text.Apart.of_isGap_last feed entry.component.source.toList
    rw [Option.map_none, Option.getD_none, String.append_empty, Piece.tokens_append apart, lines,
      List.nil_append]
  | some title =>
    have before : Mute (start ++ metadataText title) :=
      lines.append (mute_metadataText title) (.inl feed)
    have last : (start ++ metadataText title).toList.getLast?.any Text.isGap = true :=
      Text.isGap_last_append (isGap_last_metadataText title) start
    have apart := Text.Apart.of_isGap_last last entry.component.source.toList
    rw [Option.map_some, Option.getD_some, Piece.tokens_append apart, before, List.nil_append]

/-- Slots that fit sections are used as elements without children. -/
theorem clean_uses (h : Slot.Fits reserved (sections.map (·.baseName)) slots)
    (ok : PlacedImage → Prop) : CleanAll ok True (slots.map fun slot ↦ use slot.name) := by
  intro m mem
  obtain ⟨slot, hslot, rfl⟩ := List.mem_map.mp mem
  exact .void (h.isTagName_name hslot) .nil

theorem copyTokens_uses (slots : List Slot) :
    copyTokensOfAll (slots.map fun slot ↦ use slot.name) = [] := by
  induction slots with
  | nil => rfl
  | cons slot rest ih => exact ih

theorem mute_imports (h : Slot.Fits reserved (sections.map (·.baseName)) slots) {first : Import}
    (mute : Mute first.text) : ∀ i ∈ first :: slots.map Import.ofSlot, Mute i.text := by
  refine List.forall_mem_cons.mpr ⟨mute, fun i mem ↦ ?_⟩
  obtain ⟨slot, hslot, rfl⟩ := List.mem_map.mp mem
  exact Import.mute_ofSlot (h.named hslot).plain

/-- The entry of the homepage holds no token. -/
theorem tokens_home (h : Slot.Fits reserved (sections.map (·.baseName)) slots) :
    Piece.tokens (home slots).text.toList = [] := by
  have mute : ∀ i ∈ (home slots).imports, Mute i.text :=
    mute_imports h (Import.mute_text (.lit rfl) (.lit rfl))
  have clean (ok : PlacedImage → Prop) : Clean ok True (home slots).component.root :=
    .aligned rfl .nil (.cons (.leaf rfl .nil) (clean_uses h ok))
  have copy : (home slots).component.root.copyTokens = [] := copyTokens_uses slots
  have count := Component.count_tokens_of_no_pictures (c := (home slots).component) (.lit rfl) clean
  rw [copy] at count
  rw [tokens_text mute]
  exact List.eq_nil_iff_forall_not_mem.mpr fun token ↦ List.count_eq_zero.mp (count token)

/-- The entry of a published page holds the tokens of its copy. -/
theorem count_tokens_ofPage (h : Slot.Fits reserved (sections.map (·.baseName)) slots)
    {styles : Styles} (plain : styles.Plain) {plan : PagePlan} (name : Text.Plain plan.function)
    (business token : String) :
    (Piece.tokens (ofPage business styles plan slots).text.toList).count token =
      (ofPage business styles plan slots).component.root.copyTokens.count token := by
  have mute : ∀ i ∈ (ofPage business styles plan slots).imports, Mute i.text :=
    mute_imports h (Import.mute_text (.lit rfl) (.lit rfl))
  have clean (ok : PlacedImage → Prop) :
      Clean ok True (ofPage business styles plan slots).component.root := by
    refine .aligned rfl (.single (.ofClasses (.lit rfl))) ?_
    split
    · exact .single (.aligned rfl (.single (.ofClasses (.lit rfl)))
        (.single (.label rfl plain.pageTitle)))
    · exact clean_uses h ok
  rw [tokens_text mute]
  exact Component.count_tokens_of_no_pictures name clean token

end PageEntry

/-! ### Components of a site -/

/-- Bar and footer ask for no pictures, so placing them changes nothing. -/
theorem Component.count_tokens_place {c : Component ImageRequest} (name : Text.Plain c.name)
    (h : ∀ ok : ImageRequest → Prop, Clean ok True c.root) (token : String) :
    (Piece.tokens (c.place 0 0).1.source.toList).count token = c.root.copyTokens.count token := by
  have placed (ok : PlacedImage → Prop) : Clean ok True (c.place 0 0).1.root :=
    (h fun _ ↦ False).place (fun _ _ none ↦ none.elim) 0
  have copy : (c.place 0 0).1.root.copyTokens = c.root.copyTokens := copyTokens_place 0 0 c.root
  rw [count_tokens_of_no_pictures (c := (c.place 0 0).1) name placed, copy]

/-- The tokens of placed sources are those of their pictures and those in their copy. -/
theorem SectionSource.count_tokens_placeAll {sources : List (String × SectionSource ImageRequest)}
    (clean : ∀ source ∈ sources, source.2.IsClean) (cap before : Nat) (token : String) :
    ((placeAll cap before sources).flatMap fun source ↦ Piece.tokens source.2.text.toList).count
        token =
      (((placeAll cap before sources).flatMap (·.2.images)).filterMap PlacedImage.token?).count
          token + (sources.flatMap (·.2.copyTokens)).count token := by
  induction sources generalizing before with
  | nil => rfl
  | cons source rest ih =>
    obtain ⟨path, source⟩ := source
    obtain ⟨first, others⟩ := List.forall_mem_cons.mp clean
    have drawn : source.IsClean := first
    -- The rest is placed with the numbers that the first source leaves.
    have here := count_tokens drawn cap before token
    have later := ih others (source.place cap before).2
    simp only [placeAll, List.flatMap_cons, List.filterMap_append, List.count_append]
    omega

/-- Requests get tokens in order, up to the limit. -/
theorem filterMap_token?_mapIdx (cap : Nat) (requests : List ImageRequest) :
    (requests.mapIdx (placeRequest cap)).filterMap PlacedImage.token? =
      (List.range (min cap requests.length)).map fun n ↦ imageToken (n + 1) := by
  induction requests using List.reverseRecOn with
  | nil =>
    rw [List.length_nil, Nat.min_zero]
    rfl
  | append_singleton requests request ih =>
    rw [List.mapIdx_append, List.filterMap_append, ih, List.length_append, List.length_singleton]
    by_cases more : requests.length < cap
    · have before : min cap requests.length = requests.length := by omega
      have after : min cap (requests.length + 1) = requests.length + 1 := by omega
      rw [before, after, List.range_succ, List.map_append]
      simp [placeRequest, PlacedImage.token?, more]
    · have before : min cap requests.length = cap := by omega
      have after : min cap (requests.length + 1) = cap := by omega
      rw [before, after]
      simp [placeRequest, PlacedImage.token?, more]

/-! ### Resolving -/

/-- Resolving gives addresses to some of the tokens that were given out, and puts them into all
files. -/
theorem ImageTask.exists_address (task : ImageTask) (service : ImageService)
    (previous : ImageCache) (files : List SourceFile) : ∃ address : String → Option String,
      (∀ token, (address token).isSome = true → token ∈ task.minted) ∧
      (task.resolve service previous files).files = files.map fun file ↦
        { file with content := resolveTokens address file.content } := by
  have unchanged : files = files.map fun file ↦
      { file with content := resolveTokens (fun _ ↦ none) file.content } := by
    simp only [resolveTokens_none, List.map_id']
  rcases task.resolve_cases service previous files with ⟨same, -⟩ | ⟨new, -⟩
  · exact ⟨fun _ ↦ none, nofun, same.trans unchanged⟩
  · refine ⟨_, ?_, new⟩
    intro token some
    have counts : token ∈ task.tokens files := by
      by_contra other
      have unknown : (task.tokens files).contains token = false := by simpa using other
      rw [unknown] at some
      cases some
    exact (mem_tokens.mp counts).2

namespace Compiler

variable (compiler : Compiler) (config : SiteConfig)

theorem isClean_of_mem_componentSources :
    ∀ source ∈ compiler.componentSources config, source.2.IsClean := by
  have styles : config.setting.styles.Plain := config.theme.plain_styles
  intro source mem
  rcases compiler.eq_of_mem_componentSources config mem with rfl | ⟨p, placed, rfl⟩
  · exact .inr ⟨_, rfl, .lit rfl, Hero.clean_component styles _⟩
  have name := (compiler.named_slot_of_mem_placements config placed).plain
  rcases Section.source_cases styles p.slot.named_anchor.plain p.slot.name p.content with
    ⟨code, given⟩ | ⟨c, drawn, named, clean⟩
  · exact .inl ⟨code, given⟩
  · exact .inr ⟨c, drawn, named ▸ name, clean.mono fun _ ↦ trivial⟩

/-- The pictures of a site have the tokens that were given out, in order. -/
theorem filterMap_token?_pictures : (compiler.pictures config).filterMap PlacedImage.token? =
    (compiler.sources config).ledger.tokens := by
  rw [tokens_sources, pictures_eq, List.length_mapIdx, ← filterMap_token?_mapIdx]

theorem nodup_tokens_sources : (compiler.sources config).ledger.tokens.Nodup := by
  rw [ImageLedger.tokens]
  exact List.nodup_range.map fun _ _ same ↦ Nat.succ_injective (imageToken_injective same)

theorem count_tokens_componentFiles (token : String) :
    ((compiler.componentFiles config).flatMap SourceFile.tokens).count token =
      (compiler.sources config).ledger.tokens.count token +
        ((compiler.componentSources config).flatMap (·.2.copyTokens)).count token := by
  have clean := compiler.isClean_of_mem_componentSources config
  have count := SectionSource.count_tokens_placeAll clean compiler.options.imageCap 0 token
  rw [← filterMap_token?_pictures, componentFiles, ImageLedger.files_drawAll, List.flatMap_map]
  exact count

theorem tokens_skeleton : (Skeleton.files config.setting.business config.setting.styles
    compiler.options.packages).flatMap SourceFile.tokens = [] := by
  rw [List.flatMap_eq_nil_iff]
  exact Skeleton.mute_of_mem_files config.business config.theme compiler.options.packages

theorem count_tokens_sharedFiles (token : String) :
    ((compiler.sharedFiles config.setting config).flatMap SourceFile.tokens).count token =
      (config.nav.component config.setting).root.copyTokens.count token +
        (config.footer.component config.setting).root.copyTokens.count token := by
  have styles : config.setting.styles.Plain := config.theme.plain_styles
  have nav := Component.count_tokens_place (c := config.nav.component config.setting) (.lit rfl)
    (fun _ ↦ Nav.clean_component styles config.nav) token
  have footer := Component.count_tokens_place (c := config.footer.component config.setting)
    (.lit rfl) (fun _ ↦ Footer.clean_component styles config.footer) token
  have skeleton := compiler.tokens_skeleton config
  rw [← nav, ← footer, sharedFiles, List.flatMap_append, skeleton, List.nil_append,
    List.flatMap_cons, List.flatMap_singleton, List.count_append]
  rfl

theorem count_tokens_entries (token : String) :
    ((compiler.entries config.setting (compiler.plan config)).flatMap SourceFile.tokens).count
        token =
      ((compiler.plan config).pages.flatMap fun page ↦
        (config.pageEntry page).component.root.copyTokens).count token := by
  have home : SourceFile.tokens ⟨"app/page.tsx", (PageEntry.home
      (Sheet.home (compiler.repertoire.sectionsOf config.sections)).slots).text⟩ = [] := by
    rw [SourceFile.tokens]
    exact PageEntry.tokens_home (Sheet.fits _)
  have page : ∀ page ∈ (compiler.plan config).pages,
      (SourceFile.tokens ⟨page.path, (config.pageEntry page).text⟩).count token =
        (config.pageEntry page).component.root.copyTokens.count token := by
    intro page mem
    have name : Text.Plain page.function := by
      rw [PageDecision.function_of_mem_plans mem]
      exact (PagePlan.named_functionName _).plain
    rw [SourceFile.tokens, SiteConfig.pageEntry]
    exact PageEntry.count_tokens_ofPage (Sheet.fits _) config.theme.plain_styles name _ token
  rw [entries_eq, List.flatMap_cons, home, List.nil_append, List.flatMap_map, List.count_flatMap,
    List.count_flatMap]
  simp only [Function.comp_def]
  rw [List.map_congr_left page]

/-- The tokens in the copy of a site: of its navigation bar and its footer, of its components, and
of its pages. -/
def copyTokens : List String :=
  (config.nav.component config.setting).root.copyTokens ++
    (config.footer.component config.setting).root.copyTokens ++
    (compiler.componentSources config).flatMap (·.2.copyTokens) ++
    (compiler.plan config).pages.flatMap fun page ↦
      (config.pageEntry page).component.root.copyTokens

/-- **Where tokens come from.** The files of a site hold each token that was given out once, those
of the copy, and no others. -/
theorem perm_tokens_sources : ((compiler.sources config).files.flatMap SourceFile.tokens).Perm
    ((compiler.sources config).ledger.tokens ++ compiler.copyTokens config) := by
  refine List.perm_iff_count.mpr fun token ↦ ?_
  have shared := compiler.count_tokens_sharedFiles config token
  have components := compiler.count_tokens_componentFiles config token
  have entries := compiler.count_tokens_entries config token
  have same : compiler.sharedFiles config.setting (config.retainDrawn compiler.repertoire) =
      compiler.sharedFiles config.setting config := rfl
  rw [files_sources, copyTokens, same, List.flatMap_append, List.flatMap_append]
  simp only [List.count_append]
  omega

/-- Every token that was given out stands in a file. -/
theorem mem_tokens_of_mem_minted {compiler : Compiler} {config : SiteConfig} {token : String}
    (h : token ∈ (compiler.sources config).ledger.tokens) : token ∈
      (compiler.imageTask (compiler.sources config)).tokens (compiler.sources config).files := by
  have somewhere : token ∈ (compiler.sources config).files.flatMap SourceFile.tokens :=
    (compiler.perm_tokens_sources config).mem_iff.mpr (List.mem_append_left _ h)
  obtain ⟨file, mem, named⟩ := List.mem_flatMap.mp somewhere
  exact mem_tokens_imageTask mem (List.mem_eraseDups.mpr named) h

/-- The descriptions of a site are those of its pictures. -/
theorem faithful_sources :
    (compiler.sources config).ledger.Faithful (compiler.pictures config) := by
  have faithful := (ImageLedger.faithful_empty compiler.options.imageCap).drawAll rfl
    (compiler.isFair_of_mem_componentSources config)
  rw [List.nil_append] at faithful
  exact faithful

theorem descriptionOf_of_find? {compiler : Compiler} {config : SiteConfig} {token d : String}
    (h : Entries.find? token (compiler.sources config).ledger.descriptions = some d) :
    (compiler.imageTask (compiler.sources config)).descriptionOf token = d := by
  rw [ImageTask.descriptionOf, imageTask, h, Option.getD_some]

/-- **What resolving touches.** Some of the tokens that were given out get addresses, and all files
have them in their place, whoever wrote it. So the pictures of a site are all that changes exactly
if its copy names no token with an address. -/
theorem compile_touches (service : ImageService) (previous : ImageCache) :
    ∃ address : String → Option String,
      (∀ token, (address token).isSome = true →
        token ∈ (compiler.sources config).ledger.tokens) ∧
      (compiler.compile service previous config).project.files =
        (compiler.sources config).files.map (fun file ↦
          { file with content := resolveTokens address file.content }) ∧
      ((compiler.sources config).files.flatMap SourceFile.tokens).Perm
        ((compiler.sources config).ledger.tokens ++ compiler.copyTokens config) ∧
      ((∀ token ∈ compiler.copyTokens config, address token = none) ↔
        ∀ token, (address token).isSome = true →
          ((compiler.sources config).files.flatMap SourceFile.tokens).count token = 1) := by
  obtain ⟨address, minted, files⟩ := (compiler.imageTask (compiler.sources config)).exists_address
    service previous (compiler.sources config).files
  have perm := compiler.perm_tokens_sources config
  have compiled : (compiler.compile service previous config).project.files =
      ((compiler.imageTask (compiler.sources config)).resolve service previous
        (compiler.sources config).files).files := by
    rw [compile_eq]
  rw [minted_imageTask] at minted
  refine ⟨address, minted, compiled.trans files, perm, ?_⟩
  -- Tokens are given out once, so what is more than one in the files is from the copy.
  have once {token : String} (some : (address token).isSome = true) :
      ((compiler.sources config).files.flatMap SourceFile.tokens).count token =
        1 + (compiler.copyTokens config).count token := by
    have own := List.count_eq_one_of_mem (compiler.nodup_tokens_sources config) (minted token some)
    rw [perm.count_eq, List.count_append, own]
  constructor
  · intro unnamed token some
    have absent : token ∉ compiler.copyTokens config := by
      intro mem
      rw [unnamed token mem] at some
      cases some
    rw [once some, List.count_eq_zero.mpr absent]
  · intro single token mem
    by_contra named
    have some : (address token).isSome = true := Option.isSome_iff_ne_none.mpr named
    have twice := once some
    have positive : 0 < (compiler.copyTokens config).count token := List.count_pos_iff.mpr mem
    rw [single token some] at twice
    omega

/-- Where nothing is missing, each token that was given out and stands in a file has the answer to
its description. -/
theorem exists_address_of_complete {compiler : Compiler} {config : SiteConfig}
    {service : ImageService}
    (complete : (compiler.compile service .empty config).project.status = .complete) :
    ∃ address : String → Option String,
      (compiler.compile service .empty config).project.files =
        (compiler.sources config).files.map (fun file ↦
          { file with content := resolveTokens address file.content }) ∧
      ∀ file ∈ (compiler.sources config).files, ∀ token ∈ tokensIn file.content,
        token ∈ (compiler.sources config).ledger.tokens → ∃ url, address token = some url ∧
          service ((compiler.imageTask (compiler.sources config)).descriptionOf token) =
            .ok url := by
  rw [compile_eq] at complete ⊢
  dsimp only at complete ⊢
  obtain ⟨knows, files⟩ := ImageTask.knows_of_complete complete
  refine ⟨_, files, ?_⟩
  intro file mem token named minted
  have counts := mem_tokens_imageTask mem named minted
  have known := knows _ (List.mem_eraseDups.mpr (List.mem_map_of_mem counts))
  obtain ⟨url, found⟩ := Option.isSome_iff_exists.mp known
  refine ⟨url, ?_, ImageTask.ok_of_find?_cache found⟩
  have counted := List.contains_iff_mem.mpr counts
  rw [if_pos counted, found]

/-- The picture of the harbor is described as such. -/
theorem descriptionOf_mirroring : ((ofOptions .default).imageTask
    ((ofOptions .default).sources mirroring)).descriptionOf "IMG_1" = "The harbor" := by
  have asked : ((ofOptions .default).pictures mirroring).map
      (fun picture ↦ (picture.number, picture.request.description)) = [(some 1, "The harbor")] := by
    decide +kernel
  have first : (some 1, "The harbor") ∈ ((ofOptions .default).pictures mirroring).map
      fun picture ↦ (picture.number, picture.request.description) := by
    rw [asked]
    exact List.mem_singleton_self _
  obtain ⟨picture, mem, eq⟩ := List.mem_map.mp first
  obtain ⟨number, description⟩ := Prod.mk.inj eq
  have some : Text.isBlank picture.request.description = false := by
    rw [description]
    decide
  have shown := ((ofOptions .default).faithful_sources mirroring).shown picture mem 1 number some
  have token : imageToken 1 = "IMG_1" := by decide
  have line : oneLine "The harbor" = "The harbor" := by decide
  rw [description, token, line] at shown
  exact descriptionOf_of_find? shown

/-- **Given code is not kept as it is.** Code that shows the first picture is drawn as it was given,
and has an address in the finished site. -/
theorem compile_touches_copy : ∃ i : Nat,
    ((ofOptions .default).sources mirroring).files[i]? =
        some ⟨"components/sections/Mirror.tsx", "<img src=\"IMG_1\" />\n"⟩ ∧
      ((ofOptions .default).compile answering .empty mirroring).project.files[i]? =
        some ⟨"components/sections/Mirror.tsx",
          "<img src=\"https://images.test/The harbor\" />\n"⟩ := by
  have drawn := (ofOptions .default).mem_files_of_mem_componentFiles mirroring
    mem_componentFiles_mirroring
  obtain ⟨address, files, answered⟩ := exists_address_of_complete status_mirroring
  obtain ⟨url, found, answer⟩ := answered _ drawn "IMG_1" named_mirroring minted_mirroring
  rw [descriptionOf_mirroring] at answer
  have address_eq : address "IMG_1" = some "https://images.test/The harbor" := by
    rw [found, ← Except.ok.inj answer]
    rfl
  have resolved : resolveTokens address "<img src=\"IMG_1\" />\n" =
      "<img src=\"https://images.test/The harbor\" />\n" := by
    have pieces : Piece.ofChars "<img src=\"IMG_1\" />\n".toList =
        ['<', 'i', 'm', 'g', ' '].map .char ++ .source ['1'] ::
          [' ', '/', '>', '\n'].map .char := by decide
    have value : Piece.resolve address (.source ['1']) =
        Piece.attributeOf "https://images.test/The harbor".toList := by
      have token : (Piece.source ['1']).token? = some "IMG_1" := by decide
      rw [Piece.resolve, token, Option.bind_some, address_eq]
    rw [resolveTokens, pieces, List.flatMap_append, List.flatMap_cons, value]
    rfl
  obtain ⟨i, rendered⟩ := List.mem_iff_getElem?.mp drawn
  refine ⟨i, rendered, ?_⟩
  rw [files, List.getElem?_map, rendered, Option.map_some, resolved]

end Compiler

end Sitewright
