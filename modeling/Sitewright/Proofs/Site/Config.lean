import Sitewright.Proofs.Site.Sections
import Sitewright.Site.Config

/-!
# Reading configurations

Reading the written form of a configuration always succeeds and gives the configuration with its
entries settled, `SiteConfig.reread`. That is the identity on every configuration that was read
(`SiteConfig.reread_of_isRead`).

The written forms are closed under blending (`Codec.Blends`), so reading a blend of two written
configurations succeeds too. What is written of it is the blend, except at the places of entries
(`SiteConfig.EntryPlace`): there it is what the entry of the blend is written as
(`SiteConfig.headAt_reread` and `SiteConfig.at?_reread`).
-/

namespace Sitewright

open Codec

/-! ### The parts of a configuration -/

instance : Lawful PaletteColor.codec := .choice fun a ↦ by cases a <;> rfl

instance : Lawful BackgroundMode.codec := .choice fun a ↦ by cases a <;> rfl

instance : Lawful FontStyle.codec := .choice fun a ↦ by cases a <;> rfl

instance : Lawful Theme.codec :=
  .record ⟨fun _ ↦ rfl, by decide⟩ (fun _ _ _ _ _ ↦ rfl) fun _ ↦ rfl

instance : Lawful Business.codec :=
  .record ⟨fun _ ↦ rfl, by decide⟩ (fun _ _ _ _ _ _ _ _ ↦ rfl) fun _ ↦ by simp

instance : Lawful Nav.codec :=
  .record ⟨fun _ ↦ rfl, by decide⟩ (fun _ _ ↦ rfl) fun _ ↦ by simp

instance : Lawful Hero.Layout.codec := .choice fun a ↦ by cases a <;> rfl

instance : Lawful Hero.codec :=
  .record ⟨fun _ ↦ rfl, by decide⟩ (fun _ _ _ _ _ _ ↦ rfl) fun _ ↦ by simp

instance : Lawful Footer.Layout.codec := .choice fun a ↦ by cases a <;> rfl

instance : Lawful FooterColumn.codec :=
  .record ⟨fun _ ↦ rfl, by decide⟩ (fun _ _ ↦ rfl) fun _ ↦ by simp

instance : Lawful Footer.codec :=
  .record ⟨fun _ ↦ rfl, by decide⟩ (fun _ _ _ _ ↦ rfl) fun _ ↦ by simp

/-! ### Pages -/

namespace Page

/-- The page with its entries settled. -/
def reread (page : Page) : Page := { page with sections := page.sections.map (·.reread) }

instance : Blends codec := blends_record ⟨fun _ ↦ rfl, by decide⟩ fun _ _ _ ↦ rfl

instance : Reads codec reread := reads_record ⟨fun _ ↦ rfl, by decide⟩ fun _ ↦ rfl

theorem isRead_sections {page : Page} (h : codec.IsRead page) :
    ∀ entry ∈ page.sections, SectionEntry.codec.IsRead entry :=
  h.of_record (q := fun page ↦ ∀ entry ∈ page.sections, SectionEntry.codec.IsRead entry)
    fun _ _ _ _ _ read ↦ IsRead.of_list_or_default read

theorem map_reread_of_isRead {entries : List SectionEntry}
    (h : ∀ entry ∈ entries, SectionEntry.codec.IsRead entry) :
    entries.map (·.reread) = entries := by
  have same : entries.map (·.reread) = entries.map id :=
    List.map_congr_left fun entry mem ↦ SectionEntry.reread_of_isRead (h entry mem)
  rw [same, List.map_id]

theorem reread_of_isRead {page : Page} (h : codec.IsRead page) : page.reread = page := by
  rw [reread, map_reread_of_isRead (isRead_sections h)]

/-- What the written form of a page has under its keys. -/
def entries (page : Page) : List (String × Json) :=
  [("path", Codec.text.encode page.path), ("title", Codec.text.encode page.title),
    ("sections", (list SectionEntry.codec).encode page.sections)]

theorem step?_encode (page : Page) (key : String) :
    (codec.encode page).step? key = Entries.find? key page.entries :=
  (find?_sort_toEntries ⟨fun _ ↦ rfl, by decide⟩ page key).trans (find?_sortedValues ..).symm

end Page

namespace SiteConfig

/-- The configuration with its entries settled. -/
def reread (config : SiteConfig) : SiteConfig :=
  { config with
    sections := config.sections.map (·.reread)
    pages := config.pages.map (·.reread) }

instance : Blends codec := blends_record ⟨fun _ ↦ rfl, by decide⟩ fun _ _ _ _ _ _ _ _ ↦ rfl

instance : Reads codec reread := reads_record ⟨fun _ ↦ rfl, by decide⟩ fun _ ↦ rfl

/-- A blend of two configurations is the written form of a configuration. -/
theorem exists_toJson {a b : SiteConfig} {m : Json} (sorted : m.IsSorted)
    (blend : Json.Blend a.toJson b.toJson m) : ∃ config : SiteConfig, config.toJson = m :=
  codec.exists_encode sorted blend

/-- A written configuration is read with its entries settled. -/
theorem ofJson_toJson (config : SiteConfig) : ofJson config.toJson = .ok config.reread :=
  codec.read_encode .value config

/-- What the written form of a configuration has under its keys. -/
def entries (config : SiteConfig) : List (String × Json) :=
  [("version", word.encode config.version), ("business", Business.codec.encode config.business),
    ("theme", Theme.codec.encode config.theme), ("nav", Nav.codec.encode config.nav),
    ("hero", Hero.codec.encode config.hero),
    ("sections", (list SectionEntry.codec).encode config.sections),
    ("footer", Footer.codec.encode config.footer),
    ("pages", (list Page.codec).encode config.pages)]

theorem head_toJson (config : SiteConfig) : config.toJson.head = .object :=
  head_encode_record config

theorem step?_toJson (config : SiteConfig) (key : String) :
    config.toJson.step? key = Entries.find? key config.entries :=
  (find?_sort_toEntries ⟨fun _ ↦ rfl, by decide⟩ config key).trans (find?_sortedValues ..).symm

theorem isSorted_toJson (config : SiteConfig) : config.toJson.IsSorted := Json.isSorted_sorted _

/-! ### Configurations that were read -/

theorem isRead_sections {config : SiteConfig} (h : codec.IsRead config) :
    ∀ entry ∈ config.sections, SectionEntry.codec.IsRead entry :=
  h.of_record (q := fun config ↦ ∀ entry ∈ config.sections, SectionEntry.codec.IsRead entry)
    fun _ _ _ _ _ _ _ _ _ _ _ read _ _ _ _ ↦ IsRead.of_list_or_default read

theorem isRead_pages {config : SiteConfig} (h : codec.IsRead config) :
    ∀ page ∈ config.pages, Page.codec.IsRead page :=
  h.of_record (q := fun config ↦ ∀ page ∈ config.pages, Page.codec.IsRead page)
    fun _ _ _ _ _ _ _ _ _ _ _ _ _ _ _ read ↦ IsRead.of_list_or_default read

/-- A configuration that was read has nothing left to settle. -/
theorem reread_of_isRead {config : SiteConfig} (h : codec.IsRead config) :
    config.reread = config := by
  have pages : config.pages.map (·.reread) = config.pages.map id :=
    List.map_congr_left fun page mem ↦ Page.reread_of_isRead (isRead_pages h page mem)
  rw [reread, Page.map_reread_of_isRead (isRead_sections h), pages, List.map_id]

/-- A settled configuration is read from its written form. -/
theorem isRead_of_reread {config : SiteConfig} (h : config.reread = config) :
    codec.IsRead config :=
  ⟨.value, .ofJson config.toJson, (ofJson_toJson config).trans (congrArg Except.ok h)⟩

/-! ### Where settling shows -/

/-- The places of entries in the value of a configuration. -/
inductive EntryPlace : List String → Prop where
  /-- An entry of the homepage. -/
  | home (i : Nat) : EntryPlace ["sections", toString i]
  /-- An entry of another page. -/
  | page (j i : Nat) : EntryPlace ["pages", toString j, "sections", toString i]

end SiteConfig

/-- Two lists that are written from the same items show the same where the items do. -/
theorem Json.headAt_map {α : Type} {f g : α → Json} {as : List α} {q : List String}
    (h : ∀ (i : Nat) {a rest}, as[i]? = some a → q = toString i :: rest →
      (f a).headAt rest = (g a).headAt rest) :
    (Json.arr (as.map f)).headAt q = (Json.arr (as.map g)).headAt q := by
  cases q with
  | nil => simp [Json.head]
  | cons step rest =>
    rw [Json.headAt_cons, Json.headAt_cons, Json.step?, Json.step?]
    cases hi : Json.indexStep? step with
    | none => rfl
    | some i =>
      rw [Option.bind_some, Option.bind_some, List.getElem?_map, List.getElem?_map]
      cases ha : as[i]? with
      | none => rfl
      | some a => exact h i ha (by rw [Json.indexStep?_eq_some_iff.mp hi])

theorem SectionEntry.headAt_map_reread (entries : List SectionEntry) {q : List String}
    (h : ∀ i : Nat, ¬ [toString i] <+: q) :
    ((list codec).encode (entries.map (·.reread))).headAt q =
      ((list codec).encode entries).headAt q := by
  rw [encode_list, encode_list, List.map_map]
  exact Json.headAt_map fun i _ _ _ eq ↦ absurd (by simp [eq]) (h i)

theorem Page.headAt_reread (page : Page) {q : List String}
    (h : ∀ i : Nat, ¬ ["sections", toString i] <+: q) :
    (codec.encode page.reread).headAt q = (codec.encode page).headAt q := by
  cases q with
  | nil => exact congrArg some (head_encode_record ..)
  | cons key rest =>
    rw [Json.headAt_cons, Json.headAt_cons, step?_encode, step?_encode]
    by_cases eq : "sections" = key
    · subst eq
      exact SectionEntry.headAt_map_reread page.sections fun i pre ↦
        h i (List.cons_prefix_cons.mpr ⟨rfl, pre⟩)
    · simp [entries, reread, Entries.find?, eq]

/-- Away from its entries a configuration is written as before. -/
theorem SiteConfig.headAt_reread (config : SiteConfig) {q : List String}
    (h : ∀ place, EntryPlace place → ¬ place <+: q) :
    config.reread.toJson.headAt q = config.toJson.headAt q := by
  cases q with
  | nil => rw [Json.headAt_nil, Json.headAt_nil, head_toJson, head_toJson]
  | cons key rest =>
    rw [Json.headAt_cons, Json.headAt_cons, step?_toJson, step?_toJson]
    by_cases home : "sections" = key
    · subst home
      exact SectionEntry.headAt_map_reread config.sections fun i pre ↦
        h _ (.home i) (List.cons_prefix_cons.mpr ⟨rfl, pre⟩)
    · by_cases pages : "pages" = key
      · subst pages
        show ((list Page.codec).encode (config.pages.map (·.reread))).headAt rest =
          ((list Page.codec).encode config.pages).headAt rest
        rw [encode_list, encode_list, List.map_map]
        refine Json.headAt_map fun j page below _ eq ↦ Page.headAt_reread page fun i pre ↦ ?_
        subst eq
        refine h _ (.page j i) ?_
        exact List.cons_prefix_cons.mpr ⟨rfl, List.cons_prefix_cons.mpr ⟨rfl, pre⟩⟩
      · simp [entries, reread, Entries.find?, home, pages]

/-- At the place of an entry stands what the entry there is written as. -/
theorem SiteConfig.at?_reread (config : SiteConfig) {place : List String} (h : EntryPlace place) :
    config.reread.toJson.at? place =
      (config.toJson.at? place).map SectionEntry.rewritten := by
  have item (entries : List SectionEntry) (i : Nat) :
      ((list SectionEntry.codec).encode (entries.map (·.reread))).at? [toString i] =
        (((list SectionEntry.codec).encode entries).at? [toString i]).map
          SectionEntry.rewritten := by
    rw [encode_list, encode_list, List.map_map, Json.at?, Json.at?, Json.step?_arr_toString,
      Json.step?_arr_toString, List.getElem?_map, List.getElem?_map]
    cases entries[i]? <;> rfl
  cases h with
  | home i =>
    rw [Json.at?, Json.at?, step?_toJson, step?_toJson]
    exact item config.sections i
  | page j i =>
    rw [Json.at?, Json.at?, step?_toJson, step?_toJson]
    show ((list Page.codec).encode (config.pages.map (·.reread))).at?
        [toString j, "sections", toString i] =
      (((list Page.codec).encode config.pages).at? [toString j, "sections", toString i]).map
        SectionEntry.rewritten
    rw [encode_list, encode_list, List.map_map, Json.at?, Json.at?, Json.step?_arr_toString,
      Json.step?_arr_toString, List.getElem?_map, List.getElem?_map]
    cases config.pages[j]? with
    | none => rfl
    | some page =>
      simp only [Option.map_some, Option.bind_some, Function.comp_apply]
      rw [Json.at?, Json.at?, Page.step?_encode, Page.step?_encode]
      exact item page.sections i

end Sitewright
