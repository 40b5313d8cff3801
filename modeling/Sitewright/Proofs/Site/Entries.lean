import Mathlib.Data.List.Forall2
import Sitewright.Proofs.Codec.Slots
import Sitewright.Proofs.Site.Config

/-!
# The entries of a configuration in its value

An entry of a page is named by an `EntryRef`, and a value that a configuration is read from has the
entry at a place that follows from the reference (`EntryRef.place`). The place depends on the value,
because a configuration and its pages may each be written as an object or as a list.

What stands at the place and the entry belong together one by one. The entry is the one that the
value at its place stands for (`SiteConfig.entryAt?_of_ofJson`), and putting another value there
puts the entry of that value into the configuration and changes nothing else
(`SiteConfig.ofJson_setAt?`). No value is refused there, so one bad entry never makes a
configuration unreadable. Reading records slot by slot (`Codec.read_record_iff`) carries the
argument through both forms of records at once.
-/

namespace Sitewright

open Codec

/-! ### References -/

/-- An entry of a configuration. -/
inductive EntryRef where
  /-- The entry of the homepage with an index. -/
  | home (i : Nat)
  /-- The entry with an index of the other page with an index. -/
  | page (j i : Nat)
  deriving DecidableEq

namespace EntryRef

/-- The place of an entry in a value. -/
def place (v : Json) : EntryRef → List String
  | home i => [v.slot "sections" 5, toString i]
  | page j i =>
    let pageSlot := ((v.at? [v.slot "pages" 7, toString j]).getD .null).slot "sections" 2
    [v.slot "pages" 7, toString j, pageSlot, toString i]

/-- The place of an entry in the value of a configuration. -/
def written : EntryRef → List String
  | home i => ["sections", toString i]
  | page j i => ["pages", toString j, "sections", toString i]

end EntryRef

/-- A page with an entry replaced. -/
def Page.setEntry (page : Page) (i : Nat) (entry : SectionEntry) : Page :=
  { page with sections := page.sections.set i entry }

namespace SiteConfig

/-- The entry that a reference names. -/
def entryAt? (config : SiteConfig) : EntryRef → Option SectionEntry
  | .home i => config.sections[i]?
  | .page j i => config.pages[j]?.bind fun page ↦ page.sections[i]?

/-- A configuration with an entry replaced. -/
def setEntry (config : SiteConfig) (entry : SectionEntry) : EntryRef → SiteConfig
  | .home i => { config with sections := config.sections.set i entry }
  | .page j i => { config with pages := config.pages.modify j fun page ↦ page.setEntry i entry }

end SiteConfig

/-! ### Lists -/

namespace Codec

variable {α : Type} {codec : Codec α} {dialect : Dialect} {items : List Json} {as : List α}
  {slot : Option Json} {v v' w : Json} {a : α} {i : Nat}

theorem rel_getElem?_of_forall₂ {R : Json → α → Prop} (h : List.Forall₂ R items as) (i : Nat) :
    Option.Rel R items[i]? as[i]? := by
  induction h generalizing i with
  | nil => exact .none
  | cons first _ ih =>
    cases i with
    | zero => exact .some first
    | succ i => exact ih i

theorem forall₂_set {R : Json → α → Prop} (h : List.Forall₂ R items as) (new : R w a) (i : Nat) :
    List.Forall₂ R (items.set i w) (as.set i a) := by
  induction h generalizing i with
  | nil => exact .nil
  | cons first others ih =>
    cases i with
    | zero => exact .cons new others
    | succ i => exact .cons first (ih i)

theorem at?_encode_list (codec : Codec α) (as : List α) (i : Nat) (rest : List String) :
    ((list codec).encode as).at? (toString i :: rest) =
      as[i]?.bind fun a ↦ (codec.encode a).at? rest := by
  rw [encode_list, Json.at?, Json.step?_arr_toString, List.getElem?_map, Option.bind_map]
  rfl

/-- The items of a list are read one by one. -/
theorem readItems_iff : readItems (codec.read dialect) (Document.ofItems items) none = .ok as ↔
    List.Forall₂ (fun v a ↦ codec.read dialect (.ofJson v) = .ok a) items as := by
  induction items generalizing as with
  | nil =>
    rw [Document.ofItems, readItems, List.forall₂_nil_left_iff, Except.ok.injEq, eq_comm]
  | cons v rest ih =>
    rw [Document.ofItems, readItems, List.forall₂_cons_left_iff]
    cases codec.read dialect (.ofJson v) with
    | error e => simp [bind, Except.bind]
    | ok a =>
      simp only [Except.ok.injEq, ← ih, bind, Except.bind, pure, Except.pure]
      cases readItems (codec.read dialect) (Document.ofItems rest) none with
      | error e => simp
      | ok others => simp [eq_comm]

/-- A slot that a list is read from is empty or holds a list. -/
theorem readSlot_list_iff : (list codec).readSlot (some []) dialect slot = some as ↔
    (slot = none ∧ as = []) ∨ ∃ items, slot = some (.arr items) ∧
      List.Forall₂ (fun v a ↦ codec.read dialect (.ofJson v) = .ok a) items as := by
  cases slot with
  | none => simp [readSlot, eq_comm]
  | some v =>
    rw [readSlot, toOption_eq_some_iff]
    cases v with
    | arr items => simp [list, Document.ofJson, readItems_iff]
    | _ => simp [list, Document.ofJson]

/-- An item of a list is read from the item of the value with the same index. -/
theorem rel_getElem?_of_readSlot (h : (list codec).readSlot (some []) dialect slot = some as)
    (i : Nat) : Option.Rel (fun v a ↦ codec.read dialect (.ofJson v) = .ok a)
      (slot.bind fun w ↦ w.step? (toString i)) as[i]? := by
  rcases readSlot_list_iff.mp h with ⟨rfl, rfl⟩ | ⟨items, rfl, each⟩
  · exact .none
  · rw [Option.bind_some, Json.step?_arr_toString]
    exact rel_getElem?_of_forall₂ each i

/-- Replacing an item of the value replaces the item of the list with the same index. -/
theorem readSlot_setStep? (h : (list codec).readSlot (some []) dialect (some v) = some as)
    (set : v.setStep? (toString i) w = some v') (read : codec.read dialect (.ofJson w) = .ok a) :
    (list codec).readSlot (some []) dialect (some v') = some (as.set i a) := by
  rcases readSlot_list_iff.mp h with ⟨absent, -⟩ | ⟨items, eq, each⟩
  · cases absent
  obtain rfl := Option.some.inj eq
  obtain rfl : .arr (items.set i w) = v' := by
    obtain ⟨_, other, -⟩ | ⟨_, j, same, found, -, rfl⟩ := Json.setStep?_eq_some_iff.mp set
    · cases other
    · cases same
      obtain rfl := Option.some.inj ((Json.indexStep?_toString i).symm.trans found)
      rfl
  exact readSlot_list_iff.mpr (.inr ⟨_, rfl, forall₂_set each read i⟩)

end Codec

/-! ### Entries in a slot -/

namespace SectionEntry

variable {v v' w : Json} {name : String} {index i : Nat} {entries : List SectionEntry}

/-- Any value is an entry. -/
theorem read_ofJson (sorted : v.IsSorted) (dialect : Dialect) :
    codec.read dialect (.ofJson v) = .ok (ofJson v) :=
  read_of_toJson (Document.toJson_ofJson sorted) dialect

/-- An entry that stands for no section keeps the value that was read. -/
theorem eq_some_raw {x : Option Json} {u : UnsupportedSection}
    (h : x.map ofJson = some (unsupported u)) : x = some u.raw := by
  obtain ⟨v, rfl, hv⟩ := Option.map_eq_some_iff.mp h
  rw [ofJson] at hv
  cases hs : Section.ofJson v with
  | ok s =>
    rw [hs] at hv
    cases hv
  | error e =>
    rw [hs] at hv
    cases hv
    rfl

theorem getElem?_of_readSlot (sorted : v.IsSorted)
    (h : (list codec).readSlot (some []) .value (v.step? name) = some entries) (i : Nat) :
    entries[i]? = (v.at? [name, toString i]).map ofJson := by
  have rel := rel_getElem?_of_readSlot h i
  have place : v.at? [name, toString i] =
      (v.step? name).bind fun below ↦ below.step? (toString i) := by
    simp [Json.at?]
  rw [← place] at rel
  generalize found : v.at? [name, toString i] = x at rel ⊢
  generalize entries[i]? = entry at rel ⊢
  cases rel with
  | none => rfl
  | some read' =>
    have read := read_ofJson (sorted.at? found) .value
    rw [← Except.ok.inj (read.symm.trans read'), Option.map_some]

/-- Replacing the value of an entry replaces the entry. -/
theorem readSlot_setAt? (hw : w.IsSorted)
    (h : (list codec).readSlot (some []) .value (v.step? name) = some entries)
    (set : v.setAt? [name, toString i] w = some v') :
    ∃ changed, v.setStep? name changed = some v' ∧
      (list codec).readSlot (some []) .value (some changed) = some (entries.set i (ofJson w)) := by
  obtain ⟨below, changed, hbelow, hchanged, hv'⟩ := Json.updateAt?_cons_eq_some_iff.mp set
  obtain ⟨_, _, -, eq, hchanged⟩ := Json.updateAt?_cons_eq_some_iff.mp hchanged
  cases eq
  rw [hbelow] at h
  exact ⟨changed, hv', readSlot_setStep? h hchanged (read_ofJson hw .value)⟩

end SectionEntry

/-! ### Pages -/

namespace Page

variable {v v' w : Json} {page : Page}

theorem read_iff (sorted : v.IsSorted) :
    codec.read .value (.ofJson v) = .ok page ↔ v.Fits 3 ∧
      Codec.text.readSlot none .value (v.step? (v.slot "path" 0)) = some page.path ∧
      Codec.text.readSlot none .value (v.step? (v.slot "title" 1)) = some page.title ∧
      (list SectionEntry.codec).readSlot (some []) .value (v.step? (v.slot "sections" 2)) =
        some page.sections := by
  rw [codec, read_record_iff sorted]
  obtain ⟨path, title, sections⟩ := page
  simp only [Nat.zero_add, Option.bind_eq_some_iff, Option.map_eq_some_iff,
    exists_exists_and_eq_and, exists_exists_and_exists_and_eq_and, mk.injEq, ↓existsAndEq, and_true]
  exact Iff.rfl

/-- Replacing the value of an entry of a page replaces the entry. -/
theorem read_setAt? (sorted : v.IsSorted) (hw : w.IsSorted)
    (h : codec.read .value (.ofJson v) = .ok page) {i : Nat}
    (set : v.setAt? [v.slot "sections" 2, toString i] w = some v') :
    codec.read .value (.ofJson v') = .ok (page.setEntry i (.ofJson w)) := by
  obtain ⟨fits, path, title, sections⟩ := (read_iff sorted).mp h
  obtain ⟨changed, hv', changedSections⟩ := SectionEntry.readSlot_setAt? hw sections set
  have sorted' : v'.IsSorted := sorted.updateAt? (fun _ _ eq ↦ Option.some.inj eq ▸ hw) set
  refine (read_iff sorted').mpr ⟨(Json.fits_setStep? hv' 3).mpr fits, ?_, ?_, ?_⟩
  · rw [Json.step?_slot_of_ne hv' (by decide) (by decide)]
    exact path
  · rw [Json.step?_slot_of_ne hv' (by decide) (by decide)]
    exact title
  · rw [Json.step?_slot_self hv']
    exact changedSections

end Page

/-! ### Configurations -/

namespace SiteConfig

variable {v v' w : Json} {config : SiteConfig}

theorem ofJson_iff (sorted : v.IsSorted) : ofJson v = .ok config ↔ v.Fits 8 ∧
    word.readSlot (some currentVersion) .value (v.step? (v.slot "version" 0)) =
      some config.version ∧
    Business.codec.readSlot none .value (v.step? (v.slot "business" 1)) = some config.business ∧
    Theme.codec.readSlot (some .default) .value (v.step? (v.slot "theme" 2)) =
      some config.theme ∧
    Nav.codec.readSlot (some .default) .value (v.step? (v.slot "nav" 3)) = some config.nav ∧
    Hero.codec.readSlot none .value (v.step? (v.slot "hero" 4)) = some config.hero ∧
    (list SectionEntry.codec).readSlot (some []) .value (v.step? (v.slot "sections" 5)) =
      some config.sections ∧
    Footer.codec.readSlot (some .default) .value (v.step? (v.slot "footer" 6)) =
      some config.footer ∧
    (list Page.codec).readSlot (some []) .value (v.step? (v.slot "pages" 7)) =
      some config.pages := by
  rw [ofJson, decode, codec, read_record_iff sorted]
  obtain ⟨version, business, theme, nav, hero, sections, footer, pages⟩ := config
  simp only [Nat.zero_add, Option.bind_eq_some_iff, Option.map_eq_some_iff,
    exists_exists_and_eq_and, exists_exists_and_exists_and_eq_and, exists_and_left, mk.injEq,
    ↓existsAndEq, and_true, and_assoc]
  exact Iff.rfl

/-- The value at the place of an entry is the one that the entry stands for. -/
theorem entryAt?_of_ofJson (sorted : v.IsSorted) (h : ofJson v = .ok config) (ref : EntryRef) :
    config.entryAt? ref = (v.at? (ref.place v)).map SectionEntry.ofJson := by
  obtain ⟨-, -, -, -, -, -, sections, -, pages⟩ := (ofJson_iff sorted).mp h
  cases ref with
  | home i => exact SectionEntry.getElem?_of_readSlot sorted sections i
  | page j i =>
    have rel := rel_getElem?_of_readSlot pages j
    have place : v.at? [v.slot "pages" 7, toString j] =
        (v.step? (v.slot "pages" 7)).bind fun below ↦ below.step? (toString j) := by
      simp [Json.at?]
    have split (steps : List String) : v.at? (v.slot "pages" 7 :: toString j :: steps) =
        (v.at? [v.slot "pages" 7, toString j]).bind (Json.at? steps) :=
      Json.at?_append v [_, _] steps
    rw [EntryRef.place, split, entryAt?]
    rw [← place] at rel
    generalize found : v.at? [v.slot "pages" 7, toString j] = x at rel ⊢
    generalize config.pages[j]? = page at rel ⊢
    cases rel with
    | none => rfl
    | some read =>
      have sortedPage := sorted.at? found
      obtain ⟨-, -, -, sections⟩ := (Page.read_iff sortedPage).mp read
      exact SectionEntry.getElem?_of_readSlot sortedPage sections i

/-- Replacing the value of an entry replaces the entry and nothing else. -/
theorem ofJson_setAt? (sorted : v.IsSorted) (hw : w.IsSorted) (h : ofJson v = .ok config)
    {ref : EntryRef} (set : v.setAt? (ref.place v) w = some v') :
    ofJson v' = .ok (config.setEntry (.ofJson w) ref) := by
  obtain ⟨fits, version, business, theme, nav, hero, sections, footer, pages⟩ :=
    (ofJson_iff sorted).mp h
  have sorted' : v'.IsSorted := sorted.updateAt? (fun _ _ eq ↦ Option.some.inj eq ▸ hw) set
  cases ref with
  | home i =>
    obtain ⟨changed, hv', changedSections⟩ := SectionEntry.readSlot_setAt? hw sections set
    rw [ofJson_iff sorted', Json.fits_setStep? hv', Json.step?_slot_self hv']
    simp (disch := decide) only [Json.step?_slot_of_ne hv']
    exact ⟨fits, version, business, theme, nav, hero, changedSections, footer, pages⟩
  | page j i =>
    obtain ⟨below, changed, hbelow, hchanged, hv'⟩ := Json.updateAt?_cons_eq_some_iff.mp set
    obtain ⟨page, page', hpage, setPage, setPages⟩ := Json.updateAt?_cons_eq_some_iff.mp hchanged
    have found : v.at? [v.slot "pages" 7, toString j] = some page := by
      rw [Json.at?, hbelow, Option.bind_some, Json.at?, hpage]
      rfl
    rw [found, Option.getD_some] at setPage
    -- The page is read from its item, and again after the change.
    have rel := rel_getElem?_of_readSlot pages j
    rw [hbelow, Option.bind_some, hpage] at rel
    obtain ⟨p, hp, read⟩ : ∃ p, config.pages[j]? = some p ∧
        Page.codec.read .value (.ofJson page) = .ok p := by
      generalize config.pages[j]? = p at rel ⊢
      cases rel with
      | some read => exact ⟨_, rfl, read⟩
    have changedPage := Page.read_setAt? (sorted.at? found) hw read setPage
    rw [hbelow] at pages
    have changedPages := readSlot_setStep? pages setPages changedPage
    rw [ofJson_iff sorted', Json.fits_setStep? hv', Json.step?_slot_self hv']
    simp (disch := decide) only [Json.step?_slot_of_ne hv']
    have modified : config.pages.modify j (fun page ↦ page.setEntry i (.ofJson w)) =
        config.pages.set j (p.setEntry i (.ofJson w)) := by
      rw [List.modify_eq_set_getElem?, hp]
      rfl
    refine ⟨fits, version, business, theme, nav, hero, sections, footer, ?_⟩
    rw [setEntry, modified]
    exact changedPages

/-! ### The entries of a written configuration -/

/-- The entries of a settled configuration are settled. -/
theorem entryAt?_reread (config : SiteConfig) (ref : EntryRef) :
    config.reread.entryAt? ref = (config.entryAt? ref).map SectionEntry.reread := by
  cases ref with
  | home i => simp [reread, entryAt?]
  | page j i => cases page : config.pages[j]? <;> simp [reread, entryAt?, Page.reread, page]

/-- At the place of an entry stands its written form. -/
theorem at?_written (config : SiteConfig) (ref : EntryRef) :
    config.toJson.at? ref.written = (config.entryAt? ref).map SectionEntry.codec.encode := by
  cases ref with
  | home i =>
    rw [EntryRef.written, Json.at?, step?_toJson]
    exact (at?_encode_list SectionEntry.codec config.sections i []).trans
      (Option.map_eq_bind ..).symm
  | page j i =>
    rw [EntryRef.written, Json.at?, step?_toJson]
    refine (at?_encode_list Page.codec config.pages j ["sections", toString i]).trans ?_
    rw [entryAt?, Option.map_bind]
    congr
    funext page
    rw [Json.at?, Page.step?_encode]
    exact (at?_encode_list SectionEntry.codec page.sections i []).trans
      (Option.map_eq_bind ..).symm

/-! ### Entry by entry -/

/-- **No entry makes a configuration unreadable, and none is lost.** A configuration that was read
is read again from its written form. Its entries are those that the values at their places stand
for, and one that stands for no section is written as the value that was read. Any value may be put
at the place of an entry: the result is read as the configuration with that entry replaced. -/
theorem ofJson_entrywise (sorted : v.IsSorted) (h : ofJson v = .ok config) :
    ofJson config.toJson = .ok config ∧ ∀ ref : EntryRef,
      config.entryAt? ref = (v.at? (ref.place v)).map SectionEntry.ofJson ∧
      (∀ u, config.entryAt? ref = some (.unsupported u) →
        v.at? (ref.place v) = some u.raw ∧
          config.toJson.at? (ref.place config.toJson) = some u.raw) ∧
      ∀ old, v.at? (ref.place v) = some old → ∀ w, w.IsSorted →
        ∃ v', v.setAt? (ref.place v) w = some v' ∧
          ofJson v' = .ok (config.setEntry (.ofJson w) ref) := by
  have isRead : codec.IsRead config := ⟨.value, .ofJson v, h⟩
  have back : ofJson config.toJson = .ok config := by
    rw [ofJson_toJson, reread_of_isRead isRead]
  refine ⟨back, fun ref ↦ ⟨entryAt?_of_ofJson sorted h ref, fun u hu ↦ ⟨?_, ?_⟩,
    fun old hold w hw ↦ ?_⟩⟩
  · rw [entryAt?_of_ofJson sorted h] at hu
    exact SectionEntry.eq_some_raw hu
  · rw [entryAt?_of_ofJson config.isSorted_toJson back] at hu
    exact SectionEntry.eq_some_raw hu
  · obtain ⟨v', hv'⟩ := Json.exists_updateAt? (f := fun _ ↦ some w) hold rfl
    exact ⟨v', hv', ofJson_setAt? sorted hw h hv'⟩

/-- A value with an entry of an unknown kind, and with a page that is written as a list. -/
def withUnknownEntry : Json :=
  .obj [("business", .obj [("name", .str "Fixture Co")]),
    ("hero", .obj [("cta", .obj [("href", .str "#"), ("text", .str "Go")]),
      ("headline", .str "Hello")]),
    ("pages", .arr [.arr [.str "/more", .str "More", .arr [.obj [("type", .str "banner")]]]]),
    ("sections", .arr [.obj [("type", .str "carousel")]])]

theorem isSorted_withUnknownEntry : withUnknownEntry.IsSorted := by
  have sorted : withUnknownEntry.sorted = withUnknownEntry := rfl
  exact sorted ▸ Json.isSorted_sorted withUnknownEntry

/-- Nothing at all may stand where the page had its entry. -/
theorem ofJson_entrywise_withUnknownEntry : withUnknownEntry.IsSorted ∧
    ∃ config, ofJson withUnknownEntry = .ok config ∧ ofJson config.toJson = .ok config ∧
      ∃ v', withUnknownEntry.setAt? ["pages", "0", "2", "0"] .null = some v' ∧
        ofJson v' = .ok (config.setEntry (.ofJson .null) (.page 0 0)) := by
  obtain ⟨config, read⟩ : ∃ config, ofJson withUnknownEntry = .ok config := ⟨_, rfl⟩
  obtain ⟨back, entries⟩ := ofJson_entrywise isSorted_withUnknownEntry read
  obtain ⟨-, -, replace⟩ := entries (.page 0 0)
  have old : withUnknownEntry.at? (EntryRef.place withUnknownEntry (.page 0 0)) =
      some (.obj [("type", .str "banner")]) := rfl
  exact ⟨isSorted_withUnknownEntry, config, read, back, replace _ old .null .null⟩

end SiteConfig

end Sitewright
