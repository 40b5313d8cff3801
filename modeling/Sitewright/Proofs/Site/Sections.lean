import Sitewright.Proofs.Codec.Record
import Sitewright.Site.Section

/-!
# Reading sections

Every record that a section is made of is read back exactly as it was written, and so is the section
itself, from its record with the tag of its kind beside it (`Section.ofJson_write`). What a value is
read as does not depend on the signs of zeros in it (`Section.ofJson_unsigned`), which matters for a
value that is *no* section: it stays none.

An entry of a page may be held as something else than what its written form stands for, so for
entries reading back is not the identity but `SectionEntry.reread`. It is the identity on every
entry that was read (`SectionEntry.reread_of_isRead`).
-/

namespace Sitewright

open Codec

/-! ### Links -/

instance : Lawful CtaLink.codec :=
  .record ⟨fun _ ↦ rfl, by decide⟩ (fun _ _ ↦ rfl) fun _ ↦ rfl

instance : Present CtaLink.codec := .record

instance : Lawful NavLink.codec :=
  .record ⟨fun _ ↦ rfl, by decide⟩ (fun _ _ ↦ rfl) fun _ ↦ rfl

instance : Lawful SocialLink.codec :=
  .record ⟨fun _ ↦ rfl, by decide⟩ (fun _ _ ↦ rfl) fun _ ↦ rfl

/-! ### Offers -/

instance : Lawful FeatureGrid.Layout.codec := .choice fun a ↦ by cases a <;> rfl

instance : Lawful Feature.codec :=
  .record ⟨fun _ ↦ rfl, by decide⟩ (fun _ _ _ ↦ rfl) fun _ ↦ by simp

instance : Lawful FeatureGrid.codec :=
  .record ⟨fun _ ↦ rfl, by decide⟩ (fun _ _ _ _ ↦ rfl) fun _ ↦ by simp

instance : Lawful Menu.Layout.codec := .choice fun a ↦ by cases a <;> rfl

instance : Lawful MenuItem.codec :=
  .record ⟨fun _ ↦ rfl, by decide⟩ (fun _ _ _ _ _ ↦ rfl) fun _ ↦ by simp

instance : Lawful MenuCategory.codec :=
  .record ⟨fun _ ↦ rfl, by decide⟩ (fun _ _ ↦ rfl) fun _ ↦ by simp

instance : Lawful Menu.codec :=
  .record ⟨fun _ ↦ rfl, by decide⟩ (fun _ _ _ _ ↦ rfl) fun _ ↦ by simp

instance : Lawful ProductGrid.Layout.codec := .choice fun a ↦ by cases a <;> rfl

instance : Lawful Product.codec :=
  .record ⟨fun _ ↦ rfl, by decide⟩ (fun _ _ _ _ _ _ ↦ rfl) fun _ ↦ by simp

instance : Lawful ProductGrid.codec :=
  .record ⟨fun _ ↦ rfl, by decide⟩ (fun _ _ _ _ ↦ rfl) fun _ ↦ by simp

instance : Lawful Pricing.Layout.codec := .choice fun a ↦ by cases a <;> rfl

instance : Lawful PricingTier.codec :=
  .record ⟨fun _ ↦ rfl, by decide⟩ (fun _ _ _ _ _ _ _ ↦ rfl) fun _ ↦ by simp

instance : Lawful Pricing.codec :=
  .record ⟨fun _ ↦ rfl, by decide⟩ (fun _ _ _ _ ↦ rfl) fun _ ↦ by simp

/-! ### People -/

instance : Lawful Testimonials.Layout.codec := .choice fun a ↦ by cases a <;> rfl

instance : Lawful Testimonial.codec :=
  .record ⟨fun _ ↦ rfl, by decide⟩ (fun _ _ _ _ ↦ rfl) fun _ ↦ by simp

instance : Lawful Testimonials.codec :=
  .record ⟨fun _ ↦ rfl, by decide⟩ (fun _ _ _ _ ↦ rfl) fun _ ↦ by simp

instance : Lawful Team.Layout.codec := .choice fun a ↦ by cases a <;> rfl

instance : Lawful TeamMember.codec :=
  .record ⟨fun _ ↦ rfl, by decide⟩ (fun _ _ _ _ ↦ rfl) fun _ ↦ by simp

instance : Lawful Team.codec :=
  .record ⟨fun _ ↦ rfl, by decide⟩ (fun _ _ _ _ ↦ rfl) fun _ ↦ by simp

instance : Lawful LogoCloud.Layout.codec := .choice fun a ↦ by cases a <;> rfl

instance : Lawful Logo.codec :=
  .record ⟨fun _ ↦ rfl, by decide⟩ (fun _ _ ↦ rfl) fun _ ↦ by simp

instance : Lawful LogoCloud.codec :=
  .record ⟨fun _ ↦ rfl, by decide⟩ (fun _ _ _ ↦ rfl) fun _ ↦ by simp

/-! ### Story -/

instance : Lawful About.Layout.codec := .choice fun a ↦ by cases a <;> rfl

instance : Lawful About.codec :=
  .record ⟨fun _ ↦ rfl, by decide⟩ (fun _ _ _ _ _ ↦ rfl) fun _ ↦ by simp

instance : Lawful BlogPreview.Layout.codec := .choice fun a ↦ by cases a <;> rfl

instance : Lawful BlogPost.codec :=
  .record ⟨fun _ ↦ rfl, by decide⟩ (fun _ _ _ _ _ _ ↦ rfl) fun _ ↦ by simp

instance : Lawful BlogPreview.codec :=
  .record ⟨fun _ ↦ rfl, by decide⟩ (fun _ _ _ _ ↦ rfl) fun _ ↦ by simp

instance : Lawful Faq.Layout.codec := .choice fun a ↦ by cases a <;> rfl

instance : Lawful FaqItem.codec :=
  .record ⟨fun _ ↦ rfl, by decide⟩ (fun _ _ ↦ rfl) fun _ ↦ rfl

instance : Lawful Faq.codec :=
  .record ⟨fun _ ↦ rfl, by decide⟩ (fun _ _ _ _ ↦ rfl) fun _ ↦ by simp

instance : Lawful Process.Layout.codec := .choice fun a ↦ by cases a <;> rfl

instance : Lawful ProcessStep.codec :=
  .record ⟨fun _ ↦ rfl, by decide⟩ (fun _ _ ↦ rfl) fun _ ↦ rfl

instance : Lawful Process.codec :=
  .record ⟨fun _ ↦ rfl, by decide⟩ (fun _ _ _ _ ↦ rfl) fun _ ↦ by simp

instance : Lawful Stats.Layout.codec := .choice fun a ↦ by cases a <;> rfl

instance : Lawful Stat.codec :=
  .record ⟨fun _ ↦ rfl, by decide⟩ (fun _ _ ↦ rfl) fun _ ↦ rfl

instance : Lawful Stats.codec :=
  .record ⟨fun _ ↦ rfl, by decide⟩ (fun _ _ _ ↦ rfl) fun _ ↦ by simp

instance : Lawful Gallery.Layout.codec := .choice fun a ↦ by cases a <;> rfl

instance : Lawful GalleryItem.codec :=
  .record ⟨fun _ ↦ rfl, by decide⟩ (fun _ _ ↦ rfl) fun _ ↦ by simp

instance : Lawful Gallery.codec :=
  .record ⟨fun _ ↦ rfl, by decide⟩ (fun _ _ _ _ ↦ rfl) fun _ ↦ by simp

/-! ### Calls to action -/

instance : Lawful CtaBanner.Layout.codec := .choice fun a ↦ by cases a <;> rfl

instance : Lawful CtaBanner.codec :=
  .record ⟨fun _ ↦ rfl, by decide⟩ (fun _ _ _ _ ↦ rfl) fun _ ↦ by simp

instance : Lawful Contact.Layout.codec := .choice fun a ↦ by cases a <;> rfl

instance : Lawful Contact.codec :=
  .record ⟨fun _ ↦ rfl, by decide⟩ (fun _ _ _ _ _ _ _ ↦ rfl) fun _ ↦ by simp

instance : Lawful Newsletter.Layout.codec := .choice fun a ↦ by cases a <;> rfl

instance : Lawful Newsletter.codec :=
  .record ⟨fun _ ↦ rfl, by decide⟩ (fun _ _ _ _ _ ↦ rfl) fun _ ↦ by simp

/-! ### Components of others -/

instance : Lawful Custom.Layout.codec := .choice fun _ ↦ rfl

instance : Lawful Custom.codec :=
  .record ⟨fun _ ↦ rfl, by decide⟩ (fun _ _ _ ↦ rfl) fun _ ↦ rfl

/-! ### Sections -/

namespace Section

/-- The keys of a written section are all different. -/
theorem nodup_keys (s : Section) : ("type" :: (entriesOf s.payload).map (·.1)).Nodup :=
  of_decide_eq_true (by cases s <;> rfl)

theorem payload_sorted (s : Section) :
    s.payload.sorted = .obj (Entries.sort (Json.sortedValues (entriesOf s.payload))) := by
  cases s <;> rfl

theorem map_read_encode {α : Type} {codec : Codec α} [Lawful codec] (make : α → Section) (a : α) :
    (codec.read .tagged (.ofJson (codec.write a).sorted)).map make = .ok (make a) :=
  congrArg (Except.map make) (codec.read_encode .tagged a)

theorem readPayload_payload (s : Section) :
    readPayload (.ofJson s.payload.sorted) s.kind = .ok s := by
  cases s <;> rw [readPayload.eq_def, payload, kind] <;> exact map_read_encode ..

theorem toOption_map_read {α : Type} {codec : Codec α} [Lawful codec] (make : α → Section)
    (v : Json) : ((codec.read .tagged (.ofJson v.unsigned)).map make).toOption =
      ((codec.read .tagged (.ofJson v)).map make).toOption := by
  rw [toOption_map, toOption_map, codec.read_unsigned]

theorem readPayload_unsigned (v : Json) (kind : SectionKind) :
    (readPayload (.ofJson v.unsigned) kind).toOption =
      (readPayload (.ofJson v) kind).toOption := by
  cases kind <;> exact toOption_map_read ..

theorem find?_keys (s : Section) (key : String) :
    Entries.find? key
        (Entries.sort (("type", .str s.kind.tag) :: Json.sortedValues (entriesOf s.payload))) =
      if "type" = key then some (.str s.kind.tag)
      else Entries.find? key (Entries.sort (Json.sortedValues (entriesOf s.payload))) := by
  have nodup : ((("type", Json.str s.kind.tag) ::
      Json.sortedValues (entriesOf s.payload)).map (·.1)).Nodup := by
    rw [List.map_cons, keys_sortedValues]
    exact s.nodup_keys
  rw [Entries.find?_sort nodup, Entries.find?_sort (List.nodup_cons.mp nodup).2, Entries.find?]

theorem write_sorted (s : Section) : s.write.sorted =
    .obj (Entries.sort (("type", .str s.kind.tag) :: Json.sortedValues (entriesOf s.payload))) :=
  rfl

theorem isAddressable_payload (s : Section) : s.payload.sorted.IsAddressable := by
  cases s <;> rw [payload] <;> exact isAddressable_encode _ _

/-- Every place in a written section has a path that can be written. -/
theorem isAddressable_write (s : Section) : s.write.sorted.IsAddressable :=
  .of_steps fun {key v} h ↦ by
    rw [write_sorted, Json.step?, find?_keys] at h
    split at h
    · subst key
      cases h
      exact ⟨by decide, .of_steps fun h ↦ by cases h⟩
    · exact s.isAddressable_payload.step? (by rw [payload_sorted]; exact h)

/-- Without the tag the entries are those of the record, because no record has a field `type`. -/
theorem erase_tag (s : Section) : Entries.erase "type" (Entries.sort
    (("type", .str s.kind.tag) :: Json.sortedValues (entriesOf s.payload))) =
      Entries.sort (Json.sortedValues (entriesOf s.payload)) := by
  refine Entries.ext_of_sorted (Entries.sorted_erase (Entries.sorted_sort _) _)
    (Entries.sorted_sort _) fun key ↦ ?_
  by_cases eq : key = "type"
  · subst eq
    have absent := (List.nodup_cons.mp s.nodup_keys).1
    rw [Entries.find?_erase_self, eq_comm, Entries.find?_eq_none_iff]
    intro mem
    obtain ⟨entry, there, key⟩ := List.mem_map.mp mem
    refine absent ?_
    rw [← keys_sortedValues, ← key]
    exact List.mem_map_of_mem (Entries.mem_of_mem_sort there)
  · rw [Entries.find?_erase_of_ne eq, find?_keys, if_neg (Ne.symm eq)]

/-- An object with the tag of a kind is read without the tag as a record of that kind. -/
theorem ofJson_obj {es : List (String × Json)} {kind : SectionKind}
    (tag : Entries.find? "type" es = some (.str kind.tag)) :
    ofJson (.obj es) = readPayload (.ofJson (.obj (Entries.erase "type" es))) kind := by
  have read : readKind (.str kind.tag) = .ok kind := by
    cases kind <;> rfl
  rw [ofJson, tag]
  simp only [read, bind, Except.bind]

/-- A section is read back as it was written. -/
theorem ofJson_write (s : Section) : ofJson s.write.sorted = .ok s := by
  have tag := (s.find?_keys "type").trans (if_pos rfl)
  rw [write_sorted, ofJson_obj tag, erase_tag, ← payload_sorted, readPayload_payload]

theorem readKind_unsigned (tag : Json) :
    (readKind tag.unsigned).toOption = (readKind tag).toOption := by
  cases tag with
  | num n => cases n <;> rfl
  | _ => rfl

theorem erase_unsignedValues (key : String) (es : List (String × Json)) :
    Entries.erase key (Json.unsignedValues es) = Json.unsignedValues (Entries.erase key es) := by
  rw [Json.unsignedValues_eq_map, Json.unsignedValues_eq_map, Entries.erase, Entries.erase,
    List.filter_map]
  rfl

/-- Whether a value is a section, and which one, does not depend on the signs of zeros in it. -/
theorem ofJson_unsigned (v : Json) : (ofJson v.unsigned).toOption = (ofJson v).toOption := by
  cases v with
  | num n => cases n <;> rfl
  | obj es =>
    rw [Json.unsigned, ofJson, ofJson, Json.find?_unsignedValues]
    cases Entries.find? "type" es with
    | none => rfl
    | some tag =>
      simp only [Option.map_some, toOption_bind, readKind_unsigned, erase_unsignedValues]
      congr
      funext kind
      exact readPayload_unsigned (.obj (Entries.erase "type" es)) kind
  | arr items =>
    cases items with
    | nil => rfl
    | cons tag items =>
      rw [Json.unsigned, Json.unsignedItems, ofJson, ofJson]
      simp only [toOption_bind, readKind_unsigned]
      congr
      funext kind
      exact readPayload_unsigned (.arr items) kind
  | _ => rfl

/-- Two sorted values that differ in nothing but the signs of zeros stand for the same section, or
both for none. -/
theorem ofJson_of_alike {v w : Json} (hv : v.IsSorted) (hw : w.IsSorted) (h : v.Alike w) :
    (ofJson v).toOption = (ofJson w).toOption := by
  rw [← ofJson_unsigned v, Json.unsigned_eq_of_alike hv hw h, ofJson_unsigned]

/-! ### Two sections of one kind -/

theorem exists_map_read {α : Type} {codec : Codec α} [Lawful codec] (make : α → Section)
    {kind : SectionKind} (kinds : ∀ a, (make a).kind = kind) {a b : α} {m : Json}
    (sorted : m.IsSorted) (blend : Json.Blend (codec.encode a) (codec.encode b) m) :
    ∃ r : Section, r.kind = kind ∧ (codec.read .tagged (.ofJson m)).map make = .ok r := by
  obtain ⟨c, rfl⟩ := codec.exists_encode sorted blend
  exact ⟨make c, kinds c, map_read_encode make c⟩

/-- A blend of the records of two sections of one kind is read as a record of that kind. -/
theorem exists_readPayload {s t : Section} (kind : t.kind = s.kind) {m : Json}
    (sorted : m.IsSorted) (blend : Json.Blend s.payload.sorted t.payload.sorted m) :
    ∃ r, r.kind = s.kind ∧ readPayload (.ofJson m) s.kind = .ok r := by
  cases s <;> cases t <;> cases kind <;>
    exact exists_map_read _ (by intro; rfl) sorted blend

/-- **A blend of two sections of one kind is a section of that kind.** -/
theorem exists_ofJson_of_blend {s t : Section} (kind : t.kind = s.kind) {m : Json}
    (sorted : m.IsSorted) (blend : Json.Blend s.write.sorted t.write.sorted m) :
    ∃ r, r.kind = s.kind ∧ ofJson m = .ok r := by
  have tags := fun s : Section ↦ (s.find?_keys "type").trans (if_pos rfl)
  rw [write_sorted, write_sorted] at blend
  obtain ⟨es, rfl⟩ := blend.exists_obj
  -- Both sides have the same tag, so the blend has it too, and besides it a blend of their records.
  have tag : Entries.find? "type" es = some (.str s.kind.tag) := by
    obtain ⟨z, hz, part⟩ := blend.exists_step? (tags s) (tags t)
    rw [kind] at part
    rw [← Json.eq_str_of_head part.alike.head.symm]
    exact hz
  have record := blend.erase "type"
  rw [erase_tag, erase_tag, ← payload_sorted, ← payload_sorted] at record
  rw [ofJson_obj tag]
  exact exists_readPayload kind (sorted.erase "type") record

end Section

/-! ### Entries -/

namespace SectionEntry

/-- The entry that the written form of an entry stands for. -/
def reread (entry : SectionEntry) : SectionEntry := ofJson (codec.encode entry)

/-- What is written of the entry that a value stands for. -/
def rewritten (v : Json) : Json := codec.encode (ofJson v)

theorem rewritten_of_ok {v : Json} {s : Section} (h : Section.ofJson v = .ok s) :
    rewritten v = s.write.sorted := by
  rw [rewritten, ofJson, h]
  rfl

/-- A value that is no section is written as it is. -/
theorem rewritten_of_error {v : Json} (sorted : v.IsSorted) {e : ReadError}
    (h : Section.ofJson v = .error e) : rewritten v = v := by
  rw [rewritten, ofJson, h]
  exact Json.sorted_eq_self sorted

/-- Any sorted value is the written form of some entry. -/
instance : Blends codec where
  exists_encode {_ _ m} sorted _ := ⟨.unsupported ⟨"", m, ""⟩, Json.sorted_eq_self sorted⟩

theorem read_of_toJson {d : Document} {v : Json} (h : d.toJson = .ok v) (dialect : Dialect) :
    codec.read dialect d = .ok (ofJson v) := by
  simp only [codec, h]

/-- What is read is the entry of a sorted value. -/
theorem exists_of_isRead {entry : SectionEntry} (h : codec.IsRead entry) :
    ∃ v, v.IsSorted ∧ ofJson v = entry := by
  obtain ⟨dialect, d, read⟩ := h
  simp only [codec] at read
  split at read <;> cases read
  rename_i v hv
  exact ⟨v, d.isSorted_of_toJson hv, rfl⟩

instance : Reads codec reread where
  read_encode dialect entry :=
    read_of_toJson (Document.toJson_ofJson (Json.isSorted_sorted (codec.write entry))) dialect

/-- An entry that was read is the one that its written form stands for. -/
theorem reread_of_isRead {entry : SectionEntry} (h : codec.IsRead entry) :
    entry.reread = entry := by
  obtain ⟨v, sorted, rfl⟩ := exists_of_isRead h
  show ofJson (rewritten v) = ofJson v
  cases hs : Section.ofJson v with
  | ok s => rw [rewritten_of_ok hs, ofJson, ofJson, hs, Section.ofJson_write]
  | error e => rw [rewritten_of_error sorted hs]

theorem reread_of_ok {entry : SectionEntry} {s : Section}
    (h : Section.ofJson (codec.encode entry) = .ok s) : entry.reread = supported s := by
  rw [reread, ofJson, h]

/-- An entry that shows the same as a section is read as that section. -/
theorem reread_of_alike {entry : SectionEntry} {s : Section}
    (alike : (codec.encode (supported s)).Alike (codec.encode entry)) :
    entry.reread = supported s := by
  have back : Section.ofJson (codec.encode (supported s)) = .ok s := Section.ofJson_write s
  have same := Section.ofJson_of_alike (Json.isSorted_sorted _) (Json.isSorted_sorted _) alike
  rcases cases_of_toOption_eq same with ⟨t, eq, ht⟩ | ⟨_, _, eq, -⟩
  · cases back.symm.trans eq
    exact reread_of_ok ht
  · cases back.symm.trans eq

/-- A section is settled. -/
@[simp] theorem reread_supported (s : Section) : (supported s).reread = supported s :=
  reread_of_alike (Json.Alike.refl _)

/-- Two sorted values that show the same are written as entries that show the same. -/
theorem rewritten_alike {v w : Json} (hv : v.IsSorted) (hw : w.IsSorted) (alike : v.Alike w) :
    (rewritten v).Alike (rewritten w) := by
  -- Either both are one section, and are written as it is, or neither is and both stay.
  rcases cases_of_toOption_eq (Section.ofJson_of_alike hv hw alike) with
    ⟨s, first, second⟩ | ⟨e, e', first, second⟩
  · rw [rewritten_of_ok first, rewritten_of_ok second]
  · rw [rewritten_of_error hv first, rewritten_of_error hw second]
    exact alike

end SectionEntry

end Sitewright
