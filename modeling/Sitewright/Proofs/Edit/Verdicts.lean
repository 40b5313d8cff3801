import Mathlib.Data.List.Sigma
import Sitewright.Proofs.Edit.Reach
import Sitewright.Proofs.Json.Pointers
import Sitewright.Proofs.Repeats

/-!
# Verdicts can be acted on

A classification by words either asks for a different site, or it has targets, and a target is only
of use if there is something at it. Targets are written out in the rules or put together from the
indices of entries, while the places of a configuration follow from the fields of its records, so
the two have to be compared. A field that a rule writes out is one of the *standing* places, which
every configuration has (`SiteConfig.standing`), because records are written with all their fields,
absent values included. An entry that a text names is there because it was found there.

Targets are also independent of each other: none lies at or above another one. Written-out targets
are checked against each other once; the places of different entries are apart because each is the
place of one entry only, and fields lie outside of all lists of entries.
-/

namespace Sitewright

/-! ### Paths that are apart -/

namespace FieldPath

/-- Whether neither of two paths lies at or below the other. -/
def Apart (a b : FieldPath) : Prop := a.covers b = false ∧ b.covers a = false

instance (a b : FieldPath) : Decidable (a.Apart b) :=
  inferInstanceAs (Decidable (a.covers b = false ∧ b.covers a = false))

/-- Paths that part at their first segment are apart. -/
theorem Apart.of_heads {a b : FieldPath} {key other : String} {as bs : List String}
    (ha : a.segments = key :: as) (hb : b.segments = other :: bs) (ne : key ≠ other) :
    a.Apart b := by
  constructor
  · rw [← Bool.not_eq_true, covers_iff, ha, hb]
    exact fun pre ↦ ne (List.cons_prefix_cons.mp pre).1
  · rw [← Bool.not_eq_true, covers_iff, ha, hb]
    exact fun pre ↦ ne (List.cons_prefix_cons.mp pre).1.symm

theorem item_injective (base : FieldPath) : Function.Injective base.item := by
  intro i j eq
  have last := congrArg last? eq
  rw [item, item, last?_child, last?_child] at last
  exact Json.toString_injective (Option.some.inj last)

end FieldPath

/-- The places of two entries are the same or apart. -/
theorem SiteConfig.EntryPlace.apart {a b : FieldPath} (ha : EntryPlace a.segments)
    (hb : EntryPlace b.segments) (ne : a ≠ b) : a.Apart b := by
  have differ {a b : FieldPath} (ha : EntryPlace a.segments) (hb : EntryPlace b.segments)
      (ne : a ≠ b) : a.covers b = false := by
    rw [← Bool.not_eq_true, FieldPath.covers_iff]
    intro pre
    obtain ⟨_⟩ := a
    obtain ⟨_⟩ := b
    exact ne (congrArg FieldPath.mk (hb.eq_of_prefix ha pre).symm)
  exact ⟨differ ha hb ne, differ hb ha ne.symm⟩

/-- A field outside of all lists of entries is apart from every entry. -/
theorem SiteConfig.EntryPlace.apart_field {field hit : FieldPath} (h : EntryPlace hit.segments)
    (outside : field.segments.head?.any (fun key ↦ key != "sections" && key != "pages") = true) :
    field.Apart hit := by
  obtain ⟨key, first, other⟩ := (Option.any_eq_true _ _).mp outside
  obtain ⟨rest, eq⟩ := List.head?_eq_some_iff.mp first
  rw [Bool.and_eq_true, bne_iff_ne, bne_iff_ne] at other
  generalize place : hit.segments = segments at h
  cases h with
  | home i => exact .of_heads eq place other.1
  | page j i => exact .of_heads eq place other.2

/-! ### Standing places -/

namespace Codec

variable {ρ : Type} {name about : String} {fields : Fields ρ ρ}

/-- The keys that are looked for by a codec. -/
def keys {α : Type} (codec : Codec α) : List String :=
  match codec.outline with
  | .record fields => fields.map (·.1)
  | _ => []

/-- A record is written with all the keys that are looked for. -/
theorem isSome_step?_encode_record (keyed : fields.IsKeyed) (r : ρ) {key : String}
    (h : key ∈ (record name about fields).keys) :
    (((record name about fields).encode r).step? key).isSome = true := by
  have names : key ∈ (fields.toEntries r).map (·.1) := by
    rw [keyed.names]
    simpa [keys, record] using h
  show (Entries.find? key (Entries.sort (Json.sortedValues (fields.toEntries r)))).isSome = true
  rw [find?_sort_toEntries keyed, Option.isSome_map]
  exact Entries.has_iff.mpr names

end Codec

namespace SiteConfig

open Codec

/-- The places that every configuration has, of which edits may concern some: its parts, and the
fields of business, theme and hero. -/
def standing : List (List String) :=
  codec.keys.map ([·]) ++ Business.codec.keys.map (["business", ·]) ++
    Theme.codec.keys.map (["theme", ·]) ++ Hero.codec.keys.map (["hero", ·])

theorem isSome_at?_of_mem_standing (config : SiteConfig) {place : List String}
    (h : place ∈ standing) : (config.toJson.at? place).isSome = true := by
  have step (v : Json) (key : String) : v.at? [key] = v.step? key := by simp [Json.at?]
  have part {key : String} {v : Json} (there : config.toJson.step? key = some v) (field : String) :
      config.toJson.at? [key, field] = v.step? field := by
    rw [Json.at?, there, Option.bind_some, step]
  simp only [standing, List.mem_append, List.mem_map] at h
  rcases h with ((⟨key, mem, rfl⟩ | ⟨key, mem, rfl⟩) | ⟨key, mem, rfl⟩) | ⟨key, mem, rfl⟩
  · rw [step]
    exact isSome_step?_encode_record ⟨fun _ ↦ rfl, by decide⟩ config mem
  · rw [part (config.step?_toJson "business")]
    exact isSome_step?_encode_record ⟨fun _ ↦ rfl, by decide⟩ config.business mem
  · rw [part (config.step?_toJson "theme")]
    exact isSome_step?_encode_record ⟨fun _ ↦ rfl, by decide⟩ config.theme mem
  · rw [part (config.step?_toJson "hero")]
    exact isSome_step?_encode_record ⟨fun _ ↦ rfl, by decide⟩ config.hero mem

end SiteConfig

/-! ### Verdicts -/

/-- Whether targets address a value: there are some, there is something at each of them, and none
lies at or above another one. -/
structure FieldPath.Addresses (targets : List FieldPath) (v : Json) : Prop where
  /-- There are targets. -/
  nonempty : targets ≠ []
  /-- The pointer of every target leads somewhere. -/
  resolves : ∀ target ∈ targets, ∃ w, v.atPointer? target.pointer = some w
  /-- No target lies at or above another one. -/
  apart : targets.Pairwise FieldPath.Apart

/-- Whether a classification can be acted on: it asks for a different site and for nothing else, or
its targets address the configuration. -/
def EditClassification.IsActionable (c : EditClassification) (config : SiteConfig) : Prop :=
  c.requiresRegeneration = true ∧ c.category = .structureMajor ∧ c.targets = [] ∨
    c.requiresRegeneration = false ∧ FieldPath.Addresses c.targets config.toJson

theorem EditClassification.requiresRegeneration_ofTargets (category : EditCategory)
    (scope : EditScope) (targets : List FieldPath) (reasoning : String) :
    (ofTargets category scope targets reasoning).requiresRegeneration =
      (category == .structureMajor) :=
  Bool.or_self _

namespace FieldPath

variable {config : SiteConfig} {targets : List FieldPath}

open SiteConfig

/-- Whether every configuration has a place. -/
def Stands (target : FieldPath) : Prop := target.segments ∈ standing

instance (target : FieldPath) : Decidable target.Stands :=
  inferInstanceAs (Decidable (target.segments ∈ standing))

theorem exists_atPointer? {target : FieldPath}
    (h : (config.toJson.at? target.segments).isSome = true) :
    ∃ w, config.toJson.atPointer? target.pointer = some w := by
  rw [Json.atPointer?_pointer]
  exact Option.isSome_iff_exists.mp h

theorem Stands.resolves {target : FieldPath} (h : target.Stands) (config : SiteConfig) :
    ∃ w, config.toJson.atPointer? target.pointer = some w :=
  exists_atPointer? (config.isSome_at?_of_mem_standing h)

/-- Standing places that are apart address every configuration. -/
theorem Addresses.of_standing (config : SiteConfig) (nonempty : targets ≠ [])
    (stand : ∀ target ∈ targets, target.Stands) (apart : targets.Pairwise Apart) :
    Addresses targets config.toJson :=
  ⟨nonempty, fun target mem ↦ (stand target mem).resolves config, apart⟩

/-- So do some of them. -/
theorem Addresses.of_sublist (config : SiteConfig) (all : List FieldPath)
    (sub : targets.Sublist all) (nonempty : targets ≠ []) (stand : ∀ target ∈ all, target.Stands)
    (apart : all.Pairwise Apart) : Addresses targets config.toJson :=
  .of_standing config nonempty (fun target mem ↦ stand target (sub.mem mem)) (apart.sublist sub)

end FieldPath

namespace EditWords

open SiteConfig FieldPath

variable {text : EditWords} {config : SiteConfig} {c : EditClassification} {target : FieldPath}

/-! ### Named entries -/

theorem nodup_entryHits (text : EditWords) (base : FieldPath) (entries : List SectionEntry) :
    (text.entryHits base entries).Nodup := by
  have places : text.entryHits base entries =
      ((entries.zipIdx.filter fun entry ↦ text.namesEntry entry.1).map Prod.snd).map
        base.item := by
    rw [entryHits, List.map_map]
    rfl
  rw [places]
  refine List.Nodup.map base.item_injective ?_
  exact (List.nodup_zipIdx_map_snd entries).sublist (List.filter_sublist.map _)

/-- No entry is hit twice: entries of one list have different indices, and lists have different
places. -/
theorem nodup_sectionHits (text : EditWords) (config : SiteConfig) :
    (text.sectionHits config).Nodup := by
  rw [sectionHits, List.nodup_append]
  refine ⟨nodup_entryHits text _ _, List.nodup_flatMap.mpr ⟨fun _ _ ↦ nodup_entryHits text _ _, ?_⟩,
    ?_⟩
  · refine (List.pairwise_map.mp (List.nodup_zipIdx_map_snd config.pages)).imp ?_
    rintro ⟨page, j⟩ ⟨other, k⟩ ne hit here there
    obtain ⟨i, rfl⟩ := exists_of_mem_entryHits here
    obtain ⟨l, eq⟩ := exists_of_mem_entryHits there
    have segments : ["pages", toString j, "sections", toString i] =
        ["pages", toString k, "sections", toString l] := congrArg FieldPath.segments eq
    simp only [List.cons.injEq, true_and] at segments
    exact ne (Json.toString_injective segments.1)
  · rintro hit home _ other rfl
    obtain ⟨i, rfl⟩ := exists_of_mem_entryHits home
    obtain ⟨⟨page, j⟩, -, mem⟩ := List.mem_flatMap.mp other
    obtain ⟨k, eq⟩ := exists_of_mem_entryHits mem
    have segments : ["sections", toString i] = ["pages", toString j, "sections", toString k] :=
      congrArg FieldPath.segments eq
    simp at segments

theorem pairwise_apart_sectionHits (text : EditWords) (config : SiteConfig) :
    (text.sectionHits config).Pairwise Apart :=
  (nodup_sectionHits text config).pairwise_of_forall_ne fun _ ha _ hb ne ↦
    (entryPlace_of_mem_sectionHits ha).apart (entryPlace_of_mem_sectionHits hb) ne

theorem resolves_of_mem_sectionHits (h : target ∈ text.sectionHits config) :
    ∃ w, config.toJson.atPointer? target.pointer = some w := by
  obtain ⟨ref, ⟨entry, here, -⟩, rfl⟩ := mem_sectionHits_iff.mp h
  refine exists_atPointer? ?_
  rw [at?_written, here]
  rfl

/-- Named entries address a configuration, together with fields that are outside of all lists of
entries. -/
theorem addresses_append_sectionHits (text : EditWords) (config : SiteConfig)
    (fields : List FieldPath) (nonempty : fields ++ text.sectionHits config ≠ [])
    (stand : ∀ field ∈ fields, field.Stands) (apart : fields.Pairwise Apart)
    (outside : ∀ field ∈ fields,
      field.segments.head?.any (fun key ↦ key != "sections" && key != "pages") = true) :
    Addresses (fields ++ text.sectionHits config) config.toJson where
  nonempty := nonempty
  resolves target mem := by
    rcases List.mem_append.mp mem with mem | mem
    · exact (stand target mem).resolves config
    · exact resolves_of_mem_sectionHits mem
  apart := List.pairwise_append.mpr ⟨apart, pairwise_apart_sectionHits text config,
    fun field hfield _ hhit ↦
      (entryPlace_of_mem_sectionHits hhit).apart_field (outside field hfield)⟩

/-! ### Rule by rule -/

theorem only_sublist {α : Type} (condition : Bool) (a : α) : (only condition a).Sublist [a] := by
  cases condition with
  | false => exact List.nil_sublist _
  | true => exact .refl _

theorem isActionable_ofTargets {category : EditCategory} {scope : EditScope}
    {targets : List FieldPath} {reasoning : String} (minor : category ≠ .structureMajor)
    (h : Addresses targets config.toJson) :
    (EditClassification.ofTargets category scope targets reasoning).IsActionable config := by
  refine .inr ⟨?_, h⟩
  rw [EditClassification.requiresRegeneration_ofTargets, beq_eq_false_iff_ne]
  exact minor

theorem isActionable_of_regenerateRule (h : c ∈ text.regenerateRule) : c.IsActionable config := by
  obtain ⟨phrase, -, rfl⟩ := Option.map_eq_some_iff.mp h
  exact .inl ⟨rfl, rfl, rfl⟩

theorem isActionable_of_logoRule (h : c ∈ text.logoRule) : c.IsActionable config := by
  obtain ⟨-, eq⟩ := Option.mem_ite_none_right.mp h
  obtain rfl := Option.some.inj eq
  exact isActionable_ofTargets (by decide)
    (.of_standing config (by decide) (by decide) (by decide))

theorem isActionable_of_structureRule (h : c ∈ text.structureRule config) :
    c.IsActionable config := by
  obtain ⟨-, eq⟩ := Option.mem_ite_none_right.mp h
  obtain rfl := Option.some.inj eq
  exact isActionable_ofTargets (by decide)
    (.of_sublist config [.field "sections", .field "pages"] ((only_sublist _ _).cons_cons _)
      (List.cons_ne_nil _ _) (by decide) (by decide))

theorem mem_allContact_of_mem_contactTargets (h : target ∈ text.contactTargets) :
    target ∈ Keywords.allContact := by
  rw [contactTargets, List.mem_eraseDups, List.mem_map] at h
  obtain ⟨entry, mem, rfl⟩ := h
  have places : ∀ entry ∈ Keywords.contact, entry.2 ∈ Keywords.allContact := by decide
  exact places entry (List.mem_of_mem_filter mem)

theorem isActionable_of_contactRule (h : c ∈ text.contactRule) : c.IsActionable config := by
  obtain ⟨-, eq⟩ := Option.mem_ite_none_right.mp h
  obtain rfl := Option.some.inj eq
  refine isActionable_ofTargets (by decide) ?_
  have stand : ∀ target ∈ Keywords.allContact, target.Stands := by decide
  split
  · exact .of_standing config (by decide) stand (by decide)
  · rename_i named
    -- The same place has several words, but it is a target once.
    have apart : ∀ a ∈ Keywords.allContact, ∀ b ∈ Keywords.allContact, a ≠ b → a.Apart b := by
      decide
    have nodup : text.contactTargets.Nodup := nodup_eraseDups _
    refine .of_standing config (mt List.isEmpty_iff.mpr named)
      (fun target mem ↦ stand target (mem_allContact_of_mem_contactTargets mem))
      (nodup.pairwise_of_forall_ne fun a ha b hb ↦ apart a ?_ b ?_)
    · exact mem_allContact_of_mem_contactTargets ha
    · exact mem_allContact_of_mem_contactTargets hb

theorem isActionable_of_styleRule (h : c ∈ text.styleRule) : c.IsActionable config := by
  obtain ⟨-, eq⟩ := Option.mem_ite_none_right.mp h
  obtain rfl := Option.some.inj eq
  refine isActionable_ofTargets (by decide) ?_
  rw [styleTargets]
  split
  · exact .of_standing config (by decide) (by decide) (by decide)
  · rename_i named
    have sub (a b c d e : Bool) :=
      ((((only_sublist a (field "theme.fontStyle")).append
        (only_sublist b (field "theme.mode"))).append
        (only_sublist c (field "theme.secondary"))).append
        (only_sublist d (field "theme.accent"))).append (only_sublist e (field "theme.primary"))
    exact .of_sublist config _ (sub ..) (mt List.isEmpty_iff.mpr named) (by decide) (by decide)

theorem isActionable_of_navigationRule (h : c ∈ text.navigationRule) : c.IsActionable config := by
  obtain ⟨-, eq⟩ := Option.mem_ite_none_right.mp h
  obtain rfl := Option.some.inj eq
  refine isActionable_ofTargets (by decide)
    (.of_sublist config ([.field "nav"] ++ [.field "footer"])
      ((only_sublist _ _).append (only_sublist _ _)) ?_ (by decide) (by decide))
  -- Without the footer it is the bar.
  cases text.hasWord "footer" <;> simp [only]

theorem isActionable_of_imageRule (h : c ∈ text.imageRule config) : c.IsActionable config := by
  obtain ⟨-, eq⟩ := Option.mem_ite_none_right.mp h
  obtain rfl := Option.some.inj eq
  refine isActionable_ofTargets (by decide) ?_
  split
  · exact .of_standing config (by decide) (by decide) (by decide)
  · exact addresses_append_sectionHits text config [.field "hero.imageDescription"]
      (List.cons_ne_nil _ _) (by decide) (by decide) (by decide)

theorem isActionable_contentRule (text : EditWords) (config : SiteConfig) :
    (text.contentRule config).IsActionable config := by
  rw [contentRule]
  split
  · exact isActionable_ofTargets (by decide)
      (.of_standing config (by decide) (by decide) (by decide))
  · rename_i named
    have sub (a b c : Bool) := ((only_sublist a (field "hero")).append
      (only_sublist b (field "business.tagline"))).append
        (only_sublist c (field "business.description"))
    have all : ∀ target ∈ [field "hero"] ++ [field "business.tagline"] ++
        [field "business.description"], target.Stands ∧
          target.segments.head?.any (fun key ↦ key != "sections" && key != "pages") = true := by
      decide
    have apart : ([field "hero"] ++ [field "business.tagline"] ++
        [field "business.description"]).Pairwise Apart := by
      decide
    exact isActionable_ofTargets (by decide) (addresses_append_sectionHits text config _
      (mt List.isEmpty_iff.mpr named) (fun target mem ↦ (all target ((sub ..).mem mem)).1)
      (apart.sublist (sub ..)) fun target mem ↦ (all target ((sub ..).mem mem)).2)

/-- **Classifying by words ends in something to act on**, whatever the text and the configuration
are. -/
theorem isActionable_classify (text : EditWords) (config : SiteConfig) :
    (text.classify config).IsActionable config :=
  classify_of_rules text config (fun _ ↦ isActionable_of_regenerateRule)
    (fun _ ↦ isActionable_of_logoRule) (fun _ ↦ isActionable_of_structureRule)
    (fun _ ↦ isActionable_of_contactRule) (fun _ ↦ isActionable_of_styleRule)
    (fun _ ↦ isActionable_of_navigationRule) (fun _ ↦ isActionable_of_imageRule)
    (isActionable_contentRule text config)

/-! ### Asking for a different site -/

theorem requiresRegeneration_of_mem_ite {found : Prop} [Decidable found] {kind : EditCategory}
    {scope : EditScope} {targets : List FieldPath} {reasoning : String}
    (minor : kind ≠ .structureMajor)
    (h : c ∈ if found then some (.ofTargets kind scope targets reasoning) else none) :
    c.requiresRegeneration = false := by
  obtain ⟨-, eq⟩ := Option.mem_ite_none_right.mp h
  obtain rfl := Option.some.inj eq
  rw [EditClassification.requiresRegeneration_ofTargets, beq_eq_false_iff_ne]
  exact minor

/-- Only the first rule asks for a different site. -/
theorem requiresRegeneration_classify (text : EditWords) (config : SiteConfig) :
    (text.classify config).requiresRegeneration = text.regeneratePhrase?.isSome := by
  cases first : text.regeneratePhrase? with
  | some phrase =>
    rw [classify, regenerateRule, first]
    rfl
  | none =>
    refine classify_of_rules text config (fun c mem ↦ ?_)
      (fun _ ↦ requiresRegeneration_of_mem_ite (by decide))
      (fun _ ↦ requiresRegeneration_of_mem_ite (by decide))
      (fun _ ↦ requiresRegeneration_of_mem_ite (by decide))
      (fun _ ↦ requiresRegeneration_of_mem_ite (by decide))
      (fun _ ↦ requiresRegeneration_of_mem_ite (by decide))
      (fun _ ↦ requiresRegeneration_of_mem_ite (by decide)) ?_
    · rw [regenerateRule, first] at mem
      cases mem
    · rw [contentRule]
      split <;> rfl

end EditWords

/-- **Verdicts can be acted on.** An edit by words asks for a different site, which it does exactly
if a phrase says so, or its targets address the configuration. -/
theorem EditClassification.ofKeywords_isActionable (s : String) (config : SiteConfig) :
    (ofKeywords s config).IsActionable config ∧
      ((ofKeywords s config).requiresRegeneration = true ↔
        ∃ phrase ∈ Keywords.regenerate, (EditWords.ofText s).hasPhrase phrase = true) := by
  refine ⟨EditWords.isActionable_classify _ config, ?_⟩
  rw [ofKeywords, EditWords.requiresRegeneration_classify, EditWords.regeneratePhrase?,
    List.find?_isSome]

end Sitewright
