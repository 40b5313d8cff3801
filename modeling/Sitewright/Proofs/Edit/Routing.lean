import Sitewright.Proofs.Edit.Outcomes
import Sitewright.Proofs.Edit.Targets

/-!
# Where routed edits lead

An edit that is classified by its words and clipped to its targets always gives an outcome, provided
that whoever makes it answers with a configuration that can be read. What the outcome reports is the
difference between the two configurations. That difference lies within the targets, however far the
answer strayed, if the configuration was read (`Router.run_keywords`).

The three ways of an edit have three reasons. An edit that asks for a different site changes
nothing. One that sets the logo changes one place, and that place is among its targets. And one that
somebody else makes is clipped, which works because no target of a rule lies inside an entry
(`EditWords.wellAimed_classify`).

That the configuration was read is needed on the last way, and only there. Clipping reads its result
again, so an entry that is held as something else than what its written form stands for comes back
as another one, whatever the targets are (`Router.run_keywords_strays`).
-/

namespace Sitewright

open Codec SiteConfig

/-! ### Setting the logo -/

namespace Business

/-- What the written form of a business has under its keys. -/
def entries (business : Business) : List (String × Json) :=
  [("name", text.encode business.name), ("tagline", text.encode business.tagline),
    ("description", text.encode business.description),
    ("email", (nullable text).encode business.email),
    ("phone", (nullable text).encode business.phone),
    ("address", (nullable text).encode business.address),
    ("hours", (nullable text).encode business.hours),
    ("logoUrl", (nullable text).encode business.logoUrl)]

theorem step?_encode (business : Business) (key : String) :
    (codec.encode business).step? key = Entries.find? key business.entries :=
  (find?_sort_toEntries ⟨fun _ ↦ rfl, by decide⟩ business key).trans (find?_sortedValues ..).symm

end Business

namespace SiteConfig

/-- A logo changes nothing but the place of the logo. -/
theorem agreeOutside_withLogo (config : SiteConfig) (url : String) {targets : List FieldPath}
    (h : .field "business.logoUrl" ∈ targets) :
    config.toJson.AgreeOutside targets (config.withLogo url).toJson := by
  intro q hq
  have off : ¬ ["business", "logoUrl"] <+: q := fun pre ↦ hq ⟨_, h, pre⟩
  cases q with
  | nil => rw [Json.headAt_nil, Json.headAt_nil, head_toJson, head_toJson]
  | cons key rest =>
    rw [Json.headAt_cons, Json.headAt_cons, step?_toJson, step?_toJson]
    by_cases eq : "business" = key
    · subst eq
      show (Business.codec.encode config.business).headAt rest =
        (Business.codec.encode { config.business with logoUrl := some url }).headAt rest
      cases rest with
      | nil => exact congrArg some (head_encode_record config.business)
      | cons field below =>
        rw [Json.headAt_cons, Json.headAt_cons, Business.step?_encode, Business.step?_encode]
        have ne : "logoUrl" ≠ field := by
          rintro rfl
          exact off ⟨below, rfl⟩
        simp [Business.entries, Entries.find?, ne]
    · simp [entries, withLogo, Entries.find?, eq]

theorem isWithin_withLogo (config : SiteConfig) (url : String) {targets : List FieldPath}
    (h : .field "business.logoUrl" ∈ targets) :
    (config.diff (config.withLogo url)).isWithin targets = true :=
  isWithin_diff_iff.mpr (config.agreeOutside_withLogo url h)

end SiteConfig

/-! ### The three ways -/

namespace EditOutcome.Accounts

variable {outcome : EditOutcome} {router : Router} {config : SiteConfig} {s : String}
  {uploads : List Upload} {c : EditClassification} {run : EditRun}

/-- An edit that sets the logo sets a target. -/
theorem isWithin_of_logo (h : outcome.Accounts router config s uploads c run) (aimed : c.WellAimed)
    (way : outcome.way = .logo) : outcome.diff.isWithin c.targets = true := by
  have made := h.made
  rw [way] at made
  obtain ⟨-, url, -, eq⟩ := made
  rw [h.diff, eq]
  exact config.isWithin_withLogo url (aimed.logo (h.logo.mp way).2.1)

/-- An edit that somebody else makes strays exactly if reading the configuration again does. -/
theorem isWithin_iff_of_mutation (h : outcome.Accounts router config s uploads c run)
    (clip : router.settings.scopePolicy = .clip) (aimed : c.WellAimed) {new : SiteConfig}
    (answer : router.mutator config s c = .ok new) (read : codec.IsRead new)
    (way : outcome.way = .mutation) :
    outcome.diff.isWithin c.targets = true ↔
      (config.diff config.reread).isWithin c.targets = true := by
  have made := h.made
  rw [way] at made
  obtain ⟨mutated, same, -, keeps⟩ := made
  cases answer.symm.trans same
  rw [clip] at keeps
  obtain ⟨r, hclip, eq⟩ := keeps
  obtain ⟨r', hclip', within⟩ := config.isWithin_clipTo_iff_reread read aimed.whole
  cases hclip.symm.trans hclip'
  rw [h.diff, eq]
  exact within

end EditOutcome.Accounts

/-! ### Whole runs -/

namespace Router

/-- **Where edits by keywords lead.** Whatever the text, the uploads and the answer of whoever makes
the edit are, there is an outcome, and it bears the classification of the text. An edit that asks
for a different site leaves the configuration as it is, and every other one reports the difference
it makes. An edit that sets the logo stays within its targets. One that somebody else makes does so
exactly if reading the configuration again would, and so does every edit of a configuration that was
read. -/
theorem run_keywords (config : SiteConfig) {s : String} (hs : Text.isBlank s = false)
    {mutator : Mutator}
    (hmutator : ∀ c, ∃ new, mutator config s c = .ok new ∧ codec.IsRead new)
    (fastLogo : Bool) (uploads : List Upload) :
    ∃ outcome, (Router.run ⟨⟨.clip, fastLogo⟩, .keywords, mutator⟩ config s uploads).result =
        .ok outcome ∧
      outcome.classification = (EditClassification.ofKeywords s config).normalized ∧
      (outcome.way = .regenerate → outcome.config = config) ∧
      (outcome.way ≠ .regenerate → outcome.diff = config.diff outcome.config) ∧
      (outcome.way = .logo → outcome.diff.isWithin outcome.classification.targets = true) ∧
      (outcome.way = .mutation → ∃ back, ofJson config.toJson = .ok back ∧
        (outcome.diff.isWithin outcome.classification.targets = true ↔
          (config.diff back).isWithin outcome.classification.targets = true)) ∧
      (outcome.way ≠ .regenerate → codec.IsRead config →
        outcome.diff.isWithin outcome.classification.targets = true) := by
  -- What the rules aim at decides both remaining ways: the logo, and what can be clipped.
  have aimed : (EditClassification.ofKeywords s config).normalized.WellAimed :=
    (EditWords.wellAimed_classify (.ofText s) config).normalized
  obtain ⟨new, answer, read⟩ := hmutator (EditClassification.ofKeywords s config).normalized
  rw [run_of_classifier hs rfl]
  rcases apply_accounts ⟨⟨.clip, fastLogo⟩, .keywords, mutator⟩ config s uploads
    (EditClassification.ofKeywords s config).normalized with
    ⟨outcome, result, accounts⟩ | ⟨e, failed, -⟩
  · have regenerated (way : outcome.way = .regenerate) : outcome.config = config := by
      have made := accounts.made
      rw [way] at made
      exact made.1
    have logo := accounts.isWithin_of_logo aimed
    have mutation := accounts.isWithin_iff_of_mutation rfl aimed answer read
    refine ⟨outcome, result, accounts.classification, regenerated, fun _ ↦ accounts.diff, ?_⟩
    rw [accounts.classification]
    refine ⟨logo, fun way ↦ ⟨_, ofJson_toJson config, mutation way⟩, fun ne hconfig ↦ ?_⟩
    cases way : outcome.way with
    | regenerate => exact absurd way ne
    | logo => exact logo way
    | mutation =>
      rw [mutation way, reread_of_isRead hconfig, diff_self]
      rfl
  · cases answer.symm.trans failed

/-- Somebody who answers every request with an announcement, which no word of the text asks for. -/
theorem run_keywords_answering : Text.isBlank "Make the Questions shorter" = false ∧
    (∀ c : EditClassification, ∃ new, (fun _ _ _ ↦ .ok announcing : Mutator) answering
      "Make the Questions shorter" c = .ok new ∧ codec.IsRead new) ∧
    codec.IsRead answering ∧
    ∃ outcome, (Router.run ⟨⟨.clip, true⟩, .keywords, fun _ _ _ ↦ .ok announcing⟩ answering
        "Make the Questions shorter" []).result = .ok outcome ∧
      outcome.classification =
        (EditClassification.ofKeywords "Make the Questions shorter" answering).normalized ∧
      outcome.way = .mutation ∧ outcome.diff = answering.diff outcome.config ∧
      outcome.diff.isWithin outcome.classification.targets = true := by
  have blank : Text.isBlank "Make the Questions shorter" = false := by decide
  have answers (c : EditClassification) : ∃ new, (fun _ _ _ ↦ .ok announcing : Mutator) answering
      "Make the Questions shorter" c = .ok new ∧ codec.IsRead new :=
    ⟨announcing, rfl, isRead_announcing⟩
  have way : ((Router.run ⟨⟨.clip, true⟩, .keywords, fun _ _ _ ↦ .ok announcing⟩ answering
      "Make the Questions shorter" []).result.toOption.map (·.way)) = some .mutation := by
    decide +kernel
  obtain ⟨outcome, result, hc, -, diff, -, -, within⟩ :=
    @run_keywords answering _ blank (fun _ _ _ ↦ .ok announcing) answers true []
  rw [result] at way
  have mutation : outcome.way = .mutation := Option.some.inj way
  have ne : outcome.way ≠ .regenerate := by simp [mutation]
  exact ⟨blank, answers, isRead_answering, outcome, result, hc, mutation, diff ne,
    within ne isRead_answering⟩

/-- The answering site with its questions held as an entry that is no section, although what is
written of it is one. -/
def withholding : SiteConfig :=
  bare [.unsupported ⟨"faq",
    .obj [("items", .arr [.obj [("answer", .str "a"), ("question", .str "q")]]),
      ("title", .str "Questions"), ("type", .str "faq")], "held back"⟩] []

/-- Reading never gives such an entry. -/
theorem not_isRead_withholding : ¬ codec.IsRead withholding := by
  intro read
  have kept : withholding.reread.sections.map (·.isSupported) = [true] := by decide +kernel
  rw [reread_of_isRead read] at kept
  exact absurd kept (by decide)

/-- **An edit of a configuration that was not read can leave its targets.** The text names the
headline. Clipping takes back everything else that the answer changed, and reading the result turns
the entry that was held back into a section, which is written with its defaults. -/
theorem run_keywords_strays : Text.isBlank "Make the headline bolder" = false ∧
    codec.IsRead answering ∧ ¬ codec.IsRead withholding ∧
    ∃ outcome, (Router.run ⟨⟨.clip, true⟩, .keywords, fun _ _ _ ↦ .ok answering⟩ withholding
        "Make the headline bolder" []).result = .ok outcome ∧
      outcome.way = .mutation ∧
      outcome.diff.isWithin outcome.classification.targets = false := by
  have blank : Text.isBlank "Make the headline bolder" = false := by decide
  have strays : ((Router.run ⟨⟨.clip, true⟩, .keywords, fun _ _ _ ↦ .ok answering⟩ withholding
      "Make the headline bolder" []).result.toOption.map fun outcome ↦
        (outcome.way, outcome.diff.isWithin outcome.classification.targets)) =
      some (.mutation, false) := by
    decide +kernel
  obtain ⟨outcome, result, eq⟩ := exists_of_map_toOption strays
  exact ⟨blank, isRead_answering, not_isRead_withholding, outcome, result, congrArg Prod.fst eq,
    congrArg Prod.snd eq⟩

end Router

end Sitewright
