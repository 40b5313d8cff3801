import Sitewright.Edit.Router
import Sitewright.Proofs.Diff.Replay
import Sitewright.Proofs.Edit.Scope

/-!
# What an edit says about itself

An edit leaves three traces: what could be seen while it was made, who was asked, and the outcome.
They tell one story. The way that the outcome names is the one that the classification asks for, it
is the way that was announced, and whoever makes edits was asked exactly if it is theirs
(`EditOutcome.Accounts`). This is so whatever the classification says, even one that contradicts
itself, and whatever comes back from those who were asked (`Router.run_accounts`).

There are three ways for an edit to fail: its text is blank, there is no classification, or whoever
should have made it did not. Taking back what they did too much is not among them
(`SiteConfig.exists_built`).
-/

namespace Sitewright

/-- A configuration does not differ from itself. -/
theorem SiteConfig.diff_self (config : SiteConfig) : config.diff config = ⟨[]⟩ :=
  congrArg Diff.mk ((changes_eq_nil_iff config.isSorted_toJson config.isSorted_toJson).mpr
    (Json.same_refl _))

/-- What can be seen of a classified edit that takes a way to its end. -/
def EditWay.events (way : EditWay) (c : EditClassification) : List EditEvent :=
  [.classifying, .classified c, .applying way] ++
    (if way = .regenerate then [] else [.verifying]) ++ [.done (way == .regenerate)]

/-- What a policy keeps of an edit from one configuration to another. -/
def ScopePolicy.Keeps (policy : ScopePolicy) (config mutated : SiteConfig)
    (targets : List FieldPath) (next : SiteConfig) : Prop :=
  match policy with
  | observe => next = mutated
  | clip => ∃ r, config.clipTo mutated targets = .ok r ∧ next = r.config

/-- What an outcome of a classified edit has to do with how the edit was made. -/
structure EditOutcome.Accounts (outcome : EditOutcome) (router : Router) (config : SiteConfig)
    (s : String) (uploads : List Upload) (c : EditClassification) (run : EditRun) : Prop where
  classification : outcome.classification = c
  /-- The configuration is to be made anew if the classification asks for that. -/
  regenerate : outcome.way = .regenerate ↔ c.requiresRegeneration = true
  /-- The logo is set right away if that is all there is to do, and it is allowed and possible. -/
  logo : outcome.way = .logo ↔ c.requiresRegeneration = false ∧ c.category = .logoOnly ∧
    router.settings.allowLogoFastPath = true ∧ (Logo.url? s uploads).isSome = true
  /-- The way decides what becomes of the configuration and what is reported. -/
  made : match outcome.way with
    | .regenerate => outcome.config = config ∧ outcome.outOfScope = []
    | .logo => outcome.outOfScope = [] ∧ ∃ url, Logo.url? s uploads = some url ∧
        outcome.config = { config with business := { config.business with logoUrl := some url } }
    | .mutation => ∃ mutated, router.mutator config s c = .ok mutated ∧
        outcome.outOfScope = ((config.diff mutated).outside c.targets).map (·.path) ∧
        router.settings.scopePolicy.Keeps config mutated c.targets outcome.config
  diff : outcome.diff = config.diff outcome.config
  shouldRegenerate : outcome.shouldRegenerate = true ↔ outcome.way = .regenerate
  asked : run.asked = true
  /-- Somebody else makes the edit if that is the way, and is asked once. -/
  calls : run.mutatorCalls = if outcome.way = .mutation then [⟨s, c⟩] else []
  events : run.events = outcome.way.events c

namespace Router

variable {router : Router} {config : SiteConfig} {c : EditClassification} {s : String}
  {uploads : List Upload}

theorem logoUrl?_eq_some_iff {url : String} : router.logoUrl? c s uploads = some url ↔
    (c.category = .logoOnly ∧ router.settings.allowLogoFastPath = true) ∧
      Logo.url? s uploads = some url := by
  rw [logoUrl?, Option.ite_none_right_eq_some, Bool.and_eq_true, beq_iff_eq]

theorem isSome_logoUrl?_iff : (router.logoUrl? c s uploads).isSome = true ↔
    c.category = .logoOnly ∧ router.settings.allowLogoFastPath = true ∧
      (Logo.url? s uploads).isSome = true := by
  simp only [Option.isSome_iff_exists, logoUrl?_eq_some_iff, exists_and_left, and_assoc]

/-! ### The three ways -/

/-- Whatever somebody else has made of a configuration leads to an outcome. -/
theorem exists_verify (router : Router) (config mutated : SiteConfig) (c : EditClassification) :
    ∃ next, router.verify config mutated c =
        .ok ⟨next, false, c, config.diff next,
          ((config.diff mutated).outside c.targets).map (·.path), .mutation⟩ ∧
      router.settings.scopePolicy.Keeps config mutated c.targets next := by
  obtain ⟨built, -, -, hclip⟩ := config.exists_built mutated c.targets
  cases policy : router.settings.scopePolicy with
  | observe => exact ⟨mutated, by simp [verify, policy], rfl⟩
  | clip =>
    refine ⟨_, ?_, _, hclip, rfl⟩
    by_cases none : ((config.diff mutated).outside c.targets).isEmpty = true
    · simp [verify, none]
    · simp [verify, policy, none, hclip]

theorem accounts_of_regenerate (regenerate : c.requiresRegeneration = true) :
    ∃ outcome, (router.apply config s uploads c).result = .ok outcome ∧
      outcome.Accounts router config s uploads c (router.apply config s uploads c) := by
  have run : router.apply config s uploads c = ⟨EditWay.regenerate.events c, true, [],
      .ok ⟨config, true, c, ⟨[]⟩, [], .regenerate⟩⟩ := by
    rw [apply, if_pos regenerate]
    rfl
  rw [run]
  exact ⟨_, rfl, rfl, iff_of_true rfl regenerate, by simp [regenerate], ⟨rfl, rfl⟩,
    config.diff_self.symm, iff_of_true rfl rfl, rfl, rfl, rfl⟩

theorem accounts_of_logoUrl? (regenerate : c.requiresRegeneration = false) {url : String}
    (hurl : router.logoUrl? c s uploads = some url) :
    ∃ outcome, (router.apply config s uploads c).result = .ok outcome ∧
      outcome.Accounts router config s uploads c (router.apply config s uploads c) := by
  have run : router.apply config s uploads c = ⟨EditWay.logo.events c, true, [],
      .ok ⟨config.withLogo url, false, c, config.diff (config.withLogo url), [], .logo⟩⟩ := by
    simp only [apply, regenerate, hurl]
    rfl
  have logo := isSome_logoUrl?_iff.mp (Option.isSome_of_mem hurl)
  rw [run]
  exact ⟨_, rfl, rfl, by simp [regenerate], iff_of_true rfl ⟨regenerate, logo⟩,
    ⟨rfl, url, (logoUrl?_eq_some_iff.mp hurl).2, rfl⟩, rfl, by simp, rfl, rfl, rfl⟩

theorem accounts_of_mutator (regenerate : c.requiresRegeneration = false)
    (noUrl : router.logoUrl? c s uploads = none) {mutated : SiteConfig}
    (answer : router.mutator config s c = .ok mutated) :
    ∃ outcome, (router.apply config s uploads c).result = .ok outcome ∧
      outcome.Accounts router config s uploads c (router.apply config s uploads c) := by
  obtain ⟨next, hverify, hnext⟩ := router.exists_verify config mutated c
  have run : router.apply config s uploads c = ⟨EditWay.mutation.events c, true, [⟨s, c⟩],
      .ok ⟨next, false, c, config.diff next,
        ((config.diff mutated).outside c.targets).map (·.path), .mutation⟩⟩ := by
    simp only [apply, regenerate, noUrl, mutate, answer, hverify]
    rfl
  have logo : ¬ (router.logoUrl? c s uploads).isSome = true := by simp [noUrl]
  rw [isSome_logoUrl?_iff] at logo
  rw [run]
  refine ⟨_, rfl, rfl, by simp [regenerate], iff_of_false nofun fun h ↦ logo h.2, ?_, rfl, by simp,
    rfl, rfl, rfl⟩
  dsimp only
  exact ⟨mutated, answer, rfl, hnext⟩

/-! ### Whole runs -/

/-- A text that is not blank is classified, and the edit is made as it is classified. -/
theorem run_of_classifier (hs : Text.isBlank s = false) (h : router.classifier s config = .ok c)
    (uploads : List Upload) :
    router.run config s uploads = router.apply config s uploads c.normalized := by
  simp [run, hs, h]

/-- A classified edit leads to an outcome that accounts for it, unless whoever should make it
fails. -/
theorem apply_accounts (router : Router) (config : SiteConfig) (s : String) (uploads : List Upload)
    (c : EditClassification) :
    (∃ outcome, (router.apply config s uploads c).result = .ok outcome ∧
      outcome.Accounts router config s uploads c (router.apply config s uploads c)) ∨
    ∃ e, router.mutator config s c = .error e ∧ c.requiresRegeneration = false ∧
      router.logoUrl? c s uploads = none ∧ router.apply config s uploads c =
        ⟨[.classifying, .classified c, .applying .mutation], true, [⟨s, c⟩],
          .error (.collaborator e)⟩ := by
  by_cases regenerate : c.requiresRegeneration = true
  · exact .inl (accounts_of_regenerate regenerate)
  rw [Bool.not_eq_true] at regenerate
  cases url : router.logoUrl? c s uploads with
  | some _ => exact .inl (accounts_of_logoUrl? regenerate url)
  | none =>
    cases answer : router.mutator config s c with
    | ok _ => exact .inl (accounts_of_mutator regenerate url answer)
    | error e =>
      exact .inr ⟨e, rfl, regenerate, rfl, by simp [apply, regenerate, url, mutate, answer]⟩

/-- **The traces of an edit tell one story.** An edit whose text is blank is refused before anybody
is asked, and one that nobody can classify fails before it takes a way. Every other edit leads to an
outcome that accounts for the run with the classification made consistent, unless the edit is for
somebody else to make who fails: then no more is seen than that it took this way. -/
theorem run_accounts (router : Router) (config : SiteConfig) (s : String) (uploads : List Upload) :
    (Text.isBlank s = true →
      router.run config s uploads = ⟨[], false, [], .error .emptyEdit⟩) ∧
    (Text.isBlank s = false → ∀ e, router.classifier s config = .error e →
      router.run config s uploads = ⟨[.classifying], true, [], .error (.collaborator e)⟩) ∧
    (Text.isBlank s = false → ∀ verdict, router.classifier s config = .ok verdict →
      (∃ outcome, (router.run config s uploads).result = .ok outcome ∧
        outcome.Accounts router config s uploads verdict.normalized
          (router.run config s uploads)) ∨
      ∃ e, router.mutator config s verdict.normalized = .error e ∧
        verdict.normalized.requiresRegeneration = false ∧
        router.logoUrl? verdict.normalized s uploads = none ∧
        router.run config s uploads =
          ⟨[.classifying, .classified verdict.normalized, .applying .mutation], true,
            [⟨s, verdict.normalized⟩], .error (.collaborator e)⟩ ∧
        (router.run config s uploads).events <+: EditWay.mutation.events verdict.normalized) := by
  refine ⟨fun blank ↦ by rw [run, if_pos blank], fun blank e failed ↦ ?_,
    fun blank verdict classified ↦ ?_⟩
  · simp [run, blank, failed]
  · rw [run_of_classifier blank classified]
    refine (router.apply_accounts config s uploads verdict.normalized).imp id ?_
    rintro ⟨e, failed, regenerate, noUrl, run⟩
    exact ⟨e, failed, regenerate, noUrl, run, by rw [run]; exact ⟨[.verifying, .done false], rfl⟩⟩

/-- An edit that is classified by its words, made by somebody who answers with an announcement. -/
theorem run_accounts_announcing : Text.isBlank "Make the Questions shorter" = false ∧
    ∃ verdict, Classifier.keywords "Make the Questions shorter" .answering = .ok verdict ∧
      ∃ outcome, (Router.run ⟨.default, .keywords, fun _ _ _ ↦ .ok .announcing⟩ .answering
          "Make the Questions shorter" []).result = .ok outcome ∧
        outcome.Accounts ⟨.default, .keywords, fun _ _ _ ↦ .ok .announcing⟩ .answering
          "Make the Questions shorter" [] verdict.normalized
          (Router.run ⟨.default, .keywords, fun _ _ _ ↦ .ok .announcing⟩ .answering
            "Make the Questions shorter" []) := by
  have blank : Text.isBlank "Make the Questions shorter" = false := by decide
  obtain ⟨-, -, traces⟩ := run_accounts ⟨.default, .keywords, fun _ _ _ ↦ .ok .announcing⟩
    .answering "Make the Questions shorter" []
  rcases traces blank _ rfl with accounted | ⟨e, failed, -⟩
  · exact ⟨blank, _, rfl, accounted⟩
  · cases failed

end Router

end Sitewright
