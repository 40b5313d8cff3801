import Sitewright.Edit.Keywords
import Sitewright.Edit.Logo
import Sitewright.Edit.Scope

/-!
# Making edits

How an edit of a configuration is made, once somebody has classified it. There are three ways. An
edit that asks for a different site leaves the configuration as it is and says so. One that only
sets the logo, and brings its address, is made right away. Every other edit is made by somebody
else, and what comes back is compared with what it was made from: changes outside the targets of the
edit are taken back, or only reported, as the policy has it.

Whoever classifies and makes edits is given as a function that may fail. Everything that can be seen
from outside, the events in their order and the calls, is part of the result, so that statements
about an edit that failed half-way are statements about a value.
-/

namespace Sitewright

open Codec

/-! ### Collaborators -/

/-- Why somebody else did not do what was asked. -/
inductive CollaboratorError where
  /-- Nobody is there. -/
  | unavailable (s : String)
  /-- What came back cannot be used. -/
  | invalidOutput (s : String)
  /-- The request is refused. -/
  | rejected (s : String)
  /-- Nothing came back in time. -/
  | timeout (seconds : Nat)
  deriving DecidableEq

namespace CollaboratorError

/-- The wording of an error. -/
def message : CollaboratorError → String
  | unavailable s => "collaborator unavailable: " ++ s
  | invalidOutput s => "invalid collaborator output: " ++ s
  | rejected s => "request rejected: " ++ s
  | timeout seconds => "collaborator timed out after " ++ toString seconds ++ "s"

/-- Whether the same request may succeed later. -/
def isRetryable : CollaboratorError → Bool
  | unavailable _ | timeout _ => true
  | invalidOutput _ | rejected _ => false

end CollaboratorError

/-- Classifies an edit of a configuration. -/
abbrev Classifier := String → SiteConfig → Except CollaboratorError EditClassification

/-- Makes a classified edit of a configuration. -/
abbrev Mutator := SiteConfig → String → EditClassification → Except CollaboratorError SiteConfig

/-- Classifies by keywords and never fails. -/
def Classifier.keywords : Classifier := fun s config => .ok (.ofKeywords s config)

/-! ### Settings -/

/-- What is done with changes outside the targets of an edit. -/
inductive ScopePolicy where
  /-- They are taken back. -/
  | clip
  /-- They are kept. -/
  | observe
  deriving DecidableEq

namespace ScopePolicy

/-- Every policy, the default first. -/
def all : List ScopePolicy := [clip, observe]

/-- The tag of a policy. -/
def tag : ScopePolicy → String
  | clip => "clip"
  | observe => "observe"

/-- Policies are written by their tags. -/
def codec : Codec ScopePolicy :=
  choice "ScopePolicy" (tagsDefinition "What to do with out-of-scope mutations" (all.map tag)) all
    tag

end ScopePolicy

/-- How edits are made. -/
structure RouterSettings where
  /-- What is done with changes outside the targets of an edit. -/
  scopePolicy : ScopePolicy
  /-- Whether a logo can be set right away. -/
  allowLogoFastPath : Bool
  deriving DecidableEq

namespace RouterSettings

/-- The settings that are used if no others are named. -/
def default : RouterSettings := ⟨.clip, true⟩

/-- The written form of `RouterSettings`. -/
def codec : Codec RouterSettings :=
  record "RouterConfig" "Router configuration" <|
    RouterSettings.mk <$> fieldOr "scope_policy" "" (·.scopePolicy) ScopePolicy.codec .clip
      <*> fieldOr "allow_logo_fast_path" "" (·.allowLogoFastPath) truth true

end RouterSettings

/-! ### Outcomes -/

/-- The way an edit takes. -/
inductive EditWay where
  /-- The configuration is to be made anew. -/
  | regenerate
  /-- The logo is set right away. -/
  | logo
  /-- The edit is made by somebody else. -/
  | mutation
  deriving DecidableEq

/-- The tag of a way. -/
def EditWay.tag : EditWay → String
  | regenerate => "regenerate"
  | logo => "logo-fast-path"
  | mutation => "scoped-mutation"

/-- What can be seen of an edit while it is made. -/
inductive EditEvent where
  /-- Somebody is asked for a classification. -/
  | classifying
  /-- The edit is classified. -/
  | classified (classification : EditClassification)
  /-- The edit takes its way. -/
  | applying (way : EditWay)
  /-- The configurations before and after are compared. -/
  | verifying
  /-- The edit is made. -/
  | done (shouldRegenerate : Bool)
  deriving DecidableEq

/-- Why an edit was not made. -/
inductive EditError where
  /-- Somebody else failed. -/
  | collaborator (error : CollaboratorError)
  /-- Changes could not be taken back. -/
  | diff (error : ClipError)
  /-- The text of the edit is blank. -/
  | emptyEdit
  deriving DecidableEq

namespace EditError

/-- The wording of an error. -/
def message : EditError → String
  | collaborator error => "collaborator failed: " ++ error.message
  | diff error => "structural diff failed: " ++ error.message
  | emptyEdit => "edit text is empty"

/-- Whether the same edit may succeed later. -/
def isRetryable : EditError → Bool
  | collaborator error => error.isRetryable
  | diff _ | emptyEdit => false

end EditError

/-- What an edit leads to. -/
structure EditOutcome where
  /-- The configuration. -/
  config : SiteConfig
  /-- Whether it is to be made anew. -/
  shouldRegenerate : Bool
  /-- What was known of the edit. -/
  classification : EditClassification
  /-- The difference to the configuration before. -/
  diff : Diff
  /-- Where the edit went beyond its targets. -/
  outOfScope : List FieldPath
  /-- The way it took. -/
  way : EditWay

/-- A request to somebody who makes edits: the text, and what is known of it. -/
structure MutatorCall where
  /-- The text of the edit. -/
  text : String
  /-- What is known of the edit. -/
  classification : EditClassification
  deriving DecidableEq

/-- An edit as it was made, or failed. -/
structure EditRun where
  /-- What could be seen, in order. -/
  events : List EditEvent
  /-- Whether somebody was asked for a classification. -/
  asked : Bool
  /-- Who was asked to make the edit. -/
  mutatorCalls : List MutatorCall
  /-- What came of it. -/
  result : Except EditError EditOutcome

/-! ### Routing -/

/-- Who makes edits, and how. -/
structure Router where
  /-- How edits are made. -/
  settings : RouterSettings
  /-- Classifies them. -/
  classifier : Classifier
  /-- Makes those that are not made right away. -/
  mutator : Mutator

namespace Router

/-- The address of the logo that an edit sets right away. -/
def logoUrl? (router : Router) (classification : EditClassification) (text : String)
    (uploads : List Upload) : Option String :=
  if classification.category == .logoOnly && router.settings.allowLogoFastPath then
    Logo.url? text uploads
  else none

/-- What becomes of a configuration that somebody else has edited. -/
def verify (router : Router) (config mutated : SiteConfig) (classification : EditClassification) :
    Except EditError EditOutcome :=
  let raw := config.diff mutated
  let outOfScope := (raw.outside classification.targets).map (·.path)
  let outcome (config : SiteConfig) (diff : Diff) : EditOutcome :=
    ⟨config, false, classification, diff, outOfScope, .mutation⟩
  if router.settings.scopePolicy == .observe || outOfScope.isEmpty then .ok (outcome mutated raw)
  else
    match config.clipTo mutated classification.targets with
    | .ok clipped => .ok (outcome clipped.config (config.diff clipped.config))
    | .error e => .error (.diff e)

/-- An edit made by somebody else, after `events`. -/
def mutate (router : Router) (config : SiteConfig) (text : String)
    (classification : EditClassification) (events : List EditEvent) : EditRun :=
  let calls : List MutatorCall := [⟨text, classification⟩]
  let events := events ++ [.applying .mutation]
  match router.mutator config text classification with
  | .error e => ⟨events, true, calls, .error (.collaborator e)⟩
  | .ok mutated =>
    match router.verify config mutated classification with
    | .error e => ⟨events ++ [.verifying], true, calls, .error e⟩
    | .ok outcome => ⟨events ++ [.verifying, .done false], true, calls, .ok outcome⟩

/-- A classified edit. -/
def apply (router : Router) (config : SiteConfig) (text : String) (uploads : List Upload)
    (classification : EditClassification) : EditRun :=
  let events : List EditEvent := [.classifying, .classified classification]
  if classification.requiresRegeneration then
    ⟨events ++ [.applying .regenerate, .done true], true, [],
      .ok ⟨config, true, classification, ⟨[]⟩, [], .regenerate⟩⟩
  else
    match router.logoUrl? classification text uploads with
    | some url =>
      let next := config.withLogo url
      ⟨events ++ [.applying .logo, .verifying, .done false], true, [],
        .ok ⟨next, false, classification, config.diff next, [], .logo⟩⟩
    | none => router.mutate config text classification events

/-- An edit of a configuration. -/
def run (router : Router) (config : SiteConfig) (text : String) (uploads : List Upload) : EditRun :=
  if Text.isBlank text then ⟨[], false, [], .error .emptyEdit⟩
  else
    match router.classifier text config with
    | .error e => ⟨[.classifying], true, [], .error (.collaborator e)⟩
    | .ok verdict => router.apply config text uploads verdict.normalized

end Router

end Sitewright
