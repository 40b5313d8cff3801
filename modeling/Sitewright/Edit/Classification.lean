import Sitewright.Codec.Record
import Sitewright.FieldPath

/-!
# Classified edits

What is known of an edit before it is made: the kind of change it asks for, how much of the
configuration it concerns, and the places it may change, its targets. An edit that concerns no place
in particular, or the structure as a whole, asks for a different site; such an edit is not made but
leads to a new configuration.
-/

namespace Sitewright

open Codec

/-! ### Kinds of edits -/

/-- The kind of change that an edit asks for. -/
inductive EditCategory where
  | logoOnly | styling | content | structureMinor | structureMajor | images | contactInfo
  | navigation
  deriving DecidableEq

namespace EditCategory

/-- Every kind. -/
def all : List EditCategory :=
  [logoOnly, styling, content, structureMinor, structureMajor, images, contactInfo, navigation]

/-- The tag of a kind. -/
def tag : EditCategory → String
  | logoOnly => "logo-only"
  | styling => "styling"
  | content => "content"
  | structureMinor => "structure-minor"
  | structureMajor => "structure-major"
  | images => "images"
  | contactInfo => "contact-info"
  | navigation => "navigation"

/-- Kinds are written by their tags. -/
def codec : Codec EditCategory :=
  choice "EditCategory" (tagsDefinition "Kind of change an edit asks for" (all.map tag)) all tag

end EditCategory

/-- How much of a configuration an edit concerns. -/
inductive EditScope where
  | narrow | moderate | wide
  deriving DecidableEq

namespace EditScope

/-- Every scope, the default first. -/
def all : List EditScope := [narrow, moderate, wide]

/-- The tag of a scope. -/
def tag : EditScope → String
  | narrow => "narrow"
  | moderate => "moderate"
  | wide => "wide"

/-- Scopes are written by their tags. -/
def codec : Codec EditScope :=
  choice "EditScope" (tagsDefinition "How much of the config an edit may touch" (all.map tag)) all
    tag

end EditScope

/-! ### Classifications -/

/-- Paths are written in dotted form. -/
def FieldPath.codec : Codec FieldPath where
  schema := text.schema
  outline := .text
  read dialect d := do
    let s ← text.read dialect d
    match FieldPath.parse s with
    | .ok path => return path
    | .error e => throw (.custom e.message)
  write path := .str path.dotted

/-- What is known of an edit before it is made. -/
structure EditClassification where
  /-- The kind of change. -/
  category : EditCategory
  /-- How much of the configuration it concerns. -/
  scope : EditScope
  /-- The places it may change. -/
  targets : List FieldPath
  /-- Whether it asks for a different site. -/
  shouldRegenerate : Bool
  /-- Why it is classified so. -/
  reasoning : String
  deriving DecidableEq

namespace EditClassification

/-- The classification of an edit of a kind. One that changes the structure as a whole asks for a
different site. -/
def ofTargets (category : EditCategory) (scope : EditScope) (targets : List FieldPath)
    (reasoning : String) : EditClassification :=
  ⟨category, scope, targets, category == .structureMajor, reasoning⟩

/-- The classification of an edit that asks for a different site. -/
def regenerate (reasoning : String) : EditClassification :=
  ofTargets .structureMajor .wide [] reasoning

/-- A classification from elsewhere made consistent: without targets, or with a change of the
structure as a whole, it asks for a different site. -/
def normalized (c : EditClassification) : EditClassification :=
  if c.category == .structureMajor || c.targets.isEmpty then { c with shouldRegenerate := true }
  else c

/-- Whether an edit leads to a new configuration. -/
def requiresRegeneration (c : EditClassification) : Bool :=
  c.shouldRegenerate || c.category == .structureMajor

/-- A consistent classification asks for a different site exactly if it says so, changes the
structure as a whole, or has no target. -/
theorem requiresRegeneration_normalized (c : EditClassification) :
    c.normalized.requiresRegeneration =
      (c.shouldRegenerate || c.category == .structureMajor || c.targets.isEmpty) := by
  unfold normalized requiresRegeneration
  split
  · rename_i h
    rw [Bool.or_assoc, h]
    simp
  · simp_all

@[simp] theorem normalized_normalized (c : EditClassification) :
    c.normalized.normalized = c.normalized := by
  unfold normalized
  split <;> simp_all

/-- The fields of a classification. -/
def fields : Fields EditClassification EditClassification :=
  EditClassification.mk <$> field "type" "" (·.category) EditCategory.codec
    <*> fieldOr "scope" "" (·.scope) EditScope.codec .narrow
    <*> listField "targetFields" (·.targets) FieldPath.codec
    <*> fieldOr "shouldRegenerate" "" (·.shouldRegenerate) truth false
    <*> textFieldOrEmpty "reasoning" (·.reasoning)

/-- The written form of a classification. No reason is written where there is none. -/
def codec : Codec EditClassification :=
  { record "EditClassification" "Classifier verdict for one edit" fields with
    write := fun c =>
      let entries := fields.toEntries c
      .obj (if c.reasoning.isEmpty then entries.filter (·.1 != "reasoning") else entries) }

/-- A classification as exchanged data. -/
def toJson (c : EditClassification) : Json := codec.encode c

end EditClassification

/-! ### Uploads -/

/-- A file that comes with an edit. -/
structure Upload where
  /-- What the file is called. -/
  name : String
  /-- Where it is. -/
  url : String
  /-- The media type, if it is known. -/
  contentType : Option String
  deriving DecidableEq

namespace Upload

/-- The written form of `Upload`. -/
def codec : Codec Upload :=
  record "UploadedAsset" "A file attached to an edit or a generation request" <|
    Upload.mk <$> textField "name" (·.name)
      <*> textField "url" (·.url)
      <*> optionalText "contentType" (·.contentType)

/-- The endings of picture files. -/
def imageEndings : List String := [".png", ".jpg", ".jpeg", ".gif", ".webp", ".svg", ".avif"]

/-- Whether a file is a picture, by its media type or else by the ending of its name. -/
def isImage (upload : Upload) : Bool :=
  match upload.contentType with
  | some type => "image/".toList.isPrefixOf type.toList
  | none =>
    let name := upload.name.toList.map Char.toLower
    imageEndings.any fun ending => ending.toList.isSuffixOf name

end Upload

end Sitewright
