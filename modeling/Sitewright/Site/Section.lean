import Sitewright.Site.Section.Action
import Sitewright.Site.Section.Custom
import Sitewright.Site.Section.Offers
import Sitewright.Site.Section.People
import Sitewright.Site.Section.Story

/-!
# Sections

The sections a page is made of: a closed union of seventeen kinds. A section is written as the
record of its kind with the tag of the kind in an extra field `type`, and as a list with the tag in
front of the field values.

A page of a configuration holds *entries* rather than sections. An entry that does not stand for a
section of a known kind is kept with its raw value and the reason, so one bad entry never makes a
configuration unreadable, and what is written for the entry is what was read.
-/

namespace Sitewright

/-! ### Kinds -/

/-- The kinds of section. -/
inductive SectionKind where
  | featureGrid | menu | productGrid | testimonials | pricing | gallery | stats | ctaBanner | team
  | blogPreview | contact | faq | about | logoCloud | newsletter | process | custom
  deriving DecidableEq

namespace SectionKind

/-- Every kind. -/
def all : List SectionKind :=
  [featureGrid, menu, productGrid, testimonials, pricing, gallery, stats, ctaBanner, team,
    blogPreview, contact, faq, about, logoCloud, newsletter, process, custom]

/-- The tag of a kind. -/
def tag : SectionKind → String
  | featureGrid => "feature-grid"
  | menu => "menu"
  | productGrid => "product-grid"
  | testimonials => "testimonials"
  | pricing => "pricing"
  | gallery => "gallery"
  | stats => "stats"
  | ctaBanner => "cta-banner"
  | team => "team"
  | blogPreview => "blog-preview"
  | contact => "contact"
  | faq => "faq"
  | about => "about"
  | logoCloud => "logo-cloud"
  | newsletter => "newsletter"
  | process => "process"
  | custom => "custom"

/-- The kind with a tag. -/
def ofTag? (tag : String) : Option SectionKind := Codec.ofTag? all SectionKind.tag tag

theorem mem_all (kind : SectionKind) : kind ∈ all := by cases kind <;> decide

end SectionKind

/-! ### Sections -/

/-- A section of a page. -/
inductive Section where
  | featureGrid (s : FeatureGrid)
  | menu (s : Menu)
  | productGrid (s : ProductGrid)
  | testimonials (s : Testimonials)
  | pricing (s : Pricing)
  | gallery (s : Gallery)
  | stats (s : Stats)
  | ctaBanner (s : CtaBanner)
  | team (s : Team)
  | blogPreview (s : BlogPreview)
  | contact (s : Contact)
  | faq (s : Faq)
  | about (s : About)
  | logoCloud (s : LogoCloud)
  | newsletter (s : Newsletter)
  | process (s : Process)
  | custom (s : Custom)
  deriving DecidableEq

namespace Section

/-- The kind of a section. -/
def kind : Section → SectionKind
  | featureGrid _ => .featureGrid
  | menu _ => .menu
  | productGrid _ => .productGrid
  | testimonials _ => .testimonials
  | pricing _ => .pricing
  | gallery _ => .gallery
  | stats _ => .stats
  | ctaBanner _ => .ctaBanner
  | team _ => .team
  | blogPreview _ => .blogPreview
  | contact _ => .contact
  | faq _ => .faq
  | about _ => .about
  | logoCloud _ => .logoCloud
  | newsletter _ => .newsletter
  | process _ => .process
  | custom _ => .custom

/-- The tag of the layout of a section. -/
def layoutTag : Section → String
  | featureGrid s => s.layout.tag
  | menu s => s.layout.tag
  | productGrid s => s.layout.tag
  | testimonials s => s.layout.tag
  | pricing s => s.layout.tag
  | gallery s => s.layout.tag
  | stats s => s.layout.tag
  | ctaBanner s => s.layout.tag
  | team s => s.layout.tag
  | blogPreview s => s.layout.tag
  | contact s => s.layout.tag
  | faq s => s.layout.tag
  | about s => s.layout.tag
  | logoCloud s => s.layout.tag
  | newsletter s => s.layout.tag
  | process s => s.layout.tag
  | custom s => s.layout.tag

/-- The text that a visitor takes for the name of a section, if its kind has one. -/
def title? : Section → Option String
  | featureGrid s => some s.title
  | menu s => some s.title
  | productGrid s => some s.title
  | testimonials s => some s.title
  | pricing s => some s.title
  | gallery s => some s.title
  | stats s => s.title
  | ctaBanner s => some s.headline
  | team s => some s.title
  | blogPreview s => some s.title
  | contact s => some s.title
  | faq s => some s.title
  | about s => some s.title
  | logoCloud s => s.title
  | newsletter s => some s.title
  | process s => some s.title
  | custom s => some s.componentName

/-! ### Written form -/

/-- The entries of an object. -/
def entriesOf : Json → List (String × Json)
  | .obj entries => entries
  | _ => []

/-- The record of a section, without its tag. -/
def payload : Section → Json
  | featureGrid s => FeatureGrid.codec.write s
  | menu s => Menu.codec.write s
  | productGrid s => ProductGrid.codec.write s
  | testimonials s => Testimonials.codec.write s
  | pricing s => Pricing.codec.write s
  | gallery s => Gallery.codec.write s
  | stats s => Stats.codec.write s
  | ctaBanner s => CtaBanner.codec.write s
  | team s => Team.codec.write s
  | blogPreview s => BlogPreview.codec.write s
  | contact s => Contact.codec.write s
  | faq s => Faq.codec.write s
  | about s => About.codec.write s
  | logoCloud s => LogoCloud.codec.write s
  | newsletter s => Newsletter.codec.write s
  | process s => Process.codec.write s
  | custom s => Custom.codec.write s

/-- The written form of a section: its tag, then its record. -/
def write (s : Section) : Json :=
  .obj (("type", .str s.kind.tag) :: entriesOf s.payload)

/-- Reads the record of a section of a kind. -/
def readPayload (d : Document) : SectionKind → Except ReadError Section
  | .featureGrid => (FeatureGrid.codec.read .tagged d).map featureGrid
  | .menu => (Menu.codec.read .tagged d).map menu
  | .productGrid => (ProductGrid.codec.read .tagged d).map productGrid
  | .testimonials => (Testimonials.codec.read .tagged d).map testimonials
  | .pricing => (Pricing.codec.read .tagged d).map pricing
  | .gallery => (Gallery.codec.read .tagged d).map gallery
  | .stats => (Stats.codec.read .tagged d).map stats
  | .ctaBanner => (CtaBanner.codec.read .tagged d).map ctaBanner
  | .team => (Team.codec.read .tagged d).map team
  | .blogPreview => (BlogPreview.codec.read .tagged d).map blogPreview
  | .contact => (Contact.codec.read .tagged d).map contact
  | .faq => (Faq.codec.read .tagged d).map faq
  | .about => (About.codec.read .tagged d).map about
  | .logoCloud => (LogoCloud.codec.read .tagged d).map logoCloud
  | .newsletter => (Newsletter.codec.read .tagged d).map newsletter
  | .process => (Process.codec.read .tagged d).map process
  | .custom => (Custom.codec.read .tagged d).map custom

/-- The kind that a tag names. -/
def readKind : Json → Except ReadError SectionKind
  | .str tag => Codec.checkTag SectionKind.all SectionKind.tag tag
  | v => .error (.invalidType (Found.ofJson v) "variant identifier")

/-- Reads a section from its written form. -/
def ofJson : Json → Except ReadError Section
  | .obj entries =>
    match Entries.find? "type" entries with
    | none => .error (.missingField "type")
    | some tag => do
      let kind ← readKind tag
      readPayload (.ofJson (.obj (Entries.erase "type" entries))) kind
  | .arr [] => .error (.missingField "type")
  | .arr (tag :: items) => do
    let kind ← readKind tag
    readPayload (.ofJson (.arr items)) kind
  | v => .error (.invalidType (Found.ofJson v) "internally tagged enum Section")

/-! ### Schema -/

/-- The schema of the record of a kind, and the definitions it mentions. -/
def payloadSchema : SectionKind → Schema
  | .featureGrid => FeatureGrid.codec.schema
  | .menu => Menu.codec.schema
  | .productGrid => ProductGrid.codec.schema
  | .testimonials => Testimonials.codec.schema
  | .pricing => Pricing.codec.schema
  | .gallery => Gallery.codec.schema
  | .stats => Stats.codec.schema
  | .ctaBanner => CtaBanner.codec.schema
  | .team => Team.codec.schema
  | .blogPreview => BlogPreview.codec.schema
  | .contact => Contact.codec.schema
  | .faq => Faq.codec.schema
  | .about => About.codec.schema
  | .logoCloud => LogoCloud.codec.schema
  | .newsletter => Newsletter.codec.schema
  | .process => Process.codec.schema
  | .custom => Custom.codec.schema

/-- The schema of a record with the tag as a further required field. -/
def taggedSchema (tag : String) (record : Json) : Json :=
  let entries := entriesOf record
  let tagSchema : Json := .obj [("enum", Json.ofTexts [tag]), ("type", .str "string")]
  let properties :=
    ("type", tagSchema) :: entriesOf ((Entries.find? "properties" entries).getD .null)
  let required :=
    match Entries.find? "required" entries with
    | some (.arr names) => names ++ [.str "type"]
    | _ => [.str "type"]
  .obj (Entries.insert "required" (.arr required)
    (Entries.insert "properties" (.obj properties) (Entries.sort entries)))

/-- The schema of the record of a kind with its tag. -/
def kindSchema (kind : SectionKind) : Json :=
  match (payloadSchema kind).definitions with
  | (_, record) :: _ => taggedSchema kind.tag record
  | [] => .null

/-- The schema of all sections. -/
def schema : Schema where
  shape := .named "ConfigSection"
  definitions :=
    ("ConfigSection", .obj [("description", .str "Closed union of supported section kinds"),
      ("oneOf", .arr (SectionKind.all.map kindSchema))]) ::
      SectionKind.all.flatMap fun kind => (payloadSchema kind).definitions.drop 1

end Section

/-! ### Entries -/

/-- An entry that stands for no section. -/
structure UnsupportedSection where
  /-- The text of its field `type`, empty if it has none. -/
  typeTag : String
  /-- What was read. -/
  raw : Json
  /-- Why it stands for no section. -/
  reason : String

/-- An entry of a page. -/
inductive SectionEntry where
  /-- A section. -/
  | supported (s : Section)
  /-- Something else, kept as it is. -/
  | unsupported (u : UnsupportedSection)

namespace SectionEntry

/-- The tag that a value carries, empty if it carries none. -/
def tagOf (raw : Json) : String := ((raw.get? "type").bind Json.text?).getD ""

/-- Why a value stands for no section. -/
def reasonFor (tag : String) (error : ReadError) : String :=
  match SectionKind.ofTag? tag with
  | some _ => "malformed '" ++ tag ++ "' section: " ++ error.message
  | none => "unknown section type '" ++ tag ++ "'"

/-- The entry that a value stands for. -/
def ofJson (raw : Json) : SectionEntry :=
  match Section.ofJson raw with
  | .ok s => supported s
  | .error e => unsupported ⟨tagOf raw, raw, reasonFor (tagOf raw) e⟩

/-- The tag of an entry, whether it stands for a section or not. -/
def typeTag : SectionEntry → String
  | supported s => s.kind.tag
  | unsupported u => u.typeTag

/-- The section that an entry stands for. -/
def section? : SectionEntry → Option Section
  | supported s => some s
  | unsupported _ => none

/-- Whether an entry stands for a section. -/
def isSupported (entry : SectionEntry) : Bool := entry.section?.isSome

/-- Equality of entries. -/
def same : SectionEntry → SectionEntry → Bool
  | supported a, supported b => a == b
  | unsupported a, unsupported b =>
    a.typeTag == b.typeTag && a.raw.same b.raw && a.reason == b.reason
  | _, _ => false

instance : BEq SectionEntry := ⟨same⟩

/-- Entries are written as the section they stand for, or as what was read. Any value is one. -/
def codec : Codec SectionEntry where
  schema := Section.schema
  outline := .value
  read _ d :=
    match d.toJson with
    | .ok v => .ok (ofJson v)
    | .error b => .error (.broken b)
  write
    | supported s => s.write
    | unsupported u => u.raw

end SectionEntry

end Sitewright
