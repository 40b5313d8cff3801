import Sitewright.Edit.Classification
import Sitewright.Edit.Words
import Sitewright.Site.Config

/-!
# Classifying by keywords

Edits are classified by the words they use. Rules are tried in a fixed order and the first that
applies counts: a different site, the logo, sections and pages that come or go, contact details,
colours and fonts, navigation, pictures. An edit that no rule knows changes content; it is narrowed
down to the sections that it names, by their kind or by their title.
-/

namespace Sitewright

namespace Keywords

/-! ### Vocabulary -/

/-- Phrases that ask for a different site. -/
def regenerate : List String :=
  ["make this a", "make it a", "turn this into", "turn it into", "start over", "from scratch",
    "completely different", "totally different", "entirely different", "whole new",
    "brand new site", "brand new website", "different business", "landing page for",
    "redesign everything", "redo everything", "rebuild the site", "rebuild the website"]

/-- Words for what is done to sections. -/
def structureVerbs : List String :=
  ["add", "remove", "delete", "drop", "reorder", "move", "insert", "swap"]

/-- Words for sections and pages. -/
def structureNouns : List String := ["section", "sections", "page", "pages", "block"]

/-- Words for contact details, with the place of each. -/
def contact : List (String × FieldPath) :=
  [("phone", .field "business.phone"), ("telephone", .field "business.phone"),
    ("number", .field "business.phone"), ("email", .field "business.email"),
    ("mail", .field "business.email"), ("address", .field "business.address"),
    ("location", .field "business.address"), ("hours", .field "business.hours"),
    ("open", .field "business.hours")]

/-- The places of all contact details. -/
def allContact : List FieldPath :=
  [.field "business.phone", .field "business.email", .field "business.address",
    .field "business.hours"]

/-- Words for colours and fonts. -/
def style : List String :=
  ["color", "colors", "colour", "colours", "palette", "theme", "font", "fonts", "typography",
    "dark", "darker", "light", "lighter", "style", "styling"]

/-- Words for navigation. -/
def navigation : List String := ["navigation", "nav", "navbar", "footer", "link", "links"]

/-- Words for pictures. -/
def images : List String :=
  ["image", "images", "photo", "photos", "picture", "pictures", "photography"]

end Keywords

namespace EditWords

/-! ### What a text names -/

/-- The first phrase of a text that asks for a different site. -/
def regeneratePhrase? (text : EditWords) : Option String :=
  Keywords.regenerate.find? text.hasPhrase

/-- The places of the contact details that a text names, each once. -/
def contactTargets (text : EditWords) : List FieldPath :=
  ((Keywords.contact.filter fun entry => text.hasWord entry.1).map (·.2)).eraseDups

/-- Whether a text names a colour. -/
def namesColor (text : EditWords) : Bool :=
  PaletteColor.all.any fun color => text.hasWord color.tag

/-- A list with one item, if a condition holds. -/
def only {α : Type} (condition : Bool) (a : α) : List α := if condition then [a] else []

/-- The places of the theme that a text concerns. -/
def styleTargets (text : EditWords) : List FieldPath :=
  let targets :=
    only (text.hasAny ["font", "fonts", "typography"]) (.field "theme.fontStyle") ++
      only (text.hasAny ["dark", "darker", "light", "lighter"] || text.hasPhrase "dark mode")
        (.field "theme.mode") ++
      only (text.hasWord "secondary") (.field "theme.secondary") ++
      only (text.hasWord "accent") (.field "theme.accent") ++
      only (text.namesColor && !text.hasAny ["secondary", "accent"]) (.field "theme.primary")
  if targets.isEmpty then [.field "theme"] else targets

/-- Whether a text names an entry of a page, by its kind or by its title. -/
def namesEntry (text : EditWords) (entry : SectionEntry) : Bool :=
  let kind := Text.replaceAll "-" " " entry.typeTag
  let title := (entry.section?.bind Section.title?).map fun t => String.ofList (ofText t).joined
  (!kind.isEmpty && (text.hasPhrase kind || text.hasPhrase (kind ++ "s"))) ||
    title.any fun t => !t.isEmpty && text.hasPhrase t

/-- The places of the entries of a list that a text names. -/
def entryHits (text : EditWords) (base : FieldPath) (entries : List SectionEntry) :
    List FieldPath :=
  (entries.zipIdx.filter fun (entry, _) => text.namesEntry entry).map fun (_, i) => base.item i

/-- The places of the entries of all pages that a text names, the homepage first. -/
def sectionHits (text : EditWords) (config : SiteConfig) : List FieldPath :=
  text.entryHits (.field "sections") config.sections ++
    config.pages.zipIdx.flatMap fun (page, i) =>
      text.entryHits (((FieldPath.field "pages").item i).child "sections") page.sections

/-! ### Rules -/

/-- A text that asks for a different site. -/
def regenerateRule (text : EditWords) : Option EditClassification :=
  text.regeneratePhrase?.map fun phrase =>
    .regenerate ("asks for a different site (\"" ++ phrase ++ "\")")

/-- A text about the logo. -/
def logoRule (text : EditWords) : Option EditClassification :=
  if text.hasAny ["logo", "logos"] then
    some (.ofTargets .logoOnly .narrow [.field "business.logoUrl"] "mentions the logo")
  else none

/-- A text about sections and pages that come or go. Contact details take precedence. -/
def structureRule (text : EditWords) (config : SiteConfig) : Option EditClassification :=
  if text.contactTargets.isEmpty && text.hasAny Keywords.structureVerbs &&
      (text.hasAny Keywords.structureNouns || !(text.sectionHits config).isEmpty) then
    some (.ofTargets .structureMinor .moderate
      (.field "sections" :: only (text.hasAny ["page", "pages"]) (.field "pages"))
      "adds, removes or moves sections")
  else none

/-- A text about contact details. -/
def contactRule (text : EditWords) : Option EditClassification :=
  let targets := text.contactTargets
  if !targets.isEmpty || (text.hasWord "contact" && !text.hasWord "section") then
    some (.ofTargets .contactInfo .narrow
      (if targets.isEmpty then Keywords.allContact else targets) "changes contact details")
  else none

/-- A text about colours and fonts. -/
def styleRule (text : EditWords) : Option EditClassification :=
  if text.namesColor || text.hasAny Keywords.style then
    some (.ofTargets .styling .narrow text.styleTargets "changes colours or typography")
  else none

/-- A text about navigation. -/
def navigationRule (text : EditWords) : Option EditClassification :=
  if text.hasAny Keywords.navigation || text.hasPhrase "menu bar" then
    let nav := !text.hasWord "footer" || text.hasAny ["nav", "navbar", "navigation"]
    some (.ofTargets .navigation .moderate
      (only nav (.field "nav") ++ only (text.hasWord "footer") (.field "footer"))
      "changes navigation links")
  else none

/-- A text about pictures. -/
def imageRule (text : EditWords) (config : SiteConfig) : Option EditClassification :=
  if text.hasAny Keywords.images then
    let hits := text.sectionHits config
    some (.ofTargets .images .moderate
      (.field "hero.imageDescription" :: (if hits.isEmpty then [.field "sections"] else hits))
      "changes image descriptions")
  else none

/-- Any other text changes content. -/
def contentRule (text : EditWords) (config : SiteConfig) : EditClassification :=
  let hits := text.sectionHits config
  let targets :=
    only (text.hasAny ["hero", "headline", "subheadline", "banner", "heading"]) (.field "hero") ++
      only (text.hasAny ["tagline", "slogan"]) (.field "business.tagline") ++
      only (text.hasAny ["description", "about"] && hits.isEmpty) (.field "business.description") ++
      hits
  if targets.isEmpty then
    .ofTargets .content .wide [.field "hero", .field "sections"] "edits copy in existing content"
  else .ofTargets .content .moderate targets "edits copy in existing content"

/-- The classification of a text. -/
def classify (text : EditWords) (config : SiteConfig) : EditClassification :=
  (text.regenerateRule <|> text.logoRule <|> text.structureRule config <|> text.contactRule <|>
    text.styleRule <|> text.navigationRule <|> text.imageRule config).getD (text.contentRule config)

end EditWords

/-- The classification of an edit by its keywords. -/
def EditClassification.ofKeywords (s : String) (config : SiteConfig) : EditClassification :=
  (EditWords.ofText s).classify config

end Sitewright
