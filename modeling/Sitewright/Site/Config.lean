import Sitewright.Json.Printer
import Sitewright.Site.Section
import Sitewright.Site.Theme
import Sitewright.Yaml.Reader

/-!
# Site configurations

The one value that describes a whole site: business, theme, navigation, hero, the sections of the
homepage, the footer, and further pages. Configurations are generated, edited and compiled; JSON is
their exchanged form.
-/

namespace Sitewright

open Codec

/-! ### Business -/

/-- Who a site is for. -/
structure Business where
  /-- The name. -/
  name : String
  /-- A few words on it. -/
  tagline : String
  /-- What it does. -/
  description : String
  /-- The mail address. -/
  email : Option String
  /-- The phone number. -/
  phone : Option String
  /-- The street address. -/
  address : Option String
  /-- The opening hours. -/
  hours : Option String
  /-- Where the logo is. -/
  logoUrl : Option String
  deriving DecidableEq

/-- The written form of `Business`. -/
def Business.codec : Codec Business :=
  record "Business" "Business identity" <|
    Business.mk <$> textField "name" (·.name)
      <*> textFieldOrEmpty "tagline" (·.tagline)
      <*> textFieldOrEmpty "description" (·.description)
      <*> optionalText "email" (·.email)
      <*> optionalText "phone" (·.phone)
      <*> optionalText "address" (·.address)
      <*> optionalText "hours" (·.hours)
      <*> optionalText "logoUrl" (·.logoUrl)

/-! ### Navigation -/

/-- The navigation bar. -/
structure Nav where
  /-- The links, in display order. -/
  links : List NavLink
  /-- A button at the end. -/
  cta : Option CtaLink
  deriving DecidableEq

/-- The navigation bar of a site that describes none. -/
def Nav.default : Nav := ⟨[], none⟩

/-- The written form of `Nav`. -/
def Nav.codec : Codec Nav :=
  record "Nav" "Navigation bar" <|
    Nav.mk <$> fieldOr "links" "Links, in display order" (·.links) (list NavLink.codec) []
      <*> fieldOr "cta" "Optional button at the end of the bar" (·.cta) (nullable CtaLink.codec)
        none

/-! ### Hero -/

/-- The layouts of the hero. -/
inductive Hero.Layout where
  | centered | split | imageBackground | minimal | videoStyle | gradient | stacked
  deriving DecidableEq

namespace Hero.Layout

/-- Every layout, the default first. -/
def all : List Hero.Layout :=
  [.centered, .split, .imageBackground, .minimal, .videoStyle, .gradient, .stacked]

/-- The name of a layout in configurations. -/
def tag : Hero.Layout → String
  | .centered => "centered"
  | .split => "split"
  | .imageBackground => "image-background"
  | .minimal => "minimal"
  | .videoStyle => "video-style"
  | .gradient => "gradient"
  | .stacked => "stacked"

/-- Layouts are written by their tags. -/
def codec : Codec Hero.Layout :=
  .choice "HeroVariant" (Codec.tagsDefinition "Hero layouts" (all.map tag)) all tag

end Hero.Layout

/-- The block at the top of the homepage. -/
structure Hero where
  /-- How it is laid out. -/
  layout : Hero.Layout
  /-- The headline. -/
  headline : String
  /-- The line below it. -/
  subheadline : String
  /-- The main button. -/
  cta : CtaLink
  /-- A second button. -/
  secondaryCta : Option CtaLink
  /-- What its picture shows. -/
  imageDescription : String
  deriving DecidableEq

/-- The written form of `Hero`. -/
def Hero.codec : Codec Hero :=
  record "Hero" "Hero block" <|
    Hero.mk <$> fieldOr "variant" "" (·.layout) Hero.Layout.codec .centered
      <*> textField "headline" (·.headline)
      <*> textFieldOrEmpty "subheadline" (·.subheadline)
      <*> field "cta" "" (·.cta) CtaLink.codec
      <*> fieldOr "secondaryCta" "" (·.secondaryCta) (nullable CtaLink.codec) none
      <*> fieldOr "imageDescription" "Prompt for the hero image" (·.imageDescription) text ""

/-! ### Footer -/

/-- The layouts of the footer. -/
inductive Footer.Layout where
  | simple | columns | centered
  deriving DecidableEq

namespace Footer.Layout

/-- Every layout, the default first. -/
def all : List Footer.Layout := [.simple, .columns, .centered]

/-- The name of a layout in configurations. -/
def tag : Footer.Layout → String
  | .simple => "simple"
  | .columns => "columns"
  | .centered => "centered"

/-- Layouts are written by their tags. -/
def codec : Codec Footer.Layout :=
  .choice "FooterVariant" (Codec.tagsDefinition "Footer layouts" (all.map tag)) all tag

end Footer.Layout

/-- A column of links in the footer. -/
structure FooterColumn where
  /-- The title of the column. -/
  title : String
  /-- Its links, in display order. -/
  links : List NavLink
  deriving DecidableEq

/-- The written form of `FooterColumn`. -/
def FooterColumn.codec : Codec FooterColumn :=
  record "FooterColumn" "Footer link column" <|
    FooterColumn.mk <$> textField "title" (·.title) <*> listField "links" (·.links) NavLink.codec

/-- The footer. -/
structure Footer where
  /-- How it is laid out. -/
  layout : Footer.Layout
  /-- The columns, in display order. -/
  columns : List FooterColumn
  /-- The copyright line. -/
  copyright : String
  /-- The profile links, in display order. -/
  socialLinks : List SocialLink
  deriving DecidableEq

/-- The footer of a site that describes none. -/
def Footer.default : Footer := ⟨.simple, [], "", []⟩

/-- The written form of `Footer`. -/
def Footer.codec : Codec Footer :=
  record "Footer" "Footer" <|
    Footer.mk <$> fieldOr "variant" "" (·.layout) Footer.Layout.codec .simple
      <*> listField "columns" (·.columns) FooterColumn.codec
      <*> textFieldOrEmpty "copyright" (·.copyright)
      <*> listField "socialLinks" (·.socialLinks) SocialLink.codec

/-! ### Pages -/

/-- A page besides the homepage. -/
structure Page where
  /-- The route, as it is written in the configuration. -/
  path : String
  /-- The title of the document. -/
  title : String
  /-- The entries, in display order. -/
  sections : List SectionEntry

/-- Equality of pages. -/
def Page.same (a b : Page) : Bool :=
  a.path == b.path && a.title == b.title && a.sections == b.sections

instance : BEq Page := ⟨Page.same⟩

/-- The page as it is named to people. -/
def Page.text (page : Page) : String := page.title ++ " (" ++ page.path ++ ")"

/-- The written form of `Page`. -/
def Page.codec : Codec Page :=
  record "Page" "Secondary page" <|
    Page.mk <$> field "path" "Route, e.g. `/about`" (·.path) Codec.text
      <*> field "title" "Document title" (·.title) Codec.text
      <*> fieldOr "sections" "Sections, in display order" (·.sections) (list SectionEntry.codec) []

/-! ### Configurations -/

/-- The description of a site. -/
structure SiteConfig where
  /-- The version of the vocabulary. -/
  version : Fin UInt32.size
  /-- Who the site is for. -/
  business : Business
  /-- The look. -/
  theme : Theme
  /-- The navigation bar. -/
  nav : Nav
  /-- The block at the top of the homepage. -/
  hero : Hero
  /-- The entries of the homepage, in display order. -/
  sections : List SectionEntry
  /-- The footer. -/
  footer : Footer
  /-- The other pages, in order. -/
  pages : List Page

namespace SiteConfig

/-- The version of the vocabulary that this library writes. -/
def currentVersion : Fin UInt32.size := 1

/-- The written form of `SiteConfig`. -/
def codec : Codec SiteConfig :=
  record "WebsiteConfig" "Root of the IR" <|
    SiteConfig.mk <$> fieldOr "version" "IR schema version" (·.version) word currentVersion
      <*> field "business" "Business identity and contact details" (·.business) Business.codec
      <*> fieldOr "theme" "Theme descriptor" (·.theme) Theme.codec Theme.default
      <*> fieldOr "nav" "Navigation bar" (·.nav) Nav.codec Nav.default
      <*> field "hero" "Hero block at the top of the homepage" (·.hero) Hero.codec
      <*> fieldOr "sections" "Homepage sections, in display order" (·.sections)
        (list SectionEntry.codec) []
      <*> fieldOr "footer" "Footer" (·.footer) Footer.codec Footer.default
      <*> fieldOr "pages" "Secondary pages" (·.pages) (list Page.codec) []

/-- Equality of configurations. -/
def same (a b : SiteConfig) : Bool :=
  a.version == b.version && a.business == b.business && a.theme == b.theme && a.nav == b.nav &&
    a.hero == b.hero && a.sections == b.sections && a.footer == b.footer && a.pages == b.pages

instance : BEq SiteConfig := ⟨same⟩

/-- The configuration that a value stands for. -/
def ofJson (v : Json) : Except ReadError SiteConfig := codec.decode v

/-- The configuration that a JSON text stands for. -/
def ofJsonText (s : String) : Except ReadError SiteConfig := codec.decodeText s

/-- The configuration that a YAML text stands for. -/
def ofYamlText (s : String) : Except ReadError SiteConfig :=
  match Document.ofYaml? codec.outline s with
  | none => .error (.broken .malformed)
  | some d => codec.read Dialect.value d

/-- The value of a configuration. -/
def toJson (config : SiteConfig) : Json := codec.encode config

/-- The configuration laid out as JSON text, with fields in the order of their declaration. -/
def pretty (config : SiteConfig) : String := (codec.write config).pretty

/-- The schema of configurations. -/
def schema : Json :=
  match codec.schema.definitions with
  | [] => .null
  | (title, root) :: definitions =>
    (Json.obj (("$schema", .str "http://json-schema.org/draft-07/schema#") ::
      ("title", .str title) :: ("definitions", .obj definitions) :: Section.entriesOf root)).sorted

/-! ### Section lists -/

/-- The section lists of all pages, the homepage first. -/
def sectionLists (config : SiteConfig) : List (List SectionEntry) :=
  config.sections :: config.pages.map (·.sections)

/-- The number of entries on all pages. -/
def sectionCount (config : SiteConfig) : Nat := config.sectionLists.flatten.length

/-- The configuration with only those entries that satisfy `keep`. -/
def filterSections (keep : SectionEntry → Bool) (config : SiteConfig) : SiteConfig :=
  { config with
    sections := config.sections.filter keep
    pages := config.pages.map fun page => { page with sections := page.sections.filter keep } }

/-- The entries that do not satisfy `keep`, each with the route of its page as `route` gives it. -/
def rejectedSections (keep : SectionEntry → Bool) (homeRoute : String) (route : Page → String)
    (config : SiteConfig) : List (String × SectionEntry) :=
  let rejected (pageRoute : String) (entries : List SectionEntry) :=
    (entries.filter fun entry => !keep entry).map fun entry => (pageRoute, entry)
  rejected homeRoute config.sections ++
    config.pages.flatMap fun page => rejected (route page) page.sections

/-- The configuration without the entries that stand for no section. -/
def retainSupported (config : SiteConfig) : SiteConfig :=
  config.filterSections SectionEntry.isSupported

/-- The entries that stand for no section, each with the route of its page as it is written. -/
def unsupportedSections (config : SiteConfig) : List (String × SectionEntry) :=
  config.rejectedSections SectionEntry.isSupported "/" (·.path)

end SiteConfig

end Sitewright
