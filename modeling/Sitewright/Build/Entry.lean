import Sitewright.Build.Plan

/-!
# Entries of pages

Every page has an entry file that imports the components of its sections and puts them in order. The
homepage starts with the hero and leaves its title to the layout; other pages have a title of their
own, and one without sections shows it.
-/

namespace Sitewright

/-- A name and where it is imported from. -/
structure Import where
  /-- The name. -/
  name : String
  /-- Where it comes from. -/
  source : String
  /-- Whether it is the type of that name rather than the main thing there. -/
  isType : Bool
  deriving DecidableEq

namespace Import

/-- The printed form of an import. -/
def text (i : Import) : String :=
  "import " ++ (if i.isType then "type \x7b " ++ i.name ++ " \x7d" else i.name) ++ " from \"" ++
    i.source ++ "\";\n"

/-- The import of the component in a slot. -/
def ofSlot (slot : Slot) : Import := ⟨slot.name, slot.importPath, false⟩

end Import

/-- The entry file of a page. -/
structure PageEntry where
  /-- What it imports. -/
  imports : List Import
  /-- The title of the document, if the page has one of its own. -/
  title : Option String
  /-- Its component. -/
  component : Component PlacedImage

namespace PageEntry

/-- The names that the file binds. -/
def boundNames (entry : PageEntry) : List String :=
  entry.imports.map (·.name) ++ (entry.title.map fun _ => "metadata").toList ++
    [entry.component.name]

/-- What the file says about its document. -/
def metadataText (title : String) : String :=
  "export const metadata: Metadata = \x7b\n  title: " ++ Markup.stringLiteral title ++
    ",\n\x7d;\n\n"

/-- The source text of the file. -/
def text (entry : PageEntry) : String :=
  String.join (entry.imports.map Import.text) ++ "\n" ++
    (entry.title.map metadataText).getD "" ++ entry.component.source

/-- The use of a component. -/
def use (name : String) : Markup PlacedImage := .void name []

/-- The entry of the homepage. -/
def home (slots : List Slot) : PageEntry where
  imports := ⟨"Hero", "@/components/Hero", false⟩ :: slots.map Import.ofSlot
  title := none
  component :=
    ⟨"Home", .element "main" [] .aligned (use "Hero" :: slots.map fun slot => use slot.name)⟩

/-- The title of a document: that of its page, with the business after it. -/
def documentTitle (title business : String) : String :=
  if Text.isBlank title then business else Text.trim title ++ " | " ++ business

/-- What a page without sections shows. -/
def titleOnly (styles : Styles) (title : String) : Markup PlacedImage :=
  .element "section" [.classes "py-24"] .aligned [
    .label "h1"
      ("mx-auto max-w-7xl px-6 " ++ styles.headingFont ++ " text-4xl font-bold " ++ styles.heading)
      title]

/-- The entry of a published page. -/
def ofPage (business : String) (styles : Styles) (plan : PagePlan) (slots : List Slot) :
    PageEntry where
  imports := ⟨"Metadata", "next", true⟩ :: slots.map Import.ofSlot
  title := some (documentTitle plan.title business)
  component :=
    ⟨plan.function,
      .element "main" [.classes "pt-16"] .aligned
        (if slots.isEmpty then [titleOnly styles plan.title]
        else slots.map fun slot => use slot.name)⟩

end PageEntry

end Sitewright
