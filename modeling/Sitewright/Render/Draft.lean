import Sitewright.Markup.Basic
import Sitewright.Site.Config
import Sitewright.Site.Styles

/-!
# Drafts

A draft is markup whose pictures are still requests. Every section renderer is a function from the
section and its setting to a draft; it asks for pictures by putting requests into the tree and never
learns what became of them. So the requests of a page, and their order, are a property of its
drafts, whatever the limit on pictures and whatever the theme.

This module has the pieces that several renderers share.
-/

namespace Sitewright

/-- Markup whose pictures are still requests. -/
abbrev Draft := Markup ImageRequest

/-- What a renderer knows besides its section. -/
structure Setting where
  /-- The style classes of the theme. -/
  styles : Styles
  /-- The business. -/
  business : Business

/-- What a section looks like inside its frame. -/
structure SectionDraft where
  /-- The background of the section. -/
  background : String
  /-- What it holds. -/
  children : List Draft

namespace Draft

open Markup

/-- A request for a picture. -/
def picture (styles : Styles) (classes description : String) : Draft :=
  image ⟨description, classes, styles.imageFallback⟩

/-- A request for a picture, if it is described at all. -/
def picture? (styles : Styles) (classes : String) (description : Option String) : List Draft :=
  ((Text.unlessBlank description).map (picture styles classes)).toList

/-- A link that looks like a button. -/
def button (classes : String) (link : CtaLink) : Draft :=
  element "a" [.link "href" link.href, .classes classes] .inline [text link.text]

/-- A paragraph, unless its text is blank. -/
def paragraph (classes : String) (s : Option String) : List Draft :=
  ((Text.unlessBlank s).map (label "p" classes)).toList

/-- The title of a section, with a line below it unless that is blank. -/
def heading (styles : Styles) (title : String) (subtitle : Option String) : Draft :=
  element "div" [.classes "mx-auto max-w-2xl text-center mb-12"] .aligned
    (label "h2"
      (styles.headingFont ++ " text-3xl font-bold tracking-tight sm:text-4xl " ++ styles.heading)
      title :: paragraph ("mt-4 text-lg " ++ styles.muted) subtitle)

/-- The title of a section that may go without one. -/
def heading? (styles : Styles) (title : Option String) : List Draft :=
  ((Text.unlessBlank title).map fun t => heading styles t none).toList

end Draft

/-- The component of a section: its frame around what it holds. -/
def SectionDraft.component (name anchor : String) (draft : SectionDraft) :
    Component ImageRequest where
  name := name
  root :=
    .element "section"
      [.fixed "id" anchor, .classes ("py-20 sm:py-24 " ++ draft.background)] .aligned
      [.stack "div" "mx-auto max-w-7xl px-6 lg:px-8" draft.children]

end Sitewright
