import Sitewright.Render.Action
import Sitewright.Render.Offers
import Sitewright.Render.People
import Sitewright.Render.Story

/-!
# Sections as sources

What a section becomes: a component drawn by this library, or, for a custom section, the code that
came with it. The two are kept apart up to the last step, so that code is never taken apart and a
component never holds text that was not escaped.
-/

namespace Sitewright

/-- The source of a section, with pictures of type `ι`. -/
inductive SectionSource (ι : Type) where
  /-- A component drawn by this library. -/
  | drawn (component : Component ι)
  /-- Code that came with the section. -/
  | given (code : String)

namespace SectionSource

/-- The source text of a section. Given code gets the line end it may lack. -/
def print {ι : Type} (leaf : ι → String) : SectionSource ι → String
  | drawn c => c.print leaf
  | given code => if code.toList.getLast? == some '\n' then code else code ++ "\n"

/-- The source text of a section whose pictures are placed. -/
def text (source : SectionSource PlacedImage) : String := source.print Markup.printImage

/-- A source with its requests placed after `before` others, and the number of requests so far. -/
def place (cap before : Nat) :
    SectionSource ImageRequest → SectionSource PlacedImage × Nat
  | drawn c =>
    let (placed, after) := c.place cap before
    (drawn placed, after)
  | given code => (given code, before)

end SectionSource

namespace Section

/-- The source of a section as a component of a name, with an anchor on its page. -/
def source (setting : Setting) (name anchor : String) : Section → SectionSource ImageRequest :=
  let drawn (draft : SectionDraft) := SectionSource.drawn (draft.component name anchor)
  fun
  | featureGrid s => drawn (s.draft setting)
  | menu s => drawn (s.draft setting)
  | productGrid s => drawn (s.draft setting)
  | testimonials s => drawn (s.draft setting)
  | pricing s => drawn (s.draft setting)
  | gallery s => drawn (s.draft setting)
  | stats s => drawn (s.draft setting)
  | ctaBanner s => drawn (s.draft setting)
  | team s => drawn (s.draft setting)
  | blogPreview s => drawn (s.draft setting)
  | contact s => drawn (s.draft setting)
  | faq s => drawn (s.draft setting)
  | about s => drawn (s.draft setting)
  | logoCloud s => drawn (s.draft setting)
  | newsletter s => drawn (s.draft setting anchor)
  | process s => drawn (s.draft setting)
  | custom s => .given s.code

end Section

end Sitewright
