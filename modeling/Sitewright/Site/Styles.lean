import Sitewright.Site.Theme

/-!
# Styles

The style classes that a theme resolves to, by the role they play. Renderers take all their colours
from here, so a theme reaches the generated files through these texts and in no other way.
-/

namespace Sitewright

/-- The style classes of a theme. -/
structure Styles where
  /-- The theme. -/
  theme : Theme
  /-- The background and text of a page. -/
  page : String
  /-- The background of a section. -/
  sectionBackground : String
  /-- The background of every other section. -/
  altBackground : String
  /-- The surface of a card. -/
  card : String
  /-- The colour of headings. -/
  heading : String
  /-- The colour of running text. -/
  body : String
  /-- The colour of captions. -/
  muted : String
  /-- The colour of borders. -/
  border : String
  /-- The gradient of the brand colours. -/
  gradient : String
  /-- Text in the brand colour. -/
  primaryText : String
  /-- The main button. -/
  primaryButton : String
  /-- Other buttons. -/
  secondaryButton : String
  /-- A badge. -/
  badge : String
  /-- A form field. -/
  input : String
  /-- The ring around what has the focus. -/
  focusRing : String
  /-- A surface that stands in for a picture. -/
  imageFallback : String
  /-- The font of headings. -/
  headingFont : String
  /-- The font of running text. -/
  bodyFont : String
  deriving DecidableEq

/-- The classes that depend on the background mode alone, or on it and the brand colour. -/
structure Surfaces where
  /-- The background and text of a page. -/
  page : String
  /-- The background of a section. -/
  sectionBackground : String
  /-- The background of every other section. -/
  altBackground : String
  /-- The surface of a card. -/
  card : String
  /-- The colour of headings. -/
  heading : String
  /-- The colour of running text. -/
  body : String
  /-- The colour of captions. -/
  muted : String
  /-- The colour of borders. -/
  border : String
  /-- A form field. -/
  input : String

/-- Dark surfaces. -/
def Surfaces.dark : Surfaces where
  page := "bg-gray-950 text-gray-100"
  sectionBackground := "bg-gray-950"
  altBackground := "bg-gray-900"
  card := "bg-gray-900 border border-gray-800 rounded-2xl shadow-lg shadow-black/20"
  heading := "text-white"
  body := "text-gray-300"
  muted := "text-gray-400"
  border := "border-gray-800"
  input := "w-full rounded-lg border border-gray-700 bg-gray-900 px-4 py-3 text-gray-100 " ++
    "placeholder-gray-500"

/-- Light surfaces for a brand colour. -/
def Surfaces.light (primary : PaletteColor) : Surfaces where
  page := "bg-white text-gray-900"
  sectionBackground := "bg-white"
  altBackground := "bg-" ++ primary.tag ++ "-50"
  card := "bg-white border border-gray-100 rounded-2xl shadow-sm"
  heading := "text-gray-900"
  body := "text-gray-600"
  muted := "text-gray-500"
  border := "border-gray-200"
  input := "w-full rounded-lg border border-gray-300 bg-white px-4 py-3 text-gray-900 " ++
    "placeholder-gray-400"

namespace Theme

/-- Whether a theme uses dark surfaces. -/
def isDark (theme : Theme) : Bool := theme.mode == .dark

/-- The surfaces of a theme. -/
def surfaces (theme : Theme) : Surfaces :=
  if theme.isDark then .dark else .light theme.primary

/-- The shade of surfaces filled with the brand colour. Greys are too washed out at the usual one.
-/
def shade (theme : Theme) : Nat := if theme.primary.isNeutral then 800 else 600

/-- The text on a surface filled with a colour. -/
def textOnFill (color : PaletteColor) : String :=
  if color.isLight then "text-gray-900" else "text-white"

/-- The style classes of a theme. -/
def styles (theme : Theme) : Styles :=
  let primary := theme.primary.tag
  let secondary := theme.secondary.tag
  let accent := theme.accent.tag
  let shade := toString theme.shade
  let surfaces := theme.surfaces
  let button := "inline-flex items-center justify-center rounded-lg "
  let focusRing :=
    "focus:outline-none focus:ring-2 focus:ring-" ++ primary ++ "-500 focus:ring-offset-2"
  { theme := theme
    page := surfaces.page
    sectionBackground := surfaces.sectionBackground
    altBackground := surfaces.altBackground
    card := surfaces.card
    heading := surfaces.heading
    body := surfaces.body
    muted := surfaces.muted
    border := surfaces.border
    gradient := "bg-gradient-to-r from-" ++ primary ++ "-" ++ shade ++ " to-" ++ secondary ++ "-" ++
      shade
    primaryText := "text-" ++ primary ++ "-" ++ (if theme.isDark then "400" else shade)
    primaryButton := button ++ "bg-" ++ primary ++ "-" ++ shade ++ " px-6 py-3 font-semibold " ++
      textOnFill theme.primary ++ " hover:bg-" ++ primary ++ "-" ++ toString (theme.shade + 100) ++
      " transition-colors " ++ focusRing
    secondaryButton := button ++ "border border-" ++ primary ++ "-" ++ shade ++
      " px-6 py-3 font-semibold text-" ++ primary ++ "-" ++ shade ++ " hover:bg-" ++ primary ++
      "-50 transition-colors " ++ focusRing
    badge := "inline-flex items-center rounded-full bg-" ++ accent ++
      "-100 px-3 py-1 text-xs font-semibold text-" ++ accent ++ "-800"
    input := surfaces.input ++ " " ++ focusRing
    focusRing := focusRing
    imageFallback := "bg-gradient-to-br from-" ++ primary ++ "-100 via-" ++ secondary ++
      "-100 to-" ++ accent ++ "-100"
    headingFont := "font-heading"
    bodyFont := "font-body" }

end Theme

end Sitewright
