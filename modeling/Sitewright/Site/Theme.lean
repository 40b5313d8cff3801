import Sitewright.Codec.Record

/-!
# Themes

The closed vocabulary in which a configuration describes the look of a site: three palette colours,
a background mode and a font pairing. What these mean in style classes is decided elsewhere; a
palette colour only promises that its tag can be spliced into a class name.
-/

namespace Sitewright

/-! ### Palette -/

/-- The colours of the palette. -/
inductive PaletteColor where
  | slate | gray | zinc | stone | red | orange | amber | yellow | lime | green | emerald
  | teal | cyan | sky | blue | indigo | violet | purple | fuchsia | pink | rose
  deriving DecidableEq

namespace PaletteColor

/-- Every colour, in the order of the palette. -/
def all : List PaletteColor :=
  [slate, gray, zinc, stone, red, orange, amber, yellow, lime, green, emerald, teal, cyan, sky,
    blue, indigo, violet, purple, fuchsia, pink, rose]

/-- The name of a colour, in configurations and in class names. -/
def tag : PaletteColor → String
  | slate => "slate" | gray => "gray" | zinc => "zinc" | stone => "stone" | red => "red"
  | orange => "orange" | amber => "amber" | yellow => "yellow" | lime => "lime" | green => "green"
  | emerald => "emerald" | teal => "teal" | cyan => "cyan" | sky => "sky" | blue => "blue"
  | indigo => "indigo" | violet => "violet" | purple => "purple" | fuchsia => "fuchsia"
  | pink => "pink" | rose => "rose"

/-- Whether a colour is a grey, which reads poorly on a button. -/
def isNeutral : PaletteColor → Bool
  | slate | gray | zinc | stone => true
  | _ => false

/-- Whether a surface filled with a colour needs dark text. -/
def isLight : PaletteColor → Bool
  | yellow | lime | amber => true
  | _ => false

/-- Colours are written by their tags. -/
def codec : Codec PaletteColor :=
  .choice "PaletteColor"
    (Codec.tagsDefinition ("Fixed palette of color tokens\n\nNames match the utility-class " ++
      "color scales of the generated styling framework, so a token can be spliced directly into " ++
      "a class name.") (all.map tag)) all tag

theorem mem_all (c : PaletteColor) : c ∈ all := by cases c <;> decide

end PaletteColor

/-! ### Background and fonts -/

/-- Whether surfaces are light or dark. -/
inductive BackgroundMode where
  | light | dark
  deriving DecidableEq

namespace BackgroundMode

/-- Every mode, the default first. -/
def all : List BackgroundMode := [light, dark]

/-- The name of a mode in configurations. -/
def tag : BackgroundMode → String
  | light => "light"
  | dark => "dark"

/-- Modes are written by their tags. -/
def codec : Codec BackgroundMode :=
  .choice "BackgroundMode"
    (Codec.describedDefinition "Background mode"
      [("light", "Light surfaces, dark text"), ("dark", "Dark surfaces, light text")]) all tag

end BackgroundMode

/-- The font pairings. -/
inductive FontStyle where
  | modern | classic | elegant | playful | minimal
  deriving DecidableEq

namespace FontStyle

/-- Every pairing, the default first. -/
def all : List FontStyle := [modern, classic, elegant, playful, minimal]

/-- The name of a pairing in configurations. -/
def tag : FontStyle → String
  | modern => "modern"
  | classic => "classic"
  | elegant => "elegant"
  | playful => "playful"
  | minimal => "minimal"

/-- The heading family and the body family of a pairing. -/
def families : FontStyle → String × String
  | modern => ("Inter", "Inter")
  | classic => ("Playfair_Display", "Source_Sans_3")
  | elegant => ("Cormorant_Garamond", "Lato")
  | playful => ("Fredoka", "Nunito")
  | minimal => ("DM_Sans", "DM_Sans")

/-- Pairings are written by their tags. -/
def codec : Codec FontStyle :=
  .choice "FontStyle"
    (Codec.describedDefinition "Font pairing"
      [("modern", "Geometric sans"), ("classic", "Serif headings, sans body"),
        ("elegant", "High-contrast display serif"), ("playful", "Rounded display face"),
        ("minimal", "One neutral sans everywhere")]) all tag

end FontStyle

/-! ### Theme -/

/-- The look of a site. -/
structure Theme where
  /-- The brand colour. -/
  primary : PaletteColor
  /-- The colour of section accents and gradients. -/
  secondary : PaletteColor
  /-- The colour of badges and highlights. -/
  accent : PaletteColor
  /-- Light or dark background. -/
  mode : BackgroundMode
  /-- The fonts. -/
  fontStyle : FontStyle
  deriving DecidableEq

namespace Theme

/-- The theme of a site that names none. -/
def default : Theme := ⟨.blue, .indigo, .amber, .light, .modern⟩

open Codec in
/-- Themes are records. -/
def codec : Codec Theme :=
  record "Theme" "Theme descriptor carried by every [`WebsiteConfig`](crate::WebsiteConfig)" <|
    Theme.mk <$> field "primary" "Primary brand color" (·.primary) PaletteColor.codec
      <*> field "secondary" "Secondary color (section accents, gradients)" (·.secondary)
        PaletteColor.codec
      <*> field "accent" "Accent color (badges, highlights)" (·.accent) PaletteColor.codec
      <*> fieldOr "mode" "Light or dark background" (·.mode) BackgroundMode.codec .light
      <*> fieldOr "fontStyle" "Font pairing" (·.fontStyle) FontStyle.codec .modern

end Theme

end Sitewright
