import Sitewright.Render.Draft

/-!
# Chrome

What surrounds the sections of a page: the navigation bar and the footer, which every page shares,
and the hero at the top of the homepage. Each is a component of a fixed name in a file of a fixed
path.
-/

namespace Sitewright

open Markup Draft

namespace Chrome

/-- The business as it introduces itself: by its logo, or else by its name. -/
def brand (setting : Setting) : Draft :=
  let styles := setting.styles
  let business := setting.business
  match Text.unlessBlank business.logoUrl with
  | some url => void "img" [.link "src" url, .text "alt" business.name, .classes "h-9 w-auto"]
  | none =>
    label "span" (styles.headingFont ++ " text-xl font-bold " ++ styles.heading) business.name

/-- A link with style classes. -/
def anchor (classes href s : String) : Draft :=
  element "a" [.link "href" href, .classes classes] .inline [text s]

end Chrome

/-! ### Navigation bar -/

namespace Nav

/-- Where the navigation bar is kept. -/
def path : String := "components/Navbar.tsx"

/-- The surface of the bar. -/
def surface (theme : Theme) : String :=
  if theme.isDark then "bg-gray-950/80 border-gray-800" else "bg-white/80 border-gray-200"

/-- The button at the end of the bar is smaller than others. -/
def buttonClasses (styles : Styles) : String :=
  Text.replaceAll "px-6 py-3" "px-4 py-2 text-sm" styles.primaryButton

/-- The component of the navigation bar. -/
def component (setting : Setting) (nav : Nav) : Component ImageRequest :=
  let styles := setting.styles
  let links := nav.links.map fun link =>
    Chrome.anchor ("text-sm font-medium " ++ styles.body ++ " hover:opacity-80") link.href
      link.label
  ⟨"Navbar",
    stack "header"
      ("fixed inset-x-0 top-0 z-50 border-b backdrop-blur " ++ surface styles.theme) [
      stack "nav" "mx-auto flex max-w-7xl items-center justify-between px-6 py-4 lg:px-8" ([
        element "a" [.fixed "href" "/", .classes "flex items-center gap-2"] .inline
          [Chrome.brand setting],
        stack "div" "hidden items-center gap-8 md:flex" links] ++
        (nav.cta.map (button (buttonClasses styles))).toList)]⟩

end Nav

/-! ### Footer -/

namespace Footer

/-- Where the footer is kept. -/
def path : String := "components/Footer.tsx"

/-- The copyright line: the one of the configuration, or else one for the business. -/
def copyrightLine (setting : Setting) (footer : Footer) : Draft :=
  inline "p" ("text-sm " ++ setting.styles.muted)
    (if Text.isBlank footer.copyright then
      [fixed "&copy; ", text setting.business.name, fixed ". All rights reserved."]
    else [text footer.copyright])

/-- The profile links, which open in a window of their own. -/
def social (styles : Styles) (footer : Footer) : Draft :=
  stack "div" "flex gap-6"
    (footer.socialLinks.map fun link =>
      element "a"
        [.link "href" link.url, .classes ("text-sm " ++ styles.muted ++ " hover:opacity-80"),
          .fixed "target" "_blank", .fixed "rel" "noopener noreferrer"] .inline
        [text link.platform])

/-- The brand with the tagline below it. -/
def identity (setting : Setting) : Draft :=
  bare "div"
    (Chrome.brand setting ::
      paragraph ("mt-2 text-sm " ++ setting.styles.muted) (some setting.business.tagline))

/-- A column of links. -/
def column (styles : Styles) (c : FooterColumn) : Draft :=
  bare "div" [
    label "h3" ("text-sm font-semibold uppercase tracking-wide " ++ styles.heading) c.title,
    stack "ul" "mt-4 space-y-2"
      (c.links.map fun link =>
        element "li" [] .inline
          [Chrome.anchor ("text-sm " ++ styles.body ++ " hover:opacity-80") link.href link.label])]

/-- What the footer holds. -/
def content (setting : Setting) (footer : Footer) : List Draft :=
  let styles := setting.styles
  match footer.layout with
  | .simple => [
    stack "div" "flex flex-col items-center justify-between gap-6 md:flex-row"
      [Chrome.brand setting, social styles footer, copyrightLine setting footer]]
  | .columns => [
    stack "div" "grid gap-10 md:grid-cols-4"
      (identity setting :: footer.columns.map (column styles)),
    stack "div"
      ("mt-12 flex flex-col items-center justify-between gap-4 border-t pt-8 md:flex-row " ++
        styles.border)
      [copyrightLine setting footer, social styles footer]]
  | .centered => [
    stack "div" "flex flex-col items-center gap-6 text-center" [
      identity setting,
      stack "nav" "flex flex-wrap justify-center gap-6"
        ((footer.columns.flatMap (·.links)).map fun link =>
          Chrome.anchor ("text-sm " ++ styles.body) link.href link.label),
      social styles footer,
      copyrightLine setting footer]]

/-- The component of the footer. -/
def component (setting : Setting) (footer : Footer) : Component ImageRequest :=
  let styles := setting.styles
  ⟨"Footer",
    element "footer" [.classes ("border-t " ++ styles.border ++ " " ++ styles.altBackground)]
      .aligned [
      stack "div" "mx-auto max-w-7xl px-6 py-12 lg:px-8" (content setting footer)]⟩

end Footer

/-! ### Hero -/

namespace Hero

/-- Where the hero is kept. -/
def path : String := "components/Hero.tsx"

/-- Whether a layout shows a picture. -/
def Layout.hasImage : Layout → Bool
  | .split | .imageBackground | .videoStyle | .stacked => true
  | .centered | .minimal | .gradient => false

/-- Whether a layout sets its words on a picture or a gradient. -/
def Layout.isOnFill : Layout → Bool
  | .imageBackground | .videoStyle | .gradient => true
  | .centered | .split | .minimal | .stacked => false

/-- The main button and the second one. -/
def buttons (styles : Styles) (hero : Hero) : List Draft :=
  let second :=
    if hero.layout.isOnFill then
      "inline-flex items-center justify-center rounded-lg border border-white/70 px-6 py-3 " ++
        "font-semibold text-white hover:bg-white/10"
    else styles.secondaryButton
  button styles.primaryButton hero.cta :: (hero.secondaryCta.map (button second)).toList

/-- The words of a hero and its buttons, which are aligned by a class. -/
def words (styles : Styles) (alignment : String) (hero : Hero) : List Draft :=
  let (headlineColor, lineColor) :=
    if hero.layout.isOnFill then ("text-white", "text-white/90") else (styles.heading, styles.body)
  label "h1"
    (styles.headingFont ++ " text-4xl font-extrabold tracking-tight sm:text-6xl " ++ headlineColor)
    hero.headline ::
    paragraph ("mt-6 text-lg leading-8 " ++ lineColor) (some hero.subheadline) ++
    [stack "div" ("mt-10 flex flex-wrap gap-4 " ++ alignment) (buttons styles hero)]

/-- The words of a hero in the middle. -/
def centeredWords (styles : Styles) (hero : Hero) : Draft :=
  stack "div" "mx-auto max-w-3xl text-center" (words styles "justify-center" hero)

/-- The picture of a hero. -/
def image (styles : Styles) (hero : Hero) : Draft :=
  picture styles "h-full w-full" hero.imageDescription

/-- A hero that fills the window, with a veil between its picture and its words. -/
def fullScreen (styles : Styles) (veil : String) (hero : Hero) : SectionDraft :=
  ⟨"relative flex min-h-screen items-center overflow-hidden", [
    stack "div" "absolute inset-0 -z-10" [image styles hero],
    void "div" [.classes ("absolute inset-0 -z-10 " ++ veil)],
    stack "div" "max-w-3xl" (words styles "" hero)]⟩

/-- What the hero looks like. Its background names all classes of the frame. -/
def draft (styles : Styles) (hero : Hero) : SectionDraft :=
  match hero.layout with
  | .centered => ⟨"pt-32 pb-20 " ++ styles.sectionBackground, [centeredWords styles hero]⟩
  | .minimal =>
    ⟨"pt-40 pb-24 " ++ styles.sectionBackground, [stack "div" "max-w-2xl" (words styles "" hero)]⟩
  | .gradient => ⟨"pt-32 pb-24 " ++ styles.gradient, [centeredWords styles hero]⟩
  | .split =>
    ⟨"pt-32 pb-20 " ++ styles.sectionBackground, [
      stack "div" "grid items-center gap-12 lg:grid-cols-2" [
        bare "div" (words styles "" hero),
        stack "div" "h-[28rem] overflow-hidden rounded-3xl shadow-xl" [image styles hero]]]⟩
  | .stacked =>
    ⟨"pt-32 pb-20 " ++ styles.sectionBackground, [
      centeredWords styles hero,
      stack "div" "mt-16 h-[32rem] overflow-hidden rounded-3xl shadow-2xl" [image styles hero]]⟩
  | .imageBackground => fullScreen styles "bg-black/50" hero
  | .videoStyle =>
    fullScreen styles "bg-gradient-to-t from-black/80 via-black/40 to-black/20" hero

/-- The component of the hero. -/
def component (setting : Setting) (hero : Hero) : Component ImageRequest :=
  let draft := hero.draft setting.styles
  ⟨"Hero",
    element "section" [.fixed "id" "home", .classes draft.background] .aligned
      [stack "div" "mx-auto max-w-7xl px-6 lg:px-8" draft.children]⟩

end Hero

end Sitewright
