import Sitewright.Render.Draft

/-!
# Offers on a page

How features, dishes, products and plans are laid out.
-/

namespace Sitewright

open Markup Draft

/-! ### Feature grid -/

namespace FeatureGrid

/-- The glyph of a feature: its own, or the first character of its name. -/
def glyph (feature : Feature) : String :=
  match Text.unlessBlank feature.icon with
  | some icon => icon
  | none => String.ofList (feature.title.toList.take 1)

/-- The glyph of a feature in a coloured square. -/
def icon (styles : Styles) (feature : Feature) : Draft :=
  label "div"
    ("mb-4 flex h-12 w-12 items-center justify-center rounded-xl " ++ styles.gradient ++
      " text-xl font-bold text-white") (glyph feature)

/-- The name of a feature. -/
def name (styles : Styles) (feature : Feature) : Draft :=
  label "h3" (styles.headingFont ++ " text-xl font-semibold " ++ styles.heading) feature.title

/-- What a feature does. -/
def description (styles : Styles) (feature : Feature) : List Draft :=
  paragraph ("mt-2 leading-relaxed " ++ styles.body) (some feature.description)

/-- A feature beside its picture, on alternating sides. -/
def row (styles : Styles) (index : Nat) (feature : Feature) : Draft :=
  let order := if index % 2 == 1 then " lg:order-last" else ""
  stack "div" "grid items-center gap-12 lg:grid-cols-2" [
    stack "div" ("overflow-hidden rounded-2xl" ++ order)
      [picture styles "h-72 w-full" (feature.title ++ ": " ++ feature.description)],
    bare "div" (name styles feature :: description styles feature)]

/-- A feature with its glyph. -/
def card (styles : Styles) (classes : String) (feature : Feature) : Draft :=
  stack "div" classes (icon styles feature :: name styles feature :: description styles feature)

/-- The draft of a feature grid. -/
def draft (setting : Setting) (s : FeatureGrid) : SectionDraft :=
  let styles := setting.styles
  let features :=
    match s.layout with
    | .cards => stack "div" "grid gap-8 sm:grid-cols-2 lg:grid-cols-3"
        (s.features.map (card styles ("p-8 " ++ styles.card)))
    | .icons => stack "dl" "grid gap-x-8 gap-y-10 sm:grid-cols-2 lg:grid-cols-4"
        (s.features.map (card styles "flex flex-col items-center text-center"))
    | .alternating => stack "div" "space-y-20" (s.features.mapIdx (row styles))
  ⟨styles.sectionBackground, [heading styles s.title s.subtitle, features]⟩

end FeatureGrid

/-! ### Menu -/

namespace Menu

/-- The name of an item and its price, at the two ends of a line. -/
def nameAndPrice (styles : Styles) (item : MenuItem) : Draft :=
  element "div" [.classes "flex items-baseline justify-between gap-4"] .aligned [
    label "h4" ("font-semibold " ++ styles.heading) item.name,
    label "span" ("font-semibold " ++ styles.primaryText) item.price]

/-- The remarks on an item. -/
def tags (styles : Styles) (item : MenuItem) : List Draft :=
  if item.tags.isEmpty then []
  else [stack "div" "mt-2 flex flex-wrap gap-2" (item.tags.map (label "span" styles.badge))]

/-- An item of a list. -/
def listItem (styles : Styles) (item : MenuItem) : Draft :=
  stack "div" "py-3"
    (nameAndPrice styles item :: paragraph ("mt-1 text-sm " ++ styles.muted) item.description ++
      tags styles item)

/-- An item on a card. -/
def cardItem (styles : Styles) (item : MenuItem) : Draft :=
  stack "div" ("overflow-hidden " ++ styles.card)
    (picture? styles "h-48 w-full" item.imageDescription ++ [
      stack "div" "p-6"
        (nameAndPrice styles item :: paragraph ("mt-2 text-sm " ++ styles.body) item.description ++
          tags styles item)])

/-- An item in the elegant layout. -/
def elegantItem (styles : Styles) (item : MenuItem) : Draft :=
  bare "li"
    (inline "p" (styles.headingFont ++ " text-xl " ++ styles.heading) [
      text item.name, fixed " ",
      inline "span" styles.primaryText [fixed "&middot; ", text item.price]] ::
      paragraph ("mt-1 italic " ++ styles.muted) item.description)

/-- A group of items below its name. -/
def group (styles : Styles) (item : Styles → MenuItem → Draft) (category : MenuCategory) : Draft :=
  bare "div" [
    label "h3"
      ("mb-6 border-b pb-2 " ++ styles.headingFont ++ " text-2xl font-semibold " ++
        styles.heading ++ " " ++ styles.border) category.name,
    stack "div" "grid gap-6 md:grid-cols-2" (category.items.map (item styles))]

/-- A group that opens on demand; the first is open. -/
def tab (styles : Styles) (index : Nat) (category : MenuCategory) : Draft :=
  let classes := Attribute.classes ("group rounded-2xl border " ++ styles.border ++ " p-6")
  element "details" (if index == 0 then [classes, .flag "open"] else [classes]) .stacked [
    label "summary"
      ("cursor-pointer list-none " ++ styles.headingFont ++ " text-2xl font-semibold " ++
        styles.heading) category.name,
    stack "div" "mt-6 divide-y divide-gray-200/50" (category.items.map (listItem styles))]

/-- A group in the elegant layout. -/
def elegantGroup (styles : Styles) (category : MenuCategory) : Draft :=
  stack "div" "mx-auto max-w-3xl text-center" [
    label "h3"
      (styles.headingFont ++ " text-sm uppercase tracking-[0.3em] " ++ styles.primaryText)
      category.name,
    stack "ul" "mt-8 space-y-8" (category.items.map (elegantItem styles))]

/-- The draft of a menu. -/
def draft (setting : Setting) (s : Menu) : SectionDraft :=
  let styles := setting.styles
  let groups :=
    match s.layout with
    | .list => s.categories.map (group styles listItem)
    | .cards => s.categories.map (group styles cardItem)
    | .tabbed => s.categories.mapIdx (tab styles)
    | .elegant => s.categories.map (elegantGroup styles)
  ⟨styles.sectionBackground, [heading styles s.title s.subtitle, stack "div" "space-y-16" groups]⟩

end Menu

/-! ### Product grid -/

namespace ProductGrid

/-- The picture of a product. -/
def image (styles : Styles) (classes : String) (product : Product) : Draft :=
  picture styles classes
    ((Text.unlessBlank product.imageDescription).getD ("Product photo of " ++ product.name))

/-- Where a badge sits on the picture of a product. -/
def badgePlace : String := "absolute left-3 top-3 "

/-- The badge of a product, at a place. -/
def badge (styles : Styles) (place : String) (s : Option String) : List Draft :=
  ((Text.unlessBlank s).map (label "span" (place ++ styles.badge))).toList

/-- The badge of a product off its picture. Wherever its text names the place on the picture, the
name of the place is left out. -/
def looseBadge (styles : Styles) (s : Option String) : List Draft :=
  ((Text.unlessBlank s).map fun t =>
    label "span" styles.badge (Text.replaceAll badgePlace "" t)).toList

/-- The link to the details of a product. -/
def details (styles : Styles) (href : String) : Draft :=
  element "a"
    [.link "href" href,
      .classes ("mt-4 inline-block text-sm font-semibold " ++ styles.primaryText)] .inline
    [fixed "View details &rarr;"]

/-- A product on a card. -/
def card (styles : Styles) (imageClasses : String) (product : Product) : Draft :=
  stack "div" ("group overflow-hidden " ++ styles.card) [
    stack "div" "relative overflow-hidden"
      (image styles imageClasses product :: badge styles badgePlace product.badge),
    stack "div" "p-5"
      (label "h3" ("font-semibold " ++ styles.heading) product.name ::
        paragraph ("mt-1 text-sm " ++ styles.muted) product.description ++
        label "p" ("mt-3 text-lg font-bold " ++ styles.primaryText) product.price ::
        (product.href.map (details styles)).toList)]

/-- The product that leads the featured layout. -/
def lead (styles : Styles) (product : Product) : Draft :=
  stack "div" ("grid items-center gap-10 overflow-hidden lg:grid-cols-2 " ++ styles.card) [
    image styles "h-96 w-full" product,
    stack "div" "p-8"
      (looseBadge styles product.badge ++
        label "h3" ("mt-3 " ++ styles.headingFont ++ " text-3xl font-bold " ++ styles.heading)
          product.name ::
        paragraph ("mt-4 " ++ styles.body) product.description ++ [
        label "p" ("mt-6 text-2xl font-bold " ++ styles.primaryText) product.price,
        stack "div" "mt-8"
          [button styles.primaryButton ⟨"Shop now", product.href.getD "#contact"⟩]])]

/-- The products as a layout arranges them. -/
def arrangement (styles : Styles) (s : ProductGrid) : List Draft :=
  match s.layout with
  | .grid => [stack "div" "grid gap-8 sm:grid-cols-2 lg:grid-cols-4"
      (s.products.map (card styles "h-56 w-full"))]
  | .carousel => [stack "div" "-mx-6 flex snap-x snap-mandatory gap-6 overflow-x-auto px-6 pb-4"
      (s.products.map fun product =>
        stack "div" "w-72 flex-none snap-start" [card styles "h-64 w-full" product])]
  | .featured =>
    (s.products.take 1).map (lead styles) ++ [stack "div" "mt-12 grid gap-8 sm:grid-cols-3"
      ((s.products.drop 1).map (card styles "h-48 w-full"))]

/-- The draft of a product grid. -/
def draft (setting : Setting) (s : ProductGrid) : SectionDraft :=
  let styles := setting.styles
  ⟨styles.altBackground, heading styles s.title s.subtitle :: arrangement styles s⟩

end ProductGrid

/-! ### Pricing -/

namespace Pricing

/-- The time that a price covers, after a slash. -/
def period (tier : PricingTier) : List Draft :=
  ((Text.unlessBlank tier.period).map fun p =>
    text (String.ofList ('/' :: p.toList.dropWhile (· == '/')))).toList

/-- A check mark. -/
def check (styles : Styles) : Draft := inline "span" styles.primaryText [fixed "&#10003;"]

/-- A plan in a column of its own. -/
def column (styles : Styles) (tier : PricingTier) : Draft :=
  let frame :=
    if tier.highlighted then
      "relative p-8 ring-2 ring-" ++ styles.theme.primary.tag ++ "-500 " ++ styles.card
    else "relative p-8 " ++ styles.card
  let button := if tier.highlighted then styles.primaryButton else styles.secondaryButton
  let badge :=
    if tier.highlighted then
      [inline "span" ("absolute -top-3 left-8 " ++ styles.badge) [fixed "Most popular"]]
    else []
  stack "div" frame
    (badge ++ [
      label "h3" ("text-lg font-semibold " ++ styles.heading) tier.name,
      inline "p" "mt-4" [
        label "span" ("text-4xl font-bold " ++ styles.heading) tier.price,
        inline "span" styles.muted (period tier)]] ++
      (tier.description.map (label "p" ("mt-2 text-sm " ++ styles.muted))).toList ++ [
      stack "ul" "mt-6 space-y-3"
        (tier.features.map fun feature =>
          inline "li" ("flex gap-2 " ++ styles.body) [check styles, text feature]),
      element "a" [.fixed "href" "#contact", .classes ("mt-8 w-full " ++ button)] .inline
        [text (tier.ctaText.getD "Get started")]])

/-- The features of all plans, each once, in the order in which they first appear. -/
def allFeatures (tiers : List PricingTier) : List String :=
  (tiers.flatMap (·.features)).foldl
    (fun seen feature => if seen.contains feature then seen else seen ++ [feature]) []

/-- The heading of a plan in the comparison. -/
def comparisonHeading (styles : Styles) (tier : PricingTier) : Draft :=
  inline "th" ("p-4 text-center " ++ styles.heading) [
    text tier.name,
    inline "div" "text-2xl font-bold" (text tier.price :: period tier)]

/-- Whether a plan includes a feature, as a cell of the comparison. -/
def comparisonCell (styles : Styles) (feature : String) (tier : PricingTier) : Draft :=
  let mark :=
    if tier.features.contains feature then check styles
    else inline "span" styles.muted [fixed "&mdash;"]
  inline "td" "p-4 text-center" [mark]

/-- A row of the comparison. -/
def comparisonRow (styles : Styles) (tiers : List PricingTier) (feature : String) : Draft :=
  stack "tr" ("border-t " ++ styles.border)
    (label "td" ("p-4 " ++ styles.body) feature :: tiers.map (comparisonCell styles feature))

/-- All plans side by side in a table. -/
def comparison (styles : Styles) (tiers : List PricingTier) : Draft :=
  stack "div" "overflow-x-auto" [
    stack "table" "w-full text-sm" [
      bare "thead" [
        bare "tr"
          (void "th" [.classes "p-4 text-left"] :: tiers.map (comparisonHeading styles))],
      bare "tbody" ((allFeatures tiers).map (comparisonRow styles tiers))]]

/-- A plan on one line. -/
def line (styles : Styles) (tier : PricingTier) : Draft :=
  element "div" [.classes "flex items-center justify-between gap-6 p-6"] .aligned [
    element "div" [] .aligned [
      label "h3" ("font-semibold " ++ styles.heading) tier.name,
      label "p" ("text-sm " ++ styles.muted) (tier.description.getD "")],
    element "div" [.classes "text-right"] .aligned [
      label "span" ("text-2xl font-bold " ++ styles.heading) tier.price,
      inline "span" ("text-sm " ++ styles.muted) (period tier)]]

/-- The draft of a price table. -/
def draft (setting : Setting) (s : Pricing) : SectionDraft :=
  let styles := setting.styles
  let tiers :=
    match s.layout with
    | .columns => stack "div" "grid gap-8 lg:grid-cols-3" (s.tiers.map (column styles))
    | .comparison => comparison styles s.tiers
    | .compact =>
      stack "div" ("mx-auto max-w-3xl divide-y " ++ styles.border ++ " " ++ styles.card)
        (s.tiers.map (line styles))
  ⟨styles.sectionBackground, [heading styles s.title s.subtitle, tiers]⟩

end Pricing

end Sitewright
