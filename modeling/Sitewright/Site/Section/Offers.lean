import Sitewright.Site.Links

/-!
# Offers

The sections that show what a business offers: features, dishes, products and plans.
-/

namespace Sitewright

/-! ### Feature grid -/

/-- The layouts of a feature grid. -/
inductive FeatureGrid.Layout where
  | cards | icons | alternating
  deriving DecidableEq

namespace FeatureGrid.Layout

/-- Every layout, the default first. -/
def all : List FeatureGrid.Layout := [.cards, .icons, .alternating]

/-- The name of a layout in configurations. -/
def tag : FeatureGrid.Layout → String
  | .cards => "cards"
  | .icons => "icons"
  | .alternating => "alternating"

/-- Layouts are written by their tags. -/
def codec : Codec FeatureGrid.Layout :=
  .choice "FeatureGridVariant"
    (Codec.tagsDefinition "Layouts for [`FeatureGridSection`]" (all.map tag)) all tag

end FeatureGrid.Layout

/-- One feature of what is offered. -/
structure Feature where
  /-- The name of the feature. -/
  title : String
  /-- What it does. -/
  description : String
  /-- A short glyph shown above the name. -/
  icon : Option String
  deriving DecidableEq

open Codec in
/-- The written form of `Feature`. -/
def Feature.codec : Codec Feature :=
  record "Feature" "One feature card" <|
    Feature.mk <$> textField "title" (·.title)
      <*> textField "description" (·.description)
      <*> fieldOr "icon" "Short glyph or emoji shown above the title" (·.icon) (nullable text) none

/-- A grid of features. -/
structure FeatureGrid where
  /-- How the section is laid out. -/
  layout : FeatureGrid.Layout
  /-- The title above the section. -/
  title : String
  /-- The line below the title. -/
  subtitle : Option String
  /-- The features, in display order. -/
  features : List Feature
  deriving DecidableEq

open Codec in
/-- The written form of `FeatureGrid`. -/
def FeatureGrid.codec : Codec FeatureGrid :=
  record "FeatureGridSection" "Feature grid" <|
    FeatureGrid.mk <$> fieldOr "variant" "" (·.layout) Layout.codec .cards
      <*> textFieldOrEmpty "title" (·.title)
      <*> optionalText "subtitle" (·.subtitle)
      <*> listField "features" (·.features) Feature.codec

/-! ### Menu -/

/-- The layouts of a menu. -/
inductive Menu.Layout where
  | list | cards | tabbed | elegant
  deriving DecidableEq

namespace Menu.Layout

/-- Every layout, the default first. -/
def all : List Menu.Layout := [.list, .cards, .tabbed, .elegant]

/-- The name of a layout in configurations. -/
def tag : Menu.Layout → String
  | .list => "list"
  | .cards => "cards"
  | .tabbed => "tabbed"
  | .elegant => "elegant"

/-- Layouts are written by their tags. -/
def codec : Codec Menu.Layout :=
  .choice "MenuVariant"
    (Codec.tagsDefinition "Layouts for [`MenuSection`]" (all.map tag)) all tag

end Menu.Layout

/-- One dish or drink. -/
structure MenuItem where
  /-- Its name. -/
  name : String
  /-- What it is made of. -/
  description : Option String
  /-- What it costs. -/
  price : String
  /-- Short remarks. -/
  tags : List String
  /-- What a picture of it shows. -/
  imageDescription : Option String
  deriving DecidableEq

open Codec in
/-- The written form of `MenuItem`. -/
def MenuItem.codec : Codec MenuItem :=
  record "MenuItem" "One dish or drink" <|
    MenuItem.mk <$> textField "name" (·.name)
      <*> optionalText "description" (·.description)
      <*> textField "price" (·.price)
      <*> listField "tags" (·.tags) text
      <*> optionalText "imageDescription" (·.imageDescription)

/-- A named group of dishes or drinks. -/
structure MenuCategory where
  /-- The name of the group. -/
  name : String
  /-- Its items, in display order. -/
  items : List MenuItem
  deriving DecidableEq

open Codec in
/-- The written form of `MenuCategory`. -/
def MenuCategory.codec : Codec MenuCategory :=
  record "MenuCategory" "Named group of menu items" <|
    MenuCategory.mk <$> textField "name" (·.name)
      <*> listField "items" (·.items) MenuItem.codec

/-- The menu of a restaurant. -/
structure Menu where
  /-- How the section is laid out. -/
  layout : Menu.Layout
  /-- The title above the section. -/
  title : String
  /-- The line below the title. -/
  subtitle : Option String
  /-- The groups, in display order. -/
  categories : List MenuCategory
  deriving DecidableEq

open Codec in
/-- The written form of `Menu`. -/
def Menu.codec : Codec Menu :=
  record "MenuSection" "Restaurant or cafe menu" <|
    Menu.mk <$> fieldOr "variant" "" (·.layout) Layout.codec .list
      <*> textFieldOrEmpty "title" (·.title)
      <*> optionalText "subtitle" (·.subtitle)
      <*> listField "categories" (·.categories) MenuCategory.codec

/-! ### Product grid -/

/-- The layouts of a product grid. -/
inductive ProductGrid.Layout where
  | grid | carousel | featured
  deriving DecidableEq

namespace ProductGrid.Layout

/-- Every layout, the default first. -/
def all : List ProductGrid.Layout := [.grid, .carousel, .featured]

/-- The name of a layout in configurations. -/
def tag : ProductGrid.Layout → String
  | .grid => "grid"
  | .carousel => "carousel"
  | .featured => "featured"

/-- Layouts are written by their tags. -/
def codec : Codec ProductGrid.Layout :=
  .choice "ProductGridVariant"
    (Codec.tagsDefinition "Layouts for [`ProductGridSection`]" (all.map tag)) all tag

end ProductGrid.Layout

/-- One product. -/
structure Product where
  /-- Its name. -/
  name : String
  /-- What it is. -/
  description : Option String
  /-- What it costs. -/
  price : String
  /-- What a picture of it shows. -/
  imageDescription : Option String
  /-- A remark on its picture. -/
  badge : Option String
  /-- Where its details are. -/
  href : Option String
  deriving DecidableEq

open Codec in
/-- The written form of `Product`. -/
def Product.codec : Codec Product :=
  record "Product" "One product card" <|
    Product.mk <$> textField "name" (·.name)
      <*> optionalText "description" (·.description)
      <*> textField "price" (·.price)
      <*> optionalText "imageDescription" (·.imageDescription)
      <*> optionalText "badge" (·.badge)
      <*> optionalText "href" (·.href)

/-- A grid of products. -/
structure ProductGrid where
  /-- How the section is laid out. -/
  layout : ProductGrid.Layout
  /-- The title above the section. -/
  title : String
  /-- The line below the title. -/
  subtitle : Option String
  /-- The products, in display order. -/
  products : List Product
  deriving DecidableEq

open Codec in
/-- The written form of `ProductGrid`. -/
def ProductGrid.codec : Codec ProductGrid :=
  record "ProductGridSection" "Product grid" <|
    ProductGrid.mk <$> fieldOr "variant" "" (·.layout) Layout.codec .grid
      <*> textFieldOrEmpty "title" (·.title)
      <*> optionalText "subtitle" (·.subtitle)
      <*> listField "products" (·.products) Product.codec

/-! ### Pricing -/

/-- The layouts of a price table. -/
inductive Pricing.Layout where
  | columns | comparison | compact
  deriving DecidableEq

namespace Pricing.Layout

/-- Every layout, the default first. -/
def all : List Pricing.Layout := [.columns, .comparison, .compact]

/-- The name of a layout in configurations. -/
def tag : Pricing.Layout → String
  | .columns => "columns"
  | .comparison => "comparison"
  | .compact => "compact"

/-- Layouts are written by their tags. -/
def codec : Codec Pricing.Layout :=
  .choice "PricingVariant"
    (Codec.tagsDefinition "Layouts for [`PricingSection`]" (all.map tag)) all tag

end Pricing.Layout

/-- One plan of a price table. -/
structure PricingTier where
  /-- Its name. -/
  name : String
  /-- What it costs. -/
  price : String
  /-- The time that the price covers. -/
  period : Option String
  /-- Whom it is for. -/
  description : Option String
  /-- What it includes. -/
  features : List String
  /-- Whether it is set off from the others. -/
  highlighted : Bool
  /-- The text on its button. -/
  ctaText : Option String
  deriving DecidableEq

open Codec in
/-- The written form of `PricingTier`. -/
def PricingTier.codec : Codec PricingTier :=
  record "PricingTier" "One pricing plan" <|
    PricingTier.mk <$> textField "name" (·.name)
      <*> textField "price" (·.price)
      <*> optionalText "period" (·.period)
      <*> optionalText "description" (·.description)
      <*> listField "features" (·.features) text
      <*> fieldOr "highlighted" "" (·.highlighted) truth false
      <*> optionalText "ctaText" (·.ctaText)

/-- A price table. -/
structure Pricing where
  /-- How the section is laid out. -/
  layout : Pricing.Layout
  /-- The title above the section. -/
  title : String
  /-- The line below the title. -/
  subtitle : Option String
  /-- The plans, in display order. -/
  tiers : List PricingTier
  deriving DecidableEq

open Codec in
/-- The written form of `Pricing`. -/
def Pricing.codec : Codec Pricing :=
  record "PricingSection" "Pricing table" <|
    Pricing.mk <$> fieldOr "variant" "" (·.layout) Layout.codec .columns
      <*> textFieldOrEmpty "title" (·.title)
      <*> optionalText "subtitle" (·.subtitle)
      <*> listField "tiers" (·.tiers) PricingTier.codec

end Sitewright
