import Sitewright.Site.Links

/-!
# People

The sections that show who is behind a business and who trusts it: quotes, team and partners.
-/

namespace Sitewright

/-! ### Testimonials -/

/-- The layouts of customer quotes. -/
inductive Testimonials.Layout where
  | cards | carousel | quote
  deriving DecidableEq

namespace Testimonials.Layout

/-- Every layout, the default first. -/
def all : List Testimonials.Layout := [.cards, .carousel, .quote]

/-- The name of a layout in configurations. -/
def tag : Testimonials.Layout → String
  | .cards => "cards"
  | .carousel => "carousel"
  | .quote => "quote"

/-- Layouts are written by their tags. -/
def codec : Codec Testimonials.Layout :=
  .choice "TestimonialsVariant"
    (Codec.tagsDefinition "Layouts for [`TestimonialsSection`]" (all.map tag)) all tag

end Testimonials.Layout

/-- What one customer said. -/
structure Testimonial where
  /-- The words. -/
  quote : String
  /-- Who said them. -/
  author : String
  /-- What the author does. -/
  role : Option String
  /-- One to five stars. -/
  rating : Option (Fin UInt8.size)
  deriving DecidableEq

open Codec in
/-- The written form of `Testimonial`. -/
def Testimonial.codec : Codec Testimonial :=
  record "Testimonial" "One customer quote" <|
    Testimonial.mk <$> textField "quote" (·.quote)
      <*> textField "author" (·.author)
      <*> optionalText "role" (·.role)
      <*> fieldOr "rating" "1 to 5 stars" (·.rating) (nullable byte) none

/-- Customer quotes. -/
structure Testimonials where
  /-- How the section is laid out. -/
  layout : Testimonials.Layout
  /-- The title above the section. -/
  title : String
  /-- The line below the title. -/
  subtitle : Option String
  /-- The quotes, in display order. -/
  testimonials : List Testimonial
  deriving DecidableEq

open Codec in
/-- The written form of `Testimonials`. -/
def Testimonials.codec : Codec Testimonials :=
  record "TestimonialsSection" "Testimonials" <|
    Testimonials.mk <$> fieldOr "variant" "" (·.layout) Layout.codec .cards
      <*> textFieldOrEmpty "title" (·.title)
      <*> optionalText "subtitle" (·.subtitle)
      <*> listField "testimonials" (·.testimonials) Testimonial.codec

/-! ### Team -/

/-- The layouts of a team. -/
inductive Team.Layout where
  | grid | list | cards
  deriving DecidableEq

namespace Team.Layout

/-- Every layout, the default first. -/
def all : List Team.Layout := [.grid, .list, .cards]

/-- The name of a layout in configurations. -/
def tag : Team.Layout → String
  | .grid => "grid"
  | .list => "list"
  | .cards => "cards"

/-- Layouts are written by their tags. -/
def codec : Codec Team.Layout :=
  .choice "TeamVariant"
    (Codec.tagsDefinition "Layouts for [`TeamSection`]" (all.map tag)) all tag

end Team.Layout

/-- One person of a team. -/
structure TeamMember where
  /-- The name. -/
  name : String
  /-- What the person does. -/
  role : String
  /-- A few words about the person. -/
  bio : Option String
  /-- What a portrait shows. -/
  imageDescription : Option String
  deriving DecidableEq

open Codec in
/-- The written form of `TeamMember`. -/
def TeamMember.codec : Codec TeamMember :=
  record "TeamMember" "One person" <|
    TeamMember.mk <$> textField "name" (·.name)
      <*> textField "role" (·.role)
      <*> optionalText "bio" (·.bio)
      <*> optionalText "imageDescription" (·.imageDescription)

/-- The people behind a business. -/
structure Team where
  /-- How the section is laid out. -/
  layout : Team.Layout
  /-- The title above the section. -/
  title : String
  /-- The line below the title. -/
  subtitle : Option String
  /-- The people, in display order. -/
  members : List TeamMember
  deriving DecidableEq

open Codec in
/-- The written form of `Team`. -/
def Team.codec : Codec Team :=
  record "TeamSection" "Team" <|
    Team.mk <$> fieldOr "variant" "" (·.layout) Layout.codec .grid
      <*> textFieldOrEmpty "title" (·.title)
      <*> optionalText "subtitle" (·.subtitle)
      <*> listField "members" (·.members) TeamMember.codec

/-! ### Logo cloud -/

/-- The layouts of partner logos. -/
inductive LogoCloud.Layout where
  | row | grid | marquee
  deriving DecidableEq

namespace LogoCloud.Layout

/-- Every layout, the default first. -/
def all : List LogoCloud.Layout := [.row, .grid, .marquee]

/-- The name of a layout in configurations. -/
def tag : LogoCloud.Layout → String
  | .row => "row"
  | .grid => "grid"
  | .marquee => "marquee"

/-- Layouts are written by their tags. -/
def codec : Codec LogoCloud.Layout :=
  .choice "LogoCloudVariant"
    (Codec.tagsDefinition "Layouts for [`LogoCloudSection`]" (all.map tag)) all tag

end LogoCloud.Layout

/-- One partner or client. -/
structure Logo where
  /-- The name. -/
  name : String
  /-- Where the logo is. -/
  imageUrl : Option String
  deriving DecidableEq

open Codec in
/-- The written form of `Logo`. -/
def Logo.codec : Codec Logo :=
  record "Logo" "One partner or client" <|
    Logo.mk <$> textField "name" (·.name)
      <*> optionalText "imageUrl" (·.imageUrl)

/-- The logos of partners and clients. -/
structure LogoCloud where
  /-- How the section is laid out. -/
  layout : LogoCloud.Layout
  /-- The title above the section. -/
  title : Option String
  /-- The logos, in display order. -/
  logos : List Logo
  deriving DecidableEq

open Codec in
/-- The written form of `LogoCloud`. -/
def LogoCloud.codec : Codec LogoCloud :=
  record "LogoCloudSection" "Partner / client logos" <|
    LogoCloud.mk <$> fieldOr "variant" "" (·.layout) Layout.codec .row
      <*> optionalText "title" (·.title)
      <*> listField "logos" (·.logos) Logo.codec

end Sitewright
