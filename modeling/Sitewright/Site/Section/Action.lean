import Sitewright.Site.Links

/-!
# Calls to action

The sections that ask something of a visitor: to act, to get in touch, to subscribe.
-/

namespace Sitewright

/-! ### Banner -/

/-- The layouts of a banner. -/
inductive CtaBanner.Layout where
  | centered | split | gradient
  deriving DecidableEq

namespace CtaBanner.Layout

/-- Every layout, the default first. -/
def all : List CtaBanner.Layout := [.centered, .split, .gradient]

/-- The name of a layout in configurations. -/
def tag : CtaBanner.Layout → String
  | .centered => "centered"
  | .split => "split"
  | .gradient => "gradient"

/-- Layouts are written by their tags. -/
def codec : Codec CtaBanner.Layout :=
  .choice "CtaBannerVariant"
    (Codec.tagsDefinition "Layouts for [`CtaBannerSection`]" (all.map tag)) all tag

end CtaBanner.Layout

/-- A banner that calls to action. -/
structure CtaBanner where
  /-- How the section is laid out. -/
  layout : CtaBanner.Layout
  /-- The call. -/
  headline : String
  /-- The line below it. -/
  subheadline : Option String
  /-- The button. -/
  cta : CtaLink
  deriving DecidableEq

open Codec in
/-- The written form of `CtaBanner`. -/
def CtaBanner.codec : Codec CtaBanner :=
  record "CtaBannerSection" "Call-to-action banner" <|
    CtaBanner.mk <$> fieldOr "variant" "" (·.layout) Layout.codec .centered
      <*> textField "headline" (·.headline)
      <*> optionalText "subheadline" (·.subheadline)
      <*> field "cta" "" (·.cta) CtaLink.codec

/-! ### Contact -/

/-- The layouts of contact details. -/
inductive Contact.Layout where
  | form | split | cards
  deriving DecidableEq

namespace Contact.Layout

/-- Every layout, the default first. -/
def all : List Contact.Layout := [.form, .split, .cards]

/-- The name of a layout in configurations. -/
def tag : Contact.Layout → String
  | .form => "form"
  | .split => "split"
  | .cards => "cards"

/-- Layouts are written by their tags. -/
def codec : Codec Contact.Layout :=
  .choice "ContactVariant"
    (Codec.tagsDefinition "Layouts for [`ContactSection`]" (all.map tag)) all tag

end Contact.Layout

/-- How to reach a business. Details that are absent are those of the business itself. -/
structure Contact where
  /-- How the section is laid out. -/
  layout : Contact.Layout
  /-- The title above the section. -/
  title : String
  /-- The line below the title. -/
  subtitle : Option String
  /-- The mail address. -/
  email : Option String
  /-- The phone number. -/
  phone : Option String
  /-- The street address. -/
  address : Option String
  /-- The opening hours. -/
  hours : Option String
  deriving DecidableEq

open Codec in
/-- The written form of `Contact`. -/
def Contact.codec : Codec Contact :=
  record "ContactSection" ("Contact block\n\nMissing fields fall back to the business contact " ++
    "details at render time.") <|
    Contact.mk <$> fieldOr "variant" "" (·.layout) Layout.codec .form
      <*> textFieldOrEmpty "title" (·.title)
      <*> optionalText "subtitle" (·.subtitle)
      <*> optionalText "email" (·.email)
      <*> optionalText "phone" (·.phone)
      <*> optionalText "address" (·.address)
      <*> optionalText "hours" (·.hours)

/-! ### Newsletter -/

/-- The layouts of a newsletter form. -/
inductive Newsletter.Layout where
  | inline | card | banner
  deriving DecidableEq

namespace Newsletter.Layout

/-- Every layout, the default first. -/
def all : List Newsletter.Layout := [.inline, .card, .banner]

/-- The name of a layout in configurations. -/
def tag : Newsletter.Layout → String
  | .inline => "inline"
  | .card => "card"
  | .banner => "banner"

/-- Layouts are written by their tags. -/
def codec : Codec Newsletter.Layout :=
  .choice "NewsletterVariant"
    (Codec.tagsDefinition "Layouts for [`NewsletterSection`]" (all.map tag)) all tag

end Newsletter.Layout

/-- A form to subscribe to a newsletter. -/
structure Newsletter where
  /-- How the section is laid out. -/
  layout : Newsletter.Layout
  /-- The title above the section. -/
  title : String
  /-- The line below the title. -/
  subtitle : Option String
  /-- What stands in the empty input. -/
  placeholder : Option String
  /-- The text on the button. -/
  buttonText : Option String
  deriving DecidableEq

open Codec in
/-- The written form of `Newsletter`. -/
def Newsletter.codec : Codec Newsletter :=
  record "NewsletterSection" "Newsletter signup" <|
    Newsletter.mk <$> fieldOr "variant" "" (·.layout) Layout.codec .inline
      <*> textFieldOrEmpty "title" (·.title)
      <*> optionalText "subtitle" (·.subtitle)
      <*> optionalText "placeholder" (·.placeholder)
      <*> optionalText "buttonText" (·.buttonText)

end Sitewright
