import Sitewright.Codec.Record

/-!
# Links

The links that a configuration holds: buttons that call to action, entries of a navigation bar or a
footer column, and profiles on social platforms.
-/

namespace Sitewright

/-- A link shown as a button. -/
structure CtaLink where
  /-- The text on the button. -/
  text : String
  /-- Where it leads. -/
  href : String
  deriving DecidableEq

/-- A link of a navigation bar or a footer column. -/
structure NavLink where
  /-- The text of the link. -/
  label : String
  /-- Where it leads. -/
  href : String
  deriving DecidableEq

/-- A link to a profile on a social platform. -/
structure SocialLink where
  /-- The name of the platform. -/
  platform : String
  /-- Where the profile is. -/
  url : String
  deriving DecidableEq

open Codec

/-- Buttons are records. -/
def CtaLink.codec : Codec CtaLink :=
  record "CtaLink" "Link with label" <|
    CtaLink.mk <$> textField "text" (·.text) <*> textField "href" (·.href)

/-- Navigation links are records. -/
def NavLink.codec : Codec NavLink :=
  record "NavLink" "Navigation link" <|
    NavLink.mk <$> textField "label" (·.label) <*> textField "href" (·.href)

/-- Profile links are records. -/
def SocialLink.codec : Codec SocialLink :=
  record "SocialLink" "Social profile link" <|
    SocialLink.mk <$> textField "platform" (·.platform) <*> textField "url" (·.url)

end Sitewright
