import Sitewright.Site.Links

/-!
# Custom sections

The section kind whose source text is part of the configuration.
-/

namespace Sitewright

/-- The only layout of a custom section, which carries its own. -/
inductive Custom.Layout where
  | own
  deriving DecidableEq

namespace Custom.Layout

/-- Every layout, the default first. -/
def all : List Custom.Layout := [.own]

/-- The name of a layout in configurations. -/
def tag : Custom.Layout → String
  | .own => "default"

/-- Layouts are written by their tags. -/
def codec : Codec Custom.Layout :=
  .choice "CustomVariant"
    (Codec.tagsDefinition "Custom sections carry their own layout" (all.map tag)) all tag

end Custom.Layout

/-- A component written by somebody else. Its code is taken as it is. -/
structure Custom where
  /-- How the section is laid out. -/
  layout : Custom.Layout
  /-- What the component is called. -/
  componentName : String
  /-- Its source text. -/
  code : String
  deriving DecidableEq

open Codec in
/-- The written form of `Custom`. -/
def Custom.codec : Codec Custom :=
  record "CustomSection" ("Externally generated component\n\n`code` has already passed the " ++
    "custom-section validator: it is non-empty and has a default export. The compiler does not " ++
    "check again.") <|
    Custom.mk <$> fieldOr "variant" "" (·.layout) Layout.codec .own
      <*> textField "componentName" (·.componentName)
      <*> textField "code" (·.code)

end Sitewright
