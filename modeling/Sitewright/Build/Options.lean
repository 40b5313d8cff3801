import Sitewright.Codec.Record

/-!
# Build options

What a compilation can be told besides the configuration of the site. Every option has a default, so
options can be given as an empty record.
-/

namespace Sitewright

open Codec

/-! ### Packages -/

/-- The versions of the packages that a generated project depends on. -/
structure Packages where
  /-- The application framework. -/
  next : String
  /-- The user interface library. -/
  react : String
  /-- The type checker. -/
  typescript : String
  /-- The style classes. -/
  tailwindcss : String
  /-- The style sheet pipeline. -/
  postcss : String
  /-- The vendor prefixes of style sheets. -/
  autoprefixer : String
  deriving DecidableEq

namespace Packages

/-- The versions that are used if no others are named. -/
def default : Packages where
  next := "14.2.5"
  react := "^18.3.1"
  typescript := "^5"
  tailwindcss := "^3.4.1"
  postcss := "^8"
  autoprefixer := "^10.4.19"

/-- A field that holds a version. -/
def version (name : String) (get : Packages → String) : Fields Packages String :=
  fieldOr name "" get text (get default)

/-- The written form of `Packages`. -/
def codec : Codec Packages :=
  record "PackageVersions" "Package versions for the generated project" <|
    Packages.mk <$> version "next" (·.next)
      <*> version "react" (·.react)
      <*> version "typescript" (·.typescript)
      <*> version "tailwindcss" (·.tailwindcss)
      <*> version "postcss" (·.postcss)
      <*> version "autoprefixer" (·.autoprefixer)

/-- What a project needs when it runs, in the order of its manifest. -/
def dependencies (packages : Packages) : List (String × String) :=
  [("next", packages.next), ("react", packages.react), ("react-dom", packages.react)]

/-- What a project needs when it is built, in the order of its manifest. -/
def devDependencies (packages : Packages) : List (String × String) :=
  [("@types/node", "^20"), ("@types/react", "^18"), ("@types/react-dom", "^18"),
    ("autoprefixer", packages.autoprefixer), ("postcss", packages.postcss),
    ("tailwindcss", packages.tailwindcss), ("typescript", packages.typescript)]

end Packages

/-! ### Options -/

/-- The options of a compilation. -/
structure BuildOptions where
  /-- How many requests become pictures. -/
  imageCap : Nat
  /-- How many pictures may be asked for at a time. Answers are taken in the order of the requests,
  so nothing that is built depends on it. -/
  imageConcurrency : Nat
  /-- What a picture shows of which nothing is known. -/
  fallbackDescription : String
  /-- The packages of the generated project. -/
  packages : Packages
  deriving DecidableEq

namespace BuildOptions

/-- The options that are used if no others are named. -/
def default : BuildOptions where
  imageCap := 6
  imageConcurrency := 4
  fallbackDescription := "A professional abstract background image"
  packages := Packages.default

/-- The written form of `BuildOptions`. -/
def codec : Codec BuildOptions :=
  record "CompilerOptions" "Compiler configuration" <|
    BuildOptions.mk <$> fieldOr "image_cap" "" (·.imageCap) count default.imageCap
      <*> fieldOr "image_concurrency" "" (·.imageConcurrency) count default.imageConcurrency
      <*> fieldOr "fallback_image_description" "" (·.fallbackDescription) text
        default.fallbackDescription
      <*> fieldOr "packages" "" (·.packages) Packages.codec default.packages

end BuildOptions

end Sitewright
