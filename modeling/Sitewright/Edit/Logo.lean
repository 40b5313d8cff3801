import Sitewright.Edit.Classification
import Sitewright.Site.Config

/-!
# Setting the logo

An edit that only sets the logo needs one address. It is taken from the text of the edit, or else
from a picture that comes with it, and put into the configuration; nothing else changes.
-/

namespace Sitewright

namespace Logo

/-- Whether a character ends an address in a text. -/
def endsAddress (c : Char) : Bool :=
  Text.isSpace c || ['"', '\'', '<', '>', '(', ')', '[', ']', '\x7b', '\x7d'].contains c

/-- Whether a character at the end of an address belongs to the sentence around it. -/
def isPunctuation (c : Char) : Bool := ['.', ',', ';', ':', '!', '?'].contains c

/-- The ways an address can start. -/
def schemes : List (List Char) := ["https://".toList, "http://".toList]

/-- The address that the characters start with, up to where it ends. -/
def addressAt? (cs : List Char) : Option (List Char) :=
  schemes.findSome? fun scheme =>
    (Text.afterPhrase? scheme cs).bind fun rest =>
      let body := rest.takeWhile fun c => !endsAddress c
      if body.isEmpty then none else some (scheme ++ body)

/-- The first address in a text. -/
def firstAddress? : List Char → Option (List Char)
  | [] => none
  | c :: cs => (addressAt? (c :: cs)).or (firstAddress? cs)

/-- The first address in a text without the punctuation at its end, if enough of it is left. -/
def urlIn? (s : String) : Option String :=
  (firstAddress? s.toList).bind fun cs =>
    let url := String.ofList (Text.trimEndWhile isPunctuation cs)
    if "https://".utf8ByteSize < url.utf8ByteSize then some url else none

/-- The address of the logo that an edit brings: from its text, or else from its first picture. -/
def url? (s : String) (uploads : List Upload) : Option String :=
  (urlIn? s).or
    ((uploads.find? fun upload => upload.isImage && !Text.isBlank upload.url).map (·.url))

end Logo

/-- The configuration with a logo. -/
def SiteConfig.withLogo (config : SiteConfig) (url : String) : SiteConfig :=
  { config with business := { config.business with logoUrl := some url } }

end Sitewright
