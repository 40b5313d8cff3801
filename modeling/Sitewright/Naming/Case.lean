import Sitewright.Text.Words

/-!
# Case

The three spellings of a name: joined words with capitals for components, words with hyphens for
anchors, and a lower-case slug for packages. Letters and digits are those of ASCII; everything else
only separates words.
-/

namespace Sitewright.Naming

/-- A word with a capital first letter. -/
def capitalized : List Char → List Char
  | [] => []
  | c :: cs => c.toUpper :: cs

/-- The characters of a name in joined words with capitals. Capitals inside a word stay. -/
def pascalChars (cs : List Char) : List Char :=
  ((Text.wordsOf Char.isAlphanum cs).map capitalized).flatten

/-- A name in joined words with capitals. -/
def pascalCase (s : String) : String := String.ofList (pascalChars s.toList)

/-- The characters of a name in lower case with a hyphen before each capital. `first` tells whether
nothing has been read yet, and `last` is the last character written. -/
def kebabFrom (first : Bool) (last : Option Char) : List Char → List Char
  | [] => []
  | c :: cs =>
    if c.isUpper then
      (if first then [] else ['-']) ++ c.toLower :: kebabFrom false (some c.toLower) cs
    else if c.isAlphanum then c :: kebabFrom false (some c) cs
    else if last == none || last == some '-' then kebabFrom false last cs
    else '-' :: kebabFrom false (some '-') cs

/-- A name in lower case with a hyphen before each capital but the first character, and one for
other separators. -/
def kebabCase (s : String) : String := String.ofList (kebabFrom true none s.toList)

/-- The name of the package of a business: its words in lower case with hyphens between them. -/
def packageName (business : String) : String :=
  let words := Text.wordsOf Char.isAlphanum business.toList
  if words.isEmpty then "site" else String.ofList ((Text.hyphenated words).map Char.toLower)

end Sitewright.Naming
