import Sitewright.Text.Class
import Sitewright.Text.Lower
import Sitewright.Text.Words

/-!
# The words of an edit

Edits are free text. What matters of it are its words in lower case, and which phrases they form: a
phrase occurs if its words stand side by side. Words are made of letters and digits of every script,
so punctuation neither joins nor hides them.
-/

namespace Sitewright

/-- The words of a text, in lower case. -/
structure EditWords where
  /-- The words. -/
  words : List (List Char)
  deriving DecidableEq

namespace EditWords

/-- The words of a text. -/
def ofText (s : String) : EditWords :=
  ⟨(Text.wordsOf Text.isAlphanumeric s.toList).map Text.lowerChars⟩

/-- The words with one space between neighbours. -/
def joined (text : EditWords) : List Char := List.intercalate [' '] text.words

/-- The words with a space before and after each. -/
def padded (text : EditWords) : List Char := ' ' :: text.joined ++ [' ']

/-- Whether a word occurs. -/
def hasWord (text : EditWords) (word : String) : Bool := text.words.contains word.toList

/-- Whether one of several words occurs. -/
def hasAny (text : EditWords) (words : List String) : Bool := words.any text.hasWord

/-- Whether a phrase occurs: its words, with one space between them, stand in the text with a space
before and after. -/
def hasPhrase (text : EditWords) (phrase : String) : Bool :=
  Text.occursIn (' ' :: phrase.toList ++ [' ']) text.padded

end EditWords

end Sitewright
