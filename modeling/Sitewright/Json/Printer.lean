import Sitewright.Json.Basic
import Sitewright.Text.Quoted

/-!
# Printed JSON

Two written forms of a value: compact, without any white space, and laid out, with one entry or item
to a line and two spaces of indentation for each level. Empty lists and objects are written on one
line in both. Inside a text the quote, the backslash and the controls below the space are escaped;
everything else is written as it is.
-/

namespace Sitewright.Json

/-- One character of a text between double quotes. -/
def escapeChar (c : Char) : List Char :=
  match c with
  | '"' => ['\\', '"']
  | '\\' => ['\\', '\\']
  | '\n' => ['\\', 'n']
  | '\r' => ['\\', 'r']
  | '\t' => ['\\', 't']
  | c =>
    if c.toNat == 8 then ['\\', 'b']
    else if c.toNat == 12 then ['\\', 'f']
    else if c.toNat < 32 then ['\\', 'u'] ++ Text.hexFixed 4 c.toNat
    else [c]

/-- A text between double quotes. -/
def printText (s : String) : String :=
  String.ofList ('"' :: s.toList.flatMap escapeChar ++ ['"'])

mutual

/-- A value without white space. -/
def compact : Json → String
  | null => "null"
  | bool b => if b then "true" else "false"
  | num n => n.text
  | str s => printText s
  | arr items => "[" ++ compactItems true items ++ "]"
  | obj entries => "\x7b" ++ compactEntries true entries ++ "\x7d"

/-- The items of a list, each after the first with a comma before it. -/
def compactItems : Bool → List Json → String
  | _, [] => ""
  | first, v :: rest => (if first then "" else ",") ++ v.compact ++ compactItems false rest

/-- The entries of an object, each after the first with a comma before it. -/
def compactEntries : Bool → List (String × Json) → String
  | _, [] => ""
  | first, (k, v) :: rest =>
    (if first then "" else ",") ++ printText k ++ ":" ++ v.compact ++ compactEntries false rest

end

/-- The start of a line at a level of nesting. -/
def newLine (level : Nat) : String :=
  String.ofList ('\n' :: List.replicate (2 * level) ' ')

mutual

/-- A value at a level of nesting, one entry or item to a line. -/
def prettyAt (level : Nat) : Json → String
  | null => "null"
  | bool b => if b then "true" else "false"
  | num n => n.text
  | str s => printText s
  | arr [] => "[]"
  | arr items => "[" ++ prettyItems (level + 1) true items ++ newLine level ++ "]"
  | obj [] => "\x7b\x7d"
  | obj entries => "\x7b" ++ prettyEntries (level + 1) true entries ++ newLine level ++ "\x7d"

/-- The items of a list, one to a line. -/
def prettyItems (level : Nat) : Bool → List Json → String
  | _, [] => ""
  | first, v :: rest =>
    (if first then "" else ",") ++ newLine level ++ prettyAt level v ++ prettyItems level false rest

/-- The entries of an object, one to a line. -/
def prettyEntries (level : Nat) : Bool → List (String × Json) → String
  | _, [] => ""
  | first, (k, v) :: rest =>
    (if first then "" else ",") ++ newLine level ++ printText k ++ ": " ++ prettyAt level v ++
      prettyEntries level false rest

end

/-- A value with one entry or item to a line. -/
def pretty (v : Json) : String := prettyAt 0 v

end Sitewright.Json
