import Sitewright.Yaml.Tag

/-!
# Directives

Lines before a text that say how it is to be read: which version of the format it follows, and what
the handles of its tags stand for. The two of them are all that there are.
-/

namespace Sitewright.Yaml

/-- What a directive says. -/
inductive Directive where
  /-- The version of the format. -/
  | version (major minor : Nat)
  /-- The start of a tag that a handle stands for. -/
  | handle (name start : String)
  deriving DecidableEq

/-- The text without the blanks it starts with. -/
def skipBlanks (cs : List Char) : List Char := cs.dropWhile isBlank

/-- Whether nothing but blanks and a comment is left of a line. -/
def endsLine (cs : List Char) : Bool :=
  match skipBlanks cs with
  | [] => true
  | c :: _ => c == '#' || isBreak c

/-- A number of a version has fewer digits than this. -/
def versionDigits : Nat := 10

/-- Reads a number of a version. -/
def readVersionNumber (cs : List Char) : Option (Nat × List Char) :=
  match Document.takeDigits cs with
  | ([], _) => none
  | (digits, rest) =>
    if digits.length < versionDigits then some (Numeral.ofDigits digits, rest) else none

/-- Reads what a directive about the version says. -/
def readVersion (cs : List Char) : Option (Directive × List Char) := do
  let (major, rest) ← readVersionNumber (skipBlanks cs)
  match rest with
  | '.' :: rest =>
    let (minor, rest) ← readVersionNumber rest
    return (.version major minor, rest)
  | _ => none

/-- Reads what a directive about a handle says. -/
def readHandle (cs : List Char) : Option (Directive × List Char) := do
  let cs := skipBlanks cs
  let handle := handleChars cs
  let rest := cs.drop handle.length
  if (handle == ['!'] || isClosed handle) && rest.head?.any isBlank then
    let rest := skipBlanks rest
    let (start, count) ← readSomeTagChars true rest
    let rest := rest.drop count
    if standsAlone rest then
      return (.handle (String.ofList handle) (String.ofList start), rest)
    else none
  else none

/-- Reads a directive after its mark: what it says, and what follows it in its line. -/
def readDirective (cs : List Char) : Option (Directive × List Char) := do
  let name := cs.takeWhile isNameChar
  let rest := cs.drop name.length
  let read ←
    match String.ofList name with
    | "YAML" => some readVersion
    | "TAG" => some readHandle
    | _ => none
  let (directive, rest) ← if standsAlone rest then read rest else none
  if endsLine rest then return (directive, rest) else none

/-! ### Declarations -/

/-- What the directives before a text say. -/
structure Declarations where
  /-- Whether the version was given. -/
  hasVersion : Bool
  /-- The handles that were declared. -/
  handles : TagHandles

/-- What is said without any directive. -/
def Declarations.empty : Declarations := ⟨false, []⟩

/-- What is said with one more directive. Nothing may be said twice, and the version must be one
that can be read. -/
def Declarations.add? (declarations : Declarations) : Directive → Option Declarations
  | .version major minor =>
    if !declarations.hasVersion && major = 1 && (minor = 1 || minor = 2) then
      some { declarations with hasVersion := true }
    else none
  | .handle name start =>
    if (declarations.handles.lookup name).isNone then
      some { declarations with handles := (name, start) :: declarations.handles }
    else none

/-- All handles of a text. Its own come first. -/
def Declarations.allHandles (declarations : Declarations) : TagHandles :=
  declarations.handles ++ TagHandles.standard

end Sitewright.Yaml
