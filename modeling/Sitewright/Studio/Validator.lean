import Sitewright.Edit.Router

/-!
# Validating custom sections

The code of a custom section comes from elsewhere, and a section whose code would not build is left
out before the site is compiled. Without a tool that builds code, three things can be checked: that
the component has a name, that the code exports a component, and that its braces are balanced.
-/

namespace Sitewright

/-- Tells which entries of a page may be compiled. -/
abbrev Validator := List SectionEntry → Except CollaboratorError (List SectionEntry)

namespace Custom

/-- Why a custom section is left out. -/
inductive Fault where
  /-- The component has no name. -/
  | unnamed
  /-- Nothing is exported. -/
  | exportMissing
  /-- A brace has no partner. -/
  | unbalanced
  deriving DecidableEq

/-- The wording of a fault. -/
def Fault.message : Fault → String
  | unnamed => "component name is empty"
  | exportMissing => "code has no default export"
  | unbalanced => "unbalanced braces"

/-- The number of braces that are open after a text, when `depth` were open before it. There is none
if a brace is closed that was not open. -/
def openBraces? (depth : Nat) : List Char → Option Nat
  | [] => some depth
  | c :: cs =>
    if c = '\x7b' then openBraces? (depth + 1) cs
    else if c = '\x7d' then if depth = 0 then none else openBraces? (depth - 1) cs
    else openBraces? depth cs

/-- Whether the braces of a text are balanced. -/
def isBalanced (cs : List Char) : Bool := openBraces? 0 cs == some 0

/-- Texts of braces in which every brace has its partner. -/
inductive Balanced : List Char → Prop where
  /-- There is no brace. -/
  | empty : Balanced []
  /-- A balanced text between a pair of braces, and another one after it. -/
  | pair {inner rest : List Char} : Balanced inner → Balanced rest →
      Balanced ('\x7b' :: inner ++ '\x7d' :: rest)

/-- The braces of a text. -/
def braces (cs : List Char) : List Char := cs.filter fun c => c == '\x7b' || c == '\x7d'

/-- Why a custom section is left out, if it is. -/
def fault? (s : Custom) : Option Fault :=
  if Text.isBlank s.componentName then some .unnamed
  else if !Text.contains s.code "export default" then some .exportMissing
  else if !isBalanced s.code.toList then some .unbalanced
  else none

end Custom

/-- Why an entry of a page is left out, if it is. Only custom sections are. -/
def SectionEntry.fault? (entry : SectionEntry) : Option Custom.Fault :=
  match entry.section? with
  | some (.custom s) => s.fault?
  | _ => none

namespace Validator

/-- Leaves no entry out. -/
def acceptAll : Validator := fun entries => .ok entries

/-- Leaves out custom sections with a fault. -/
def structural : Validator := fun entries => .ok (entries.filter fun e => e.fault?.isNone)

end Validator

end Sitewright
