import Sitewright.Naming.Case
import Sitewright.Site.Section

/-!
# Slots

Every section of a page gets a slot: the name of its component, from which the path of its file, the
way it is imported and its anchor on the page follow. The name is the base name of the section, or
the base name and a number from two on.

Slots are given out in the order of the sections. The next one takes the smallest number above the
last one with the same base whose name is neither reserved nor taken; so a slot depends only on the
sections before it, and appending sections never renames one.
-/

namespace Sitewright

/-- The place of a section on its page. -/
structure Slot where
  /-- The position of the section among the sections of the page. -/
  index : Nat
  /-- The base of the name. -/
  base : String
  /-- The number of the name, from one on. -/
  number : Nat
  deriving DecidableEq

namespace Slot

/-- The directory of section components. -/
def directory : String := "components/sections"

/-- A base name with a number, which is not written if it is one. -/
def numbered (base : String) (number : Nat) : String :=
  if number = 1 then base else base ++ toString number

/-- The name of the component. -/
def name (slot : Slot) : String := numbered slot.base slot.number

/-- The path of the file. -/
def path (slot : Slot) : String := directory ++ "/" ++ slot.name ++ ".tsx"

/-- What the component is imported from. -/
def importPath (slot : Slot) : String := "@/" ++ directory ++ "/" ++ slot.name

/-- The anchor of the section on its page. -/
def anchor (slot : Slot) : String := Naming.kebabCase slot.name

/-- The names that no section of the homepage gets. -/
def reservedNames : List String := ["Hero", "Navbar", "Footer", "Home", "RootLayout"]

end Slot

/-- The base name of a section: that of its kind, and for a custom section its own, with a word
before it if it does not start with a letter. -/
def Section.baseName : Section → String
  | .custom s =>
    match Naming.pascalChars s.componentName.toList with
    | [] => "Custom"
    | c :: cs => if c.isAlpha then String.ofList (c :: cs) else "Custom" ++ String.ofList (c :: cs)
  | s => Naming.pascalCase s.kind.tag

namespace Slot

/-- The number of the last slot with a base, or zero. -/
def lastNumber (slots : List Slot) (base : String) : Nat :=
  ((slots.reverse.find? fun slot => slot.base == base).map (·.number)).getD 0

/-- The smallest number above `last` whose name is not taken. One of the next `taken.length + 1` is
free, because their names differ. -/
def freeNumber (taken : List String) (base : String) (last : Nat) : Nat :=
  (((List.range (taken.length + 1)).map (last + 1 + ·)).find? fun number =>
    !taken.contains (numbered base number)).getD (last + taken.length + 1)

/-- The slots with one more, for a base name. -/
def extend (reserved : List String) (slots : List Slot) (base : String) : List Slot :=
  let taken := reserved ++ slots.map name
  slots ++ [⟨slots.length, base, freeNumber taken base (lastNumber slots base)⟩]

/-- The slots for a list of base names. -/
def allocateBases (reserved bases : List String) : List Slot := bases.foldl (extend reserved) []

/-- The slots for the sections of a page. -/
def allocate (reserved : List String) (sections : List Section) : List Slot :=
  allocateBases reserved (sections.map (·.baseName))

/-! ### Slots are given out one by one -/

theorem allocateBases_append (reserved bases more : List String) :
    allocateBases reserved (bases ++ more) =
      more.foldl (extend reserved) (allocateBases reserved bases) := by
  simp [allocateBases, List.foldl_append]

theorem length_foldl_extend (reserved bases : List String) (slots : List Slot) :
    (bases.foldl (extend reserved) slots).length = slots.length + bases.length := by
  induction bases generalizing slots with
  | nil => simp
  | cons base rest ih => simp [ih, extend, Nat.add_comm, Nat.add_left_comm]

@[simp] theorem length_allocate (reserved : List String) (sections : List Section) :
    (allocate reserved sections).length = sections.length := by
  simp [allocate, allocateBases, length_foldl_extend]

end Slot

end Sitewright
