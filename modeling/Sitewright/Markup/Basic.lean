import Sitewright.Markup.Escape

/-!
# Markup

The element trees that components are made of, and their printed form. A renderer never writes
markup as text: it builds a tree whose leaves are *texts*, which are escaped when they are printed,
and *fixed* pieces, which come from the library itself. So tags are always nested, and no text of a
configuration can open a tag, an expression or an attribute.

An element lays out its children in one of three ways. Side by side on one line; one below the
other, where all lines of the children are moved to the right together, also those that a line break
inside a text starts; or one below the other with only the first line of each child moved, as a
template written by hand does it. The three differ only in the white space between the children.

Pictures are leaves of their own. A tree is built with requests for pictures, and `Markup.place`
turns requests into placed pictures, numbering them in the order in which they appear.
-/

namespace Sitewright

/-! ### Attributes -/

/-- The value of an attribute. -/
inductive AttributeValue where
  /-- An attribute without a value. -/
  | flag
  /-- A value written by the library. -/
  | fixed (s : String)
  /-- A text of the configuration. -/
  | text (s : String)
  /-- A link target of the configuration. -/
  | link (s : String)
  /-- An expression written by the library. -/
  | expression (s : String)
  deriving DecidableEq

/-- An attribute of an element. -/
structure Attribute where
  /-- The name. -/
  name : String
  /-- The value. -/
  value : AttributeValue
  deriving DecidableEq

namespace Attribute

/-- The printed form of an attribute, with the space before it. -/
def print (a : Attribute) : String :=
  " " ++ a.name ++
    match a.value with
    | .flag => ""
    | .fixed s => "=\"" ++ s ++ "\""
    | .text s => "=\"" ++ Markup.escapeAttribute s ++ "\""
    | .link s => "=\"" ++ Markup.link s ++ "\""
    | .expression s => "=\x7b" ++ s ++ "\x7d"

/-- An attribute without a value. -/
def flag (name : String) : Attribute := ⟨name, .flag⟩

/-- An attribute whose value is written by the library. -/
def fixed (name value : String) : Attribute := ⟨name, .fixed value⟩

/-- An attribute whose value is a text of the configuration. -/
def text (name value : String) : Attribute := ⟨name, .text value⟩

/-- An attribute whose value is a link target of the configuration. -/
def link (name target : String) : Attribute := ⟨name, .link target⟩

/-- The style classes of an element. -/
def classes (names : String) : Attribute := fixed "className" names

end Attribute

/-! ### Trees -/

/-- How an element lays out its children. -/
inductive Flow where
  /-- Side by side. -/
  | inline
  /-- One below the other, every line of them moved to the right. -/
  | stacked
  /-- One below the other, the first line of each moved to the right. -/
  | aligned
  deriving DecidableEq

/-- Markup with pictures of type `ι`. -/
inductive Markup (ι : Type) where
  /-- A text of the configuration. -/
  | text (s : String)
  /-- Characters and entities written by the library. -/
  | fixed (s : String)
  /-- A picture. -/
  | image (picture : ι)
  /-- An element without children, closed in its tag. -/
  | void (tag : String) (attributes : List Attribute)
  /-- An element with children. -/
  | element (tag : String) (attributes : List Attribute) (flow : Flow) (children : List (Markup ι))

/-- A picture that is asked for. -/
structure ImageRequest where
  /-- What it shows. -/
  description : String
  /-- The style classes it fills its place with. -/
  classes : String
  /-- The style classes of a decoration that can stand in for it. -/
  fallback : String
  deriving DecidableEq

/-- A picture that has been asked for, with its number among the requests of a compilation. -/
structure PlacedImage where
  /-- The request. -/
  request : ImageRequest
  /-- The number of the picture, unless the request came too late and a decoration stands in. -/
  number : Option Nat
  deriving DecidableEq

/-- The name that stands for the address of a picture until it is known. -/
def imageToken (number : Nat) : String := "IMG_" ++ toString number

namespace Markup

variable {ι : Type}

/-- An element with style classes whose children stand side by side. -/
def inline (tag classes : String) (children : List (Markup ι)) : Markup ι :=
  element tag [.classes classes] .inline children

/-- An element with style classes whose children stand one below the other. -/
def stack (tag classes : String) (children : List (Markup ι)) : Markup ι :=
  element tag [.classes classes] .stacked children

/-- An element without attributes whose children stand one below the other. -/
def bare (tag : String) (children : List (Markup ι)) : Markup ι :=
  element tag [] .stacked children

/-- An element with style classes that holds one text. -/
def label (tag classes s : String) : Markup ι := inline tag classes [text s]

/-! ### Printing -/

/-- The printed form of a tag's attributes. -/
def printAttributes (attributes : List Attribute) : String :=
  String.join (attributes.map Attribute.print)

/-- The tag that opens an element. -/
def openTag (tag : String) (attributes : List Attribute) : String :=
  "<" ++ tag ++ printAttributes attributes ++ ">"

/-- The tag that closes an element. -/
def closeTag (tag : String) : String := "</" ++ tag ++ ">"

/-- The tag of an element without children. -/
def voidTag (tag : String) (attributes : List Attribute) : String :=
  "<" ++ tag ++ printAttributes attributes ++ " />"

/-- The start of a line at a column. -/
def lineStart (column : Nat) : String := String.ofList ('\n' :: Text.spaces column)

mutual

/-- The printed form of markup whose lines start at a column. -/
def print (leaf : ι → String) (column : Nat) : Markup ι → String
  | text s => escapeText s
  | fixed s => s
  | image picture => leaf picture
  | void tag attributes => voidTag tag attributes
  | element tag attributes flow children =>
    match flow, children with
    | .inline, children =>
      openTag tag attributes ++ String.join (printAll leaf column children) ++ closeTag tag
    | _, [] => openTag tag attributes ++ closeTag tag
    | .stacked, children =>
      openTag tag attributes ++ "\n" ++
        Text.indent (column + 2) (Text.joinWith "\n" (printAll leaf 0 children)) ++
        lineStart column ++ closeTag tag
    | .aligned, children =>
      let start := lineStart (column + 2)
      openTag tag attributes ++
        String.join ((printAll leaf (column + 2) children).map fun s => start ++ s) ++
        lineStart column ++ closeTag tag

/-- The printed forms of several pieces of markup. -/
def printAll (leaf : ι → String) (column : Nat) : List (Markup ι) → List String
  | [] => []
  | m :: rest => print leaf column m :: printAll leaf column rest

end

/-! ### Pictures -/

mutual

/-- The pictures of a piece of markup, in the order in which they appear. -/
def images : Markup ι → List ι
  | image picture => [picture]
  | element _ _ _ children => imagesOfAll children
  | _ => []

/-- The pictures of several pieces of markup. -/
def imagesOfAll : List (Markup ι) → List ι
  | [] => []
  | m :: rest => images m ++ imagesOfAll rest

end

/-- A request as the next one after `before` others, of which at most `cap` become pictures. -/
def placeRequest (cap before : Nat) (request : ImageRequest) : PlacedImage :=
  ⟨request, if before < cap then some (before + 1) else none⟩

mutual

/-- Markup with its requests placed after `before` others, and the number of requests so far. -/
def place (cap before : Nat) : Markup ImageRequest → Markup PlacedImage × Nat
  | text s => (text s, before)
  | fixed s => (fixed s, before)
  | image request => (image (placeRequest cap before request), before + 1)
  | void tag attributes => (void tag attributes, before)
  | element tag attributes flow children =>
    let (placed, after) := placeAll cap before children
    (element tag attributes flow placed, after)

/-- Several pieces of markup with their requests placed, one after the other. -/
def placeAll (cap before : Nat) : List (Markup ImageRequest) → List (Markup PlacedImage) × Nat
  | [] => ([], before)
  | m :: rest =>
    let (first, between) := place cap before m
    let (others, after) := placeAll cap between rest
    (first :: others, after)

end

/-- The element of a placed picture: the picture under its token, or the decoration that stands in
for it. -/
def imageElement (picture : PlacedImage) : Markup PlacedImage :=
  let request := picture.request
  match picture.number with
  | some n =>
    void "img" [.fixed "src" (imageToken n), .text "alt" request.description,
      .classes (request.classes ++ " object-cover"), .fixed "loading" "lazy"]
  | none =>
    void "div" [.classes (request.classes ++ " " ++ request.fallback), .fixed "role" "img",
      .text "aria-label" request.description]

/-- The printed form of a placed picture. -/
def printImage (picture : PlacedImage) : String :=
  match imageElement picture with
  | void tag attributes => voidTag tag attributes
  | _ => ""

/-! ### Laws -/

mutual

/-- Placing counts every picture once. -/
theorem place_snd (cap before : Nat) (m : Markup ImageRequest) :
    (m.place cap before).2 = before + m.images.length := by
  cases m with
  | element tag attributes flow children => simp [place, images, placeAll_snd cap before children]
  | _ => simp [place, images]

/-- Placing several pieces counts the pictures of all. -/
theorem placeAll_snd (cap before : Nat) (ms : List (Markup ImageRequest)) :
    (placeAll cap before ms).2 = before + (imagesOfAll ms).length := by
  cases ms with
  | nil => simp [placeAll, imagesOfAll]
  | cons m rest =>
    simp [placeAll, imagesOfAll, place_snd cap before m, placeAll_snd cap _ rest, Nat.add_assoc]

end

theorem printAll_eq_map {ι : Type} (leaf : ι → String) (column : Nat) (ms : List (Markup ι)) :
    printAll leaf column ms = ms.map (print leaf column) := by
  induction ms with
  | nil => simp [printAll]
  | cons m rest ih => simp [printAll, ih]

theorem imagesOfAll_eq_flatMap {ι : Type} (ms : List (Markup ι)) :
    imagesOfAll ms = ms.flatMap images := by
  induction ms with
  | nil => simp [imagesOfAll]
  | cons m rest ih => simp [imagesOfAll, ih]

end Markup

/-! ### Components -/

/-- A component: a function that returns one element. -/
structure Component (ι : Type) where
  /-- The name of the function. -/
  name : String
  /-- The element it returns. -/
  root : Markup ι

namespace Component

/-- The source text of a component, with `leaf` printing its pictures. -/
def print {ι : Type} (leaf : ι → String) (c : Component ι) : String :=
  "export default function " ++ c.name ++ "() \x7b\n  return (\n    " ++ c.root.print leaf 4 ++
    "\n  );\n\x7d\n"

/-- The source text of a component whose pictures are placed. -/
def source (c : Component PlacedImage) : String := c.print Markup.printImage

/-- A component with its requests placed after `before` others, and the number of requests so far.
-/
def place (cap before : Nat) (c : Component ImageRequest) : Component PlacedImage × Nat :=
  let (root, after) := c.root.place cap before
  (⟨c.name, root⟩, after)

end Component

end Sitewright
