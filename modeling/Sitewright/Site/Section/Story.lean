import Sitewright.Site.Links

/-!
# Story

The sections that tell about a business: its story, articles, questions, processes, figures and
pictures.
-/

namespace Sitewright

/-! ### About -/

/-- The layouts of a story. -/
inductive About.Layout where
  | split | centered | timeline
  deriving DecidableEq

namespace About.Layout

/-- Every layout, the default first. -/
def all : List About.Layout := [.split, .centered, .timeline]

/-- The name of a layout in configurations. -/
def tag : About.Layout → String
  | .split => "split"
  | .centered => "centered"
  | .timeline => "timeline"

/-- Layouts are written by their tags. -/
def codec : Codec About.Layout :=
  .choice "AboutVariant"
    (Codec.tagsDefinition "Layouts for [`AboutSection`]" (all.map tag)) all tag

end About.Layout

/-- The story of a business. -/
structure About where
  /-- How the section is laid out. -/
  layout : About.Layout
  /-- The title above the section. -/
  title : String
  /-- The story, its paragraphs parted by empty lines. -/
  body : String
  /-- What a picture beside the story shows. -/
  imageDescription : Option String
  /-- The points to remember. -/
  highlights : List String
  deriving DecidableEq

open Codec in
/-- The written form of `About`. -/
def About.codec : Codec About :=
  record "AboutSection" "About / story block" <|
    About.mk <$> fieldOr "variant" "" (·.layout) Layout.codec .split
      <*> textFieldOrEmpty "title" (·.title)
      <*> textField "body" (·.body)
      <*> optionalText "imageDescription" (·.imageDescription)
      <*> listField "highlights" (·.highlights) text

/-! ### Latest posts -/

/-- The layouts of article teasers. -/
inductive BlogPreview.Layout where
  | grid | list | featured
  deriving DecidableEq

namespace BlogPreview.Layout

/-- Every layout, the default first. -/
def all : List BlogPreview.Layout := [.grid, .list, .featured]

/-- The name of a layout in configurations. -/
def tag : BlogPreview.Layout → String
  | .grid => "grid"
  | .list => "list"
  | .featured => "featured"

/-- Layouts are written by their tags. -/
def codec : Codec BlogPreview.Layout :=
  .choice "BlogPreviewVariant"
    (Codec.tagsDefinition "Layouts for [`BlogPreviewSection`]" (all.map tag)) all tag

end BlogPreview.Layout

/-- The teaser of one article. -/
structure BlogPost where
  /-- Its title. -/
  title : String
  /-- Its first words. -/
  excerpt : String
  /-- When it appeared. -/
  date : Option String
  /-- Who wrote it. -/
  author : Option String
  /-- What its picture shows. -/
  imageDescription : Option String
  /-- Where the article is. -/
  href : Option String
  deriving DecidableEq

open Codec in
/-- The written form of `BlogPost`. -/
def BlogPost.codec : Codec BlogPost :=
  record "BlogPost" "One article teaser" <|
    BlogPost.mk <$> textField "title" (·.title)
      <*> textField "excerpt" (·.excerpt)
      <*> optionalText "date" (·.date)
      <*> optionalText "author" (·.author)
      <*> optionalText "imageDescription" (·.imageDescription)
      <*> optionalText "href" (·.href)

/-- Recent articles. -/
structure BlogPreview where
  /-- How the section is laid out. -/
  layout : BlogPreview.Layout
  /-- The title above the section. -/
  title : String
  /-- The line below the title. -/
  subtitle : Option String
  /-- The teasers, in display order. -/
  posts : List BlogPost
  deriving DecidableEq

open Codec in
/-- The written form of `BlogPreview`. -/
def BlogPreview.codec : Codec BlogPreview :=
  record "BlogPreviewSection" "Recent articles" <|
    BlogPreview.mk <$> fieldOr "variant" "" (·.layout) Layout.codec .grid
      <*> textFieldOrEmpty "title" (·.title)
      <*> optionalText "subtitle" (·.subtitle)
      <*> listField "posts" (·.posts) BlogPost.codec

/-! ### Questions -/

/-- The layouts of questions and answers. -/
inductive Faq.Layout where
  | accordion | twoColumn | list
  deriving DecidableEq

namespace Faq.Layout

/-- Every layout, the default first. -/
def all : List Faq.Layout := [.accordion, .twoColumn, .list]

/-- The name of a layout in configurations. -/
def tag : Faq.Layout → String
  | .accordion => "accordion"
  | .twoColumn => "two-column"
  | .list => "list"

/-- Layouts are written by their tags. -/
def codec : Codec Faq.Layout :=
  .choice "FaqVariant"
    (Codec.tagsDefinition "Layouts for [`FaqSection`]" (all.map tag)) all tag

end Faq.Layout

/-- A question and its answer. -/
structure FaqItem where
  /-- The question. -/
  question : String
  /-- The answer. -/
  answer : String
  deriving DecidableEq

open Codec in
/-- The written form of `FaqItem`. -/
def FaqItem.codec : Codec FaqItem :=
  record "FaqItem" "One question and answer" <|
    FaqItem.mk <$> textField "question" (·.question)
      <*> textField "answer" (·.answer)

/-- Frequent questions. -/
structure Faq where
  /-- How the section is laid out. -/
  layout : Faq.Layout
  /-- The title above the section. -/
  title : String
  /-- The line below the title. -/
  subtitle : Option String
  /-- The questions, in display order. -/
  items : List FaqItem
  deriving DecidableEq

open Codec in
/-- The written form of `Faq`. -/
def Faq.codec : Codec Faq :=
  record "FaqSection" "Frequently asked questions" <|
    Faq.mk <$> fieldOr "variant" "" (·.layout) Layout.codec .accordion
      <*> textFieldOrEmpty "title" (·.title)
      <*> optionalText "subtitle" (·.subtitle)
      <*> listField "items" (·.items) FaqItem.codec

/-! ### Process -/

/-- The layouts of a process. -/
inductive Process.Layout where
  | steps | timeline | cards
  deriving DecidableEq

namespace Process.Layout

/-- Every layout, the default first. -/
def all : List Process.Layout := [.steps, .timeline, .cards]

/-- The name of a layout in configurations. -/
def tag : Process.Layout → String
  | .steps => "steps"
  | .timeline => "timeline"
  | .cards => "cards"

/-- Layouts are written by their tags. -/
def codec : Codec Process.Layout :=
  .choice "ProcessVariant"
    (Codec.tagsDefinition "Layouts for [`ProcessSection`]" (all.map tag)) all tag

end Process.Layout

/-- One step of a process. -/
structure ProcessStep where
  /-- The name of the step. -/
  title : String
  /-- What happens in it. -/
  description : String
  deriving DecidableEq

open Codec in
/-- The written form of `ProcessStep`. -/
def ProcessStep.codec : Codec ProcessStep :=
  record "ProcessStep" "One step of a process" <|
    ProcessStep.mk <$> textField "title" (·.title)
      <*> textField "description" (·.description)

/-- How something works, step by step. -/
structure Process where
  /-- How the section is laid out. -/
  layout : Process.Layout
  /-- The title above the section. -/
  title : String
  /-- The line below the title. -/
  subtitle : Option String
  /-- The steps, in order. -/
  steps : List ProcessStep
  deriving DecidableEq

open Codec in
/-- The written form of `Process`. -/
def Process.codec : Codec Process :=
  record "ProcessSection" "\"How it works\"" <|
    Process.mk <$> fieldOr "variant" "" (·.layout) Layout.codec .steps
      <*> textFieldOrEmpty "title" (·.title)
      <*> optionalText "subtitle" (·.subtitle)
      <*> listField "steps" (·.steps) ProcessStep.codec

/-! ### Figures -/

/-- The layouts of key figures. -/
inductive Stats.Layout where
  | row | cards | banner
  deriving DecidableEq

namespace Stats.Layout

/-- Every layout, the default first. -/
def all : List Stats.Layout := [.row, .cards, .banner]

/-- The name of a layout in configurations. -/
def tag : Stats.Layout → String
  | .row => "row"
  | .cards => "cards"
  | .banner => "banner"

/-- Layouts are written by their tags. -/
def codec : Codec Stats.Layout :=
  .choice "StatsVariant"
    (Codec.tagsDefinition "Layouts for [`StatsSection`]" (all.map tag)) all tag

end Stats.Layout

/-- One figure. -/
structure Stat where
  /-- The figure as it is shown. -/
  value : String
  /-- What it counts. -/
  label : String
  deriving DecidableEq

open Codec in
/-- The written form of `Stat`. -/
def Stat.codec : Codec Stat :=
  record "Stat" "One figure" <|
    Stat.mk <$> textField "value" (·.value)
      <*> textField "label" (·.label)

/-- Key figures. -/
structure Stats where
  /-- How the section is laid out. -/
  layout : Stats.Layout
  /-- The title above the section. -/
  title : Option String
  /-- The figures, in display order. -/
  stats : List Stat
  deriving DecidableEq

open Codec in
/-- The written form of `Stats`. -/
def Stats.codec : Codec Stats :=
  record "StatsSection" "Key figures" <|
    Stats.mk <$> fieldOr "variant" "" (·.layout) Layout.codec .row
      <*> optionalText "title" (·.title)
      <*> listField "stats" (·.stats) Stat.codec

/-! ### Gallery -/

/-- The layouts of a gallery. -/
inductive Gallery.Layout where
  | grid | masonry | carousel
  deriving DecidableEq

namespace Gallery.Layout

/-- Every layout, the default first. -/
def all : List Gallery.Layout := [.grid, .masonry, .carousel]

/-- The name of a layout in configurations. -/
def tag : Gallery.Layout → String
  | .grid => "grid"
  | .masonry => "masonry"
  | .carousel => "carousel"

/-- Layouts are written by their tags. -/
def codec : Codec Gallery.Layout :=
  .choice "GalleryVariant"
    (Codec.tagsDefinition "Layouts for [`GallerySection`]" (all.map tag)) all tag

end Gallery.Layout

/-- One picture. -/
structure GalleryItem where
  /-- What the picture shows. -/
  imageDescription : String
  /-- The line below it. -/
  caption : Option String
  deriving DecidableEq

open Codec in
/-- The written form of `GalleryItem`. -/
def GalleryItem.codec : Codec GalleryItem :=
  record "GalleryItem" "One gallery image" <|
    GalleryItem.mk <$> textField "imageDescription" (·.imageDescription)
      <*> optionalText "caption" (·.caption)

/-- A gallery of pictures. -/
structure Gallery where
  /-- How the section is laid out. -/
  layout : Gallery.Layout
  /-- The title above the section. -/
  title : String
  /-- The line below the title. -/
  subtitle : Option String
  /-- The pictures, in display order. -/
  items : List GalleryItem
  deriving DecidableEq

open Codec in
/-- The written form of `Gallery`. -/
def Gallery.codec : Codec Gallery :=
  record "GallerySection" "Image gallery" <|
    Gallery.mk <$> fieldOr "variant" "" (·.layout) Layout.codec .grid
      <*> textFieldOrEmpty "title" (·.title)
      <*> optionalText "subtitle" (·.subtitle)
      <*> listField "items" (·.items) GalleryItem.codec

end Sitewright
