import Sitewright.Render.Draft

/-!
# Stories on a page

How a story, articles, questions, processes, figures and galleries are laid out.
-/

namespace Sitewright

open Markup Draft

/-! ### About -/

namespace About

/-- The paragraphs of a text: its pieces between empty lines, trimmed, blank ones left out. -/
def paragraphTexts (body : String) : List String :=
  let pieces := Text.splitParagraphs body.toList
  (pieces.map Text.trimChars).filterMap fun cs =>
    if cs.isEmpty then none else some (String.ofList cs)

/-- The title of the story. -/
def titleLine (styles : Styles) (s : About) : Draft :=
  label "h2"
    (styles.headingFont ++ " text-3xl font-bold tracking-tight sm:text-4xl " ++ styles.heading)
    s.title

/-- The paragraphs of the story. -/
def paragraphs (styles : Styles) (s : About) : List Draft :=
  (paragraphTexts s.body).map (label "p" ("mt-6 text-lg leading-relaxed " ++ styles.body))

/-- The points to remember, as a list with check marks. -/
def points (styles : Styles) (s : About) : List Draft :=
  if s.highlights.isEmpty then []
  else
    [stack "ul" "mt-8 space-y-3"
      (s.highlights.map fun h =>
        inline "li" ("flex gap-3 " ++ styles.body)
          [inline "span" styles.primaryText [fixed "&#10003;"], text h])]

/-- A point on the time line. -/
def milestone (styles : Styles) (h : String) : Draft :=
  inline "li" "relative mb-8" [
    void "span"
      [.classes ("absolute -left-[2.6rem] top-1 h-4 w-4 rounded-full " ++ styles.gradient)],
    label "p" styles.body h]

/-- The draft of a story. -/
def draft (setting : Setting) (s : About) : SectionDraft :=
  let styles := setting.styles
  let content := titleLine styles s :: paragraphs styles s
  let description :=
    (Text.unlessBlank s.imageDescription).getD ("The team at " ++ setting.business.name)
  let body :=
    match s.layout with
    | .split => stack "div" "grid items-center gap-12 lg:grid-cols-2" [
        bare "div" (content ++ points styles s),
        picture styles "h-96 w-full rounded-2xl" description]
    | .centered => stack "div" "mx-auto max-w-3xl text-center" (content ++ points styles s)
    | .timeline => stack "div" "mx-auto max-w-3xl" (content ++ [
        stack "ol" ("mt-10 border-l-2 pl-8 " ++ styles.border)
          (s.highlights.map (milestone styles))])
  ⟨styles.sectionBackground, [body]⟩

end About

/-! ### Latest posts -/

namespace BlogPreview

/-- The date and author of an article, as far as they are known. -/
def meta? (styles : Styles) (post : BlogPost) : List Draft :=
  let parts := [post.date, post.author].filterMap Text.unlessBlank
  if parts.isEmpty then []
  else
    [inline "p" ("text-sm " ++ styles.muted)
      ((parts.map text).intersperse (fixed " &middot; "))]

/-- The words of a teaser. -/
def words (styles : Styles) (post : BlogPost) : List Draft :=
  let href := Attribute.link "href" (post.href.getD "#")
  meta? styles post ++
    inline "h3"
      ("mt-2 " ++ styles.headingFont ++ " text-xl font-semibold " ++ styles.heading)
      [element "a" [href, .classes "hover:underline"] .inline [text post.title]] ::
    paragraph ("mt-3 " ++ styles.body) (some post.excerpt) ++
    [element "a"
      [href, .classes ("mt-4 inline-block text-sm font-semibold " ++ styles.primaryText)] .inline
      [fixed "Read more &rarr;"]]

/-- A teaser on a card. -/
def card (styles : Styles) (post : BlogPost) : Draft :=
  stack "article" ("overflow-hidden " ++ styles.card)
    (picture? styles "h-48 w-full" post.imageDescription ++
      [stack "div" "p-6" (words styles post)])

/-- The teaser that leads the featured layout. -/
def lead (styles : Styles) (post : BlogPost) : Draft :=
  stack "article" ("grid overflow-hidden lg:grid-cols-2 " ++ styles.card)
    (picture? styles "h-80 w-full lg:h-full" post.imageDescription ++
      [stack "div" "p-8" (words styles post)])

/-- The teasers as a layout arranges them. -/
def arrangement (styles : Styles) (s : BlogPreview) : List Draft :=
  match s.layout with
  | .grid => [stack "div" "grid gap-8 md:grid-cols-3" (s.posts.map (card styles))]
  | .list =>
    [stack "div" ("mx-auto max-w-3xl divide-y " ++ styles.border)
      (s.posts.map fun post => stack "article" "py-8" (words styles post))]
  | .featured =>
    match s.posts with
    | [] => []
    | first :: rest =>
      [lead styles first, stack "div" "mt-8 grid gap-8 md:grid-cols-2" (rest.map (card styles))]

/-- The draft of article teasers. -/
def draft (setting : Setting) (s : BlogPreview) : SectionDraft :=
  let styles := setting.styles
  ⟨styles.altBackground, heading styles s.title s.subtitle :: arrangement styles s⟩

end BlogPreview

/-! ### Questions -/

namespace Faq

/-- An answer. -/
def answer (styles : Styles) (spacing : String) (item : FaqItem) : Draft :=
  label "p" (spacing ++ " leading-relaxed " ++ styles.body) item.answer

/-- A question that opens to its answer. -/
def fold (styles : Styles) (item : FaqItem) : Draft :=
  stack "details" "group py-5" [
    inline "summary"
      ("flex cursor-pointer list-none items-center justify-between font-semibold " ++
        styles.heading) [
      text item.question,
      inline "span"
        ("ml-4 transition-transform group-open:rotate-45 " ++ styles.primaryText) [fixed "+"]],
    answer styles "mt-3" item]

/-- A question above its answer. -/
def pair (styles : Styles) (item : FaqItem) : Draft :=
  bare "div" [
    label "dt" ("font-semibold " ++ styles.heading) item.question,
    element "dd" [] .inline [answer styles "mt-2" item]]

/-- The draft of frequent questions. -/
def draft (setting : Setting) (s : Faq) : SectionDraft :=
  let styles := setting.styles
  let items :=
    match s.layout with
    | .accordion =>
      stack "div" ("mx-auto max-w-3xl divide-y " ++ styles.border) (s.items.map (fold styles))
    | .twoColumn => stack "dl" "grid gap-x-12 gap-y-10 md:grid-cols-2" (s.items.map (pair styles))
    | .list => stack "dl" "mx-auto max-w-3xl space-y-8" (s.items.map (pair styles))
  ⟨styles.sectionBackground, [heading styles s.title s.subtitle, items]⟩

end Faq

/-! ### Process -/

namespace Process

/-- The number of a step in a coloured circle. -/
def number (styles : Styles) (position : String) (index : Nat) : Draft :=
  inline "span"
    (position ++ " flex h-10 w-10 items-center justify-center rounded-full font-bold text-white " ++
      styles.gradient) [fixed (toString (index + 1))]

/-- The name of a step, and below it what happens. -/
def words (styles : Styles) (step : ProcessStep) : List Draft := [
  label "h3" ("mt-4 text-lg font-semibold " ++ styles.heading) step.title,
  label "p" ("mt-2 " ++ styles.body) step.description]

/-- A step. -/
def item (styles : Styles) (classes position : String) (index : Nat) (step : ProcessStep) : Draft :=
  stack "li" classes (number styles position index :: words styles step)

/-- The draft of a process. -/
def draft (setting : Setting) (s : Process) : SectionDraft :=
  let styles := setting.styles
  let steps :=
    match s.layout with
    | .steps => stack "ol" "grid gap-10 md:grid-cols-2 lg:grid-cols-4"
        (s.steps.mapIdx (item styles "text-center" "mx-auto"))
    | .timeline => stack "ol" ("mx-auto max-w-2xl border-l-2 " ++ styles.border)
        (s.steps.mapIdx (item styles "relative mb-10 pl-10" "absolute -left-5 top-0"))
    | .cards => stack "ol" "grid gap-8 md:grid-cols-3"
        (s.steps.mapIdx (item styles ("p-8 " ++ styles.card) ""))
  ⟨styles.altBackground, [heading styles s.title s.subtitle, steps]⟩

end Process

/-! ### Figures -/

namespace Stats

/-- How the figures of a layout look. -/
structure Look where
  /-- The background of the section. -/
  background : String
  /-- The grid. -/
  grid : String
  /-- A figure. -/
  value : String
  /-- What a figure counts. -/
  label : String
  /-- The cell of a figure. -/
  cell : List Attribute

/-- The look of a layout. -/
def look (styles : Styles) : Layout → Look
  | .row =>
    ⟨styles.sectionBackground, "grid grid-cols-2 gap-8 text-center md:grid-cols-4",
      styles.headingFont ++ " text-4xl font-bold " ++ styles.primaryText, "mt-2 " ++ styles.muted,
      []⟩
  | .cards =>
    ⟨styles.altBackground, "grid gap-6 sm:grid-cols-2 lg:grid-cols-4",
      styles.headingFont ++ " text-4xl font-bold " ++ styles.heading, "mt-2 " ++ styles.muted,
      [.classes ("p-8 text-center " ++ styles.card)]⟩
  | .banner =>
    ⟨styles.gradient ++ " text-white", "grid grid-cols-2 gap-8 text-center md:grid-cols-4",
      styles.headingFont ++ " text-5xl font-extrabold", "mt-2 text-white/80", []⟩

/-- The draft of key figures. -/
def draft (setting : Setting) (s : Stats) : SectionDraft :=
  let styles := setting.styles
  let look := look styles s.layout
  let figures := s.stats.map fun stat =>
    element "div" look.cell .stacked
      [Markup.label "div" look.value stat.value, Markup.label "div" look.label stat.label]
  ⟨look.background, heading? styles s.title ++ [stack "div" look.grid figures]⟩

end Stats

/-! ### Gallery -/

namespace Gallery

/-- The frame of a layout. -/
def frame : Layout → String
  | .grid => "grid gap-4 sm:grid-cols-2 lg:grid-cols-3"
  | .masonry => "columns-1 gap-4 space-y-4 sm:columns-2 lg:columns-3"
  | .carousel => "-mx-6 flex snap-x snap-mandatory gap-4 overflow-x-auto px-6 pb-4"

/-- The size of a picture. The heights of a masonry vary, which gives its columns their stagger. -/
def tile (index : Nat) : Layout → String
  | .grid => "h-64 w-full"
  | .masonry =>
    if index % 3 == 0 then "w-full h-64"
    else if index % 3 == 1 then "w-full h-96"
    else "w-full h-80"
  | .carousel => "h-80 w-[28rem] max-w-full"

/-- A picture with its line below. -/
def figure (styles : Styles) (layout : Layout) (index : Nat) (item : GalleryItem) : Draft :=
  let outer :=
    match layout with
    | .carousel => "flex-none snap-start overflow-hidden rounded-2xl"
    | _ => "break-inside-avoid overflow-hidden rounded-2xl"
  stack "figure" outer
    (picture styles (tile index layout) item.imageDescription ::
      ((Text.unlessBlank item.caption).map
        (label "figcaption" ("mt-2 text-sm " ++ styles.muted))).toList)

/-- The draft of a gallery. -/
def draft (setting : Setting) (s : Gallery) : SectionDraft :=
  let styles := setting.styles
  ⟨styles.sectionBackground, [
    heading styles s.title s.subtitle,
    stack "div" (frame s.layout) (s.items.mapIdx (figure styles s.layout))]⟩

end Gallery

end Sitewright
