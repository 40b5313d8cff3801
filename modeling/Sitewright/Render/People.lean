import Sitewright.Render.Draft

/-!
# People on a page

How customer quotes, a team and the logos of partners are laid out.
-/

namespace Sitewright

open Markup Draft

/-! ### Testimonials -/

namespace Testimonials

/-- The stars of a rating, at most five. -/
def stars (styles : Styles) : Option Nat → List Draft
  | none => []
  | some 0 => []
  | some rating =>
    let filled := min rating 5
    [element "div"
      [.classes ("mb-3 text-" ++ styles.theme.accent.tag ++ "-400"),
        .fixed "aria-label" (toString filled ++ " out of 5 stars")] .inline
      [fixed (String.ofList (List.replicate filled '★'))]]

/-- Who said the words, and what the author does. -/
def attribution (styles : Styles) (t : Testimonial) : Draft :=
  stack "figcaption" "mt-6"
    (label "span" ("font-semibold " ++ styles.heading) t.author ::
      ((Text.unlessBlank t.role).map (label "span" ("block text-sm " ++ styles.muted))).toList)

/-- The words between quotation marks. -/
def quotation (classes : String) (t : Testimonial) : Draft :=
  inline "blockquote" classes [fixed "&ldquo;", text t.quote, fixed "&rdquo;"]

/-- A quote on a card. -/
def card (styles : Styles) (t : Testimonial) : Draft :=
  stack "figure" ("h-full p-8 " ++ styles.card)
    (stars styles (t.rating.map (·.val)) ++ [
      quotation ("leading-relaxed " ++ styles.body) t,
      attribution styles t])

/-- One large quote. -/
def large (styles : Styles) (t : Testimonial) : Draft :=
  stack "figure" "mx-auto max-w-3xl text-center" [
    quotation
      (styles.headingFont ++ " text-2xl leading-relaxed sm:text-3xl " ++ styles.heading) t,
    attribution styles t]

/-- The quotes of the layouts. -/
def quotes (styles : Styles) (s : Testimonials) : List Draft :=
  match s.layout with
  | .cards =>
    [stack "div" "grid gap-8 md:grid-cols-2 lg:grid-cols-3" (s.testimonials.map (card styles))]
  | .carousel =>
    [stack "div" "-mx-6 flex snap-x snap-mandatory gap-6 overflow-x-auto px-6 pb-4"
      (s.testimonials.map fun t => stack "div" "w-80 flex-none snap-center" [card styles t])]
  | .quote => (s.testimonials.take 1).map (large styles)

/-- The draft of customer quotes. -/
def draft (setting : Setting) (s : Testimonials) : SectionDraft :=
  let styles := setting.styles
  ⟨styles.altBackground, heading styles s.title s.subtitle :: quotes styles s⟩

end Testimonials

/-! ### Team -/

namespace Team

/-- The pieces of a text between white space. -/
def wordsOf (s : String) : List (List Char) :=
  (Text.splitBy Text.isSpace s.toList).filter fun word => !word.isEmpty

/-- The first characters of the first two names of a person. -/
def initials (name : String) : String :=
  String.ofList (((wordsOf name).filterMap List.head?).take 2)

/-- The portrait of a person, or the initials. -/
def portrait (styles : Styles) (classes : String) (member : TeamMember) : Draft :=
  match Text.unlessBlank member.imageDescription with
  | some description => picture styles classes description
  | none =>
    label "div"
      (classes ++ " flex items-center justify-center text-2xl font-bold text-white " ++
        styles.gradient) (initials member.name)

/-- The name of a person, and below it what the person does. -/
def nameAndRole (styles : Styles) (spacing : String) (member : TeamMember) : List Draft := [
  label "h3" (spacing ++ " text-lg font-semibold " ++ styles.heading) member.name,
  label "p" styles.primaryText member.role]

/-- A person in the grid. -/
def gridMember (styles : Styles) (member : TeamMember) : Draft :=
  stack "div" "text-center"
    (portrait styles "mx-auto h-40 w-40 rounded-full" member :: nameAndRole styles "mt-4" member)

/-- A person in the list. -/
def listMember (styles : Styles) (member : TeamMember) : Draft :=
  stack "li" "flex items-start gap-6 py-6" [
    portrait styles "h-20 w-20 flex-none rounded-full" member,
    bare "div"
      (nameAndRole styles "" member ++ paragraph ("mt-2 text-sm " ++ styles.body) member.bio)]

/-- A person on a card. -/
def cardMember (styles : Styles) (member : TeamMember) : Draft :=
  stack "div" ("overflow-hidden " ++ styles.card) [
    portrait styles "h-64 w-full" member,
    stack "div" "p-6"
      (nameAndRole styles "" member ++ paragraph ("mt-3 text-sm " ++ styles.body) member.bio)]

/-- The draft of a team. -/
def draft (setting : Setting) (s : Team) : SectionDraft :=
  let styles := setting.styles
  let members :=
    match s.layout with
    | .grid =>
      stack "div" "grid gap-10 sm:grid-cols-2 lg:grid-cols-4" (s.members.map (gridMember styles))
    | .list =>
      stack "ul" ("mx-auto max-w-3xl divide-y " ++ styles.border)
        (s.members.map (listMember styles))
    | .cards =>
      stack "div" "grid gap-8 sm:grid-cols-2 lg:grid-cols-3" (s.members.map (cardMember styles))
  ⟨styles.sectionBackground, [heading styles s.title s.subtitle, members]⟩

end Team

/-! ### Logo cloud -/

namespace LogoCloud

/-- The logo of a partner, or the name. -/
def logo (styles : Styles) (l : Logo) : Draft :=
  match Text.unlessBlank l.imageUrl with
  | some url =>
    void "img" [.link "src" url, .text "alt" l.name,
      .classes ("h-10 w-auto object-contain opacity-70 grayscale transition hover:opacity-100 " ++
        "hover:grayscale-0")]
  | none =>
    label "span" (styles.headingFont ++ " text-xl font-bold opacity-70 " ++ styles.muted) l.name

/-- The draft of partner logos. The moving layout shows them twice, so that its loop has no seam. -/
def draft (setting : Setting) (s : LogoCloud) : SectionDraft :=
  let styles := setting.styles
  let logos :=
    match s.layout with
    | .row => stack "div" "flex flex-wrap items-center justify-center gap-x-12 gap-y-8"
        (s.logos.map (logo styles))
    | .grid => stack "div" "grid grid-cols-2 gap-6 sm:grid-cols-3 lg:grid-cols-6"
        (s.logos.map fun l =>
          stack "div" ("flex items-center justify-center p-6 " ++ styles.card) [logo styles l])
    | .marquee => stack "div" "overflow-hidden" [
        stack "div" "flex w-max animate-[marquee_30s_linear_infinite] gap-16"
          ((s.logos ++ s.logos).map (logo styles))]
  ⟨styles.sectionBackground, heading? styles s.title ++ [logos]⟩

end LogoCloud

end Sitewright
