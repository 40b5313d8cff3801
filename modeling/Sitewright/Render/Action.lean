import Sitewright.Render.Draft

/-!
# Calls to action on a page

How banners, contact details and newsletter forms are laid out.
-/

namespace Sitewright

open Markup Draft

/-! ### Banner -/

namespace CtaBanner

/-- The call, in a colour. -/
def banner (styles : Styles) (color : String) (s : CtaBanner) : Draft :=
  label "h2"
    (styles.headingFont ++ " text-3xl font-bold tracking-tight sm:text-4xl " ++ color) s.headline

/-- The draft of a banner. -/
def draft (setting : Setting) (s : CtaBanner) : SectionDraft :=
  let styles := setting.styles
  match s.layout with
  | .centered =>
    ⟨styles.altBackground, [
      stack "div" "mx-auto max-w-2xl text-center"
        (banner styles styles.heading s ::
          paragraph ("mt-4 text-lg " ++ styles.body) s.subheadline ++
          [stack "div" "mt-8" [button styles.primaryButton s.cta]])]⟩
  | .split =>
    ⟨styles.sectionBackground, [
      stack "div"
        ("flex flex-col items-start justify-between gap-8 rounded-3xl p-10 lg:flex-row " ++
          "lg:items-center " ++ styles.card) [
        bare "div"
          (banner styles styles.heading s :: paragraph ("mt-2 " ++ styles.muted) s.subheadline),
        button styles.primaryButton s.cta]]⟩
  | .gradient =>
    ⟨styles.sectionBackground, [
      stack "div" ("rounded-3xl px-8 py-16 text-center text-white " ++ styles.gradient)
        (banner styles "text-white" s ::
          paragraph "mt-4 text-lg text-white/90" s.subheadline ++
          [stack "div" "mt-8" [
            button
              ("inline-flex items-center rounded-lg bg-white px-6 py-3 font-semibold text-" ++
                styles.theme.primary.tag ++ "-700 hover:bg-gray-100 " ++ styles.focusRing)
              s.cta]])]⟩

end CtaBanner

/-! ### Contact -/

namespace Contact

/-- How a business can be reached, as far as it says. -/
structure Details where
  /-- The mail address. -/
  email : Option String
  /-- The phone number. -/
  phone : Option String
  /-- The street address. -/
  address : Option String
  /-- The opening hours. -/
  hours : Option String

/-- A detail of the section, or else of the business; a blank one counts as missing. -/
def pick (own fallback : Option String) : Option String := Text.unlessBlank (own.or fallback)

/-- The details that a section shows. -/
def details (business : Business) (s : Contact) : Details where
  email := pick s.email business.email
  phone := pick s.phone business.phone
  address := pick s.address business.address
  hours := pick s.hours business.hours

/-- A detail under its name, with the link that leads to it. -/
structure Entry where
  /-- The name of the detail. -/
  name : String
  /-- The detail. -/
  value : String
  /-- Where it leads. -/
  target : Option String

/-- The link that dials a phone number: only its digits and plus signs count. -/
def dial (phone : String) : String :=
  "tel:" ++ String.ofList (phone.toList.filter fun c => c.isDigit || c == '+')

/-- The details that are known. -/
def entries (d : Details) : List Entry :=
  (d.email.map fun v => (⟨"Email", v, some ("mailto:" ++ v)⟩ : Entry)).toList ++
    (d.phone.map fun v => (⟨"Phone", v, some (dial v)⟩ : Entry)).toList ++
    (d.address.map fun v => (⟨"Address", v, none⟩ : Entry)).toList ++
    (d.hours.map fun v => (⟨"Hours", v, none⟩ : Entry)).toList

/-- A detail, as a link if it leads somewhere. -/
def value (styles : Styles) (entry : Entry) : Draft :=
  match entry.target with
  | some target =>
    element "a"
      [.link "href" target, .classes ("mt-2 block " ++ styles.body ++ " hover:underline")] .inline
      [text entry.value]
  | none => label "p" ("mt-2 whitespace-pre-line " ++ styles.body) entry.value

/-- The details in a list. -/
def list (styles : Styles) (classes : String) (d : Details) : Draft :=
  stack "dl" ("space-y-6 " ++ classes)
    ((entries d).map fun entry =>
      bare "div" [
        inline "dt" ("font-semibold " ++ styles.heading) [fixed entry.name],
        bare "dd" [value styles entry]])

/-- A detail on a card. -/
def card (styles : Styles) (entry : Entry) : Draft :=
  stack "div" ("p-6 text-center " ++ styles.card) [
    inline "h3"
      ("text-sm font-semibold uppercase tracking-wide " ++ styles.primaryText) [fixed entry.name],
    value styles entry]

/-- An input that must be filled in. -/
def field (styles : Styles) (tag : String) (attributes : List Attribute) (hint : String) : Draft :=
  void tag (attributes ++ [.flag "required", .fixed "placeholder" hint, .classes styles.input])

/-- A form whose answers are sent by mail. -/
def form (styles : Styles) (d : Details) : Draft :=
  let action :=
    match d.email with
    | some email => Attribute.link "action" ("mailto:" ++ email)
    | none => Attribute.fixed "action" "#"
  element "form"
    [action, .fixed "method" "post", .fixed "encType" "text/plain",
      .classes ("space-y-4 p-8 " ++ styles.card)] .aligned [
    field styles "input" [.fixed "type" "text", .fixed "name" "name"] "Your name",
    field styles "input" [.fixed "type" "email", .fixed "name" "email"] "you@example.com",
    field styles "textarea" [.fixed "name" "message", ⟨"rows", .expression "5"⟩] "How can we help?",
    element "button" [.fixed "type" "submit", .classes ("w-full " ++ styles.primaryButton)] .inline
      [fixed "Send message"]]

/-- The draft of contact details. -/
def draft (setting : Setting) (s : Contact) : SectionDraft :=
  let styles := setting.styles
  let d := details setting.business s
  let content :=
    match s.layout with
    | .form => stack "div" "mx-auto max-w-xl" [form styles d, list styles "mt-10 text-center" d]
    | .split => stack "div" "grid gap-12 lg:grid-cols-2" [list styles "" d, form styles d]
    | .cards =>
      stack "div" "grid gap-6 sm:grid-cols-2 lg:grid-cols-4" ((entries d).map (card styles))
  ⟨styles.altBackground, [heading styles s.title s.subtitle, content]⟩

end Contact

/-! ### Newsletter -/

namespace Newsletter

/-- The form to subscribe with. -/
def form (styles : Styles) (anchor : String) (s : Newsletter) : Draft :=
  let id := anchor ++ "-email"
  element "form" [.classes "mt-8 flex w-full max-w-md flex-col gap-3 sm:flex-row"] .aligned [
    element "label" [.fixed "htmlFor" id, .classes "sr-only"] .inline [fixed "Email address"],
    void "input" [.fixed "id" id, .fixed "type" "email", .fixed "name" "email", .flag "required",
      .text "placeholder" (s.placeholder.getD "Enter your email"), .classes styles.input],
    element "button" [.fixed "type" "submit", .classes styles.primaryButton] .inline
      [text (s.buttonText.getD "Subscribe")]]

/-- How a layout looks. -/
structure Look where
  /-- The frame around words and form. -/
  frame : String
  /-- The background of the section. -/
  background : String
  /-- The colour of the title. -/
  title : String
  /-- The line below the title. -/
  subtitle : String

/-- The look of a layout. -/
def look (styles : Styles) : Layout → Look
  | .inline =>
    ⟨"flex flex-col items-start justify-between gap-6 lg:flex-row lg:items-center",
      styles.sectionBackground, styles.heading, "mt-2 " ++ styles.muted⟩
  | .card =>
    ⟨"mx-auto flex max-w-2xl flex-col items-center p-10 text-center " ++ styles.card,
      styles.altBackground, styles.heading, "mt-3 " ++ styles.body⟩
  | .banner =>
    ⟨"flex flex-col items-center text-center", styles.gradient ++ " text-white", "text-white",
      "mt-3 text-white/90"⟩

/-- The draft of a newsletter form. -/
def draft (setting : Setting) (anchor : String) (s : Newsletter) : SectionDraft :=
  let styles := setting.styles
  let look := look styles s.layout
  ⟨look.background, [
    stack "div" look.frame [
      bare "div"
        (label "h2" (styles.headingFont ++ " text-3xl font-bold " ++ look.title) s.title ::
          paragraph look.subtitle s.subtitle),
      form styles anchor s]]⟩

end Newsletter

end Sitewright
