import Sitewright.Proofs.Markup.Subjects
import Sitewright.Proofs.Render.Section

/-!
# What sections show

Which pictures a section asks for, in which order and for which places, and which logos it shows, is
said here for each kind of section, by a function of the section and, for one kind, the name of the
business (`Section.subjects`). Its draft has exactly these subjects, whatever the style classes are
(`Section.subjects_source`); so a theme decides neither what is asked for nor what an image tag
says.

Of each renderer only the part that draws pictures counts, since words have no subjects; and the
kinds of section that are clean without pictures and logos have none at all.
-/

namespace Sitewright

open Markup Draft

variable (styles : Styles) (setting : Setting)

/-! ### About -/

namespace About

/-- The picture beside a story. -/
def subjects (business : Business) (s : About) : List Subject :=
  match s.layout with
  | .split => [.picture ((Text.unlessBlank s.imageDescription).getD
      ("The team at " ++ business.name)) "h-96 w-full rounded-2xl"]
  | .centered | .timeline => []

theorem subjects_points (s : About) : subjectsOfAll (points styles s) = [] := by
  rw [points]
  split <;> simp

theorem subjects_draft (s : About) :
    subjectsOfAll (s.draft setting).children = s.subjects setting.business := by
  rw [draft, subjects]
  cases s.layout <;> simp [titleLine, paragraphs, subjects_points, milestone]

end About

/-! ### Latest posts -/

namespace BlogPreview

/-- The pictures of articles, as a layout arranges them. -/
def subjects (s : BlogPreview) : List Subject :=
  match s.layout with
  | .grid => s.posts.flatMap (described "h-48 w-full" ·.imageDescription)
  | .list => []
  | .featured =>
    match s.posts with
    | [] => []
    | first :: rest => described "h-80 w-full lg:h-full" first.imageDescription ++
        rest.flatMap (described "h-48 w-full" ·.imageDescription)

theorem subjects_words (post : BlogPost) : subjectsOfAll (words styles post) = [] := by
  have dotted (parts : List String) :
      subjectsOfAll ((parts.map text).intersperse (fixed " &middot; ")) = [] :=
    subjectsOfAll_eq_nil (clean_dotted parts).2
  have below : subjectsOfAll (meta? styles post) = [] := by
    rw [meta?]
    split <;> simp [dotted]
  simp [words, below]

theorem subjects_card (post : BlogPost) :
    (card styles post).subjects = described "h-48 w-full" post.imageDescription := by
  simp [card, subjects_words]

theorem subjects_lead (post : BlogPost) :
    (lead styles post).subjects = described "h-80 w-full lg:h-full" post.imageDescription := by
  simp [lead, subjects_words]

theorem subjects_draft (s : BlogPreview) :
    subjectsOfAll (s.draft setting).children = s.subjects := by
  rw [draft, subjects, arrangement]
  cases s.layout with
  | grid => simp [subjects_card]
  | list => simp [subjects_words]
  | featured => cases s.posts <;> simp [subjects_card, subjects_lead]

end BlogPreview

/-! ### Gallery -/

namespace Gallery

/-- The pictures of a gallery. -/
def subjects (s : Gallery) : List Subject :=
  s.items.mapIdx fun i item ↦ .picture item.imageDescription (tile i s.layout)

theorem subjects_figure (layout : Layout) (index : Nat) (item : GalleryItem) :
    (figure styles layout index item).subjects =
      [.picture item.imageDescription (tile index layout)] := by
  have caption : subjectsOfAll ((Text.unlessBlank item.caption).map
      (label "figcaption" ("mt-2 text-sm " ++ styles.muted))).toList = [] :=
    subjectsOfAll_option (fun _ ↦ subjects_label) _
  simp [figure, caption]

theorem subjects_draft (s : Gallery) :
    subjectsOfAll (s.draft setting).children = s.subjects := by
  have pictures := subjectsOfAll_mapIdx (subjects_figure setting.styles s.layout) s.items
  simp [draft, subjects, pictures]

end Gallery

/-! ### Hero -/

namespace Hero

/-- The picture of a hero, if its layout shows one. -/
def subjects (hero : Hero) : List Subject :=
  if hero.layout.hasImage then [.picture hero.imageDescription "h-full w-full"] else []

theorem subjects_words (alignment : String) (hero : Hero) :
    subjectsOfAll (words styles alignment hero) = [] := by
  have second (classes : String) :
      subjectsOfAll (hero.secondaryCta.map (button classes)).toList = [] :=
    subjectsOfAll_option (subjects_button classes) _
  have buttons : subjectsOfAll (buttons styles hero) = [] := by
    rw [buttons, subjectsOfAll_cons, subjects_button, second, List.append_nil]
  rw [words]
  split
  simp [buttons]

theorem subjects_component (hero : Hero) :
    (hero.component setting).root.subjects = hero.subjects := by
  rw [component, subjects_element, draft, subjects]
  cases hero.layout <;>
    simp [Layout.hasImage, fullScreen, centeredWords, subjects_words, image]

end Hero

/-! ### Feature grid -/

namespace FeatureGrid

/-- The pictures beside features. -/
def subjects (s : FeatureGrid) : List Subject :=
  match s.layout with
  | .cards | .icons => []
  | .alternating => s.features.mapIdx fun _ feature ↦
      .picture (feature.title ++ ": " ++ feature.description) "h-72 w-full"

theorem subjects_row (index : Nat) (feature : Feature) : (row styles index feature).subjects =
    [.picture (feature.title ++ ": " ++ feature.description) "h-72 w-full"] := by
  simp [row, name, description]

theorem subjects_draft (s : FeatureGrid) :
    subjectsOfAll (s.draft setting).children = s.subjects := by
  have rows := subjectsOfAll_mapIdx (subjects_row setting.styles) s.features
  rw [draft, subjects]
  cases s.layout <;> simp [card, icon, name, description, rows]

end FeatureGrid

/-! ### Menu -/

namespace Menu

/-- The pictures of dishes, if they are on cards. -/
def subjects (s : Menu) : List Subject :=
  match s.layout with
  | .cards => s.categories.flatMap (·.items.flatMap (described "h-48 w-full" ·.imageDescription))
  | .list | .tabbed | .elegant => []

theorem subjects_tags (item : MenuItem) : subjectsOfAll (tags styles item) = [] := by
  rw [tags]
  split <;> simp

theorem subjects_draft (s : Menu) : subjectsOfAll (s.draft setting).children = s.subjects := by
  have tabs : subjectsOfAll (s.categories.mapIdx (tab setting.styles)) = [] := by
    rw [subjectsOfAll_eq_flatMap, List.flatMap_eq_nil_iff]
    intro m mem
    obtain ⟨i, hi, rfl⟩ := List.mem_mapIdx.mp mem
    simp [tab, listItem, nameAndPrice, subjects_tags]
  rw [draft, subjects]
  cases s.layout <;>
    simp [group, listItem, cardItem, nameAndPrice, subjects_tags, tabs, elegantGroup, elegantItem]

end Menu

/-! ### Product grid -/

namespace ProductGrid

/-- The picture of a product. -/
def subject (classes : String) (product : Product) : Subject :=
  .picture ((Text.unlessBlank product.imageDescription).getD ("Product photo of " ++ product.name))
    classes

/-- The pictures of products, as a layout arranges them. -/
def subjects (s : ProductGrid) : List Subject :=
  match s.layout with
  | .grid => s.products.map (subject "h-56 w-full")
  | .carousel => s.products.map (subject "h-64 w-full")
  | .featured => (s.products.take 1).map (subject "h-96 w-full") ++
      (s.products.drop 1).map (subject "h-48 w-full")

theorem subjects_card (classes : String) (product : Product) :
    (card styles classes product).subjects = [subject classes product] := by
  have badge (place : String) (s : Option String) : subjectsOfAll (badge styles place s) = [] :=
    subjectsOfAll_option (fun _ ↦ subjects_label) _
  have details : subjectsOfAll (product.href.map (details styles)).toList = [] :=
    subjectsOfAll_option (fun _ ↦ by simp [ProductGrid.details]) _
  simp [card, image, subject, badge, details]

theorem subjects_lead (product : Product) :
    (lead styles product).subjects = [subject "h-96 w-full" product] := by
  have badge (s : Option String) : subjectsOfAll (looseBadge styles s) = [] :=
    subjectsOfAll_option (fun _ ↦ subjects_label) _
  simp [lead, image, subject, badge]

theorem subjects_draft (s : ProductGrid) :
    subjectsOfAll (s.draft setting).children = s.subjects := by
  have cards (classes : String) (products : List Product) :
      subjectsOfAll (products.map (card setting.styles classes)) =
        products.map (subject classes) := by
    simp [subjects_card, ← List.map_eq_flatMap]
  have leads (products : List Product) : subjectsOfAll (products.map (lead setting.styles)) =
      products.map (subject "h-96 w-full") := by
    simp [subjects_lead, ← List.map_eq_flatMap]
  rw [draft, subjects, arrangement, subjectsOfAll_cons, subjects_heading, List.nil_append]
  cases s.layout with
  | grid =>
    simp only [subjectsOfAll_cons, subjects_stack, cards, subjectsOfAll_nil, List.append_nil]
  | carousel => simp [subjects_card, ← List.map_eq_flatMap]
  | featured =>
    simp only [subjectsOfAll_append, leads, subjectsOfAll_cons, subjects_stack, cards,
      subjectsOfAll_nil, List.append_nil]

end ProductGrid

/-! ### Team -/

namespace Team

/-- The portraits of people, where they have one. -/
def subjects (s : Team) : List Subject :=
  let portraits (classes : String) := s.members.flatMap (described classes ·.imageDescription)
  match s.layout with
  | .grid => portraits "mx-auto h-40 w-40 rounded-full"
  | .list => portraits "h-20 w-20 flex-none rounded-full"
  | .cards => portraits "h-64 w-full"

theorem subjects_portrait (classes : String) (member : TeamMember) :
    (portrait styles classes member).subjects = described classes member.imageDescription := by
  rw [portrait, described]
  cases Text.unlessBlank member.imageDescription <;> simp

theorem subjects_draft (s : Team) : subjectsOfAll (s.draft setting).children = s.subjects := by
  rw [draft, subjects]
  cases s.layout <;>
    simp [gridMember, listMember, cardMember, nameAndRole, subjects_portrait]

end Team

/-! ### Logo cloud -/

namespace LogoCloud

/-- The logo of a partner, if there is one. -/
def subject? (l : Logo) : List Subject :=
  ((Text.unlessBlank l.imageUrl).map fun url ↦
    .logo [.link "src" url, .text "alt" l.name,
      .classes ("h-10 w-auto object-contain opacity-70 grayscale transition hover:opacity-100 " ++
        "hover:grayscale-0")]).toList

/-- The logos of partners. The moving layout shows them twice. -/
def subjects (s : LogoCloud) : List Subject :=
  match s.layout with
  | .row | .grid => s.logos.flatMap subject?
  | .marquee => (s.logos ++ s.logos).flatMap subject?

theorem subjects_logo (l : Logo) : (logo styles l).subjects = subject? l := by
  rw [logo, subject?]
  cases Text.unlessBlank l.imageUrl <;> simp

theorem subjects_draft (s : LogoCloud) : subjectsOfAll (s.draft setting).children = s.subjects := by
  rw [draft, subjects]
  cases s.layout <;> simp [subjects_logo]

end LogoCloud

/-! ### Sections -/

namespace Section

/-- What a section shows on the site of a business. -/
def subjects (business : Business) : Section → List Subject
  | about s => s.subjects business
  | blogPreview s => s.subjects
  | gallery s => s.subjects
  | featureGrid s => s.subjects
  | menu s => s.subjects
  | productGrid s => s.subjects
  | team s => s.subjects
  | logoCloud s => s.subjects
  | custom s => [.code s.code]
  | testimonials _ | pricing _ | stats _ | ctaBanner _ | contact _ | faq _ | newsletter _
  | process _ => []

/-- **What a section shows does not depend on the theme.** -/
theorem subjects_source {setting : Setting} (h : setting.styles.Plain) {anchor : String}
    (plain : Text.Plain anchor) (name : String) (s : Section) :
    (s.source setting name anchor).subjects = s.subjects setting.business := by
  have none {draft : SectionDraft} (clean : draft.Clean (fun _ ↦ False) False) :
      (draft.component name anchor).root.subjects = [] :=
    (clean.root plain name).subjects_eq_nil
  have root (draft : SectionDraft) := SectionDraft.subjects_root name anchor draft
  cases s with
  | about s => exact (root _).trans (s.subjects_draft setting)
  | blogPreview s => exact (root _).trans (s.subjects_draft setting)
  | gallery s => exact (root _).trans (s.subjects_draft setting)
  | featureGrid s => exact (root _).trans (s.subjects_draft setting)
  | menu s => exact (root _).trans (s.subjects_draft setting)
  | productGrid s => exact (root _).trans (s.subjects_draft setting)
  | team s => exact (root _).trans (s.subjects_draft setting)
  | logoCloud s => exact (root _).trans (s.subjects_draft setting)
  | custom s => rfl
  | testimonials s => exact none (s.clean_draft h)
  | pricing s => exact none (s.clean_draft h)
  | stats s => exact none (s.clean_draft h)
  | ctaBanner s => exact none (s.clean_draft h)
  | contact s => exact none (s.clean_draft h)
  | faq s => exact none (s.clean_draft h)
  | newsletter s => exact none (s.clean_draft h plain)
  | process s => exact none (s.clean_draft h)

end Section

end Sitewright
