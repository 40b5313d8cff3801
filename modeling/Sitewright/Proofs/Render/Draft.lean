import Sitewright.Proofs.Image.Pictures
import Sitewright.Render.Draft

/-!
# Clean drafts

The texts that renderers write themselves are put together from words of the library and the style
classes of a theme, all of which are plain (`Theme.plain_styles`). So a draft is clean in the sense
of `Markup.Clean` whatever the texts in it are. This module has the classes and the pieces that
renderers share; the modules beside it go through the renderers one by one.
-/

namespace Sitewright

open Markup

/-! ### Style classes -/

/-- All style classes are plain. -/
structure Styles.Plain (styles : Styles) : Prop where
  page : Text.Plain styles.page
  sectionBackground : Text.Plain styles.sectionBackground
  altBackground : Text.Plain styles.altBackground
  card : Text.Plain styles.card
  heading : Text.Plain styles.heading
  body : Text.Plain styles.body
  muted : Text.Plain styles.muted
  border : Text.Plain styles.border
  gradient : Text.Plain styles.gradient
  primaryText : Text.Plain styles.primaryText
  primaryButton : Text.Plain styles.primaryButton
  secondaryButton : Text.Plain styles.secondaryButton
  badge : Text.Plain styles.badge
  input : Text.Plain styles.input
  focusRing : Text.Plain styles.focusRing
  imageFallback : Text.Plain styles.imageFallback
  headingFont : Text.Plain styles.headingFont
  bodyFont : Text.Plain styles.bodyFont

/-- The classes of the title of a page are plain. -/
theorem Styles.Plain.pageTitle {styles : Styles} (h : styles.Plain) :
    Text.Plain ("mx-auto max-w-7xl px-6 " ++ styles.headingFont ++ " text-4xl font-bold " ++
      styles.heading) :=
  .append (.before (.after rfl h.headingFont) rfl) h.heading

theorem PaletteColor.plain_tag (color : PaletteColor) : Text.Plain color.tag := by
  cases color <;> exact .lit rfl

namespace Theme

theorem plain_textOnFill (color : PaletteColor) : Text.Plain (textOnFill color) := by
  rw [textOnFill]
  split <;> exact .lit rfl

end Theme

/-- The classes of surfaces are plain. -/
structure Surfaces.Plain (surfaces : Surfaces) : Prop where
  page : Text.Plain surfaces.page
  sectionBackground : Text.Plain surfaces.sectionBackground
  altBackground : Text.Plain surfaces.altBackground
  card : Text.Plain surfaces.card
  heading : Text.Plain surfaces.heading
  body : Text.Plain surfaces.body
  muted : Text.Plain surfaces.muted
  border : Text.Plain surfaces.border
  input : Text.Plain surfaces.input

theorem Surfaces.plain_dark : Surfaces.dark.Plain where
  page := .lit rfl
  sectionBackground := .lit rfl
  altBackground := .lit rfl
  card := .lit rfl
  heading := .lit rfl
  body := .lit rfl
  muted := .lit rfl
  border := .lit rfl
  input := .append (.lit rfl) (.lit rfl)

theorem Surfaces.plain_light (primary : PaletteColor) : (Surfaces.light primary).Plain where
  page := .lit rfl
  sectionBackground := .lit rfl
  altBackground := .before (.after rfl primary.plain_tag) rfl
  card := .lit rfl
  heading := .lit rfl
  body := .lit rfl
  muted := .lit rfl
  border := .lit rfl
  input := .append (.lit rfl) (.lit rfl)

namespace Theme

theorem plain_surfaces (theme : Theme) : theme.surfaces.Plain := by
  rw [surfaces]
  split
  · exact Surfaces.plain_dark
  · exact Surfaces.plain_light theme.primary

/-- The style classes of a theme are plain, whatever the theme. -/
theorem plain_styles (theme : Theme) : theme.styles.Plain := by
  have primary := theme.primary.plain_tag
  have secondary := theme.secondary.plain_tag
  have accent := theme.accent.plain_tag
  have shade := Text.plain_toString theme.shade
  have darker := Text.plain_toString (theme.shade + 100)
  have surfaces := theme.plain_surfaces
  have focusRing : Text.Plain ("focus:outline-none focus:ring-2 focus:ring-" ++
      theme.primary.tag ++ "-500 focus:ring-offset-2") := .before (.after rfl primary) rfl
  have fill := plain_textOnFill theme.primary
  have text : Text.Plain (if theme.isDark then "400" else toString theme.shade) := by
    split
    · exact .lit rfl
    · exact shade
  exact
    { page := surfaces.page
      sectionBackground := surfaces.sectionBackground
      altBackground := surfaces.altBackground
      card := surfaces.card
      heading := surfaces.heading
      body := surfaces.body
      muted := surfaces.muted
      border := surfaces.border
      gradient := by
        refine .append (.before (.append ?_ secondary) rfl) shade
        exact .before (.append (.before (.after rfl primary) rfl) shade) rfl
      primaryText := .append (.before (.after rfl primary) rfl) text
      primaryButton := by
        refine .append (.before (.append ?_ darker) rfl) focusRing
        refine .before (.append (.before (.append ?_ fill) rfl) primary) rfl
        exact .before (.append (.before (.append (.append (.lit rfl)
          (.lit rfl)) primary) rfl) shade) rfl
      secondaryButton := by
        refine .append (.before (.append ?_ primary) rfl) focusRing
        refine .before (.append (.before (.append ?_ primary) rfl) shade) rfl
        exact .before (.append (.before (.append (.append (.lit rfl)
          (.lit rfl)) primary) rfl) shade) rfl
      badge := .before (.append (.before (.after rfl accent) rfl) accent) rfl
      input := .append (.before surfaces.input rfl) focusRing
      focusRing := focusRing
      imageFallback :=
        .before (.append (.before (.append (.before
          (.after rfl primary) rfl) secondary) rfl) accent) rfl
      headingFont := .lit rfl
      bodyFont := .lit rfl }

end Theme

/-! ### Shared pieces -/

variable {ok : ImageRequest → Prop} {logos : Prop} {styles : Styles} {classes : String}

/-- The background of a section and what it holds are clean. -/
structure SectionDraft.Clean (ok : ImageRequest → Prop) (logos : Prop) (draft : SectionDraft) :
    Prop where
  background : Text.Plain draft.background
  children : CleanAll ok logos draft.children

/-- The frame of a section adds nothing but its name and its anchor. -/
theorem SectionDraft.Clean.root {draft : SectionDraft} (h : draft.Clean ok logos) {anchor : String}
    (plain : Text.Plain anchor) (name : String) :
    Markup.Clean ok logos (draft.component name anchor).root :=
  .aligned rfl (.cons (.ofFixed rfl plain) (.single (.ofClasses (.after rfl h.background))))
    (.single (.stack rfl (.lit rfl) h.children))

namespace Draft

theorem clean_picture (h : styles.Plain) (plain : Text.Plain classes) (description : String) :
    Clean ImageRequest.Plain logos (picture styles classes description) :=
  .image ⟨plain, h.imageFallback⟩

theorem clean_picture? (h : styles.Plain) (plain : Text.Plain classes)
    (description : Option String) :
    CleanAll ImageRequest.Plain logos (picture? styles classes description) :=
  .option (clean_picture h plain) _

theorem clean_button (plain : Text.Plain classes) (link : CtaLink) :
    Clean ok logos (button classes link) :=
  .wrap rfl (.cons (.ofLink rfl) (.single (.ofClasses plain))) .text

theorem clean_paragraph (plain : Text.Plain classes) (s : Option String) :
    CleanAll ok logos (paragraph classes s) :=
  .option (fun _ ↦ .label rfl plain) _

theorem clean_heading (h : styles.Plain) (title : String) (subtitle : Option String) :
    Clean ok logos (heading styles title subtitle) := by
  have title : Text.Plain (styles.headingFont ++
      " text-3xl font-bold tracking-tight sm:text-4xl " ++ styles.heading) :=
    .append (.before h.headingFont rfl) h.heading
  exact .aligned rfl (.single (.ofClasses (.lit rfl)))
    (.cons (.label rfl title) (clean_paragraph (.after rfl h.muted) subtitle))

theorem clean_heading? (h : styles.Plain) (title : Option String) :
    CleanAll ok logos (heading? styles title) :=
  .option (fun t ↦ clean_heading h t none) _

end Draft

end Sitewright
