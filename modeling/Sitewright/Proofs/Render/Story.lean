import Sitewright.Proofs.Render.Draft
import Sitewright.Render.Story

/-!
# Clean stories

A story, articles, questions, processes, figures and galleries are drawn as clean markup.
-/

namespace Sitewright

open Markup Draft

variable {ok : ImageRequest → Prop} {logos : Prop} {styles : Styles} {classes : String}

/-! ### About -/

namespace About

theorem clean_titleLine (h : styles.Plain) (s : About) : Clean ok logos (titleLine styles s) :=
  .label rfl (.append (.before h.headingFont rfl) h.heading)

theorem clean_paragraphs (h : styles.Plain) (s : About) :
    CleanAll ok logos (paragraphs styles s) :=
  .map (fun _ ↦ .label rfl (.after rfl h.body)) _

theorem clean_points (h : styles.Plain) (s : About) : CleanAll ok logos (points styles s) := by
  have check : Clean ok logos (.inline "span" styles.primaryText [.fixed "&#10003;"]) :=
    .inline rfl h.primaryText (.singleton _) (.single (.fixed (.lit rfl)))
  have point (p : String) : Clean ok logos (.inline "li" ("flex gap-3 " ++ styles.body)
      [.inline "span" styles.primaryText [.fixed "&#10003;"], .text p]) :=
    .inline rfl (.after rfl h.body) (.cons_cons (.inl rfl) (.singleton _))
      (.cons check (.single .text))
  rw [points]
  split
  · exact .nil
  · exact .single (.stack rfl (.lit rfl) (.map point _))

theorem clean_milestone (h : styles.Plain) (s : String) : Clean ok logos (milestone styles s) := by
  have mark : Clean ok logos (.void "span"
      [.classes ("absolute -left-[2.6rem] top-1 h-4 w-4 rounded-full " ++ styles.gradient)]) :=
    .leaf rfl (.single (.ofClasses (.after rfl h.gradient)))
  exact .inline rfl (.lit rfl) (.cons_cons (.inl rfl) (.singleton _))
    (.cons mark (.single (.label rfl h.body)))

theorem clean_draft {setting : Setting} (h : setting.styles.Plain) (s : About) :
    (s.draft setting).Clean ImageRequest.Plain logos := by
  have content : CleanAll ImageRequest.Plain logos
      (titleLine setting.styles s :: paragraphs setting.styles s) :=
    .cons (clean_titleLine h s) (clean_paragraphs h s)
  refine ⟨h.sectionBackground, .single ?_⟩
  split
  · exact .stack rfl (.lit rfl) (.cons (.bare rfl (.append content (clean_points h s)))
      (.single (clean_picture h (.lit rfl) _)))
  · exact .stack rfl (.lit rfl) (.append content (clean_points h s))
  · exact .stack rfl (.lit rfl) (.append content (.single (.stack rfl (.after rfl h.border)
      (.map (clean_milestone h) _))))

end About

/-! ### Latest posts -/

namespace BlogPreview

/-- Texts with dots between them, apart from each other. -/
theorem clean_dotted (parts : List String) :
    ((parts.map text : List Draft).intersperse (fixed " &middot; ")).IsChain Beside ∧
      CleanAll ok logos ((parts.map text).intersperse (fixed " &middot; ")) := by
  induction parts with
  | nil => exact ⟨.nil, .nil⟩
  | cons part rest ih =>
    cases rest with
    | nil => exact ⟨.singleton _, .single .text⟩
    | cons next rest =>
      exact ⟨.cons_cons (.inr rfl) (ih.1.cons fun _ _ ↦ .inl rfl),
        .cons .text (.cons (.fixed (.lit rfl)) ih.2)⟩

theorem clean_meta? (h : styles.Plain) (post : BlogPost) :
    CleanAll ok logos (meta? styles post) := by
  rw [meta?]
  split
  · exact .nil
  · obtain ⟨chain, clean⟩ := clean_dotted ([post.date, post.author].filterMap Text.unlessBlank)
    exact .single (.inline rfl (.after rfl h.muted) chain clean)

theorem clean_words (h : styles.Plain) (post : BlogPost) :
    CleanAll ok logos (words styles post) := by
  have title : Text.Plain ("mt-2 " ++ styles.headingFont ++ " text-xl font-semibold " ++
      styles.heading) := .append (.before (.after rfl h.headingFont) rfl) h.heading
  have name : Clean ok logos (.element "a" [.link "href" (post.href.getD "#"),
      .classes "hover:underline"] .inline [.text post.title]) :=
    .wrap rfl (.cons (.ofLink rfl) (.single (.ofClasses (.lit rfl)))) .text
  have more : Clean ok logos (.element "a" [.link "href" (post.href.getD "#"),
      .classes ("mt-4 inline-block text-sm font-semibold " ++ styles.primaryText)] .inline
      [.fixed "Read more &rarr;"]) :=
    .wrap rfl (.cons (.ofLink rfl) (.single (.ofClasses (.after rfl h.primaryText))))
      (.fixed (.lit rfl))
  exact .append (.append (clean_meta? h post)
    (.cons (.inline rfl title (.singleton _) (.single name))
      (clean_paragraph (.after rfl h.body) _)))
    (.single more)

theorem clean_card (h : styles.Plain) (post : BlogPost) :
    Clean ImageRequest.Plain logos (card styles post) :=
  .stack rfl (.after rfl h.card) (.append (clean_picture? h (.lit rfl) _)
    (.single (.stack rfl (.lit rfl) (clean_words h post))))

theorem clean_lead (h : styles.Plain) (post : BlogPost) :
    Clean ImageRequest.Plain logos (lead styles post) :=
  .stack rfl (.after rfl h.card) (.append (clean_picture? h (.lit rfl) _)
    (.single (.stack rfl (.lit rfl) (clean_words h post))))

theorem clean_arrangement (h : styles.Plain) (s : BlogPreview) :
    CleanAll ImageRequest.Plain logos (arrangement styles s) := by
  rw [arrangement]
  split
  · exact .single (.stack rfl (.lit rfl) (.map (clean_card h) _))
  · exact .single (.stack rfl (.after rfl h.border)
      (.map (fun p ↦ .stack rfl (.lit rfl) (clean_words h p)) _))
  · split
    · exact .nil
    · exact .cons (clean_lead h _) (.single (.stack rfl (.lit rfl) (.map (clean_card h) _)))

theorem clean_draft {setting : Setting} (h : setting.styles.Plain) (s : BlogPreview) :
    (s.draft setting).Clean ImageRequest.Plain logos :=
  ⟨h.altBackground, .cons (clean_heading h _ _) (clean_arrangement h s)⟩

end BlogPreview

/-! ### Questions -/

namespace Faq

theorem clean_answer (h : styles.Plain) {spacing : String} (plain : Text.Plain spacing)
    (item : FaqItem) : Clean ok logos (answer styles spacing item) :=
  .label rfl (.append (.before plain rfl) h.body)

theorem clean_fold (h : styles.Plain) (item : FaqItem) : Clean ok logos (fold styles item) := by
  have mark : Clean ok logos (.inline "span" ("ml-4 transition-transform group-open:rotate-45 " ++
      styles.primaryText) [.fixed "+"]) :=
    .inline rfl (.after rfl h.primaryText) (.singleton _) (.single (.fixed (.lit rfl)))
  exact .stack rfl (.lit rfl) (.cons (.inline rfl (.after rfl h.heading)
    (.cons_cons (.inr rfl) (.singleton _))
    (.cons .text (.single mark))) (.single (clean_answer h (.lit rfl) item)))

theorem clean_pair (h : styles.Plain) (item : FaqItem) : Clean ok logos (pair styles item) :=
  .bare rfl (.cons (.label rfl (.after rfl h.heading))
    (.single (.wrap rfl .nil (clean_answer h (.lit rfl) item))))

theorem clean_draft {setting : Setting} (h : setting.styles.Plain) (s : Faq) :
    (s.draft setting).Clean ok logos := by
  refine ⟨h.sectionBackground, .cons (clean_heading h _ _) (.single ?_)⟩
  split
  · exact .stack rfl (.after rfl h.border) (.map (clean_fold h) _)
  · exact .stack rfl (.lit rfl) (.map (clean_pair h) _)
  · exact .stack rfl (.lit rfl) (.map (clean_pair h) _)

end Faq

/-! ### Process -/

namespace Process

theorem clean_number (h : styles.Plain) {position : String} (plain : Text.Plain position)
    (index : Nat) : Clean ok logos (number styles position index) :=
  .inline rfl (.append (.before plain rfl) h.gradient) (.singleton _)
    (.single (.fixed (Text.plain_toString _)))

theorem clean_item (h : styles.Plain) (plain : Text.Plain classes) {position : String}
    (plain' : Text.Plain position) (index : Nat) (step : ProcessStep) :
    Clean ok logos (item styles classes position index step) :=
  .stack rfl plain (.cons (clean_number h plain' index)
    (.cons (.label rfl (.after rfl h.heading)) (.single (.label rfl (.after rfl h.body)))))

theorem clean_draft {setting : Setting} (h : setting.styles.Plain) (s : Process) :
    (s.draft setting).Clean ok logos := by
  refine ⟨h.altBackground, .cons (clean_heading h _ _) (.single ?_)⟩
  split
  · exact .stack rfl (.lit rfl) (.mapIdx (clean_item h (.lit rfl) (.lit rfl)) _)
  · exact .stack rfl (.after rfl h.border) (.mapIdx (clean_item h (.lit rfl) (.lit rfl)) _)
  · exact .stack rfl (.lit rfl) (.mapIdx (clean_item h (.after rfl h.card) (.lit rfl)) _)

end Process

/-! ### Figures -/

namespace Stats

/-- The look of a layout is plain. -/
structure Look.Plain (look : Look) : Prop where
  background : Text.Plain look.background
  grid : Text.Plain look.grid
  value : Text.Plain look.value
  label : Text.Plain look.label
  cell : Attribute.CleanAll look.cell

theorem plain_look (h : styles.Plain) (layout : Layout) : (look styles layout).Plain := by
  cases layout with
  | row => exact ⟨h.sectionBackground, .lit rfl, .append (.before h.headingFont rfl) h.primaryText,
      .after rfl h.muted, .nil⟩
  | cards => exact ⟨h.altBackground, .lit rfl, .append (.before h.headingFont rfl) h.heading,
    .after rfl h.muted,
      .single (.ofClasses (.after rfl h.card))⟩
  | banner => exact ⟨.before h.gradient rfl, .lit rfl, .before h.headingFont rfl, .lit rfl, .nil⟩

theorem clean_draft {setting : Setting} (h : setting.styles.Plain) (s : Stats) :
    (s.draft setting).Clean ok logos := by
  have look := plain_look h s.layout
  exact ⟨look.background, .append (clean_heading? h s.title) (.single (.stack rfl look.grid
    (.map (fun _ ↦ .stacked rfl look.cell (.cons (.label rfl look.value)
      (.single (.label rfl look.label)))) _)))⟩

end Stats

/-! ### Gallery -/

namespace Gallery

theorem plain_frame (layout : Layout) : Text.Plain (frame layout) := by
  cases layout <;> exact .lit rfl

theorem plain_tile (index : Nat) (layout : Layout) : Text.Plain (tile index layout) := by
  cases layout with
  | grid => exact .lit rfl
  | masonry =>
    rw [tile]
    split
    · exact .lit rfl
    · split <;> exact .lit rfl
  | carousel => exact .lit rfl

theorem clean_figure (h : styles.Plain) (layout : Layout) (index : Nat) (item : GalleryItem) :
    Clean ImageRequest.Plain logos (figure styles layout index item) := by
  refine .stack rfl ?_ (.cons (clean_picture h (plain_tile index layout) _)
    (.option (fun _ ↦ .label rfl (.after rfl h.muted)) _))
  split <;> exact .lit rfl

theorem clean_draft {setting : Setting} (h : setting.styles.Plain) (s : Gallery) :
    (s.draft setting).Clean ImageRequest.Plain logos :=
  ⟨h.sectionBackground, .cons (clean_heading h _ _)
    (.single (.stack rfl (plain_frame s.layout) (.mapIdx (clean_figure h s.layout) _)))⟩

end Gallery

end Sitewright
