import Sitewright.Proofs.Render.Draft
import Sitewright.Render.Action

/-!
# Clean calls to action

Banners, contact details and newsletter forms are drawn as clean markup.
-/

namespace Sitewright

open Markup Draft

variable {ok : ImageRequest → Prop} {logos : Prop} {styles : Styles} {classes : String}

/-! ### Banner -/

namespace CtaBanner

theorem clean_banner (h : styles.Plain) {color : String} (plain : Text.Plain color)
    (s : CtaBanner) : Clean ok logos (banner styles color s) :=
  .label rfl (.append (.before h.headingFont rfl) plain)

theorem clean_draft {setting : Setting} (h : setting.styles.Plain) (s : CtaBanner) :
    (s.draft setting).Clean ok logos := by
  delta draft
  cases s.layout with
  | centered =>
    exact ⟨h.altBackground, .single (.stack rfl (.lit rfl) (.append
      (.cons (clean_banner h h.heading s) (clean_paragraph (.after rfl h.body) _))
      (.single (.stack rfl (.lit rfl) (.single (clean_button h.primaryButton _))))))⟩
  | split =>
    exact ⟨h.sectionBackground, .single (.stack rfl (.append (.append (.lit rfl) (.lit rfl)) h.card)
      (.cons
      (.bare rfl (.cons (clean_banner h h.heading s) (clean_paragraph (.after rfl h.muted) _)))
      (.single (clean_button h.primaryButton _))))⟩
  | gradient =>
    exact ⟨h.sectionBackground, .single (.stack rfl (.after rfl h.gradient) (.append
      (.cons (clean_banner h (.lit rfl) s) (clean_paragraph (.lit rfl) _))
      (.single (.stack rfl (.lit rfl) (.single (clean_button
        (.append
          (.before (.after rfl setting.styles.theme.primary.plain_tag) rfl) h.focusRing) _))))))⟩

end CtaBanner

/-! ### Contact -/

namespace Contact

theorem clean_value (h : styles.Plain) (entry : Entry) : Clean ok logos (value styles entry) := by
  delta value
  cases entry.target with
  | some target =>
    exact .wrap rfl (.cons (.ofLink rfl) (.single (.ofClasses (.before (.after rfl h.body) rfl))))
      .text
  | none => exact .label rfl (.after rfl h.body)

/-- The names of details are plain. -/
theorem plain_name {d : Details} {entry : Entry} (mem : entry ∈ entries d) :
    Text.Plain entry.name := by
  simp only [entries, List.mem_append, Option.mem_toList, Option.map_eq_some_iff] at mem
  rcases mem with ((⟨_, -, rfl⟩ | ⟨_, -, rfl⟩) | ⟨_, -, rfl⟩) | ⟨_, -, rfl⟩ <;> exact .lit rfl

theorem clean_list (h : styles.Plain) (plain : Text.Plain classes) (d : Details) :
    Clean ok logos (list styles classes d) := by
  refine .stack rfl (.after rfl plain) fun m mem ↦ ?_
  obtain ⟨entry, hentry, rfl⟩ := List.mem_map.mp mem
  exact .bare rfl (.cons (.inline rfl (.after rfl h.heading) (.singleton _)
    (.single (.fixed (plain_name hentry))))
    (.single (.bare rfl (.single (clean_value h entry)))))

theorem clean_card (h : styles.Plain) {entry : Entry} (plain : Text.Plain entry.name) :
    Clean ok logos (card styles entry) :=
  .stack rfl (.after rfl h.card) (.cons
    (.inline rfl (.after rfl h.primaryText) (.singleton _) (.single (.fixed plain)))
    (.single (clean_value h entry)))

theorem clean_field {name hint : List Char} {attributes : List Attribute} (h : styles.Plain)
    (tag : isTagName name = true) (clean : Attribute.CleanAll attributes)
    (plain : hint.all Text.isPlain = true) :
    Clean ok logos (field styles (.ofList name) attributes (.ofList hint)) := by
  have classes : (Attribute.classes styles.input).Clean := .ofClasses h.input
  exact .leaf tag (.append clean (.cons (.ofFlag rfl)
    (.cons (.ofWord rfl plain) (.single classes))))

theorem clean_form (h : styles.Plain) (d : Details) : Clean ok logos (form styles d) := by
  have send : Clean ok logos (.element "button" [.fixed "type" "submit",
      .classes ("w-full " ++ styles.primaryButton)] .inline [.fixed "Send message"]) :=
    .wrap rfl (.cons (.ofWord rfl rfl) (.single (.ofClasses (.after rfl h.primaryButton))))
      (.fixed (.lit rfl))
  refine .aligned rfl (.cons ?_ (.cons (.ofWord rfl rfl) (.cons (.ofWord rfl rfl)
    (.single (.ofClasses (.after rfl h.card)))))) (.cons ?_ (.cons ?_ (.cons ?_ (.single send))))
  · cases d.email with
    | some email => exact .ofLink rfl
    | none => exact .ofWord rfl rfl
  · exact clean_field h rfl (.cons (.ofWord rfl rfl) (.single (.ofWord rfl rfl))) rfl
  · exact clean_field h rfl (.cons (.ofWord rfl rfl) (.single (.ofWord rfl rfl))) rfl
  · exact clean_field h rfl (.cons (.ofWord rfl rfl) (.single (.ofExpression rfl (.lit rfl)))) rfl

theorem clean_draft {setting : Setting} (h : setting.styles.Plain) (s : Contact) :
    (s.draft setting).Clean ok logos := by
  refine ⟨h.altBackground, .cons (clean_heading h _ _) (.single ?_)⟩
  split
  · exact .stack rfl (.lit rfl) (.cons (clean_form h _) (.single (clean_list h (.lit rfl) _)))
  · exact .stack rfl (.lit rfl) (.cons (clean_list h (.lit rfl) _) (.single (clean_form h _)))
  · refine .stack rfl (.lit rfl) fun m mem ↦ ?_
    obtain ⟨entry, hentry, rfl⟩ := List.mem_map.mp mem
    exact clean_card h (plain_name hentry)

end Contact

/-! ### Newsletter -/

namespace Newsletter

theorem clean_form (h : styles.Plain) {anchor : String} (plain : Text.Plain anchor)
    (s : Newsletter) : Clean ok logos (form styles anchor s) := by
  have id : Text.Plain (anchor ++ "-email") := .before plain rfl
  have label : Clean ok logos (.element "label" [.fixed "htmlFor" (anchor ++ "-email"),
      .classes "sr-only"] .inline [.fixed "Email address"]) :=
    .wrap rfl (.cons (.ofFixed rfl id) (.single (.ofClasses (.lit rfl)))) (.fixed (.lit rfl))
  have input : Clean ok logos (.void "input" [.fixed "id" (anchor ++ "-email"),
      .fixed "type" "email", .fixed "name" "email", .flag "required",
      .text "placeholder" (s.placeholder.getD "Enter your email"), .classes styles.input]) :=
    .leaf rfl (.cons (.ofFixed rfl id) (.cons (.ofWord rfl rfl)
      (.cons (.ofWord rfl rfl) (.cons (.ofFlag rfl)
      (.cons (.ofText rfl) (.single (.ofClasses h.input)))))))
  have send : Clean ok logos (.element "button" [.fixed "type" "submit",
      .classes styles.primaryButton] .inline [.text (s.buttonText.getD "Subscribe")]) :=
    .wrap rfl (.cons (.ofWord rfl rfl) (.single (.ofClasses h.primaryButton))) .text
  exact .aligned rfl (.single (.ofClasses (.lit rfl))) (.cons label (.cons input (.single send)))

/-- The look of a layout is plain. -/
structure Look.Plain (look : Look) : Prop where
  frame : Text.Plain look.frame
  background : Text.Plain look.background
  title : Text.Plain look.title
  subtitle : Text.Plain look.subtitle

theorem plain_look (h : styles.Plain) (layout : Layout) : (look styles layout).Plain := by
  cases layout with
  | inline => exact ⟨.lit rfl, h.sectionBackground, h.heading, .after rfl h.muted⟩
  | card => exact ⟨.after rfl h.card, h.altBackground, h.heading, .after rfl h.body⟩
  | banner => exact ⟨.lit rfl, .before h.gradient rfl, .lit rfl, .lit rfl⟩

theorem clean_draft {setting : Setting} (h : setting.styles.Plain) {anchor : String}
    (plain : Text.Plain anchor) (s : Newsletter) : (s.draft setting anchor).Clean ok logos := by
  have look := plain_look h s.layout
  exact ⟨look.background, .single (.stack rfl look.frame (.cons
    (.bare rfl (.cons (.label rfl (.append (.before h.headingFont rfl) look.title))
      (clean_paragraph look.subtitle _))) (.single (clean_form h plain s))))⟩

end Newsletter

end Sitewright
