import Sitewright.Proofs.Render.Draft
import Sitewright.Render.People

/-!
# Clean people

Customer quotes, a team and the logos of partners are drawn as clean markup. A logo is an image tag
whose address comes from the configuration, so it is the one thing in a section that looks like a
picture and is none.
-/

namespace Sitewright

open Markup Draft

variable {ok : ImageRequest → Prop} {logos : Prop} {styles : Styles} {classes : String}

/-! ### Testimonials -/

namespace Testimonials

theorem plain_stars (n : Nat) : Text.Plain (.ofList (List.replicate n '★')) :=
  .ofList fun c mem ↦ by
    rw [List.eq_of_mem_replicate mem]
    decide

theorem clean_stars (styles : Styles) (rating : Option Nat) :
    CleanAll ok logos (stars styles rating) := by
  cases rating with
  | none => exact .nil
  | some rating =>
    cases rating with
    | zero => exact .nil
    | succ n =>
      have filled := Text.plain_toString (min (n + 1) 5)
      exact .single (.wrap rfl (.cons (.ofClasses (.before
        (.after rfl styles.theme.accent.plain_tag) rfl))
        (.single (.ofFixed rfl (.before filled rfl)))) (.fixed (plain_stars _)))

theorem clean_attribution (h : styles.Plain) (t : Testimonial) :
    Clean ok logos (attribution styles t) :=
  .stack rfl (.lit rfl) (.cons (.label rfl (.after rfl h.heading))
    (.option (fun _ ↦ .label rfl (.after rfl h.muted)) _))

theorem clean_quotation (plain : Text.Plain classes) (t : Testimonial) :
    Clean ok logos (quotation classes t) :=
  .inline rfl plain (.cons_cons (.inl rfl) (.cons_cons (.inr rfl) (.singleton _)))
    (.cons (.fixed (.lit rfl)) (.cons .text (.single (.fixed (.lit rfl)))))

theorem clean_card (h : styles.Plain) (t : Testimonial) : Clean ok logos (card styles t) :=
  .stack rfl (.after rfl h.card) (.append (clean_stars styles _)
    (.cons (clean_quotation (.after rfl h.body) t) (.single (clean_attribution h t))))

theorem clean_large (h : styles.Plain) (t : Testimonial) : Clean ok logos (large styles t) := by
  have words : Text.Plain (styles.headingFont ++ " text-2xl leading-relaxed sm:text-3xl " ++
      styles.heading) := .append (.before h.headingFont rfl) h.heading
  exact .stack rfl (.lit rfl) (.cons (clean_quotation words t) (.single (clean_attribution h t)))

theorem clean_quotes (h : styles.Plain) (s : Testimonials) :
    CleanAll ok logos (quotes styles s) := by
  rw [quotes]
  split
  · exact .single (.stack rfl (.lit rfl) (.map (clean_card h) _))
  · exact .single (.stack rfl (.lit rfl) (.map (fun t ↦ .stack rfl (.lit rfl)
      (.single (clean_card h t))) _))
  · exact .map (clean_large h) _

theorem clean_draft {setting : Setting} (h : setting.styles.Plain) (s : Testimonials) :
    (s.draft setting).Clean ok logos :=
  ⟨h.altBackground, .cons (clean_heading h _ _) (clean_quotes h s)⟩

end Testimonials

/-! ### Team -/

namespace Team

theorem clean_portrait (h : styles.Plain) (plain : Text.Plain classes) (member : TeamMember) :
    Clean ImageRequest.Plain logos (portrait styles classes member) := by
  rw [portrait]
  split
  · exact clean_picture h plain _
  · exact .label rfl (.append (.before plain rfl) h.gradient)

theorem clean_nameAndRole (h : styles.Plain) {spacing : String} (plain : Text.Plain spacing)
    (member : TeamMember) : CleanAll ok logos (nameAndRole styles spacing member) :=
  .cons (.label rfl (.append (.before plain rfl) h.heading)) (.single (.label rfl h.primaryText))

theorem clean_gridMember (h : styles.Plain) (member : TeamMember) :
    Clean ImageRequest.Plain logos (gridMember styles member) :=
  .stack rfl (.lit rfl) (.cons (clean_portrait h (.lit rfl) member)
    (clean_nameAndRole h (.lit rfl) member))

theorem clean_listMember (h : styles.Plain) (member : TeamMember) :
    Clean ImageRequest.Plain logos (listMember styles member) :=
  .stack rfl (.lit rfl) (.cons (clean_portrait h (.lit rfl) member) (.single (.bare rfl
    (.append (clean_nameAndRole h (.lit rfl) member) (clean_paragraph (.after rfl h.body) _)))))

theorem clean_cardMember (h : styles.Plain) (member : TeamMember) :
    Clean ImageRequest.Plain logos (cardMember styles member) :=
  .stack rfl (.after rfl h.card) (.cons (clean_portrait h (.lit rfl) member)
    (.single (.stack rfl (.lit rfl)
    (.append (clean_nameAndRole h (.lit rfl) member) (clean_paragraph (.after rfl h.body) _)))))

theorem clean_draft {setting : Setting} (h : setting.styles.Plain) (s : Team) :
    (s.draft setting).Clean ImageRequest.Plain logos := by
  refine ⟨h.sectionBackground, .cons (clean_heading h _ _) (.single ?_)⟩
  split
  · exact .stack rfl (.lit rfl) (.map (clean_gridMember h) _)
  · exact .stack rfl (.after rfl h.border) (.map (clean_listMember h) _)
  · exact .stack rfl (.lit rfl) (.map (clean_cardMember h) _)

end Team

/-! ### Logo cloud -/

namespace LogoCloud

/-- The tag of a logo is an image tag. -/
theorem clean_logo (h : styles.Plain) (allowed : logos) (l : Logo) :
    Clean ok logos (logo styles l) := by
  rw [logo]
  split
  · exact .logo allowed (.cons (.ofLink rfl) (.cons (.ofText rfl)
      (.single (.ofClasses (.append (.lit rfl) (.lit rfl))))))
  · exact .label rfl (.append (.before h.headingFont rfl) h.muted)

theorem clean_draft {setting : Setting} (h : setting.styles.Plain) (allowed : logos)
    (s : LogoCloud) : (s.draft setting).Clean ok logos := by
  refine ⟨h.sectionBackground, .append (clean_heading? h s.title) (.single ?_)⟩
  split
  · exact .stack rfl (.lit rfl) (.map (clean_logo h allowed) _)
  · exact .stack rfl (.lit rfl) (.map (fun l ↦ .stack rfl (.after rfl h.card)
      (.single (clean_logo h allowed l))) _)
  · exact .stack rfl (.lit rfl) (.single (.stack rfl (.lit rfl) (.map (clean_logo h allowed) _)))

end LogoCloud

end Sitewright
