import Sitewright.Proofs.Render.Draft
import Sitewright.Render.Chrome

/-!
# Clean chrome

The navigation bar, the footer and the hero are drawn as clean markup. The brand in the first two
may be a logo; the hero has none.
-/

namespace Sitewright

open Markup Draft

variable {ok : ImageRequest → Prop} {logos : Prop} {styles : Styles} {classes : String}
  {setting : Setting}

namespace Chrome

theorem clean_brand (h : setting.styles.Plain) : Clean ok True (brand setting) := by
  rw [brand]
  split
  · exact .logo trivial (.cons (.ofLink rfl) (.cons (.ofText rfl)
      (.single (.ofClasses (.lit rfl)))))
  · exact .label rfl (.append (.before h.headingFont rfl) h.heading)

theorem clean_anchor (plain : Text.Plain classes) (href s : String) :
    Clean ok logos (anchor classes href s) :=
  .wrap rfl (.cons (.ofLink rfl) (.single (.ofClasses plain))) .text

end Chrome

/-! ### Navigation bar -/

namespace Nav

theorem plain_surface (theme : Theme) : Text.Plain (surface theme) := by
  rw [surface]
  split <;> exact .lit rfl

theorem plain_buttonClasses (h : styles.Plain) : Text.Plain (buttonClasses styles) :=
  h.primaryButton.replaceAll (.lit rfl)

theorem clean_component (h : setting.styles.Plain) (nav : Nav) :
    Clean ok True (nav.component setting).root := by
  have link (l : NavLink) : Clean ok True (Chrome.anchor
      ("text-sm font-medium " ++ setting.styles.body ++ " hover:opacity-80") l.href l.label) :=
    Chrome.clean_anchor (.before (.after rfl h.body) rfl) l.href l.label
  have home : Clean ok True (.element "a" [.fixed "href" "/", .classes "flex items-center gap-2"]
      .inline [Chrome.brand setting]) :=
    .wrap rfl (.cons (.ofWord rfl rfl) (.single (.ofClasses (.lit rfl)))) (Chrome.clean_brand h)
  exact .stack rfl (.after rfl (plain_surface _)) (.single (.stack rfl (.lit rfl) (.append
    (.cons home (.single (.stack rfl (.lit rfl) (.map link _))))
    (.option (clean_button (plain_buttonClasses h)) _))))

end Nav

/-! ### Footer -/

namespace Footer

theorem clean_copyrightLine (h : setting.styles.Plain) (footer : Footer) :
    Clean ok logos (copyrightLine setting footer) := by
  rw [copyrightLine]
  split
  · exact .inline rfl (.after rfl h.muted) (.cons_cons (.inl rfl)
      (.cons_cons (.inr rfl) (.singleton _)))
      (.cons (.fixed (.lit rfl)) (.cons .text (.single (.fixed (.lit rfl)))))
  · exact .inline rfl (.after rfl h.muted) (.singleton _) (.single .text)

theorem clean_social (h : styles.Plain) (footer : Footer) :
    Clean ok logos (social styles footer) :=
  .stack rfl (.lit rfl) (.map (fun _ ↦ .wrap rfl (.cons (.ofLink rfl)
    (.cons (.ofClasses (.before (.after rfl h.muted) rfl))
    (.cons (.ofWord rfl rfl) (.single (.ofWord rfl rfl))))) .text) _)

theorem clean_identity (h : setting.styles.Plain) : Clean ok True (identity setting) :=
  .bare rfl (.cons (Chrome.clean_brand h) (clean_paragraph (.after rfl h.muted) _))

theorem clean_column (h : styles.Plain) (c : FooterColumn) : Clean ok logos (column styles c) := by
  have link (l : NavLink) : Clean ok logos (.element "li" [] .inline
      [Chrome.anchor ("text-sm " ++ styles.body ++ " hover:opacity-80") l.href l.label]) :=
    .wrap rfl .nil (Chrome.clean_anchor (.before (.after rfl h.body) rfl) _ _)
  exact .bare rfl (.cons (.label rfl (.after rfl h.heading))
    (.single (.stack rfl (.lit rfl) (.map link _))))

theorem clean_content (h : setting.styles.Plain) (footer : Footer) :
    CleanAll ok True (content setting footer) := by
  have link (l : NavLink) : Clean ok True
      (Chrome.anchor ("text-sm " ++ setting.styles.body) l.href l.label) :=
    Chrome.clean_anchor (.after rfl h.body) l.href l.label
  rw [content]
  split
  · exact .single (.stack rfl (.lit rfl) (.cons (Chrome.clean_brand h)
      (.cons (clean_social h footer)
      (.single (clean_copyrightLine h footer)))))
  · exact .cons (.stack rfl (.lit rfl) (.cons (clean_identity h) (.map (clean_column h) _)))
      (.single (.stack rfl (.after rfl h.border) (.cons (clean_copyrightLine h footer)
        (.single (clean_social h footer)))))
  · exact .single (.stack rfl (.lit rfl) (.cons (clean_identity h)
      (.cons (.stack rfl (.lit rfl) (.map link _))
      (.cons (clean_social h footer) (.single (clean_copyrightLine h footer))))))

theorem clean_component (h : setting.styles.Plain) (footer : Footer) :
    Clean ok True (footer.component setting).root := by
  have frame : Text.Plain ("border-t " ++ setting.styles.border ++ " " ++
      setting.styles.altBackground) := .append (.before (.after rfl h.border) rfl) h.altBackground
  exact .aligned rfl (.single (.ofClasses frame)) (.single
    (.stack rfl (.lit rfl) (clean_content h footer)))

end Footer

/-! ### Hero -/

namespace Hero

theorem clean_buttons (h : styles.Plain) (hero : Hero) :
    CleanAll ok logos (buttons styles hero) := by
  have second : Text.Plain (if hero.layout.isOnFill then
      "inline-flex items-center justify-center rounded-lg border border-white/70 px-6 py-3 " ++
        "font-semibold text-white hover:bg-white/10"
      else styles.secondaryButton) := by
    split
    · exact .append (.lit rfl) (.lit rfl)
    · exact h.secondaryButton
  exact .cons (clean_button h.primaryButton _) (.option (clean_button second) _)

theorem clean_words (h : styles.Plain) {alignment : String} (plain : Text.Plain alignment)
    (hero : Hero) : CleanAll ok logos (words styles alignment hero) := by
  have buttons : Clean ok logos (.stack "div" ("mt-10 flex flex-wrap gap-4 " ++ alignment)
      (buttons styles hero)) := .stack rfl (.after rfl plain) (clean_buttons h hero)
  rw [words]
  split
  rename_i headline line colors
  have plain : Text.Plain headline ∧ Text.Plain line := by
    split at colors
    · obtain ⟨rfl, rfl⟩ := Prod.mk.inj colors
      exact ⟨.lit rfl, .lit rfl⟩
    · obtain ⟨rfl, rfl⟩ := Prod.mk.inj colors
      exact ⟨h.heading, h.body⟩
  exact .append (.cons (.label rfl (.append (.before h.headingFont rfl) plain.1))
    (clean_paragraph (.after rfl plain.2) _)) (.single buttons)

theorem clean_centeredWords (h : styles.Plain) (hero : Hero) :
    Clean ok logos (centeredWords styles hero) :=
  .stack rfl (.lit rfl) (clean_words h (.lit rfl) hero)

theorem clean_image (h : styles.Plain) (hero : Hero) :
    Clean ImageRequest.Plain logos (image styles hero) :=
  clean_picture h (.lit rfl) _

theorem clean_fullScreen (h : styles.Plain) {veil : String} (plain : Text.Plain veil)
    (hero : Hero) : (fullScreen styles veil hero).Clean ImageRequest.Plain logos := by
  have cover : Clean ImageRequest.Plain logos
      (.void "div" [.classes ("absolute inset-0 -z-10 " ++ veil)]) :=
    .leaf rfl (.single (.ofClasses (.after rfl plain)))
  exact ⟨.lit rfl, .cons (.stack rfl (.lit rfl) (.single (clean_image h hero)))
    (.cons cover (.single (.stack rfl (.lit rfl) (clean_words h (.lit rfl) hero))))⟩

theorem clean_draft (h : styles.Plain) (hero : Hero) :
    (hero.draft styles).Clean ImageRequest.Plain logos := by
  rw [draft]
  split
  · exact ⟨.after rfl h.sectionBackground, .single (clean_centeredWords h hero)⟩
  · exact ⟨.after rfl h.sectionBackground, .single
      (.stack rfl (.lit rfl) (clean_words h (.lit rfl) hero))⟩
  · exact ⟨.after rfl h.gradient, .single (clean_centeredWords h hero)⟩
  · exact ⟨.after rfl h.sectionBackground, .single
      (.stack rfl (.lit rfl) (.cons (.bare rfl (clean_words h (.lit rfl) hero))
      (.single (.stack rfl (.lit rfl) (.single (clean_image h hero))))))⟩
  · exact ⟨.after rfl h.sectionBackground, .cons (clean_centeredWords h hero)
      (.single (.stack rfl (.lit rfl) (.single (clean_image h hero))))⟩
  · exact clean_fullScreen h (.lit rfl) hero
  · exact clean_fullScreen h (.lit rfl) hero

theorem clean_component (h : setting.styles.Plain) (hero : Hero) :
    Clean ImageRequest.Plain logos (hero.component setting).root := by
  have draft : (hero.draft setting.styles).Clean ImageRequest.Plain logos := clean_draft h hero
  exact .aligned rfl (.cons (.ofWord rfl rfl) (.single (.ofClasses draft.background)))
    (.single (.stack rfl (.lit rfl) draft.children))

end Hero

end Sitewright
