import Sitewright.Proofs.Render.Draft
import Sitewright.Render.Offers

/-!
# Clean offers

Features, dishes, products and plans are drawn as clean markup.
-/

namespace Sitewright

open Markup Draft

variable {ok : ImageRequest → Prop} {logos : Prop} {styles : Styles} {classes : String}

/-! ### Feature grid -/

namespace FeatureGrid

theorem clean_icon (h : styles.Plain) (feature : Feature) : Clean ok logos (icon styles feature) :=
  .label rfl (.before (.after rfl h.gradient) rfl)

theorem clean_name (h : styles.Plain) (feature : Feature) : Clean ok logos (name styles feature) :=
  .label rfl (.append (.before h.headingFont rfl) h.heading)

theorem clean_description (h : styles.Plain) (feature : Feature) :
    CleanAll ok logos (description styles feature) :=
  clean_paragraph (.after rfl h.body) _

theorem clean_row (h : styles.Plain) (index : Nat) (feature : Feature) :
    Clean ImageRequest.Plain logos (row styles index feature) := by
  have order : Text.Plain (if index % 2 == 1 then " lg:order-last" else "") := by
    split <;> exact .lit rfl
  exact .stack rfl (.lit rfl) (.cons (.stack rfl (.after rfl order)
    (.single (clean_picture h (.lit rfl) _)))
    (.single (.bare rfl (.cons (clean_name h feature) (clean_description h feature)))))

theorem clean_card (h : styles.Plain) (plain : Text.Plain classes) (feature : Feature) :
    Clean ok logos (card styles classes feature) :=
  .stack rfl plain (.cons (clean_icon h feature)
    (.cons (clean_name h feature) (clean_description h feature)))

theorem clean_draft {setting : Setting} (h : setting.styles.Plain) (s : FeatureGrid) :
    (s.draft setting).Clean ImageRequest.Plain logos := by
  refine ⟨h.sectionBackground, .cons (clean_heading h _ _) (.single ?_)⟩
  split
  · exact .stack rfl (.lit rfl) (.map (clean_card h (.after rfl h.card)) _)
  · exact .stack rfl (.lit rfl) (.map (clean_card h (.lit rfl)) _)
  · exact .stack rfl (.lit rfl) (.mapIdx (clean_row h) _)

end FeatureGrid

/-! ### Menu -/

namespace Menu

theorem clean_nameAndPrice (h : styles.Plain) (item : MenuItem) :
    Clean ok logos (nameAndPrice styles item) :=
  .aligned rfl (.single (.ofClasses (.lit rfl)))
    (.cons (.label rfl (.after rfl h.heading)) (.single (.label rfl (.after rfl h.primaryText))))

theorem clean_tags (h : styles.Plain) (item : MenuItem) : CleanAll ok logos (tags styles item) := by
  rw [tags]
  split
  · exact .nil
  · exact .single (.stack rfl (.lit rfl) (.map (fun _ ↦ .label rfl h.badge) _))

theorem clean_listItem (h : styles.Plain) (item : MenuItem) :
    Clean ok logos (listItem styles item) :=
  .stack rfl (.lit rfl) (.append (.cons (clean_nameAndPrice h item)
    (clean_paragraph (.after rfl h.muted) _))
    (clean_tags h item))

theorem clean_cardItem (h : styles.Plain) (item : MenuItem) :
    Clean ImageRequest.Plain logos (cardItem styles item) :=
  .stack rfl (.after rfl h.card) (.append (clean_picture? h (.lit rfl) _)
    (.single (.stack rfl (.lit rfl)
    (.append (.cons (clean_nameAndPrice h item) (clean_paragraph (.after rfl h.body) _))
      (clean_tags h item)))))

theorem clean_elegantItem (h : styles.Plain) (item : MenuItem) :
    Clean ok logos (elegantItem styles item) := by
  have title : Text.Plain (styles.headingFont ++ " text-xl " ++ styles.heading) :=
    .append (.before h.headingFont rfl) h.heading
  have price : Clean ok logos
      (.inline "span" styles.primaryText [.fixed "&middot; ", .text item.price]) :=
    .inline rfl h.primaryText (.cons_cons (.inl rfl) (.singleton _)) (.cons (.fixed (.lit rfl))
      (.single .text))
  exact .bare rfl (.cons (.inline rfl title (.cons_cons (.inr rfl)
    (.cons_cons (.inl rfl) (.singleton _)))
    (.cons .text (.cons (.fixed (.lit rfl)) (.single price))))
      (clean_paragraph (.after rfl h.muted) _))

theorem clean_group (h : styles.Plain) {item : Styles → MenuItem → Draft}
    (each : ∀ i, Clean ok logos (item styles i)) (category : MenuCategory) :
    Clean ok logos (group styles item category) := by
  have title : Text.Plain ("mb-6 border-b pb-2 " ++ styles.headingFont ++
      " text-2xl font-semibold " ++ styles.heading ++ " " ++ styles.border) :=
    .append (.before (.append (.before (.after rfl h.headingFont) rfl) h.heading) rfl) h.border
  exact .bare rfl (.cons (.label rfl title) (.single (.stack rfl (.lit rfl) (.map each _))))

theorem clean_tab (h : styles.Plain) (index : Nat) (category : MenuCategory) :
    Clean ok logos (tab styles index category) := by
  have frame : Text.Plain ("group rounded-2xl border " ++ styles.border ++ " p-6") :=
    .before (.after rfl h.border) rfl
  have title : Text.Plain ("cursor-pointer list-none " ++ styles.headingFont ++
      " text-2xl font-semibold " ++ styles.heading) := .append
        (.before (.after rfl h.headingFont) rfl) h.heading
  refine .stacked rfl ?_ (.cons (.label rfl title)
    (.single (.stack rfl (.lit rfl) (.map (clean_listItem h) _))))
  split
  · exact .cons (.ofClasses frame) (.single (.ofFlag rfl))
  · exact .single (.ofClasses frame)

theorem clean_elegantGroup (h : styles.Plain) (category : MenuCategory) :
    Clean ok logos (elegantGroup styles category) := by
  have title : Text.Plain (styles.headingFont ++ " text-sm uppercase tracking-[0.3em] " ++
      styles.primaryText) := .append (.before h.headingFont rfl) h.primaryText
  exact .stack rfl (.lit rfl) (.cons (.label rfl title)
    (.single (.stack rfl (.lit rfl) (.map (clean_elegantItem h) _))))

theorem clean_draft {setting : Setting} (h : setting.styles.Plain) (s : Menu) :
    (s.draft setting).Clean ImageRequest.Plain logos := by
  refine ⟨h.sectionBackground, .cons (clean_heading h _ _) (.single (.stack rfl (.lit rfl) ?_))⟩
  split
  · exact .map (clean_group h (clean_listItem h)) _
  · exact .map (clean_group h (clean_cardItem h)) _
  · exact .mapIdx (clean_tab h) _
  · exact .map (clean_elegantGroup h) _

end Menu

/-! ### Product grid -/

namespace ProductGrid

theorem clean_image (h : styles.Plain) (plain : Text.Plain classes) (product : Product) :
    Clean ImageRequest.Plain logos (image styles classes product) :=
  clean_picture h plain _

theorem clean_badge (h : styles.Plain) {place : String} (plain : Text.Plain place)
    (s : Option String) : CleanAll ok logos (badge styles place s) :=
  .option (fun _ ↦ .label rfl (.append plain h.badge)) _

theorem clean_looseBadge (h : styles.Plain) (s : Option String) :
    CleanAll ok logos (looseBadge styles s) :=
  .option (fun _ ↦ .label rfl h.badge) _

theorem clean_details (h : styles.Plain) (href : String) :
    Clean ok logos (details styles href) :=
  .wrap rfl (.cons (.ofLink rfl) (.single (.ofClasses (.after rfl h.primaryText))))
    (.fixed (.lit rfl))

theorem clean_card (h : styles.Plain) (plain : Text.Plain classes) (product : Product) :
    Clean ImageRequest.Plain logos (card styles classes product) :=
  .stack rfl (.after rfl h.card) (.cons
    (.stack rfl (.lit rfl) (.cons (clean_image h plain product)
      (clean_badge h (.lit rfl) product.badge)))
    (.single (.stack rfl (.lit rfl) (.append
      (.cons (.label rfl (.after rfl h.heading)) (clean_paragraph
        (.after rfl h.muted) product.description))
      (.cons (.label rfl (.after rfl h.primaryText)) (.option (clean_details h) product.href))))))

theorem clean_lead (h : styles.Plain) (product : Product) :
    Clean ImageRequest.Plain logos (lead styles product) := by
  have title : Text.Plain ("mt-3 " ++ styles.headingFont ++ " text-3xl font-bold " ++
      styles.heading) := .append (.before (.after rfl h.headingFont) rfl) h.heading
  exact .stack rfl (.after rfl h.card) (.cons (clean_image h (.lit rfl) product)
    (.single (.stack rfl (.lit rfl) (.append
    (.append (clean_looseBadge h product.badge)
      (.cons (.label rfl title) (clean_paragraph (.after rfl h.body) product.description)))
    (.cons (.label rfl (.after rfl h.primaryText))
      (.single (.stack rfl (.lit rfl) (.single (clean_button h.primaryButton _)))))))))

theorem clean_arrangement (h : styles.Plain) (s : ProductGrid) :
    CleanAll ImageRequest.Plain logos (arrangement styles s) := by
  rw [arrangement]
  split
  · exact .single (.stack rfl (.lit rfl) (.map (clean_card h (.lit rfl)) _))
  · exact .single (.stack rfl (.lit rfl) (.map (fun p ↦ .stack rfl (.lit rfl)
      (.single (clean_card h (.lit rfl) p))) _))
  · exact .append (.map (clean_lead h) _) (.single
      (.stack rfl (.lit rfl) (.map (clean_card h (.lit rfl)) _)))

theorem clean_draft {setting : Setting} (h : setting.styles.Plain) (s : ProductGrid) :
    (s.draft setting).Clean ImageRequest.Plain logos :=
  ⟨h.altBackground, .cons (clean_heading h _ _) (clean_arrangement h s)⟩

end ProductGrid

/-! ### Pricing -/

namespace Pricing

theorem clean_period (tier : PricingTier) : CleanAll ok logos (period tier) :=
  .option (fun _ ↦ .text) _

/-- A period is apart from the price before it. -/
theorem isChain_period (m : Draft) (tier : PricingTier) :
    (m :: period tier).IsChain Beside := by
  rw [period]
  cases Text.unlessBlank tier.period with
  | none => exact .singleton _
  | some p =>
    refine .cons_cons (.inr ?_) (.singleton _)
    rw [opens, String.toList_ofList]
    rfl

theorem clean_priceUnit (plain : Text.Plain classes) (tier : PricingTier) :
    Clean ok logos (.inline "span" classes (period tier)) :=
  .inline rfl plain (isChain_period (.text "") tier).tail (clean_period tier)

theorem clean_check (h : styles.Plain) : Clean ok logos (check styles) :=
  .inline rfl h.primaryText (.singleton _) (.single (.fixed (.lit rfl)))

theorem clean_column (h : styles.Plain) (tier : PricingTier) :
    Clean ok logos (column styles tier) := by
  have frame : Text.Plain (if tier.highlighted then
      "relative p-8 ring-2 ring-" ++ styles.theme.primary.tag ++ "-500 " ++ styles.card
      else "relative p-8 " ++ styles.card) := by
    split
    · exact .append (.before (.after rfl styles.theme.primary.plain_tag) rfl) h.card
    · exact .after rfl h.card
  have button : Text.Plain (if tier.highlighted then styles.primaryButton
      else styles.secondaryButton) := by
    split
    · exact h.primaryButton
    · exact h.secondaryButton
  have badge : CleanAll ok logos (if tier.highlighted then
      [.inline "span" ("absolute -top-3 left-8 " ++ styles.badge) [.fixed "Most popular"]]
      else []) := by
    split
    · exact .single (.inline rfl (.after rfl h.badge) (.singleton _) (.single (.fixed (.lit rfl))))
    · exact .nil
  have price : Clean ok logos (.inline "p" "mt-4" [
      .label "span" ("text-4xl font-bold " ++ styles.heading) tier.price,
      .inline "span" styles.muted (period tier)]) :=
    .inline rfl (.lit rfl) (.cons_cons (.inl rfl) (.singleton _))
      (.cons (.label rfl (.after rfl h.heading)) (.single (clean_priceUnit h.muted tier)))
  have feature (s : String) : Clean ok logos
      (.inline "li" ("flex gap-2 " ++ styles.body) [check styles, .text s]) :=
    .inline rfl (.after rfl h.body) (.cons_cons (.inl rfl) (.singleton _))
      (.cons (clean_check h) (.single .text))
  have order : Clean ok logos (.element "a" [.fixed "href" "#contact",
      .classes ("mt-8 w-full " ++ (if tier.highlighted then styles.primaryButton
        else styles.secondaryButton))] .inline [.text (tier.ctaText.getD "Get started")]) :=
    .wrap rfl (.cons (.ofWord rfl rfl) (.single (.ofClasses (.after rfl button)))) .text
  exact .stack rfl frame (.append (.append
    (.append badge (.cons (.label rfl (.after rfl h.heading)) (.single price)))
    (.option (fun _ ↦ .label rfl (.after rfl h.muted)) _))
    (.cons (.stack rfl (.lit rfl) (.map feature _)) (.single order)))

theorem clean_comparisonHeading (h : styles.Plain) (tier : PricingTier) :
    Clean ok logos (comparisonHeading styles tier) :=
  .inline rfl (.after rfl h.heading) (.cons_cons (.inr rfl) (.singleton _)) (.cons .text (.single
    (.inline rfl (.lit rfl) (isChain_period _ tier) (.cons .text (clean_period tier)))))

theorem clean_comparisonCell (h : styles.Plain) (feature : String) (tier : PricingTier) :
    Clean ok logos (comparisonCell styles feature tier) := by
  refine .inline rfl (.lit rfl) (.singleton _) (.single ?_)
  split
  · exact clean_check h
  · exact .inline rfl h.muted (.singleton _) (.single (.fixed (.lit rfl)))

theorem clean_comparisonRow (h : styles.Plain) (tiers : List PricingTier) (feature : String) :
    Clean ok logos (comparisonRow styles tiers feature) :=
  .stack rfl (.after rfl h.border) (.cons (.label rfl (.after rfl h.body))
    (.map (clean_comparisonCell h feature) _))

theorem clean_comparison (h : styles.Plain) (tiers : List PricingTier) :
    Clean ok logos (comparison styles tiers) := by
  have corner : Clean ok logos (.void "th" [.classes "p-4 text-left"]) :=
    .leaf rfl (.single (.ofClasses (.lit rfl)))
  exact .stack rfl (.lit rfl) (.single (.stack rfl (.lit rfl) (.cons
    (.bare rfl (.single (.bare rfl (.cons corner (.map (clean_comparisonHeading h) _)))))
    (.single (.bare rfl (.map (clean_comparisonRow h tiers) _))))))

theorem clean_line (h : styles.Plain) (tier : PricingTier) : Clean ok logos (line styles tier) :=
  .aligned rfl (.single (.ofClasses (.lit rfl))) (.cons
    (.aligned rfl .nil (.cons (.label rfl (.after rfl h.heading))
      (.single (.label rfl (.after rfl h.muted)))))
    (.single (.aligned rfl (.single (.ofClasses (.lit rfl)))
      (.cons (.label rfl (.after rfl h.heading)) (.single
        (clean_priceUnit (.after rfl h.muted) tier))))))

theorem clean_draft {setting : Setting} (h : setting.styles.Plain) (s : Pricing) :
    (s.draft setting).Clean ok logos := by
  refine ⟨h.sectionBackground, .cons (clean_heading h _ _) (.single ?_)⟩
  split
  · exact .stack rfl (.lit rfl) (.map (clean_column h) _)
  · exact clean_comparison h s.tiers
  · exact .stack rfl (.append (.before (.after rfl h.border) rfl) h.card) (.map (clean_line h) _)

end Pricing

end Sitewright
