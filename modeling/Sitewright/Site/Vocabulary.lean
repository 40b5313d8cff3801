import Sitewright.Site.Config

/-!
# Layout vocabulary

Every closed vocabulary of layouts, by the name it has in the schema, with the tags of all its
layouts, the default first.
-/

namespace Sitewright

/-- The names and tags of all layouts. -/
def layoutVocabularies : List (String × List String) := [
  ("HeroVariant", Hero.Layout.all.map (·.tag)),
  ("FooterVariant", Footer.Layout.all.map (·.tag)),
  ("FeatureGridVariant", FeatureGrid.Layout.all.map (·.tag)),
  ("MenuVariant", Menu.Layout.all.map (·.tag)),
  ("ProductGridVariant", ProductGrid.Layout.all.map (·.tag)),
  ("TestimonialsVariant", Testimonials.Layout.all.map (·.tag)),
  ("PricingVariant", Pricing.Layout.all.map (·.tag)),
  ("GalleryVariant", Gallery.Layout.all.map (·.tag)),
  ("StatsVariant", Stats.Layout.all.map (·.tag)),
  ("CtaBannerVariant", CtaBanner.Layout.all.map (·.tag)),
  ("TeamVariant", Team.Layout.all.map (·.tag)),
  ("BlogPreviewVariant", BlogPreview.Layout.all.map (·.tag)),
  ("ContactVariant", Contact.Layout.all.map (·.tag)),
  ("FaqVariant", Faq.Layout.all.map (·.tag)),
  ("AboutVariant", About.Layout.all.map (·.tag)),
  ("LogoCloudVariant", LogoCloud.Layout.all.map (·.tag)),
  ("NewsletterVariant", Newsletter.Layout.all.map (·.tag)),
  ("ProcessVariant", Process.Layout.all.map (·.tag)),
  ("CustomVariant", Custom.Layout.all.map (·.tag))]

end Sitewright
