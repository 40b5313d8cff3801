import Sitewright.Site.Config

/-!
# Sample sites

Three ready-made configurations: a restaurant with a menu, a gallery and a second page; a software
product whose page needs no picture; and a bare site around any sections and pages.
-/

namespace Sitewright.SiteConfig

/-- A restaurant with a menu, a gallery and a page about itself. -/
def restaurant : SiteConfig where
  version := currentVersion
  business :=
    ⟨"Harbor Grill", "Fresh from the dock", "Seafood grill on the old harbor since 1998.",
      some "hello@harborgrill.test", some "+1 555 0100", some "1 Pier Road, Port Town",
      some "Tue-Sun 12:00-22:00", none⟩
  theme := ⟨.teal, .sky, .amber, .light, .classic⟩
  nav :=
    ⟨[⟨"Menu", "#menu"⟩, ⟨"Gallery", "#gallery"⟩, ⟨"About", "/about"⟩],
      some ⟨"Book a table", "#contact"⟩⟩
  hero :=
    ⟨.split, "Fresh fish, open fire", "Daily catch grilled over oak.", ⟨"Book a table", "#contact"⟩,
      some ⟨"See the menu", "#menu"⟩, "Grilled sea bass on a wooden board by the harbor"⟩
  sections := [
    .supported (.menu ⟨.tabbed, "Menu", none,
      [⟨"Starters",
          [⟨"Oysters", some "Half dozen, lemon", "$18", [], none⟩,
            ⟨"Crab cakes", none, "$14", [], none⟩]⟩,
        ⟨"Mains", [⟨"Sea bass", none, "$29", [], some "Whole grilled sea bass with herbs"⟩]⟩]⟩),
    .supported (.gallery ⟨.grid, "Gallery", none,
      [⟨"Dining room at sunset", none⟩, ⟨"Chef plating a dish", none⟩]⟩),
    .supported (.testimonials ⟨.cards, "Guests say", none,
      [⟨"Best fish on the coast.", "Dana R.", none, some 5⟩]⟩),
    .supported (.contact ⟨.split, "Visit us", none, none, none, none, none⟩)]
  footer :=
    ⟨.columns, [⟨"Visit", [⟨"Directions", "/about"⟩]⟩], "",
      [⟨"instagram", "https://instagram.com/harborgrill"⟩]⟩
  pages := [⟨"/about", "About", [
    .supported (.about ⟨.split, "Our story", "Three generations of fishermen.", none, []⟩),
    .supported (.team ⟨.grid, "The crew", none,
      [⟨"Ana", "Head chef", none, some "Portrait of a smiling chef"⟩]⟩)]⟩]

/-- A software product; no section of its page asks for a picture. -/
def software : SiteConfig where
  version := currentVersion
  business :=
    ⟨"TaskPilot", "Projects that run themselves", "Project management for small teams.", none, none,
      none, none, none⟩
  theme := ⟨.indigo, .violet, .emerald, .dark, .modern⟩
  nav := ⟨[⟨"Pricing", "#pricing"⟩], none⟩
  hero :=
    ⟨.gradient, "Ship projects, not status reports", "", ⟨"Start free", "#pricing"⟩, none, ""⟩
  sections := [
    .supported (.logoCloud ⟨.marquee, none, [⟨"Acme", none⟩, ⟨"Globex", none⟩]⟩),
    .supported (.featureGrid ⟨.cards, "Why TaskPilot", none,
      [⟨"Boards", "Kanban that scales", none⟩,
        ⟨"Reports", "Automatic weekly summaries", none⟩]⟩),
    .supported (.pricing ⟨.columns, "Pricing", none,
      [⟨"Free", "$0", none, none, ["3 projects"], false, none⟩,
        ⟨"Team", "$12", some "/user/mo", none, ["Unlimited"], true, none⟩]⟩),
    .supported (.faq ⟨.accordion, "FAQ", none, [⟨"Trial?", "14 days."⟩]⟩),
    .supported (.newsletter ⟨.inline, "Product updates", none, none, none⟩)]
  footer := .default
  pages := []

/-- A bare site with the given entries on its homepage and the given further pages. -/
def bare (sections : List SectionEntry) (pages : List Page) : SiteConfig where
  version := currentVersion
  business := ⟨"Fixture Co", "", "", none, none, none, none, none⟩
  theme := .default
  nav := .default
  hero := ⟨.centered, "Hello", "", ⟨"Go", "#"⟩, none, ""⟩
  sections := sections
  footer := .default
  pages := pages

end Sitewright.SiteConfig
