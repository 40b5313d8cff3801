import Sitewright.Build.Entry
import Sitewright.Build.Skeleton
import Sitewright.Image.Ledger
import Sitewright.Render.Chrome

/-!
# Sources

All files of a site, with tokens in the place of pictures. First comes the skeleton, then navigation
bar and footer, then what asks for pictures, the hero and the sections in the order of the pages,
and last the entries of the pages. The order is the same for every configuration, so equal
configurations give equal lists of files.
-/

namespace Sitewright

/-- The files of a site before its pictures are resolved. -/
structure Sources where
  /-- The files, in order. -/
  files : List SourceFile
  /-- The configuration with only those entries that are drawn. -/
  config : SiteConfig
  /-- The pictures that were asked for. -/
  ledger : ImageLedger
  /-- What was passed over. -/
  notices : List Notice

/-- The files of sources that are drawn one after the other, and the ledger after them. -/
def ImageLedger.drawAll (ledger : ImageLedger) :
    List (String × SectionSource ImageRequest) → List SourceFile × ImageLedger
  | [] => ([], ledger)
  | (path, source) :: rest =>
    let (text, between) := ledger.draw source
    let (files, after) := between.drawAll rest
    (⟨path, text⟩ :: files, after)

/-- Every source is drawn into its own file. -/
theorem paths_drawAll (ledger : ImageLedger)
    (sources : List (String × SectionSource ImageRequest)) :
    (ledger.drawAll sources).1.map (·.path) = sources.map (·.1) := by
  induction sources generalizing ledger with
  | nil => rfl
  | cons source rest ih => simp [ImageLedger.drawAll, ih]

/-- A compiler of sites. -/
structure Compiler where
  /-- The kinds of section that it draws. -/
  repertoire : Repertoire
  /-- Its options. -/
  options : BuildOptions
  deriving DecidableEq

namespace Compiler

/-- A compiler that draws every kind of section. -/
def ofOptions (options : BuildOptions) : Compiler := ⟨.full, options⟩

/-- The files that every page shares: the skeleton, the navigation bar and the footer. They show no
pictures. -/
def sharedFiles (compiler : Compiler) (setting : Setting) (config : SiteConfig) :
    List SourceFile :=
  let plain (c : Component ImageRequest) : String := (c.place 0 0).1.source
  Skeleton.files setting.business setting.styles compiler.options.packages ++ [
    ⟨Nav.path, plain (config.nav.component setting)⟩,
    ⟨Footer.path, plain (config.footer.component setting)⟩]

/-- What asks for pictures: the hero, and the sections that are drawn. -/
def drawings (compiler : Compiler) (setting : Setting) (config : SiteConfig) (plan : SitePlan) :
    List (String × SectionSource ImageRequest) :=
  (Hero.path, .drawn (config.hero.component setting)) ::
    plan.settled.flatten.filterMap (Settled.source? compiler.repertoire setting)

/-- The entries of the pages. -/
def entries (compiler : Compiler) (setting : Setting) (plan : SitePlan) : List SourceFile :=
  match plan.slots compiler.repertoire with
  | [] => []
  | home :: others =>
    ⟨"app/page.tsx", (PageEntry.home home).text⟩ ::
      (plan.pages.zip others).map fun (page, slots) =>
        ⟨page.path, (PageEntry.ofPage setting.business.name setting.styles page slots).text⟩

/-- The files of a site before its pictures are resolved. -/
def sources (compiler : Compiler) (config : SiteConfig) : Sources :=
  let drawn := config.retainDrawn compiler.repertoire
  let setting : Setting := ⟨drawn.theme.styles, drawn.business⟩
  let plan := SitePlan.ofConfig drawn
  let (files, ledger) :=
    (ImageLedger.empty compiler.options.imageCap).drawAll (compiler.drawings setting drawn plan)
  { files :=
      compiler.sharedFiles setting drawn ++ files ++ compiler.entries setting plan
    config := drawn
    ledger := ledger
    notices := config.entryNotices compiler.repertoire ++ plan.notices }

end Compiler

end Sitewright
