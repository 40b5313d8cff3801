import Sitewright.Build.Notice
import Sitewright.Build.Repertoire
import Sitewright.Naming.Owner
import Sitewright.Naming.Route
import Sitewright.Naming.Slot
import Sitewright.Render.Section
import Sitewright.Site.Config

/-!
# The plan of a site

Before anything is drawn it is settled which sections are drawn, which pages are published, what
every component is called and which file it is written to. None of that depends on the theme or on
pictures, so the plan is made from the sections alone.

Entries that stand for no section, or for one whose kind is not drawn, are left out first. A page is
published under its normalised route, unless it has none or an earlier page has the same. The
sections of each page get their slots apart from those of other pages, and then all slots, page by
page, claim their files.
-/

namespace Sitewright

/-! ### Entries -/

/-- The notice that an entry is left out. -/
def SectionEntry.notice (route reason : String) (entry : SectionEntry) : Notice :=
  .unsupportedSection (Route.display route) entry.typeTag reason

/-- Why an entry stands for no section. -/
def SectionEntry.unreadableReason : SectionEntry → String
  | .unsupported u => u.reason
  | .supported _ => "not renderable"

/-- Why an entry is left out although it stands for a section. -/
def SectionEntry.undrawnReason (entry : SectionEntry) : String :=
  "no renderer registered for '" ++ entry.typeTag ++ "'"

/-- The sections that entries stand for. -/
def SectionEntry.sectionsOf (entries : List SectionEntry) : List Section :=
  entries.filterMap SectionEntry.section?

namespace SiteConfig

/-- The notices about entries that are left out: first those that stand for no section, then those
whose kind is not drawn. -/
def entryNotices (repertoire : Repertoire) (config : SiteConfig) : List Notice :=
  config.unsupportedSections.map (fun (route, e) => e.notice route e.unreadableReason) ++
    (config.retainSupported.rejectedSections repertoire.supports "/" (·.path)).map
      fun (route, e) => e.notice route e.undrawnReason

/-- The configuration with only those entries that are drawn. -/
def retainDrawn (repertoire : Repertoire) (config : SiteConfig) : SiteConfig :=
  config.retainSupported.filterSections repertoire.supports

end SiteConfig

/-! ### Pages -/

/-- A page that is published. -/
structure PagePlan where
  /-- The route. -/
  route : String
  /-- The title of the document. -/
  title : String
  /-- The name of its component. -/
  function : String
  /-- The sections. -/
  sections : List Section
  deriving DecidableEq

namespace PagePlan

/-- The name of the component of a page. It starts with a letter, whatever the route starts with. -/
def functionName (route : String) : String :=
  match Naming.pascalChars route.toList with
  | [] => "Page"
  | c :: cs => (if c.isDigit then "Page" else "") ++ String.ofList (c :: cs) ++ "Page"

/-- Where the page is kept. -/
def path (plan : PagePlan) : String := "app/" ++ plan.route ++ "/page.tsx"

/-- The route as it is named to people. -/
def displayRoute (plan : PagePlan) : String := "/" ++ plan.route

/-- The names that no section of the page gets. -/
def reservedNames (plan : PagePlan) : List String :=
  Slot.reservedNames ++ ["Metadata", plan.function]

end PagePlan

/-- What becomes of a page. -/
inductive PageDecision where
  /-- It is published. -/
  | published (plan : PagePlan)
  /-- It is left out. -/
  | skipped (notice : Notice)
  deriving DecidableEq

namespace PageDecision

/-- The plan of a page that is published. -/
def plan? : PageDecision → Option PagePlan
  | published plan => some plan
  | skipped _ => none

/-- The notice about a page that is left out. -/
def notice? : PageDecision → Option Notice
  | published _ => none
  | skipped notice => some notice

end PageDecision

/-- What becomes of pages, when earlier ones have the routes `seen`. -/
def decidePages (seen : List String) : List Page → List PageDecision
  | [] => []
  | page :: rest =>
    match Route.normalize? page.path with
    | none => .skipped (.pageSkipped page.path "route is empty or the homepage") ::
        decidePages seen rest
    | some route =>
      if seen.contains route then
        .skipped (.pageSkipped page.path ("duplicate route '/" ++ route ++ "'")) ::
          decidePages seen rest
      else
        .published ⟨route, page.title, PagePlan.functionName route,
          SectionEntry.sectionsOf page.sections⟩ :: decidePages (route :: seen) rest

/-! ### Files -/

/-- A section on a page, in its slot. -/
structure Placement where
  /-- The route of the page as it is named to people. -/
  route : String
  /-- The slot. -/
  slot : Slot
  /-- The section. -/
  content : Section
  deriving DecidableEq

/-- The sections of a page in their slots. -/
def Placement.ofPage (route : String) (reserved : List String) (sections : List Section) :
    List Placement :=
  (Slot.allocate reserved sections).filterMap fun slot =>
    sections[slot.index]?.map fun s => ⟨route, slot, s⟩

/-- A placed section and what became of its claim to a file. -/
structure Settled where
  /-- The section in its slot. -/
  placement : Placement
  /-- What became of its claim. -/
  claim : Claim
  deriving DecidableEq

namespace Settled

/-- The claims of the sections of a page, and the owners after them. -/
def ofPlacements (owners : List Owner) : List Placement → List Settled × List Owner
  | [] => ([], owners)
  | p :: rest =>
    let claim := Owner.claim owners p.slot.path p.content
    let (settled, after) :=
      ofPlacements (Owner.register owners p.slot.path p.route p.content) rest
    (⟨p, claim⟩ :: settled, after)

/-- The claims of the sections of all pages, page by page. -/
def ofPages (owners : List Owner) : List (List Placement) → List (List Settled)
  | [] => []
  | page :: rest =>
    let (settled, after) := ofPlacements owners page
    settled :: ofPages after rest

/-- Claims neither drop nor move a section. -/
theorem map_placement_ofPlacements (owners : List Owner) (ps : List Placement) :
    (ofPlacements owners ps).1.map (·.placement) = ps := by
  induction ps generalizing owners with
  | nil => rfl
  | cons p rest ih => simp [ofPlacements, ih]

theorem map_placement_ofPages (owners : List Owner) (pages : List (List Placement)) :
    (ofPages owners pages).map (fun page => page.map (·.placement)) = pages := by
  induction pages generalizing owners with
  | nil => rfl
  | cons page rest ih => simp [ofPages, map_placement_ofPlacements, ih]

/-- The notice about a section whose file belongs to a different one. -/
def notice? (settled : Settled) : Option Notice :=
  match settled.claim with
  | .conflict firstRoute =>
    some (.namingCollision settled.placement.slot.path firstRoute settled.placement.route)
  | .new | .reused => none

/-- Whether the page uses the component. Only one that would have to be drawn and cannot be is left
out. -/
def isUsed (repertoire : Repertoire) (settled : Settled) : Bool :=
  settled.claim != .new || repertoire.has settled.placement.content.kind

/-- The file that a section is drawn into, and its source. -/
def source? (repertoire : Repertoire) (setting : Setting) (settled : Settled) :
    Option (String × SectionSource ImageRequest) :=
  let p := settled.placement
  if settled.claim == .new && repertoire.has p.content.kind then
    some (p.slot.path, p.content.source setting p.slot.name p.slot.anchor)
  else none

end Settled

/-! ### Sites -/

/-- The plan of a site. -/
structure SitePlan where
  /-- What becomes of the pages besides the homepage. -/
  decisions : List PageDecision
  /-- The sections of the homepage, and then of each published page, and what became of them. -/
  settled : List (List Settled)
  deriving DecidableEq

namespace SitePlan

/-- The plan for a configuration all of whose entries are drawn. -/
def ofConfig (config : SiteConfig) : SitePlan :=
  let decisions := decidePages [] config.pages
  let home :=
    Placement.ofPage "/" Slot.reservedNames (SectionEntry.sectionsOf config.sections)
  let others := (decisions.filterMap PageDecision.plan?).map fun plan =>
    Placement.ofPage plan.displayRoute plan.reservedNames plan.sections
  ⟨decisions, Settled.ofPages [] (home :: others)⟩

/-- The pages that are published. -/
def pages (plan : SitePlan) : List PagePlan := plan.decisions.filterMap PageDecision.plan?

/-- The notices of a plan. The homepage comes before the other pages are looked at. -/
def notices (plan : SitePlan) : List Notice :=
  ((plan.settled.take 1).flatten.filterMap Settled.notice?) ++
    plan.decisions.filterMap PageDecision.notice? ++
    ((plan.settled.drop 1).flatten.filterMap Settled.notice?)

/-- The slots of the components that each page uses, the homepage first. -/
def slots (repertoire : Repertoire) (plan : SitePlan) : List (List Slot) :=
  plan.settled.map fun page =>
    (page.filter (Settled.isUsed repertoire)).map (·.placement.slot)

end SitePlan

end Sitewright
