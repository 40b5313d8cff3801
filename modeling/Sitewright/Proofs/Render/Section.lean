import Sitewright.Proofs.Render.Action
import Sitewright.Proofs.Render.Chrome
import Sitewright.Proofs.Render.Offers
import Sitewright.Proofs.Render.People
import Sitewright.Proofs.Render.Story
import Sitewright.Render.Section

/-!
# Clean sections

Every section that this library draws is drawn as clean markup, with logos in one kind of section
only (`Section.source_cases`), and sections of that kind ask for no pictures.
-/

namespace Sitewright

open Markup

/-- The pictures of a source. Given code has none. -/
def SectionSource.images {ι : Type} : SectionSource ι → List ι
  | drawn c => c.root.images
  | given _ => []

namespace Section

variable {setting : Setting} {anchor : String}

/-- A section is given code, or it is drawn as clean markup. -/
theorem source_cases (h : setting.styles.Plain) (plain : Text.Plain anchor) (name : String)
    (s : Section) : (∃ code, s.source setting name anchor = .given code) ∨
      ∃ c, s.source setting name anchor = .drawn c ∧ c.name = name ∧
        Clean ImageRequest.Plain (s.kind = .logoCloud) c.root := by
  cases s with
  | custom s => exact .inl ⟨s.code, rfl⟩
  | featureGrid s => exact .inr ⟨_, rfl, rfl, (s.clean_draft h).root plain name⟩
  | menu s => exact .inr ⟨_, rfl, rfl, (s.clean_draft h).root plain name⟩
  | productGrid s => exact .inr ⟨_, rfl, rfl, (s.clean_draft h).root plain name⟩
  | testimonials s => exact .inr ⟨_, rfl, rfl, (s.clean_draft h).root plain name⟩
  | pricing s => exact .inr ⟨_, rfl, rfl, (s.clean_draft h).root plain name⟩
  | gallery s => exact .inr ⟨_, rfl, rfl, (s.clean_draft h).root plain name⟩
  | stats s => exact .inr ⟨_, rfl, rfl, (s.clean_draft h).root plain name⟩
  | ctaBanner s => exact .inr ⟨_, rfl, rfl, (s.clean_draft h).root plain name⟩
  | team s => exact .inr ⟨_, rfl, rfl, (s.clean_draft h).root plain name⟩
  | blogPreview s => exact .inr ⟨_, rfl, rfl, (s.clean_draft h).root plain name⟩
  | contact s => exact .inr ⟨_, rfl, rfl, (s.clean_draft h).root plain name⟩
  | faq s => exact .inr ⟨_, rfl, rfl, (s.clean_draft h).root plain name⟩
  | about s => exact .inr ⟨_, rfl, rfl, (s.clean_draft h).root plain name⟩
  | logoCloud s => exact .inr ⟨_, rfl, rfl, (s.clean_draft h rfl).root plain name⟩
  | newsletter s => exact .inr ⟨_, rfl, rfl, (s.clean_draft h plain).root plain name⟩
  | process s => exact .inr ⟨_, rfl, rfl, (s.clean_draft h).root plain name⟩

/-- Where there are logos, there are no pictures. -/
theorem images_source_of_logoCloud (h : setting.styles.Plain) (plain : Text.Plain anchor)
    (name : String) {s : Section} (kind : s.kind = .logoCloud) :
    (s.source setting name anchor).images = [] := by
  cases s with
  | logoCloud s =>
    have clean : Clean (fun _ ↦ False) True (s.draft setting |>.component name anchor).root :=
      (s.clean_draft h trivial).root plain name
    exact List.eq_nil_iff_forall_not_mem.mpr clean.forall_images
  | _ => cases kind

end Section

end Sitewright
