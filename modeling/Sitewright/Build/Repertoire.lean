import Sitewright.Site.Section

/-!
# Repertoire

The kinds of section that a compiler draws. A repertoire lists its kinds in the order of all kinds,
so two repertoires with the same kinds are equal.
-/

namespace Sitewright

/-- A set of section kinds. -/
structure Repertoire where
  /-- The kinds, in the order of all kinds. -/
  kinds : List SectionKind
  deriving DecidableEq

namespace Repertoire

/-- No kind at all. -/
def empty : Repertoire := ⟨[]⟩

/-- Every kind. -/
def full : Repertoire := ⟨SectionKind.all⟩

/-- Whether a kind is in the repertoire. -/
def has (r : Repertoire) (kind : SectionKind) : Bool := r.kinds.contains kind

/-- The repertoire with a kind. -/
def insert (r : Repertoire) (kind : SectionKind) : Repertoire :=
  ⟨SectionKind.all.filter fun k => k == kind || r.has k⟩

/-- The repertoire without a kind. -/
def erase (r : Repertoire) (kind : SectionKind) : Repertoire :=
  ⟨r.kinds.filter fun k => k != kind⟩

/-- Whether an entry of a page stands for a section whose kind is in the repertoire. -/
def supports (r : Repertoire) : SectionEntry → Bool
  | .supported s => r.has s.kind
  | .unsupported _ => false

@[simp] theorem has_insert (r : Repertoire) (kind other : SectionKind) :
    (r.insert kind).has other = (other == kind || r.has other) := by
  have := SectionKind.mem_all other
  by_cases h : other = kind <;> simp_all [insert, has, List.mem_filter]

@[simp] theorem has_erase (r : Repertoire) (kind other : SectionKind) :
    (r.erase kind).has other = (other != kind && r.has other) := by
  by_cases h : other = kind <;> simp_all [erase, has, List.mem_filter]

end Repertoire

end Sitewright
