import Sitewright.Site.Styles

/-!
# Remembered styles

Sites come in few themes, so whoever resolves many of them keeps the styles of each theme it has
met. What is kept for a theme is what the theme resolves to: the invariant is part of the type, so
resolving a theme with a memo and without one cannot differ.
-/

namespace Sitewright

/-- The themes that have been met, each once, with their styles. -/
structure StyleMemo where
  /-- The styles by theme, the latest theme first. -/
  entries : List (Theme × Styles)
  /-- What is kept for a theme is what it resolves to. -/
  resolved : ∀ entry ∈ entries, entry.2 = entry.1.styles

namespace StyleMemo

/-- No theme has been met. -/
def empty : StyleMemo := ⟨[], by simp⟩

/-- The number of themes that have been met. -/
def size (memo : StyleMemo) : Nat := memo.entries.length

/-- The styles that are kept for a theme. -/
def find? (memo : StyleMemo) (theme : Theme) : Option Styles :=
  (memo.entries.find? fun entry => entry.1 == theme).map (·.2)

/-- The memo with the styles of a theme put in front. -/
def push (memo : StyleMemo) (theme : Theme) : StyleMemo :=
  ⟨(theme, theme.styles) :: memo.entries, by
    intro entry mem
    rcases List.mem_cons.1 mem with rfl | mem
    · rfl
    · exact memo.resolved entry mem⟩

/-- The styles of a theme, and the memo that knows them. -/
def resolve (memo : StyleMemo) (theme : Theme) : Styles × StyleMemo :=
  match memo.find? theme with
  | some styles => (styles, memo)
  | none => (theme.styles, memo.push theme)

theorem eq_styles_of_find? {memo : StyleMemo} {theme : Theme} {styles : Styles}
    (h : memo.find? theme = some styles) : styles = theme.styles := by
  obtain ⟨entry, found, rfl⟩ := Option.map_eq_some_iff.1 h
  have same : entry.1 = theme := by simpa using List.find?_some found
  exact same ▸ memo.resolved entry (List.mem_of_find?_eq_some found)

/-- A theme resolves to its styles, whatever has been met before. -/
theorem resolve_fst (memo : StyleMemo) (theme : Theme) :
    (memo.resolve theme).1 = theme.styles := by
  unfold resolve
  split
  · rename_i styles h
    exact eq_styles_of_find? h
  · rfl

end StyleMemo

end Sitewright
