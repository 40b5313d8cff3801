import Mathlib.Data.List.TakeWhile
import Sitewright.Proofs.Markup.Entities
import Sitewright.Proofs.Text.Plain

/-!
# Where links lead

A link whose scheme makes a browser run what the link itself holds is not written. Which scheme a
link has is for the browser to say, and it reads links in its own way: controls and spaces around a
link are ignored, tabs and line breaks are ignored everywhere, and case does not count
(`Markup.browserScheme?`). The check before a link is written takes another view: it leaves out all
white space and all controls before the first colon (`Markup.spelledScheme?`).

The two views meet in the visible characters, those that are neither white space nor controls. A
colon is visible, so the spelled scheme depends on nothing else (`Markup.spelledScheme?_congr`), and
neither writing a link into an attribute nor reading it in a browser adds or removes a visible
character. So a scheme of visible characters that a browser finds is one that the check has found
before (`Markup.spelledScheme?_of_browserScheme?`). The converse fails: `java script:` is refused,
though no browser would run it.
-/

namespace Sitewright.Markup

/-! ### Schemes -/

/-- What stands before the first colon, in lower case, if there is a colon. -/
def scheme? (cs : List Char) : Option (List Char) :=
  if ':' ∈ cs then some ((cs.takeWhile (· != ':')).map Char.toLower) else none

/-- Whether a browser ignores a character at the ends of a link: controls and the space. -/
def isPadding (c : Char) : Bool := c.toNat ≤ 32

/-- Whether a browser ignores a character anywhere in a link: tabs and line breaks. -/
def isBreak (c : Char) : Bool := c == '\t' || c == '\n' || c == '\r'

/-- What a browser takes of a link. -/
def browsed (cs : List Char) : List Char :=
  (Text.trimEndWhile isPadding (cs.dropWhile isPadding)).filter fun c ↦ !isBreak c

/-- The scheme that a browser finds in a link. -/
def browserScheme? (url : String) : Option (List Char) := scheme? (browsed url.toList)

/-- Whether a character is neither white space nor a control. -/
def isVisible (c : Char) : Bool := !Text.isSpace c && !Text.isControl c

/-- The scheme that a link spells: what stands before its first colon, in lower case and without
white space and controls. -/
def spelledScheme? (cs : List Char) : Option (List Char) := (scheme? cs).map (·.filter isVisible)

/-- The schemes of links that hold what a browser is to run or to show. -/
def scriptSchemes : List (List Char) :=
  ["javascript".toList, "vbscript".toList, "data".toList]

/-! ### Visible characters -/

theorem isVisible_toLower (c : Char) : isVisible c.toLower = isVisible c :=
  Text.apply_toLower (by decide) c

theorem isVisible_of_isPadding {c : Char} (h : isPadding c = true) : isVisible c = false := by
  simp only [isPadding, decide_eq_true_eq] at h
  simp only [isVisible, Text.isSpace, Text.isControl, Bool.and_eq_false_iff, Bool.not_eq_false',
    Bool.or_eq_true, Bool.and_eq_true, decide_eq_true_eq, beq_iff_eq]
  omega

theorem isVisible_of_isBreak {c : Char} (h : isBreak c = true) : isVisible c = false := by
  simp only [isBreak, Bool.or_eq_true, beq_iff_eq] at h
  rcases h with (rfl | rfl) | rfl <;> rfl

theorem isVisible_of_isSpace {c : Char} (h : Text.isSpace c = true) : isVisible c = false := by
  rw [isVisible, h, Bool.not_true, Bool.false_and]

section Dropping

variable {p : Char → Bool} (hidden : ∀ c, p c = true → isVisible c = false)
include hidden

/-- Dropping invisible characters keeps the visible ones. -/
theorem filter_dropWhile (cs : List Char) :
    (cs.dropWhile p).filter isVisible = cs.filter isVisible := by
  induction cs with
  | nil => rfl
  | cons c cs ih =>
    rw [List.dropWhile_cons]
    split
    · rename_i dropped
      rw [ih, List.filter_cons_of_neg (by rw [hidden c dropped]; exact Bool.false_ne_true)]
    · rfl

theorem filter_trimEndWhile (cs : List Char) :
    (Text.trimEndWhile p cs).filter isVisible = cs.filter isVisible := by
  rw [Text.trimEndWhile, List.filter_reverse, filter_dropWhile hidden, List.filter_reverse,
    List.reverse_reverse]

theorem filter_filter_not (cs : List Char) :
    (cs.filter fun c ↦ !p c).filter isVisible = cs.filter isVisible := by
  rw [List.filter_filter]
  refine List.filter_congr fun c _ ↦ ?_
  cases dropped : p c with
  | true => rw [hidden c dropped, Bool.false_and]
  | false => rw [Bool.not_false, Bool.and_true]

end Dropping

/-- A browser takes all that is visible of a link. -/
theorem filter_browsed (cs : List Char) : (browsed cs).filter isVisible = cs.filter isVisible := by
  rw [browsed, filter_filter_not fun _ ↦ isVisible_of_isBreak,
    filter_trimEndWhile fun _ ↦ isVisible_of_isPadding,
    filter_dropWhile fun _ ↦ isVisible_of_isPadding]

/-- White space at the ends of a link is not visible. -/
theorem filter_trimChars (cs : List Char) :
    (Text.trimChars cs).filter isVisible = cs.filter isVisible := by
  rw [Text.trimChars, filter_trimEndWhile fun _ ↦ isVisible_of_isSpace, Text.trimStart,
    filter_dropWhile fun _ ↦ isVisible_of_isSpace]

/-- An attribute holds all that is visible of a text. -/
theorem filter_map_onLine (cs : List Char) :
    (cs.map onLine).filter isVisible = cs.filter isVisible := by
  induction cs with
  | nil => rfl
  | cons c cs ih =>
    rw [List.map_cons, List.filter_cons, List.filter_cons, ih, onLine]
    split
    · rename_i broken
      rcases broken with rfl | rfl | rfl <;> rfl
    · rfl

/-! ### Spelled schemes -/

theorem filter_map_toLower (cs : List Char) :
    (cs.map Char.toLower).filter isVisible = (cs.filter isVisible).map Char.toLower := by
  rw [List.filter_map]
  exact congrArg _ (List.filter_congr fun c _ ↦ isVisible_toLower c)

/-- The spelled scheme is what the check looks at. -/
theorem spelledScheme?_eq (cs : List Char) :
    spelledScheme? cs = if ':' ∈ cs then some (schemeChars cs) else none := by
  rw [spelledScheme?, scheme?]
  split
  · rw [Option.map_some, filter_map_toLower]
    rfl
  · rfl

/-- A colon is visible, so leaving out what is not does not move what stands before it. -/
theorem takeWhile_filter_isVisible (cs : List Char) :
    (cs.filter isVisible).takeWhile (· != ':') = (cs.takeWhile (· != ':')).filter isVisible := by
  have hidden : (fun c ↦ !isVisible c || c != ':') = (· != ':') := by
    funext c
    by_cases colon : c = ':'
    · subst colon
      decide
    · rw [bne_iff_ne.mpr colon, Bool.or_true]
  rw [List.takeWhile_filter, hidden]

theorem scheme?_filter_isVisible (cs : List Char) :
    scheme? (cs.filter isVisible) = spelledScheme? cs := by
  have colon : ':' ∈ cs.filter isVisible ↔ ':' ∈ cs := by
    rw [List.mem_filter, and_iff_left (by decide)]
  simp only [spelledScheme?_eq, scheme?, takeWhile_filter_isVisible, colon]
  rfl

/-- The spelled scheme depends on the visible characters alone. -/
theorem spelledScheme?_congr {as bs : List Char}
    (h : as.filter isVisible = bs.filter isVisible) : spelledScheme? as = spelledScheme? bs := by
  rw [← scheme?_filter_isVisible, h, scheme?_filter_isVisible]

/-- **The check finds what a browser finds**, if that is visible. -/
theorem spelledScheme?_of_browserScheme? {url : String} {scheme : List Char}
    (h : browserScheme? url = some scheme) (visible : ∀ c ∈ scheme, isVisible c = true) :
    spelledScheme? url.toList = some scheme := by
  rw [← spelledScheme?_congr (filter_browsed url.toList), spelledScheme?, ← browserScheme?, h,
    Option.map_some, List.filter_eq_self.mpr visible]

theorem visible_of_mem_scriptSchemes {scheme : List Char} (h : scheme ∈ scriptSchemes) :
    ∀ c ∈ scheme, isVisible c = true := by
  have all : ∀ scheme ∈ scriptSchemes, scheme.all isVisible = true := by decide
  exact List.all_eq_true.mp (all scheme h)

theorem isBlocked_iff {cs : List Char} :
    isBlocked cs = true ↔ ∃ scheme ∈ spelledScheme? cs, scheme ∈ scriptSchemes := by
  rw [isBlocked, Bool.and_eq_true, List.contains_iff_mem, List.contains_iff_mem, spelledScheme?_eq]
  by_cases colon : ':' ∈ cs
  · rw [if_pos colon, and_iff_right colon]
    simp only [Option.mem_some_iff, exists_eq_left']
    rfl
  · rw [if_neg colon]
    simp only [colon, false_and, Option.not_mem_none, exists_false]

/-! ### Written links -/

/-- A link that is refused: a blank one, or one that spells the scheme of a script. -/
def IsRefused (link : String) : Prop :=
  Text.isBlank link = true ∨ ∃ scheme ∈ spelledScheme? link.toList, scheme ∈ scriptSchemes

theorem isEmpty_trimChars (s : String) :
    (Text.trimChars s.toList).isEmpty = Text.isBlank s := by
  rw [Bool.eq_iff_iff, List.isEmpty_iff, Text.isBlank, List.all_eq_true, Text.trimChars,
    Text.trimEndWhile, Text.trimStart, List.reverse_eq_nil_iff, List.dropWhile_eq_nil_iff]
  constructor
  · intro h c mem
    rw [← List.takeWhile_append_dropWhile (p := Text.isSpace) (l := s.toList)] at mem
    rcases List.mem_append.mp mem with first | later
    · exact List.mem_takeWhile_imp first
    · exact h c (List.mem_reverse.mpr later)
  · intro h c mem
    exact h c ((List.dropWhile_suffix _).mem (List.mem_reverse.mp mem))

/-- The check is made on a link without white space at its ends, which makes no difference. -/
theorem isRefused_iff {s : String} : IsRefused s ↔
    ((Text.trimChars s.toList).isEmpty || isBlocked (Text.trimChars s.toList)) = true := by
  rw [Bool.or_eq_true, isEmpty_trimChars, isBlocked_iff,
    spelledScheme?_congr (filter_trimChars s.toList)]
  rfl

theorem link_of_isRefused {s : String} (h : IsRefused s) : link s = "#" := by
  rw [link, linkChars, if_pos (isRefused_iff.mp h)]

theorem link_of_not_isRefused {s : String} (h : ¬ IsRefused s) :
    link s = escapeAttribute (Text.trim s) := by
  rw [link, linkChars, if_neg (mt isRefused_iff.mpr h), escapeAttribute, Text.trim,
    String.toList_ofList]

/-- What is promised of what is written of a link. -/
structure LeadsSafely (link written : String) : Prop where
  /-- It ends neither the attribute nor the tag. -/
  quotable : ∀ c ∈ written.toList, c ≠ '"' ∧ c ≠ '<' ∧ c ≠ '>'
  /-- No browser finds the scheme of a script in what it stands for. -/
  harmless : ∀ scheme ∈ browserScheme? (unescapeAttribute written), scheme ∉ scriptSchemes
  /-- A link that is not refused is kept, on one line and without white space at its ends. -/
  kept : ¬ IsRefused link → unescapeAttribute written = oneLine (Text.trim link)
  /-- A refused link leads nowhere. -/
  refused : IsRefused link → written = "#"

/-- **No link runs a script, and no other link is lost.** -/
theorem link_leadsSafely (s : String) : LeadsSafely s (link s) := by
  by_cases refused : IsRefused s
  · rw [link_of_isRefused refused]
    refine ⟨fun c mem ↦ ?_, by decide +kernel, fun kept ↦ absurd refused kept, fun _ ↦ rfl⟩
    obtain rfl : c = '#' := List.mem_singleton.mp mem
    decide
  · rw [link_of_not_isRefused refused]
    refine ⟨fun c ↦ ne_of_mem_escapeAttribute, fun scheme found script ↦ refused (.inr ?_),
      fun _ ↦ unescapeAttribute_escapeAttribute _, fun h ↦ absurd h refused⟩
    -- What the browser finds is spelled by what was written, and so by the link itself.
    rw [unescapeAttribute_escapeAttribute] at found
    have spelled := spelledScheme?_of_browserScheme? found (visible_of_mem_scriptSchemes script)
    have same : (oneLine (Text.trim s)).toList.filter isVisible = s.toList.filter isVisible := by
      rw [oneLine, String.toList_ofList, filter_map_onLine, Text.trim, String.toList_ofList,
        filter_trimChars]
    exact ⟨scheme, spelledScheme?_congr same ▸ spelled, script⟩

/-- Neither controls nor case nor line breaks hide a scheme. -/
example : link "\x01 Java\nScript\t:alert(1)" = "#" := by decide +kernel

end Sitewright.Markup
