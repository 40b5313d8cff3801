import Sitewright.Markup.Escape
import Sitewright.Proofs.Text.Replacing

/-!
# Reading attribute values back

A text inside an attribute is written character by character, and reading it back replaces one
entity after the other in the whole value. What comes out is the text with line breaks and tabs
turned into spaces, which is all that an attribute loses (`Markup.unescapeChars_attributeChars`).

Each replacement is looked at block by block (`Text.replaceChars_flatMap`), where a block is what
one character was written as: either the entity that is being replaced, or a block in which no
occurrence of the entity starts. Blocks of one character are no ampersand, and two entities differ
before either of them ends. The ampersand is the exception, which is why its entity is replaced
last.
-/

namespace Sitewright.Markup

/-- A character on one line: line breaks and tabs become spaces. -/
def onLine (c : Char) : Char := if c = '\n' ∨ c = '\r' ∨ c = '\t' then ' ' else c

/-- A text on one line. -/
def oneLine (s : String) : String := String.ofList (s.toList.map onLine)

/-- A character inside an attribute when the entities of some characters have been replaced. -/
def partlyRead (read : List Char) (c : Char) : List Char :=
  if c ∈ read then [c] else attributeChar c

/-- The characters that have an entity. -/
def special : List Char := ['&', '"', '<', '>']

/-- A character that has no entity is written as itself, on one line. -/
theorem attributeChar_of_notMem {c : Char} (h : c ∉ special) :
    attributeChar c = [onLine c] ∧ onLine c ≠ '&' := by
  unfold attributeChar onLine
  split
  case h_8 => simp_all [special]
  all_goals simp_all [special]

/-- Whether replacing an entity leads from what is written of a character to what is to be
written of it. -/
def advances (phrase replacement block next : List Char) : Bool :=
  block == phrase && next == replacement || Text.shuns phrase block && next == block

/-- Replacing an entity reads one more character, if it does so for those that have an entity. -/
theorem replaceChars_partlyRead {name replacement read : List Char} (read' : List Char)
    (subset : (read ++ read').all special.contains = true)
    (h : (special.all fun c ↦
      advances ('&' :: name) replacement (partlyRead read c) (partlyRead read' c)) = true)
    (cs : List Char) :
    Text.replaceChars ('&' :: name) replacement (cs.flatMap (partlyRead read)) =
      cs.flatMap (partlyRead read') := by
  have known {c : Char} (mem : c ∈ read ++ read') : c ∈ special := by
    simpa using List.all_eq_true.mp subset c mem
  refine Text.replaceChars_flatMap (List.cons_ne_nil _ _) (fun c ↦ ?_) cs
  by_cases mem : c ∈ special
  · simpa [advances] using List.all_eq_true.mp h c mem
  · obtain ⟨eq, ne⟩ := attributeChar_of_notMem mem
    have unread : c ∉ read := fun h ↦ mem (known (List.mem_append_left _ h))
    have unread' : c ∉ read' := fun h ↦ mem (known (List.mem_append_right _ h))
    refine .inr ⟨?_, ?_⟩
    · simp [partlyRead, unread, eq, Text.shuns, Text.clash, Ne.symm ne]
    · rw [partlyRead, partlyRead, if_neg unread, if_neg unread']

/-- Before anything is read, everything is written as in an attribute. -/
theorem partlyRead_nil : partlyRead [] = attributeChar := by
  funext c
  simp [partlyRead]

/-- When all entities have been read, every character stands for itself on one line. -/
theorem partlyRead_special : partlyRead ['&', '>', '<', '"'] = fun c ↦ [onLine c] := by
  funext c
  by_cases mem : c ∈ special
  · have known : (special.all fun c ↦ partlyRead ['&', '>', '<', '"'] c == [onLine c]) = true := by
      rfl
    exact beq_iff_eq.mp (List.all_eq_true.mp known c mem)
  · obtain ⟨eq, -⟩ := attributeChar_of_notMem mem
    have unread : c ∉ ['&', '>', '<', '"'] := by simp_all [special]
    rw [partlyRead, if_neg unread, eq]

/-- **An attribute loses nothing but line breaks and tabs.** -/
theorem unescapeChars_attributeChars (cs : List Char) :
    unescapeChars (attributeChars cs) = cs.map onLine := by
  rw [unescapeChars, attributeChars, ← partlyRead_nil,
    replaceChars_partlyRead ['"'] rfl rfl,
    replaceChars_partlyRead ['"'] rfl rfl,
    replaceChars_partlyRead ['<', '"'] rfl rfl,
    replaceChars_partlyRead ['>', '<', '"'] rfl rfl,
    replaceChars_partlyRead ['&', '>', '<', '"'] rfl rfl,
    partlyRead_special, List.map_eq_flatMap]

theorem ne_of_mem_escapeAttribute {s : String} {c : Char} (h : c ∈ (escapeAttribute s).toList) :
    c ≠ '"' ∧ c ≠ '<' ∧ c ≠ '>' := by
  rw [escapeAttribute, String.toList_ofList] at h
  obtain ⟨d, -, mem⟩ := List.mem_flatMap.mp h
  exact ne_of_mem_attributeChar mem

theorem unescapeAttribute_escapeAttribute (s : String) :
    unescapeAttribute (escapeAttribute s) = oneLine s := by
  rw [unescapeAttribute, escapeAttribute, String.toList_ofList, unescapeChars_attributeChars,
    oneLine]

theorem oneLine_eq_self_iff {s : String} :
    oneLine s = s ↔ ∀ c ∈ s.toList, c ≠ '\n' ∧ c ≠ '\r' ∧ c ≠ '\t' := by
  have kept (c : Char) : onLine c = c ↔ c ≠ '\n' ∧ c ≠ '\r' ∧ c ≠ '\t' := by
    rw [onLine]
    split
    · rename_i broken
      rcases broken with rfl | rfl | rfl <;> decide
    · simp_all
  have same : s.toList.map onLine = s.toList ↔ ∀ c ∈ s.toList, onLine c = c := by
    rw [← List.map_inj_left, List.map_id']
  rw [← String.toList_inj, oneLine, String.toList_ofList, same]
  simp only [kept]

/-- **Attributes are read back.** What is written of a text neither ends the attribute nor the tag,
and stands for the text on one line, whatever entities the text spells out itself. It stands for the
text as it is exactly if that has no line breaks and no tabs. -/
theorem escapeAttribute_readsBack (s : String) :
    (∀ c ∈ (escapeAttribute s).toList, c ≠ '"' ∧ c ≠ '<' ∧ c ≠ '>') ∧
      unescapeAttribute (escapeAttribute s) = oneLine s ∧
      (unescapeAttribute (escapeAttribute s) = s ↔
        ∀ c ∈ s.toList, c ≠ '\n' ∧ c ≠ '\r' ∧ c ≠ '\t') := by
  refine ⟨fun c ↦ ne_of_mem_escapeAttribute, unescapeAttribute_escapeAttribute s, ?_⟩
  rw [unescapeAttribute_escapeAttribute, oneLine_eq_self_iff]

/-- Entities that are spelled out are text. -/
example : escapeAttribute "&amp;quot; or &#39;" = "&amp;amp;quot; or &amp;#39;" ∧
    unescapeAttribute "&amp;amp;quot; or &amp;#39;" = "&amp;quot; or &#39;" := by
  decide +kernel

end Sitewright.Markup
