import Sitewright.FieldPath
import Sitewright.Json.Pointer
import Sitewright.Proofs.Text.Pieces
import Sitewright.Proofs.Text.Replacing

/-!
# Pointers lead where paths lead

The pointer form of a path writes each segment after a slash and escapes the characters of a segment
one by one; reading a pointer splits it at its slashes and undoes the two escapes one after the
other. Escaped segments hold no slash, so the pieces are the segments (`Text.splitBy_segments`), and
the tilde is read last, so that a tilde before a digit is not taken for an escape
(`Json.unescapeStep_escapePointer`). Hence a pointer has the steps of its path, whatever the
segments are, and leads to what stands at them (`Json.atPointer?_pointer`).
-/

namespace Sitewright

/-! ### Splitting at slashes -/

namespace Text

/-- Pieces that are written after separators are the pieces between them. -/
theorem splitBy_segments {α : Type} {write : α → List Char} {separator : Char}
    (h : ∀ a, separator ∉ write a) (a : α) (as : List α) :
    splitBy (· == separator) (write a ++ as.flatMap fun a ↦ separator :: write a) =
      (a :: as).map write := by
  have whole (a : α) : splitBy (· == separator) (write a) = [write a] :=
    splitBy_of_forall fun c mem ↦ beq_eq_false_iff_ne.mpr fun eq ↦ h a (eq ▸ mem)
  induction as generalizing a with
  | nil => rw [List.flatMap_nil, List.append_nil, whole, List.map_singleton]
  | cons b as ih =>
    have split := splitBy_append_cons (p := (· == separator)) (beq_self_eq_true separator) (write a)
    rw [List.flatMap_cons, List.cons_append, split, whole, ih b]
    rfl

end Text

/-! ### Segments -/

/-- The characters of a segment in pointer form. -/
def FieldPath.escapePointer (segment : String) : List Char :=
  segment.toList.flatMap escapePointerChar

theorem FieldPath.slash_notMem_escapePointer (segment : String) :
    '/' ∉ escapePointer segment := by
  intro mem
  obtain ⟨c, -, mem⟩ := List.mem_flatMap.mp mem
  rw [escapePointerChar] at mem
  split at mem
  · simp at mem
  · split at mem
    · simp at mem
    · rename_i slash
      exact slash (beq_iff_eq.mpr (List.mem_singleton.mp mem).symm)

namespace Json

open FieldPath

/-- A character of a segment when only the slash has been read. -/
def slashRead (c : Char) : List Char := if c == '~' then ['~', '0'] else [c]

theorem unescapeStep_escapePointer (segment : String) :
    unescapeStep (escapePointer segment) = segment.toList := by
  have slash : Text.replaceChars ['~', '1'] ['/'] (escapePointer segment) =
      segment.toList.flatMap slashRead := by
    refine Text.replaceChars_flatMap (List.cons_ne_nil _ _) (fun c ↦ ?_) _
    by_cases tilde : c = '~'
    · subst tilde
      exact .inr ⟨rfl, rfl⟩
    · by_cases slash : c = '/'
      · subst slash
        exact .inl ⟨rfl, rfl⟩
      · simp [escapePointerChar, slashRead, tilde, slash, Text.shuns, Text.clash, Ne.symm tilde]
  have tilde : Text.replaceChars ['~', '0'] ['~'] (segment.toList.flatMap slashRead) =
      segment.toList.flatMap fun c ↦ [c] := by
    refine Text.replaceChars_flatMap (List.cons_ne_nil _ _) (fun c ↦ ?_) _
    by_cases tilde : c = '~'
    · subst tilde
      exact .inl ⟨rfl, rfl⟩
    · simp [slashRead, tilde, Text.shuns, Text.clash, Ne.symm tilde]
  rw [unescapeStep, slash, tilde, ← List.map_eq_flatMap, List.map_id']

/-! ### Pointers -/

/-- **A pointer has the steps of its path.** -/
theorem pointerSteps?_pointer (path : FieldPath) :
    pointerSteps? path.pointer = some path.segments := by
  obtain ⟨segments⟩ := path
  cases segments with
  | nil => rfl
  | cons segment others =>
    have written : (pointer ⟨segment :: others⟩).toList =
        '/' :: (escapePointer segment ++
          others.flatMap fun segment ↦ '/' :: escapePointer segment) := by
      rw [pointer, String.toList_ofList, List.flatMap_cons]
      rfl
    have read : ((segment :: others).map escapePointer).map
        (fun step ↦ String.ofList (unescapeStep step)) = segment :: others := by
      rw [List.map_map, List.map_congr_left (g := id), List.map_id]
      intro segment _
      show String.ofList (unescapeStep (escapePointer segment)) = segment
      rw [unescapeStep_escapePointer, String.ofList_toList]
    rw [← Text.splitBy_segments slash_notMem_escapePointer] at read
    rw [pointerSteps?, written]
    exact congrArg some read

/-- **A pointer leads where its path leads.** -/
theorem atPointer?_pointer (path : FieldPath) (v : Json) :
    v.atPointer? path.pointer = v.at? path.segments := by
  rw [atPointer?, pointerSteps?_pointer, Option.bind_some]

end Json

end Sitewright
