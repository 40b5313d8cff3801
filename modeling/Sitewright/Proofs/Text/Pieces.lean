import Mathlib.Data.List.Basic
import Sitewright.Text.Lines

/-!
# Pieces between separators

Splitting a text at a separator and joining pieces with it are inverse to each other, as long as
there is a piece and no piece holds the separator (`Text.splitBy_intercalate`). Splitting goes
through texts beside each other one after the other, if a separator stands between them
(`Text.splitBy_append_cons`). So to look for joined pieces with a separator on both sides is to look
for neighbours among the pieces of a text (`Text.bordered_infix_iff`).
-/

namespace Sitewright.Text

variable {p : Char → Bool} {separator : Char} {pieces : List (List Char)} {cs : List Char}

/-! ### Joining -/

theorem intercalate_cons_cons (separator : Char) (piece next : List Char)
    (rest : List (List Char)) :
    List.intercalate [separator] (piece :: next :: rest) =
      piece ++ separator :: List.intercalate [separator] (next :: rest) := by
  simp [List.intercalate]

theorem intercalate_append {others : List (List Char)} (some : pieces ≠ []) (some' : others ≠ []) :
    List.intercalate [separator] (pieces ++ others) =
      List.intercalate [separator] pieces ++ separator :: List.intercalate [separator] others := by
  induction pieces with
  | nil => exact absurd rfl some
  | cons piece rest ih =>
    cases rest with
    | nil =>
      rw [List.singleton_append, List.intercalate_cons_of_ne_nil some', List.intercalate_singleton,
        List.append_assoc, List.singleton_append]
    | cons next rest =>
      rw [List.cons_append, List.cons_append, intercalate_cons_cons, ← List.cons_append,
        ih (List.cons_ne_nil next rest), intercalate_cons_cons, List.append_assoc, List.cons_append]

/-- What holds of the separator and of all pieces holds of what they are joined to. -/
theorem forall_mem_intercalate {q : Char → Prop} (hseparator : q separator)
    (h : ∀ piece ∈ pieces, ∀ c ∈ piece, q c) :
    ∀ c ∈ List.intercalate [separator] pieces, q c := by
  induction pieces with
  | nil => exact fun c mem ↦ absurd mem List.not_mem_nil
  | cons piece rest ih =>
    obtain ⟨first, others⟩ := List.forall_mem_cons.mp h
    cases rest with
    | nil => simpa [List.intercalate] using first
    | cons next rest =>
      rw [intercalate_cons_cons]
      exact List.forall_mem_append.mpr ⟨first, List.forall_mem_cons.mpr ⟨hseparator, ih others⟩⟩

/-! ### Splitting -/

/-- A text without separators is one piece. -/
theorem splitBy_of_forall (h : ∀ c ∈ cs, p c = false) : splitBy p cs = [cs] := by
  induction cs with
  | nil => rfl
  | cons c cs ih =>
    obtain ⟨here, later⟩ := List.forall_mem_cons.mp h
    rw [splitBy, here, ih later]
    rfl

/-- The pieces of a text are made of its characters. -/
theorem mem_of_mem_splitBy {piece : List Char} (h : piece ∈ splitBy p cs) {c : Char}
    (mem : c ∈ piece) : c ∈ cs := by
  induction cs generalizing piece with
  | nil =>
    rw [splitBy, List.mem_singleton] at h
    rwa [h] at mem
  | cons d cs ih =>
    rw [splitBy] at h
    cases hd : p d with
    | true =>
      rw [hd, if_pos rfl] at h
      rcases List.mem_cons.mp h with rfl | later
      · cases mem
      · exact List.mem_cons_of_mem _ (ih later mem)
    | false =>
      rw [hd, if_neg Bool.false_ne_true] at h
      cases first : splitBy p cs with
      | nil => exact absurd first (splitBy_ne_nil p cs)
      | cons next rest =>
        rw [first] at h ih
        rcases List.mem_cons.mp h with rfl | later
        · rcases List.mem_cons.mp mem with rfl | mem
          · exact List.mem_cons_self
          · exact List.mem_cons_of_mem _ (ih List.mem_cons_self mem)
        · exact List.mem_cons_of_mem _ (ih (List.mem_cons_of_mem _ later) mem)

/-- The pieces on both sides of a separator. -/
theorem splitBy_append_cons {c : Char} (h : p c = true) (a b : List Char) :
    splitBy p (a ++ c :: b) = splitBy p a ++ splitBy p b := by
  induction a with
  | nil =>
    rw [List.nil_append, splitBy.eq_def p (c :: b)]
    dsimp only
    rw [h]
    rfl
  | cons d a ih =>
    rw [List.cons_append, splitBy, splitBy, ih]
    cases p d with
    | true => rfl
    | false =>
      -- The first piece goes on with `d`, and there always is a first piece.
      cases first : splitBy p a with
      | nil => exact absurd first (splitBy_ne_nil p a)
      | cons piece rest => rfl

/-- **Joined pieces are split again.** -/
theorem splitBy_intercalate (some : pieces ≠ []) (h : ∀ piece ∈ pieces, separator ∉ piece) :
    splitBy (· == separator) (List.intercalate [separator] pieces) = pieces := by
  have whole {piece : List Char} (free : separator ∉ piece) :
      splitBy (· == separator) piece = [piece] := by
    refine splitBy_of_forall fun c mem ↦ ?_
    rw [beq_eq_false_iff_ne]
    rintro rfl
    exact free mem
  induction pieces with
  | nil => exact absurd rfl some
  | cons piece rest ih =>
    obtain ⟨first, others⟩ := List.forall_mem_cons.mp h
    cases rest with
    | nil => simpa [List.intercalate] using whole first
    | cons next rest =>
      have split := splitBy_append_cons (p := (· == separator)) (beq_self_eq_true separator) piece
      rw [intercalate_cons_cons, split, whole first, ih (List.cons_ne_nil next rest) others]
      rfl

/-- Joined pieces stand in a text with a separator on both sides exactly if they are neighbours
among the pieces of the text and neither its first piece nor its last is one of them. -/
theorem bordered_infix_iff (some : pieces ≠ []) (h : ∀ piece ∈ pieces, separator ∉ piece) :
    separator :: List.intercalate [separator] pieces ++ [separator] <:+: cs ↔
      ∃ before after, before ≠ [] ∧ after ≠ [] ∧
        splitBy (· == separator) cs = before ++ pieces ++ after := by
  have here : (separator == separator) = true := beq_self_eq_true separator
  constructor
  · rintro ⟨a, b, rfl⟩
    refine ⟨splitBy (· == separator) a, splitBy (· == separator) b, splitBy_ne_nil _ a,
      splitBy_ne_nil _ b, ?_⟩
    rw [List.append_assoc, List.append_assoc, List.cons_append, List.singleton_append,
      splitBy_append_cons (p := (· == separator)) here,
      splitBy_append_cons (p := (· == separator)) here, splitBy_intercalate some h,
      List.append_assoc]
  · rintro ⟨before, after, some', some'', eq⟩
    refine ⟨List.intercalate [separator] before, List.intercalate [separator] after, ?_⟩
    rw [← intercalate_splitBy separator cs, eq,
      intercalate_append (List.append_ne_nil_of_left_ne_nil some' _) some'',
      intercalate_append some' some]
    simp only [List.append_assoc, List.cons_append, List.nil_append]

/-- Joined pieces stand in a text, both with a separator before and after them, exactly if they are
neighbours among the pieces of the text. -/
theorem bordered_infix_bordered_iff (some : pieces ≠ []) (h : ∀ piece ∈ pieces, separator ∉ piece) :
    separator :: List.intercalate [separator] pieces ++ [separator] <:+:
        separator :: cs ++ [separator] ↔
      pieces <:+: splitBy (· == separator) cs := by
  have split := splitBy_append_cons (p := (· == separator)) (beq_self_eq_true separator)
  have ends : splitBy (· == separator) (separator :: cs ++ [separator]) =
      [] :: splitBy (· == separator) cs ++ [[]] := by
    rw [split (separator :: cs) [], ← List.nil_append (separator :: cs), split [] cs]
    rfl
  rw [bordered_infix_iff some h, ends]
  constructor
  · rintro ⟨before, after, some', some'', eq⟩
    obtain ⟨_, before, rfl⟩ := List.exists_cons_of_ne_nil some'
    obtain ⟨after, last, rfl⟩ := (List.eq_nil_or_concat' after).resolve_left some''
    rw [List.cons_append, List.cons_append, List.cons_append, ← List.append_assoc] at eq
    have inner := (List.append_inj' (List.cons.inj eq).2 rfl).1
    exact ⟨before, after, inner.symm⟩
  · rintro ⟨before, after, eq⟩
    refine ⟨[] :: before, after ++ [[]], List.cons_ne_nil _ _, by simp, ?_⟩
    rw [← eq]
    simp only [List.cons_append, List.append_assoc]

/-! ### Texts -/

theorem joinWith_splitOn (separator : Char) (s : String) :
    joinWith (String.singleton separator) (splitOn separator s) = s := by
  rw [← String.toList_inj, joinWith, String.toList_intercalate, String.toList_singleton, splitOn,
    List.map_map]
  exact (congrArg _ (List.map_id'' (fun _ ↦ String.toList_ofList) _)).trans
    (intercalate_splitBy separator s.toList)

theorem splitOn_joinWith {pieces : List String} (some : pieces ≠ [])
    (h : ∀ piece ∈ pieces, separator ∉ piece.toList) :
    splitOn separator (joinWith (String.singleton separator) pieces) = pieces := by
  rw [splitOn, joinWith, String.toList_intercalate, String.toList_singleton,
    splitBy_intercalate (by simpa using some) (by simpa using h), List.map_map]
  exact List.map_id'' (fun _ ↦ String.ofList_toList) _

/-- A text without separators is one piece. -/
theorem splitOn_of_notMem {s : String} (h : separator ∉ s.toList) : splitOn separator s = [s] :=
  splitOn_joinWith (List.cons_ne_nil s []) (List.forall_mem_singleton.mpr h)

/-- The pieces on both sides of a separator. -/
theorem splitOn_append (separator : Char) (s t : String) :
    splitOn separator (s ++ String.singleton separator ++ t) =
      splitOn separator s ++ splitOn separator t := by
  have here : (separator == separator) = true := beq_self_eq_true separator
  rw [splitOn, String.toList_append, String.toList_append, String.toList_singleton,
    List.append_assoc, List.singleton_append, splitBy_append_cons (p := (· == separator)) here,
    List.map_append]
  rfl

/-- The pieces of a text are made of its characters. -/
theorem mem_of_mem_splitOn {s piece : String} (h : piece ∈ splitOn separator s) {c : Char}
    (mem : c ∈ piece.toList) : c ∈ s.toList := by
  obtain ⟨chars, hchars, rfl⟩ := List.mem_map.mp h
  rw [String.toList_ofList] at mem
  exact mem_of_mem_splitBy hchars mem

end Sitewright.Text
