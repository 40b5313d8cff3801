import Sitewright.FieldPath
import Sitewright.Proofs.Json.Places
import Sitewright.Proofs.Text.Numerals
import Sitewright.Proofs.Text.Pieces

/-!
# Paths that can be written

The dotted form of a path is made of its segments as they are, so it stands for the path only if the
segments hold nothing that reading takes for something else. `FieldPath.IsWritable` says when they
do not, and then the path is read back; no other path is (`FieldPath.parse_dotted_iff`).

Whether the places in a value have such paths is a matter of the keys in it, because the numeral of
an index always is a segment. A value is addressable, `Json.IsAddressable`, if everywhere in it the
keys are segments, and `Json.IsAddressableBut` some places if they are everywhere else.
-/

namespace Sitewright

/-! ### Writable paths -/

namespace FieldPath

/-- Whether a text may be a segment of a path in dotted form. -/
def IsSegment (s : String) : Prop := s ≠ "" ∧ s.toList.all isSegmentChar = true

instance (s : String) : Decidable (IsSegment s) := inferInstanceAs (Decidable (_ ∧ _))

/-- Whether the dotted form of a path says which path it is. -/
def IsWritable (path : FieldPath) : Prop := ∀ segment ∈ path.segments, IsSegment segment

instance (path : FieldPath) : Decidable path.IsWritable :=
  inferInstanceAs (Decidable (∀ segment ∈ path.segments, IsSegment segment))

theorem checkSegment_eq_ok_iff {s t : String} : checkSegment s = .ok t ↔ IsSegment s ∧ s = t := by
  rw [checkSegment, IsSegment]
  by_cases empty : s = ""
  · simp [empty]
  · rw [if_neg (by simpa using empty)]
    cases all : s.toList.all isSegmentChar <;> simp [empty]

theorem mapM_checkSegment_eq_ok_iff {segments checked : List String} :
    segments.mapM checkSegment = .ok checked ↔
      (∀ segment ∈ segments, IsSegment segment) ∧ segments = checked := by
  induction segments generalizing checked with
  | nil => simp [pure, Except.pure]
  | cons segment rest ih =>
    rw [List.mapM_cons, List.forall_mem_cons]
    constructor
    · intro read
      cases first : checkSegment segment with
      | error e => simp [first, bind, Except.bind] at read
      | ok s =>
        cases others : rest.mapM checkSegment with
        | error e => simp [first, others, bind, Except.bind] at read
        | ok ss =>
          obtain ⟨here, rfl⟩ := checkSegment_eq_ok_iff.mp first
          obtain ⟨later, rfl⟩ := ih.mp others
          simp only [first, others, bind, Except.bind, pure, Except.pure, Except.ok.injEq] at read
          exact ⟨⟨here, later⟩, read⟩
    · rintro ⟨⟨here, later⟩, rfl⟩
      rw [checkSegment_eq_ok_iff.mpr ⟨here, rfl⟩, ih.mpr ⟨later, rfl⟩]
      rfl

/-- No segment holds the dot that stands between segments. -/
theorem IsSegment.dot_notMem {s : String} (h : IsSegment s) : '.' ∉ s.toList := fun mem ↦
  absurd (List.all_eq_true.mp h.2 '.' mem) (by decide)

theorem IsWritable.splitOn_dotted {path : FieldPath} (h : path.IsWritable)
    (below : path.segments ≠ []) : Text.splitOn '.' path.dotted = path.segments :=
  Text.splitOn_joinWith below fun segment mem ↦ (h segment mem).dot_notMem

theorem segments_of_dotted_eq_empty {path : FieldPath} (h : path.dotted = "") :
    path.segments = [] ∨ path.segments = [""] := by
  obtain ⟨segments⟩ := path
  rw [← String.toList_inj, dotted, Text.joinWith, String.toList_intercalate] at h
  cases segments with
  | nil => exact .inl rfl
  | cons segment rest =>
    cases rest with
    | nil => exact .inr (by simpa using h)
    | cons next rest => simp at h

/-- **What a text is read as.** A path is read from its dotted form and from nothing else, and only
if its segments can be told apart in it. -/
theorem parse_eq_ok_iff {s : String} {path : FieldPath} :
    parse s = .ok path ↔ path.IsWritable ∧ path.dotted = s := by
  obtain ⟨segments⟩ := path
  rw [parse]
  by_cases empty : s = ""
  · subst empty
    constructor
    · intro read
      cases read
      exact ⟨fun _ mem ↦ (List.not_mem_nil mem).elim, rfl⟩
    · rintro ⟨writable, empty⟩
      rcases segments_of_dotted_eq_empty empty with root | key
      · exact congrArg (Except.ok ∘ FieldPath.mk) root.symm
      · exact absurd rfl (writable "" (key ▸ List.mem_singleton_self "")).1
  · rw [if_neg (by simpa using empty)]
    constructor
    · intro read
      cases checked : (Text.splitOn '.' s).mapM checkSegment with
      | error e => simp [checked, Except.map] at read
      | ok parts =>
        obtain ⟨writable, split⟩ := mapM_checkSegment_eq_ok_iff.mp checked
        rw [checked] at read
        cases read
        subst split
        exact ⟨writable, Text.joinWith_splitOn '.' s⟩
    · rintro ⟨writable, rfl⟩
      have below : segments ≠ [] := by
        rintro rfl
        exact empty rfl
      rw [writable.splitOn_dotted below, mapM_checkSegment_eq_ok_iff.mpr ⟨writable, rfl⟩]
      rfl

/-- A path is read back if and only if it can be written. -/
theorem parse_dotted_iff {path : FieldPath} : parse path.dotted = .ok path ↔ path.IsWritable := by
  rw [parse_eq_ok_iff, and_iff_left rfl]

theorem IsWritable.dotted_inj {path other : FieldPath} (h : path.IsWritable)
    (k : other.IsWritable) : path.dotted = other.dotted ↔ path = other := by
  refine ⟨fun same ↦ ?_, fun eq ↦ by rw [eq]⟩
  have read := parse_dotted_iff.mpr k
  rw [← same, parse_dotted_iff.mpr h] at read
  exact Except.ok.inj read

/-- The dotted form of a path goes on after that of a path above it. -/
theorem dotted_append_ne {above below : List String} (some : above ≠ []) (some' : below ≠ []) :
    dotted ⟨above ++ below⟩ ≠ dotted ⟨above⟩ := by
  intro same
  rw [← String.toList_inj, dotted, dotted, Text.joinWith, Text.joinWith, String.toList_intercalate,
    String.toList_intercalate, List.map_append, show ".".toList = ['.'] from rfl,
    Text.intercalate_append (by simpa using some) (by simpa using some')] at same
  simpa using congrArg List.length same

/-- The dotted form of a path is read as something at or above the path only if it is read as the
path itself. The one exception is an empty key on its own, which is written like the root. -/
theorem exists_covers_iff {path : FieldPath} (h : path.segments ≠ [""]) :
    (∃ target, parse path.dotted = .ok target ∧ target.covers path = true) ↔ path.IsWritable := by
  refine ⟨?_, fun writable ↦ ⟨path, parse_dotted_iff.mpr writable, path.covers_self⟩⟩
  rintro ⟨⟨above⟩, read, covers⟩
  obtain ⟨segments⟩ := path
  obtain ⟨writable, same⟩ := parse_eq_ok_iff.mp read
  obtain ⟨below, rfl⟩ := covers_iff.mp covers
  by_cases whole : below = []
  · rw [whole, List.append_nil]
    exact writable
  · by_cases root : above = []
    · subst root
      exact (segments_of_dotted_eq_empty same.symm).elim (absurd · whole) (absurd · h)
    · exact absurd same.symm (dotted_append_ne root whole)

theorem isSegmentChar_of_isDigit {c : Char} (h : c.isDigit = true) : isSegmentChar c = true := by
  have ascii : c.toNat < 128 := by
    have zero : '0'.toNat = 48 := rfl
    have lt := (Text.digitChar_of_isDigit h).1
    omega
  simp [isSegmentChar, Text.isAlphanumeric_of_lt ascii, Char.isAlphanum, h]

/-- The numeral of an index is a segment. -/
theorem isSegment_toString (i : Nat) : IsSegment (toString i) := by
  rw [IsSegment, ← String.toList_inj.ne, Nat.toString_eq_ofList_toDigits, String.toList_ofList]
  refine ⟨Nat.toDigits_ne_nil, List.all_eq_true.mpr fun _ mem ↦ ?_⟩
  exact isSegmentChar_of_isDigit (Nat.isDigit_of_mem_toDigits (by decide) (by decide) mem)

end FieldPath

/-! ### Places with a writable path -/

namespace Json

open FieldPath

/-- Whether the path of every place in a value can be written that is not at or below some places
apart. -/
def IsAddressableBut (apart : List String → Prop) (v : Json) : Prop :=
  ∀ path : FieldPath, (v.at? path.segments).isSome = true →
    path.IsWritable ∨ ∃ place, apart place ∧ place <+: path.segments

/-- Whether the path of every place in a value can be written. -/
abbrev IsAddressable (v : Json) : Prop := v.IsAddressableBut fun _ ↦ False

variable {v : Json} {apart : List String → Prop}

theorem IsAddressable.isWritable (h : v.IsAddressable) (path : FieldPath)
    (there : (v.at? path.segments).isSome = true) : path.IsWritable :=
  (h path there).resolve_right fun ⟨_, no, _⟩ ↦ no

theorem IsAddressable.but (h : v.IsAddressable) : v.IsAddressableBut apart :=
  fun path there ↦ .inl (h.isWritable path there)

theorem IsAddressableBut.mono {apart' : List String → Prop} (h : v.IsAddressableBut apart)
    (le : ∀ place, apart place → apart' place) : v.IsAddressableBut apart' :=
  fun path there ↦ (h path there).imp_right fun ⟨place, mem, pre⟩ ↦ ⟨place, le place mem, pre⟩

theorem IsAddressableBut.of_steps (h : ∀ {step w}, v.step? step = some w →
    IsSegment step ∧ w.IsAddressableBut fun place ↦ apart (step :: place)) :
    v.IsAddressableBut apart := by
  rintro ⟨segments⟩ there
  cases segments with
  | nil => exact .inl fun _ mem ↦ (List.not_mem_nil mem).elim
  | cons step rest =>
    obtain ⟨w, hw⟩ := Option.isSome_iff_exists.mp there
    obtain ⟨below, hbelow, hw⟩ := Option.bind_eq_some_iff.mp hw
    obtain ⟨here, inside⟩ := h hbelow
    refine (inside ⟨rest⟩ (by rw [hw]; rfl)).imp (fun writable ↦ ?_) ?_
    · exact List.forall_mem_cons.mpr ⟨here, writable⟩
    · rintro ⟨place, mem, pre⟩
      exact ⟨step :: place, mem, List.cons_prefix_cons.mpr ⟨rfl, pre⟩⟩

theorem IsAddressable.step? {step : String} {w : Json} (h : v.IsAddressable)
    (hw : v.step? step = some w) : IsSegment step ∧ w.IsAddressable := by
  have at?_cons (rest : List String) : v.at? (step :: rest) = w.at? rest := by
    rw [at?, hw, Option.bind_some]
  refine ⟨h.isWritable ⟨[step]⟩ (by rw [at?_cons]; rfl) step (List.mem_singleton_self step), ?_⟩
  intro path there
  have whole := h.isWritable ⟨step :: path.segments⟩ (by rwa [at?_cons])
  exact .inl fun segment mem ↦ whole segment (List.mem_cons_of_mem _ mem)

theorem isAddressableBut_arr {items : List Json}
    (h : ∀ (i : Nat) item, items[i]? = some item →
      item.IsAddressableBut fun place ↦ apart (toString i :: place)) :
    (arr items).IsAddressableBut apart :=
  .of_steps fun hw ↦ by
    obtain ⟨i, rfl, hi⟩ := exists_index_of_step? hw
    exact ⟨isSegment_toString i, h i _ hi⟩

end Json

end Sitewright
