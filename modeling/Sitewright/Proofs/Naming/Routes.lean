import Sitewright.Naming.Route
import Sitewright.Proofs.Text.Plain
import Sitewright.Proofs.Text.Words

/-!
# Normal routes

A route is normal if it is a list of segments with slashes between them, and a segment is a list of
words of lower-case letters and digits with hyphens between them. A text has a normal route exactly
if it holds a letter or a digit, and a normal route is its own (`Route.normalize?_eq_self_iff`), so
normalizing twice is normalizing once.

Slashes and capitals are two layers of a text that do not meet. The segments on both sides of a
slash are found independently (`Route.segments_append_cons`), so a slash with nothing on one side of
it adds nothing; and whether a character is a letter, a gap or a slash can be read off its
lower-case form, so lowering may as well come first (`Route.segments_map_toLower`).
-/

namespace Sitewright.Route

variable {c : Char} {cs w part route : List Char}

/-! ### The grammar -/

/-- Lower-case letters and digits of ASCII. -/
def isLetter (c : Char) : Bool := c.isLower || c.isDigit

/-- Words of segments. -/
def IsWord (w : List Char) : Prop := w ≠ [] ∧ ∀ c ∈ w, isLetter c = true

/-- Segments: words with one hyphen between neighbours. -/
inductive IsSegment : List Char → Prop where
  /-- A word alone. -/
  | word {w : List Char} : IsWord w → IsSegment w
  /-- A word before others. -/
  | more {w rest : List Char} : IsWord w → IsSegment rest → IsSegment (w ++ '-' :: rest)

/-- Normal routes: segments, at least one, with one slash between neighbours. -/
def IsNormal (route : List Char) : Prop :=
  ∃ parts, parts ≠ [] ∧ (∀ part ∈ parts, IsSegment part) ∧ route = List.intercalate ['/'] parts

theorem IsSegment.ne_nil (h : IsSegment cs) : cs ≠ [] := by
  cases h with
  | word h => exact h.1
  | more => simp

/-- A segment holds letters and hyphens. -/
theorem IsSegment.mem (h : IsSegment cs) (mem : c ∈ cs) : isLetter c = true ∨ c = '-' := by
  induction h with
  | word h => exact .inl (h.2 c mem)
  | more h _ ih =>
    rcases List.mem_append.mp mem with mem | mem
    · exact .inl (h.2 c mem)
    · exact (List.mem_cons.mp mem).elim .inr ih

theorem isSegment_hyphenated {words : List (List Char)} (some : words ≠ [])
    (h : ∀ w ∈ words, IsWord w) : IsSegment (Text.hyphenated words) := by
  induction words with
  | nil => exact absurd rfl some
  | cons w words ih =>
    obtain ⟨first, others⟩ := List.forall_mem_cons.mp h
    cases words with
    | nil =>
      rw [Text.hyphenated_singleton]
      exact .word first
    | cons next rest =>
      rw [Text.hyphenated_cons (List.cons_ne_nil next rest)]
      exact .more first (ih (List.cons_ne_nil next rest) others)

/-! ### What segments are made of -/

/-- The characters of a text that its segment is made of. -/
def kept (cs : List Char) : List Char :=
  (cs.filter fun c ↦ c.isAlphanum || isGap c).map Char.toLower

/-- The words of a segment. -/
def words (cs : List Char) : List (List Char) := Text.wordsOf (fun c ↦ !isGap c) (kept cs)

theorem segment_eq (cs : List Char) : segment cs = Text.hyphenated (words cs) := rfl

theorem isLetter_toLower (h : c.isAlphanum = true) : isLetter c.toLower = true :=
  Text.forall_isAlphanum (p := fun c ↦ isLetter c.toLower) (by decide) h

theorem isAlphanum_of_isLetter (h : isLetter c = true) : c.isAlphanum = true := by
  rcases Bool.or_eq_true_iff.mp h with lower | digit
  · have alpha : c.isAlpha = true := by
      show (c.isUpper || c.isLower) = true
      rw [lower, Bool.or_true]
    rw [Char.isAlphanum, alpha, Bool.true_or]
  · rw [Char.isAlphanum, digit, Bool.or_true]

theorem toLower_of_isLetter (h : isLetter c = true) : c.toLower = c := by
  have same : (!isLetter c || c.toLower == c) = true :=
    Text.forall_isAlphanum (p := fun c ↦ !isLetter c || c.toLower == c) (by decide)
      (isAlphanum_of_isLetter h)
  rw [h] at same
  exact eq_of_beq same

theorem isGap_eq_false (h : c.isAlphanum = true) : isGap c = false :=
  (Bool.not_eq_true' _).mp (Text.forall_isAlphanum (p := fun c ↦ !isGap c) (by decide) h)

theorem isGap_toLower (c : Char) : isGap c.toLower = isGap c :=
  Text.apply_toLower (by decide) c

theorem isAlphanum_toLower (c : Char) : c.toLower.isAlphanum = c.isAlphanum :=
  Text.apply_toLower (f := Char.isAlphanum) (by decide) c

theorem toLower_toLower (c : Char) : c.toLower.toLower = c.toLower :=
  Text.apply_toLower (f := Char.toLower) (by decide) c

/-- What is kept and is no gap is a letter or a digit. -/
theorem isWord_of_mem_words (h : w ∈ words cs) : IsWord w := by
  obtain ⟨some, letters⟩ := Text.mem_wordsOf h
  refine ⟨some, fun c mem ↦ ?_⟩
  obtain ⟨d, hd, rfl⟩ :=
    List.mem_map.mp (Text.mem_of_mem_splitBy (List.mem_of_mem_filter h) mem)
  have noGap := letters _ mem
  rw [isGap_toLower, Bool.not_eq_true'] at noGap
  have alphanum := (List.mem_filter.mp hd).2
  rw [noGap, Bool.or_false] at alphanum
  exact isLetter_toLower alphanum

/-- A text has no segment exactly if it holds no letter and no digit. -/
theorem segment_eq_nil_iff : segment cs = [] ↔ ∀ c ∈ cs, c.isAlphanum = false := by
  have none : segment cs = [] ↔ words cs = [] := by
    rw [segment_eq]
    constructor
    · intro nil
      by_contra some
      exact (isSegment_hyphenated some fun _ ↦ isWord_of_mem_words).ne_nil nil
    · intro nil
      rw [nil, Text.hyphenated_nil]
  rw [none, words, Text.wordsOf_eq_nil_iff, kept]
  simp only [List.forall_mem_map, isGap_toLower, Bool.not_eq_false', List.mem_filter]
  constructor
  · intro gaps c mem
    by_contra letter
    rw [Bool.not_eq_false] at letter
    have gap := gaps c ⟨mem, by rw [letter, Bool.true_or]⟩
    rw [isGap_eq_false letter] at gap
    cases gap
  · rintro noLetters c ⟨mem, gap⟩
    rwa [noLetters c mem, Bool.false_or] at gap

/-- What is left of the parts of a text are segments. -/
theorem isSegment_of_mem_segments (h : part ∈ segments cs) : IsSegment part := by
  obtain ⟨mem, nonempty⟩ := List.mem_filter.mp h
  obtain ⟨piece, -, rfl⟩ := List.mem_map.mp mem
  rw [segment_eq] at nonempty ⊢
  refine isSegment_hyphenated (fun nil ↦ ?_) fun _ ↦ isWord_of_mem_words
  rw [nil, Text.hyphenated_nil] at nonempty
  cases nonempty

/-- **A segment is its own.** -/
theorem IsSegment.segment_eq_self (h : IsSegment cs) : segment cs = cs := by
  have all : kept cs = cs := by
    have keep : ∀ c ∈ cs, (c.isAlphanum || isGap c) = true ∧ c.toLower = c := by
      intro c mem
      rcases h.mem mem with letter | rfl
      · rw [isAlphanum_of_isLetter letter]
        exact ⟨rfl, toLower_of_isLetter letter⟩
      · decide
    rw [kept, List.filter_eq_self.mpr fun c mem ↦ (keep c mem).1,
      List.map_congr_left fun c mem ↦ (keep c mem).2, List.map_id']
  have one {w : List Char} (h : IsWord w) : Text.wordsOf (fun c ↦ !isGap c) w = [w] :=
    Text.wordsOf_of_forall h.1 fun c mem ↦ by
      rw [isGap_eq_false (isAlphanum_of_isLetter (h.2 c mem))]
      rfl
  rw [segment_eq, words, all]
  clear all
  induction h with
  | word h => rw [one h, Text.hyphenated_singleton]
  | @more w rest h hrest ih =>
    have some : Text.wordsOf (fun c ↦ !isGap c) rest ≠ [] := by
      intro nil
      rw [nil, Text.hyphenated_nil] at ih
      exact hrest.ne_nil ih.symm
    rw [Text.wordsOf_append_cons (by decide), one h, List.singleton_append,
      Text.hyphenated_cons some, ih]

/-! ### Slashes and capitals -/

/-- The segments on both sides of a slash. -/
theorem segments_append_cons (a b : List Char) :
    segments (a ++ '/' :: b) = segments a ++ segments b := by
  rw [segments, Text.splitBy_append_cons (by decide), List.map_append, List.filter_append]
  rfl

theorem segments_cons (cs : List Char) : segments ('/' :: cs) = segments cs :=
  segments_append_cons [] cs

/-- A number of slashes. -/
def slashes (n : Nat) : List Char := List.replicate n '/'

/-- Slashes before a text add no segment. -/
theorem segments_slashes_append (n : Nat) (cs : List Char) :
    segments (slashes n ++ cs) = segments cs := by
  induction n with
  | zero => rfl
  | succ n ih => exact (segments_cons (slashes n ++ cs)).trans ih

/-- Slashes after a text add no segment. -/
theorem segments_append_slashes (cs : List Char) (n : Nat) :
    segments (cs ++ slashes n) = segments cs := by
  cases n with
  | zero => rw [slashes, List.replicate_zero, List.append_nil]
  | succ n =>
    have only := segments_slashes_append n []
    rw [List.append_nil] at only
    rw [slashes, List.replicate_succ, segments_append_cons]
    exact (congrArg (segments cs ++ ·) only).trans (List.append_nil _)

/-- Several slashes between two texts are as good as one. -/
theorem segments_append_slashes_append (a b : List Char) (n : Nat) :
    segments (a ++ slashes (n + 1) ++ b) = segments (a ++ '/' :: b) := by
  rw [slashes, List.replicate_succ, List.append_assoc, List.cons_append, segments_append_cons,
    segments_append_cons]
  exact congrArg (segments a ++ ·) (segments_slashes_append n b)

theorem segment_map_toLower (cs : List Char) : segment (cs.map Char.toLower) = segment cs := by
  have same : kept (cs.map Char.toLower) = kept cs := by
    simp only [kept, List.filter_map, List.map_map, Function.comp_def, isAlphanum_toLower,
      isGap_toLower, toLower_toLower]
  rw [segment_eq, segment_eq, words, words, same]

/-- Lower-case letters give the same segments. -/
theorem segments_map_toLower (cs : List Char) : segments (cs.map Char.toLower) = segments cs := by
  have pieces : Text.splitBy (· == '/') (cs.map Char.toLower) =
      (Text.splitBy (· == '/') cs).map (List.map Char.toLower) := by
    rw [Text.splitBy_map]
    have slash (c : Char) : (c.toLower == '/') = (c == '/') :=
      Text.apply_toLower (f := (· == '/')) (by decide) c
    simp only [slash]
  rw [segments, segments, pieces, List.map_map]
  simp only [Function.comp_def, segment_map_toLower]

/-! ### Routes -/

/-- A text has no segments exactly if it holds no letter and no digit. -/
theorem segments_eq_nil_iff : segments cs = [] ↔ ∀ c ∈ cs, c.isAlphanum = false := by
  have pieces : segments cs = [] ↔
      ∀ piece ∈ Text.splitBy (· == '/') cs, ∀ c ∈ piece, c.isAlphanum = false := by
    simp only [← segment_eq_nil_iff]
    simp [segments, List.filter_eq_nil_iff]
  rw [pieces]
  constructor
  · intro none c mem
    by_cases slash : (c == '/') = true
    · rw [eq_of_beq slash]
      decide
    · obtain ⟨piece, hpiece, inside⟩ :=
        Text.exists_mem_splitBy (p := (· == '/')) mem (Bool.eq_false_iff.mpr slash)
      exact none piece hpiece c inside
  · intro none piece hpiece c inside
    exact none c (Text.mem_of_mem_splitBy hpiece inside)

theorem normalize?_congr {s t : String} (h : segments s.toList = segments t.toList) :
    normalize? s = normalize? t := by
  rw [normalize?, normalize?, h]

/-- What a text is normalized to is normal. -/
theorem isNormal_of_normalize? {s r : String} (h : normalize? s = some r) : IsNormal r.toList := by
  rw [normalize?] at h
  obtain ⟨some, h⟩ := Option.ite_none_left_eq_some.mp h
  rw [← Option.some.inj h, String.toList_ofList]
  exact ⟨segments s.toList, by simpa using some, fun _ ↦ isSegment_of_mem_segments, rfl⟩

/-- The segments of a normal route are those it is made of. -/
theorem segments_intercalate {parts : List (List Char)} (some : parts ≠ [])
    (h : ∀ part ∈ parts, IsSegment part) : segments (List.intercalate ['/'] parts) = parts := by
  have noSlash : ∀ part ∈ parts, '/' ∉ part := by
    intro part hpart mem
    rcases (h part hpart).mem mem with letter | eq
    · exact absurd letter (by decide)
    · cases eq
  have own : parts.map segment = parts :=
    (List.map_congr_left fun part mem ↦ (h part mem).segment_eq_self).trans (List.map_id' parts)
  rw [segments, Text.splitBy_intercalate some noSlash, own, List.filter_eq_self]
  intro part mem
  simp [(h part mem).ne_nil]

/-- **The normal routes are those that normalizing leaves as they are.** -/
theorem normalize?_eq_self_iff {r : String} : normalize? r = some r ↔ IsNormal r.toList := by
  constructor
  · exact isNormal_of_normalize?
  · rintro ⟨parts, some, isSegment, eq⟩
    have own := segments_intercalate some isSegment
    rw [← eq] at own
    rw [normalize?, own, if_neg (by simpa using some), ← eq, String.ofList_toList]

/-- **Normalizing routes.** A text is normalized to a normal route, or to none; it is normalized to
none exactly if it holds no letter and no digit of ASCII. Normalizing once more changes nothing, and
normalizing leaves a text as it is exactly if it is a normal route. Neither slashes before, after or
beside other slashes matter, nor whether letters are capitals. -/
theorem normalize?_normal (s t : String) (n m : Nat) :
    (normalize? s = none ∨ ∃ r, normalize? s = some r ∧ IsNormal r.toList) ∧
      (normalize? s = none ↔ ¬ ∃ c ∈ s.toList, c.isAlphanum = true) ∧
      (normalize? s).bind normalize? = normalize? s ∧
      (normalize? s = some s ↔ IsNormal s.toList) ∧
      normalize? (String.ofList (slashes n ++ s.toList ++ slashes m)) = normalize? s ∧
      normalize? (String.ofList (s.toList ++ slashes (n + 1) ++ t.toList)) =
        normalize? (String.ofList (s.toList ++ '/' :: t.toList)) ∧
      normalize? (String.ofList (s.toList.map Char.toLower)) = normalize? s := by
  refine ⟨?_, ?_, ?_, normalize?_eq_self_iff, normalize?_congr ?_, normalize?_congr ?_,
    normalize?_congr ?_⟩
  · cases normal : normalize? s with
    | none => exact .inl rfl
    | some r => exact .inr ⟨r, rfl, isNormal_of_normalize? normal⟩
  · rw [normalize?_eq_none_iff, segments_eq_nil_iff]
    simp
  · cases normal : normalize? s with
    | none => rfl
    | some r => exact normalize?_eq_self_iff.mpr (isNormal_of_normalize? normal)
  · rw [String.toList_ofList, segments_append_slashes, segments_slashes_append]
  · rw [String.toList_ofList, String.toList_ofList, segments_append_slashes_append]
  · rw [String.toList_ofList, segments_map_toLower]

example : normalize? "//Our Café_-_Menu / ~ /Spring 2024" = some "our-caf-menu/spring-2024" := by
  decide +kernel

end Sitewright.Route
