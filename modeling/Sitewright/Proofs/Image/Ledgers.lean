import Sitewright.Proofs.Image.Pictures
import Sitewright.Proofs.Json.Sorted

/-!
# What a ledger records

A ledger goes through two kinds of steps, in any order: a picture is asked for, or a text is read,
whoever has written it. Whatever the steps are, no description is blank, and a description that has
been recorded stands (`ImageLedger.descriptions_run`).

What a description is recorded under is another matter. A tag counts if the number of its token has
been given out, and numbers are compared as numbers; but the description is recorded under the token
as the tag spells it. So the keys are the tokens that have been given out up to zeros before their
numbers (`ImageLedger.paddedToken`), and a key is such a token itself exactly if it has no zeros.
-/

namespace Sitewright

/-! ### Entries that are there stay -/

namespace Entries

variable {α : Type} {key other : String} {value : α} {entries : List (String × α)}

theorem find?_insertNew_of_some {kept : α} (h : find? other entries = some kept) :
    find? other (insertNew key value entries) = some kept := by
  rw [insertNew]
  split
  · exact h
  · rename_i none
    have ne : other ≠ key := by
      rintro rfl
      exact none (by rw [has, h, Option.isSome_some])
    rw [find?_insert_of_ne ne, h]

theorem find?_insertNew_of_ne (ne : other ≠ key) :
    find? other (insertNew key value entries) = find? other entries := by
  rw [insertNew]
  split
  · rfl
  · exact find?_insert_of_ne ne value entries

theorem find?_insertNew_self (h : find? key entries = none) :
    find? key (insertNew key value entries) = some value := by
  have none : ¬ has key entries = true := by rw [has, h, Option.isSome_none]; decide
  rw [insertNew, if_neg none, find?_insert_self]

theorem sorted_insertNew (h : Sorted entries) (key : String) (value : α) :
    Sorted (insertNew key value entries) := by
  rw [insertNew]
  split
  · exact h
  · exact sorted_insert h key value

theorem mem_insertNew {entry : String × α} (h : entry ∈ insertNew key value entries) :
    entry = (key, value) ∨ entry ∈ entries := by
  rw [insertNew] at h
  split at h
  · exact .inr h
  · exact mem_insert h

end Entries

namespace ImageLedger

/-! ### Tokens with zeros -/

/-- A token whose number has zeros before it. -/
def paddedToken (zeros n : Nat) : String :=
  String.ofList (imageTokenHead ++ Text.paddedDigits zeros n)

theorem paddedToken_zero (n : Nat) : paddedToken 0 n = imageToken n := (imageToken_eq n).symm

theorem paddedToken_inj {zeros zeros' n m : Nat} :
    paddedToken zeros n = paddedToken zeros' m ↔ zeros = zeros' ∧ n = m := by
  refine ⟨fun h ↦ ?_, fun ⟨eq, eq'⟩ ↦ by rw [eq, eq']⟩
  rw [paddedToken, paddedToken, String.ofList_inj, List.append_cancel_left_eq] at h
  have numbers := congrArg (Nat.ofDigitChars 10 · 0) h
  simp only [Text.ofDigitChars_paddedDigits] at numbers
  rw [numbers, Text.paddedDigits, Text.paddedDigits, List.append_cancel_right_eq] at h
  exact ⟨by simpa using congrArg List.length h, numbers⟩

variable {ledger : ImageLedger} {tag : List Char} {key description token : String}

theorem mem_tokens :
    token ∈ ledger.tokens ↔ ∃ n, 1 ≤ n ∧ n ≤ ledger.minted ∧ token = imageToken n := by
  rw [tokens, List.mem_map]
  constructor
  · rintro ⟨n, mem, rfl⟩
    exact ⟨n + 1, Nat.le_add_left 1 n, List.mem_range.mp mem, rfl⟩
  · rintro ⟨n, pos, le, rfl⟩
    exact ⟨n - 1, List.mem_range.mpr (by omega), by rw [Nat.sub_add_cancel pos]⟩

/-- A token with zeros has not been given out. -/
theorem paddedToken_mem_tokens {zeros n : Nat} (pos : 1 ≤ n) (le : n ≤ ledger.minted) :
    paddedToken zeros n ∈ ledger.tokens ↔ zeros = 0 := by
  rw [mem_tokens]
  constructor
  · rintro ⟨m, -, -, eq⟩
    rw [← paddedToken_zero] at eq
    exact (paddedToken_inj.mp eq).1
  · rintro rfl
    exact ⟨n, pos, le, paddedToken_zero n⟩

/-- A token has been given out, up to zeros. -/
def IsGiven (ledger : ImageLedger) (token : String) : Prop :=
  ∃ zeros n, 1 ≤ n ∧ n ≤ ledger.minted ∧ token = paddedToken zeros n

/-! ### What a tag describes -/

/-- Digits count if they are those of a number that has been given out, with zeros before them. -/
theorem isMinted_iff {digits : List Char} : ledger.isMinted digits = true ↔
    ∃ zeros n, 1 ≤ n ∧ n ≤ ledger.minted ∧ digits = Text.paddedDigits zeros n := by
  rw [isMinted, Option.any_eq_true]
  simp only [Bool.and_eq_true, decide_eq_true_eq, numberOf?_eq_some_iff]
  constructor
  · rintro ⟨n, ⟨isDigit, value⟩, pos, le⟩
    obtain ⟨zeros, eq⟩ := (Text.ofDigitChars_eq_iff isDigit pos).mp value
    exact ⟨zeros, n, pos, le, eq⟩
  · rintro ⟨zeros, n, pos, le, rfl⟩
    exact ⟨n, ⟨fun _ ↦ Text.isDigit_of_mem_paddedDigits, Text.ofDigitChars_paddedDigits zeros n⟩,
      pos, le⟩

/-- **What a tag describes has been given out, up to zeros, and the description is not blank.** -/
theorem isGiven_of_described? (h : ledger.described? tag = some (token, description)) :
    ledger.IsGiven token ∧ Text.isBlank description = false := by
  obtain ⟨digits, -, h⟩ := Option.bind_eq_some_iff.mp h
  obtain ⟨minted, h⟩ := Option.ite_none_right_eq_some.mp h
  obtain ⟨shown, some, eq⟩ := Option.map_eq_some_iff.mp h
  obtain ⟨rfl, rfl⟩ := Prod.mk.inj eq
  obtain ⟨zeros, n, pos, le, rfl⟩ := isMinted_iff.mp minted
  rw [Text.unlessBlank, Option.filter_eq_some_iff, Bool.not_eq_true'] at some
  exact ⟨⟨zeros, n, pos, le, rfl⟩, some.2⟩

/-! ### Steps -/

/-- What is done with a ledger. -/
inductive Step where
  /-- A picture is asked for. -/
  | ask
  /-- A text is read for descriptions. -/
  | read (markup : String)

/-- The ledger after a step. -/
def step (ledger : ImageLedger) : Step → ImageLedger
  | .ask => ledger.mint.2
  | .read markup => ledger.harvest markup

/-- The ledger after some steps, one after the other. -/
def run (ledger : ImageLedger) (steps : List Step) : ImageLedger := steps.foldl step ledger

/-! ### What all steps preserve -/

/-- A ledger whose descriptions are those of pictures that have been given out, up to zeros. -/
structure WellKept (ledger : ImageLedger) : Prop where
  /-- No token is described twice. -/
  sorted : Entries.Sorted ledger.descriptions
  /-- Only what has been given out is described. -/
  given : ∀ entry ∈ ledger.descriptions, ledger.IsGiven entry.1
  /-- No description is blank. -/
  told : ∀ entry ∈ ledger.descriptions, Text.isBlank entry.2 = false

theorem wellKept_empty (cap : Nat) : (empty cap).WellKept :=
  ⟨List.Pairwise.nil, fun _ mem ↦ absurd mem List.not_mem_nil,
    fun _ mem ↦ absurd mem List.not_mem_nil⟩

theorem WellKept.note (h : ledger.WellKept) (tag : List Char) : (ledger.note tag).WellKept := by
  cases found : ledger.described? tag with
  | none =>
    rw [ImageLedger.note, found]
    exact h
  | some described =>
    obtain ⟨token, description⟩ := described
    obtain ⟨given, told⟩ := isGiven_of_described? found
    rw [ImageLedger.note, found]
    refine ⟨Entries.sorted_insertNew h.sorted _ _, fun entry mem ↦ ?_, fun entry mem ↦ ?_⟩
    · rcases Entries.mem_insertNew mem with rfl | mem
      · exact given
      · exact h.given entry mem
    · rcases Entries.mem_insertNew mem with rfl | mem
      · exact told
      · exact h.told entry mem

/-- A step keeps the ledger well: asking gives out more, and reading goes tag by tag. -/
theorem WellKept.step (h : ledger.WellKept) (s : Step) : (ledger.step s).WellKept := by
  cases s with
  | ask =>
    refine ⟨h.sorted, fun entry mem ↦ ?_, h.told⟩
    obtain ⟨zeros, n, pos, le, eq⟩ := h.given entry mem
    have more : ledger.minted ≤ ledger.mint.2.minted :=
      Nat.le_min.mpr ⟨ledger.minted_le_cap, (Nat.min_le_right ..).trans (Nat.le_succ _)⟩
    exact ⟨zeros, n, pos, le.trans more, eq⟩
  | read markup => exact List.foldlRecOn _ _ h fun _ kept tag _ ↦ kept.note tag

theorem WellKept.run (h : ledger.WellKept) (steps : List Step) : (ledger.run steps).WellKept :=
  List.foldlRecOn _ _ h fun _ kept s _ ↦ kept.step s

/-! ### A description stands -/

theorem find?_note (h : Entries.find? key ledger.descriptions = some description)
    (tag : List Char) :
    Entries.find? key (ledger.note tag).descriptions = some description := by
  rw [note]
  split
  · exact Entries.find?_insertNew_of_some h
  · exact h

theorem find?_step (h : Entries.find? key ledger.descriptions = some description) (s : Step) :
    Entries.find? key (ledger.step s).descriptions = some description := by
  cases s with
  | ask => exact h
  | read markup =>
    exact List.foldlRecOn
      (motive := fun l : ImageLedger ↦ Entries.find? key l.descriptions = some description) _ _ h
      fun _ found tag _ ↦ find?_note found tag

theorem find?_run (h : Entries.find? key ledger.descriptions = some description)
    (steps : List Step) :
    Entries.find? key (ledger.run steps).descriptions = some description :=
  List.foldlRecOn
    (motive := fun l : ImageLedger ↦ Entries.find? key l.descriptions = some description) _ _ h
    fun _ found s _ ↦ find?_step found s

/-- **What a ledger records.** Whatever is asked for and read, a description is recorded under the
token of a picture that has been given out, up to zeros before its number, and under that token
itself exactly if it has no zeros; it is not blank; and it stands, whatever is asked for and read
later. -/
theorem descriptions_run (cap : Nat) (steps later : List Step)
    (h : (key, description) ∈ ((empty cap).run steps).descriptions) :
    (∃ zeros n, 1 ≤ n ∧ n ≤ ((empty cap).run steps).minted ∧ key = paddedToken zeros n ∧
        (key ∈ ((empty cap).run steps).tokens ↔ zeros = 0)) ∧
      Text.isBlank description = false ∧
      Entries.find? key (((empty cap).run steps).run later).descriptions = some description := by
  have kept := (wellKept_empty cap).run steps
  obtain ⟨zeros, n, pos, le, rfl⟩ := kept.given _ h
  have found := (Entries.find?_eq_some_iff kept.sorted.nodup).mpr h
  exact ⟨⟨zeros, n, pos, le, rfl, paddedToken_mem_tokens pos le⟩, kept.told _ h,
    find?_run found later⟩

/-- A description stands when its picture is described again. -/
theorem descriptions_run_again :
    let steps := [Step.ask, .read "<img src=\"IMG_1\" alt=\"A cat\" />"]
    let later := [Step.read "<img src=\"IMG_1\" alt=\"A dog\" />", .ask]
    ("IMG_1", "A cat") ∈ ((empty 2).run steps).descriptions ∧
      Entries.find? "IMG_1" (((empty 2).run steps).run later).descriptions = some "A cat" := by
  have recorded : ("IMG_1", "A cat") ∈
      ((empty 2).run [.ask, .read "<img src=\"IMG_1\" alt=\"A cat\" />"]).descriptions := by
    decide +kernel
  exact ⟨recorded, (descriptions_run 2 _ _ recorded).2.2⟩

/-- A token with a zero is described as it is spelled, although it has not been given out. -/
theorem descriptions_run_zero :
    let ledger := (empty 6).run [.ask, .read "<img src=\"IMG_01\" alt=\"A cat\" />"]
    ("IMG_01", "A cat") ∈ ledger.descriptions ∧ "IMG_01" ∉ ledger.tokens := by
  decide +kernel

end ImageLedger

end Sitewright
