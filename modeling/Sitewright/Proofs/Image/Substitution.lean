import Mathlib.Data.List.Forall2
import Sitewright.Proofs.Image.Accounting

/-!
# What resolving does to files

Resolving replaces tokens by addresses, and this module says what that means without going through
pieces (`Piece.Addressed`): a source attribute at the border of a word whose token has an address
gets the address for its value, and every other character of the text stays. There is only one text
that this leads to, and it is the one that resolving gives (`Piece.addressed_iff`).

What has been replaced is gone, and nothing else is. A source attribute starts with the only `s` in
it, so none overlaps another, and an address cannot take away what stands before it. It can bring in
a token of its own, but only if it has a quote in it, or the name of the attribute, or the head of a
token (`Piece.IsForeign`). Without such an address the tokens that remain are those that have none,
each where it was (`Piece.tokensFrom_resolvedFrom`), and these are the tokens of the descriptions
that were asked for in vain (`ImageTask.substitution_resolve`).
-/

namespace Sitewright

namespace Piece

variable {address : String → Option String} {inWord : Bool} {cs out digits rest block : List Char}

/-! ### Going through a text -/

/-- A text is gone through by source attributes where they stand and by characters elsewhere, and so
is an argument about it. -/
@[elab_as_elim]
theorem scanInduction {motive : Bool → List Char → Prop} (nil : ∀ inWord, motive inWord [])
    (source : ∀ digits rest, IsDigits digits → motive false rest →
      motive false (chars (source digits) ++ rest))
    (char : ∀ inWord c cs, inWord = true ∨ digitsAt? (c :: cs) = none →
      motive (Text.isWordChar c) cs → motive inWord (c :: cs))
    (inWord : Bool) (cs : List Char) : motive inWord cs := by
  induction length : cs.length using Nat.strong_induction_on generalizing inWord cs with
  | _ n ih =>
  cases cs with
  | nil => exact nil inWord
  | cons c cs =>
    have pass (h : inWord = true ∨ digitsAt? (c :: cs) = none) : motive inWord (c :: cs) :=
      char inWord c cs h (ih cs.length (by simp [← length]) _ _ rfl)
    cases inWord with
    | true => exact pass (.inl rfl)
    | false =>
      cases found : digitsAt? (c :: cs) with
      | none => exact pass (.inr found)
      | some digits =>
        obtain ⟨isDigits, rest, eq⟩ := digitsAt?_eq_some_iff.mp found
        rw [← eq] at length ⊢
        refine source digits rest isDigits (ih rest.length ?_ _ _ rfl)
        rw [← length, List.length_append]
        exact Nat.lt_add_of_pos_left (Nat.succ_pos _)

/-- What resolving makes of a text; `inWord` tells whether a word goes on. -/
def resolvedFrom (address : String → Option String) (inWord : Bool) (cs : List Char) : List Char :=
  (scan inWord 0 cs).flatMap (resolve address)

theorem toList_resolveTokens (address : String → Option String) (s : String) :
    (resolveTokens address s).toList = resolvedFrom address false s.toList :=
  String.toList_ofList

theorem resolvedFrom_cons {c : Char} (h : inWord = true ∨ digitsAt? (c :: cs) = none) :
    resolvedFrom address inWord (c :: cs) =
      c :: resolvedFrom address (Text.isWordChar c) cs := by
  rw [resolvedFrom, scan_cons h]
  rfl

theorem resolvedFrom_source (h : IsDigits digits) (rest : List Char) :
    resolvedFrom address false (chars (source digits) ++ rest) =
      resolve address (source digits) ++ resolvedFrom address false rest := by
  rw [resolvedFrom, scan_source h]
  rfl

/-- A source attribute without its first character. -/
def afterFirst (digits : List Char) : List Char := ['r', 'c', '=', '"'] ++ imageTokenHead ++ digits

theorem chars_source_append (digits rest : List Char) :
    chars (source digits) ++ rest = 's' :: (afterFirst digits ++ '"' :: rest) := by
  simp [chars_source, afterFirst, sourceHead]

/-- The first character of a source attribute is the only one of its kind in it. -/
theorem notMem_afterFirst (h : IsDigits digits) : 's' ∉ afterFirst digits := by
  intro mem
  rcases List.mem_append.mp mem with mem | mem
  · exact absurd mem (by decide)
  · exact absurd (h.2 _ mem) (by decide)

/-- Up to a quote, a text stays as it is where no attribute can start. -/
theorem resolvedFrom_append (h : 's' ∉ block) (rest : List Char) :
    resolvedFrom address inWord (block ++ '"' :: rest) =
      block ++ '"' :: resolvedFrom address false rest := by
  induction block generalizing inWord with
  | nil => exact resolvedFrom_cons (.inr (digitsAt?_eq_none_of_ne (by decide)))
  | cons c block ih =>
    obtain ⟨ne, others⟩ := not_or.mp (mt List.mem_cons.mpr h)
    rw [List.cons_append, resolvedFrom_cons (.inr (digitsAt?_eq_none_of_ne (Ne.symm ne))),
      ih others, List.cons_append]

/-! ### Texts with addresses -/

/-- A text with addresses put in: source attributes at the border of a word whose token has an
address get it for their value, and nothing else changes. `inWord` tells whether a word goes on
where the text starts. -/
inductive Addressed (address : String → Option String) : Bool → List Char → List Char → Prop where
  /-- Nothing is left. -/
  | nil {inWord : Bool} : Addressed address inWord [] []
  /-- A source attribute whose token has an address. -/
  | put {digits rest out : List Char} {url : String} (isDigits : IsDigits digits)
      (known : address (String.ofList (imageTokenHead ++ digits)) = some url)
      (later : Addressed address false rest out) :
      Addressed address false (chars (source digits) ++ rest) (attributeOf url.toList ++ out)
  /-- A character where no such attribute starts. -/
  | keep {inWord : Bool} {c : Char} {cs out : List Char}
      (other : inWord = true ∨ ∀ digits, IsDigits digits → chars (source digits) <+: c :: cs →
        address (String.ofList (imageTokenHead ++ digits)) = none)
      (later : Addressed address (Text.isWordChar c) cs out) :
      Addressed address inWord (c :: cs) (c :: out)

/-- What starts where no attribute can is kept. -/
theorem Addressed.append (h : 's' ∉ block) (later : Addressed address false cs out) :
    Addressed address inWord (block ++ '"' :: cs) (block ++ '"' :: out) := by
  have kept {inWord : Bool} {c : Char} {cs out : List Char} (ne : c ≠ 's')
      (later : Addressed address (Text.isWordChar c) cs out) :
      Addressed address inWord (c :: cs) (c :: out) := by
    refine .keep (.inr fun digits _ here ↦ absurd ?_ ne) later
    obtain ⟨rest, eq⟩ := here
    exact (List.cons.inj eq).1.symm
  induction block generalizing inWord with
  | nil => exact kept (by decide) later
  | cons c block ih =>
    obtain ⟨ne, others⟩ := not_or.mp (mt List.mem_cons.mpr h)
    exact kept (Ne.symm ne) (ih others)

theorem addressed_resolvedFrom (address : String → Option String) (inWord : Bool)
    (cs : List Char) : Addressed address inWord cs (resolvedFrom address inWord cs) := by
  induction inWord, cs using scanInduction with
  | nil => exact .nil
  | source digits rest isDigits ih =>
    rw [resolvedFrom_source isDigits, resolve]
    cases known : (source digits).token?.bind address with
    | some url => exact .put isDigits known ih
    | none =>
      have own : digitsAt? (chars (source digits) ++ rest) = some digits :=
        digitsAt?_eq_some_iff.mpr ⟨isDigits, List.prefix_append ..⟩
      dsimp only
      rw [chars_source_append] at own ⊢
      rw [chars_source_append]
      -- The attribute is kept, and no other one stands where it does.
      refine .keep (.inr fun other isOther here ↦ ?_) (.append (notMem_afterFirst isDigits) ih)
      cases (digitsAt?_eq_some_iff.mpr ⟨isOther, here⟩).symm.trans own
      exact known
  | char inWord c cs passed ih =>
    rw [resolvedFrom_cons passed]
    refine .keep (passed.imp_right fun none digits isDigits here ↦ ?_) ih
    rw [digitsAt?_eq_some_iff.mpr ⟨isDigits, here⟩] at none
    cases none

/-- **Putting in addresses has one result**, and resolving leads to it. -/
theorem addressed_iff : Addressed address inWord cs out ↔ out = resolvedFrom address inWord cs := by
  refine ⟨fun h ↦ ?_, fun eq ↦ eq ▸ addressed_resolvedFrom address inWord cs⟩
  induction h with
  | nil => rfl
  | put isDigits known _ ih =>
    rw [resolvedFrom_source isDigits, resolve, token?, Option.bind_some, known, ih]
  | @keep inWord c cs out other _ ih =>
    rw [ih]
    by_cases passed : inWord = true ∨ digitsAt? (c :: cs) = none
    · rw [resolvedFrom_cons passed]
    · obtain ⟨start, found⟩ := not_or.mp passed
      obtain ⟨digits, found⟩ := Option.ne_none_iff_exists'.mp found
      obtain ⟨isDigits, here⟩ := digitsAt?_eq_some_iff.mp found
      have none := other.resolve_left start digits isDigits here
      obtain ⟨rest, eq⟩ := here
      rw [Bool.eq_false_iff.mpr start, ← eq, resolvedFrom_source isDigits, resolve, token?,
        Option.bind_some, none]
      rw [chars_source_append] at eq
      obtain ⟨rfl, rfl⟩ := List.cons.inj eq
      dsimp only
      rw [resolvedFrom_append (notMem_afterFirst isDigits), chars_source_append]

/-- An attribute starts after a hyphen but not after a letter, and a token without an address stays.
-/
example : resolveTokens (fun token ↦ if token = "IMG_1" then some "/cat.jpg" else none)
    "<img data-src=\"IMG_1\" mysrc=\"IMG_1\" src=\"IMG_7\" />" =
    "<img data-src=\"/cat.jpg\" mysrc=\"IMG_1\" src=\"IMG_7\" />" := by
  decide +kernel

/-! ### Tokens that remain -/

/-- Whether a text has nothing that a source attribute with a token could be made of. -/
def IsForeign (cs : List Char) : Prop :=
  '"' ∉ cs ∧ ¬ ['s', 'r', 'c', '='] <:+: cs ∧ ¬ imageTokenHead <:+: cs

/-- Where the quotes are elsewhere and no source attribute is named, no token is found up to the
next quote. -/
theorem tokensFrom_append_quote (quotes : '"' ∉ block) (name : ¬ ['s', 'r', 'c', '='] <:+: block)
    (rest : List Char) : tokensFrom inWord (block ++ '"' :: rest) = tokensFrom false rest := by
  induction block generalizing inWord with
  | nil => exact tokensFrom_cons (.inr (digitsAt?_eq_none_of_ne (by decide)))
  | cons c block ih =>
    have none : digitsAt? (c :: (block ++ '"' :: rest)) = none := by
      rw [Option.eq_none_iff_forall_ne_some]
      intro digits found
      obtain ⟨-, after, eq⟩ := digitsAt?_eq_some_iff.mp found
      have split : chars (source digits) ++ after =
          ['s', 'r', 'c', '='] ++ '"' :: (imageTokenHead ++ digits ++ '"' :: after) := by
        simp [chars, attributeOf, sourceHead]
      rw [split] at eq
      exact name ((append_quote_inj (by decide) quotes eq).1 ▸ List.infix_rfl)
    rw [List.cons_append, tokensFrom_cons (.inr none)]
    exact ih (fun mem ↦ quotes (List.mem_cons_of_mem c mem))
      fun inner ↦ name (inner.trans (List.suffix_cons c block).isInfix)

/-- An attribute with a foreign value holds no token, and hides none that follows. -/
theorem tokensFrom_attributeOf (h : IsForeign cs) (rest : List Char) :
    tokensFrom inWord (attributeOf cs ++ rest) = tokensFrom false rest := by
  obtain ⟨quotes, name, head⟩ := h
  have split : attributeOf cs ++ rest = 's' :: (['r', 'c', '='] ++ '"' :: (cs ++ '"' :: rest)) := by
    simp [attributeOf, sourceHead]
  have none : digitsAt? (attributeOf cs ++ rest) = none := by
    rw [Option.eq_none_iff_forall_ne_some]
    intro digits found
    obtain ⟨isDigits, after, eq⟩ := digitsAt?_eq_some_iff.mp found
    have value : imageTokenHead ++ digits ++ '"' :: after = cs ++ '"' :: rest := by
      simpa [chars, attributeOf] using eq
    have same := (append_quote_inj (notMem_of_isDigits isDigits) quotes value).1
    exact head (same ▸ (List.prefix_append ..).isInfix)
  rw [split] at none ⊢
  rw [tokensFrom_cons (.inr none), tokensFrom_append_quote (by decide) (by decide),
    tokensFrom_append_quote quotes name]

/-- What stands in a resolved text up to where an attribute could start stood there before. -/
theorem prefix_of_prefix_resolvedFrom {front : List Char} (h : 's' ∉ front)
    (pre : front <+: resolvedFrom address inWord cs) : front <+: cs := by
  induction inWord, cs using scanInduction generalizing front with
  | nil => exact pre
  | source digits rest isDigits ih =>
    -- An attribute starts here, before as well as after.
    cases front with
    | nil => exact List.nil_prefix
    | cons c front =>
      have first : (resolve address (source digits)).head? = some 's' := by
        rw [resolve]
        split <;> rfl
      obtain ⟨after, eq⟩ := List.head?_eq_some_iff.mp first
      rw [resolvedFrom_source isDigits, eq, List.cons_append] at pre
      exact absurd ((List.cons_prefix_cons.mp pre).1 ▸ List.mem_cons_self) h
  | char inWord c cs passed ih =>
    cases front with
    | nil => exact List.nil_prefix
    | cons d front =>
      obtain ⟨-, others⟩ := not_or.mp (mt List.mem_cons.mpr h)
      rw [resolvedFrom_cons passed] at pre
      obtain ⟨rfl, pre⟩ := List.cons_prefix_cons.mp pre
      exact List.cons_prefix_cons.mpr ⟨rfl, ih others pre⟩

/-- Where a character is kept, no attribute starts afterwards, since the rest of it would have stood
there before. -/
theorem digitsAt?_cons_resolvedFrom {c : Char} (none : digitsAt? (c :: cs) = none) :
    digitsAt? (c :: resolvedFrom address inWord cs) = Option.none := by
  rw [Option.eq_none_iff_forall_ne_some] at none ⊢
  intro digits found
  obtain ⟨isDigits, rest, eq⟩ := digitsAt?_eq_some_iff.mp found
  rw [chars_source_append] at eq
  obtain ⟨rfl, later⟩ := List.cons.inj eq
  have first : 's' ∉ afterFirst digits ++ ['"'] :=
    List.not_mem_append (notMem_afterFirst isDigits) (by decide)
  obtain ⟨after, rfl⟩ := prefix_of_prefix_resolvedFrom first
    ⟨rest, (List.append_cons ..).symm.trans later⟩
  refine none digits (digitsAt?_eq_some_iff.mpr ⟨isDigits, after, ?_⟩)
  rw [chars_source_append, ← List.append_cons]

/-- **Tokens that remain.** If no address brings in a token, the tokens of a resolved text are those
of the text that have no address, in order and as often. -/
theorem tokensFrom_resolvedFrom
    (foreign : ∀ token url, address token = some url → IsForeign url.toList) (inWord : Bool)
    (cs : List Char) : tokensFrom inWord (resolvedFrom address inWord cs) =
      (tokensFrom inWord cs).filter fun token ↦ (address token).isNone := by
  induction inWord, cs using scanInduction with
  | nil => rfl
  | source digits rest isDigits ih =>
    rw [resolvedFrom_source isDigits, tokensFrom_source isDigits, List.filter_cons, resolve, token?,
      Option.bind_some]
    cases known : address (String.ofList (imageTokenHead ++ digits)) with
    | some url =>
      rw [← ih]
      exact tokensFrom_attributeOf (foreign _ url known) _
    | none =>
      rw [← ih]
      exact tokensFrom_source isDigits _
  | char inWord c cs passed ih =>
    rw [resolvedFrom_cons passed, tokensFrom_cons (passed.imp_right digitsAt?_cons_resolvedFrom),
      tokensFrom_cons passed, ih]

end Piece

/-! ### Files -/

namespace ImageTask

variable (task : ImageTask) (service : ImageService) (previous : ImageCache)
  (files : List SourceFile)

/-- The address that a cache has for a token that was given out. -/
def addressIn (cache : ImageCache) (token : String) : Option String :=
  if task.minted.contains token then cache.find? (task.descriptionOf token) else none

/-- A token in a file counts if it was given out. -/
theorem mem_tokens_iff_contains {token : String} {file : SourceFile} (mem : file ∈ files)
    (seen : token ∈ Piece.tokens file.content.toList) :
    token ∈ task.tokens files ↔ task.minted.contains token = true := by
  rw [tokens_eq, List.mem_eraseDups, sightings, List.mem_filter]
  exact and_iff_right (List.mem_flatMap.mpr ⟨file, mem, seen⟩)

/-- A file is resolved by the addresses of the tokens that were given out. -/
theorem resolveFile_eq (cache : ImageCache) {file : SourceFile} (mem : file ∈ files) :
    task.resolveFile (task.tokens files) cache file =
      ⟨file.path, resolveTokens (task.addressIn cache) file.content⟩ := by
  rw [resolveFile, resolveTokens, resolveTokens]
  congr 2
  refine List.flatMap_congr fun piece inside ↦ ?_
  rw [Piece.resolve, Piece.resolve]
  cases found : piece.token? with
  | none => rfl
  | some token =>
    have seen : token ∈ Piece.tokens file.content.toList :=
      List.mem_filterMap.mpr ⟨piece, inside, found⟩
    have counts := task.mem_tokens_iff_contains files mem seen
    rw [← List.contains_iff_mem, ← Bool.eq_iff_iff] at counts
    simp only [Option.bind_some, addressIn, counts]

/-- **What resolving makes of files.** If somebody is there, every token that was given out has the
address that the cache has for it afterwards. -/
theorem files_resolve (h : ¬ task.Unanswered service previous files) :
    (task.resolve service previous files).files = files.map fun file ↦ ⟨file.path,
      resolveTokens (task.addressIn (task.resolve service previous files).cache)
        file.content⟩ := by
  have resolved : (task.resolve service previous files).files =
      files.map (task.resolveFile (task.tokens files)
        (task.resolve service previous files).cache) := by
    rw [unanswered_iff, Bool.not_eq_true] at h
    by_cases unseen : task.tokens files = []
    · -- Without a token no file changes.
      have same : ∀ file ∈ files, task.resolveFile (task.tokens files)
          (task.resolve service previous files).cache file = file := fun file _ ↦ by
        rw [unseen]
        exact congrArg (SourceFile.mk file.path) (resolveTokens_none file.content)
      rw [List.map_congr_left same, List.map_id', resolve_of_tokens_eq_nil unseen]
    · rw [resolve_of_answers unseen h]
  rw [resolved]
  exact List.map_congr_left fun file mem ↦ task.resolveFile_eq files _ mem

/-- A token that is seen has no address afterwards if and only if its description was asked for in
vain. -/
theorem addressIn_isNone {token : String} (h : ¬ task.Unanswered service previous files)
    (seen : token ∈ task.sightings files) :
    (task.addressIn (task.resolve service previous files).cache token).isNone =
      decide (task.descriptionOf token ∈ task.failed service previous files) := by
  have given : task.minted.contains token = true := (List.mem_filter.mp seen).2
  have isShown : task.descriptionOf token ∈ task.shown files :=
    List.mem_eraseDups.mpr (List.mem_map_of_mem seen)
  have known := task.find?_resolve_of_answered service previous files
    (List.ne_nil_of_mem seen) h (task.descriptionOf token)
  rw [addressIn, if_pos given, known, Bool.eq_iff_iff, decide_eq_true_iff, failed, List.mem_filter]
  by_cases mem : task.descriptionOf token ∈ task.asked previous files
  · rw [if_pos mem]
    cases service (task.descriptionOf token) <;>
      simp [mem, Except.isOk, Except.toBool, Except.toOption]
  · -- It is shown, so it is not asked for because it has an address already.
    have before : previous.has (task.descriptionOf token) = true := by
      by_contra new
      exact mem (List.mem_filter.mpr ⟨isShown, by simp [new]⟩)
    rw [if_neg mem, Option.isNone_iff_eq_none]
    refine iff_of_false (fun none ↦ ?_) fun both ↦ mem both.1
    rw [ImageCache.has, Entries.has, ← ImageCache.find?, none] at before
    cases before

/-- What resolving does to files. -/
structure Substitution (resolution : ImageResolution) : Prop where
  /-- The files keep their number, their order and their paths. -/
  paths : resolution.files.map (·.path) = files.map (·.path)
  /-- If somebody is there, the addresses of the tokens that were given out are put in, and every
  other character stays. -/
  contents : (∀ reason, resolution.status ≠ .unavailable reason) →
    List.Forall₂ (fun before after : SourceFile ↦ Piece.Addressed (task.addressIn resolution.cache)
      false before.content.toList after.content.toList) files resolution.files
  /-- If no address brings in a token, those that remain are those whose descriptions were asked for
  in vain, in order and as often. -/
  remaining : (∀ reason, resolution.status ≠ .unavailable reason) →
    (∀ d url, resolution.cache.find? d = some url → Piece.IsForeign url.toList) →
    task.sightings resolution.files = (task.sightings files).filter fun token ↦
      task.descriptionOf token ∈ task.failed service previous files
  /-- When resolving is complete, none remains. -/
  complete : resolution.status = .complete →
    (∀ d url, resolution.cache.find? d = some url → Piece.IsForeign url.toList) →
    task.sightings resolution.files = []

theorem not_unanswered
    (h : ∀ reason, (task.resolve service previous files).status ≠ .unavailable reason) :
    ¬ task.Unanswered service previous files := by
  intro out
  obtain ⟨-, -, _, _, -, -, status⟩ := task.resolve_of_unanswered service previous files out
  exact h _ status

/-- What is seen afterwards is what was seen before and has no address. -/
theorem sightings_resolve (h : ¬ task.Unanswered service previous files)
    (foreign : ∀ d url, (task.resolve service previous files).cache.find? d = some url →
      Piece.IsForeign url.toList) :
    task.sightings (task.resolve service previous files).files = (task.sightings files).filter
      fun token ↦ task.descriptionOf token ∈ task.failed service previous files := by
  have own (token url : String)
      (known : task.addressIn (task.resolve service previous files).cache token = some url) :
      Piece.IsForeign url.toList := by
    rw [addressIn, Option.ite_none_right_eq_some] at known
    exact foreign _ url known.2
  have left (file : SourceFile) : Piece.tokens (resolveTokens
      (task.addressIn (task.resolve service previous files).cache) file.content).toList =
      (Piece.tokens file.content.toList).filter fun token ↦
        (task.addressIn (task.resolve service previous files).cache token).isNone := by
    rw [Piece.toList_resolveTokens]
    exact Piece.tokensFrom_resolvedFrom own false file.content.toList
  rw [sightings, files_resolve task service previous files h, List.flatMap_map]
  simp only [left]
  rw [← List.filter_flatMap, List.filter_comm, ← sightings]
  exact List.filter_congr fun token seen ↦ task.addressIn_isNone service previous files h seen

/-- **Substitution is exact.** Resolving puts in the addresses of the tokens that were given out and
changes nothing else, and only tokens of descriptions that were asked for in vain remain. -/
theorem substitution_resolve :
    task.Substitution service previous files (task.resolve service previous files) where
  paths := by
    by_cases h : task.Unanswered service previous files
    · rw [(task.resolve_of_unanswered service previous files h).1]
    · rw [files_resolve task service previous files h, List.map_map]
      rfl
  contents answered := by
    rw [files_resolve task service previous files
      (task.not_unanswered service previous files answered), List.forall₂_map_right_iff,
      List.forall₂_same]
    intro file _
    dsimp only
    rw [Piece.toList_resolveTokens]
    exact Piece.addressed_resolvedFrom _ false file.content.toList
  remaining answered := task.sightings_resolve service previous files
    (task.not_unanswered service previous files answered)
  complete status foreign := by
    have answered : ¬ task.Unanswered service previous files :=
      task.not_unanswered service previous files fun reason eq ↦ by
        rw [status] at eq
        cases eq
    rw [task.sightings_resolve service previous files answered foreign]
    by_cases seen : task.sightings files = []
    · rw [seen]
      rfl
    · -- With a description that was asked for in vain, resolving would not be complete.
      have listed := (task.resolve_of_answered service previous files seen answered).2
      rw [status] at listed
      have none : task.failed service previous files = [] := by
        by_contra some
        rw [if_neg some] at listed
        cases listed
      simp [none]

end ImageTask

end Sitewright
