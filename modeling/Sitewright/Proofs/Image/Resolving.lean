import Sitewright.Image.Resolution

/-!
# What resolving pictures asks for and keeps

Resolving has three outcomes: there are no tokens, nobody is there, or answers are recorded. Each of
them is one equation that says all there is to say about it (`resolve_of_tokens_eq_nil`,
`resolve_of_noneAvailable`, `resolve_of_answers`), so that nothing else has to look at how resolving
is done. Two things are common to all three. What was asked for are the *misses* of the cache
(`requests_resolve`), and the cache that comes out differs from the one before only by addresses of
misses (`find?_cache_resolve`). So a description with an address is never asked for again, and never
loses its address.
-/

namespace Sitewright

/-! ### Recording answers -/

namespace ImageAnswer

variable {d : String} {answers : List ImageAnswer}

/-- Answers leave a description alone that none of them is about. -/
theorem find?_foldl_record (h : ∀ a ∈ answers, a.description ≠ d) (cache : ImageCache) :
    (answers.foldl record cache).find? d = cache.find? d := by
  induction answers generalizing cache with
  | nil => rfl
  | cons a rest ih =>
    have ne : d ≠ a.description := (h a List.mem_cons_self).symm
    rw [List.foldl_cons, ih fun b hb ↦ h b (List.mem_cons_of_mem _ hb)]
    cases hresult : a.result with
    | ok url =>
      rw [record, hresult]
      exact cache.find?_insert_of_ne ne url
    | error e => rw [record, hresult]

/-- Each answer is about one of the descriptions that were asked for. -/
theorem description_mem_of_mem_ask {service : ImageService} {descriptions : List String}
    {a : ImageAnswer} (h : a ∈ ask service descriptions) : a.description ∈ descriptions := by
  obtain ⟨d, hd, rfl⟩ := List.mem_map.mp h
  exact hd

/-! ### Answers as a whole -/

/-- Whether there are answers, and all of them say that nobody is there. -/
def noneAvailable (answers : List ImageAnswer) : Bool :=
  !answers.isEmpty && answers.all isUnavailable

/-- The descriptions of the answers that are errors. -/
def unresolved (answers : List ImageAnswer) : List String :=
  (answers.filter fun answer ↦ answer.error?.isSome).map (·.description)

theorem unresolved_eq_nil_iff : unresolved answers = [] ↔ ∀ a ∈ answers, a.error? = none := by
  simp [unresolved, List.filter_eq_nil_iff]

theorem noneAvailable_iff : noneAvailable answers = true ↔
    answers ≠ [] ∧ ∀ a ∈ answers, a.isUnavailable = true := by
  rw [noneAvailable, Bool.and_eq_true, Bool.not_eq_true', List.isEmpty_eq_false_iff,
    List.all_eq_true]

/-- An answer without an error comes from somebody who is there. -/
theorem noneAvailable_eq_false (h : ∀ a ∈ answers, a.error? = none) :
    noneAvailable answers = false := by
  rw [Bool.eq_false_iff, Ne, noneAvailable_iff]
  rintro ⟨some, down⟩
  obtain ⟨first, rest, rfl⟩ := List.exists_cons_of_ne_nil some
  have out := down first List.mem_cons_self
  rw [isUnavailable, h first List.mem_cons_self] at out
  cases out

end ImageAnswer

/-! ### Outcomes -/

namespace ImageTask

variable {task : ImageTask} {service : ImageService} {previous : ImageCache}
  {files : List SourceFile} {d url : String}

/-- The descriptions behind the tokens of files that a cache does not know. -/
def misses (task : ImageTask) (previous : ImageCache) (files : List SourceFile) : List String :=
  (task.descriptionsOf (task.tokens files)).filter fun description ↦ !previous.has description

/-- A miss has no address. -/
theorem find?_of_mem_misses (h : d ∈ task.misses previous files) : previous.find? d = none := by
  have missing : (!previous.has d) = true := (List.mem_filter.mp h).2
  have none : (previous.find? d).isSome = false := (Bool.not_eq_true' _).mp missing
  exact Option.isNone_iff_eq_none.mp (Option.isSome_eq_false_iff.mp none)

/-- What comes back for the misses. -/
def answers (task : ImageTask) (service : ImageService) (previous : ImageCache)
    (files : List SourceFile) : List ImageAnswer :=
  ImageAnswer.ask service (task.misses previous files)

/-- A cache in which all that came back is recorded. -/
def recorded (task : ImageTask) (service : ImageService) (previous : ImageCache)
    (files : List SourceFile) : ImageCache :=
  (task.answers service previous files).foldl ImageAnswer.record previous

/-- How many of everything there are. -/
def counts (task : ImageTask) (service : ImageService) (previous : ImageCache)
    (files : List SourceFile) : ImageStats :=
  ⟨(task.tokens files).length, (task.descriptionsOf (task.tokens files)).length,
    (task.descriptionsOf (task.tokens files)).length - (task.misses previous files).length,
    (task.misses previous files).length,
    ((task.answers service previous files).filterMap ImageAnswer.error?).length⟩

theorem misses_of_tokens_eq_nil (none : task.tokens files = []) :
    task.misses previous files = [] := by
  rw [misses, none]
  rfl

/-- **Without a token nothing changes**, and nobody is asked. -/
theorem resolve_of_tokens_eq_nil (none : task.tokens files = []) :
    task.resolve service previous files =
      ⟨files, previous, .noImages, task.counts service previous files, []⟩ := by
  have empty : (task.tokens files).isEmpty = true := List.isEmpty_iff.mpr none
  rw [resolve, if_pos empty]
  rfl

/-- **With nobody there nothing changes**, and the first error is the reason. -/
theorem resolve_of_noneAvailable
    (down : ImageAnswer.noneAvailable (task.answers service previous files) = true) :
    task.resolve service previous files =
      ⟨files, previous,
        .unavailable ((((task.answers service previous files).filterMap
          ImageAnswer.error?).head?.map ImageError.message).getD ""),
        task.counts service previous files, task.misses previous files⟩ := by
  have some : ¬ (task.tokens files).isEmpty = true := by
    intro empty
    -- Without a token there are no answers.
    rw [answers, misses_of_tokens_eq_nil (List.isEmpty_iff.mp empty)] at down
    cases down
  rw [resolve, if_neg some]
  exact if_pos down

/-- **With somebody there answers are recorded**, and the addresses are put in. -/
theorem resolve_of_answers (some : task.tokens files ≠ [])
    (up : ImageAnswer.noneAvailable (task.answers service previous files) = false) :
    task.resolve service previous files =
      ⟨files.map (task.resolveFile (task.tokens files) (task.recorded service previous files)),
        task.recorded service previous files,
        if ImageAnswer.unresolved (task.answers service previous files) = [] then .complete
        else .incomplete (ImageAnswer.unresolved (task.answers service previous files)),
        task.counts service previous files, task.misses previous files⟩ := by
  have counted : ¬ (task.tokens files).isEmpty = true := mt List.isEmpty_iff.mp some
  have answered : ¬ ImageAnswer.noneAvailable (task.answers service previous files) = true :=
    Bool.eq_false_iff.mp up
  rw [resolve, if_neg counted]
  refine (if_neg answered).trans ?_
  simp only [← List.isEmpty_iff]
  rfl

/-- Who answers matters only through the answers. -/
theorem resolve_eq_of_answers_eq {other : ImageService}
    (same : task.answers other previous files = task.answers service previous files) :
    task.resolve other previous files = task.resolve service previous files := by
  rw [answers, answers, misses] at same
  simp only [resolve, same]

/-- Everything that resolving can lead to. -/
theorem resolve_cases (task : ImageTask) (service : ImageService) (previous : ImageCache)
    (files : List SourceFile) :
    ((task.resolve service previous files).files = files ∧
        (task.resolve service previous files).cache = previous) ∨
      ((task.resolve service previous files).files =
          files.map (task.resolveFile (task.tokens files)
            (task.resolve service previous files).cache) ∧
        (task.resolve service previous files).cache = task.recorded service previous files) := by
  by_cases none : task.tokens files = []
  · rw [resolve_of_tokens_eq_nil none]
    exact .inl ⟨rfl, rfl⟩
  cases available : ImageAnswer.noneAvailable (task.answers service previous files) with
  | true =>
    rw [resolve_of_noneAvailable available]
    exact .inl ⟨rfl, rfl⟩
  | false =>
    rw [resolve_of_answers none available]
    exact .inr ⟨rfl, rfl⟩

/-- What is asked for are the misses, whatever comes of it. -/
theorem requests_resolve : (task.resolve service previous files).requests =
    task.misses previous files := by
  by_cases none : task.tokens files = []
  · rw [resolve_of_tokens_eq_nil none, misses_of_tokens_eq_nil none]
  cases available : ImageAnswer.noneAvailable (task.answers service previous files) with
  | true => rw [resolve_of_noneAvailable available]
  | false => rw [resolve_of_answers none available]

/-- What is counted does not depend on what comes of it either. -/
theorem stats_eq_counts : (task.resolve service previous files).stats =
    task.counts service previous files := by
  by_cases none : task.tokens files = []
  · rw [resolve_of_tokens_eq_nil none]
  cases available : ImageAnswer.noneAvailable (task.answers service previous files) with
  | true => rw [resolve_of_noneAvailable available]
  | false => rw [resolve_of_answers none available]

/-- **No address is lost.** What the cache knew before resolving, it knows afterwards. -/
theorem find?_cache_resolve (h : previous.find? d = some url) :
    (task.resolve service previous files).cache.find? d = some url := by
  rcases task.resolve_cases service previous files with ⟨-, cache⟩ | ⟨-, cache⟩
  · rw [cache, h]
  -- An answer is about a miss, and `d` has an address.
  · rw [cache, recorded, ImageAnswer.find?_foldl_record, h]
    rintro a ha rfl
    have miss := find?_of_mem_misses (ImageAnswer.description_mem_of_mem_ask ha)
    rw [miss] at h
    cases h

end ImageTask

end Sitewright
