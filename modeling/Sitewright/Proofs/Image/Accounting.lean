import Sitewright.Proofs.Image.Resolving
import Sitewright.Proofs.Image.Tokens
import Sitewright.Proofs.Repeats

/-!
# What resolving costs and how it ends

Tokens are counted once although a file shows them often, and descriptions once although several
tokens share one. Both steps forget nothing that the other needs: what is asked for can be read off
the plain list of all sightings of tokens (`ImageTask.descriptionsOf_tokens`), because dropping
repeats early changes nothing that is dropped again later (`eraseDups_map_eraseDups`).

Three outcomes remain, and which of them it is depends on the answers as a whole: nothing was seen,
everybody asked was out, or the answers are recorded one after the other. A description that was
asked for has no address before, and each is asked for once; so recording adds every address as a
new entry (`perm_foldl_record`), and the cache afterwards can be said description by description
(`find?_foldl_record_ask`).
-/

namespace Sitewright

/-! ### Recording what was asked for -/

namespace Entries

variable {key : String} {entries : List (String × String)}

/-- An entry under a new key is added to the others. -/
theorem perm_insert (h : find? key entries = none) (value : String) :
    (insert key value entries).Perm (entries ++ [(key, value)]) := by
  induction entries with
  | nil => exact .refl _
  | cons entry rest ih =>
    obtain ⟨k, v⟩ := entry
    rw [find?] at h
    split at h
    · cases h
    · rename_i ne
      rw [insert, if_neg ne]
      split
      · exact (List.perm_append_singleton ..).symm
      · exact (ih h).cons _

end Entries

namespace ImageAnswer

variable {service : ImageService} {asked : List String} {cache : ImageCache}

/-- The addresses among answers, by what was asked for. -/
def addresses (service : ImageService) (asked : List String) : List (String × String) :=
  asked.filterMap fun d ↦ (service d).toOption.map (d, ·)

/-- **Recording adds entries.** If nothing that is asked for has an address, and nothing is asked
for twice, the cache gains one entry for every address. -/
theorem perm_foldl_record (once : asked.Nodup) (new : ∀ d ∈ asked, cache.find? d = none) :
    ((ask service asked).foldl record cache).entries.Perm
      (cache.entries ++ addresses service asked) := by
  induction asked generalizing cache with
  | nil => rw [addresses, List.filterMap_nil, List.append_nil]; rfl
  | cons d asked ih =>
    obtain ⟨first, once⟩ := List.nodup_cons.mp once
    have head : cache.find? d = none := new d List.mem_cons_self
    cases answer : service d with
    | error e =>
      have here : record cache ⟨d, service d⟩ = cache := by rw [record, answer]
      have added : addresses service (d :: asked) = addresses service asked :=
        List.filterMap_cons_none (by rw [answer]; rfl)
      show ((ask service asked).foldl record (record cache ⟨d, service d⟩)).entries.Perm _
      rw [added, here]
      exact ih once fun other mem ↦ new other (List.mem_cons_of_mem _ mem)
    | ok url =>
      have here : record cache ⟨d, service d⟩ = cache.insert d url := by rw [record, answer]
      have added : addresses service (d :: asked) = (d, url) :: addresses service asked :=
        List.filterMap_cons_some (by rw [answer]; rfl)
      have still : ∀ other ∈ asked, (cache.insert d url).find? other = none := by
        intro other mem
        have ne : other ≠ d := fun eq ↦ first (eq ▸ mem)
        rw [cache.find?_insert_of_ne ne]
        exact new other (List.mem_cons_of_mem _ mem)
      show ((ask service asked).foldl record (record cache ⟨d, service d⟩)).entries.Perm _
      rw [added, here]
      refine (ih once still).trans (((Entries.perm_insert head url).append_right _).trans ?_)
      rw [List.append_assoc, List.singleton_append]

/-- No answer is about what was not asked for. -/
theorem forall_ne_of_notMem {d : String} (h : d ∉ asked) :
    ∀ a ∈ ask service asked, a.description ≠ d := by
  rintro a ha rfl
  exact h (description_mem_of_mem_ask ha)

/-- **Recording, description by description.** What was asked for has its answer, and the rest is
as it was. -/
theorem find?_foldl_record_ask (once : asked.Nodup) (new : ∀ d ∈ asked, cache.find? d = none)
    (d : String) : ((ask service asked).foldl record cache).find? d =
      if d ∈ asked then (service d).toOption else cache.find? d := by
  by_cases mem : d ∈ asked
  · rw [if_pos mem]
    -- Before it is asked for, and after, nothing is about `d`.
    obtain ⟨before, after, rfl⟩ := List.append_of_mem mem
    have apart := (List.perm_middle.nodup_iff.mp once)
    have notMem := (List.nodup_cons.mp apart).1
    rw [List.mem_append, not_or] at notMem
    have split : ask service (before ++ d :: after) =
        ask service before ++ ⟨d, service d⟩ :: ask service after := by simp [ask]
    rw [split, List.foldl_append, List.foldl_cons,
      find?_foldl_record (forall_ne_of_notMem notMem.2), record]
    cases answer : service d with
    | ok url => exact ImageCache.find?_insert_self ..
    | error e =>
      dsimp only
      rw [find?_foldl_record (forall_ne_of_notMem notMem.1)]
      exact new d mem
  · rw [if_neg mem]
    exact find?_foldl_record (forall_ne_of_notMem mem) cache

end ImageAnswer

/-! ### What is asked for -/

namespace ImageTask

variable (task : ImageTask) (service : ImageService) (previous : ImageCache)
  (files : List SourceFile)

/-- Every place in the source attributes of files where a token stands that was given out. -/
def sightings : List String :=
  (files.flatMap fun file ↦ Piece.tokens file.content.toList).filter task.minted.contains

/-- What the pictures in files show, each description once, in the order of the files. -/
def shown : List String := ((task.sightings files).map task.descriptionOf).eraseDups

/-- What has to be asked for: what is shown and has no address yet. -/
def asked : List String := (task.shown files).filter fun d ↦ !previous.has d

/-- What was asked for in vain. -/
def failed : List String := (task.asked previous files).filter fun d ↦ !(service d).isOk

/-- The tokens that count are those that are seen. -/
theorem tokens_eq : task.tokens files = (task.sightings files).eraseDups := by
  rw [tokens, sightings, ← filter_eraseDups, ← filter_eraseDups]
  congr 1
  exact eraseDups_flatMap_eraseDups (fun file : SourceFile ↦ Piece.tokens file.content.toList) files

/-- **Two ways to drop repeats, one result.** -/
theorem descriptionsOf_tokens : task.descriptionsOf (task.tokens files) = task.shown files := by
  rw [descriptionsOf, tokens_eq, eraseDups_map_eraseDups, shown]

theorem misses_eq : task.misses previous files = task.asked previous files := by
  rw [misses, descriptionsOf_tokens, asked]

theorem tokens_eq_nil_iff : task.tokens files = [] ↔ task.sightings files = [] := by
  rw [tokens_eq]
  constructor
  · intro h
    rw [List.eq_nil_iff_forall_not_mem] at h ⊢
    exact fun token mem ↦ h token (List.mem_eraseDups.mpr mem)
  · intro h
    rw [h]
    rfl

theorem nodup_asked : (task.asked previous files).Nodup := (nodup_eraseDups _).filter _

theorem find?_of_mem_asked {d : String} (h : d ∈ task.asked previous files) :
    previous.find? d = none :=
  find?_of_mem_misses (task.misses_eq previous files ▸ h)

/-! ### Outcomes -/

theorem answers_eq : task.answers service previous files =
    ImageAnswer.ask service (task.asked previous files) := by
  rw [answers, misses_eq]

/-- Who fails to answer is not told by more than what was asked for in vain. -/
theorem unresolved_answers : ImageAnswer.unresolved (task.answers service previous files) =
    task.failed service previous files := by
  rw [answers_eq, ImageAnswer.unresolved, ImageAnswer.ask, List.filter_map, List.map_map, failed]
  refine (List.map_id _).trans (List.filter_congr fun d _ ↦ ?_)
  cases answer : service d <;> simp [ImageAnswer.error?, answer, Except.isOk, Except.toBool]

/-- There are as many errors as descriptions that were asked for in vain. -/
theorem length_failures :
    ((task.answers service previous files).filterMap ImageAnswer.error?).length =
      (task.failed service previous files).length := by
  rw [← unresolved_answers, ImageAnswer.unresolved, List.length_map,
    List.length_filterMap_eq_countP, List.countP_eq_length_filter]

theorem stats_resolve : (task.resolve service previous files).stats =
    ⟨(task.tokens files).length, (task.shown files).length,
      (task.shown files).length - (task.asked previous files).length,
      (task.asked previous files).length, (task.failed service previous files).length⟩ := by
  rw [stats_eq_counts, counts, length_failures, misses_eq, descriptionsOf_tokens]

/-- Whether somebody was asked and nobody was there. -/
def Unanswered : Prop := task.asked previous files ≠ [] ∧
  ∀ d ∈ task.asked previous files, ∃ reason, service d = .error (.unavailable reason)

theorem unanswered_iff : task.Unanswered service previous files ↔
    ImageAnswer.noneAvailable (task.answers service previous files) = true := by
  have out (d : String) : (⟨d, service d⟩ : ImageAnswer).isUnavailable = true ↔
      ∃ reason, service d = .error (.unavailable reason) := by
    rw [ImageAnswer.isUnavailable, ImageAnswer.error?]
    dsimp only
    split
    · rename_i url answer
      simp [answer]
    · rename_i e answer
      cases e <;> simp [answer, ImageError.isUnavailable]
  rw [answers_eq, Unanswered, ImageAnswer.noneAvailable_iff, ImageAnswer.ask]
  refine and_congr (by simp) ?_
  rw [List.forall_mem_map]
  exact forall₂_congr fun d _ ↦ (out d).symm

/-- **If nobody is there, nothing changes**, and the first error is the reason that is given. -/
theorem resolve_of_unanswered (h : task.Unanswered service previous files) :
    (task.resolve service previous files).files = files ∧
      (task.resolve service previous files).cache = previous ∧
      ∃ d reason, (task.asked previous files).head? = some d ∧
        service d = .error (.unavailable reason) ∧
        (task.resolve service previous files).status =
          .unavailable (ImageError.unavailable reason).message := by
  obtain ⟨d, rest, asked⟩ := List.exists_cons_of_ne_nil h.1
  obtain ⟨reason, first⟩ := h.2 d (asked ▸ List.mem_cons_self)
  have error : ImageAnswer.error? ⟨d, service d⟩ = some (.unavailable reason) := by
    rw [ImageAnswer.error?, first]
  have heading : ((task.answers service previous files).filterMap ImageAnswer.error?).head? =
      some (.unavailable reason) := by
    rw [answers_eq, asked, ImageAnswer.ask, List.map_cons, List.filterMap_cons_some error,
      List.head?_cons]
  rw [resolve_of_noneAvailable ((task.unanswered_iff service previous files).mp h), heading]
  exact ⟨rfl, rfl, d, reason, asked ▸ List.head?_cons, first, rfl⟩

/-- **If somebody is there, answers are recorded**, and what was asked for in vain is listed. -/
theorem resolve_of_answered (seen : task.sightings files ≠ [])
    (h : ¬ task.Unanswered service previous files) :
    (task.resolve service previous files).cache =
        (ImageAnswer.ask service (task.asked previous files)).foldl ImageAnswer.record previous ∧
      (task.resolve service previous files).status =
        if task.failed service previous files = [] then .complete
        else .incomplete (task.failed service previous files) := by
  rw [unanswered_iff, Bool.not_eq_true] at h
  rw [resolve_of_answers (mt (task.tokens_eq_nil_iff files).mp seen) h, ← answers_eq,
    unresolved_answers]
  exact ⟨rfl, rfl⟩

/-- **Without a token, nothing changes.** -/
theorem resolve_of_unseen (h : task.sightings files = []) :
    (task.resolve service previous files).status = .noImages ∧
      (task.resolve service previous files).files = files ∧
      (task.resolve service previous files).cache = previous := by
  rw [resolve_of_tokens_eq_nil ((task.tokens_eq_nil_iff files).mpr h)]
  exact ⟨rfl, rfl, rfl⟩

/-- If somebody is there, what was asked for has its answer, and the rest is as it was. -/
theorem find?_resolve_of_answered (seen : task.sightings files ≠ [])
    (h : ¬ task.Unanswered service previous files) (d : String) :
    (task.resolve service previous files).cache.find? d =
      if d ∈ task.asked previous files then (service d).toOption else previous.find? d := by
  rw [(task.resolve_of_answered service previous files seen h).1]
  exact ImageAnswer.find?_foldl_record_ask (task.nodup_asked previous files)
    (fun d ↦ task.find?_of_mem_asked previous files) d

/-- What resolving owes to those who ask for it. -/
structure Accounts (resolution : ImageResolution) : Prop where
  /-- Asked for is what is shown and has no address, in the order in which it is shown. -/
  requests : resolution.requests = task.asked previous files
  /-- Nothing is asked for twice. -/
  once : (task.asked previous files).Nodup
  /-- Nothing else is asked for: other answers to other descriptions make no difference. -/
  only : ∀ other : ImageService, (∀ d ∈ task.asked previous files, other d = service d) →
    task.resolve other previous files = resolution
  /-- Without a token everything stays as it is. -/
  noImages : task.sightings files = [] →
    resolution.status = .noImages ∧ resolution.files = files ∧ resolution.cache = previous
  /-- If nobody is there, everything stays as it is. -/
  unavailable : task.Unanswered service previous files →
    resolution.files = files ∧ resolution.cache = previous ∧
      ∃ d reason, (task.asked previous files).head? = some d ∧
        service d = .error (.unavailable reason) ∧
        resolution.status = .unavailable (ImageError.unavailable reason).message
  /-- Otherwise the cache gains the addresses, as new entries. -/
  recorded : task.sightings files ≠ [] → ¬ task.Unanswered service previous files →
    resolution.cache.entries.Perm
      (previous.entries ++ ImageAnswer.addresses service (task.asked previous files))
  /-- Otherwise what was asked for has its answer, and every other address is as it was. -/
  known : task.sightings files ≠ [] → ¬ task.Unanswered service previous files → ∀ d,
    resolution.cache.find? d =
      if d ∈ task.asked previous files then (service d).toOption else previous.find? d
  /-- Otherwise the status lists what was asked for in vain, if anything was. -/
  status : task.sightings files ≠ [] → ¬ task.Unanswered service previous files →
    resolution.status = if task.failed service previous files = [] then .complete
      else .incomplete (task.failed service previous files)
  /-- A description either has an address or is asked for. -/
  total : resolution.stats.descriptions = resolution.stats.cacheHits + resolution.stats.requested
  /-- The numbers are those of the lists. -/
  stats : resolution.stats.tokens = (task.sightings files).eraseDups.length ∧
    resolution.stats.descriptions = (task.shown files).length ∧
    resolution.stats.requested = (task.asked previous files).length ∧
    resolution.stats.failed = (task.failed service previous files).length

/-- Answers matter only where somebody asks. -/
theorem resolve_congr {other : ImageService}
    (h : ∀ d ∈ task.asked previous files, other d = service d) :
    task.resolve other previous files = task.resolve service previous files := by
  refine resolve_eq_of_answers_eq ?_
  rw [answers_eq, answers_eq]
  exact List.map_congr_left fun d mem ↦ by rw [h d mem]

/-- **What resolving costs and how it ends.** Each description that is shown and has no address is
asked for once, in order, and nothing else is. Whether the cache, the files and the status tell of
it depends on the tokens that are seen and on the answers, and on nothing else. -/
theorem accounts_resolve :
    task.Accounts service previous files (task.resolve service previous files) where
  requests := requests_resolve.trans (task.misses_eq previous files)
  once := task.nodup_asked previous files
  only _ h := task.resolve_congr service previous files h
  noImages := task.resolve_of_unseen service previous files
  unavailable := task.resolve_of_unanswered service previous files
  recorded seen h := by
    rw [(task.resolve_of_answered service previous files seen h).1]
    exact ImageAnswer.perm_foldl_record (task.nodup_asked previous files)
      fun d ↦ task.find?_of_mem_asked previous files
  known := task.find?_resolve_of_answered service previous files
  status seen h := (task.resolve_of_answered service previous files seen h).2
  total := by
    rw [stats_resolve]
    exact (Nat.sub_add_cancel (List.length_filter_le ..)).symm
  stats := by
    rw [stats_resolve, tokens_eq]
    exact ⟨rfl, rfl, rfl, rfl⟩

/-- Two tokens share a description, and one has none. -/
example : ((⟨["IMG_1", "IMG_2", "IMG_3"], [("IMG_1", "A cat"), ("IMG_2", "A cat")],
    "A picture"⟩ : ImageTask).resolve .offline .empty [⟨"app/page.tsx",
      "<img src=\"IMG_3\" /> <img src=\"IMG_2\" /> <img src=\"IMG_1\" />"⟩]).requests =
    ["A picture", "A cat"] := by
  decide +kernel

end ImageTask

end Sitewright
