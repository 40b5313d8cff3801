import Sitewright.Proofs.Naming.Identifiers

/-!
# The numbers of slots

A slot takes its number by trying: from the last number with its base on, until one gives a name
that nobody has (`Slot.Search`). A search that goes on for ever would be no answer, so the first
thing to say is that it ends, and after how many tries: the names that are tried are pairwise
different, hence there are at most as many in vain as there are names taken
(`Slot.search_freeNumber`, `Slot.freeNumber_le`).

The rest follows from where a search starts. The numbers with one base are strictly increasing
(`Slot.pairwise_numbersOf`), since every search starts at the last of them. They are one, two, three
and so on as long as no other name gets in between (`Slot.numbersOf_eq_range`); reserved names and
custom sections that are called like a numbered one are all that can. And a slot is settled by what
stands before it, so more sections at the end change no slot (`Slot.prefix_allocate`).
-/

namespace Sitewright.Slot

variable {reserved taken bases : List String} {base : String} {last number : Nat}
  {slots : List Slot}

/-! ### Searching for a number -/

/-- A search for a name that is not taken. It starts after the number `last` and finds `number`. -/
inductive Search (taken : List String) (base : String) : Nat → Nat → Prop where
  /-- The next number gives a name that is free. -/
  | found {last : Nat} (free : numbered base (last + 1) ∉ taken) : Search taken base last (last + 1)
  /-- The next number gives a name that is taken, and the search goes on after it. -/
  | next {last number : Nat} (busy : numbered base (last + 1) ∈ taken)
      (rest : Search taken base (last + 1) number) : Search taken base last number

/-- A search finds one number only. -/
theorem Search.unique {other : Nat} (h : Search taken base last number)
    (hother : Search taken base last other) : number = other := by
  induction h with
  | found free =>
    cases hother with
    | found _ => rfl
    | next busy _ => exact absurd busy free
  | next busy _ ih =>
    cases hother with
    | found free => exact absurd busy free
    | next _ rest => exact ih rest

/-- A search finds the least number above its start that gives a free name. -/
theorem Search.of_least (above : last < number) (free : numbered base number ∉ taken)
    (least : ∀ k, last < k → k < number → numbered base k ∈ taken) :
    Search taken base last number := by
  obtain ⟨tries, rfl⟩ := Nat.exists_eq_add_of_le (Nat.succ_le_of_lt above)
  clear above
  induction tries generalizing last with
  | zero => exact .found free
  | succ tries ih =>
    have shift : last.succ + (tries + 1) = (last + 1).succ + tries := by omega
    rw [shift] at free least ⊢
    exact .next (least _ (by omega) (by omega)) (ih free fun k low high ↦ least k (by omega) high)

/-- Every number below the free one has been tried. -/
theorem numbered_mem_of_lt_freeNumber {k : Nat} (low : last < k)
    (high : k < freeNumber taken base last) : numbered base k ∈ taken := by
  rw [freeNumber] at high
  cases found : ((List.range (taken.length + 1)).map (last + 1 + ·)).find? fun number ↦
      !taken.contains (numbered base number) with
  | none =>
    rw [found, Option.getD_none] at high
    have tried := List.find?_eq_none.mp found k (List.mem_map.mpr ⟨k - (last + 1), by
      rw [List.mem_range]
      omega, by omega⟩)
    simpa using tried
  | some number =>
    rw [found, Option.getD_some] at high
    obtain ⟨-, i, hi, hnumber, before⟩ := List.find?_eq_some_iff_getElem.mp found
    rw [List.length_map, List.length_range] at hi
    rw [List.getElem_map, List.getElem_range] at hnumber
    have tried := before (k - (last + 1)) (by omega)
    rw [List.getElem_map, List.getElem_range,
      show last + 1 + (k - (last + 1)) = k by omega] at tried
    simpa using tried

/-- **Every search ends**, whatever names are taken. -/
theorem search_freeNumber (taken : List String) (base : String) (last : Nat) :
    Search taken base last (freeNumber taken base last) := by
  obtain ⟨above, free⟩ := freeNumber_spec taken base last
  exact .of_least above free fun _ ↦ numbered_mem_of_lt_freeNumber

/-- A search ends after one try more than names are taken, at the latest. -/
theorem freeNumber_le (taken : List String) (base : String) (last : Nat) :
    freeNumber taken base last ≤ last + (taken.length + 1) := by
  rw [freeNumber]
  cases found : ((List.range (taken.length + 1)).map (last + 1 + ·)).find? fun number ↦
      !taken.contains (numbered base number) with
  | none => exact Nat.le_of_eq (Nat.add_assoc ..)
  | some number =>
    obtain ⟨i, hi, rfl⟩ := List.mem_map.mp (List.mem_of_find?_eq_some found)
    rw [List.mem_range] at hi
    rw [Option.getD_some]
    omega

/-- The number after the last one is taken if it gives a free name. -/
theorem freeNumber_of_free (free : numbered base (last + 1) ∉ taken) :
    freeNumber taken base last = last + 1 :=
  (search_freeNumber taken base last).unique (.found free)

/-! ### Slot by slot -/

theorem allocateBases_concat (reserved bases : List String) (base : String) :
    allocateBases reserved (bases ++ [base]) =
      extend reserved (allocateBases reserved bases) base :=
  allocateBases_append reserved bases [base]

/-- Every slot takes the number that a search finds: after the last one with its base, among the
names that are neither reserved nor given out before it. -/
theorem search_of_prefix {before : List Slot} {slot : Slot}
    (h : before ++ [slot] <+: allocateBases reserved bases) :
    Search (reserved ++ before.map name) slot.base (lastNumber before slot.base) slot.number ∧
      slot.number ≤
        lastNumber before slot.base + (reserved.length + before.length + 1) := by
  induction bases using List.reverseRecOn with
  | nil => exact absurd (List.prefix_nil.mp h) (by simp)
  | append_singleton bases new ih =>
    rw [allocateBases_concat, extend] at h
    rcases List.prefix_concat_iff.mp h with here | earlier
    · obtain ⟨rfl, eq⟩ := List.append_inj' here rfl
      obtain rfl := (List.cons.inj eq).1
      refine ⟨search_freeNumber .., (freeNumber_le ..).trans_eq ?_⟩
      rw [List.length_append, List.length_map]
    · exact ih earlier

/-! ### Numbers with one base -/

/-- The numbers that were given out with a base, in order. -/
def numbersOf (base : String) (slots : List Slot) : List Nat :=
  (slots.filter (·.base == base)).map (·.number)

theorem lastNumber_eq (slots : List Slot) (base : String) :
    lastNumber slots base = (numbersOf base slots).getLast?.getD 0 := by
  rw [lastNumber, numbersOf, List.getLast?_map, List.getLast?_eq_head?_reverse,
    ← List.filter_reverse, List.head?_filter]

/-- As long as numbers increase, the last one is the greatest. -/
theorem le_lastNumber (increasing : (numbersOf base slots).Pairwise (· < ·))
    (mem : number ∈ numbersOf base slots) : number ≤ lastNumber slots base := by
  rw [lastNumber_eq]
  generalize numbersOf base slots = numbers at increasing mem
  induction numbers using List.reverseRecOn with
  | nil => exact absurd mem List.not_mem_nil
  | append_singleton numbers greatest _ =>
    rw [List.getLast?_concat, Option.getD_some]
    rcases List.mem_append.mp mem with earlier | here
    · exact ((List.pairwise_append.mp increasing).2.2 number earlier greatest
        (List.mem_singleton_self _)).le
    · exact (List.mem_singleton.mp here).le

theorem numbersOf_extend (reserved : List String) (slots : List Slot) (new : String) :
    numbersOf base (extend reserved slots new) =
      if new = base then numbersOf base slots ++
        [freeNumber (reserved ++ slots.map name) base (lastNumber slots base)]
      else numbersOf base slots := by
  rw [numbersOf, extend, List.filter_append, List.map_append]
  split
  · rename_i eq
    subst eq
    simp [numbersOf]
  · rename_i ne
    simp [numbersOf, ne]

/-- **Numbers increase.** -/
theorem pairwise_numbersOf (reserved bases : List String) (base : String) :
    (numbersOf base (allocateBases reserved bases)).Pairwise (· < ·) := by
  induction bases using List.reverseRecOn with
  | nil => exact List.Pairwise.nil
  | append_singleton bases new ih =>
    rw [allocateBases_concat, numbersOf_extend]
    generalize allocateBases reserved bases = slots at ih ⊢
    split
    · -- The last number is the greatest one so far, and the search starts after it.
      have above := (freeNumber_spec (reserved ++ slots.map name) base (lastNumber slots base)).1
      refine List.pairwise_append.mpr ⟨ih, List.pairwise_singleton .., fun m mem n hn ↦ ?_⟩
      rw [List.mem_singleton.mp hn]
      exact (le_lastNumber ih mem).trans_lt above
    · exact ih

/-- Numbers start from one. -/
theorem number_pos {slot : Slot} (mem : slot ∈ allocateBases reserved bases) : 0 < slot.number := by
  induction bases using List.reverseRecOn with
  | nil => exact absurd mem List.not_mem_nil
  | append_singleton bases new ih =>
    rw [allocateBases_concat] at mem
    rcases List.mem_append.mp mem with old | new
    · exact ih old
    · rw [List.mem_singleton.mp new]
      exact Nat.zero_lt_of_lt (freeNumber_spec ..).1

/-- Names that could stand in the way of the numbers of a base: the base itself, and the base with a
number. -/
def Obstructs (base name : String) : Prop := ∃ number, 0 < number ∧ name = numbered base number

/-- **Numbers without gaps.** If nothing stands in the way of a base, its numbers are one, two,
three and so on. -/
theorem numbersOf_eq_range (free : ∀ name ∈ reserved, ¬ Obstructs base name)
    (apart : ∀ slot ∈ allocateBases reserved bases, slot.base ≠ base → ¬ Obstructs base slot.name) :
    numbersOf base (allocateBases reserved bases) = List.range' 1 (bases.count base) := by
  induction bases using List.reverseRecOn with
  | nil => rfl
  | append_singleton bases new ih =>
    rw [allocateBases_concat] at apart ⊢
    have before := ih fun slot mem ↦ apart slot (List.mem_append_left _ mem)
    generalize allocateBases reserved bases = slots at apart before ⊢
    rw [numbersOf_extend, before, List.count_append]
    split
    · rename_i eq
      subst eq
      have last : lastNumber slots new = bases.count new := by
        rw [lastNumber_eq, before, List.getLast?_range']
        split <;> simp_all
      -- The next number gives a free name: it is not reserved, and no slot has it.
      have fresh : numbered new (bases.count new + 1) ∉ reserved ++ slots.map name := by
        intro mem
        rcases List.mem_append.mp mem with hreserved | given
        · exact free _ hreserved ⟨_, Nat.succ_pos _, rfl⟩
        obtain ⟨slot, hslot, eq⟩ := List.mem_map.mp given
        by_cases same : slot.base = new
        · rw [name, same] at eq
          have among : slot.number ∈ numbersOf new slots :=
            List.mem_map.mpr ⟨slot, List.mem_filter.mpr ⟨hslot, beq_iff_eq.mpr same⟩, rfl⟩
          rw [before, numbered_injective new eq, List.mem_range'_1] at among
          omega
        · exact apart slot (List.mem_append_left _ hslot) same ⟨_, Nat.succ_pos _, eq⟩
      rw [last, freeNumber_of_free fresh, List.count_singleton_self, List.range'_1_concat,
        Nat.add_comm 1]
    · rename_i ne
      rw [List.count_singleton, if_neg (by simpa using ne), Nat.add_zero]

/-- The names with a base are the base with its numbers. -/
theorem map_name_filter (base : String) (slots : List Slot) :
    (slots.filter (·.base == base)).map name = (numbersOf base slots).map (numbered base) := by
  rw [numbersOf, List.map_map]
  refine List.map_congr_left fun slot mem ↦ ?_
  rw [Function.comp_apply, name, beq_iff_eq.mp (List.mem_filter.mp mem).2]

/-! ### The slots of a page -/

theorem prefix_extend (reserved : List String) (slots : List Slot) (base : String) :
    slots <+: extend reserved slots base :=
  List.prefix_append ..

/-- **More sections at the end change no slot.** -/
theorem prefix_allocate (reserved : List String) (sections more : List Section) :
    allocate reserved sections <+: allocate reserved (sections ++ more) := by
  rw [allocate, allocate, List.map_append, allocateBases_append]
  generalize allocateBases reserved (sections.map (·.baseName)) = slots
  induction more generalizing slots with
  | nil => exact List.prefix_rfl
  | cons s more ih => exact (prefix_extend reserved slots s.baseName).trans (ih _)

/-- What a page can rely on about the slots of its sections. That there is one for each, in order,
under names that are pairwise different and not reserved, is what it means that they fit. -/
structure Allocation (reserved : List String) (sections : List Section) (slots : List Slot) : Prop
    extends Fits reserved (sections.map (·.baseName)) slots where
  /-- Each number is found by a search that ends. -/
  search : ∀ before slot, before ++ [slot] <+: slots →
    Search (reserved ++ before.map name) slot.base (lastNumber before slot.base) slot.number ∧
      slot.number ≤ lastNumber before slot.base + (reserved.length + before.length + 1)
  /-- A name is its base, or its base and a number from two on. -/
  name : ∀ slot ∈ slots, slot.number = 1 ∧ slot.name = slot.base ∨
    2 ≤ slot.number ∧ slot.name = slot.base ++ toString slot.number
  /-- Numbers with one base increase. -/
  increasing : slots.Pairwise fun a b ↦ a.base = b.base → a.number < b.number
  /-- If nothing stands in the way of a base, its names are the base, the base and two, and so
  on. -/
  undisturbed : ∀ base, (∀ name ∈ reserved, ¬ Obstructs base name) →
    (∀ slot ∈ slots, slot.base ≠ base → ¬ Obstructs base slot.name) →
    (slots.filter (·.base == base)).map Slot.name =
      (List.range' 1 ((sections.map (·.baseName)).count base)).map (numbered base)
  /-- A name starts with a capital and goes on with letters and digits. -/
  component : ∀ slot ∈ slots, Naming.isComponentName slot.name = true
  /-- More sections at the end change nothing. -/
  continued : ∀ more, slots <+: allocate reserved (sections ++ more)

/-- **Slots are given out once and for all.** Whatever the sections and the reserved names are,
every search for a number ends, and what comes of them are names that a page and its files can rely
on. -/
theorem allocation_allocate (reserved : List String) (sections : List Section) :
    Allocation reserved sections (allocate reserved sections) where
  toFits := fits_allocate reserved sections
  search _ _ := search_of_prefix
  name slot mem := by
    have pos := number_pos mem
    rw [name, numbered]
    split
    · rename_i one
      exact .inl ⟨one, rfl⟩
    · exact .inr ⟨by omega, rfl⟩
  increasing := by
    rw [List.pairwise_iff_forall_sublist]
    intro a b sub eq
    have both : [a, b].filter (·.base == b.base) = [a, b] := by simp [eq]
    have numbers := (pairwise_numbersOf reserved _ b.base).sublist
      ((sub.filter (·.base == b.base)).map (·.number))
    rw [both] at numbers
    exact List.pairwise_pair.mp numbers
  undisturbed base free apart := by
    rw [map_name_filter]
    exact congrArg _ (numbersOf_eq_range free apart)
  component _ mem := (fits_allocate reserved sections).isComponentName_name mem
  continued := prefix_allocate reserved sections

/-- A custom section has the second name of another base, and one has a reserved name. -/
example : (allocateBases reservedNames ["Faq", "Faq2", "Faq", "Hero"]).map name =
    ["Faq", "Faq2", "Faq3", "Hero2"] := by
  decide

end Sitewright.Slot
