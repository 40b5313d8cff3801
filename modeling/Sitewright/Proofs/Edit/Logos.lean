import Mathlib.Data.List.DropRight
import Mathlib.Data.List.TakeWhile
import Mathlib.Data.String.Basic
import Sitewright.Edit.Logo

/-!
# Addresses in the text of an edit

An address in a text is one of two schemes and the characters after it, up to the first one that
ends an address (`Logo.Address`). Looking for it from the left finds the first one
(`Logo.firstAddress?_eq_some_iff`). Of an address without the punctuation at its end something has
to be left; the address of the logo should be the first one in the text of which that is true.

It is not always, and `Logo.urlIn?_extent` says when. Only the first address of all is looked at, so
one that is nothing but punctuation hides those after it. And what is left is measured together with
its scheme, against the longer scheme of the two, so a single character after the shorter one is not
enough, unless it takes more than one byte.
-/

namespace Sitewright.Logo

/-- An address: a scheme, and at least one character after it, none of which ends an address. -/
structure Address where
  /-- The way the address starts. -/
  scheme : List Char
  /-- The characters after it. -/
  body : List Char
  scheme_mem : scheme ∈ schemes
  body_ne_nil : body ≠ []
  body_open : ∀ c ∈ body, endsAddress c = false

namespace Address

variable {a b : Address} {cs run : List Char} {c : Char} {p q : Address → Prop}

/-- The characters of an address. -/
def chars (a : Address) : List Char := a.scheme ++ a.body

/-- What is left of the characters after the scheme without the punctuation at their end. -/
def stem (a : Address) : List Char := Text.trimEndWhile isPunctuation a.body

/-- The address without the punctuation at its end. -/
def cut (a : Address) : List Char := a.scheme ++ a.stem

/-- What a text starts with is an address that does not go on. -/
def Starts (a : Address) (cs : List Char) : Prop :=
  ∃ rest, cs = a.chars ++ rest ∧ ∀ c ∈ rest.head?, endsAddress c = true

/-- Of the addresses in a text that have a property the one that starts first. -/
def IsFirst (p : Address → Prop) (cs : List Char) (a : Address) : Prop :=
  ∃ before rest, cs = before ++ rest ∧ a.Starts rest ∧ p a ∧
    ∀ b before' rest', cs = before' ++ rest' → Starts b rest' → p b →
      before.length ≤ before'.length

theorem forall_of_all (h : (cs.all fun c ↦ !endsAddress c) = true) :
    ∀ c ∈ cs, endsAddress c = false := by
  simpa using h

/-! ### The first address -/

theorem chars_ne_nil (a : Address) : a.chars ≠ [] := by
  simp [chars, a.body_ne_nil]

theorem not_starts_nil (a : Address) : ¬ a.Starts [] := by
  rintro ⟨rest, eq, -⟩
  exact a.chars_ne_nil (List.append_eq_nil_iff.mp eq.symm).1

theorem not_isFirst_nil : ¬ IsFirst p [] a := by
  rintro ⟨before, rest, eq, starts, -⟩
  rw [(List.append_eq_nil_iff.mp eq.symm).2] at starts
  exact a.not_starts_nil starts

/-- The first address is the one that the text starts with, or else the first one after that. -/
theorem isFirst_cons_iff : IsFirst p (c :: cs) a ↔
    a.Starts (c :: cs) ∧ p a ∨ (∀ b, Starts b (c :: cs) → ¬ p b) ∧ IsFirst p cs a := by
  constructor
  · rintro ⟨before, rest, eq, starts, has, least⟩
    cases before with
    | nil => exact .inl ⟨eq ▸ starts, has⟩
    | cons d before =>
      obtain ⟨rfl, later⟩ := List.cons.inj eq
      refine .inr ⟨fun b hb has' ↦ ?_, before, rest, later, starts, has,
        fun b before' rest' later' hb has' ↦ ?_⟩
      · exact absurd (least b [] _ rfl hb has') (Nat.not_succ_le_zero _)
      · exact Nat.le_of_succ_le_succ (least b (c :: before') rest' (congrArg _ later') hb has')
  · rintro (⟨starts, has⟩ | ⟨none, before, rest, rfl, starts, has, least⟩)
    · exact ⟨[], c :: cs, rfl, starts, has, fun _ _ _ _ _ _ ↦ Nat.zero_le _⟩
    · refine ⟨c :: before, rest, rfl, starts, has, fun b before' rest' eq hb has' ↦ ?_⟩
      cases before' with
      | nil => exact absurd has' (none b (eq ▸ hb))
      | cons d before' =>
        exact Nat.succ_le_succ (least b before' rest' (List.cons.inj eq).2 hb has')

/-- What starts in none of the places before an address does not keep it from being the first. -/
theorem IsFirst.append (h : IsFirst p cs a) (before : List Char)
    (none : ∀ n < before.length, ∀ b, Starts b ((before ++ cs).drop n) → ¬ p b) :
    IsFirst p (before ++ cs) a := by
  induction before with
  | nil => exact h
  | cons c before ih =>
    refine isFirst_cons_iff.mpr (.inr ⟨none 0 (Nat.zero_lt_succ _), ih fun n lt ↦ ?_⟩)
    exact none (n + 1) (Nat.succ_lt_succ lt)

/-- The first address of all is the first one with a property, if it has the property. -/
theorem IsFirst.of_true (h : IsFirst (fun _ ↦ True) cs a) (has : p a) : IsFirst p cs a := by
  obtain ⟨before, rest, eq, starts, -, least⟩ := h
  exact ⟨before, rest, eq, starts, has, fun b before' rest' eq' hb _ ↦
    least b before' rest' eq' hb trivial⟩

end Address

open Address

variable {cs run : List Char}

/-- What a text starts with is found, as far as it goes. -/
theorem addressAt?_eq_some_iff :
    addressAt? cs = some run ↔ ∃ a : Address, a.Starts cs ∧ a.chars = run := by
  constructor
  · intro h
    obtain ⟨scheme, known, h⟩ := List.exists_of_findSome?_eq_some h
    obtain ⟨rest, after, h⟩ := Option.bind_eq_some_iff.mp h
    obtain ⟨some, h⟩ := Option.ite_none_left_eq_some.mp h
    refine ⟨⟨scheme, rest.takeWhile fun c ↦ !endsAddress c, known, by simpa using some,
      fun c mem ↦ by simpa using List.mem_takeWhile_imp mem⟩,
      ⟨rest.dropWhile fun c ↦ !endsAddress c, ?_, fun c mem ↦ ?_⟩, Option.some.inj h⟩
    · rw [Text.afterPhrase?_eq_some_iff.mp after, chars, List.append_assoc,
        List.takeWhile_append_dropWhile]
    · have next := List.head?_dropWhile_not (fun c ↦ !endsAddress c) rest
      rw [Option.mem_def.mp mem] at next
      simpa using next
  · rintro ⟨a, ⟨rest, rfl, ends⟩, rfl⟩
    have taken : (a.body ++ rest).takeWhile (fun c ↦ !endsAddress c) = a.body := by
      rw [List.takeWhile_append_of_pos fun c mem ↦ by rw [a.body_open c mem]; rfl]
      cases rest with
      | nil => exact List.append_nil _
      | cons c rest =>
        rw [List.takeWhile_cons_of_neg (by simp [ends c rfl]), List.append_nil]
    have whole : a.chars ++ rest = a.scheme ++ (a.body ++ rest) := List.append_assoc ..
    have after : Text.afterPhrase? a.scheme (a.chars ++ rest) = some (a.body ++ rest) :=
      Text.afterPhrase?_eq_some_iff.mpr whole
    rw [addressAt?, schemes]
    rcases List.mem_pair.mp a.scheme_mem with scheme | scheme
    · rw [List.findSome?_cons, ← scheme, after, Option.bind_some, taken]
      simp [a.body_ne_nil, chars]
    · -- The longer scheme differs from the shorter one before either ends.
      have other : Text.afterPhrase? "https://".toList (a.chars ++ rest) = none := by
        rw [whole, scheme]
        rfl
      rw [List.findSome?_cons, other, Option.bind_none, List.findSome?_cons, ← scheme, after,
        Option.bind_some, taken]
      simp [a.body_ne_nil, chars]

/-- **Looking from the left finds the first address.** -/
theorem firstAddress?_eq_some_iff : firstAddress? cs = some run ↔
    ∃ a : Address, a.IsFirst (fun _ ↦ True) cs ∧ a.chars = run := by
  induction cs with
  | nil => exact iff_of_false nofun fun ⟨_, first, _⟩ ↦ not_isFirst_nil first
  | cons c cs ih =>
    rw [firstAddress?]
    simp only [isFirst_cons_iff, and_true, not_true_eq_false]
    cases here : addressAt? (c :: cs) with
    | some found =>
      obtain ⟨b, starts, -⟩ := addressAt?_eq_some_iff.mp here
      rw [Option.some_or, ← here, addressAt?_eq_some_iff]
      refine exists_congr fun a ↦ and_congr_left fun _ ↦ (or_iff_left fun later ↦ ?_).symm
      exact later.1 b starts
    | none =>
      have nowhere (a : Address) : ¬ a.Starts (c :: cs) := by
        intro starts
        have found := addressAt?_eq_some_iff.mpr ⟨a, starts, rfl⟩
        rw [here] at found
        cases found
      rw [Option.none_or, ih]
      refine exists_congr fun a ↦ and_congr_left fun _ ↦ ?_
      exact ⟨fun first ↦ .inr ⟨fun b starts ↦ nowhere b starts, first⟩, fun h ↦
        h.elim (fun starts ↦ absurd starts (nowhere a)) And.right⟩

/-! ### What is left of it -/

/-- Trimming leaves alone what ends in a character that is not trimmed. -/
theorem trimEndWhile_append {p : Char → Bool} {start : List Char}
    (h : ∀ c ∈ start.getLast?, p c = false) (rest : List Char) :
    Text.trimEndWhile p (start ++ rest) = start ++ Text.trimEndWhile p rest := by
  have kept : start.reverse.dropWhile p = start.reverse := by
    cases last : start.reverse with
    | nil => rfl
    | cons c before =>
      refine List.dropWhile_cons_of_neg ?_
      rw [h c (by rw [List.getLast?_eq_head?_reverse, last]; rfl)]
      exact Bool.false_ne_true
  rw [Text.trimEndWhile, Text.trimEndWhile, List.reverse_append, List.dropWhile_append]
  split
  · rename_i all
    rw [kept, List.reverse_reverse, List.isEmpty_iff.mp all, List.reverse_nil, List.append_nil]
  · rw [List.reverse_append, List.reverse_reverse]

/-- Only the characters of ASCII take a single byte. -/
theorem one_lt_utf8Size_iff {c : Char} : 1 < c.utf8Size ↔ ¬ c.toNat < 128 := by
  have ascii : c.val ≤ 127 ↔ c.toNat < 128 := by
    rw [UInt32.le_iff_toNat_le]
    exact Nat.lt_succ_iff.symm
  rw [← ascii, Char.utf8Size]
  split
  · rename_i one
    simpa using one
  · rename_i more
    refine iff_of_true ?_ more
    split
    · decide
    · split <;> decide

namespace Address

/-- Whether of an address a single byte is left after the shorter scheme. -/
def IsTiny (a : Address) : Prop :=
  a.scheme = "http://".toList ∧ ∃ c, a.stem = [c] ∧ c.toNat < 128

/-- The punctuation at the end of an address is not in its scheme. -/
theorem trimEndWhile_chars (a : Address) : Text.trimEndWhile isPunctuation a.chars = a.cut := by
  have slash : ∀ scheme ∈ schemes, scheme.getLast? = some '/' := by decide
  refine trimEndWhile_append (fun c mem ↦ ?_) a.body
  rw [slash _ a.scheme_mem] at mem
  rw [← Option.some.inj mem]
  decide

/-- More than the longer scheme is left exactly if something is left after the scheme, and not just
a single byte after the shorter one. -/
theorem lt_size_cut_iff (a : Address) :
    "https://".utf8ByteSize < (String.ofList a.cut).utf8ByteSize ↔ a.stem ≠ [] ∧ ¬ a.IsTiny := by
  have eight : "https://".utf8ByteSize = 8 := rfl
  rw [eight, String.utf8ByteSize_ofList, cut, String.utf8Len_append, IsTiny]
  rcases List.mem_pair.mp a.scheme_mem with scheme | scheme
  · have length : String.utf8Len a.scheme = 8 := scheme ▸ rfl
    have longer : a.scheme ≠ "http://".toList := by
      rw [scheme]
      decide
    rw [length, Nat.lt_add_right_iff_pos, Nat.pos_iff_ne_zero, Ne, String.utf8Len_eq_zero]
    exact ⟨fun some ↦ ⟨some, fun tiny ↦ longer tiny.1⟩, And.left⟩
  · have length : String.utf8Len a.scheme = 7 := scheme ▸ rfl
    rw [length]
    match stem : a.stem with
    | [] => simp
    | [c] =>
      have one : 8 < 7 + String.utf8Len [c] ↔ 1 < c.utf8Size := by
        rw [String.utf8Len_cons, String.utf8Len_nil]
        omega
      rw [one, one_lt_utf8Size_iff]
      simp [scheme]
    | c :: d :: rest =>
      have first := c.utf8Size_pos
      have second := d.utf8Size_pos
      refine iff_of_true ?_ (by simp)
      rw [String.utf8Len_cons, String.utf8Len_cons]
      omega

end Address

/-- The address in a text is the first one of all, if enough of it is left. -/
theorem urlIn?_eq_some_iff {s url : String} : urlIn? s = some url ↔
    ∃ a : Address, a.IsFirst (fun _ ↦ True) s.toList ∧ a.stem ≠ [] ∧ ¬ a.IsTiny ∧
      url = String.ofList a.cut := by
  rw [urlIn?, Option.bind_eq_some_iff]
  simp only [Option.ite_none_right_eq_some, Option.some.injEq, firstAddress?_eq_some_iff]
  constructor
  · rintro ⟨_, ⟨a, first, rfl⟩, enough, rfl⟩
    rw [trimEndWhile_chars] at enough ⊢
    obtain ⟨some, notTiny⟩ := a.lt_size_cut_iff.mp enough
    exact ⟨a, first, some, notTiny, rfl⟩
  · rintro ⟨a, first, some, notTiny, rfl⟩
    refine ⟨_, ⟨a, first, rfl⟩, ?_⟩
    rw [trimEndWhile_chars]
    exact ⟨a.lt_size_cut_iff.mpr ⟨some, notTiny⟩, rfl⟩

/-- No character of an address ends one. -/
theorem Address.endsAddress_of_mem_cut (a : Address) {c : Char} (mem : c ∈ a.cut) :
    endsAddress c = false := by
  have schemes : ∀ scheme ∈ schemes, (scheme.all fun c ↦ !endsAddress c) = true := by decide
  rcases List.mem_append.mp mem with mem | mem
  · exact forall_of_all (schemes _ a.scheme_mem) c mem
  · exact a.body_open c ((List.rdropWhile_prefix isPunctuation a.body).subset mem)

/-- **Which address is found.** The logo is to be taken from the first address in the text of which
something is left without the punctuation at its end. It is, provided that no other address stands
before that one, and that not just a single byte is left of it after the shorter scheme; otherwise
none is found. What is found starts with a scheme, and none of its characters ends an address. -/
theorem urlIn?_extent (s : String) :
    (∀ url, urlIn? s = some url ↔
      ∃ a : Address, a.IsFirst (·.stem ≠ []) s.toList ∧ url = String.ofList a.cut ∧
        a.IsFirst (fun _ ↦ True) s.toList ∧ ¬ a.IsTiny) ∧
      (urlIn? s = none ∨ ∃ url, urlIn? s = some url ∧
        (∃ scheme ∈ schemes, scheme <+: url.toList) ∧
        ¬ ∃ c ∈ url.toList, endsAddress c = true) := by
  constructor
  · intro url
    rw [urlIn?_eq_some_iff]
    refine exists_congr fun a ↦ ⟨?_, ?_⟩
    · rintro ⟨first, some, notTiny, eq⟩
      exact ⟨first.of_true some, eq, first, notTiny⟩
    · rintro ⟨⟨_, _, _, _, some, _⟩, eq, first, notTiny⟩
      exact ⟨first, some, notTiny, eq⟩
  · cases found : urlIn? s with
    | none => exact .inl rfl
    | some url =>
      obtain ⟨a, -, -, -, rfl⟩ := urlIn?_eq_some_iff.mp found
      refine .inr ⟨_, rfl, ⟨a.scheme, a.scheme_mem, ?_⟩, ?_⟩
      · rw [String.toList_ofList]
        exact List.prefix_append ..
      · rintro ⟨c, mem, ends⟩
        rw [String.toList_ofList] at mem
        rw [a.endsAddress_of_mem_cut mem] at ends
        cases ends

/-- An address with a host of one letter. -/
def Address.short : Address where
  scheme := "http://".toList
  body := ['a']
  scheme_mem := by decide
  body_ne_nil := by decide
  body_open := forall_of_all (by decide)

/-- An address to stand behind another one. -/
def Address.behind : Address where
  scheme := "https://".toList
  body := "b.co".toList
  scheme_mem := by decide
  body_ne_nil := by decide
  body_open := forall_of_all (by decide)

/-- **Addresses are missed.** A host of one letter is too short after the shorter scheme, and an
address is hidden by one that is nothing but punctuation. -/
theorem urlIn?_misses :
    (urlIn? "http://a" = none ∧ ∃ a : Address,
      a.IsFirst (·.stem ≠ []) "http://a".toList ∧ a.cut = "http://a".toList) ∧
    urlIn? "http://... https://b.co" = none ∧ ∃ a : Address,
      a.IsFirst (·.stem ≠ []) "http://... https://b.co".toList ∧ a.cut = "https://b.co".toList := by
  refine ⟨⟨by decide, .short, ?_, rfl⟩, by decide, .behind, ?_, rfl⟩
  · exact isFirst_cons_iff.mpr (.inl ⟨⟨[], rfl, nofun⟩, by decide⟩)
  · refine IsFirst.append (isFirst_cons_iff.mpr (.inl ⟨⟨[], rfl, nofun⟩, by decide⟩))
      "http://... ".toList fun n lt b starts some ↦ some ?_
    -- Wherever an address starts before the second one, it is the first one.
    have only : ∀ n < "http://... ".toList.length,
        ∀ run ∈ addressAt? (("http://... ".toList ++ "https://b.co".toList).drop n),
          run = "http://...".toList := by
      decide
    have chars := only n lt _ (addressAt?_eq_some_iff.mpr ⟨b, starts, rfl⟩)
    have cut : b.scheme ++ b.stem = "http://".toList := by
      rw [← Address.cut, ← trimEndWhile_chars, chars]
      rfl
    rcases List.mem_pair.mp b.scheme_mem with scheme | scheme
    · rw [scheme] at cut
      cases cut
    · rw [scheme] at cut
      exact List.append_cancel_left (cut.trans (List.append_nil _).symm)

end Sitewright.Logo
