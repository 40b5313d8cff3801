import Mathlib.Data.List.Infix
import Mathlib.Data.List.TakeWhile
import Sitewright.Image.Token
import Sitewright.Proofs.Text.Tidy

/-!
# Where tokens stand

A source attribute with a token is found by going through a text from the left, and what is found
depends on what has been passed. This module shows that it depends on less than one might fear.

The characters of such an attribute are never gaps. So at a border with a gap on either side no
attribute is cut and none comes into being, and the tokens of a text are those of its parts, one
part after the other (`Piece.tokens_append`); in particular finding tokens is a reader in the sense
of `Text.Reader`. And since an attribute has two quotes, a text with exactly two has at most one
token: what stands between the quotes, if the text before them ends as a source attribute begins
(`Piece.tokens_attributeOf`).
-/

namespace Sitewright.Piece

variable {inWord : Bool} {cs digits rest a b p v : List Char}

/-- Decimal digits, at least one. -/
def IsDigits (digits : List Char) : Prop :=
  digits ≠ [] ∧ ∀ c ∈ digits, Text.isDecimalDigit c = true

/-- The tokens of a text, as often as they appear; `inWord` tells whether a word goes on. -/
def tokensFrom (inWord : Bool) (cs : List Char) : List String :=
  (scan inWord 0 cs).filterMap token?

/-- The tokens of a text, as often as they appear. -/
def tokens (cs : List Char) : List String := (ofChars cs).filterMap token?

theorem tokensFrom_false : tokensFrom false = tokens := rfl

/-! ### Source attributes -/

theorem chars_source (digits : List Char) :
    chars (source digits) = sourceHead ++ imageTokenHead ++ (digits ++ ['"']) := by
  simp [chars, attributeOf]

/-- A source attribute with a token is found where a text starts with one, and nowhere else. -/
theorem digitsAt?_eq_some_iff :
    digitsAt? cs = some digits ↔ IsDigits digits ∧ chars (source digits) <+: cs := by
  constructor
  · intro h
    obtain ⟨rest, rfl⟩ := eq_of_digitsAt? h
    obtain ⟨after, -, h⟩ := Option.bind_eq_some_iff.mp h
    simp only [Option.ite_none_right_eq_some, Bool.and_eq_true, Option.some.injEq] at h
    obtain ⟨⟨some, -⟩, rfl⟩ := h
    refine ⟨⟨?_, fun c mem ↦ List.mem_takeWhile_imp mem⟩, List.prefix_append ..⟩
    rintro empty
    rw [empty] at some
    cases some
  · rintro ⟨⟨some, all⟩, rest, rfl⟩
    have quote : Text.isDecimalDigit '"' = false := by decide
    have after : Text.afterPhrase? (sourceHead ++ imageTokenHead)
        (chars (source digits) ++ rest) = .some (digits ++ '"' :: rest) :=
      Text.afterPhrase?_eq_some_iff.mpr (by rw [chars_source]; simp)
    have taken : (digits ++ '"' :: rest).takeWhile Text.isDecimalDigit = digits := by
      rw [List.takeWhile_append_of_pos all, List.takeWhile_cons_of_neg (by simp [quote]),
        List.append_nil]
    have left : (digits ++ '"' :: rest).dropWhile Text.isDecimalDigit = '"' :: rest := by
      rw [List.dropWhile_append_of_pos all, List.dropWhile_cons_of_neg (by simp [quote])]
    rw [digitsAt?, after, Option.bind_some, taken, left]
    simp [some]

theorem digitsAt?_eq_none_of_ne {c : Char} (h : c ≠ 's') : digitsAt? (c :: cs) = none := by
  rw [Option.eq_none_iff_forall_ne_some]
  intro digits found
  obtain ⟨rest, eq⟩ := (digitsAt?_eq_some_iff.mp found).2
  exact h (List.cons.inj eq).1.symm

/-- Where a text starts with a source attribute, so does what goes on with more. -/
theorem digitsAt?_eq_none_of_append (h : digitsAt? (a ++ b) = none) : digitsAt? a = none := by
  rw [Option.eq_none_iff_forall_ne_some] at h ⊢
  intro digits here
  obtain ⟨isDigits, pre⟩ := digitsAt?_eq_some_iff.mp here
  exact h digits (digitsAt?_eq_some_iff.mpr ⟨isDigits, pre.trans (List.prefix_append a b)⟩)

/-- No character of a source attribute is a gap. -/
theorem isGap_of_mem_chars (h : IsDigits digits) {c : Char} (mem : c ∈ chars (source digits)) :
    Text.isGap c = false := by
  rw [chars_source] at mem
  rcases List.mem_append.mp mem with mem | mem
  · have none : (sourceHead ++ imageTokenHead).all (!Text.isGap ·) = true := by rfl
    simpa using List.all_eq_true.mp none c mem
  · rcases List.mem_append.mp mem with mem | mem
    · simp [Text.isGap, h.2 c mem]
    · rw [List.mem_singleton.mp mem]
      decide

/-! ### Going through a text -/

/-- A character that no attribute starts with is a piece of its own. -/
theorem scan_cons {c : Char} (h : inWord = true ∨ digitsAt? (c :: cs) = none) :
    scan inWord 0 (c :: cs) = char c :: scan (Text.isWordChar c) 0 cs := by
  have none : (if inWord then none else digitsAt? (c :: cs)) = none := by
    rcases h with rfl | h
    · rfl
    · rw [h, ite_self]
  rw [scan, none]

/-- A source attribute is a piece as a whole. -/
theorem scan_source (h : IsDigits digits) (rest : List Char) :
    scan false 0 (chars (source digits) ++ rest) = source digits :: scan false 0 rest := by
  have skipped (taken : List Char) :
      scan false taken.length (taken ++ rest) = scan false 0 rest := by
    induction taken with
    | nil => rfl
    | cons c taken ih => exact ih
  have found : digitsAt? ('s' :: ((chars (source digits)).tail ++ rest)) = some digits :=
    digitsAt?_eq_some_iff.mpr ⟨h, List.prefix_append (chars (source digits)) rest⟩
  have head : chars (source digits) ++ rest = 's' :: ((chars (source digits)).tail ++ rest) := rfl
  rw [head, scan, if_neg Bool.false_ne_true, found]
  simp only
  rw [← List.length_tail, skipped]

/-- A character that no attribute starts with is passed. -/
theorem tokensFrom_cons {c : Char} (h : inWord = true ∨ digitsAt? (c :: cs) = none) :
    tokensFrom inWord (c :: cs) = tokensFrom (Text.isWordChar c) cs := by
  rw [tokensFrom, scan_cons h]
  rfl

/-- A source attribute is passed as a whole. -/
theorem tokensFrom_source (h : IsDigits digits) (rest : List Char) :
    tokensFrom false (chars (source digits) ++ rest) =
      String.ofList (imageTokenHead ++ digits) :: tokensFrom false rest := by
  rw [tokensFrom, scan_source h]
  rfl

/-- A gap at the start of a text ends the word before it. -/
theorem tokensFrom_of_head (h : ∀ c, cs.head? = some c → Text.isGap c = true) :
    tokensFrom inWord cs = tokens cs := by
  cases cs with
  | nil => rfl
  | cons c cs =>
    have gap := h c rfl
    have ne : c ≠ 's' := by
      rintro rfl
      cases gap
    rw [← tokensFrom_false, tokensFrom_cons (.inr (digitsAt?_eq_none_of_ne ne)),
      tokensFrom_cons (.inr (digitsAt?_eq_none_of_ne ne))]

/-- At a border with a gap no attribute is cut. -/
theorem prefix_of_apart (h : IsDigits digits) (apart : Text.Apart a b) (ne : a ≠ [])
    (pre : chars (source digits) <+: a ++ b) : chars (source digits) <+: a := by
  rcases List.prefix_or_prefix_of_prefix pre (List.prefix_append a b) with inside | cut
  · exact inside
  obtain ⟨t, ht⟩ := cut
  cases t with
  | nil => exact ⟨[], by rw [← ht, List.append_nil, List.append_nil]⟩
  | cons c t =>
    -- The attribute goes on after the border, so there is no gap on either side.
    have last : a.getLast ne ∈ chars (source digits) := by
      rw [← ht]
      exact List.mem_append_left _ (List.getLast_mem ne)
    have next : c ∈ chars (source digits) := by
      rw [← ht]
      exact List.mem_append_right _ List.mem_cons_self
    rw [← ht, List.prefix_append_right_inj] at pre
    obtain ⟨rest, rfl⟩ := pre
    rcases apart with gap | gap
    · exact absurd (gap _ (List.getLast?_eq_some_getLast ne))
        (Bool.eq_false_iff.mp (isGap_of_mem_chars h last))
    · exact absurd (gap c rfl) (Bool.eq_false_iff.mp (isGap_of_mem_chars h next))

/-- **Tokens of parts.** The tokens of two texts that are apart are those of each. -/
theorem tokensFrom_append (apart : Text.Apart a b)
    (start : a = [] → inWord = false ∨ ∀ c, b.head? = some c → Text.isGap c = true) :
    tokensFrom inWord (a ++ b) = tokensFrom inWord a ++ tokens b := by
  -- By the length of the first text, because an attribute is passed in one go.
  induction length : a.length using Nat.strong_induction_on generalizing a inWord with
  | _ n ih =>
  cases a with
  | nil =>
    rcases start rfl with rfl | gap
    · rfl
    · exact tokensFrom_of_head gap
  | cons c a =>
    have pass (whole : inWord = true ∨ digitsAt? (c :: (a ++ b)) = none) :
        tokensFrom inWord (c :: a ++ b) = tokensFrom inWord (c :: a) ++ tokens b := by
      have first : inWord = true ∨ digitsAt? (c :: a) = none :=
        whole.imp_right digitsAt?_eq_none_of_append
      rw [List.cons_append, tokensFrom_cons whole, tokensFrom_cons first]
      refine ih a.length (by simp [← length]) (Text.Apart.of_append (a := [c]) apart) ?_ rfl
      rintro rfl
      exact apart.imp_left fun gap ↦ Text.isWordChar_of_isGap (gap c rfl)
    cases inWord with
    | true => exact pass (.inl rfl)
    | false =>
      cases found : digitsAt? (c :: (a ++ b)) with
      | none => exact pass (.inr found)
      | some digits =>
        obtain ⟨h, pre⟩ := digitsAt?_eq_some_iff.mp found
        obtain ⟨after, hafter⟩ := prefix_of_apart h apart (List.cons_ne_nil c a) pre
        have shorter : after.length < n := by
          rw [← length, ← hafter, List.length_append]
          exact Nat.lt_add_of_pos_left (List.length_pos_of_ne_nil (List.cons_ne_nil _ _))
        rw [← hafter] at apart ⊢
        rw [List.append_assoc, tokensFrom_source h, tokensFrom_source h, List.cons_append]
        exact congrArg _ (ih after.length shorter apart.of_append (fun _ ↦ .inl rfl) rfl)

theorem tokens_append (apart : Text.Apart a b) : tokens (a ++ b) = tokens a ++ tokens b :=
  tokensFrom_append apart fun _ ↦ .inl rfl

/-- A gap at the start of a text holds no token. -/
theorem tokens_cons_of_isGap {c : Char} (h : Text.isGap c = true) : tokens (c :: cs) = tokens cs :=
  (tokens_append (a := [c]) (.of_last (a := []) h)).trans (by
    have none : tokens [c] = [] := by
      refine (tokensFrom_cons (.inr (digitsAt?_eq_none_of_ne ?_))).trans rfl
      rintro rfl
      cases h
    rw [none, List.nil_append])

/-- Finding tokens ignores blanks, and needs no more than gaps. -/
theorem reader_tokens : Text.Reader tokens where
  nil := rfl
  blank c cs h := by
    rcases h with rfl | rfl | rfl <;> exact tokens_cons_of_isGap (by decide)
  append _ apart := tokens_append apart

/-! ### Texts without tokens -/

/-- Tokens are found only where there are source attributes. -/
theorem tokensFrom_eq_nil (h : ∀ digits, IsDigits digits → ¬ chars (source digits) <:+: cs) :
    tokensFrom inWord cs = [] := by
  induction cs generalizing inWord with
  | nil => rfl
  | cons c cs ih =>
    have none : digitsAt? (c :: cs) = none := by
      rw [Option.eq_none_iff_forall_ne_some]
      intro digits found
      obtain ⟨isDigits, pre⟩ := digitsAt?_eq_some_iff.mp found
      exact h digits isDigits pre.isInfix
    rw [tokensFrom_cons (.inr none)]
    exact ih fun digits isDigits inner ↦
      h digits isDigits (inner.trans (List.suffix_cons c cs).isInfix)

/-- A text without quotes has no tokens. -/
theorem tokens_eq_nil_of_notMem (h : '"' ∉ cs) : tokens cs = [] :=
  tokensFrom_eq_nil fun digits _ inner ↦ h (inner.subset (by simp [chars, attributeOf]))

/-! ### Texts with two quotes -/

/-- The token that is the whole of a text. -/
def whole? (value : List Char) : Option String :=
  (digitsAt? (attributeOf value)).map fun digits ↦ String.ofList (imageTokenHead ++ digits)

theorem notMem_of_isDigits (h : IsDigits digits) : '"' ∉ imageTokenHead ++ digits := by
  intro mem
  rcases List.mem_append.mp mem with mem | mem
  · revert mem
    decide
  · cases h.2 _ mem

/-- What stands before the first quote and after it. -/
theorem append_quote_inj (ha : '"' ∉ a) (hb : '"' ∉ b) (h : a ++ '"' :: v = b ++ '"' :: rest) :
    a = b ∧ v = rest := by
  have before := congrArg (List.takeWhile (· != '"')) h
  have others {cs : List Char} (notMem : '"' ∉ cs) : ∀ c ∈ cs, (c != '"') = true :=
    fun c mem ↦ bne_iff_ne.mpr fun eq ↦ notMem (eq ▸ mem)
  rw [List.takeWhile_append_of_pos (others ha), List.takeWhile_append_of_pos (others hb),
    List.takeWhile_cons_of_neg (by decide), List.takeWhile_cons_of_neg (by decide),
    List.append_nil, List.append_nil] at before
  subst before
  exact ⟨rfl, (List.cons.inj (List.append_cancel_left h)).2⟩

/-- A source attribute in a text with two quotes has them as its own. -/
theorem eq_of_quoted (isDigits : IsDigits digits) (hp : '"' ∉ p) (hv : '"' ∉ v)
    (h : chars (source digits) <:+: p ++ '"' :: (v ++ ['"'])) :
    ['s', 'r', 'c', '='] <:+ p ∧ v = imageTokenHead ++ digits := by
  obtain ⟨x, y, eq⟩ := h
  have token := notMem_of_isDigits isDigits
  have split : x ++ chars (source digits) ++ y =
      (x ++ ['s', 'r', 'c', '=']) ++ '"' :: (imageTokenHead ++ digits ++ '"' :: y) := by
    simp [chars, attributeOf, sourceHead]
  have hx : '"' ∉ x := by
    rw [← List.count_eq_zero] at hp hv token ⊢
    have count := congrArg (List.count '"') eq
    rw [split] at count
    simp only [List.count_append, List.count_cons_self, List.count_nil, hp, hv, token] at count
    omega
  rw [split] at eq
  have hx' : '"' ∉ x ++ ['s', 'r', 'c', '='] := by simp [hx]
  obtain ⟨before, after⟩ := append_quote_inj hx' hp eq
  obtain ⟨value, -⟩ := append_quote_inj token hv after
  exact ⟨⟨x, before⟩, value.symm⟩

/-- Between quotes that belong to no source attribute there is no token. -/
theorem tokens_quoted_eq_nil (hp : '"' ∉ p) (hv : '"' ∉ v) (h : ¬ ['s', 'r', 'c', '='] <:+ p) :
    tokens (p ++ '"' :: (v ++ ['"'])) = [] :=
  tokensFrom_eq_nil fun _ isDigits inner ↦ h (eq_of_quoted isDigits hp hv inner).1

/-- **A source attribute holds a token only as a whole.** -/
theorem tokens_attributeOf (hv : '"' ∉ v) : tokens (attributeOf v) = (whole? v).toList := by
  have quotes : attributeOf v = ['s', 'r', 'c', '='] ++ '"' :: (v ++ ['"']) := by
    simp [attributeOf, sourceHead]
  have src : '"' ∉ ['s', 'r', 'c', '='] := by decide
  rw [whole?]
  cases found : digitsAt? (attributeOf v) with
  | some digits =>
    obtain ⟨isDigits, pre⟩ := digitsAt?_eq_some_iff.mp found
    have inner := pre.isInfix
    rw [quotes] at inner
    obtain ⟨-, rfl⟩ := eq_of_quoted isDigits src hv inner
    have only := tokensFrom_source isDigits []
    rw [List.append_nil] at only
    exact only
  | none =>
    refine tokensFrom_eq_nil fun digits isDigits inner ↦ ?_
    rw [quotes] at inner
    obtain ⟨-, rfl⟩ := eq_of_quoted isDigits src hv inner
    have here : digitsAt? (attributeOf (imageTokenHead ++ digits)) = some digits :=
      digitsAt?_eq_some_iff.mpr ⟨isDigits, List.prefix_rfl⟩
    rw [here] at found
    cases found

end Sitewright.Piece
