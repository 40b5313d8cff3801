import Sitewright.Proofs.Text.Tidy

/-!
# Plain texts

The texts that a library writes itself are put together from words that are written out, numbers and
names, and none of these holds a bracket, a brace, a quote or a line break. Such texts are *plain*;
what stands between quotes may hold braces and need only be *quotable*. Names are plain, since they
are made of letters, digits and hyphens (`Naming.Named`). That a text is plain follows from its
parts: parts that are written out are checked character by character (`Text.Only.lit`), and nothing
else is ever evaluated.
-/

namespace Sitewright.Text

/-- Characters that end neither a tag nor a quoted value. -/
def isQuotable (c : Char) : Bool := isInert c && !c.toNat.beq 34

theorem isQuotable_iff {c : Char} : isQuotable c = true ↔ isInert c = true ∧ c ≠ '"' := by
  rw [isQuotable, Bool.and_eq_true, ← beq_toNat_eq_false_iff, Bool.not_eq_true']
  rfl

/-- Characters that neither end nor open a tag, a quoted value or an expression. -/
def isPlain (c : Char) : Bool := isQuotable c && !(c.toNat.beq 123 || c.toNat.beq 125)

theorem isPlain_iff {c : Char} :
    isPlain c = true ↔ isQuotable c = true ∧ c ≠ '\x7b' ∧ c ≠ '\x7d' := by
  simp only [← beq_toNat_eq_false_iff]
  simp [isPlain]

/-- A text whose characters all have a property. -/
def Only (p : Char → Bool) (s : String) : Prop := ∀ c ∈ s.toList, p c = true

/-- A text without characters that would end a tag. -/
abbrev Inert : String → Prop := Only isInert

/-- A text without characters that would end a tag or a quoted value. -/
abbrev Quotable : String → Prop := Only isQuotable

/-- A text without characters that would end or open a tag, a quoted value or an expression. -/
abbrev Plain : String → Prop := Only isPlain

namespace Only

variable {p q : Char → Bool} {s t : String} {cs : List Char}

theorem ofList (h : ∀ c ∈ cs, p c = true) : Only p (String.ofList cs) := by
  rwa [Only, String.toList_ofList]

/-- A text that is written out is checked character by character. -/
theorem lit (h : cs.all p = true) : Only p (String.ofList cs) :=
  ofList (List.all_eq_true.mp h)

theorem append (hs : Only p s) (ht : Only p t) : Only p (s ++ t) := by
  intro c mem
  rw [String.toList_append] at mem
  rcases List.mem_append.mp mem with mem | mem
  · exact hs c mem
  · exact ht c mem

/-- A text after one that is written out. -/
theorem after (h : cs.all p = true) (hs : Only p s) : Only p (String.ofList cs ++ s) :=
  .append (.lit h) hs

/-- A text before one that is written out. -/
theorem before (hs : Only p s) (h : cs.all p = true) : Only p (s ++ String.ofList cs) :=
  .append hs (.lit h)

theorem join {texts : List String} (h : ∀ s ∈ texts, Only p s) : Only p (String.join texts) := by
  intro c mem
  rw [String.toList_join] at mem
  obtain ⟨s, hs, mem⟩ := List.mem_flatMap.mp mem
  exact h s hs c mem

/-- Replacing a phrase only brings in characters of the replacement. -/
theorem replaceAll {phrase replacement : String} (hs : Only p s) (hr : Only p replacement) :
    Only p (Text.replaceAll phrase replacement s) := by
  have chars (skip : Nat) (cs : List Char) (h : ∀ c ∈ cs, p c = true) :
      ∀ c ∈ replaceFrom phrase.toList replacement.toList skip cs, p c = true := by
    induction cs generalizing skip with
    | nil => cases skip <;> exact h
    | cons c cs ih =>
      obtain ⟨here, others⟩ := List.forall_mem_cons.mp h
      cases skip with
      | succ skip => exact ih skip others
      | zero =>
        rw [replaceFrom]
        split
        · exact List.forall_mem_append.mpr ⟨hr, ih _ others⟩
        · exact List.forall_mem_cons.mpr ⟨here, ih _ others⟩
  intro c mem
  rw [Text.replaceAll, String.toList_ofList] at mem
  exact chars 0 _ hs c mem

end Only

theorem Quotable.inert {s : String} (h : Quotable s) : Inert s :=
  fun c mem ↦ (isQuotable_iff.mp (h c mem)).1

theorem Quotable.quote_notMem {s : String} (h : Quotable s) : '"' ∉ s.toList := by
  intro mem
  cases h _ mem

theorem Plain.quotable {s : String} (h : Plain s) : Quotable s :=
  fun c mem ↦ (isPlain_iff.mp (h c mem)).1

theorem Plain.inert {s : String} (h : Plain s) : Inert s := h.quotable.inert

theorem Plain.quote_notMem {s : String} (h : Plain s) : '"' ∉ s.toList := h.quotable.quote_notMem

namespace IsBody

variable {a b cs : List Char}

theorem append (ha : IsBody a) (hb : IsBody b) : IsBody (a ++ b) where
  inert := List.forall_mem_append.mpr ⟨ha.inert, hb.inert⟩
  closed := by rw [TagPlace.after_append, ha.closed, hb.closed]

/-- Plain characters do not lead into a value. -/
theorem of_isPlain (h : ∀ c ∈ cs, isPlain c = true) : IsBody cs where
  inert c mem := (isQuotable_iff.mp (isPlain_iff.mp (h c mem)).1).1
  closed := by
    induction cs with
    | nil => rfl
    | cons c cs ih =>
      obtain ⟨here, others⟩ := List.forall_mem_cons.mp h
      obtain ⟨quotable, brace, -⟩ := isPlain_iff.mp here
      rw [TagPlace.after_cons, TagPlace.next, if_neg (isQuotable_iff.mp quotable).2, if_neg brace,
        ih others]

/-- Quotable characters do not lead out of a quoted value. -/
theorem quoted (h : ∀ c ∈ cs, isQuotable c = true) : IsBody ('=' :: '"' :: (cs ++ ['"'])) where
  inert := by
    refine List.forall_mem_cons.mpr ⟨rfl, List.forall_mem_cons.mpr ⟨rfl, ?_⟩⟩
    refine List.forall_mem_append.mpr ⟨fun c mem ↦ (isQuotable_iff.mp (h c mem)).1, ?_⟩
    exact List.forall_mem_singleton.mpr rfl
  closed := by
    have inside : TagPlace.quoted.after cs = .quoted := by
      induction cs with
      | nil => rfl
      | cons c cs ih =>
        obtain ⟨here, others⟩ := List.forall_mem_cons.mp h
        rw [TagPlace.after_cons, TagPlace.next, if_neg (isQuotable_iff.mp here).2, ih others]
    show TagPlace.quoted.after (cs ++ ['"']) = .bare
    rw [TagPlace.after_append, inside]
    rfl

/-- Plain characters do not lead out of an expression. -/
theorem braced (h : ∀ c ∈ cs, isPlain c = true) : IsBody ('=' :: '\x7b' :: (cs ++ ['\x7d'])) where
  inert := by
    refine List.forall_mem_cons.mpr ⟨rfl, List.forall_mem_cons.mpr ⟨rfl, ?_⟩⟩
    refine List.forall_mem_append.mpr
      ⟨fun c mem ↦ (isQuotable_iff.mp (isPlain_iff.mp (h c mem)).1).1, ?_⟩
    exact List.forall_mem_singleton.mpr rfl
  closed := by
    have inside : (TagPlace.braced 0).after cs = .braced 0 := by
      induction cs with
      | nil => rfl
      | cons c cs ih =>
        obtain ⟨here, others⟩ := List.forall_mem_cons.mp h
        obtain ⟨-, opening, closing⟩ := isPlain_iff.mp here
        rw [TagPlace.after_cons, TagPlace.next, if_neg opening, if_neg closing, ih others]
    show (TagPlace.braced 0).after (cs ++ ['\x7d']) = .bare
    rw [TagPlace.after_append, inside]
    rfl

end IsBody

end Sitewright.Text

/-! ### Names -/

namespace Sitewright

/-- A property of ASCII letters and digits is checked one by one. -/
theorem Text.forall_isAlphanum {p : Char → Bool}
    (h : ∀ n < 128, (Char.ofNat n).isAlphanum = true → p (Char.ofNat n) = true) {c : Char}
    (alphanum : c.isAlphanum = true) : p c = true := by
  have ascii : c.toNat < 128 := by
    have bounds := alphanum
    unfold Char.isAlphanum Char.isAlpha Char.isUpper Char.isLower Char.isDigit at bounds
    simp only [Bool.or_eq_true, Bool.and_eq_true, decide_eq_true_eq, UInt32.le_iff_toNat_le,
      ge_iff_le] at bounds
    have upper : 'Z'.val.toNat = 90 := rfl
    have lower : 'z'.val.toNat = 122 := rfl
    have digit : '9'.val.toNat = 57 := rfl
    have toNat : c.toNat = c.val.toNat := rfl
    have nine : (57 : UInt32).toNat = 57 := rfl
    omega
  have eq : Char.ofNat c.toNat = c := Char.ofNat_toNat c
  rw [← eq] at alphanum ⊢
  exact h _ ascii alphanum

/-- A function that takes letters and their lower-case forms for the same does so with all
characters. -/
theorem Text.apply_toLower {α : Type} [DecidableEq α] {f : Char → α}
    (h : ∀ n < 128, (Char.ofNat n).isAlphanum = true →
      decide (f (Char.ofNat n).toLower = f (Char.ofNat n)) = true) (c : Char) :
    f c.toLower = f c := by
  by_cases upper : c.isUpper = true
  · have letter : c.isAlphanum = true :=
      Bool.or_eq_true_iff.mpr (.inl (Bool.or_eq_true_iff.mpr (.inl upper)))
    exact of_decide_eq_true
      (Text.forall_isAlphanum (p := fun c ↦ decide (f c.toLower = f c)) h letter)
  · have same : c.toLower = c := dif_neg fun bounds ↦ upper (decide_eq_true bounds)
    rw [same]

namespace Naming

/-- The characters of names: letters and digits of ASCII, and hyphens. -/
def isNameChar (c : Char) : Bool := c.isAlphanum || c == '-'

theorem isNameChar_of_isAlphanum {c : Char} (h : c.isAlphanum = true) : isNameChar c = true := by
  rw [isNameChar, h, Bool.true_or]

theorem isNameChar_toLower {c : Char} (h : c.isAlphanum = true) : isNameChar c.toLower = true :=
  Text.forall_isAlphanum (p := fun c ↦ isNameChar c.toLower) (by decide) h

/-- A property of letters, digits and the hyphen holds of all characters of names. -/
theorem of_isNameChar {p : Char → Bool} (hyphen : p '-' = true)
    (h : ∀ n < 128, (Char.ofNat n).isAlphanum = true → p (Char.ofNat n) = true) {c : Char}
    (name : isNameChar c = true) : p c = true := by
  rcases Bool.or_eq_true_iff.mp name with alphanum | eq
  · exact Text.forall_isAlphanum h alphanum
  · rw [eq_of_beq eq, hyphen]

/-- A text that is made of name characters. -/
abbrev Named : String → Prop := Text.Only isNameChar

theorem Named.plain {s : String} (h : Named s) : Text.Plain s :=
  fun c mem ↦ of_isNameChar rfl (by decide) (h c mem)

/-- Decimal digits are made of name characters. -/
theorem named_toString (n : Nat) : Named (toString n) := by
  intro c mem
  rw [Nat.toString_eq_ofList_toDigits, String.toList_ofList] at mem
  have digit := Nat.isDigit_of_mem_toDigits (by decide) (by decide) mem
  exact isNameChar_of_isAlphanum (by rw [Char.isAlphanum, digit, Bool.or_true])

end Naming

/-- Numbers are plain. -/
theorem Text.plain_toString (n : Nat) : Plain (toString n) := (Naming.named_toString n).plain

end Sitewright
