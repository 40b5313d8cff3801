import Sitewright.Image.Ledger
import Sitewright.Proofs.Text.Tidy

/-!
# Where image tags stand

The image tags of a tidy text are decided tag by tag: a bracket opens an image tag if the characters
after it say so, up to the next closing bracket, and nothing before the tag or after it matters. So
finding image tags is a reader in the sense of `Text.Reader` (`ImageTag.reader_allIn`), and on a
text that is one tag it finds that tag or nothing (`ImageTag.allIn_eq_self`,
`ImageTag.allIn_eq_nil`).
-/

namespace Sitewright.ImageTag

variable {cs body rest a b : List Char}

/-- Whether what stands between the brackets of a tag makes it an image tag. -/
def isImage (body : List Char) : Bool :=
  (Text.afterPhrase? ['i', 'm', 'g'] body).any fun rest ↦ !rest.head?.any Text.isWordChar

/-- An image tag starts with a bracket. -/
theorem at?_eq_none_of_ne {c : Char} (h : c ≠ '<') : at? (c :: cs) = none := by
  rw [at?, Text.afterPhrase?, if_neg (Ne.symm h), Option.bind_none]

/-- The closing bracket is not part of the phrase, so the phrase stands before it or nowhere. -/
theorem afterPhrase?_append (body rest : List Char) :
    Text.afterPhrase? ['i', 'm', 'g'] (body ++ '>' :: rest) =
      (Text.afterPhrase? ['i', 'm', 'g'] body).map (· ++ '>' :: rest) := by
  cases found : Text.afterPhrase? ['i', 'm', 'g'] body with
  | some more =>
    rw [Option.map_some, Text.afterPhrase?_eq_some_iff, Text.afterPhrase?_eq_some_iff.mp found,
      List.append_assoc]
  | none =>
    rw [Option.map_none, Option.eq_none_iff_forall_ne_some] at *
    intro after h
    have eq := Text.afterPhrase?_eq_some_iff.mp h
    rcases List.append_eq_append_iff.mp eq with ⟨x, img, border⟩ | ⟨x, img, -⟩
    · cases x with
      | nil => exact found [] (Text.afterPhrase?_eq_some_iff.mpr (by simpa using img.symm))
      | cons c x =>
        obtain ⟨rfl, -⟩ := List.cons.inj border
        have mem : '>' ∈ ['i', 'm', 'g'] := img ▸ List.mem_append_right _ List.mem_cons_self
        exact absurd mem (by decide)
    · exact found x (Text.afterPhrase?_eq_some_iff.mpr img)

/-- Whether a tag is an image tag is decided by what stands between its brackets. -/
theorem at?_tag (h : Text.IsBody body) (rest : List Char) :
    at? ('<' :: (body ++ '>' :: rest)) =
      if isImage body then some ('<' :: (body ++ ['>'])) else none := by
  have after : Text.afterPhrase? ['<', 'i', 'm', 'g'] ('<' :: (body ++ '>' :: rest)) =
      (Text.afterPhrase? ['i', 'm', 'g'] body).map (· ++ '>' :: rest) :=
    afterPhrase?_append body rest
  rw [at?, after, isImage]
  cases found : Text.afterPhrase? ['i', 'm', 'g'] body with
  | none => rfl
  | some more =>
    have eq := Text.afterPhrase?_eq_some_iff.mp found
    have others : ∀ c ∈ more, (c != '>') = true := by
      intro c mem
      have here := Text.isInert_iff.mp (h.inert c (eq ▸ List.mem_append_right _ mem))
      exact bne_iff_ne.mpr here.2.2.2
    have head : (more ++ '>' :: rest).head?.any Text.isWordChar =
        more.head?.any Text.isWordChar := by
      cases more with
      | nil => rfl
      | cons c more => rfl
    have tag : (more ++ '>' :: rest).takeWhile (· != '>') = more := by
      rw [List.takeWhile_append_of_pos others, List.takeWhile_cons_of_neg (by decide),
        List.append_nil]
    rw [Option.map_some, Option.bind_some, head, tag, eq]
    cases word : more.head?.any Text.isWordChar <;> simp [word]

theorem allIn_cons_of_ne {c : Char} (h : c ≠ '<') : allIn (c :: cs) = allIn cs := by
  rw [allIn, scan, at?_eq_none_of_ne h]
  rfl

theorem allIn_tag (h : Text.IsBody body) (rest : List Char) :
    allIn ('<' :: (body ++ '>' :: rest)) =
      (if isImage body then ['<' :: (body ++ ['>'])] else []) ++ allIn rest := by
  have skipped (taken : List Char) : scan taken.length (taken ++ rest) = allIn rest := by
    induction taken with
    | nil => rfl
    | cons c taken ih => exact ih
  have passed {taken : List Char} (ne : ∀ c ∈ taken, c ≠ '<') :
      allIn (taken ++ rest) = allIn rest := by
    induction taken with
    | nil => rfl
    | cons c taken ih =>
      obtain ⟨here, others⟩ := List.forall_mem_cons.mp ne
      rw [List.cons_append, allIn_cons_of_ne here, ih others]
  have whole : body ++ '>' :: rest = (body ++ ['>']) ++ rest := by simp
  rw [allIn, scan, at?_tag h]
  by_cases image : isImage body = true
  · rw [if_pos image, if_pos image, whole]
    have length : ('<' :: (body ++ ['>'])).length - 1 = (body ++ ['>']).length := rfl
    simp only
    rw [length, skipped]
    rfl
  · rw [if_neg image, if_neg image, whole]
    refine passed fun c mem ↦ ?_
    rcases List.mem_append.mp mem with mem | mem
    · exact (Text.isInert_iff.mp (h.inert c mem)).2.2.1
    · rw [List.mem_singleton.mp mem]
      decide

/-- Finding image tags ignores blanks, and needs no more than tidiness. -/
theorem reader_allIn : Text.Reader allIn where
  nil := rfl
  blank c cs h := by
    rcases h with rfl | rfl | rfl <;> exact allIn_cons_of_ne (by decide)
  append tidy _ := by
    clear * - tidy
    induction tidy with
    | nil => rfl
    | char ne _ ih => rw [List.cons_append, allIn_cons_of_ne ne, ih, allIn_cons_of_ne ne]
    | @tag body _ isBody _ ih =>
      rw [List.cons_append, List.append_assoc, List.cons_append, allIn_tag isBody, ih,
        allIn_tag isBody, List.append_assoc]

/-- Without a bracket there is no image tag. -/
theorem allIn_eq_nil_of_notMem (h : '<' ∉ cs) : allIn cs = [] := by
  induction cs with
  | nil => rfl
  | cons c cs ih =>
    obtain ⟨ne, others⟩ := not_or.mp (mt List.mem_cons.mpr h)
    rw [allIn_cons_of_ne (Ne.symm ne), ih others]

/-- A tag that does not start as an image tag is none. -/
theorem allIn_eq_nil (h : Text.IsTag cs) (other : ¬ ['<', 'i', 'm', 'g'] <+: cs) :
    allIn cs = [] := by
  obtain ⟨body, isBody, rfl⟩ := h
  have none : isImage body = false := by
    rw [isImage]
    cases found : Text.afterPhrase? ['i', 'm', 'g'] body with
    | none => rfl
    | some more =>
      rw [Text.afterPhrase?_eq_some_iff.mp found] at other
      exact absurd (List.prefix_append ['<', 'i', 'm', 'g'] (more ++ ['>'])) other
  rw [allIn_tag isBody, none]
  rfl

/-- A tag whose name is that of an image tag is one. -/
theorem allIn_eq_self (h : Text.IsTag cs) (image : ['<', 'i', 'm', 'g', ' '] <+: cs) :
    allIn cs = [cs] := by
  obtain ⟨body, isBody, rfl⟩ := h
  obtain ⟨rest, eq⟩ := image
  have after : (Text.afterPhrase? ['i', 'm', 'g'] body).map (· ++ ['>']) = some (' ' :: rest) := by
    rw [← afterPhrase?_append, Text.afterPhrase?_eq_some_iff]
    exact (List.cons.inj eq).2.symm
  obtain ⟨more, found, border⟩ := Option.map_eq_some_iff.mp after
  have isImage : isImage body = true := by
    rw [ImageTag.isImage, found]
    cases more with
    | nil => cases (List.cons.inj border).1
    | cons c more =>
      rw [(List.cons.inj border).1]
      rfl
  rw [allIn_tag isBody, if_pos isImage]
  rfl

end Sitewright.ImageTag
