import Sitewright.Proofs.Image.Tags
import Sitewright.Proofs.Image.Tokens
import Sitewright.Proofs.Markup.Entities
import Sitewright.Proofs.Markup.Reading
import Sitewright.Proofs.Text.Numerals

/-!
# What the tag of a picture says

A picture is printed as one image tag, and a decoration as a tag that is none. The first source
attribute of the image tag holds the token of the picture, and its first alternative text is the
description, so the tag describes exactly its own picture
(`ImageLedger.described?_printImage`). Reading the description back gives it on one line.
-/

namespace Sitewright

open Markup

/-! ### Tokens -/

theorem isDigits_toDigits (n : Nat) : Piece.IsDigits (Nat.toDigits 10 n) := by
  refine ⟨Nat.toDigits_ne_nil, fun c mem ↦ ?_⟩
  have digit := Nat.isDigit_of_mem_toDigits (by decide) (by decide) mem
  have ascii : c.toNat < 128 := by
    simp only [Char.isDigit, Bool.and_eq_true, decide_eq_true_eq] at digit
    have le : c.val ≤ 57 := digit.2
    have le' : c.toNat ≤ 57 := le
    omega
  rw [Text.isDecimalDigit_of_lt ascii, digit]

theorem imageToken_eq (n : Nat) :
    imageToken n = String.ofList (imageTokenHead ++ Nat.toDigits 10 n) := by
  rw [imageToken, Nat.toString_eq_ofList_toDigits, String.ofList_append]
  rfl

theorem imageToken_toList (n : Nat) :
    (imageToken n).toList = imageTokenHead ++ Nat.toDigits 10 n := by
  rw [imageToken_eq, String.toList_ofList]

theorem imageToken_injective {n m : Nat} (h : imageToken n = imageToken m) : n = m := by
  have chars := congrArg String.toList h
  rw [imageToken_toList, imageToken_toList] at chars
  rw [← Nat.ofDigitChars_ten_toDigits (n := n), List.append_cancel_left chars,
    Nat.ofDigitChars_ten_toDigits]

theorem plain_imageToken (n : Nat) : Text.Plain (imageToken n) :=
  .after rfl (Text.plain_toString n)

namespace ImageLedger

theorem numberOf?_eq_some_iff {digits : List Char} {n : Nat} : numberOf? digits = some n ↔
    (∀ c ∈ digits, c.isDigit = true) ∧ Nat.ofDigitChars 10 digits 0 = n := by
  rw [numberOf?, Option.ite_none_right_eq_some, List.all_eq_true, Option.some.injEq,
    Nat.ofDigitChars_eq_foldl]

/-- The number of a token is read off its digits. -/
theorem numberOf?_toDigits (n : Nat) : numberOf? (Nat.toDigits 10 n) = some n :=
  numberOf?_eq_some_iff.mpr
    ⟨List.all_eq_true.mp (Text.all_isDigit_toDigits n), Nat.ofDigitChars_ten_toDigits⟩

end ImageLedger

namespace ImageTag

variable {cs value rest : List Char}

/-- The digits in a tag are those of its first token. -/
theorem map_digits? (tag : List Char) :
    (digits? tag).map (fun digits ↦ String.ofList (imageTokenHead ++ digits)) =
      (Piece.tokens tag).head? := by
  rw [digits?, Piece.tokens, List.head?_filterMap]
  induction Piece.ofChars tag with
  | nil => rfl
  | cons piece rest ih =>
    cases piece with
    | char c => exact ih
    | source digits => rfl

theorem digits?_eq_some {tag digits : List Char}
    (h : (Piece.tokens tag).head? = some (String.ofList (imageTokenHead ++ digits))) :
    digits? tag = some digits := by
  rw [← map_digits?] at h
  obtain ⟨found, hfound, eq⟩ := Option.map_eq_some_iff.mp h
  rw [String.ofList_inj, List.append_cancel_left_eq] at eq
  rw [hfound, eq]

/-- An alternative text starts with its name. -/
theorem alternativeFrom?_cons_of_ne {inWord : Bool} {c : Char} (h : c ≠ 'a') :
    alternativeFrom? inWord (c :: cs) = alternativeFrom? (Text.isWordChar c) cs := by
  have none : alternativeAt? (c :: cs) = none := by
    rw [alternativeAt?, Text.afterPhrase?, if_neg (Ne.symm h), Option.bind_none]
  rw [alternativeFrom?, none, ite_self]

/-- What stands before an alternative text and a gap is passed. -/
theorem alternativeFrom?_append {inWord : Bool} {before : List Char} {c : Char}
    (h : ∀ d ∈ before, d ≠ 'a') (gap : Text.isWordChar c = false) :
    alternativeFrom? inWord (before ++ c :: cs) = alternativeFrom? false cs := by
  induction before generalizing inWord with
  | nil =>
    have ne : c ≠ 'a' := by
      rintro rfl
      cases gap
    rw [List.nil_append, alternativeFrom?_cons_of_ne ne, gap]
  | cons d before ih =>
    obtain ⟨here, others⟩ := List.forall_mem_cons.mp h
    rw [List.cons_append, alternativeFrom?_cons_of_ne here, ih others]

/-- The value of an alternative text goes up to the next quote. -/
theorem alternativeFrom?_value (h : '"' ∉ value) (rest : List Char) :
    alternativeFrom? false (['a', 'l', 't', '=', '"'] ++ (value ++ '"' :: rest)) = some value := by
  have others : ∀ c ∈ value, (c != '"') = true :=
    fun c mem ↦ bne_iff_ne.mpr fun eq ↦ h (eq ▸ mem)
  have after : Text.afterPhrase? ['a', 'l', 't', '=', '"']
      (['a', 'l', 't', '=', '"'] ++ (value ++ '"' :: rest)) = some (value ++ '"' :: rest) :=
    Text.afterPhrase?_eq_some_iff.mpr rfl
  have taken : (value ++ '"' :: rest).takeWhile (· != '"') = value := by
    rw [List.takeWhile_append_of_pos others, List.takeWhile_cons_of_neg (by decide),
      List.append_nil]
  have here : alternativeAt? (['a', 'l', 't', '=', '"'] ++ (value ++ '"' :: rest)) =
      some value := by
    rw [alternativeAt?, after, Option.bind_some, taken]
    simp
  rw [List.cons_append] at here ⊢
  rw [alternativeFrom?, if_neg Bool.false_ne_true, here]

end ImageTag

/-! ### Tags of pictures -/

/-- The style classes of a request are plain. -/
structure ImageRequest.Plain (request : ImageRequest) : Prop where
  /-- Those of the picture. -/
  classes : Text.Plain request.classes
  /-- Those of the decoration. -/
  fallback : Text.Plain request.fallback

namespace Markup

variable {request : ImageRequest}

/-- The attributes of a picture. -/
def pictureAttributes (request : ImageRequest) (n : Nat) : List Attribute :=
  [.fixed "src" (imageToken n), .text "alt" request.description,
    .classes (request.classes ++ " object-cover"), .fixed "loading" "lazy"]

theorem printImage_some (request : ImageRequest) (n : Nat) :
    printImage ⟨request, some n⟩ = voidTag "img" (pictureAttributes request n) := rfl

theorem clean_pictureAttributes (h : request.Plain) (n : Nat) :
    Attribute.CleanAll (pictureAttributes request n) :=
  .cons (.ofFixed rfl (plain_imageToken n))
    (.cons (.ofText rfl) (.cons (.ofClasses (.before h.classes rfl)) (.single (.ofWord rfl rfl))))

/-- The attributes of a decoration. -/
def decorationAttributes (request : ImageRequest) : List Attribute :=
  [.classes (request.classes ++ " " ++ request.fallback), .fixed "role" "img",
    .text "aria-label" request.description]

theorem printImage_none (request : ImageRequest) :
    printImage ⟨request, none⟩ = voidTag "div" (decorationAttributes request) := rfl

theorem clean_decorationAttributes (h : request.Plain) :
    Attribute.CleanAll (decorationAttributes request) :=
  .cons (.ofClasses (.append (.before h.classes rfl) h.fallback))
    (.cons (.ofWord rfl rfl) (.single (.ofText rfl)))

/-- A picture is printed as one tag. -/
theorem isTag_printImage {picture : PlacedImage} (h : picture.request.Plain) :
    Text.IsTag (printImage picture).toList := by
  obtain ⟨request, number⟩ := picture
  cases number with
  | none =>
    rw [printImage_none]
    exact isTag_voidTag (.lit rfl) (clean_decorationAttributes h)
  | some n =>
    rw [printImage_some]
    exact isTag_voidTag (.lit rfl) (clean_pictureAttributes h n)

/-- The tag of a picture up to its alternative text. -/
theorem printImage_toList (request : ImageRequest) (n : Nat) :
    ∃ rest, (printImage ⟨request, some n⟩).toList =
      ['<', 'i', 'm', 'g', ' '] ++ (Piece.chars (.source (Nat.toDigits 10 n)) ++
        ' ' :: (['a', 'l', 't', '=', '"'] ++
          (attributeChars request.description.toList ++ '"' :: rest))) := by
  refine ⟨(printAttributes [.classes (request.classes ++ " object-cover"),
    .fixed "loading" "lazy"] ++ " />").toList, ?_⟩
  simp [printImage_some, voidTag, pictureAttributes, printAttributes, Attribute.print,
    Attribute.fixed, Attribute.text, Piece.chars, Piece.attributeOf, Piece.sourceHead,
    imageToken_toList, escapeAttribute, String.toList_append]

/-- The tag of a picture is an image tag. -/
theorem allIn_printImage_some (h : request.Plain) (n : Nat) :
    ImageTag.allIn (printImage ⟨request, some n⟩).toList =
      [(printImage ⟨request, some n⟩).toList] := by
  obtain ⟨rest, chars⟩ := printImage_toList request n
  refine ImageTag.allIn_eq_self (isTag_printImage h) ?_
  rw [chars]
  exact List.prefix_append ..

/-- The tag of a decoration is none. -/
theorem allIn_printImage_none (h : request.Plain) :
    ImageTag.allIn (printImage ⟨request, none⟩).toList = [] := by
  refine ImageTag.allIn_eq_nil (isTag_printImage h) ?_
  rintro ⟨rest, eq⟩
  rw [printImage_none, voidTag] at eq
  simp at eq

end Markup

/-! ### Image tags of trees -/

namespace Markup

variable {ι : Type} {tag : String} {attributes : List Attribute}

/-- A tag with another name is no image tag. -/
theorem not_image_prefix {rest : List Char} (name : isTagName tag.toList = true)
    (h : ∀ c, rest.head? = some c → c ∉ ['i', 'm', 'g']) :
    ¬ ['<', 'i', 'm', 'g'] <+: '<' :: (tag.toList ++ rest) := by
  intro image
  have other : ¬ ['i', 'm', 'g'] <+: tag.toList := by
    have parts := Bool.and_eq_true_iff.mp name
    rw [← List.isPrefixOf_iff_prefix, Bool.not_eq_true]
    exact (Bool.not_eq_true' _).mp parts.2
  have image := (List.cons_prefix_cons.mp image).2
  rcases List.prefix_or_prefix_of_prefix image (List.prefix_append tag.toList rest) with
    inside | ⟨more, eq⟩
  · exact other inside
  · cases more with
    | nil => exact other ⟨[], by rw [← eq, List.append_nil, List.append_nil]⟩
    | cons c more =>
      rw [← eq, List.prefix_append_right_inj] at image
      obtain ⟨after, rfl⟩ := image
      have mem : c ∈ ['i', 'm', 'g'] := eq ▸ List.mem_append_right _ List.mem_cons_self
      exact h c rfl mem

/-- What follows the name of a tag is a space, or the end of the tag. -/
theorem head?_printAttributes {rest : List Char}
    (h : ∀ c, rest.head? = some c → c ∉ ['i', 'm', 'g']) (attributes : List Attribute) :
    ∀ c, ((printAttributes attributes).toList ++ rest).head? = some c → c ∉ ['i', 'm', 'g'] := by
  cases attributes with
  | nil => exact h
  | cons a others =>
    intro c hc
    have space : ((printAttributes (a :: others)).toList ++ rest).head? = some ' ' := by
      simp [printAttributes, Attribute.print]
    rw [space] at hc
    rw [← Option.some.inj hc]
    decide

theorem allIn_openTag (name : isTagName tag.toList = true) (clean : Attribute.CleanAll attributes) :
    ImageTag.allIn (openTag tag attributes).toList = [] := by
  refine ImageTag.allIn_eq_nil (isTag_openTag (plain_of_isTagName name) clean) ?_
  rw [openTag_toList, List.append_assoc]
  exact not_image_prefix name (head?_printAttributes (by simp) attributes)

theorem allIn_voidTag (name : isTagName tag.toList = true) (clean : Attribute.CleanAll attributes) :
    ImageTag.allIn (voidTag tag attributes).toList = [] := by
  refine ImageTag.allIn_eq_nil (isTag_voidTag (plain_of_isTagName name) clean) ?_
  rw [voidTag_toList, List.append_assoc, List.append_assoc]
  exact not_image_prefix name (head?_printAttributes (by simp) attributes)

theorem allIn_closeTag (name : isTagName tag.toList = true) :
    ImageTag.allIn (closeTag tag).toList = [] := by
  refine ImageTag.allIn_eq_nil (isTag_closeTag (plain_of_isTagName name)) ?_
  rintro ⟨rest, eq⟩
  simp [closeTag] at eq

/-- **Image tags of a tree.** In clean markup without logos they are those of its pictures. -/
theorem Clean.found_allIn {ok : ι → Prop} {leaf : ι → String} {m : Markup ι}
    (h : Clean ok False m) :
    m.found ImageTag.allIn leaf =
      m.images.flatMap fun picture ↦ ImageTag.allIn (leaf picture).toList := by
  have all {ms : List (Markup ι)} (each : ∀ m ∈ ms, m.found ImageTag.allIn leaf =
      m.images.flatMap fun picture ↦ ImageTag.allIn (leaf picture).toList) :
      foundInAll ImageTag.allIn leaf ms =
        (imagesOfAll ms).flatMap fun picture ↦ ImageTag.allIn (leaf picture).toList := by
    induction ms with
    | nil => rfl
    | cons m rest ih =>
      obtain ⟨first, others⟩ := List.forall_mem_cons.mp each
      rw [foundInAll, imagesOfAll, List.flatMap_append, first, ih others]
  induction h with
  | text => exact ImageTag.allIn_eq_nil_of_notMem (bracket_notMem_escapeText _)
  | fixed plain =>
    refine ImageTag.allIn_eq_nil_of_notMem fun mem ↦ ?_
    cases plain _ mem
  | image allowed =>
    rw [images, List.flatMap_singleton]
    rfl
  | logo allowed => exact allowed.elim
  | void name clean => exact allIn_voidTag name clean
  | element name clean _ _ ih =>
    rw [found, allIn_openTag name clean, allIn_closeTag name, List.nil_append, List.append_nil,
      all ih, images]

end Markup

/-! ### Descriptions -/

namespace ImageTag

variable {request : ImageRequest}

theorem digits?_printImage (request : ImageRequest) (n : Nat) :
    digits? (printImage ⟨request, some n⟩).toList = some (Nat.toDigits 10 n) := by
  obtain ⟨rest, chars⟩ := printImage_toList request n
  have before : Piece.tokens ['<', 'i', 'm', 'g', ' '] = [] :=
    Piece.tokens_eq_nil_of_notMem (by decide)
  have apart : Text.Apart ['<', 'i', 'm', 'g', ' '] (Piece.chars (.source (Nat.toDigits 10 n)) ++
      ' ' :: (['a', 'l', 't', '=', '"'] ++
        (attributeChars request.description.toList ++ '"' :: rest))) :=
    .of_last (a := ['<', 'i', 'm', 'g']) (by decide)
  refine digits?_eq_some ?_
  rw [chars, Piece.tokens_append apart, before, List.nil_append, ← Piece.tokensFrom_false,
    Piece.tokensFrom_source (isDigits_toDigits n)]
  rfl

theorem description?_printImage (request : ImageRequest) (n : Nat) :
    description? (printImage ⟨request, some n⟩).toList = some (oneLine request.description) := by
  obtain ⟨rest, chars⟩ := printImage_toList request n
  have value : alternativeFrom? false (printImage ⟨request, some n⟩).toList =
      some (attributeChars request.description.toList) := by
    have others : ∀ c ∈ ['<', 'i', 'm', 'g', ' '] ++ Piece.chars (.source (Nat.toDigits 10 n)),
        c ≠ 'a' := by
      rintro c mem rfl
      have heads : 'a' ∉ ['<', 'i', 'm', 'g', ' '] ++ (Piece.sourceHead ++ imageTokenHead) := by
        decide
      have digits : 'a' ∉ Nat.toDigits 10 n := fun mem ↦ by
        cases Nat.isDigit_of_mem_toDigits (by decide) (by decide) mem
      rw [Piece.chars_source, ← List.append_assoc] at mem
      rcases List.mem_append.mp mem with mem | mem
      · exact heads mem
      · exact digits (by simpa using mem)
    rw [chars, ← List.append_assoc, alternativeFrom?_append others (by decide)]
    refine alternativeFrom?_value (fun mem ↦ ?_) rest
    cases isQuotable_of_mem_attributeChars _ mem
  rw [description?, value, Option.map_some, unescapeChars_attributeChars]
  rfl

end ImageTag

/-- A text on one line is blank only if it was blank before. -/
theorem isBlank_oneLine (s : String) : Text.isBlank (oneLine s) = Text.isBlank s := by
  have same (c : Char) : Text.isSpace (onLine c) = Text.isSpace c := by
    rw [onLine]
    split
    · rename_i h
      rcases h with rfl | rfl | rfl <;> decide
    · rfl
  rw [Text.isBlank, Text.isBlank, oneLine, String.toList_ofList, List.all_map]
  exact congrArg (List.all _) (funext same)

/-- **The tag of a picture describes the picture.** -/
theorem ImageLedger.described?_printImage {ledger : ImageLedger} (request : ImageRequest) {n : Nat}
    (minted : 1 ≤ n ∧ n ≤ ledger.minted) : ledger.described? (printImage ⟨request, some n⟩).toList =
      if Text.isBlank request.description then none
      else some (imageToken n, oneLine request.description) := by
  have isMinted : ledger.isMinted (Nat.toDigits 10 n) = true := by
    rw [ImageLedger.isMinted, numberOf?_toDigits]
    simpa using minted
  rw [described?, ImageTag.digits?_printImage, Option.bind_some, if_pos isMinted,
    ImageTag.description?_printImage, Text.unlessBlank, ← imageToken_eq, Option.filter_some,
    isBlank_oneLine]
  cases Text.isBlank request.description <;> rfl

end Sitewright
