import Sitewright.Proofs.Image.Pictures
import Sitewright.Proofs.Render.Section

/-!
# Tokens in markup

A source attribute with a token can come into being in a generated text at four places: where a
picture is printed, and where a configuration writes what looks like one, in a text between tags, as
the address of a logo, or in given code. The first are the pictures of a tree; the others are its
*copy* (`Markup.copyTokens`). Nothing else can: attributes end in the quote that they start with,
and the names of all but source attributes end differently.

So the tokens of printed markup are those of its pictures and those of its copy, each as often as it
appears there (`Markup.Clean.count_tokens`).
-/

namespace Sitewright

open Markup

/-! ### Attributes -/

/-- What stands between the quotes of a value, if it has any. -/
def AttributeValue.quoted? : AttributeValue → Option (List Char)
  | flag | expression _ => none
  | fixed s => some s.toList
  | text s => some (escapeAttribute s).toList
  | link s => some (Markup.link s).toList

namespace Attribute

variable {a : Attribute} {q : List Char}

/-- The token in an attribute: that of a source attribute, as its whole value. -/
def tokens (a : Attribute) : List String :=
  if a.name = "src" then (a.value.quoted?.bind Piece.whole?).toList else []

theorem chars_of_quoted? (h : a.value.quoted? = some q) :
    a.chars = (a.name.toList ++ ['=']) ++ '"' :: (q ++ ['"']) := by
  obtain ⟨name, value⟩ := a
  rw [chars, List.append_assoc, List.singleton_append]
  cases value with
  | flag => cases h
  | expression => cases h
  | fixed => exact Option.some.inj h ▸ rfl
  | text => exact Option.some.inj h ▸ rfl
  | link => exact Option.some.inj h ▸ rfl

namespace Clean

theorem quote_notMem_of_quoted? (h : a.Clean) (quoted : a.value.quoted? = some q) : '"' ∉ q := by
  obtain ⟨name, value⟩ := a
  cases value with
  | flag => cases quoted
  | expression => cases quoted
  | fixed s => exact Option.some.inj quoted ▸ (h.fixed s rfl).quote_notMem
  | text s => exact Option.some.inj quoted ▸ (quotable_escapeAttribute s).quote_notMem
  | link s => exact Option.some.inj quoted ▸ (quotable_link s).quote_notMem

theorem quote_notMem_of_quoted?_eq_none (h : a.Clean) (none : a.value.quoted? = none) :
    '"' ∉ a.chars := by
  have name := h.plain_name.quote_notMem
  obtain ⟨_, value⟩ := a
  rw [chars, List.mem_append, not_or]
  refine ⟨name, ?_⟩
  cases value with
  | flag => exact List.not_mem_nil
  | expression s =>
    have plain := (h.expression s rfl).quote_notMem
    simp [AttributeValue.chars, plain]
  | _ => cases none

/-- A name that ends like the one of a source attribute is that one. -/
theorem eq_src_of_suffix (h : a.Clean) (ends : ['s', 'r', 'c', '='] <:+ a.name.toList ++ ['=']) :
    a.name = "src" := by
  have ends : ['s', 'r', 'c'] <:+ a.name.toList := by
    obtain ⟨before, eq⟩ := ends
    have split : before ++ ['s', 'r', 'c', '='] = (before ++ ['s', 'r', 'c']) ++ ['='] := by simp
    rw [split] at eq
    exact ⟨before, List.append_cancel_right eq⟩
  have name := (Bool.and_eq_true_iff.mp h.name).2
  rw [List.isSuffixOf_iff_suffix.mpr ends, Bool.not_true, Bool.or_false, beq_iff_eq] at name
  rw [← String.ofList_toList (s := a.name), name]

/-- **An attribute holds a token only as the address of a source.** -/
theorem tokens_chars (h : a.Clean) : Piece.tokens a.chars = a.tokens := by
  rw [tokens]
  cases quoted : a.value.quoted? with
  | none =>
    rw [Piece.tokens_eq_nil_of_notMem (h.quote_notMem_of_quoted?_eq_none quoted), Option.bind_none,
      Option.toList_none, ite_self]
  | some q =>
    have value := h.quote_notMem_of_quoted? quoted
    rw [chars_of_quoted? quoted, Option.bind_some]
    split
    · rename_i src
      rw [src]
      exact Piece.tokens_attributeOf value
    · rename_i other
      have name : '"' ∉ a.name.toList ++ ['='] := by
        simpa using h.plain_name.quote_notMem
      exact Piece.tokens_quoted_eq_nil name value (other ∘ h.eq_src_of_suffix)

end Clean

end Attribute

/-! ### Tags -/

namespace Markup

section Tags

variable {tag : String} {attributes : List Attribute} {rest : List Char}

/-- Every attribute stands after a blank. -/
theorem head?_printAttributes_append (h : ∀ c, rest.head? = some c → Text.isGap c = true)
    (attributes : List Attribute) :
    ∀ c, ((printAttributes attributes).toList ++ rest).head? = some c → Text.isGap c = true := by
  rw [printAttributes_toList]
  cases attributes with
  | nil => exact h
  | cons a others =>
    intro c head
    rw [List.flatMap_cons, a.print_toList] at head
    rw [← Option.some.inj head]
    rfl

theorem tokens_printAttributes (clean : Attribute.CleanAll attributes)
    (h : ∀ c, rest.head? = some c → Text.isGap c = true) :
    Piece.tokens ((printAttributes attributes).toList ++ rest) =
      attributes.flatMap Attribute.tokens ++ Piece.tokens rest := by
  induction attributes with
  | nil => rfl
  | cons a others ih =>
    obtain ⟨first, later⟩ := List.forall_mem_cons.mp clean
    have next := head?_printAttributes_append h others
    have chars : (printAttributes (a :: others)).toList ++ rest =
        ' ' :: (a.chars ++ ((printAttributes others).toList ++ rest)) := by
      simp [printAttributes_toList, a.print_toList]
    rw [chars, Piece.tokens_cons_of_isGap rfl, Piece.tokens_append (.inr next), first.tokens_chars,
      ih later, List.flatMap_cons, List.append_assoc]

/-- The tokens between the brackets of a tag are those of its attributes. -/
theorem tokens_tag (named : Naming.Named tag) (clean : Attribute.CleanAll attributes)
    (h : ∀ c, rest.head? = some c → Text.isGap c = true) :
    Piece.tokens ('<' :: (tag.toList ++ ((printAttributes attributes).toList ++ rest))) =
      attributes.flatMap Attribute.tokens ++ Piece.tokens rest := by
  have name := Piece.tokens_eq_nil_of_notMem named.plain.quote_notMem
  rw [Piece.tokens_cons_of_isGap rfl, Piece.tokens_append (.inr (head?_printAttributes_append h _)),
    name, List.nil_append, tokens_printAttributes clean h]

theorem tokens_openTag (named : Naming.Named tag) (clean : Attribute.CleanAll attributes) :
    Piece.tokens (openTag tag attributes).toList = attributes.flatMap Attribute.tokens := by
  have last : ∀ c, ['>'].head? = some c → Text.isGap c = true := by
    rintro _ ⟨⟩
    rfl
  rw [openTag_toList, List.append_assoc, tokens_tag named clean last,
    Piece.tokens_eq_nil_of_notMem (by decide), List.append_nil]

theorem tokens_voidTag (named : Naming.Named tag) (clean : Attribute.CleanAll attributes) :
    Piece.tokens (voidTag tag attributes).toList = attributes.flatMap Attribute.tokens := by
  have last : ∀ c, [' ', '/', '>'].head? = some c → Text.isGap c = true := by
    rintro _ ⟨⟩
    rfl
  rw [voidTag_toList, List.append_assoc, List.append_assoc]
  refine (tokens_tag named clean last).trans ?_
  rw [Piece.tokens_eq_nil_of_notMem (by decide), List.append_nil]

theorem tokens_closeTag (named : Naming.Named tag) : Piece.tokens (closeTag tag).toList = [] := by
  refine Piece.tokens_eq_nil_of_notMem fun mem ↦ ?_
  rw [closeTag_toList] at mem
  simp [named.plain.quote_notMem] at mem

end Tags

/-! ### Trees -/

mutual

/-- The tokens in the copy of a tree: in its texts, as they are written, and in the addresses of its
logos. -/
def copyTokens {ι : Type} : Markup ι → List String
  | text s => Piece.tokens (escapeText s).toList
  | fixed _ | image _ => []
  | void _ attributes => attributes.flatMap Attribute.tokens
  | element _ attributes _ children =>
    attributes.flatMap Attribute.tokens ++ copyTokensOfAll children

/-- The tokens in the copy of several trees. -/
def copyTokensOfAll {ι : Type} : List (Markup ι) → List String
  | [] => []
  | m :: rest => copyTokens m ++ copyTokensOfAll rest

end

end Markup

/-- The token of a picture, if it has a number. -/
def PlacedImage.token? (picture : PlacedImage) : Option String := picture.number.map imageToken

namespace Markup

/-- A picture writes its own token, and nothing else. -/
theorem tokens_printImage {picture : PlacedImage} (h : picture.request.Plain) :
    Piece.tokens (printImage picture).toList = picture.token?.toList := by
  obtain ⟨request, number⟩ := picture
  cases number with
  | none =>
    rw [printImage_none, tokens_voidTag (.lit rfl) (clean_decorationAttributes h)]
    rfl
  | some n =>
    have own : (Piece.digitsAt? (Piece.attributeOf (imageToken n).toList)) =
        some (Nat.toDigits 10 n) := by
      rw [imageToken_toList]
      exact Piece.digitsAt?_eq_some_iff.mpr ⟨isDigits_toDigits n, List.prefix_rfl⟩
    have whole : Piece.whole? (imageToken n).toList = some (imageToken n) := by
      rw [Piece.whole?, own, Option.map_some, imageToken_eq]
    rw [printImage_some, tokens_voidTag (.lit rfl) (clean_pictureAttributes h n)]
    show (Piece.whole? (imageToken n).toList).toList ++ [] = _
    rw [whole]
    rfl

/-- **Tokens of a tree.** Each is written by a picture or stands in the copy. -/
theorem Clean.count_tokens {logos : Prop} {m : Markup PlacedImage}
    (h : Clean (fun picture ↦ picture.request.Plain) logos m) (token : String) :
    (m.found Piece.tokens printImage).count token =
      (m.images.filterMap PlacedImage.token?).count token + m.copyTokens.count token := by
  have all {ms : List (Markup PlacedImage)} (each : ∀ m ∈ ms,
      (m.found Piece.tokens printImage).count token =
        (m.images.filterMap PlacedImage.token?).count token + m.copyTokens.count token) :
      (foundInAll Piece.tokens printImage ms).count token =
        ((imagesOfAll ms).filterMap PlacedImage.token?).count token +
          (copyTokensOfAll ms).count token := by
    induction ms with
    | nil => rfl
    | cons m rest ih =>
      obtain ⟨first, others⟩ := List.forall_mem_cons.mp each
      have later := ih others
      rw [foundInAll, imagesOfAll, copyTokensOfAll, List.filterMap_append, List.count_append,
        List.count_append, List.count_append]
      omega
  induction h with
  | text => simp [found, images, copyTokens]
  | fixed plain =>
    rw [found, Piece.tokens_eq_nil_of_notMem plain.quote_notMem]
    rfl
  | @image picture allowed =>
    rw [found, tokens_printImage allowed, images, copyTokens, List.count_nil, Nat.add_zero]
    cases own : picture.token? <;> simp [own]
  | logo _ clean =>
    rw [found, tokens_voidTag (.lit rfl) clean]
    simp [images, copyTokens]
  | void name clean =>
    rw [found, tokens_voidTag (named_of_isTagName name) clean]
    simp [images, copyTokens]
  | element name clean _ _ ih =>
    have children := all ih
    rw [found, tokens_openTag (named_of_isTagName name) clean,
      tokens_closeTag (named_of_isTagName name), images, copyTokens, List.append_nil,
      List.count_append, List.count_append]
    omega

end Markup

/-! ### Components -/

namespace Markup

mutual

/-- Placing pictures leaves the copy alone. -/
theorem copyTokens_place (cap before : Nat) (m : Markup ImageRequest) :
    (m.place cap before).1.copyTokens = m.copyTokens := by
  cases m with
  | element tag attributes flow children =>
    rw [place, copyTokens, copyTokens, copyTokensOfAll_placeAll]
  | _ => rfl

theorem copyTokensOfAll_placeAll (cap before : Nat) (ms : List (Markup ImageRequest)) :
    copyTokensOfAll (placeAll cap before ms).1 = copyTokensOfAll ms := by
  cases ms with
  | nil => rfl
  | cons m rest =>
    rw [placeAll, copyTokensOfAll, copyTokensOfAll, copyTokens_place, copyTokensOfAll_placeAll]

end

end Markup

/-- The tokens of a component are those of its pictures and those in its copy. -/
theorem Component.count_tokens {c : Component PlacedImage} {logos : Prop} (name : Text.Plain c.name)
    (h : Clean (fun picture ↦ picture.request.Plain) logos c.root) (token : String) :
    (Piece.tokens c.source.toList).count token =
      (c.root.images.filterMap PlacedImage.token?).count token + c.root.copyTokens.count token := by
  have reads := reads_component Piece.reader_tokens
    (fun cs _ quote ↦ Piece.tokens_eq_nil_of_notMem quote)
    (fun _ plain ↦ isTag_printImage plain) name h
  have found : Piece.tokens c.source.toList = c.root.found Piece.tokens printImage := reads.2
  rw [found, h.count_tokens]

namespace SectionSource

/-- The tokens in the copy of a source: given code is copy as a whole. -/
def copyTokens {ι : Type} : SectionSource ι → List String
  | drawn c => c.root.copyTokens
  | given code => Piece.tokens code.toList

/-- The line end that given code may get holds no token. -/
theorem tokens_text_given (code : String) :
    Piece.tokens (given code : SectionSource PlacedImage).text.toList =
      Piece.tokens code.toList := by
  rw [text, print]
  split
  · rfl
  · have apart : Text.Apart code.toList "\n".toList := .of_head (by decide)
    rw [String.toList_append, Piece.tokens_append apart]
    exact List.append_nil _

/-- A source is given code, or a component that is drawn as clean markup. -/
def IsClean (source : SectionSource ImageRequest) : Prop :=
  (∃ code, source = .given code) ∨ ∃ c, source = .drawn c ∧ Text.Plain c.name ∧
    Clean ImageRequest.Plain True c.root

/-- The tokens of a placed source are those of its pictures and those in its copy. -/
theorem count_tokens {source : SectionSource ImageRequest} (h : source.IsClean) (cap before : Nat)
    (token : String) : (Piece.tokens (source.place cap before).1.text.toList).count token =
      ((source.place cap before).1.images.filterMap PlacedImage.token?).count token +
        source.copyTokens.count token := by
  rcases h with ⟨code, rfl⟩ | ⟨c, rfl, name, clean⟩
  · have text := tokens_text_given code
    rw [place, text, images, copyTokens, List.filterMap_nil, List.count_nil, Nat.zero_add]
  · have placed : Clean (fun picture : PlacedImage ↦ picture.request.Plain) True
        (c.place cap before).1.root := clean.place (fun _ _ plain ↦ plain) before
    have copy : (c.place cap before).1.root.copyTokens = c.root.copyTokens :=
      copyTokens_place cap before c.root
    have count := Component.count_tokens (c := (c.place cap before).1) name placed token
    rw [copy] at count
    exact count

end SectionSource

end Sitewright
