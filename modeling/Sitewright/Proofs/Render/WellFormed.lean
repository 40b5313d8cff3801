import Sitewright.Proofs.Image.Pictures
import Sitewright.Proofs.Markup.Jsx
import Sitewright.Proofs.Naming.Names
import Sitewright.Proofs.Render.Section

/-!
# Well-formed components

Whatever the texts of a configuration are, the components that are drawn from it are well formed
when they are read as JSX (`components_wellFormed`). Their trees are clean, and what is read of
clean markup is the tree; so a text contributes the characters of its escaped form, or one value of
one attribute, and no tag.
-/

namespace Sitewright

open Markup

/-! ### Pictures -/

/-- What a placed picture is read as: one tag. -/
def PlacedImage.jsx (picture : PlacedImage) : List Jsx.Token :=
  match imageElement picture with
  | .void tag attributes => [.void tag (attributes.map Attribute.property)]
  | _ => []

section Pictures

variable {picture : PlacedImage}

/-- A picture is an element without children. -/
theorem exists_printImage (h : picture.request.Plain) : ∃ tag attributes,
    printImage picture = voidTag tag attributes ∧
      picture.jsx = [.void tag (attributes.map Attribute.property)] ∧
      tag.toList ≠ [] ∧ Naming.Named tag ∧ Attribute.CleanAll attributes := by
  obtain ⟨request, number⟩ := picture
  cases number with
  | none => exact ⟨"div", decorationAttributes request, printImage_none request, rfl, by decide,
      .lit rfl, clean_decorationAttributes h⟩
  | some n => exact ⟨"img", pictureAttributes request n, printImage_some request n, rfl, by decide,
      .lit rfl, clean_pictureAttributes h n⟩

theorem lex_printImage (h : picture.request.Plain) :
    Jsx.lex (printImage picture).toList = picture.jsx := by
  obtain ⟨tag, attributes, printed, read, name, named, clean⟩ := exists_printImage h
  rw [printed, read, lex_voidTag name named clean]

theorem nests_picture (h : picture.request.Plain) (pending : List String)
    (rest : List Jsx.Token) :
    Jsx.nests pending (picture.jsx ++ rest) = Jsx.nests pending rest := by
  obtain ⟨tag, attributes, -, read, name, named, clean⟩ := exists_printImage h
  rw [read, List.singleton_append, Jsx.nests, isSound_tag name named clean, Bool.true_and]

end Pictures

/-! ### Components -/

/-- That the source text of a component is the function of its name around an element that is well
formed: read as JSX, it is the tags and the escaped texts of the tree, and they nest. -/
def Component.WellFormed (c : Component PlacedImage) : Prop :=
  ∃ body : String, c.source = opening c ++ body ++ closing ∧
    Jsx.lex body.toList = c.root.jsx PlacedImage.jsx ∧ Jsx.nests [] (Jsx.lex body.toList) = true

/-- Components of clean markup are well formed, whatever number their first picture has. -/
theorem Component.wellFormed_place {c : Component ImageRequest} {logos : Prop}
    (h : Clean ImageRequest.Plain logos c.root) (cap before : Nat) :
    (c.place cap before).1.WellFormed := by
  have placed : Clean (fun picture : PlacedImage ↦ picture.request.Plain) logos
      (c.place cap before).1.root := h.place (fun _ _ plain ↦ plain) before
  have read : Jsx.lex ((c.place cap before).1.root.print printImage 4).toList =
      (c.place cap before).1.root.jsx PlacedImage.jsx :=
    ((placed.reads Jsx.reader_lex fun _ plain ↦ isTag_printImage plain).found 4).trans
      (placed.found_lex fun _ plain ↦ lex_printImage plain)
  refine ⟨(c.place cap before).1.root.print printImage 4, ?_, read, ?_⟩
  · have chars := print_component printImage (c.place cap before).1
    rw [← String.toList_inj, String.toList_append, String.toList_append, List.append_assoc]
    exact chars
  · have nests := placed.nests_append (fun _ plain ↦ nests_picture plain) [] []
    rw [List.append_nil] at nests
    rw [read, nests]
    rfl

/-- **Generated markup is well formed whatever the texts.** Every section that is not given code,
the navigation bar, the hero and the footer are drawn as components whose source text, read as JSX,
has properly nested tags, the quoted values that were to be written, and between the tags the
characters of the escaped texts, none of which is a bracket or a brace. -/
theorem components_wellFormed (theme : Theme) (business : Business) (cap before : Nat) (slot : Slot)
    (nav : Nav) (hero : Hero) (footer : Footer) {s : Section} (supported : s.kind ≠ .custom) :
    let setting : Setting := ⟨theme.styles, business⟩
    (∃ c, ((s.source setting slot.name slot.anchor).place cap before).1 = .drawn c ∧
        c.WellFormed) ∧
      ((nav.component setting).place cap before).1.WellFormed ∧
      ((hero.component setting).place cap before).1.WellFormed ∧
      ((footer.component setting).place cap before).1.WellFormed := by
  intro setting
  have styles : setting.styles.Plain := theme.plain_styles
  have heroClean : Clean ImageRequest.Plain False (hero.component setting).root :=
    Hero.clean_component styles hero
  refine ⟨?_, Component.wellFormed_place (Nav.clean_component styles nav) cap before,
    Component.wellFormed_place heroClean cap before,
    Component.wellFormed_place (Footer.clean_component styles footer) cap before⟩
  rcases Section.source_cases styles slot.named_anchor.plain slot.name s with
    ⟨code, given⟩ | ⟨c, drawn, -, clean⟩
  · cases s with
    | custom => exact absurd rfl supported
    | _ => cases given
  · rw [drawn]
    exact ⟨_, rfl, Component.wellFormed_place clean cap before⟩

/-- A question and an answer that would leave their places if they could. -/
def Faq.hostile : Faq :=
  ⟨.accordion, "</h2><script>", some "\x7balert(1)\x7d",
    [⟨"\" onClick=\"", "<img src=\"IMG_1\" />"⟩]⟩

theorem components_wellFormed_hostile : (Section.faq .hostile).kind ≠ .custom ∧
    ∃ c, (((Section.faq .hostile).source ⟨Theme.default.styles, ⟨"Fixture Co", "", "", none, none,
      none, none, some "x\" onError=\"y"⟩⟩ "Faq" "faq").place 6 0).1 = .drawn c ∧ c.WellFormed :=
  have supported : (Section.faq .hostile).kind ≠ .custom := by decide
  ⟨supported, (components_wellFormed .default ⟨"Fixture Co", "", "", none, none, none, none,
    some "x\" onError=\"y"⟩ 6 0 ⟨0, "Faq", 1⟩ .default
    ⟨.centered, "Hello", "", ⟨"Go", "#"⟩, none, ""⟩ .default supported).1⟩

end Sitewright
