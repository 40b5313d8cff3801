import Sitewright.Markup.Basic
import Sitewright.Proofs.Text.Plain

/-!
# Clean markup

Printed markup can be read back because of what its tree is made of, and `Markup.Clean` says what
that is. Its parts are of two kinds. Texts of a configuration may be anything, since they are
escaped; what the library writes itself has to be plain. Leaves that stand side by side have a gap
between them. The predicate leaves open which pictures a tree may hold, and whether it may hold
image tags that are not pictures, as logos are.

For each way to build a tree there is a lemma that builds its cleanness, under the name of the
builder, so that a renderer is clean by a term of the same shape as the renderer. Placing pictures
keeps a tree clean (`Markup.Clean.place`).
-/

namespace Sitewright

/-! ### Attributes -/

namespace Markup

theorem isQuotable_of_mem_attributeChar {c d : Char} (h : d ∈ attributeChar c) :
    Text.isQuotable d = true := by
  have quotable : (attributeChar c).all Text.isQuotable = true := by
    unfold attributeChar
    split
    case h_8 amp quote less greater feed ret _ =>
      rw [List.all_cons, List.all_nil, Bool.and_true, Text.isQuotable_iff, Text.isInert_iff]
      exact ⟨⟨feed, ret, less, greater⟩, quote⟩
    all_goals rfl
  exact List.all_eq_true.mp quotable d h

/-- What is written into an attribute does not end it, whatever it was. -/
theorem isQuotable_of_mem_attributeChars {cs : List Char} :
    ∀ c ∈ attributeChars cs, Text.isQuotable c = true := by
  intro c mem
  obtain ⟨d, -, mem⟩ := List.mem_flatMap.mp mem
  exact isQuotable_of_mem_attributeChar mem

/-- What is written between tags opens none, whatever it was. -/
theorem bracket_notMem_escapeText (s : String) : '<' ∉ (escapeText s).toList := by
  intro mem
  rw [escapeText, String.toList_ofList] at mem
  obtain ⟨c, -, mem⟩ := List.mem_flatMap.mp mem
  exact (ne_of_mem_textChar mem).1 rfl

theorem quotable_escapeAttribute (s : String) : Text.Quotable (escapeAttribute s) := by
  intro c mem
  rw [escapeAttribute, String.toList_ofList] at mem
  exact isQuotable_of_mem_attributeChars c mem

theorem quotable_link (s : String) : Text.Quotable (link s) := by
  intro c mem
  rw [link, String.toList_ofList, linkChars] at mem
  split at mem
  · rw [List.mem_singleton.mp mem]
    decide
  · exact isQuotable_of_mem_attributeChars c mem

end Markup

namespace Attribute

/-- Names of attributes: letters, digits and hyphens, and a name that ends like the one of a source
attribute is that one. -/
def isName (name : List Char) : Bool :=
  !name.isEmpty && name.all Naming.isNameChar &&
    (name == ['s', 'r', 'c'] || !List.isSuffixOf ['s', 'r', 'c'] name)

/-- The library writes only names and plain texts into attributes. -/
structure Clean (a : Attribute) : Prop where
  /-- The name is one. -/
  name : isName a.name.toList = true
  /-- A value that the library writes is plain. -/
  fixed : ∀ s, a.value = .fixed s → Text.Plain s
  /-- So is an expression. -/
  expression : ∀ s, a.value = .expression s → Text.Plain s

namespace Clean

variable {name : List Char} {s : String}

theorem named {a : Attribute} (h : a.Clean) : Naming.Named a.name :=
  List.all_eq_true.mp (Bool.and_eq_true_iff.mp (Bool.and_eq_true_iff.mp h.name).1).2

theorem plain_name {a : Attribute} (h : a.Clean) : Text.Plain a.name := h.named.plain

theorem ofFlag (h : isName name = true) : (Attribute.flag (.ofList name)).Clean where
  name := by rwa [Attribute.flag, String.toList_ofList]
  fixed _ eq := by cases eq
  expression _ eq := by cases eq

theorem ofFixed (h : isName name = true) (plain : Text.Plain s) :
    (Attribute.fixed (.ofList name) s).Clean where
  name := by rwa [Attribute.fixed, String.toList_ofList]
  fixed _ eq := by
    cases eq
    exact plain
  expression _ eq := by cases eq

theorem ofWord {cs : List Char} (h : isName name = true) (plain : cs.all Text.isPlain = true) :
    (Attribute.fixed (.ofList name) (.ofList cs)).Clean :=
  ofFixed h (.lit plain)

theorem ofText (h : isName name = true) : (Attribute.text (.ofList name) s).Clean where
  name := by rwa [Attribute.text, String.toList_ofList]
  fixed _ eq := by cases eq
  expression _ eq := by cases eq

theorem ofLink (h : isName name = true) : (Attribute.link (.ofList name) s).Clean where
  name := by rwa [Attribute.link, String.toList_ofList]
  fixed _ eq := by cases eq
  expression _ eq := by cases eq

theorem ofExpression (h : isName name = true) (plain : Text.Plain s) :
    Clean ⟨.ofList name, .expression s⟩ where
  name := by rwa [String.toList_ofList]
  fixed _ eq := by cases eq
  expression _ eq := by
    cases eq
    exact plain

theorem ofClasses (plain : Text.Plain s) : (Attribute.classes s).Clean := ofFixed rfl plain

end Clean

/-- Several clean attributes. -/
abbrev CleanAll (attributes : List Attribute) : Prop := ∀ a ∈ attributes, a.Clean

namespace CleanAll

variable {a : Attribute} {attributes : List Attribute}

theorem nil : CleanAll [] := List.forall_mem_nil _

theorem cons (h : a.Clean) (hs : CleanAll attributes) : CleanAll (a :: attributes) :=
  List.forall_mem_cons.mpr ⟨h, hs⟩

theorem single (h : a.Clean) : CleanAll [a] := cons h nil

theorem append {rest : List Attribute} (h : CleanAll attributes) (hs : CleanAll rest) :
    CleanAll (attributes ++ rest) := List.forall_mem_append.mpr ⟨h, hs⟩

end CleanAll

end Attribute

/-! ### Trees -/

namespace Markup

variable {ι β : Type}

/-- Whether the printed form starts with a gap. -/
def opens : Markup ι → Bool
  | text s | fixed s => s.toList.head?.any Text.isGap
  | _ => true

/-- Whether the printed form ends with a gap. -/
def closes : Markup ι → Bool
  | text _ => false
  | fixed s => s.toList.getLast?.any Text.isGap
  | _ => true

/-- Whether two pieces of markup side by side are apart. -/
def Beside (m next : Markup ι) : Prop := m.closes = true ∨ next.opens = true

/-- Names of tags that are no image tags. -/
def isTagName (name : List Char) : Bool :=
  !name.isEmpty && name.all Naming.isNameChar && !List.isPrefixOf ['i', 'm', 'g'] name

theorem named_of_isTagName {tag : String} (h : isTagName tag.toList = true) : Naming.Named tag :=
  List.all_eq_true.mp (Bool.and_eq_true_iff.mp (Bool.and_eq_true_iff.mp h).1).2

theorem plain_of_isTagName {tag : String} (h : isTagName tag.toList = true) : Text.Plain tag :=
  (named_of_isTagName h).plain

/-- What the library writes into a tree is plain, and leaves side by side are apart. Pictures
satisfy `ok`, and image tags that are no pictures are allowed if `logos` holds. -/
inductive Clean (ok : ι → Prop) (logos : Prop) : Markup ι → Prop where
  /-- A text may be anything. -/
  | text {s : String} : Clean ok logos (.text s)
  /-- Fixed characters are plain. -/
  | fixed {s : String} (plain : Text.Plain s) : Clean ok logos (.fixed s)
  /-- A picture. -/
  | image {picture : ι} (allowed : ok picture) : Clean ok logos (.image picture)
  /-- An image tag that is no picture. -/
  | logo {attributes : List Attribute} (allowed : logos) (clean : Attribute.CleanAll attributes) :
    Clean ok logos (.void "img" attributes)
  /-- An element without children. -/
  | void {tag : String} {attributes : List Attribute} (name : isTagName tag.toList = true)
    (clean : Attribute.CleanAll attributes) : Clean ok logos (.void tag attributes)
  /-- An element with children. -/
  | element {tag : String} {attributes : List Attribute} {flow : Flow} {children : List (Markup ι)}
    (name : isTagName tag.toList = true) (clean : Attribute.CleanAll attributes)
    (beside : flow = .inline → children.IsChain Beside)
    (all : ∀ m ∈ children, Clean ok logos m) :
    Clean ok logos (.element tag attributes flow children)

/-- Several clean trees. -/
abbrev CleanAll (ok : ι → Prop) (logos : Prop) (ms : List (Markup ι)) : Prop :=
  ∀ m ∈ ms, Clean ok logos m

section Building

variable {ok : ι → Prop} {logos : Prop} {name : List Char} {classes s : String} {m : Markup ι}
  {ms rest : List (Markup ι)} {attributes : List Attribute} {flow : Flow} {α : Type}

namespace CleanAll

theorem nil : CleanAll ok logos [] := List.forall_mem_nil _

theorem cons (h : Clean ok logos m) (hs : CleanAll ok logos ms) : CleanAll ok logos (m :: ms) :=
  List.forall_mem_cons.mpr ⟨h, hs⟩

theorem single (h : Clean ok logos m) : CleanAll ok logos [m] := cons h nil

theorem append (h : CleanAll ok logos ms) (hs : CleanAll ok logos rest) :
    CleanAll ok logos (ms ++ rest) := List.forall_mem_append.mpr ⟨h, hs⟩

theorem map {f : α → Markup ι} (h : ∀ a, Clean ok logos (f a)) (as : List α) :
    CleanAll ok logos (as.map f) := List.forall_mem_map.mpr fun a _ ↦ h a

theorem mapIdx {f : Nat → α → Markup ι} (h : ∀ i a, Clean ok logos (f i a)) (as : List α) :
    CleanAll ok logos (as.mapIdx f) := by
  intro m mem
  obtain ⟨i, hi, rfl⟩ := List.mem_mapIdx.mp mem
  exact h i _

theorem option {f : α → Markup ι} (h : ∀ a, Clean ok logos (f a)) (a : Option α) :
    CleanAll ok logos (a.map f).toList := by
  cases a with
  | none => exact nil
  | some a => exact single (h a)

end CleanAll

namespace Clean

theorem leaf (h : isTagName name = true) (clean : Attribute.CleanAll attributes) :
    Clean ok logos (.void (.ofList name) attributes) :=
  .void (by rwa [String.toList_ofList]) clean

/-- An element with one child, which has no neighbour. -/
theorem wrap (h : isTagName name = true) (clean : Attribute.CleanAll attributes)
    (child : Clean ok logos m) : Clean ok logos (.element (.ofList name) attributes .inline [m]) :=
  .element (by rwa [String.toList_ofList]) clean (fun _ ↦ .singleton _) (CleanAll.single child)

theorem stacked (h : isTagName name = true) (clean : Attribute.CleanAll attributes)
    (all : CleanAll ok logos ms) :
    Clean ok logos (.element (.ofList name) attributes .stacked ms) :=
  .element (by rwa [String.toList_ofList]) clean nofun all

theorem aligned (h : isTagName name = true) (clean : Attribute.CleanAll attributes)
    (all : CleanAll ok logos ms) :
    Clean ok logos (.element (.ofList name) attributes .aligned ms) :=
  .element (by rwa [String.toList_ofList]) clean nofun all

theorem stack (h : isTagName name = true) (plain : Text.Plain classes)
    (all : CleanAll ok logos ms) : Clean ok logos (.stack (.ofList name) classes ms) :=
  .stacked h (.single (.ofClasses plain)) all

theorem bare (h : isTagName name = true) (all : CleanAll ok logos ms) :
    Clean ok logos (.bare (.ofList name) ms) :=
  .stacked h .nil all

theorem inline (h : isTagName name = true) (plain : Text.Plain classes)
    (beside : ms.IsChain Beside) (all : CleanAll ok logos ms) :
    Clean ok logos (.inline (.ofList name) classes ms) :=
  .element (by rwa [String.toList_ofList]) (.single (.ofClasses plain)) (fun _ ↦ beside) all

theorem label (h : isTagName name = true) (plain : Text.Plain classes) :
    Clean ok logos (.label (.ofList name) classes s) :=
  .wrap h (.single (.ofClasses plain)) .text

/-- The pictures of a clean tree are allowed. -/
theorem forall_images (h : Clean ok logos m) : ∀ picture ∈ m.images, ok picture := by
  induction h with
  | image allowed => exact List.forall_mem_singleton.mpr allowed
  | element _ _ _ _ ih =>
    intro picture mem
    rw [images, imagesOfAll_eq_flatMap] at mem
    obtain ⟨m, hm, mem⟩ := List.mem_flatMap.mp mem
    exact ih m hm picture mem
  | _ => exact fun picture mem ↦ absurd mem List.not_mem_nil

theorem mono {logos' : Prop} (allow : logos → logos') (h : Clean ok logos m) :
    Clean ok logos' m := by
  induction h with
  | text => exact .text
  | fixed plain => exact .fixed plain
  | image allowed => exact .image allowed
  | logo allowed clean => exact .logo (allow allowed) clean
  | void name clean => exact .void name clean
  | element name clean beside _ ih => exact .element name clean beside ih

end Clean

end Building

/-! ### Placing -/

section Placing

variable {ok : ImageRequest → Prop} {ok' : PlacedImage → Prop} {logos : Prop} {cap : Nat}

/-- Whether the printed form starts with a gap, and whether it ends with one. -/
def borders (m : Markup ι) : Bool × Bool := (m.opens, m.closes)

theorem isChain_beside_iff {ms : List (Markup ι)} : ms.IsChain Beside ↔
    (ms.map borders).IsChain fun m next ↦ m.2 = true ∨ next.1 = true := by
  rw [List.isChain_map]
  rfl

theorem borders_place (cap before : Nat) (m : Markup ImageRequest) :
    (m.place cap before).1.borders = m.borders := by
  cases m <;> rfl

theorem map_borders_placeAll (before : Nat) (ms : List (Markup ImageRequest)) :
    (placeAll cap before ms).1.map borders = ms.map borders := by
  induction ms generalizing before with
  | nil => rfl
  | cons m rest ih =>
    have first := borders_place cap before m
    have others := ih (m.place cap before).2
    simp only [placeAll, List.map_cons, first, others]

theorem exists_of_mem_placeAll {before : Nat} {ms : List (Markup ImageRequest)}
    {placed : Markup PlacedImage} (h : placed ∈ (placeAll cap before ms).1) :
    ∃ m ∈ ms, ∃ n, placed = (m.place cap n).1 := by
  induction ms generalizing before with
  | nil => cases h
  | cons m rest ih =>
    rcases List.mem_cons.mp h with rfl | h
    · exact ⟨m, List.mem_cons_self, before, rfl⟩
    · obtain ⟨m', hm, n, eq⟩ := ih h
      exact ⟨m', List.mem_cons_of_mem _ hm, n, eq⟩

/-- Placing changes nothing but the pictures. -/
theorem Clean.place
    (pictures : ∀ before request, ok request → ok' (placeRequest cap before request))
    {m : Markup ImageRequest} (h : Clean ok logos m) (before : Nat) :
    Clean ok' logos (m.place cap before).1 := by
  induction h generalizing before with
  | text => exact .text
  | fixed plain => exact .fixed plain
  | image allowed => exact .image (pictures before _ allowed)
  | logo allowed clean => exact .logo allowed clean
  | void name clean => exact .void name clean
  | element name clean beside _ ih =>
    refine .element name clean (fun inline ↦ ?_) fun placed mem ↦ ?_
    · rw [isChain_beside_iff, map_borders_placeAll, ← isChain_beside_iff]
      exact beside inline
    · obtain ⟨m, hm, n, rfl⟩ := exists_of_mem_placeAll mem
      exact ih m hm n

mutual

/-- The pictures of placed markup are its requests, numbered on. -/
theorem images_place (cap before : Nat) (m : Markup ImageRequest) :
    (m.place cap before).1.images = m.images.mapIdx fun i ↦ placeRequest cap (before + i) := by
  cases m with
  | element tag attributes flow children => exact imagesOfAll_placeAll cap before children
  | image request => rfl
  | _ => rfl

theorem imagesOfAll_placeAll (cap before : Nat) (ms : List (Markup ImageRequest)) :
    imagesOfAll (placeAll cap before ms).1 =
      (imagesOfAll ms).mapIdx fun i ↦ placeRequest cap (before + i) := by
  cases ms with
  | nil => rfl
  | cons m rest =>
    have first := images_place cap before m
    have others := imagesOfAll_placeAll cap (m.place cap before).2 rest
    rw [place_snd] at others
    have shift (i : Nat) : before + m.images.length + i = before + (i + m.images.length) := by
      omega
    simp only [placeAll, imagesOfAll, first, place_snd, others, List.mapIdx_append, shift]

end

end Placing

end Markup

end Sitewright
