import Sitewright.Proofs.Markup.Reading

/-!
# Markup read as JSX

A generated component is read by other programs as JSX: tags with double-quoted values, expressions
between braces, and characters between the tags. This module has such a reader (`Jsx.lex`), which
knows nothing of the trees that are printed, and the check that what it reads is properly nested
(`Jsx.nests`): every tag that closes an element has the name of the last one that is still open, no
value ends early, and no bracket or brace stands between tags.

The reader takes a closing bracket for the end of a tag only outside of values, and splits a tag at
blanks and slashes outside of values. So it suffices that nothing the library writes into a tag
opens a value without closing it (`Text.IsBody`, `Jsx.Solid`). Then what is read of the printed form
of clean markup are the tags of the tree and the characters of its escaped texts, in the order of
the tree (`Markup.Clean.found_lex`), and these nest because trees do (`Markup.Clean.nests_append`).
-/

namespace Sitewright

open Text (TagPlace)

namespace Jsx

/-! ### Tokens -/

/-- The value of an attribute, as it is read. -/
inductive Value where
  /-- There is none. -/
  | flag
  /-- What stands between double quotes. -/
  | quoted (s : String)
  /-- What stands between braces. -/
  | braced (s : String)
  /-- Something else. -/
  | broken
  deriving DecidableEq

/-- An attribute, as it is read. -/
structure Property where
  /-- The name. -/
  name : String
  /-- The value. -/
  value : Value
  deriving DecidableEq

/-- A token of JSX. -/
inductive Token where
  /-- A character between tags. -/
  | char (c : Char)
  /-- A tag that opens an element. -/
  | opening (name : String) (properties : List Property)
  /-- A tag that is an element. -/
  | void (name : String) (properties : List Property)
  /-- A tag that closes an element. -/
  | closing (name : String)
  /-- A bracket that starts no tag. -/
  | broken
  deriving DecidableEq

/-! ### Reading -/

/-- The blanks between tokens. -/
def isBlank (c : Char) : Bool := c == ' ' || c == '\n' || c == '\r' || c == '\t'

/-- The pieces of what stands in a tag, where `piece` has been read of the first one. Pieces are
split at blanks and slashes outside of values, and a slash is a piece of its own. -/
def split (place : TagPlace) (piece : List Char) : List Char → List (List Char)
  | [] => [piece]
  | c :: cs =>
    if place = .bare ∧ isBlank c then piece :: split .bare [] cs
    else if place = .bare ∧ c = '/' then piece :: ['/'] :: split .bare [] cs
    else split (place.next c) (piece ++ [c]) cs

/-- The value of an attribute, from what follows its name. -/
def readValue : List Char → Value
  | [] => .flag
  | '=' :: '"' :: cs => if cs.getLast? = some '"' then .quoted (.ofList cs.dropLast) else .broken
  | '=' :: '\x7b' :: cs =>
    if cs.getLast? = some '\x7d' then .braced (.ofList cs.dropLast) else .broken
  | _ => .broken

/-- An attribute. -/
def readProperty (piece : List Char) : Property :=
  ⟨.ofList (piece.takeWhile (· != '=')), readValue (piece.dropWhile (· != '='))⟩

/-- A tag, from its pieces. -/
def tagOf : List (List Char) → Token
  | [] => .broken
  | [['/'], name] => .closing (.ofList name)
  | name :: rest =>
    if rest.getLast? = some ['/'] then .void (.ofList name) (rest.dropLast.map readProperty)
    else .opening (.ofList name) (rest.map readProperty)

/-- A tag, from what stands between its brackets. -/
def readTag (body : List Char) : Token := tagOf ((split .bare [] body).filter fun p ↦ !p.isEmpty)

/-- The tokens of a text. In a tag, one knows what has been read of it and where one is in it. -/
def scan : Option (List Char × TagPlace) → List Char → List Token
  | none, [] => []
  | some _, [] => [.broken]
  | none, c :: cs =>
    if c = '<' then scan (some ([], .bare)) cs
    else if isBlank c then scan none cs
    else .char c :: scan none cs
  | some (body, place), c :: cs =>
    if place = .bare ∧ c = '>' then readTag body :: scan none cs
    else scan (some (body ++ [c], place.next c)) cs

/-- The tokens of a text. -/
def lex (cs : List Char) : List Token := scan none cs

/-! ### Nesting -/

/-- Whether a name is one. -/
def isName (s : String) : Bool := !s.toList.isEmpty && s.toList.all Naming.isNameChar

/-- Whether a value ends where it should. -/
def Value.isSound : Value → Bool
  | flag => true
  | quoted s => !s.toList.contains '"'
  | braced s => !s.toList.contains '\x7b' && !s.toList.contains '\x7d'
  | broken => false

/-- Whether an attribute is one. -/
def Property.isSound (p : Property) : Bool := isName p.name && p.value.isSound

/-- Whether a tag has a name and attributes. -/
def isSound (name : String) (properties : List Property) : Bool :=
  isName name && properties.all Property.isSound

/-- Whether a character may stand between tags. -/
def isText (c : Char) : Bool := !(['<', '>', '\x7b', '\x7d'].contains c)

/-- Whether tokens nest in elements that are open, innermost first, and close all of them. -/
def nests : List String → List Token → Bool
  | pending, [] => pending.isEmpty
  | pending, .char c :: rest => isText c && nests pending rest
  | pending, .opening name properties :: rest =>
    isSound name properties && nests (name :: pending) rest
  | pending, .void name properties :: rest => isSound name properties && nests pending rest
  | [], .closing _ :: _ => false
  | last :: pending, .closing name :: rest => name == last && nests pending rest
  | _, .broken :: _ => false

example : nests [] (lex "<b title=\"a > b\">x<i /></b>".toList) = true := by decide

example : nests [] (lex "<b><i></b></i>".toList) = false := by decide

example : nests [] (lex "<b title=\"a\" b\">\x7bx\x7d</b>".toList) = false := by decide

/-! ### What a reader needs -/

variable {body cs rest a b : List Char} {piece : List Char}

theorem lex_cons {c : Char} (h : c ≠ '<') (cs : List Char) :
    lex (c :: cs) = (if isBlank c then [] else [.char c]) ++ lex cs := by
  rw [lex, scan, if_neg h]
  split <;> rfl

/-- A tag ends at its own bracket: in a value there is none, and outside there is no other. -/
theorem scan_tag (inert : ∀ c ∈ body, Text.isInert c = true) {place : TagPlace}
    (closed : place.after body = .bare) (seen rest : List Char) :
    scan (some (seen, place)) (body ++ '>' :: rest) = readTag (seen ++ body) :: lex rest := by
  induction body generalizing seen place with
  | nil =>
    have bare : place = .bare := closed
    rw [List.nil_append, scan, if_pos ⟨bare, rfl⟩, List.append_nil, lex]
  | cons c body ih =>
    obtain ⟨here, others⟩ := List.forall_mem_cons.mp inert
    have inside : ¬ (place = .bare ∧ c = '>') :=
      fun ⟨_, eq⟩ ↦ (Text.isInert_iff.mp here).2.2.2 eq
    have next := ih others closed (seen ++ [c])
    rw [List.append_assoc, List.singleton_append] at next
    rw [List.cons_append, scan, if_neg inside, next]

theorem lex_tag (h : Text.IsBody body) (rest : List Char) :
    lex ('<' :: (body ++ '>' :: rest)) = readTag body :: lex rest := by
  rw [lex, scan, if_pos rfl]
  exact scan_tag h.inert h.closed [] rest

/-- Reading JSX ignores blanks, and needs no more than tidiness. -/
theorem reader_lex : Text.Reader lex where
  nil := rfl
  blank c cs h := by
    rcases h with rfl | rfl | rfl <;> rfl
  append tidy _ := by
    clear * - tidy
    induction tidy with
    | nil => rfl
    | char ne _ ih => rw [List.cons_append, lex_cons ne, ih, lex_cons ne, List.append_assoc]
    | tag isBody _ ih =>
      rw [List.cons_append, List.append_assoc, List.cons_append, lex_tag isBody, ih,
        lex_tag isBody, List.cons_append]

/-- The tokens of characters between tags. -/
def chars (s : String) : List Token := (s.toList.filter fun c ↦ !isBlank c).map .char

/-- Without a bracket there are only characters. -/
theorem lex_eq_chars {s : String} (h : '<' ∉ s.toList) : lex s.toList = chars s := by
  rw [chars]
  generalize s.toList = cs at h
  induction cs with
  | nil => rfl
  | cons c cs ih =>
    obtain ⟨ne, others⟩ := not_or.mp (mt List.mem_cons.mpr h)
    rw [lex_cons (Ne.symm ne), ih others, List.filter_cons]
    cases isBlank c <;> rfl

/-- Characters between tags open and close nothing. -/
theorem nests_chars {s : String} (h : ∀ c ∈ s.toList, isText c = true) (pending : List String)
    (rest : List Token) : nests pending (chars s ++ rest) = nests pending rest := by
  rw [chars]
  generalize s.toList = cs at h
  induction cs with
  | nil => rfl
  | cons c cs ih =>
    obtain ⟨here, others⟩ := List.forall_mem_cons.mp h
    rw [List.filter_cons]
    split
    · rw [List.map_cons, List.cons_append, nests, here, ih others, Bool.true_and]
    · exact ih others

theorem isName_of_named {s : String} (some : s.toList ≠ []) (named : Naming.Named s) :
    isName s = true := by
  rw [isName, Bool.and_eq_true, Bool.not_eq_true', List.isEmpty_eq_false_iff]
  exact ⟨some, List.all_eq_true.mpr named⟩

/-! ### Pieces of tags -/

/-- What is not split, wherever it stands. -/
def Solid (a : List Char) : Prop :=
  ∀ piece rest, split .bare piece (a ++ rest) = split .bare (piece ++ a) rest

/-- A value is not split before it ends. -/
theorem split_append {place : TagPlace} (value : place ≠ .bare)
    (stays : ∀ c ∈ cs, place.next c = place) (piece rest : List Char) :
    split place piece (cs ++ rest) = split place (piece ++ cs) rest := by
  induction cs generalizing piece with
  | nil => rw [List.nil_append, List.append_nil]
  | cons c cs ih =>
    obtain ⟨here, others⟩ := List.forall_mem_cons.mp stays
    rw [List.cons_append, split, if_neg (value ·.1), if_neg (value ·.1), here, ih others,
      List.append_assoc, List.singleton_append]

namespace Solid

theorem nil : Solid [] := fun piece rest ↦ by rw [List.nil_append, List.append_nil]

theorem append (ha : Solid a) (hb : Solid b) : Solid (a ++ b) := by
  intro piece rest
  rw [List.append_assoc, ha, hb, List.append_assoc]

/-- Names are solid. -/
theorem of_named (h : ∀ c ∈ a, Naming.isNameChar c = true) : Solid a := by
  induction a with
  | nil => exact nil
  | cons c a ih =>
    obtain ⟨here, others⟩ := List.forall_mem_cons.mp h
    have letter : (!isBlank c && c != '/' && TagPlace.bare.next c == .bare) = true :=
      Naming.of_isNameChar (p := fun c ↦ !isBlank c && c != '/' && TagPlace.bare.next c == .bare)
        (by decide) (by decide) here
    simp only [Bool.and_eq_true, Bool.not_eq_true', bne_iff_ne, beq_iff_eq] at letter
    obtain ⟨⟨blank, slash⟩, next⟩ := letter
    have one : Solid [c] := by
      intro piece rest
      rw [List.singleton_append, split, if_neg (by simp [blank]), if_neg (by simp [slash]), next]
    exact one.append (ih others)

/-- A quoted value is solid, whatever blanks and slashes it holds. -/
theorem quoted (h : ∀ c ∈ cs, Text.isQuotable c = true) : Solid ('=' :: '"' :: (cs ++ ['"'])) := by
  intro piece rest
  have stays : ∀ c ∈ cs, TagPlace.quoted.next c = .quoted :=
    fun c mem ↦ if_neg (Text.isQuotable_iff.mp (h c mem)).2
  have start : split .bare piece ('=' :: '"' :: (cs ++ ['"'] ++ rest)) =
      split .quoted (piece ++ ['='] ++ ['"']) (cs ++ ('"' :: rest)) := by
    rw [List.append_assoc]
    rfl
  have stop (seen : List Char) :
      split .quoted seen ('"' :: rest) = split .bare (seen ++ ['"']) rest := rfl
  rw [List.cons_append, List.cons_append, start, split_append (by decide) stays, stop]
  simp

/-- So is an expression. -/
theorem braced (h : ∀ c ∈ cs, Text.isPlain c = true) :
    Solid ('=' :: '\x7b' :: (cs ++ ['\x7d'])) := by
  intro piece rest
  have stays : ∀ c ∈ cs, (TagPlace.braced 0).next c = .braced 0 := by
    intro c mem
    obtain ⟨-, opening, closing⟩ := Text.isPlain_iff.mp (h c mem)
    rw [TagPlace.next, if_neg opening, if_neg closing]
  have start : split .bare piece ('=' :: '\x7b' :: (cs ++ ['\x7d'] ++ rest)) =
      split (.braced 0) (piece ++ ['='] ++ ['\x7b']) (cs ++ ('\x7d' :: rest)) := by
    rw [List.append_assoc]
    rfl
  have stop (seen : List Char) :
      split (.braced 0) seen ('\x7d' :: rest) = split .bare (seen ++ ['\x7d']) rest := rfl
  rw [List.cons_append, List.cons_append, start, split_append (by decide) stays, stop]
  simp

end Solid

end Jsx

/-! ### Attributes -/

open Jsx

/-- What a value is read as. -/
def AttributeValue.read : AttributeValue → Jsx.Value
  | flag => .flag
  | fixed s => .quoted s
  | text s => .quoted (Markup.escapeAttribute s)
  | link s => .quoted (Markup.link s)
  | expression s => .braced s

namespace Attribute

/-- What an attribute is read as. -/
def property (a : Attribute) : Jsx.Property := ⟨a.name, a.value.read⟩

theorem readValue_chars (value : AttributeValue) : readValue value.chars = value.read := by
  have quoted (s : String) :
      readValue ('=' :: '"' :: (s.toList ++ ['"'])) = .quoted s := by
    rw [readValue, List.getLast?_concat, if_pos rfl, List.dropLast_concat, String.ofList_toList]
  cases value with
  | flag => rfl
  | fixed s => exact quoted s
  | text s => exact quoted _
  | link s => exact quoted _
  | expression s =>
    rw [AttributeValue.chars, readValue, List.getLast?_concat, if_pos rfl, List.dropLast_concat,
      String.ofList_toList]
    rfl

namespace Clean

variable {a : Attribute}

theorem nonempty_name (h : a.Clean) : a.name.toList ≠ [] := by
  intro empty
  have name := h.name
  rw [empty] at name
  cases name

theorem solid_value (h : a.Clean) : Solid a.value.chars := by
  obtain ⟨name, value⟩ := a
  cases value with
  | flag => exact .nil
  | fixed s => exact .quoted (h.fixed s rfl).quotable
  | text s => exact .quoted (Markup.quotable_escapeAttribute s)
  | link s => exact .quoted (Markup.quotable_link s)
  | expression s => exact .braced (h.expression s rfl)

theorem solid_chars (h : a.Clean) : Solid a.chars := .append (.of_named h.named) h.solid_value

theorem chars_ne_nil (h : a.Clean) : a.chars ≠ [] :=
  List.append_ne_nil_of_left_ne_nil h.nonempty_name _

/-- An attribute is no slash. -/
theorem chars_ne_slash (h : a.Clean) : a.chars ≠ ['/'] := by
  intro eq
  obtain ⟨c, cs, name⟩ := List.exists_cons_of_ne_nil h.nonempty_name
  rw [chars, name, List.cons_append] at eq
  have letter := h.named c (name ▸ List.mem_cons_self)
  rw [(List.cons.inj eq).1] at letter
  cases letter

/-- An attribute is read as itself: its name ends before the value. -/
theorem readProperty_chars (h : a.Clean) : readProperty a.chars = a.property := by
  have name : ∀ c ∈ a.name.toList, (c != '=') = true :=
    fun c mem ↦ Naming.of_isNameChar (p := (· != '=')) rfl (by decide) (h.named c mem)
  -- A value starts with the equals sign, if there is one.
  have value : a.value.chars.takeWhile (· != '=') = [] ∧
      a.value.chars.dropWhile (· != '=') = a.value.chars := by
    cases a.value <;> exact ⟨rfl, rfl⟩
  rw [readProperty, chars, List.takeWhile_append_of_pos name, List.dropWhile_append_of_pos name,
    value.1, value.2, List.append_nil, String.ofList_toList, readValue_chars, property]

/-- No value ends early. -/
theorem isSound_property (h : a.Clean) : a.property.isSound = true := by
  have name := isName_of_named h.nonempty_name h.named
  have quoted {s : String} (quotable : Text.Quotable s) :
      (Value.quoted s).isSound = true := by
    simpa [Value.isSound] using quotable.quote_notMem
  have value : a.value.read.isSound = true := by
    obtain ⟨_, value⟩ := a
    cases value with
    | flag => rfl
    | fixed s => exact quoted (h.fixed s rfl).quotable
    | text s => exact quoted (Markup.quotable_escapeAttribute s)
    | link s => exact quoted (Markup.quotable_link s)
    | expression s =>
      have plain := h.expression s rfl
      have opening : '\x7b' ∉ s.toList := fun mem ↦ by cases plain _ mem
      have closing : '\x7d' ∉ s.toList := fun mem ↦ by cases plain _ mem
      simpa [AttributeValue.read, Value.isSound] using ⟨opening, closing⟩
  rw [Property.isSound, property, name, value, Bool.and_true]

end Clean

end Attribute

/-! ### Tags -/

namespace Markup

section Tags

variable {tag : String} {attributes : List Attribute}

/-- Attributes are split at the blanks before them, if what follows them is split from them. -/
theorem split_printAttributes (clean : Attribute.CleanAll attributes) {rest : List Char}
    {others : List (List Char)} (ends : ∀ piece, split .bare piece rest = piece :: others)
    (piece : List Char) : split .bare piece ((printAttributes attributes).toList ++ rest) =
      piece :: (attributes.map Attribute.chars ++ others) := by
  rw [printAttributes_toList]
  induction attributes generalizing piece with
  | nil => exact ends piece
  | cons a attributes ih =>
    obtain ⟨first, later⟩ := List.forall_mem_cons.mp clean
    have start (cs : List Char) : split .bare piece (' ' :: cs) = piece :: split .bare [] cs := rfl
    rw [List.flatMap_cons, a.print_toList, List.append_assoc, List.cons_append, start,
      first.solid_chars, List.nil_append, ih later, List.map_cons, List.cons_append]

theorem filter_pieces (name : tag.toList ≠ []) (clean : Attribute.CleanAll attributes) :
    (tag.toList :: attributes.map Attribute.chars).filter (fun p ↦ !p.isEmpty) =
      tag.toList :: attributes.map Attribute.chars := by
  refine List.filter_eq_self.mpr (List.forall_mem_cons.mpr ⟨by simpa using name, ?_⟩)
  intro piece mem
  obtain ⟨a, ha, rfl⟩ := List.mem_map.mp mem
  simpa using (clean a ha).chars_ne_nil

theorem map_readProperty (clean : Attribute.CleanAll attributes) :
    (attributes.map Attribute.chars).map readProperty = attributes.map Attribute.property := by
  rw [List.map_map]
  exact List.map_congr_left fun a mem ↦ (clean a mem).readProperty_chars

theorem tagOf_cons {name : List Char} (h : name ≠ ['/']) (rest : List (List Char)) :
    tagOf (name :: rest) = if rest.getLast? = some ['/'] then
      .void (.ofList name) (rest.dropLast.map readProperty)
      else .opening (.ofList name) (rest.map readProperty) := by
  unfold tagOf
  split
  · rename_i eq
    cases eq
  · rename_i eq
    exact absurd (List.cons.inj eq).1 h
  · rename_i eq
    obtain ⟨rfl, rfl⟩ := List.cons.inj eq
    rfl

theorem ne_slash (named : Naming.Named tag) : tag.toList ≠ ['/'] := by
  intro eq
  cases named '/' (eq ▸ List.mem_singleton_self '/')

variable (name : tag.toList ≠ []) (named : Naming.Named tag)
  (clean : Attribute.CleanAll attributes)
include name named clean

theorem lex_openTag :
    lex (openTag tag attributes).toList = [.opening tag (attributes.map Attribute.property)] := by
  have ends (piece : List Char) : split .bare piece [] = piece :: [] := rfl
  have pieces := split_printAttributes clean ends tag.toList
  rw [List.append_nil, List.append_nil] at pieces
  have whole : split .bare [] (tag.toList ++ (printAttributes attributes).toList) =
      tag.toList :: attributes.map Attribute.chars := by
    rw [Solid.of_named named, List.nil_append, pieces]
  -- The last piece is no slash, so the tag is not read as one without children.
  have last : (attributes.map Attribute.chars).getLast? ≠ some ['/'] := by
    intro eq
    obtain ⟨a, ha, slash⟩ := List.mem_map.mp (List.mem_of_getLast? eq)
    exact (clean a ha).chars_ne_slash slash
  rw [openTag_toList, lex_tag (isBody_openTag named.plain clean), readTag, whole,
    filter_pieces name clean, tagOf_cons (ne_slash named), if_neg last, map_readProperty clean,
    String.ofList_toList]
  rfl

theorem lex_voidTag :
    lex (voidTag tag attributes).toList = [.void tag (attributes.map Attribute.property)] := by
  -- The blank before the slash leaves an empty piece, and so does the end after it.
  have ends (piece : List Char) : split .bare piece [' ', '/'] = piece :: [[], ['/'], []] := rfl
  have pieces := split_printAttributes clean ends tag.toList
  have whole : split .bare [] (tag.toList ++ (printAttributes attributes).toList ++ [' ', '/']) =
      tag.toList :: attributes.map Attribute.chars ++ [[], ['/'], []] := by
    rw [List.append_assoc, Solid.of_named named, List.nil_append, pieces]
    rfl
  rw [voidTag_toList, lex_tag (isBody_voidTag named.plain clean), readTag, whole,
    List.filter_append, filter_pieces name clean]
  have slash : [[], ['/'], []].filter (fun p : List Char ↦ !p.isEmpty) = [['/']] := rfl
  rw [slash, List.cons_append, tagOf_cons (ne_slash named), List.getLast?_concat, if_pos rfl,
    List.dropLast_concat, map_readProperty clean, String.ofList_toList]
  rfl

omit clean in
theorem lex_closeTag : lex (closeTag tag).toList = [.closing tag] := by
  have whole : split .bare [] ('/' :: tag.toList) = [[], ['/'], tag.toList] := by
    have start : split .bare [] ('/' :: tag.toList) = [] :: ['/'] :: split .bare [] tag.toList :=
      rfl
    have only := Solid.of_named named [] []
    rw [List.append_nil] at only
    rw [start, only]
    rfl
  have pieces : [[], ['/'], tag.toList].filter (fun p ↦ !p.isEmpty) = [['/'], tag.toList] := by
    simp [name]
  rw [closeTag_toList, lex_tag (isBody_closeTag named.plain), readTag, whole, pieces, tagOf,
    String.ofList_toList]
  rfl

/-- A tag has a name and attributes. -/
theorem isSound_tag : Jsx.isSound tag (attributes.map Attribute.property) = true := by
  have isName := isName_of_named name named
  have sound : (attributes.map Attribute.property).all Property.isSound = true := by
    rw [List.all_map, List.all_eq_true]
    exact fun a mem ↦ (clean a mem).isSound_property
  rw [Jsx.isSound, isName, sound, Bool.and_true]

end Tags

/-! ### Trees -/

mutual

/-- What a tree is read as, with what its pictures are read as: its tags, and the characters of its
escaped texts, but for blanks. -/
def jsx {ι : Type} (leaf : ι → List Token) : Markup ι → List Token
  | text s => Jsx.chars (escapeText s)
  | fixed s => Jsx.chars s
  | image picture => leaf picture
  | void tag attributes => [.void tag (attributes.map Attribute.property)]
  | element tag attributes _ children =>
    .opening tag (attributes.map Attribute.property) :: jsxOfAll leaf children ++ [.closing tag]

/-- What several trees are read as. -/
def jsxOfAll {ι : Type} (leaf : ι → List Token) : List (Markup ι) → List Token
  | [] => []
  | m :: rest => jsx leaf m ++ jsxOfAll leaf rest

end

section Trees

variable {ι : Type} {ok : ι → Prop} {logos : Prop} {leaf : ι → String} {read : ι → List Token}
  {m : Markup ι}

theorem nonempty_of_isTagName {tag : String} (h : isTagName tag.toList = true) :
    tag.toList ≠ [] := by
  intro empty
  rw [empty] at h
  cases h

/-- **What is read of clean markup is the tree.** -/
theorem Clean.found_lex (h : Clean ok logos m)
    (pictures : ∀ picture, ok picture → lex (leaf picture).toList = read picture) :
    m.found lex leaf = m.jsx read := by
  have all {ms : List (Markup ι)} (each : ∀ m ∈ ms, m.found lex leaf = m.jsx read) :
      foundInAll lex leaf ms = jsxOfAll read ms := by
    induction ms with
    | nil => rfl
    | cons m rest ih =>
      obtain ⟨first, others⟩ := List.forall_mem_cons.mp each
      rw [foundInAll, jsxOfAll, first, ih others]
  induction h with
  | text => exact lex_eq_chars (bracket_notMem_escapeText _)
  | fixed plain => exact lex_eq_chars fun mem ↦ by cases plain _ mem
  | image allowed => exact pictures _ allowed
  | logo _ clean => exact lex_voidTag (by decide) (.lit rfl) clean
  | void name clean =>
    exact lex_voidTag (nonempty_of_isTagName name) (named_of_isTagName name) clean
  | element name clean _ _ ih =>
    have ne := nonempty_of_isTagName name
    have named := named_of_isTagName name
    rw [found, lex_openTag ne named clean, lex_closeTag ne named, all ih, jsx]
    rfl

/-- **Clean markup nests**, whatever is open around it. -/
theorem Clean.nests_append (h : Clean ok logos m)
    (pictures : ∀ picture, ok picture → ∀ pending rest,
      nests pending (read picture ++ rest) = nests pending rest)
    (pending : List String) (rest : List Token) :
    nests pending (m.jsx read ++ rest) = nests pending rest := by
  have all {ms : List (Markup ι)} (each : ∀ m ∈ ms, ∀ pending rest,
      nests pending (m.jsx read ++ rest) = nests pending rest) (pending rest) :
      nests pending (jsxOfAll read ms ++ rest) = nests pending rest := by
    induction ms with
    | nil => rfl
    | cons m ms ih =>
      obtain ⟨first, others⟩ := List.forall_mem_cons.mp each
      rw [jsxOfAll, List.append_assoc, first, ih others]
  induction h generalizing pending rest with
  | @text s =>
    -- Brackets and braces of a text have been escaped.
    refine nests_chars (fun c mem ↦ ?_) pending rest
    rw [escapeText, String.toList_ofList] at mem
    obtain ⟨d, -, mem⟩ := List.mem_flatMap.mp mem
    simpa [isText] using ne_of_mem_textChar mem
  | fixed plain =>
    refine nests_chars (fun c mem ↦ ?_) pending rest
    obtain ⟨quotable, opening, closing⟩ := Text.isPlain_iff.mp (plain c mem)
    obtain ⟨-, -, less, greater⟩ := Text.isInert_iff.mp (Text.isQuotable_iff.mp quotable).1
    simpa [isText] using ⟨less, greater, opening, closing⟩
  | image allowed => exact pictures _ allowed pending rest
  | logo _ clean =>
    rw [jsx, List.singleton_append, nests, isSound_tag (by decide) (.lit rfl) clean, Bool.true_and]
  | void name clean =>
    rw [jsx, List.singleton_append, nests,
      isSound_tag (nonempty_of_isTagName name) (named_of_isTagName name) clean, Bool.true_and]
  | @element tag _ _ _ name clean _ _ ih =>
    have sound := isSound_tag (nonempty_of_isTagName name) (named_of_isTagName name) clean
    -- The children leave the element open that was opened before them.
    rw [jsx, List.cons_append, List.cons_append, nests, sound, List.append_assoc, all ih,
      List.singleton_append, nests, beq_self_eq_true, Bool.true_and, Bool.true_and]

end Trees

end Markup

end Sitewright
