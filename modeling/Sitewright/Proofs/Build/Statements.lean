import Sitewright.Build.Entry
import Sitewright.Proofs.Markup.Literals
import Sitewright.Proofs.Naming.Names
import Sitewright.Proofs.Render.Draft
import Sitewright.SourceFile

/-!
# The statements of a file

What a file imports and which names it binds is a matter of its text, so it is read off the text
here, by a reader that knows nothing of how the text was put together. The reader goes line by line
and word by word. A line at the margin is a statement; one that opens a brace goes on up to the
first line that starts with the closing one. A file with anything else at the margin, or with a
statement that does not end, is not read at all, so nothing in it is passed over
(`Statement.ofLines?`).

Each statement is read from its own lines and leaves the rest of the text to the others
(`Statement.Legible.ofText?_line`, `Statement.Legible.ofText?_block`). So the entry of a page is
read as what it was made of: its imports, the constant that describes its document if it has one,
and its component (`PageEntry.Legible.ofText?_text`).
-/

namespace Sitewright

/-! ### Words -/

namespace Text

/-- What stands between two phrases that a text starts and ends with. -/
def between? (opening closing s : String) : Option String :=
  (afterPhrase? opening.toList s.toList).bind fun rest ↦
    (afterPhrase? closing.toList.reverse rest.reverse).map fun inner ↦ .ofList inner.reverse

@[simp] theorem between?_append (opening inner closing : String) :
    between? opening closing (opening ++ inner ++ closing) = some inner := by
  have first : afterPhrase? opening.toList (opening ++ inner ++ closing).toList =
      some (inner.toList ++ closing.toList) :=
    afterPhrase?_eq_some_iff.mpr (by simp [String.toList_append])
  have last : afterPhrase? closing.toList.reverse (inner.toList ++ closing.toList).reverse =
      some inner.toList.reverse :=
    afterPhrase?_eq_some_iff.mpr List.reverse_append
  rw [between?, first, Option.bind_some, last, Option.map_some, List.reverse_reverse,
    String.ofList_toList]

/-- Characters that separate neither words nor lines. -/
def isSolid (c : Char) : Bool := c != ' ' && c != '\n'

/-- A text without breaks between words or lines. -/
abbrev Solid : String → Prop := Only isSolid

/-- Characters that close no brace. -/
def isUnclosing (c : Char) : Bool := c != '\x7d'

/-- A text that closes no brace. -/
abbrev Unclosing : String → Prop := Only isUnclosing

theorem Plain.unclosing {s : String} (h : Plain s) : Unclosing s :=
  fun c mem ↦ bne_iff_ne.mpr (isPlain_iff.mp (h c mem)).2.2

end Text

/-! ### Reading -/

/-- A statement of a file, as far as it binds a name. -/
inductive Statement where
  /-- A name is imported. -/
  | importing (i : Import)
  /-- A constant of some type is exported. -/
  | constant (name type : String)
  /-- The component of the file is exported. -/
  | function (name : String)
  deriving DecidableEq

namespace Statement

/-- The name that a statement binds. -/
def name : Statement → String
  | importing i => i.name
  | constant name _ | function name => name

/-- What a statement imports. -/
def import? : Statement → Option Import
  | importing i => some i
  | constant .. | function _ => none

/-- Whether a statement goes on after its first line. -/
def goesOn : Statement → Bool
  | importing _ => false
  | constant .. | function _ => true

/-- The statement that starts with a line of some words. -/
def ofWords? : List String → Option Statement
  | ["import", name, "from", source] =>
    (Text.between? "\"" "\";" source).map fun source ↦ importing ⟨name, source, false⟩
  | ["import", "type", "\x7b", name, "\x7d", "from", source] =>
    (Text.between? "\"" "\";" source).map fun source ↦ importing ⟨name, source, true⟩
  | ["export", "const", name, type, "=", "\x7b"] =>
    (Text.between? "" ":" name).map fun name ↦ constant name type
  | ["export", "default", "function", name, "\x7b"] => (Text.between? "" "()" name).map function
  | _ => none

/-- Whether a line ends the statement that it belongs to. -/
def endsAt (line : String) : Bool := line.toList.head?.any (· == '\x7d')

/-- The statements in some lines, which start inside of a statement or between two of them. -/
def ofLines? : Bool → List String → Option (List Statement)
  | true, [] => none
  | false, [] => some []
  | true, line :: rest => ofLines? (!endsAt line) rest
  | false, line :: rest =>
    if line.isEmpty then ofLines? false rest
    else
      (ofWords? (Text.splitOn ' ' line)).bind fun statement ↦
        (ofLines? statement.goesOn rest).map (statement :: ·)

/-- The statements of a text. -/
def ofText? (s : String) : Option (List Statement) := ofLines? false (Text.splitOn '\n' s)

/-! ### Reading what was printed -/

/-- The words of the line that a statement starts with. -/
def words : Statement → List String
  | importing i =>
    if i.isType then ["import", "type", "\x7b", i.name, "\x7d", "from", "\"" ++ i.source ++ "\";"]
    else ["import", i.name, "from", "\"" ++ i.source ++ "\";"]
  | constant name type => ["export", "const", name ++ ":", type, "=", "\x7b"]
  | function name => ["export", "default", "function", name ++ "()", "\x7b"]

/-- The line that a statement starts with. -/
def line (s : Statement) : String := Text.joinWith " " s.words

/-- A statement whose words can be told apart. -/
def Legible (s : Statement) : Prop := ∀ word ∈ s.words, Text.Solid word

theorem legible_importing {i : Import} (name : Text.Solid i.name) (source : Text.Solid i.source) :
    (importing i).Legible := by
  have quoted : Text.Solid ("\"" ++ i.source ++ "\";") := .before (.after rfl source) rfl
  rw [Legible, words]
  split <;> simp only [List.forall_mem_cons]
  · exact ⟨.lit rfl, .lit rfl, .lit rfl, name, .lit rfl, .lit rfl, quoted, List.forall_mem_nil _⟩
  · exact ⟨.lit rfl, name, .lit rfl, quoted, List.forall_mem_nil _⟩

theorem legible_constant {name type : String} (hname : Text.Solid name)
    (htype : Text.Solid type) : (constant name type).Legible := by
  have colon : Text.Solid (name ++ ":") := .before hname rfl
  simp only [Legible, words, List.forall_mem_cons]
  exact ⟨.lit rfl, .lit rfl, colon, htype, .lit rfl, .lit rfl, List.forall_mem_nil _⟩

theorem legible_function {name : String} (h : Text.Solid name) : (function name).Legible := by
  have brackets : Text.Solid (name ++ "()") := .before h rfl
  simp only [Legible, words, List.forall_mem_cons]
  exact ⟨.lit rfl, .lit rfl, .lit rfl, brackets, .lit rfl, List.forall_mem_nil _⟩

theorem ofWords?_words (s : Statement) : ofWords? s.words = some s := by
  have start (inner closing : String) :
      Text.between? "" closing (inner ++ closing) = some inner := by
    simpa using Text.between?_append "" inner closing
  cases s with
  | importing i =>
    obtain ⟨name, source, isType⟩ := i
    cases isType <;> simp [words, ofWords?]
  | constant name type => simp [words, ofWords?, start]
  | function name => simp [words, ofWords?, start]

theorem one_lt_length_words (s : Statement) : 1 < s.words.length := by
  cases s with
  | importing i =>
    rw [words]
    split <;> simp
  | constant | function => simp [words]

variable {s : Statement}

theorem Legible.splitOn_line (h : s.Legible) : Text.splitOn ' ' s.line = s.words := by
  refine Text.splitOn_joinWith ?_ fun word mem blank ↦ absurd (h word mem _ blank) (by decide)
  exact List.ne_nil_of_length_pos (Nat.lt_of_succ_lt s.one_lt_length_words)

theorem Legible.newline_notMem (h : s.Legible) : '\n' ∉ s.line.toList := by
  rw [line, Text.joinWith, String.toList_intercalate]
  intro mem
  refine Text.forall_mem_intercalate (q := (· ≠ '\n')) (by decide) ?_ _ mem rfl
  intro piece hpiece c hc
  obtain ⟨word, hword, rfl⟩ := List.mem_map.mp hpiece
  rintro rfl
  exact absurd (h word hword _ hc) (by decide)

theorem Legible.isEmpty_line (h : s.Legible) : s.line.isEmpty = false := by
  by_contra blank
  rw [Bool.not_eq_false, String.isEmpty_iff] at blank
  have split := h.splitOn_line
  have many := s.one_lt_length_words
  rw [blank] at split
  rw [← split] at many
  exact absurd many (by decide)

/-! ### Line by line -/

/-- A statement is read from the line that it starts with. -/
theorem Legible.ofLines?_cons (h : s.Legible) (rest : List String) :
    ofLines? false (s.line :: rest) = (ofLines? s.goesOn rest).map (s :: ·) := by
  rw [ofLines?, h.isEmpty_line, if_neg Bool.false_ne_true, h.splitOn_line, ofWords?_words,
    Option.bind_some]

/-- Inside of a statement, lines that do not end it are part of it. -/
theorem ofLines?_append_of_inside {body : List String}
    (inside : ∀ line ∈ body, endsAt line = false) (rest : List String) :
    ofLines? true (body ++ rest) = ofLines? true rest := by
  induction body with
  | nil => rfl
  | cons line body ih =>
    obtain ⟨here, later⟩ := List.forall_mem_cons.mp inside
    rw [List.cons_append, ofLines?, here, Bool.not_false, ih later]

theorem splitOn_newline (before after : String) : Text.splitOn '\n' (before ++ "\n" ++ after) =
    Text.splitOn '\n' before ++ Text.splitOn '\n' after :=
  Text.splitOn_append '\n' before after

/-- Blank lines are passed over. -/
theorem ofText?_newline (rest : String) : ofText? ("\n" ++ rest) = ofText? rest := by
  have split := splitOn_newline "" rest
  rw [String.empty_append] at split
  rw [ofText?, split]
  rfl

/-- A statement of one line is read from it, and the others from the rest. -/
theorem Legible.ofText?_line (h : s.Legible) (short : s.goesOn = false) (rest : String) :
    ofText? (s.line ++ "\n" ++ rest) = (ofText? rest).map (s :: ·) := by
  rw [ofText?, splitOn_newline, Text.splitOn_of_notMem h.newline_notMem, List.singleton_append,
    h.ofLines?_cons, short]
  rfl

/-- A statement of several lines is read from the first of them, and the others from what comes
after the last. -/
theorem Legible.ofText?_block (h : s.Legible) (long : s.goesOn = true) {body last : String}
    (inside : ∀ line ∈ Text.splitOn '\n' body, endsAt line = false) (single : '\n' ∉ last.toList)
    (ends : endsAt last = true) (rest : String) :
    ofText? (s.line ++ "\n" ++ (body ++ "\n" ++ (last ++ "\n" ++ rest))) =
      (ofText? rest).map (s :: ·) := by
  rw [ofText?, splitOn_newline, splitOn_newline, splitOn_newline,
    Text.splitOn_of_notMem h.newline_notMem, Text.splitOn_of_notMem single,
    List.singleton_append, List.singleton_append, h.ofLines?_cons, long,
    ofLines?_append_of_inside inside, ofLines?, ends]
  rfl

/-- No line of a text that closes no brace ends a statement. -/
theorem endsAt_of_unclosing {body : String} (h : Text.Unclosing body) :
    ∀ line ∈ Text.splitOn '\n' body, endsAt line = false := by
  intro line mem
  rw [endsAt, Option.any_eq_false]
  intro c head
  rw [beq_eq_false_iff_ne]
  rintro rfl
  exact absurd (h _ (Text.mem_of_mem_splitOn mem (List.mem_of_mem_head? head))) (by decide)

end Statement

/-! ### Files -/

namespace SourceFile

/-- The statements of a file. -/
def statements? (file : SourceFile) : Option (List Statement) := Statement.ofText? file.content

/-- What a file imports, in order. -/
def imports? (file : SourceFile) : Option (List Import) :=
  file.statements?.map fun statements ↦ statements.filterMap Statement.import?

/-- The names that a file binds, in order. -/
def boundNames? (file : SourceFile) : Option (List String) :=
  file.statements?.map fun statements ↦ statements.map Statement.name

end SourceFile

/-! ### Entries -/

theorem Import.text_eq (i : Import) : i.text = (Statement.importing i).line ++ "\n" := by
  obtain ⟨name, source, isType⟩ := i
  cases isType <;>
    simp [text, Statement.line, Statement.words, Text.joinWith, ← String.toList_inj]

theorem Statement.line_function (name : String) :
    (function name).line = "export default function " ++ name ++ "() \x7b" := by
  simp [line, words, Text.joinWith, ← String.toList_inj]

theorem Component.source_eq (c : Component PlacedImage) : c.source =
    (Statement.function c.name).line ++ "\n" ++
      ("  return (\n    " ++ c.root.print Markup.printImage 4 ++ "\n  );" ++ "\n" ++
        ("\x7d" ++ "\n" ++ "")) := by
  rw [Statement.line_function]
  unfold Component.source Component.print
  generalize c.root.print Markup.printImage 4 = body
  simp [← String.toList_inj]

/-- A component is one statement, if nothing in it closes a brace. -/
theorem Component.ofText?_source {c : Component PlacedImage}
    (h : (Statement.function c.name).Legible)
    (root : Text.Unclosing (c.root.print Markup.printImage 4)) :
    Statement.ofText? c.source = some [.function c.name] := by
  rw [source_eq]
  have body : Text.Unclosing ("  return (\n    " ++ c.root.print Markup.printImage 4 ++ "\n  );") :=
    .before (.after rfl root) rfl
  have inside := Statement.endsAt_of_unclosing body
  exact (h.ofText?_block rfl inside (by decide) (by decide) "").trans rfl

namespace PageEntry

theorem metadataText_eq (title : String) : metadataText title =
    (Statement.constant "metadata" "Metadata").line ++ "\n" ++
      ("  title: " ++ Markup.stringLiteral title ++ "," ++ "\n" ++
        ("\x7d;" ++ "\n" ++ "\n")) := by
  have line : (Statement.constant "metadata" "Metadata").line =
      "export const metadata: Metadata = \x7b" := by decide
  unfold metadataText
  generalize Markup.stringLiteral title = literal
  simp [line, ← String.toList_inj]

/-- A literal stays on its line. -/
theorem newline_notMem_stringLiteral (s : String) : '\n' ∉ (Markup.stringLiteral s).toList := by
  have bare : ∀ c ∈ s.toList.flatMap Markup.literalChar, Literal.isBare c = true := by
    intro c mem
    obtain ⟨d, -, mem⟩ := List.mem_flatMap.mp mem
    exact List.all_eq_true.mp (Literal.isBare_literalChar d) c mem
  rw [Markup.stringLiteral, String.toList_ofList]
  intro mem
  rcases List.mem_append.mp mem with before | quote
  · rcases List.mem_cons.mp before with eq | inside
    · exact absurd eq (by decide)
    · exact absurd (bare _ inside) (by decide)
  · exact absurd quote (by decide)

/-- What a file says about its document is one statement. -/
theorem ofText?_metadataText (title rest : String) :
    Statement.ofText? (metadataText title ++ rest) =
      (Statement.ofText? rest).map (.constant "metadata" "Metadata" :: ·) := by
  have legible : (Statement.constant "metadata" "Metadata").Legible :=
    Statement.legible_constant (.lit rfl) (.lit rfl)
  have literal := newline_notMem_stringLiteral title
  have single : '\n' ∉ ("  title: " ++ Markup.stringLiteral title ++ ",").toList := by
    simp [String.toList_append, literal]
  have inside : ∀ line ∈ Text.splitOn '\n' ("  title: " ++ Markup.stringLiteral title ++ ","),
      Statement.endsAt line = false := by
    rw [Text.splitOn_of_notMem single]
    refine List.forall_mem_singleton.mpr ?_
    simp [Statement.endsAt, String.toList_append]
  have ends : Statement.endsAt "\x7d;" = true := by decide
  have block := legible.ofText?_block rfl inside (by decide) ends ("\n" ++ rest)
  rw [Statement.ofText?_newline] at block
  rw [← block, metadataText_eq]
  simp only [String.append_assoc]

/-- Imports are read one after the other. -/
theorem ofText?_join {imports : List Import}
    (h : ∀ i ∈ imports, (Statement.importing i).Legible) (rest : String) :
    Statement.ofText? (String.join (imports.map Import.text) ++ rest) =
      (Statement.ofText? rest).map (imports.map .importing ++ ·) := by
  induction imports with
  | nil => simp
  | cons i imports ih =>
    obtain ⟨here, later⟩ := List.forall_mem_cons.mp h
    rw [List.map_cons, String.join_cons, Import.text_eq, String.append_assoc,
      here.ofText?_line rfl, ih later, Option.map_map]
    rfl

/-- What the file of an entry consists of. -/
def statements (entry : PageEntry) : List Statement :=
  entry.imports.map .importing ++
    (entry.title.map fun _ ↦ .constant "metadata" "Metadata").toList ++
    [.function entry.component.name]

/-- An entry whose imports and names can be told apart in its text, and whose component closes no
brace. -/
structure Legible (entry : PageEntry) : Prop where
  /-- Its imports are lines of words. -/
  imports : ∀ i ∈ entry.imports, (Statement.importing i).Legible
  /-- The name of its component is a word. -/
  name : Text.Solid entry.component.name
  /-- Its component ends where its text does. -/
  body : Text.Unclosing (entry.component.root.print Markup.printImage 4)

variable {entry : PageEntry}

/-- **The text of an entry says what the entry is made of**, and nothing else. -/
theorem Legible.ofText?_text (h : entry.Legible) :
    Statement.ofText? entry.text = some entry.statements := by
  have component := Component.ofText?_source (Statement.legible_function h.name) h.body
  rw [text, statements, String.append_assoc, String.append_assoc, ofText?_join h.imports,
    Statement.ofText?_newline]
  cases entry.title with
  | none =>
    rw [Option.map_none, Option.getD_none, String.empty_append, component]
    simp
  | some title =>
    rw [Option.map_some, Option.getD_some, ofText?_metadataText, component]
    simp

/-- So the file of an entry imports what the entry does. -/
theorem Legible.imports?_text (h : entry.Legible) (path : String) :
    (SourceFile.mk path entry.text).imports? = some entry.imports := by
  have others : (entry.title.map fun _ ↦ Statement.constant "metadata" "Metadata").toList.filterMap
      Statement.import? = [] := by
    cases entry.title <;> rfl
  rw [SourceFile.imports?, SourceFile.statements?, h.ofText?_text, Option.map_some, statements,
    List.filterMap_append, List.filterMap_append, others, List.filterMap_map]
  simp [Function.comp_def, Statement.import?]

/-- And it binds the names of the entry. -/
theorem Legible.boundNames?_text (h : entry.Legible) (path : String) :
    (SourceFile.mk path entry.text).boundNames? = some entry.boundNames := by
  rw [SourceFile.boundNames?, SourceFile.statements?, h.ofText?_text, Option.map_some, statements,
    boundNames]
  cases entry.title <;> simp [Function.comp_def, Statement.name]

end PageEntry

/-! ### Entries close no braces -/

namespace Markup

variable {ι : Type} {leaf : ι → String} {column : Nat} {tag : String}
  {attributes : List Attribute}

theorem unclosing_print_classes {names : String} (h : Text.Plain names) :
    Text.Unclosing (Attribute.classes names).print :=
  .append (.append (.lit rfl) (.lit rfl)) (.before (.after rfl h.unclosing) rfl)

theorem unclosing_openTag (name : Text.Plain tag)
    (h : ∀ a ∈ attributes, Text.Unclosing a.print) : Text.Unclosing (openTag tag attributes) :=
  .before (.append (.after rfl name.unclosing) (.join (List.forall_mem_map.mpr h))) rfl

theorem unclosing_closeTag (name : Text.Plain tag) : Text.Unclosing (closeTag tag) :=
  .before (.after rfl name.unclosing) rfl

theorem unclosing_escapeText (s : String) : Text.Unclosing (escapeText s) := by
  intro c mem
  rw [escapeText, String.toList_ofList] at mem
  obtain ⟨d, -, mem⟩ := List.mem_flatMap.mp mem
  exact bne_iff_ne.mpr (ne_of_mem_textChar mem).2.2.2

theorem unclosing_lineStart (column : Nat) : Text.Unclosing (lineStart column) := by
  refine .ofList (List.forall_mem_cons.mpr ⟨rfl, fun c mem ↦ ?_⟩)
  rw [List.eq_of_mem_replicate mem]
  rfl

/-- An element closes no brace if neither its tags nor its children do. -/
theorem unclosing_print_aligned {children : List (Markup ι)} (name : Text.Plain tag)
    (h : ∀ a ∈ attributes, Text.Unclosing a.print)
    (all : ∀ m ∈ children, Text.Unclosing (m.print leaf (column + 2))) :
    Text.Unclosing ((element tag attributes .aligned children).print leaf column) := by
  have opening := unclosing_openTag name h
  have closing := unclosing_closeTag name
  cases children with
  | nil => exact .append opening closing
  | cons m rest =>
    refine .append (.append (.append opening (.join ?_)) (unclosing_lineStart column)) closing
    rw [printAll_eq_map, List.map_map]
    exact List.forall_mem_map.mpr fun m mem ↦ .append (unclosing_lineStart _) (all m mem)

theorem unclosing_print_label {classes : String} (name : Text.Plain tag)
    (plain : Text.Plain classes) (s : String) :
    Text.Unclosing ((label tag classes s : Markup ι).print leaf column) := by
  have attributes : ∀ a ∈ [Attribute.classes classes], Text.Unclosing a.print :=
    List.forall_mem_singleton.mpr (unclosing_print_classes plain)
  refine .append (.append (unclosing_openTag name attributes) (.join ?_)) (unclosing_closeTag name)
  exact List.forall_mem_singleton.mpr (unclosing_escapeText s)

end Markup

/-! ### The entries of a site -/

theorem Naming.Named.solid {s : String} (h : Named s) : Text.Solid s :=
  fun c mem ↦ of_isNameChar rfl (by decide) (h c mem)

namespace PageEntry

variable {reserved : List String} {sections : List Section} {slots : List Slot}

theorem unclosing_use {name : String} (plain : Text.Plain name) (column : Nat) :
    Text.Unclosing ((use name).print Markup.printImage column) :=
  .before (.append (.after rfl plain.unclosing) (.join (List.forall_mem_nil _))) rfl

theorem unclosing_uses (h : Slot.Fits reserved (sections.map (·.baseName)) slots) (column : Nat) :
    ∀ m ∈ slots.map fun slot ↦ use slot.name,
      Text.Unclosing (m.print Markup.printImage column) := by
  intro m mem
  obtain ⟨slot, hslot, rfl⟩ := List.mem_map.mp mem
  exact unclosing_use (h.named hslot).plain column

theorem legible_imports (h : Slot.Fits reserved (sections.map (·.baseName)) slots)
    {first : Import} (hfirst : (Statement.importing first).Legible) :
    ∀ i ∈ first :: slots.map Import.ofSlot, (Statement.importing i).Legible := by
  refine List.forall_mem_cons.mpr ⟨hfirst, fun i mem ↦ ?_⟩
  obtain ⟨slot, hslot, rfl⟩ := List.mem_map.mp mem
  have name := (h.named hslot).solid
  have path : Text.Solid slot.importPath :=
    .append (.append (.append (.lit rfl) (.lit rfl)) (.lit rfl)) name
  exact Statement.legible_importing name path

theorem legible_home (h : Slot.Fits reserved (sections.map (·.baseName)) slots) :
    (home slots).Legible where
  imports := legible_imports h (Statement.legible_importing (.lit rfl) (.lit rfl))
  name := .lit rfl
  body := Markup.unclosing_print_aligned (.lit rfl) (List.forall_mem_nil _)
    (List.forall_mem_cons.mpr ⟨unclosing_use (.lit rfl) _, unclosing_uses h _⟩)

theorem legible_ofPage (h : Slot.Fits reserved (sections.map (·.baseName)) slots)
    {styles : Styles} (plain : styles.Plain) {plan : PagePlan}
    (name : Naming.Named plan.function) (business : String) :
    (ofPage business styles plan slots).Legible where
  imports := legible_imports h (Statement.legible_importing (.lit rfl) (.lit rfl))
  name := name.solid
  body := by
    have classes {names : String} (h : Text.Plain names) :
        ∀ a ∈ [Attribute.classes names], Text.Unclosing a.print :=
      List.forall_mem_singleton.mpr (Markup.unclosing_print_classes h)
    refine Markup.unclosing_print_aligned (.lit rfl) (classes (.lit rfl)) ?_
    split
    · refine List.forall_mem_singleton.mpr ?_
      refine Markup.unclosing_print_aligned (.lit rfl) (classes (.lit rfl)) ?_
      exact List.forall_mem_singleton.mpr
        (Markup.unclosing_print_label (.lit rfl) plain.pageTitle _)
    · exact unclosing_uses h _

end PageEntry

end Sitewright
