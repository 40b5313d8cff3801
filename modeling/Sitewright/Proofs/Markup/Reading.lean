import Sitewright.Proofs.Markup.Clean

/-!
# Reading printed markup

What a reader finds in the printed form of clean markup is what it finds in the leaves and tags of
the tree, in the order of the tree (`Markup.Clean.reads`). Three things carry this: no tag holds a
bracket or a line break besides its own brackets, or leaves a value open; a leaf is apart from what
it stands beside; and moving lines to the right hides nothing.
-/

namespace Sitewright

/-! ### Attributes -/

/-- The characters of a value, with those around it. -/
def AttributeValue.chars : AttributeValue → List Char
  | flag => []
  | fixed s => '=' :: '"' :: (s.toList ++ ['"'])
  | text s => '=' :: '"' :: ((Markup.escapeAttribute s).toList ++ ['"'])
  | link s => '=' :: '"' :: ((Markup.link s).toList ++ ['"'])
  | expression s => '=' :: '\x7b' :: (s.toList ++ ['\x7d'])

namespace Attribute

/-- The characters of an attribute, without the blank before it. -/
def chars (a : Attribute) : List Char := a.name.toList ++ a.value.chars

theorem print_toList (a : Attribute) : a.print.toList = ' ' :: a.chars := by
  obtain ⟨name, value⟩ := a
  cases value <;> simp [print, chars, AttributeValue.chars]

/-- No value is left open. -/
theorem Clean.isBody_value {a : Attribute} (h : a.Clean) : Text.IsBody a.value.chars := by
  obtain ⟨name, value⟩ := a
  cases value with
  | flag => exact .of_isPlain (List.forall_mem_nil _)
  | fixed s => exact .quoted (h.fixed s rfl).quotable
  | text s => exact .quoted (Markup.quotable_escapeAttribute s)
  | link s => exact .quoted (Markup.quotable_link s)
  | expression s => exact .braced (h.expression s rfl)

/-- No attribute ends its tag, and none is left open. -/
theorem Clean.isBody_print {a : Attribute} (h : a.Clean) : Text.IsBody a.print.toList := by
  have start : Text.IsBody (' ' :: a.name.toList) :=
    .of_isPlain (List.forall_mem_cons.mpr ⟨rfl, h.plain_name⟩)
  rw [print_toList, chars, ← List.cons_append]
  exact start.append h.isBody_value

end Attribute

namespace Markup

variable {ι β : Type}

/-! ### Tags -/

section Tags

variable {tag : String} {attributes : List Attribute}

theorem printAttributes_toList (attributes : List Attribute) :
    (printAttributes attributes).toList = attributes.flatMap fun a ↦ a.print.toList := by
  rw [printAttributes, String.toList_join, List.flatMap_map]

theorem isBody_printAttributes (h : Attribute.CleanAll attributes) :
    Text.IsBody (printAttributes attributes).toList := by
  rw [printAttributes_toList]
  induction attributes with
  | nil => exact .of_isPlain (List.forall_mem_nil _)
  | cons a rest ih =>
    obtain ⟨first, others⟩ := List.forall_mem_cons.mp h
    exact first.isBody_print.append (ih others)

/-- The characters between the brackets of an opening tag. -/
theorem openTag_toList (tag : String) (attributes : List Attribute) :
    (openTag tag attributes).toList =
      '<' :: (tag.toList ++ (printAttributes attributes).toList ++ ['>']) := by
  simp [openTag]

theorem voidTag_toList (tag : String) (attributes : List Attribute) :
    (voidTag tag attributes).toList =
      '<' :: (tag.toList ++ (printAttributes attributes).toList ++ [' ', '/'] ++ ['>']) := by
  simp [voidTag]

theorem closeTag_toList (tag : String) :
    (closeTag tag).toList = '<' :: ('/' :: tag.toList ++ ['>']) := by
  simp [closeTag]

theorem isBody_openTag (plain : Text.Plain tag) (clean : Attribute.CleanAll attributes) :
    Text.IsBody (tag.toList ++ (printAttributes attributes).toList) :=
  .append (.of_isPlain plain) (isBody_printAttributes clean)

theorem isTag_openTag (plain : Text.Plain tag) (clean : Attribute.CleanAll attributes) :
    Text.IsTag (openTag tag attributes).toList :=
  ⟨_, isBody_openTag plain clean, openTag_toList tag attributes⟩

theorem isBody_voidTag (plain : Text.Plain tag) (clean : Attribute.CleanAll attributes) :
    Text.IsBody (tag.toList ++ (printAttributes attributes).toList ++ [' ', '/']) :=
  .append (isBody_openTag plain clean) (.of_isPlain (List.all_eq_true.mp rfl))

theorem isTag_voidTag (plain : Text.Plain tag) (clean : Attribute.CleanAll attributes) :
    Text.IsTag (voidTag tag attributes).toList :=
  ⟨_, isBody_voidTag plain clean, voidTag_toList tag attributes⟩

theorem isBody_closeTag (plain : Text.Plain tag) : Text.IsBody ('/' :: tag.toList) :=
  .of_isPlain (List.forall_mem_cons.mpr ⟨rfl, plain⟩)

theorem isTag_closeTag (plain : Text.Plain tag) : Text.IsTag (closeTag tag).toList :=
  ⟨_, isBody_closeTag plain, closeTag_toList tag⟩

end Tags

/-! ### Printing -/

mutual

/-- What a search finds in the leaves and tags of a tree. -/
def found (find : List Char → List β) (leaf : ι → String) : Markup ι → List β
  | text s => find (escapeText s).toList
  | fixed s => find s.toList
  | image picture => find (leaf picture).toList
  | void tag attributes => find (voidTag tag attributes).toList
  | element tag attributes _ children =>
    find (openTag tag attributes).toList ++ foundInAll find leaf children ++
      find (closeTag tag).toList

/-- What a search finds in the leaves and tags of several trees. -/
def foundInAll (find : List Char → List β) (leaf : ι → String) : List (Markup ι) → List β
  | [] => []
  | m :: rest => found find leaf m ++ foundInAll find leaf rest

end

/-- What stands between the tags of an element. -/
def inner (leaf : ι → String) (column : Nat) : Flow → List (Markup ι) → String
  | .inline, children => String.join (printAll leaf column children)
  | _, [] => ""
  | .stacked, children =>
    "\n" ++ Text.indent (column + 2) (Text.joinWith "\n" (printAll leaf 0 children)) ++
      lineStart column
  | .aligned, children =>
    String.join ((printAll leaf (column + 2) children).map fun s ↦ lineStart (column + 2) ++ s) ++
      lineStart column

theorem print_element (leaf : ι → String) (column : Nat) (tag : String)
    (attributes : List Attribute) (flow : Flow) (children : List (Markup ι)) :
    print leaf column (element tag attributes flow children) =
      openTag tag attributes ++ inner leaf column flow children ++ closeTag tag := by
  cases flow with
  | inline => simp only [print, inner]
  | stacked => cases children <;> simp [print, inner, String.append_assoc]
  | aligned => cases children <;> simp [print, inner, String.append_assoc]

section Reading

variable {find : List Char → List β} {ok : ι → Prop} {logos : Prop} {leaf : ι → String}
  (reader : Text.Reader find)
  (leaves : ∀ picture, ok picture → Text.IsTag (leaf picture).toList)

/-- That a reader finds in the printed form of markup what it finds in the tree. -/
structure Reads (find : List Char → List β) (leaf : ι → String) (m : Markup ι) : Prop where
  /-- The printed form is tidy. -/
  tidy : ∀ column, Text.Tidy (m.print leaf column).toList
  /-- Its findings are those of the tree. -/
  found : ∀ column, find (m.print leaf column).toList = m.found find leaf

/-- Escaping puts a gap only in the place of a gap. -/
theorem isGap_head_textChar {c : Char} (gap : Text.isGap c = true) (rest : List Char) :
    (textChar c ++ rest).head?.any Text.isGap = true := by
  unfold textChar
  split
  case h_6 => exact gap
  all_goals rfl

include leaves in
theorem Clean.opens_print {m : Markup ι} (h : Clean ok logos m) (opens : m.opens = true)
    (column : Nat) : (m.print leaf column).toList.head?.any Text.isGap = true := by
  cases h with
  | @text s =>
    rw [print, escapeText, String.toList_ofList]
    rw [Markup.opens] at opens
    cases chars : s.toList with
    | nil =>
      rw [chars] at opens
      cases opens
    | cons c cs =>
      rw [chars] at opens
      exact isGap_head_textChar opens _
  | fixed => exact opens
  | image allowed => simpa [print] using (leaves _ allowed).head_append []
  | logo _ clean => simpa [print] using (isTag_voidTag (.lit rfl) clean).head_append []
  | void name clean =>
    simpa [print] using (isTag_voidTag (plain_of_isTagName name) clean).head_append []
  | element name clean =>
    rw [print_element, String.toList_append, String.toList_append, List.append_assoc]
    exact (isTag_openTag (plain_of_isTagName name) clean).head_append _

include leaves in
theorem Clean.closes_print {m : Markup ι} (h : Clean ok logos m) (closes : m.closes = true)
    (column : Nat) : (m.print leaf column).toList.getLast?.any Text.isGap = true := by
  cases h with
  | text => cases closes
  | fixed => exact closes
  | image allowed => exact (leaves _ allowed).append_last []
  | logo _ clean => exact (isTag_voidTag (.lit rfl) clean).append_last []
  | void name clean => exact (isTag_voidTag (plain_of_isTagName name) clean).append_last []
  | element name =>
    rw [print_element, String.toList_append]
    exact (isTag_closeTag (plain_of_isTagName name)).append_last _

variable {ms : List (Markup ι)}

theorem tidy_of_mem_printAll (each : ∀ m ∈ ms, Reads find leaf m) (column : Nat) :
    ∀ cs ∈ (printAll leaf column ms).map String.toList, Text.Tidy cs := by
  rw [printAll_eq_map, List.map_map]
  intro cs mem
  obtain ⟨m, hm, rfl⟩ := List.mem_map.mp mem
  exact (each m hm).tidy column

theorem flatMap_printAll (each : ∀ m ∈ ms, Reads find leaf m) (column : Nat) :
    ((printAll leaf column ms).map String.toList).flatMap find = foundInAll find leaf ms := by
  induction ms with
  | nil => rfl
  | cons m rest ih =>
    obtain ⟨first, others⟩ := List.forall_mem_cons.mp each
    rw [printAll, List.map_cons, List.flatMap_cons, first.found, ih others, foundInAll]

include reader

include leaves in
theorem reads_inline (each : ∀ m ∈ ms, Reads find leaf m) (clean : ∀ m ∈ ms, Clean ok logos m)
    (beside : ms.IsChain Beside) (column : Nat) :
    Text.Tidy (inner leaf column .inline ms).toList ∧
      find (inner leaf column .inline ms).toList = foundInAll find leaf ms := by
  have chain : ((printAll leaf column ms).map String.toList).IsChain Text.Bordered := by
    rw [printAll_eq_map, List.map_map, List.isChain_map]
    refine beside.imp_of_mem_imp fun m next hm hnext ↦ ?_
    exact Or.imp (fun h ↦ (clean m hm).closes_print leaves h column)
      fun h ↦ (clean next hnext).opens_print leaves h column
  have pieces : (inner leaf column .inline ms).toList =
      ((printAll leaf column ms).map String.toList).flatten := by
    rw [inner, String.toList_join, List.flatMap_def]
  rw [pieces, ← flatMap_printAll each column]
  exact reader.flatten (tidy_of_mem_printAll each column) chain

/-- White space at the end of a line hides nothing. -/
theorem reads_lineStart {cs : List Char} (tidy : Text.Tidy cs) (column : Nat) :
    Text.Tidy (cs ++ (lineStart column).toList) ∧
      find (cs ++ (lineStart column).toList) = find cs := by
  rw [lineStart, String.toList_ofList]
  refine ⟨tidy.append (.char (by decide) (.spaces column)), ?_⟩
  rw [reader.line_feed tidy, reader.spaces, List.append_nil]

theorem reads_stacked (each : ∀ m ∈ ms, Reads find leaf m) (column : Nat) :
    Text.Tidy (inner leaf column .stacked ms).toList ∧
      find (inner leaf column .stacked ms).toList = foundInAll find leaf ms := by
  cases ms with
  | nil => exact ⟨.nil, reader.nil⟩
  | cons m rest =>
    have lines := tidy_of_mem_printAll each 0
    have block : (Text.joinWith "\n" (printAll leaf 0 (m :: rest))).toList =
        List.intercalate ['\n'] ((printAll leaf 0 (m :: rest)).map String.toList) := by
      rw [Text.joinWith, String.toList_intercalate]
      rfl
    have tidy := Text.Tidy.intercalate_iff.mpr lines
    have moved := Text.tidy_indentChars tidy (column + 2)
    have start := Text.Tidy.char (c := '\n') (by decide) moved
    have chars : (inner leaf column .stacked (m :: rest)).toList =
        ('\n' :: Text.indentChars (column + 2)
          (List.intercalate ['\n'] ((printAll leaf 0 (m :: rest)).map String.toList))) ++
          (lineStart column).toList := by
      rw [inner, String.toList_append, String.toList_append, Text.indent, String.toList_ofList,
        String.toList_ofList, block]
      · rfl
      · exact List.cons_ne_nil m rest
    obtain ⟨whole, found⟩ := reads_lineStart reader start column
    rw [chars]
    refine ⟨whole, ?_⟩
    rw [found, reader.blank _ _ (.inr (.inl rfl)), reader.indentChars tidy,
      reader.intercalate lines, flatMap_printAll each]

theorem reads_aligned (each : ∀ m ∈ ms, Reads find leaf m) (column : Nat) :
    Text.Tidy (inner leaf column .aligned ms).toList ∧
      find (inner leaf column .aligned ms).toList = foundInAll find leaf ms := by
  cases ms with
  | nil => exact ⟨.nil, reader.nil⟩
  | cons m rest =>
    let start (cs : List Char) : List Char := '\n' :: (Text.spaces (column + 2) ++ cs)
    let pieces := (printAll leaf (column + 2) (m :: rest)).map String.toList
    have tidy : ∀ cs ∈ pieces.map start, Text.Tidy cs := by
      intro cs mem
      obtain ⟨piece, hpiece, rfl⟩ := List.mem_map.mp mem
      have piece := tidy_of_mem_printAll each (column + 2) piece hpiece
      exact .char (by decide) ((Text.Tidy.spaces _).append piece)
    have chain : (pieces.map start).IsChain Text.Bordered :=
      (List.isChain_map start).mpr (List.pairwise_of_forall fun _ _ ↦ .inr rfl).isChain
    have same : (fun cs ↦ find (start cs)) = find := by
      funext cs
      exact (reader.blank _ _ (.inr (.inl rfl))).trans (reader.blanks _)
    have chars : (inner leaf column .aligned (m :: rest)).toList =
        (pieces.map start).flatten ++ (lineStart column).toList := by
      rw [inner, String.toList_append, String.toList_join, List.flatMap_map, ← List.flatMap_def,
        List.flatMap_map]
      · simp only [String.toList_append, lineStart, String.toList_ofList, List.cons_append, start]
      · exact List.cons_ne_nil m rest
    obtain ⟨flat, found⟩ := reader.flatten tidy chain
    obtain ⟨whole, ended⟩ := reads_lineStart reader flat column
    rw [chars]
    refine ⟨whole, ?_⟩
    rw [ended, found, List.flatMap_map, same, flatMap_printAll each]

include leaves

/-- **Printing hides nothing.** -/
theorem Clean.reads {m : Markup ι} (h : Clean ok logos m) : Reads find leaf m := by
  induction h with
  | text =>
    refine ⟨fun _ ↦ .of_forall_ne fun c mem ↦ ?_, fun _ ↦ rfl⟩
    rintro rfl
    exact bracket_notMem_escapeText _ mem
  | fixed plain =>
    refine ⟨fun _ ↦ .of_forall_ne fun c mem ↦ ?_, fun _ ↦ rfl⟩
    rintro rfl
    cases plain _ mem
  | image allowed => exact ⟨fun _ ↦ (leaves _ allowed).tidy, fun _ ↦ rfl⟩
  | logo _ clean => exact ⟨fun _ ↦ (isTag_voidTag (.lit rfl) clean).tidy, fun _ ↦ rfl⟩
  | void name clean =>
    exact ⟨fun _ ↦ (isTag_voidTag (plain_of_isTagName name) clean).tidy, fun _ ↦ rfl⟩
  | @element tag attributes flow children name clean beside all ih =>
    have opening := isTag_openTag (plain_of_isTagName name) clean
    have closing := isTag_closeTag (plain_of_isTagName name)
    have body (column : Nat) : Text.Tidy (inner leaf column flow children).toList ∧
        find (inner leaf column flow children).toList = foundInAll find leaf children := by
      cases flow with
      | inline => exact reads_inline reader leaves ih all (beside rfl) column
      | stacked => exact reads_stacked reader ih column
      | aligned => exact reads_aligned reader ih column
    refine ⟨fun column ↦ ?_, fun column ↦ ?_⟩ <;>
      rw [print_element, String.toList_append, String.toList_append]
    · exact (reader.between opening (body column).1 closing).1
    · rw [(reader.between opening (body column).1 closing).2, (body column).2, found]

end Reading

/-- What stands before the root of a component. -/
def opening (c : Component ι) : String :=
  "export default function " ++ c.name ++ "() \x7b\n  return (\n    "

/-- What stands after the root of a component. -/
def closing : String := "\n  );\n\x7d\n"

theorem print_component (leaf : ι → String) (c : Component ι) : (c.print leaf).toList =
    (opening c).toList ++ ((c.root.print leaf 4).toList ++ closing.toList) := by
  delta Component.print opening closing
  rw [String.toList_append, String.toList_append, List.append_assoc]

/-- Characters that belong to no tag and to no value. -/
def isQuiet (c : Char) : Bool := c != '<' && c != '"'

theorem isQuiet_of_isPlain {c : Char} (h : Text.isPlain c = true) : isQuiet c = true := by
  obtain ⟨inert, quote⟩ := Text.isQuotable_iff.mp (Text.isPlain_iff.mp h).1
  obtain ⟨-, -, bracket, -⟩ := Text.isInert_iff.mp inert
  rw [isQuiet, Bool.and_eq_true, bne_iff_ne, bne_iff_ne]
  exact ⟨bracket, quote⟩

theorem only_opening {c : Component ι} (name : Text.Plain c.name) :
    Text.Only isQuiet (opening c) := by
  have name : Text.Only isQuiet c.name := fun d mem ↦ isQuiet_of_isPlain (name d mem)
  exact .before (.after rfl name) rfl

theorem apart_opening (c : Component ι) (rest : List Char) :
    Text.Apart (opening c).toList rest := by
  have space : (opening c).toList.getLast? = some ' ' := by
    delta opening
    rw [String.toList_append, List.getLast?_append, String.toList_ofList]
    simp
  refine .inl fun d last ↦ ?_
  rw [space] at last
  rw [← Option.some.inj last]
  decide

/-- A component is its root between texts without brackets and quotes, in which nothing is found. -/
theorem reads_component {find : List Char → List β} {ok : ι → Prop} {logos : Prop}
    {leaf : ι → String} (reader : Text.Reader find)
    (quiet : ∀ cs : List Char, '<' ∉ cs → '"' ∉ cs → find cs = [])
    (leaves : ∀ picture, ok picture → Text.IsTag (leaf picture).toList) {c : Component ι}
    (name : Text.Plain c.name) (h : Clean ok logos c.root) :
    Text.Tidy (c.print leaf).toList ∧ find (c.print leaf).toList = c.root.found find leaf := by
  have silent {s : String} (h : Text.Only isQuiet s) : Text.Tidy s.toList ∧ find s.toList = [] := by
    have bracket : '<' ∉ s.toList := fun mem ↦ by cases h _ mem
    have quote : '"' ∉ s.toList := fun mem ↦ by cases h _ mem
    exact ⟨.of_forall_ne fun c mem eq ↦ bracket (eq ▸ mem), quiet _ bracket quote⟩
  obtain ⟨tidy, none⟩ := silent (only_opening name)
  obtain ⟨tidy', none'⟩ : Text.Tidy closing.toList ∧ find closing.toList = [] := silent (.lit rfl)
  have border (a : List Char) : Text.Apart a closing.toList := by
    delta closing
    rw [String.toList_ofList]
    exact .of_head (by decide)
  obtain ⟨root, found⟩ := h.reads reader leaves
  rw [print_component]
  refine ⟨tidy.append ((root 4).append tidy'), ?_⟩
  rw [reader.append tidy (apart_opening c _), reader.append (root 4) (border _), none, none', found,
    List.nil_append, List.append_nil]

end Markup

end Sitewright
