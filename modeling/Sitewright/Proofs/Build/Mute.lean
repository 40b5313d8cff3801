import Mathlib.Data.List.Infix
import Sitewright.Build.Skeleton
import Sitewright.Proofs.Image.Copy
import Sitewright.Proofs.Json.Sorted
import Sitewright.Proofs.Render.Draft

/-!
# Texts without tokens

The files that every page shares are written as texts, not as trees, and no source attribute with a
token comes into being in them, whatever the configuration and the options say: they are *mute*
(`Skeleton.mute_of_mem_files`). Texts of a configuration stand in string literals there, and what
looks like a source attribute in a literal is none, because a quote in a literal has a backslash
before it.
-/

namespace Sitewright

/-- A text without tokens. -/
def Text.Mute (s : String) : Prop := Piece.tokens s.toList = []

/-! ### Literals -/

namespace Text

/-- Whether a text starts like the quoted value of a token. -/
def startsValue : List Char → Bool
  | c :: d :: _ => c.toNat.beq 34 && d.toNat.beq 73
  | _ => false

/-- Whether nothing in a text looks like the value of a token behind an equals sign. Characters are
told by their codes, so that a long text is checked fast. -/
def isMute : List Char → Bool
  | [] => true
  | c :: cs => !(c.toNat.beq 61 && startsValue cs) && isMute cs

variable {a b cs : List Char}

theorem isMute_of_append (h : isMute (a ++ b) = true) : isMute b = true := by
  induction a with
  | nil => exact h
  | cons c a ih => exact ih (Bool.and_eq_true_iff.mp h).2

theorem startsValue_cons {c : Char} (h : c ≠ '"') (cs : List Char) :
    startsValue (c :: cs) = false := by
  cases cs with
  | nil => rfl
  | cons d cs =>
    have quote : c.toNat.beq 34 = false := beq_toNat_eq_false_iff.mpr h
    rw [startsValue, quote, Bool.false_and]

/-- A text without quotes does not make what follows it the value of an attribute, unless that
starts as one. -/
theorem isMute_append (quote : '"' ∉ a) (head : startsValue b = false) (h : isMute b = true) :
    isMute (a ++ b) = true := by
  induction a with
  | nil => exact h
  | cons c a ih =>
    obtain ⟨-, others⟩ := not_or.mp (mt List.mem_cons.mpr quote)
    have next : startsValue (a ++ b) = false := by
      cases a with
      | nil => exact head
      | cons d a =>
        have other : d ≠ '"' := fun eq ↦ others (eq ▸ List.mem_cons_self)
        exact startsValue_cons other _
    rw [List.cons_append, isMute, next, Bool.and_false, ih others]
    rfl

/-- Every token stands behind an equals sign. -/
theorem tokens_eq_nil_of_isMute (h : isMute cs = true) : Piece.tokens cs = [] := by
  refine Piece.tokensFrom_eq_nil fun digits _ inner ↦ ?_
  obtain ⟨before, after, rfl⟩ := inner
  rw [List.append_assoc] at h
  have value : isMute (Piece.chars (.source digits) ++ after) = true := isMute_of_append h
  cases value

/-- A way to write characters between quotes: a quote is written behind a backslash. -/
def Guards (write : Char → List Char) : Prop :=
  ∀ c, write c = ['\\', '"'] ∨ write c ≠ [] ∧ '"' ∉ write c

variable {write : Char → List Char}

/-- In a literal, no quote stands behind an equals sign but the last one. -/
theorem Guards.isMute_literal (h : Guards write) (cs : List Char) :
    isMute (cs.flatMap write ++ ['"']) = true ∧
      startsValue (cs.flatMap write ++ ['"']) = false := by
  induction cs with
  | nil => exact ⟨rfl, rfl⟩
  | cons c cs ih =>
    obtain ⟨mute, start⟩ := ih
    rw [List.flatMap_cons, List.append_assoc]
    rcases h c with guarded | ⟨some, quote⟩
    · -- The quote has its backslash before it, so nothing starts there.
      rw [guarded]
      exact ⟨mute, startsValue_cons (by decide) _⟩
    · refine ⟨isMute_append quote start mute, ?_⟩
      obtain ⟨d, ds, chars⟩ := List.exists_cons_of_ne_nil some
      rw [chars] at quote ⊢
      exact startsValue_cons (fun eq ↦ quote (eq ▸ List.mem_cons_self)) _

/-- A text that ends with a gap does so behind another one. -/
theorem isGap_last_append {t : String} (h : t.toList.getLast?.any isGap = true) (s : String) :
    (s ++ t).toList.getLast?.any isGap = true := by
  rw [String.toList_append, List.getLast?_append]
  cases last : t.toList.getLast? with
  | none =>
    rw [last] at h
    cases h
  | some c =>
    rw [last] at h
    exact h

namespace Mute

variable {s t : String}

/-- A literal between its quotes is mute. -/
theorem guarded (h : Guards write) (cs : List Char) :
    Mute (String.ofList ('"' :: cs.flatMap write ++ ['"'])) := by
  rw [Mute, String.toList_ofList]
  exact tokens_eq_nil_of_isMute (h.isMute_literal cs).1

/-- A text that is written out is looked through. -/
theorem lit (h : isMute cs = true) : Mute (.ofList cs) := by
  rw [Mute, String.toList_ofList]
  exact tokens_eq_nil_of_isMute h

theorem of_quote_notMem (h : '"' ∉ s.toList) : Mute s := Piece.tokens_eq_nil_of_notMem h

/-- A text without quotes before one that is written out. -/
theorem unquoted (hs : '"' ∉ s.toList) (head : startsValue cs = false) (h : isMute cs = true) :
    Mute (s ++ .ofList cs) := by
  rw [Mute, String.toList_append, String.toList_ofList]
  exact tokens_eq_nil_of_isMute (isMute_append hs head h)

theorem append (hs : Mute s) (ht : Mute t) (border : Bordered s.toList t.toList) :
    Mute (s ++ t) := by
  have apart := border.apart []
  rw [List.append_nil] at apart
  rw [Mute, String.toList_append, Piece.tokens_append apart, hs, ht, List.append_nil]

/-- A text after one that is written out and ends with a gap. -/
theorem after (h : isMute cs = true) (gap : cs.getLast?.any isGap = true) (hs : Mute s) :
    Mute (.ofList cs ++ s) := by
  refine (lit h).append hs (.inl ?_)
  rwa [String.toList_ofList]

/-- A text before one that is written out and starts with a gap. -/
theorem before (hs : Mute s) (h : isMute cs = true) (gap : cs.head?.any isGap = true) :
    Mute (s ++ .ofList cs) := by
  refine hs.append (lit h) (.inr ?_)
  rwa [String.toList_ofList]

/-- Texts that end with gaps are mute one after the other. -/
theorem join {texts : List String} (h : ∀ s ∈ texts, Mute s)
    (gaps : ∀ s ∈ texts, s.toList.getLast?.any isGap = true) : Mute (String.join texts) := by
  rw [Mute, String.toList_join]
  induction texts with
  | nil => rfl
  | cons s rest ih =>
    obtain ⟨first, others⟩ := List.forall_mem_cons.mp h
    obtain ⟨gap, gaps⟩ := List.forall_mem_cons.mp gaps
    have apart : Apart s.toList (rest.flatMap String.toList) := .of_isGap_last gap _
    rw [List.flatMap_cons, Piece.tokens_append apart, first, ih others gaps, List.append_nil]

/-- Lines are mute if each of them is. -/
theorem lines {texts : List String} (h : ∀ s ∈ texts, Mute s) : Mute (Skeleton.lines texts) := by
  refine join (fun line mem ↦ ?_) fun line mem ↦ ?_
  · obtain ⟨s, hs, rfl⟩ := List.mem_map.mp mem
    exact (h s hs).before rfl (by decide)
  · obtain ⟨s, -, rfl⟩ := List.mem_map.mp mem
    exact isGap_last_append rfl s

end Mute

end Text

/-- No hexadecimal digit is a quote. -/
theorem Text.quote_notMem_hexFixed (width n : Nat) : '"' ∉ hexFixed width n := by
  have digit : ∀ d < 16, hexDigit d ≠ '"' := by decide
  induction width generalizing n with
  | zero => exact List.not_mem_nil
  | succ width ih =>
    rw [hexFixed, List.mem_append, List.mem_singleton, not_or]
    exact ⟨ih _, (digit _ (Nat.mod_lt n (by decide))).symm⟩

/-- A character that is written by its code is written without quotes. -/
theorem Text.quote_notMem_code (n : Nat) :
    ['\\', 'u'] ++ hexFixed 4 n ≠ [] ∧ '"' ∉ ['\\', 'u'] ++ hexFixed 4 n := by
  have digits := quote_notMem_hexFixed 4 n
  exact ⟨List.cons_ne_nil _ _, by simp [digits]⟩

/-- A character that is no quote is written without quotes as itself. -/
theorem Text.quote_notMem_singleton {c : Char} (h : c ≠ '"') : [c] ≠ [] ∧ '"' ∉ [c] :=
  ⟨List.cons_ne_nil _ _, fun mem ↦ h (List.mem_singleton.mp mem).symm⟩

theorem Markup.guards_literalChar : Text.Guards Markup.literalChar := by
  intro c
  unfold Markup.literalChar
  split
  case h_7 quote _ _ _ _ _ =>
    refine .inr ?_
    split
    · exact Text.quote_notMem_code c.toNat
    · exact Text.quote_notMem_singleton quote
  · exact .inl rfl
  all_goals exact .inr (by decide)

theorem Json.guards_escapeChar : Text.Guards Json.escapeChar := by
  intro c
  unfold Json.escapeChar
  split
  case h_6 quote _ _ _ _ =>
    refine .inr ?_
    split
    · decide
    · split
      · decide
      · split
        · exact Text.quote_notMem_code c.toNat
        · exact Text.quote_notMem_singleton quote
  · exact .inl rfl
  all_goals exact .inr (by decide)

/-! ### Manifests -/

namespace Json

open Text (Mute)

theorem mute_printText (s : String) : Mute (printText s) := .guarded guards_escapeChar s.toList

/-- The start of a line holds no token. -/
theorem tokens_newLine_append (level : Nat) (cs : List Char) :
    Piece.tokens ((newLine level).toList ++ cs) = Piece.tokens cs := by
  have blanks : Piece.tokens (Text.spaces (2 * level) ++ cs) = Piece.tokens cs :=
    Piece.reader_tokens.blanks _
  rw [newLine, String.toList_ofList, List.cons_append, Piece.tokens_cons_of_isGap (by decide)]
  exact blanks

/-- What follows an entry is another one, after a comma. -/
theorem isGap_head_prettyEntries {level : Nat} {entries : List (String × Json)} :
    ∀ c, (prettyEntries level false entries).toList.head? = some c → Text.isGap c = true := by
  intro c head
  cases entries with
  | nil => cases head
  | cons entry rest =>
    rw [prettyEntries] at head
    simp only [Bool.false_eq_true, if_false, String.append_assoc, String.toList_append] at head
    cases head
    decide

theorem mute_prettyEntries {level : Nat} {first : Bool} {entries : List (String × Json)}
    (h : ∀ entry ∈ entries, Mute (prettyAt level entry.2)) :
    Mute (prettyEntries level first entries) := by
  induction entries generalizing first with
  | nil => rfl
  | cons entry rest ih =>
    obtain ⟨key, value⟩ := entry
    obtain ⟨here, others⟩ := List.forall_mem_cons.mp h
    have later : Mute (prettyEntries level false rest) := ih others
    -- Between the parts of an entry stand a colon and a space.
    have line : Piece.tokens ((newLine level ++ printText key ++ ": " ++ prettyAt level value ++
        prettyEntries level false rest).toList) = [] := by
      have colon (cs : List Char) : Text.Apart (printText key).toList (':' :: ' ' :: cs) :=
        .of_head (by decide)
      have parts : (newLine level ++ printText key ++ ": " ++ prettyAt level value ++
          prettyEntries level false rest).toList = (newLine level).toList ++
            ((printText key).toList ++ ':' :: ' ' :: ((prettyAt level value).toList ++
              (prettyEntries level false rest).toList)) := by
        simp [String.toList_append]
      rw [parts, tokens_newLine_append, Piece.tokens_append (colon _), mute_printText key,
        Piece.tokens_cons_of_isGap (by decide), Piece.tokens_cons_of_isGap (by decide),
        Piece.tokens_append (.inr isGap_head_prettyEntries), here, later]
      rfl
    rw [Mute, prettyEntries]
    cases first with
    | true => simpa [String.append_assoc] using line
    | false =>
      have comma : ((if false = true then "" else ",") ++ newLine level ++ printText key ++ ": " ++
          prettyAt level value ++ prettyEntries level false rest).toList =
          ',' :: (newLine level ++ printText key ++ ": " ++ prettyAt level value ++
            prettyEntries level false rest).toList := by
        simp [String.toList_append]
      rw [comma, Piece.tokens_cons_of_isGap (by decide), line]

/-- An object is mute if its values are. -/
theorem mute_obj {level : Nat} {entries : List (String × Json)}
    (h : ∀ entry ∈ entries, Mute (prettyAt (level + 1) entry.2)) :
    Mute (prettyAt level (.obj entries)) := by
  cases entries with
  | nil => exact .lit rfl
  | cons entry rest =>
    have inner : Mute (prettyEntries (level + 1) true (entry :: rest)) := mute_prettyEntries h
    have parts : (prettyAt level (.obj (entry :: rest))).toList =
        '\x7b' :: ((prettyEntries (level + 1) true (entry :: rest)).toList ++
          ((newLine level).toList ++ ['\x7d'])) := by
      simp [prettyAt, String.toList_append]
    have feed : Text.Apart (prettyEntries (level + 1) true (entry :: rest)).toList
        ((newLine level).toList ++ ['\x7d']) := by
      rw [newLine, String.toList_ofList]
      exact .of_head (by decide)
    rw [Mute, parts, Piece.tokens_cons_of_isGap (by decide), Piece.tokens_append feed, inner,
      tokens_newLine_append]
    exact Piece.tokens_eq_nil_of_notMem (by decide)

theorem mute_str (level : Nat) (s : String) : Mute (prettyAt level (.str s)) := by
  rw [prettyAt]
  exact mute_printText s

end Json

namespace Skeleton

open Text (Mute)

theorem mute_versions (level : Nat) (entries : List (String × String)) :
    Mute ((versions entries).prettyAt level) := by
  refine Json.mute_obj fun entry mem ↦ ?_
  obtain ⟨_, -, rfl⟩ := List.mem_map.mp (Entries.mem_of_mem_sort mem)
  exact Json.mute_str _ _

theorem mute_manifest (business : Business) (packages : Packages) :
    Mute ((manifest business packages).pretty ++ "\n") := by
  have scripts : Mute ((Json.obj [("build", .str "next build"), ("dev", .str "next dev"),
      ("lint", .str "next lint"), ("start", .str "next start")]).prettyAt 1) := by
    refine Json.mute_obj ?_
    simp only [List.forall_mem_cons, Json.mute_str, true_and]
    exact List.forall_mem_nil _
  have whole : Mute ((manifest business packages).prettyAt 0) := by
    refine Json.mute_obj ?_
    simp only [List.forall_mem_cons, Json.mute_str, mute_versions, scripts, true_and]
    exact ⟨.lit rfl, List.forall_mem_nil _⟩
  exact whole.before rfl (by decide)

theorem mute_frameworkSettings : Mute frameworkSettings := by
  refine .lines ?_
  repeat refine List.forall_mem_cons.mpr ⟨.lit rfl, ?_⟩
  exact List.forall_mem_nil _

theorem mute_checkerSettings : Mute checkerSettings := by
  refine .lines ?_
  repeat refine List.forall_mem_cons.mpr ⟨.lit rfl, ?_⟩
  exact List.forall_mem_nil _

theorem mute_pipelineSettings : Mute pipelineSettings := by
  refine .lines ?_
  repeat refine List.forall_mem_cons.mpr ⟨.lit rfl, ?_⟩
  exact List.forall_mem_nil _

theorem mute_classSettings : Mute classSettings := by
  refine .lines ?_
  repeat refine List.forall_mem_cons.mpr ⟨.lit rfl, ?_⟩
  exact List.forall_mem_nil _

theorem mute_globalStyles (theme : Theme) : Mute (globalStyles theme) := by
  have scheme : Text.Plain ("  color-scheme: " ++ (if theme.isDark then "dark" else "light") ++
      ";") := by
    refine .before (.after rfl ?_) rfl
    split <;> exact .lit rfl
  refine .lines ?_
  simp only [List.forall_mem_cons]
  exact ⟨.lit rfl, .lit rfl, .lit rfl, .lit rfl, .lit rfl, .of_quote_notMem scheme.quote_notMem,
    .lit rfl, .lit rfl, .lit rfl, .lit rfl, .lit rfl, .lit rfl, .lit rfl, .lit rfl, .lit rfl,
    List.forall_mem_nil _⟩

theorem mute_loading {styles : Styles} (h : styles.Plain) : Mute (loading styles) := by
  have primary := styles.theme.primary.plain_tag.quote_notMem
  have page : Mute ("    <div className=\"flex min-h-screen items-center justify-center " ++
      styles.page ++ "\">") := by
    rw [String.append_assoc]
    exact .after rfl (by decide) (.unquoted h.page.quote_notMem rfl rfl)
  have spinner : Mute
      ("      <div className=\"h-12 w-12 animate-spin rounded-full border-4 border-" ++
      styles.theme.primary.tag ++ "-200 border-t-" ++ styles.theme.primary.tag ++ "-600\" />") := by
    have last : Mute ("-200 border-t-" ++ (styles.theme.primary.tag ++ "-600\" />")) :=
      .after rfl (by decide) (.unquoted primary rfl rfl)
    have dash : ("-200 border-t-" ++ (styles.theme.primary.tag ++ "-600\" />")).toList.head?.any
        Text.isGap = true := by
      rw [String.toList_append]
      rfl
    rw [String.append_assoc, String.append_assoc, String.append_assoc]
    exact .after rfl (by decide +kernel) (.append (.of_quote_notMem primary) last (.inr dash))
  refine .lines ?_
  simp only [List.forall_mem_cons]
  exact ⟨.lit rfl, .lit rfl, page, spinner, .lit rfl, .lit rfl, .lit rfl, List.forall_mem_nil _⟩

theorem plain_families (style : FontStyle) :
    Text.Plain style.families.1 ∧ Text.Plain style.families.2 := by
  cases style <;> exact ⟨.lit rfl, .lit rfl⟩

/-- The definition of a font is mute if the property it defines is. -/
theorem mute_font {name family property : String} (hname : Text.Plain name)
    (hfamily : Text.Plain family)
    (hproperty : Text.isMute ("(\x7b subsets: [\"latin\"], variable: \"" ++ property ++
      "\", display: \"swap\" \x7d);").toList = true) : Mute (font name family property) := by
  have start : Text.Plain ("const " ++ name ++ " = " ++ family) :=
    .append (.before (.after rfl hname) rfl) hfamily
  have parts : font name family property = ("const " ++ name ++ " = " ++ family) ++
      ("(\x7b subsets: [\"latin\"], variable: \"" ++ property ++
        "\", display: \"swap\" \x7d);") := by
    simp only [font, String.append_assoc]
  have bracket : Text.startsValue ("(\x7b subsets: [\"latin\"], variable: \"" ++ property ++
      "\", display: \"swap\" \x7d);").toList = false := by
    rw [String.toList_append, String.toList_append]
    rfl
  rw [Mute, parts, String.toList_append]
  exact Text.tokens_eq_nil_of_isMute (Text.isMute_append start.quote_notMem bracket hproperty)

theorem mute_layout (business : Business) {styles : Styles} (h : styles.Plain)
    (bodyFont : styles.bodyFont = "font-body") : Mute (layout business styles) := by
  have field {name : List Char} (h : Text.isMute name = true)
      (gap : name.getLast?.any Text.isGap = true) (s : String) :
      Mute (.ofList name ++ Markup.stringLiteral s ++ ",") :=
    .before (.after h gap (.guarded Markup.guards_literalChar s.toList)) rfl (by decide)
  have body : Mute ("      <body className=\"" ++ styles.bodyFont ++ " antialiased " ++
      styles.page ++ "\">") := by
    have start : Mute ("      <body className=\"" ++ "font-body" ++ " antialiased ") :=
      Text.tokens_eq_nil_of_isMute rfl
    rw [bodyFont, String.append_assoc]
    exact start.append (.unquoted h.page.quote_notMem rfl rfl) (.inl (by decide))
  obtain ⟨first, second⟩ := plain_families styles.theme.fontStyle
  rw [layout]
  generalize styles.theme.fontStyle.families = families at first second
  obtain ⟨heading, text⟩ := families
  have families : Text.Plain (if heading == text then heading else heading ++ ", " ++ text) := by
    split
    · exact first
    · exact .append (.before first rfl) second
  have fonts : Mute ("import \x7b " ++ (if heading == text then heading else heading ++ ", " ++
      text) ++ " \x7d from \"next/font/google\";") := by
    rw [String.append_assoc]
    exact .after rfl (by decide) (.unquoted families.quote_notMem rfl rfl)
  have function : Mute ("export default function RootLayout(" ++
      "\x7b children \x7d: \x7b children: React.ReactNode \x7d) \x7b") :=
    .after rfl (by decide) (.lit rfl)
  have classes : Mute ("    <html lang=\"en\" className=" ++
      "\x7b`$\x7bheadingFont.variable\x7d $\x7bbodyFont.variable\x7d`\x7d>") :=
    .before (.lit rfl) rfl (by decide)
  refine .lines ?_
  simp only [List.forall_mem_cons]
  exact ⟨.lit rfl, fonts, .lit rfl, .lit rfl, .lit rfl, .lit rfl, mute_font (.lit rfl) first rfl,
    mute_font (.lit rfl) second rfl, .lit rfl, .lit rfl, field rfl (by decide) _,
    field rfl (by decide) _, .lit rfl, .lit rfl, function, .lit rfl, classes, body, .lit rfl,
    .lit rfl, .lit rfl, .lit rfl, .lit rfl, .lit rfl, .lit rfl, List.forall_mem_nil _⟩

/-- **The skeleton holds no token.** -/
theorem mute_of_mem_files (business : Business) (theme : Theme) (packages : Packages) :
    ∀ file ∈ files business theme.styles packages, Mute file.content := by
  have styles := theme.plain_styles
  rw [files]
  simp only [List.forall_mem_cons]
  exact ⟨mute_manifest business packages, mute_frameworkSettings, mute_checkerSettings,
    mute_pipelineSettings, mute_classSettings, mute_globalStyles theme,
    mute_layout business styles rfl, mute_loading styles, List.forall_mem_nil _⟩

end Skeleton

end Sitewright
