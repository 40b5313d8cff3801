import Sitewright.Proofs.Image.Substitution
import Sitewright.Proofs.Markup.Entities
import Sitewright.Proofs.Markup.Jsx

/-!
# Addresses as values of attributes

Every text of a configuration is escaped before it is written into an attribute. An address is not:
it stands between the quotes of a source attribute as it came from the source of pictures or from
the cache. So what a reader of the attribute takes for its value depends on the address, and this
module says how.

The value ends at the first quote. If the address has none, this is the quote that was written after
it, and the value is the address with its entities replaced; so it is the address itself if and only
if no entity occurs in it (`Markup.unescapeChars_eq_self_iff`). If the address has a quote, the
value is what stands before it, and the rest of the address is read as part of the tag
(`Piece.Site.Reading`). Nothing keeps a source of pictures from answering with such an address
(`ImageTask.resolve_leaks`).
-/

namespace Sitewright

namespace Markup

/-- The entities that are replaced in the value of an attribute, with what they stand for, in the
order in which they are replaced. -/
def entities : List (List Char × Char) :=
  [(['&', 'q', 'u', 'o', 't', ';'], '"'), (['&', '#', '3', '9', ';'], '\''),
    (['&', 'l', 't', ';'], '<'), (['&', 'g', 't', ';'], '>'), (['&', 'a', 'm', 'p', ';'], '&')]

/-- Replaces entities one after the other. -/
def replaceEntities (entities : List (List Char × Char)) (cs : List Char) : List Char :=
  entities.foldl (fun cs entity ↦ Text.replaceChars entity.1 [entity.2] cs) cs

theorem length_replaceEntities_le {entities : List (List Char × Char)}
    (long : ∀ entity ∈ entities, 1 < entity.1.length) (cs : List Char) :
    (replaceEntities entities cs).length ≤ cs.length := by
  induction entities generalizing cs with
  | nil => exact Nat.le_refl _
  | cons entity others ih =>
    obtain ⟨first, later⟩ := List.forall_mem_cons.mp long
    have short : [entity.2].length ≤ entity.1.length := first.le
    exact (ih later _).trans (Text.length_replaceFrom_le short 0 cs)

/-- Replacing entities makes up for nothing: it keeps a text only if none of them occurs. -/
theorem replaceEntities_eq_self_iff {entities : List (List Char × Char)}
    (long : ∀ entity ∈ entities, 1 < entity.1.length) {cs : List Char} :
    replaceEntities entities cs = cs ↔ ∀ entity ∈ entities, ¬ entity.1 <:+: cs := by
  induction entities with
  | nil => exact iff_of_true rfl fun _ mem ↦ nomatch mem
  | cons entity others ih =>
    obtain ⟨first, later⟩ := List.forall_mem_cons.mp long
    rw [List.forall_mem_cons]
    show replaceEntities others (Text.replaceChars entity.1 [entity.2] cs) = cs ↔ _
    by_cases occurs : entity.1 <:+: cs
    · -- What has become shorter stays shorter.
      refine iff_of_false ?_ fun both ↦ both.1 occurs
      intro same
      have less : (Text.replaceChars entity.1 [entity.2] cs).length < cs.length :=
        Text.length_replaceChars_lt first occurs
      have rest := length_replaceEntities_le later (Text.replaceChars entity.1 [entity.2] cs)
      rw [same] at rest
      omega
    · rw [Text.replaceChars_of_not_infix occurs, ih later, and_iff_right occurs]

/-- **A value stands for itself** if and only if no entity occurs in it. -/
theorem unescapeChars_eq_self_iff {cs : List Char} :
    unescapeChars cs = cs ↔ ∀ entity ∈ entities, ¬ entity.1 <:+: cs := by
  show replaceEntities entities cs = cs ↔ _
  exact replaceEntities_eq_self_iff (by decide)

/-- The value of an attribute and what follows it, from what follows the quote that opens it. -/
def readQuoted : List Char → Option (List Char × List Char)
  | [] => none
  | c :: cs =>
    if c = '"' then some ([], cs)
    else (readQuoted cs).map fun (value, rest) ↦ (c :: value, rest)

/-- A value ends at the first quote. -/
theorem readQuoted_append {value : List Char} (h : '"' ∉ value) (rest : List Char) :
    readQuoted (value ++ '"' :: rest) = some (value, rest) := by
  induction value with
  | nil => rfl
  | cons c value ih =>
    obtain ⟨ne, others⟩ := not_or.mp (mt List.mem_cons.mpr h)
    rw [List.cons_append, readQuoted, if_neg (Ne.symm ne), ih others]
    rfl

end Markup

/-! ### Attributes that are written -/

namespace Piece

/-- A place in a text where an address is put in. -/
structure Site (address : String → Option String) (cs : List Char) where
  /-- What stands before the attribute. -/
  front : List Piece
  /-- The digits of the token in it. -/
  digits : List Char
  /-- What stands after the attribute. -/
  back : List Piece
  /-- The address of the token. -/
  url : String
  /-- The attribute stands in the text. -/
  split : ofChars cs = front ++ source digits :: back
  /-- The token has the address. -/
  known : address (String.ofList (imageTokenHead ++ digits)) = some url

namespace Site

variable {address : String → Option String} {cs : List Char} (site : Site address cs)
  (out : List Char)

/-- What is written before the value. -/
def before : List Char := site.front.flatMap (resolve address) ++ sourceHead

/-- What is written after the quote that follows the value. -/
def after : List Char := site.back.flatMap (resolve address)

/-- What is written: the address, as it is, between quotes. -/
def written : List Char := site.before ++ (site.url.toList ++ '"' :: site.after)

/-- The value that is read in a text where the attribute is written, and what follows it. -/
def read : Option (List Char × List Char) := Markup.readQuoted (out.drop site.before.length)

/-- Whether the address stays in its attribute: the value stands for the address, and what follows
it is what was written after it. -/
def Holds : Prop :=
  ∃ value, site.read out = some (value, site.after) ∧ Markup.unescapeChars value = site.url.toList

/-- What is read where an address is put in. -/
structure Reading : Prop where
  /-- The address stands between quotes as it is. -/
  written : out = site.written
  /-- Its quote ends the value if it has one, and the rest of it is read as markup. -/
  leaks : ∀ inside outside, site.url.toList = inside ++ '"' :: outside → '"' ∉ inside →
    site.read out = some (inside, outside ++ '"' :: site.after)
  /-- The value ends where it was written to end if and only if the address has no quote. -/
  ends : (∃ value, site.read out = some (value, site.after)) ↔ '"' ∉ site.url.toList
  /-- The address stays in its attribute if and only if it has neither a quote nor an entity. -/
  holds : site.Holds out ↔ '"' ∉ site.url.toList ∧
    ∀ entity ∈ Markup.entities, ¬ entity.1 <:+: site.url.toList

/-- Resolving writes the address between quotes, and what stands around it independently of it. -/
theorem resolvedFrom_eq : resolvedFrom address false cs = site.written := by
  have pieces : scan false 0 cs = site.front ++ source site.digits :: site.back := site.split
  rw [resolvedFrom, pieces, List.flatMap_append, List.flatMap_cons, resolve, token?,
    Option.bind_some, site.known]
  simp [written, before, after, attributeOf]

theorem read_written :
    site.read site.written = Markup.readQuoted (site.url.toList ++ '"' :: site.after) := by
  rw [read, written, List.drop_left]

variable {site}

theorem read_of_quote {inside outside : List Char} (eq : site.url.toList = inside ++ '"' :: outside)
    (first : '"' ∉ inside) :
    site.read site.written = some (inside, outside ++ '"' :: site.after) := by
  rw [read_written, eq, List.append_assoc, List.cons_append]
  exact Markup.readQuoted_append first _

theorem read_of_notMem (h : '"' ∉ site.url.toList) :
    site.read site.written = some (site.url.toList, site.after) := by
  rw [read_written]
  exact Markup.readQuoted_append h _

/-- After the quote of an address there is more than what was written after the address. -/
theorem notMem_of_read {value : List Char}
    (ends : site.read site.written = some (value, site.after)) : '"' ∉ site.url.toList := by
  intro mem
  obtain ⟨inside, outside, eq, first⟩ := List.eq_append_cons_of_mem mem
  rw [read_of_quote eq first, Option.some.injEq, Prod.mk.injEq] at ends
  have length := congrArg List.length ends.2
  rw [List.length_append, List.length_cons] at length
  omega

variable (site)

/-- **Reading an address back.** -/
theorem reading : site.Reading site.written where
  written := rfl
  leaks _ _ := read_of_quote
  ends := ⟨fun ⟨_, ends⟩ ↦ notMem_of_read ends, fun h ↦ ⟨_, read_of_notMem h⟩⟩
  holds := by
    constructor
    · rintro ⟨value, ends, means⟩
      have quotes := notMem_of_read ends
      rw [read_of_notMem quotes, Option.some.injEq, Prod.mk.injEq] at ends
      rw [← ends.1] at means
      exact ⟨quotes, Markup.unescapeChars_eq_self_iff.mp means⟩
    · rintro ⟨quotes, entities⟩
      exact ⟨_, read_of_notMem quotes, Markup.unescapeChars_eq_self_iff.mpr entities⟩

end Site

end Piece

/-! ### Files -/

namespace ImageTask

variable (task : ImageTask) (service : ImageService) (previous : ImageCache)
  (files : List SourceFile)

/-- What is read in files where addresses are put in. -/
structure Quoting (resolution : ImageResolution) : Prop where
  /-- If nobody answers, no attribute is written. -/
  untouched : ∀ reason, resolution.status = .unavailable reason → resolution.files = files
  /-- Otherwise what is read of every attribute that is written depends on its address alone. -/
  written : (∀ reason, resolution.status ≠ .unavailable reason) →
    List.Forall₂ (fun before after : SourceFile ↦
      ∀ site : Piece.Site (task.addressIn resolution.cache) before.content.toList,
        site.Reading after.content.toList) files resolution.files

/-- **Addresses are written as they come.** Wherever resolving puts in an address, it stays in its
attribute if it has neither quotes nor entities, and only then. -/
theorem quoting_resolve :
    task.Quoting files (task.resolve service previous files) where
  untouched reason status := by
    by_cases h : task.Unanswered service previous files
    · exact (task.resolve_of_unanswered service previous files h).1
    by_cases seen : task.sightings files = []
    · exact (task.resolve_of_unseen service previous files seen).2.1
    · -- Somebody is there, so the status is another one.
      have other := (task.resolve_of_answered service previous files seen h).2
      rw [status] at other
      split at other <;> cases other
  written answered := by
    rw [files_resolve task service previous files
      (task.not_unanswered service previous files answered), List.forall₂_map_right_iff,
      List.forall₂_same]
    intro file _ site
    dsimp only
    rw [Piece.toList_resolveTokens, site.resolvedFrom_eq]
    exact site.reading

/-- An address with a quote leaves its attribute and adds another one to the tag. -/
theorem resolve_leaks :
    let task : ImageTask := ⟨["IMG_1"], [("IMG_1", "A cat")], "A picture"⟩
    let service : ImageService := fun _ ↦ .ok "https://img.test/cat.jpg\" onError=\"alert(1)"
    let files : List SourceFile := [⟨"components/X.tsx", "<img src=\"IMG_1\" alt=\"A cat\" />"⟩]
    let resolution := task.resolve service .empty files
    resolution.files.map (fun file ↦ Jsx.lex file.content.toList) =
      [[.void "img" [⟨"src", .quoted "https://img.test/cat.jpg"⟩, ⟨"onError", .quoted "alert(1)"⟩,
        ⟨"alt", .quoted "A cat"⟩]]] ∧
      ¬ List.Forall₂ (fun before after : SourceFile ↦
        ∀ site : Piece.Site (task.addressIn resolution.cache) before.content.toList,
          site.Holds after.content.toList) files resolution.files := by
  dsimp only
  refine ⟨by decide +kernel, ?_⟩
  intro h
  have made : ((⟨["IMG_1"], [("IMG_1", "A cat")], "A picture"⟩ : ImageTask).resolve
      (fun _ ↦ .ok "https://img.test/cat.jpg\" onError=\"alert(1)") .empty
      [⟨"components/X.tsx", "<img src=\"IMG_1\" alt=\"A cat\" />"⟩]).files =
      [⟨"components/X.tsx",
        "<img src=\"https://img.test/cat.jpg\" onError=\"alert(1)\" alt=\"A cat\" />"⟩] := by
    decide +kernel
  rw [made] at h
  obtain ⟨value, ends, -⟩ := (List.forall₂_cons.mp h).1
    ⟨"<img ".toList.map .char, ['1'], " alt=\"A cat\" />".toList.map .char,
      "https://img.test/cat.jpg\" onError=\"alert(1)", by decide +kernel, by decide +kernel⟩
  exact absurd (Piece.Site.notMem_of_read ends) (by decide +kernel)

end ImageTask

end Sitewright
