import Mathlib.Data.List.DropRight
import Sitewright.FileTree.Path
import Sitewright.Proofs.Text.Pieces
import Sitewright.Text.Words

/-!
# Parts of paths

A path is its parts and nothing else: they hold no slashes, joining them gives the path back, and
two paths with the same parts are one path (`FilePath.parts_injective`). Going below a folder
appends parts (`FilePath.exists_parts_join`), up to an empty part that the path of the folder may
end with, and going to the parent takes the last part away (`FilePath.parent_eq`).
-/

namespace Sitewright.FilePath

variable {path folder name : String} {before : List String}

/-! ### Parts and texts -/

theorem parts_eq (path : String) :
    parts path = (Text.splitBy (· == '/') path.toList).map String.ofList := rfl

theorem slash_notMem_of_mem_parts {part : String} (h : part ∈ parts path) :
    '/' ∉ part.toList := by
  obtain ⟨piece, hpiece, rfl⟩ := List.mem_map.mp h
  intro mem
  rw [String.toList_ofList] at mem
  have other := Text.splitBy_all piece hpiece '/' mem
  cases other

/-- The parts of a path are made of its characters. -/
theorem mem_of_mem_parts {part : String} (h : part ∈ parts path) {c : Char}
    (mem : c ∈ part.toList) : c ∈ path.toList := by
  obtain ⟨piece, hpiece, rfl⟩ := List.mem_map.mp h
  rw [String.toList_ofList] at mem
  exact Text.mem_of_mem_splitBy hpiece mem

/-- A text without slashes is one part. -/
theorem parts_of_notMem (h : '/' ∉ name.toList) : parts name = [name] := by
  have single : Text.splitBy (· == '/') name.toList = [name.toList] := by
    refine Text.splitBy_of_forall fun c mem ↦ ?_
    rw [beq_eq_false_iff_ne]
    rintro rfl
    exact h mem
  rw [parts_eq, single, List.map_singleton, String.ofList_toList]

/-- The parts on both sides of a slash. -/
theorem parts_append (a b : String) : parts (a ++ "/" ++ b) = parts a ++ parts b := by
  have chars : (a ++ "/" ++ b).toList = a.toList ++ '/' :: b.toList := by simp
  rw [parts_eq, chars, Text.splitBy_append_cons (by decide), List.map_append]
  rfl

theorem intercalate_parts (path : String) : String.intercalate "/" (parts path) = path := by
  rw [← String.toList_inj, String.toList_intercalate, parts_eq, List.map_map]
  have same : String.toList ∘ String.ofList = id := by
    funext cs
    exact String.toList_ofList
  rw [same, List.map_id]
  exact Text.intercalate_splitBy '/' path.toList

/-- **A path is its parts.** -/
theorem parts_injective {a b : String} (h : parts a = parts b) : a = b := by
  rw [← intercalate_parts a, h, intercalate_parts]

theorem parts_intercalate {pieces : List String} (some : pieces ≠ [])
    (h : ∀ piece ∈ pieces, '/' ∉ piece.toList) :
    parts (String.intercalate "/" pieces) = pieces := by
  have chars : (String.intercalate "/" pieces).toList =
      List.intercalate ['/'] (pieces.map String.toList) := by
    rw [String.toList_intercalate]
    rfl
  have split : Text.splitBy (· == '/') (List.intercalate ['/'] (pieces.map String.toList)) =
      pieces.map String.toList :=
    Text.splitBy_intercalate (by simpa using some) (List.forall_mem_map.mpr h)
  rw [parts_eq, chars, split, List.map_map]
  have same : String.ofList ∘ String.toList = id := by
    funext s
    exact String.ofList_toList
  rw [same, List.map_id]

/-! ### Below a folder, and back -/

/-- A path below a folder has the parts of the folder and then its own. An empty part at the end of
the folder's is dropped. -/
theorem exists_parts_join (folder path : String) : ∃ start,
    parts (join folder path) = start ++ parts path ∧
      (parts folder = start ∨ parts folder = start ++ [""]) := by
  have empty : parts "" = [""] := parts_of_notMem (by decide)
  rw [join]
  split
  · rename_i open_
    rcases Bool.or_eq_true_iff.mp open_ with none | slash
    · obtain rfl : folder = "" := String.isEmpty_iff.mp none
      exact ⟨[], by rw [String.empty_append, List.nil_append], .inr empty⟩
    · -- The path of the folder ends with a slash.
      obtain ⟨cs, hcs⟩ := List.getLast?_eq_some_iff.mp (eq_of_beq slash)
      have eq : folder = String.ofList cs ++ "/" := by
        rw [← String.toList_inj, hcs]
        simp
      refine ⟨parts (String.ofList cs), by rw [eq, parts_append], .inr ?_⟩
      have last := parts_append (String.ofList cs) ""
      rwa [String.append_empty, ← eq, empty] at last
  · exact ⟨parts folder, parts_append folder path, .inl rfl⟩

theorem dropIdle_eq (names : List String) : dropIdle names = names.rdropWhile isIdle := rfl

/-- Parts are the ones that are kept, and idle ones. -/
theorem exists_dropIdle_append (names : List String) : ∃ rest, names = dropIdle names ++ rest ∧
    ∀ part ∈ rest, isIdle part = true := by
  refine ⟨names.rtakeWhile isIdle, (List.rdropWhile_append_rtakeWhile (p := isIdle)).symm, ?_⟩
  intro part mem
  exact List.mem_rtakeWhile_imp mem

/-- The parent of a path has all parts but the last. -/
theorem parent_eq (h : parts path = before ++ [name]) (busy : isIdle name = false) :
    parent path = String.intercalate "/" (dropIdle before) := by
  have whole : dropIdle (before ++ [name]) = before ++ [name] := by
    rw [dropIdle_eq]
    exact List.rdropWhile_concat_neg isIdle before name (by rw [busy]; decide)
  rw [parent, h, whole, List.dropLast_concat]

/-- The parts of the parent of a path are the first ones of the path. If there are none, the parent
is the empty path. -/
theorem exists_parts_parent (path : String) : ∃ front, front <+: parts path ∧
    (parts (parent path) = front ∨ front = [] ∧ parts (parent path) = [""]) := by
  have kept (names : List String) : dropIdle names <+: names :=
    List.rdropWhile_prefix isIdle names
  refine ⟨dropIdle (dropIdle (parts path)).dropLast, ?_, ?_⟩
  · exact (kept _).trans ((List.dropLast_prefix _).trans (kept _))
  · rw [parent]
    cases front : dropIdle (dropIdle (parts path)).dropLast with
    | nil => exact .inr ⟨rfl, parts_of_notMem (by decide)⟩
    | cons name names =>
      refine .inl (parts_intercalate (List.cons_ne_nil name names) fun part mem ↦ ?_)
      rw [← front] at mem
      have inside := (kept _).subset ((List.dropLast_subset _) ((kept _).subset mem))
      exact slash_notMem_of_mem_parts inside

theorem mem_of_mem_join {c : Char} (h : c ∈ (join folder path).toList) :
    c ∈ folder.toList ∨ c = '/' ∨ c ∈ path.toList := by
  rw [join] at h
  split at h
  · rw [String.toList_append, List.mem_append] at h
    exact h.imp_right .inr
  · rw [String.toList_append, String.toList_append, List.mem_append, List.mem_append] at h
    rcases h with (folder | slash) | path
    · exact .inl folder
    · exact .inr (.inl (List.mem_singleton.mp slash))
    · exact .inr (.inr path)

theorem mem_of_mem_parent {c : Char} (h : c ∈ (parent path).toList) :
    c = '/' ∨ c ∈ path.toList := by
  have kept {names : List String} : dropIdle names ⊆ names :=
    (List.rdropWhile_prefix isIdle names).subset
  rw [parent, String.toList_intercalate] at h
  refine Text.forall_mem_intercalate (q := fun c ↦ c = '/' ∨ c ∈ path.toList) (.inl rfl) ?_ c h
  intro piece hpiece d hd
  obtain ⟨part, hpart, rfl⟩ := List.mem_map.mp hpiece
  have mem : part ∈ parts path := kept (List.dropLast_subset _ (kept hpart))
  exact .inr (mem_of_mem_parts mem hd)

/-! ### Paths that only go down -/

theorem isName_iff : isName name = true ↔ isIdle name = false ∧ name ≠ ".." := by
  rw [isName, Bool.and_eq_true, Bool.not_eq_true', bne_iff_ne]

theorem ne_up_of_isIdle (h : isIdle name = true) : name ≠ ".." := by
  rintro rfl
  exact Bool.false_ne_true h

/-- A path all of whose parts are names is contained. -/
theorem isContained_of_names (h : ∀ part ∈ parts path, isName part = true) :
    isContained path = true := by
  have named {part : String} (good : isName part = true) :
      part ≠ "" ∧ part ≠ "." ∧ part ≠ ".." := by
    simpa [isName, isIdle, and_assoc] using good
  rw [isContained]
  split
  · rfl
  · rename_i first rest eq
    rw [eq] at h
    obtain ⟨some, here, -⟩ := named (h first List.mem_cons_self)
    have down : (first :: rest).all (· != "..") = true := by
      refine List.all_eq_true.mpr fun part mem ↦ ?_
      exact bne_iff_ne.mpr (named (h part mem)).2.2
    rw [bne_iff_ne.mpr some, bne_iff_ne.mpr here, down]
    rfl

end Sitewright.FilePath
