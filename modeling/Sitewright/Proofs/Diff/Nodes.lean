import Sitewright.Proofs.Diff.Composing
import Sitewright.Proofs.Json.Pointers

/-!
# Paths and the nodes they lead to

A difference goes down in two values at once, by the keys of objects and the indices of list items,
and its paths are the keys and indices on the way. Changes are then found again by pointers, which
write a path as one text. `Json.Descends` is the way down, and it says what a pointer has to lead
to: the pointer of a path leads to the node that the path descends to, and nowhere if there is none
(`Json.pointers_address`). No key is an exception, because a pointer is read back as the path that
it was written from (`Json.pointerSteps?_pointer`), and no index is, because it has one numeral.
-/

namespace Sitewright

/-! ### Escapes -/

/-- The two escapes of a pointer may be made one after the other, first the tilde and then the
slash. -/
theorem FieldPath.escapePointer_eq_replaceChars (segment : String) :
    escapePointer segment = Text.replaceChars ['/'] ['~', '1']
      (Text.replaceChars ['~'] ['~', '0'] segment.toList) := by
  have tilde : Text.replaceChars ['~'] ['~', '0'] (segment.toList.flatMap fun c ↦ [c]) =
      segment.toList.flatMap Json.slashRead := by
    refine Text.replaceChars_flatMap (List.cons_ne_nil _ _) (fun c ↦ ?_) _
    by_cases tilde : c = '~'
    · subst tilde
      exact .inl ⟨rfl, rfl⟩
    · simp [Json.slashRead, tilde, Text.shuns, Text.clash, Ne.symm tilde]
  have slash : Text.replaceChars ['/'] ['~', '1'] (segment.toList.flatMap Json.slashRead) =
      escapePointer segment := by
    refine Text.replaceChars_flatMap (List.cons_ne_nil _ _) (fun c ↦ ?_) _
    by_cases tilde : c = '~'
    · subst tilde
      exact .inr ⟨rfl, rfl⟩
    · by_cases slash : c = '/'
      · subst slash
        exact .inl ⟨rfl, rfl⟩
      · simp [escapePointerChar, Json.slashRead, tilde, slash, Text.shuns, Text.clash,
          Ne.symm slash]
  rw [← List.map_eq_flatMap, List.map_id'] at tilde
  rw [tilde, slash]

/-- Different paths have different pointers. -/
theorem FieldPath.pointer_inj {path other : FieldPath} :
    path.pointer = other.pointer ↔ path = other := by
  refine ⟨fun same ↦ ?_, fun eq ↦ by rw [eq]⟩
  have steps : some path.segments = some other.segments := by
    rw [← Json.pointerSteps?_pointer path, same, Json.pointerSteps?_pointer other]
  cases path
  cases other
  exact congrArg FieldPath.mk (Option.some.inj steps)

namespace Json

/-! ### The way down -/

/-- Going down in a value, by one object key or one index of a list item after the other. -/
inductive Descends (v : Json) : FieldPath → Json → Prop where
  /-- The value itself. -/
  | root : Descends v .root v
  /-- What an object has under a key. -/
  | key {path : FieldPath} {entries : List (String × Json)} {key : String} {w : Json}
      (above : Descends v path (.obj entries)) (mem : (key, w) ∈ entries) :
      Descends v (path.child key) w
  /-- What a list has at an index. -/
  | item {path : FieldPath} {items : List Json} {index : Nat} {w : Json}
      (above : Descends v path (.arr items)) (there : items[index]? = some w) :
      Descends v (path.item index) w

variable {v w : Json} {path : FieldPath}

theorem at?_child (v : Json) (path : FieldPath) (segment : String) :
    v.at? (path.child segment).segments =
      (v.at? path.segments).bind fun above ↦ above.step? segment := by
  rw [FieldPath.segments_child, at?_append]
  exact Option.bind_congr fun above _ ↦ Option.bind_fun_some _

theorem Descends.at? (sorted : v.IsSorted) (h : Descends v path w) :
    v.at? path.segments = some w := by
  induction h with
  | root => rfl
  | key above mem ih =>
    have keys : Entries.Sorted _ := (sorted.at? ih).of_obj.1
    rw [at?_child, ih, Option.bind_some]
    exact (Entries.find?_eq_some_iff keys.nodup).mpr mem
  | item above there ih =>
    rw [FieldPath.item, at?_child, ih, Option.bind_some, step?_arr_toString, there]

theorem descends_of_at? {segments : List String} (h : v.at? segments = some w) :
    Descends v ⟨segments⟩ w := by
  induction segments using List.reverseRecOn generalizing w with
  | nil => exact Option.some.inj h ▸ .root
  | append_singleton segments segment ih =>
    have step : v.at? (FieldPath.child ⟨segments⟩ segment).segments = some w := h
    rw [at?_child, Option.bind_eq_some_iff] at step
    obtain ⟨above, habove, hw⟩ := step
    cases above with
    | obj entries => exact .key (ih habove) (Entries.mem_of_find? hw)
    | arr items =>
      obtain ⟨index, rfl, there⟩ := exists_index_of_step? hw
      exact .item (ih habove) there
    | null | bool | num | str => cases hw

/-- What stands at a path is what the path descends to. -/
theorem at?_eq_some_iff (sorted : v.IsSorted) :
    v.at? path.segments = some w ↔ Descends v path w :=
  ⟨descends_of_at?, fun h ↦ h.at? sorted⟩

end Json

/-! ### Changes -/

/-- A change is somewhere in the old value unless it was added, and somewhere in the new value
unless it was removed. -/
theorem Change.IsBetween.isSome_at? {old new : Json} {change : Change}
    (h : change.IsBetween old new) :
    (change.kind ≠ .added → (old.at? change.path.segments).isSome = true) ∧
      (change.kind ≠ .removed → (new.at? change.path.segments).isSome = true) := by
  have sides := h.at?
  cases kind : change.kind with
  | added =>
    rw [kind] at sides
    exact ⟨fun ne ↦ absurd rfl ne, fun _ ↦ sides.2⟩
  | removed =>
    rw [kind] at sides
    exact ⟨fun _ ↦ sides.1, fun ne ↦ absurd rfl ne⟩
  | modified =>
    rw [kind] at sides
    obtain ⟨x, y, hx, hy, -⟩ := sides
    exact ⟨fun _ ↦ by rw [hx]; rfl, fun _ ↦ by rw [hy]; rfl⟩

namespace Json

/-- **A pointer leads to the node of its path,** and nowhere if the path descends to none. Different
paths have different pointers. Every change of a difference is found by its pointer: in the old
value unless it was added, and in the new value unless it was removed. -/
theorem pointers_address (v : SortedJson) :
    (∀ (path : FieldPath) (node : Json),
      v.val.atPointer? path.pointer = some node ↔ v.val.Descends path node) ∧
    (∀ path other : FieldPath, path.pointer = other.pointer ↔ path = other) ∧
    ∀ w : SortedJson, ∀ change ∈ (Diff.between v.val w.val).changes,
      (change.kind ≠ .added → ∃ node, v.val.atPointer? change.path.pointer = some node) ∧
        (change.kind ≠ .removed → ∃ node, w.val.atPointer? change.path.pointer = some node) := by
  refine ⟨fun path node ↦ ?_, fun _ _ ↦ FieldPath.pointer_inj, fun w change mem ↦ ?_⟩
  · rw [atPointer?_pointer, at?_eq_some_iff v.property]
  · have there := (isBetween_of_mem_changes v.property mem).isSome_at?
    rw [atPointer?_pointer, atPointer?_pointer, ← Option.isSome_iff_exists,
      ← Option.isSome_iff_exists]
    exact there

/-- A value with keys that look like escapes, like an index and like a path. -/
def escaped : SortedJson :=
  ⟨_, isSorted_sorted (.obj [("", .arr [.ofInt 1, .obj [("~1", .str "escape")]]),
    ("0", .obj [("/", .str "slash"), ("a.b", .str "dot"), ("~", .str "tilde")])])⟩

/-- The value with other texts. -/
def reescaped : SortedJson :=
  ⟨_, isSorted_sorted (.obj [("", .arr [.ofInt 1, .obj [("~1", .str "other")]]),
    ("0", .obj [("/", .str "other"), ("a.b", .str "dot"), ("~0", .str "other")])])⟩

theorem pointers_address_escaped :
    escaped.val.Descends ⟨["", "1", "~1"]⟩ (.str "escape") ∧
      FieldPath.pointer ⟨["0", "~1"]⟩ ≠ FieldPath.pointer ⟨["0", "/"]⟩ ∧
      (Diff.between escaped.val reescaped.val).changes =
        [⟨⟨["", "1", "~1"]⟩, .modified⟩, ⟨⟨["0", "/"]⟩, .modified⟩, ⟨⟨["0", "~"]⟩, .removed⟩,
          ⟨⟨["0", "~0"]⟩, .added⟩] ∧
      ∃ node, reescaped.val.atPointer? "/0/~00" = some node := by
  obtain ⟨leads, different, changes⟩ := pointers_address escaped
  have listed : (Diff.between escaped.val reescaped.val).changes =
      [⟨⟨["", "1", "~1"]⟩, .modified⟩, ⟨⟨["0", "/"]⟩, .modified⟩, ⟨⟨["0", "~"]⟩, .removed⟩,
        ⟨⟨["0", "~0"]⟩, .added⟩] := by
    decide +kernel
  have added := changes reescaped ⟨⟨["0", "~0"]⟩, .added⟩ (by rw [listed]; simp)
  refine ⟨(leads _ _).mp (by rfl), fun same ↦ ?_, listed, added.2 (by decide)⟩
  have eq := (different _ _).mp same
  revert eq
  decide

end Json

end Sitewright
