import Sitewright.Codec.Record
import Sitewright.Proofs.Codec.Laws

/-!
# Laws of records

A record is put together field by field, and so are its laws. The difficulty is that half way
through there is no record yet: what the first fields of a record make is a function that waits for
the others. Each law of `Fields` therefore says what can be said of such a function, and leaves one
question open for the record, which is answered by computation once the record is known.

* `Fields.Blends` hands out every value the fields can make together with the entries it is written
  as. The open question is whether the record that was made is written with these entries.
* `Fields.Reads` names the function that reading back amounts to, `assemble`. The open question is
  whether it is the one that is claimed.
* `Fields.Reached` says of which values everything that is read is made.
* `Fields.Steady` and `Fields.Addressable` leave no question.

The questions are asked by `Codec.blends_record`, `Codec.reads_record` and
`Codec.IsRead.of_record`, and for a record without entries of a page all at once by
`Codec.Lawful.record`.
-/

namespace Sitewright

variable {ρ α β : Type}

namespace Attempt

/-- What was read, if reading succeeded. -/
def toOption (attempt : Attempt α) : Option α := attempt.toExcept.toOption

theorem toOption_both (f : Attempt (α → β)) (a : Attempt α) :
    (both f a).toOption = f.toOption.bind fun g ↦ a.toOption.map g := by
  cases f <;> cases a <;> try rfl
  rw [both]
  split <;> rfl

theorem toExcept_eq_ok_iff {attempt : Attempt α} {a : α} :
    attempt.toExcept = .ok a ↔ attempt = value a := by
  cases attempt <;> simp [toExcept]

theorem both_eq_value_iff {f : Attempt (α → β)} {a : Attempt α} {b : β} :
    both f a = value b ↔ ∃ g x, f = value g ∧ a = value x ∧ g x = b := by
  cases f <;> cases a <;> simp only [both, reduceCtorEq, false_and, and_false, exists_false,
    value.injEq]
  · simp
  · split <;> simp

end Attempt

namespace Fields

/-! ### Entries of a map -/

/-- The entry that stands first under a key, in the document of an object and in that of the object
without signed zeros. -/
theorem firstEntry_ofEntries (key : String) (i : Nat) (es : List (String × Json)) :
    (firstEntry key i (Document.ofEntries es) = none ∧
      firstEntry key i (Document.ofEntries (Json.unsignedValues es)) = none) ∨
    ∃ j v rest, firstEntry key i (Document.ofEntries es) =
        some (j, .ofJson v, Document.ofEntries rest) ∧
      firstEntry key i (Document.ofEntries (Json.unsignedValues es)) =
        some (j, .ofJson v.unsigned, Document.ofEntries (Json.unsignedValues rest)) := by
  induction es generalizing i with
  | nil => exact .inl ⟨rfl, rfl⟩
  | cons entry es ih =>
    obtain ⟨k, v⟩ := entry
    simp only [Document.ofEntries, Json.unsignedValues, firstEntry]
    split
    · exact .inr ⟨i, v, es, rfl, rfl⟩
    · exact ih (i + 1)

theorem firstEntry_eq_none {key : String} {es : List (String × Json)}
    (h : key ∉ es.map (·.1)) (i : Nat) : firstEntry key i (Document.ofEntries es) = none := by
  induction es generalizing i with
  | nil => rfl
  | cons entry es ih =>
    obtain ⟨k, v⟩ := entry
    rw [List.map_cons, List.mem_cons, not_or] at h
    rw [Document.ofEntries, firstEntry, if_neg (Ne.symm h.1)]
    exact ih h.2 (i + 1)

/-- Where no key is repeated, the value under a key is the only one. -/
theorem firstEntry_of_find? {key : String} {v : Json} {es : List (String × Json)}
    (nodup : (es.map (·.1)).Nodup) (h : Entries.find? key es = some v) (i : Nat) :
    ∃ j rest, firstEntry key i (Document.ofEntries es) = some (j, .ofJson v, rest) ∧
      ∀ k, firstEntry key k rest = none := by
  induction es generalizing i with
  | nil => cases h
  | cons entry es ih =>
    obtain ⟨k, w⟩ := entry
    rw [List.map_cons, List.nodup_cons] at nodup
    rw [Entries.find?] at h
    rw [Document.ofEntries, firstEntry]
    by_cases eq : k = key
    · rw [if_pos eq] at h ⊢
      exact ⟨i, _, by rw [Option.some.inj h], firstEntry_eq_none (eq ▸ nodup.1)⟩
    · rw [if_neg eq] at h ⊢
      exact ih nodup.2 h (i + 1)

theorem passOver_ofEntries (keys : List String) (i : Nat) (es : List (String × Json)) :
    passOver keys none i (Document.ofEntries es) = .value () := by
  induction es generalizing i with
  | nil => rfl
  | cons entry es ih =>
    obtain ⟨k, v⟩ := entry
    simp only [Document.ofEntries, passOver, Document.skipBreak_ofJson, ih, ite_self]

/-! ### The laws -/

/-- Entries that have a blend of what two lists of entries have wherever both have something. -/
def Blended (as bs es : List (String × Json)) : Prop :=
  ∀ {key x y}, (key, x) ∈ as → (key, y) ∈ bs →
    ∃ z, Entries.find? key es = some z ∧ z.IsSorted ∧ Json.Blend x.sorted y.sorted z

/-- Entries that have the sorted form of other entries. -/
def Holds (es ws : List (String × Json)) : Prop :=
  ∀ entry ∈ ws, Entries.find? entry.1 es = some entry.2.sorted

/-- From a blend of two records one of the values is made that `all` quantifies over, and it comes
with the entries that it is written as. -/
class Blends (fields : Fields ρ α)
    (all : outParam ((α → List (String × Json) → Prop) → Prop)) : Prop where
  exists_made {a b : ρ} {es : List (String × Json)}
    (blended : Blended (fields.toEntries a) (fields.toEntries b) es)
    {q : α → List (String × Json) → Prop} (h : all q) : ∃ x ws, q x ws ∧ Holds es ws

/-- From the written form of a record the fields make what `assemble` does. -/
class Reads (fields : Fields ρ α) (assemble : outParam (ρ → α)) : Prop where
  fromMap_written (dialect : Dialect) {r : ρ} {es : List (String × Json)}
    (nodup : (es.map (·.1)).Nodup) (holds : Holds es (fields.toEntries r)) :
    fields.fromMap dialect (Document.ofEntries es) = .value (assemble r)

/-- What is read is one of the values that `all` quantifies over. -/
class Reached (fields : Fields ρ α) (all : outParam ((α → Prop) → Prop)) : Prop where
  of_fromMap {dialect : Dialect} {entries : List (String × Document)} {x : α}
    (read : fields.fromMap dialect entries = .value x) {q : α → Prop} (h : all q) : q x
  of_fromList {dialect : Dialect} {given : Positional} {index : Nat} {x : α}
    (read : fields.fromList dialect given index = .ok x) {q : α → Prop} (h : all q) : q x

/-- What is read does not depend on the signs of floating-point zeros. -/
class Steady (fields : Fields ρ α) : Prop where
  fromMap_unsigned (dialect : Dialect) (es : List (String × Json)) :
    (fields.fromMap dialect (Document.ofEntries (Json.unsignedValues es))).toOption =
      (fields.fromMap dialect (Document.ofEntries es)).toOption
  fromList_unsigned (dialect : Dialect) (record : String) (count : Nat) (items : List Json)
    (index : Nat) :
    (fields.fromList dialect
        ⟨record, count, Document.ofItems (Json.unsignedItems items), none⟩ index).toOption =
      (fields.fromList dialect ⟨record, count, Document.ofItems items, none⟩ index).toOption

/-- Every place in what a field is written as has a path that can be written. -/
class Addressable (fields : Fields ρ α) : Prop where
  isAddressable_of_mem {r : ρ} {entry : String × Json} (mem : entry ∈ fields.toEntries r) :
    entry.2.sorted.IsAddressable

theorem exists_made (fields : Fields ρ α) {all} [Blends fields all] {a b : ρ}
    {es : List (String × Json)} (blended : Blended (fields.toEntries a) (fields.toEntries b) es)
    {q : α → List (String × Json) → Prop} (h : all q) : ∃ x ws, q x ws ∧ Holds es ws :=
  Blends.exists_made blended h

theorem fromMap_written (fields : Fields ρ α) {assemble : ρ → α} [Reads fields assemble]
    (dialect : Dialect) {r : ρ} {es : List (String × Json)} (nodup : (es.map (·.1)).Nodup)
    (holds : Holds es (fields.toEntries r)) :
    fields.fromMap dialect (Document.ofEntries es) = .value (assemble r) :=
  Reads.fromMap_written dialect nodup holds

theorem of_fromMap (fields : Fields ρ α) {all} [Reached fields all] {dialect : Dialect}
    {entries : List (String × Document)} {x : α}
    (read : fields.fromMap dialect entries = .value x) {q : α → Prop} (h : all q) : q x :=
  Reached.of_fromMap read h

theorem of_fromList (fields : Fields ρ α) {all} [Reached fields all] {dialect : Dialect}
    {given : Positional} {index : Nat} {x : α}
    (read : fields.fromList dialect given index = .ok x) {q : α → Prop} (h : all q) : q x :=
  Reached.of_fromList read h

theorem fromMap_unsigned (fields : Fields ρ α) [Steady fields] (dialect : Dialect)
    (es : List (String × Json)) :
    (fields.fromMap dialect (Document.ofEntries (Json.unsignedValues es))).toOption =
      (fields.fromMap dialect (Document.ofEntries es)).toOption :=
  Steady.fromMap_unsigned dialect es

theorem fromList_unsigned (fields : Fields ρ α) [Steady fields] (dialect : Dialect)
    (record : String) (count : Nat) (items : List Json) (index : Nat) :
    (fields.fromList dialect
        ⟨record, count, Document.ofItems (Json.unsignedItems items), none⟩ index).toOption =
      (fields.fromList dialect ⟨record, count, Document.ofItems items, none⟩ index).toOption :=
  Steady.fromList_unsigned dialect record count items index

theorem isAddressable_of_mem (fields : Fields ρ α) [Addressable fields] {r : ρ}
    {entry : String × Json} (mem : entry ∈ fields.toEntries r) : entry.2.sorted.IsAddressable :=
  Addressable.isAddressable_of_mem mem

/-! ### One field -/

section Field

variable {name about : String} {get : ρ → α} {codec : Codec α} {default : Option α}

instance [Codec.Blends codec] : Blends (ofField name about get codec default)
    (fun q ↦ ∀ c, q c [(name, codec.write c)]) where
  exists_made {a b es} blended q h := by
    obtain ⟨z, hz, sorted, blend⟩ :=
      blended (List.mem_singleton_self (name, _)) (List.mem_singleton_self (name, _))
    obtain ⟨c, rfl⟩ := codec.exists_encode sorted blend
    refine ⟨c, _, h c, fun entry mem ↦ ?_⟩
    obtain rfl := List.mem_singleton.mp mem
    exact hz

theorem readEntry_of_find? {dialect : Dialect} {es : List (String × Json)} {v : Json} {a : α}
    (nodup : (es.map (·.1)).Nodup) (h : Entries.find? name es = some v)
    (read : codec.read dialect (.ofJson v) = .ok a) :
    readEntry codec name default dialect (Document.ofEntries es) = .value a := by
  obtain ⟨j, rest, first, once⟩ := firstEntry_of_find? nodup h 0
  simp only [readEntry, first, read, once]

instance {settle : α → α} [Codec.Reads codec settle] :
    Reads (ofField name about get codec default) (fun r ↦ settle (get r)) where
  fromMap_written dialect r _ nodup holds :=
    readEntry_of_find? nodup (holds (name, codec.write (get r)) (List.mem_singleton.mpr rfl))
      (codec.read_encode dialect (get r))

instance : Reached (ofField name about get codec default)
    (fun q ↦ ∀ c, codec.IsRead c ∨ default = some c → q c) where
  of_fromMap {dialect entries x} read q h := by
    refine h x ?_
    simp only [ofField, readEntry] at read
    split at read
    · split at read <;> cases read
      exact .inr rfl
    · split at read
      · cases read
      · split at read <;> cases read
        exact .inl ⟨dialect, _, ‹_›⟩
  of_fromList {dialect given index x} read q h := by
    refine h x ?_
    simp only [ofField, readItem] at read
    split at read
    · exact .inl ⟨dialect, _, read⟩
    · split at read <;> cases read
      exact .inr rfl

instance [Codec.Steady codec] : Steady (ofField name about get codec default) where
  fromMap_unsigned dialect es := by
    simp only [ofField, readEntry]
    rcases firstEntry_ofEntries name 0 es with ⟨plain, unsigned⟩ | ⟨j, v, rest, plain, unsigned⟩
    · rw [plain, unsigned]
      cases default <;> rfl
    · simp only [plain, unsigned]
      rcases Codec.cases_of_toOption_eq (codec.read_unsigned dialect v) with
        ⟨a, left, right⟩ | ⟨e, e', left, right⟩
      · simp only [left, right]
        rcases firstEntry_ofEntries name (j + 1) rest with
          ⟨plain, unsigned⟩ | ⟨k, w, rest', plain, unsigned⟩ <;> rw [plain, unsigned]
      · simp only [left, right]
        rfl
  fromList_unsigned dialect record count items index := by
    have item : (Document.ofItems (Json.unsignedItems items))[index]? =
        items[index]?.map fun v ↦ .ofJson v.unsigned := by
      rw [Document.ofItems_eq_map, Json.unsignedItems_eq_map, List.map_map, List.getElem?_map]
      rfl
    have item' : (Document.ofItems items)[index]? = items[index]?.map .ofJson := by
      rw [Document.ofItems_eq_map, List.getElem?_map]
    simp only [ofField, readItem, item, item']
    cases items[index]? with
    | none => rfl
    | some v => exact codec.read_unsigned dialect v

instance [Codec.Addressable codec] : Addressable (ofField name about get codec default) where
  isAddressable_of_mem {r entry} mem := by
    obtain rfl := List.mem_singleton.mp mem
    exact codec.isAddressable_encode (get r)

end Field

/-! ### Several fields -/

section Several

variable {f : α → β} {fields : Fields ρ α}

theorem fromMap_map (dialect : Dialect) (entries : List (String × Document)) :
    (f <$> fields).fromMap dialect entries =
      .both (.value f) (fields.fromMap dialect entries) := rfl

instance {all} [Blends fields all] : Blends (f <$> fields)
    (fun q ↦ all fun x ws ↦ q (f x) ws) where
  exists_made blended _ h := by
    obtain ⟨x, ws, made, holds⟩ := fields.exists_made blended h
    exact ⟨f x, ws, made, holds⟩

instance {assemble : ρ → α} [Reads fields assemble] :
    Reads (f <$> fields) (fun r ↦ f (assemble r)) where
  fromMap_written dialect _ _ nodup holds := by
    rw [fromMap_map, fields.fromMap_written dialect nodup holds, Attempt.both_value]

instance {all} [Reached fields all] : Reached (f <$> fields) (fun q ↦ all fun x ↦ q (f x)) where
  of_fromMap read q h := by
    obtain ⟨g, x, hg, hx, rfl⟩ := Attempt.both_eq_value_iff.mp read
    cases hg
    exact fields.of_fromMap hx h
  of_fromList {dialect given index y} read q h := by
    cases hx : fields.fromList dialect given index with
    | error e => simp [Functor.map, hx, Except.map] at read
    | ok x =>
      simp only [Functor.map, hx, Except.map, Except.ok.injEq] at read
      exact read ▸ fields.of_fromList hx h

instance [Steady fields] : Steady (f <$> fields) where
  fromMap_unsigned dialect es := by
    rw [fromMap_map, fromMap_map, Attempt.toOption_both, Attempt.toOption_both,
      fields.fromMap_unsigned]
  fromList_unsigned dialect record count items index := by
    have same := fields.fromList_unsigned dialect record count items index
    exact (Codec.toOption_map ..).trans ((congrArg _ same).trans (Codec.toOption_map ..).symm)

instance [Addressable fields] : Addressable (f <$> fields) where
  isAddressable_of_mem mem := fields.isAddressable_of_mem mem

variable {first : Fields ρ (α → β)} {rest : Fields ρ α}

instance {allFirst allRest} [Blends first allFirst] [Blends rest allRest] :
    Blends (first <*> rest)
      (fun q ↦ allFirst fun g ws ↦ allRest fun x ws' ↦ q (g x) (ws ++ ws')) where
  exists_made blended _ h := by
    obtain ⟨g, ws, made, holds⟩ := first.exists_made
      (fun {_ _ _} hx hy ↦ blended (List.mem_append_left _ hx) (List.mem_append_left _ hy)) h
    obtain ⟨x, ws', made, holds'⟩ := rest.exists_made
      (fun {_ _ _} hx hy ↦ blended (List.mem_append_right _ hx) (List.mem_append_right _ hy)) made
    refine ⟨g x, ws ++ ws', made, fun entry mem ↦ ?_⟩
    exact (List.mem_append.mp mem).elim (holds entry) (holds' entry)

theorem fromMap_seq (dialect : Dialect) (entries : List (String × Document)) :
    (first <*> rest).fromMap dialect entries =
      .both (first.fromMap dialect entries) (rest.fromMap dialect entries) := rfl

theorem fromList_seq (dialect : Dialect) (given : Positional) (index : Nat) :
    (first <*> rest).fromList dialect given index = do
      let g ← first.fromList dialect given index
      let x ← rest.fromList dialect given (index + first.members.length)
      return g x := rfl

instance {assembleFirst : ρ → α → β} {assembleRest : ρ → α} [Reads first assembleFirst]
    [Reads rest assembleRest] :
    Reads (first <*> rest) (fun r ↦ assembleFirst r (assembleRest r)) where
  fromMap_written dialect _ _ nodup holds := by
    rw [fromMap_seq,
      first.fromMap_written dialect nodup
        fun entry mem ↦ holds entry (List.mem_append_left _ mem),
      rest.fromMap_written dialect nodup
        fun entry mem ↦ holds entry (List.mem_append_right _ mem),
      Attempt.both_value]

instance {allFirst allRest} [Reached first allFirst] [Reached rest allRest] :
    Reached (first <*> rest) (fun q ↦ allFirst fun g ↦ allRest fun x ↦ q (g x)) where
  of_fromMap read _ h := by
    obtain ⟨g, x, hg, hx, rfl⟩ := Attempt.both_eq_value_iff.mp read
    exact rest.of_fromMap hx (first.of_fromMap hg h)
  of_fromList {dialect given index y} read _ h := by
    rw [fromList_seq] at read
    cases hg : first.fromList dialect given index with
    | error e => simp [hg, bind, Except.bind] at read
    | ok g =>
      cases hx : rest.fromList dialect given (index + first.members.length) with
      | error e => simp [hg, hx, bind, Except.bind] at read
      | ok x =>
        simp only [hg, hx, bind, Except.bind, pure, Except.pure, Except.ok.injEq] at read
        exact read ▸ rest.of_fromList hx (first.of_fromList hg h)

instance [Steady first] [Steady rest] : Steady (first <*> rest) where
  fromMap_unsigned dialect es := by
    rw [fromMap_seq, fromMap_seq, Attempt.toOption_both, Attempt.toOption_both,
      first.fromMap_unsigned, rest.fromMap_unsigned]
  fromList_unsigned dialect record count items index := by
    simp only [fromList_seq, Codec.toOption_bind, fromList_unsigned]

instance [Addressable first] [Addressable rest] : Addressable (first <*> rest) where
  isAddressable_of_mem mem :=
    (List.mem_append.mp mem).elim first.isAddressable_of_mem rest.isAddressable_of_mem

end Several

end Fields

/-! ### Records -/

/-- The entries of a record stand under the names of its fields, which are all different and can be
written in a path. -/
structure Fields.IsKeyed (fields : Fields ρ ρ) : Prop where
  names : ∀ r, (fields.toEntries r).map (·.1) = fields.members.map (·.name)
  spelled : (fields.members.map (·.name)).Nodup ∧
    ∀ name ∈ fields.members.map (·.name), FieldPath.IsSegment name

theorem Fields.IsKeyed.nodup_toEntries {fields : Fields ρ ρ} (keyed : fields.IsKeyed) (r : ρ) :
    ((fields.toEntries r).map (·.1)).Nodup := keyed.names r ▸ keyed.spelled.1

theorem Fields.IsKeyed.isSegment_of_mem {fields : Fields ρ ρ} (keyed : fields.IsKeyed) {r : ρ}
    {entry : String × Json} (mem : entry ∈ fields.toEntries r) : FieldPath.IsSegment entry.1 :=
  keyed.spelled.2 _ (keyed.names r ▸ List.mem_map_of_mem mem)

namespace Codec

section Record

variable {name about : String} {fields : Fields ρ ρ}

theorem find?_sortedValues (key : String) (es : List (String × Json)) :
    Entries.find? key (Json.sortedValues es) = (Entries.find? key es).map Json.sorted := by
  induction es with
  | nil => rfl
  | cons entry rest ih =>
    obtain ⟨k, v⟩ := entry
    rw [Json.sortedValues, Entries.find?, Entries.find?, ih]
    split <;> rfl

theorem keys_sortedValues (es : List (String × Json)) :
    (Json.sortedValues es).map (·.1) = es.map (·.1) := by
  rw [Json.sortedValues_eq_map, List.map_map]
  rfl

/-- What the written form of a record has under a key. -/
theorem find?_sort_toEntries (keyed : fields.IsKeyed) (r : ρ) (key : String) :
    Entries.find? key (Entries.sort (Json.sortedValues (fields.toEntries r))) =
      (Entries.find? key (fields.toEntries r)).map Json.sorted := by
  rw [Entries.find?_sort, find?_sortedValues]
  rw [keys_sortedValues]
  exact keyed.nodup_toEntries r

theorem encode_record (r : ρ) : (record name about fields).encode r =
    .obj (Entries.sort (Json.sortedValues (fields.toEntries r))) := rfl

theorem head_encode_record (r : ρ) : ((record name about fields).encode r).head = .object := rfl

theorem holds_sort_toEntries (keyed : fields.IsKeyed) (r : ρ) :
    Fields.Holds (Entries.sort (Json.sortedValues (fields.toEntries r))) (fields.toEntries r) :=
  fun entry mem ↦ by
    rw [find?_sort_toEntries keyed,
      (Entries.find?_eq_some_iff (keyed.nodup_toEntries r)).mpr mem, Option.map_some]

/-- Blends of a record are written records, if what the fields make is written with the entries it
comes with. -/
theorem blends_record {all} [Fields.Blends fields all] (keyed : fields.IsKeyed)
    (made : all fun r ws ↦ ws = fields.toEntries r) : Blends (record name about fields) where
  exists_encode {a b m} sorted blend := by
    rw [encode_record, encode_record] at blend
    obtain ⟨shape, there, parts⟩ := blend
    obtain ⟨es, rfl⟩ : ∃ es, m = .obj es := by
      rcases shape with shape | shape <;> obtain ⟨es, eq⟩ := Json.exists_obj_of_head shape.head
      · exact ⟨es, eq⟩
      · exact ⟨es, eq⟩
    obtain ⟨keys, values⟩ := sorted.of_obj
    -- A key that both records have is kept by either shape, so the fields find what they read.
    have blended : Fields.Blended (fields.toEntries a) (fields.toEntries b) es := by
      intro key x y hx hy
      have left : (Json.obj (Entries.sort (Json.sortedValues (fields.toEntries a)))).step? key =
          some x.sorted := holds_sort_toEntries keyed a _ hx
      have right : (Json.obj (Entries.sort (Json.sortedValues (fields.toEntries b)))).step? key =
          some y.sorted := holds_sort_toEntries keyed b _ hy
      obtain ⟨z, hz⟩ : ∃ z, (Json.obj es).step? key = some z := by
        refine Option.isSome_iff_exists.mp (shape.elim (fun s ↦ s.steps key ?_ (.inr ?_))
          (fun s ↦ s.steps key ?_ (.inr ?_)))
        all_goals first | rw [left]; rfl | rw [right]; rfl
      exact ⟨z, hz, values _ (Entries.mem_of_find? hz), parts hz (by rw [left, right]; rfl)⟩
    obtain ⟨c, ws, rfl, holds⟩ := fields.exists_made blended made
    refine ⟨c, congrArg Json.obj (Entries.ext_of_sorted (Entries.sorted_sort _) keys fun key ↦ ?_)⟩
    rw [find?_sort_toEntries keyed]
    cases hw : Entries.find? key (fields.toEntries c) with
    | some w => exact (holds _ (Entries.mem_of_find? hw)).symm
    | none =>
      -- No record has the key, so the blend has it from nowhere.
      have absent (r : ρ) : Entries.find? key (fields.toEntries r) = none := by
        rw [Entries.find?_eq_none_iff, keyed.names r, ← keyed.names c, ← Entries.find?_eq_none_iff]
        exact hw
      cases hz : Entries.find? key es with
      | none => rfl
      | some z =>
        have some := @there key z hz
        simp [Json.isSome_sources, Json.step?, find?_sort_toEntries keyed, absent] at some

/-- A written record is read back as `settle` makes it, if its fields make that. -/
theorem reads_record {settle assemble : ρ → ρ} [Fields.Reads fields assemble]
    (keyed : fields.IsKeyed) (assembled : ∀ r, assemble r = settle r) :
    Reads (record name about fields) settle where
  read_encode dialect r := by
    have nodup := (Entries.sorted_sort (Json.sortedValues (fields.toEntries r))).nodup
    have read := fields.fromMap_written dialect nodup (holds_sort_toEntries keyed r)
    show fields.readMap dialect (Document.ofEntries _) none = _
    simp only [Fields.readMap, Fields.passOver_ofEntries, read, Attempt.both_value,
      Attempt.toExcept, assembled]

theorem steady_record [Fields.Steady fields] : Steady (record name about fields) where
  read_unsigned dialect v := by
    cases v with
    | obj es =>
      show (fields.readMap dialect (Document.ofEntries _) none).toOption =
        (fields.readMap dialect (Document.ofEntries _) none).toOption
      simp only [Fields.readMap, Fields.passOver_ofEntries, Attempt.both_value]
      rw [← Attempt.toOption, ← Attempt.toOption, Attempt.toOption_both, Attempt.toOption_both,
        Fields.fromMap_unsigned]
    | arr items =>
      show (fields.readList name dialect (Document.ofItems _) none).toOption =
        (fields.readList name dialect (Document.ofItems _) none).toOption
      have length : (Document.ofItems (Json.unsignedItems items)).length =
          (Document.ofItems items).length := by
        simp [Document.ofItems_eq_map, Json.unsignedItems_eq_map]
      simp only [Fields.readList, toOption_bind, Fields.fromList_unsigned, length]
    | num n => cases n <;> rfl
    | _ => rfl

/-- What is read as a record has every property that the values its fields make have. -/
theorem IsRead.of_record {all} [Fields.Reached fields all] {r : ρ}
    (h : (record name about fields).IsRead r) {q : ρ → Prop} (made : all q) : q r := by
  obtain ⟨dialect, d, read⟩ := h
  cases d with
  | map entries ending =>
    change fields.readMap dialect entries ending = .ok r at read
    rw [Fields.readMap, Attempt.toExcept_eq_ok_iff] at read
    obtain ⟨g, x, hg, hx, rfl⟩ := Attempt.both_eq_value_iff.mp read
    obtain ⟨_, _, eq, -, rfl⟩ := Attempt.both_eq_value_iff.mp hg
    cases eq
    exact fields.of_fromMap hx made
  | list items ending =>
    change fields.readList name dialect items ending = .ok r at read
    rw [Fields.readList] at read
    generalize Positional.mk name fields.members.length items ending = given at read
    cases hx : fields.fromList dialect given 0 with
    | error e => simp [hx, bind, Except.bind] at read
    | ok x =>
      have eq : x = r := by
        simp only [hx, bind, Except.bind] at read
        split at read <;> cases read
        rfl
      exact eq ▸ fields.of_fromList hx made
  | _ => cases read

theorem addressable_record [Fields.Addressable fields] (keyed : fields.IsKeyed) :
    Addressable (record name about fields) where
  isAddressable_encode r := .of_steps fun {key v} h ↦ by
    rw [encode_record, Json.step?, find?_sort_toEntries keyed, Option.map_eq_some_iff] at h
    obtain ⟨w, hw, rfl⟩ := h
    have mem := Entries.mem_of_find? hw
    exact ⟨keyed.isSegment_of_mem mem, fields.isAddressable_of_mem mem⟩

/-- A record is lawful if its fields are, once their open questions have been answered. -/
theorem Lawful.record {all} {assemble : ρ → ρ} [Fields.Blends fields all]
    [Fields.Reads fields assemble] [Fields.Steady fields] [Fields.Addressable fields]
    (keyed : fields.IsKeyed)
    (made : all fun r ws ↦ ws = fields.toEntries r) (assembled : ∀ r, assemble r = r) :
    Lawful (.record name about fields) where
  toBlends := blends_record keyed made
  toReads := reads_record keyed assembled
  toSteady := steady_record
  toAddressable := addressable_record keyed

theorem Present.record : Present (.record name about fields) where
  encode_ne_null r h := by
    rw [encode_record] at h
    cases h

end Record

end Codec

end Sitewright
