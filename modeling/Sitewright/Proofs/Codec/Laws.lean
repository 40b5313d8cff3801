import Sitewright.Codec.Basic
import Sitewright.Proofs.Json.Blend
import Sitewright.Proofs.Json.Dotted

/-!
# Laws of codecs

Four laws of a codec, each proved for every way in which codecs are put together, so that the codec
of a record has them because its fields do.

* `Codec.Blends`: a blend of two written values is the written form of some value. This is what
  makes a value readable from which a part of an edit has been taken back.
* `Codec.Reads`: a written value is read back in every dialect. What comes back need not be the
  value that was written: an entry of a page can be held as something else than what its written
  form stands for, and reading settles that. So the law names the function that reading a written
  value amounts to; it is the identity for everything that holds no entries of a page.
* `Codec.Steady`: the signs of floating-point zeros are not looked at.
* `Codec.Addressable`: every place in a written value has a path that can be written. This is what
  lets a change be named by the text of its path.

`Codec.Lawful` is all four for a codec that reads back exactly what was written.

The laws speak of written *sorted* values, as they are exchanged, and not of the order in which a
record declares its fields.
-/

namespace Sitewright

namespace Codec

variable {α β ε : Type}

/-- A blend of two written values is a written value. -/
class Blends (codec : Codec α) : Prop where
  exists_encode {a b : α} {m : Json} (sorted : m.IsSorted)
    (blend : Json.Blend (codec.encode a) (codec.encode b) m) : ∃ c, codec.encode c = m

/-- Reading a written value succeeds, with the value that `settle` makes of the written one. -/
class Reads (codec : Codec α) (settle : outParam (α → α)) : Prop where
  read_encode (dialect : Dialect) (a : α) :
    codec.read dialect (.ofJson (codec.encode a)) = .ok (settle a)

/-- What is read does not depend on the signs of floating-point zeros. -/
class Steady (codec : Codec α) : Prop where
  read_unsigned (dialect : Dialect) (v : Json) :
    (codec.read dialect (.ofJson v.unsigned)).toOption =
      (codec.read dialect (.ofJson v)).toOption

/-- Every place in a written value has a path that can be written. -/
class Addressable (codec : Codec α) : Prop where
  isAddressable_encode (a : α) : (codec.encode a).IsAddressable

/-- A value that is read from some document in some dialect. -/
def IsRead (codec : Codec α) (a : α) : Prop := ∃ dialect d, codec.read dialect d = .ok a

/-- Nothing is written as the absent value. -/
class Present (codec : Codec α) : Prop where
  encode_ne_null (a : α) : codec.encode a ≠ .null

/-- A codec that reads back what was written. -/
class Lawful (codec : Codec α) : Prop
  extends Blends codec, Reads codec id, Steady codec, Addressable codec

theorem exists_encode (codec : Codec α) [Blends codec] {a b : α} {m : Json} (sorted : m.IsSorted)
    (blend : Json.Blend (codec.encode a) (codec.encode b) m) : ∃ c, codec.encode c = m :=
  Blends.exists_encode sorted blend

theorem read_encode (codec : Codec α) {settle : α → α} [Reads codec settle] (dialect : Dialect)
    (a : α) : codec.read dialect (.ofJson (codec.encode a)) = .ok (settle a) :=
  Reads.read_encode dialect a

theorem read_unsigned (codec : Codec α) [Steady codec] (dialect : Dialect) (v : Json) :
    (codec.read dialect (.ofJson v.unsigned)).toOption =
      (codec.read dialect (.ofJson v)).toOption :=
  Steady.read_unsigned dialect v

theorem encode_ne_null (codec : Codec α) [Present codec] (a : α) : codec.encode a ≠ .null :=
  Present.encode_ne_null a

theorem isAddressable_encode (codec : Codec α) [Addressable codec] (a : α) :
    (codec.encode a).IsAddressable :=
  Addressable.isAddressable_encode a

theorem toOption_bind (x : Except ε α) (f : α → Except ε β) :
    (x >>= f).toOption = x.toOption.bind fun a ↦ (f a).toOption := by
  cases x <;> rfl

theorem toOption_map (x : Except ε α) (f : α → β) : (x.map f).toOption = x.toOption.map f := by
  cases x <;> rfl

theorem cases_of_toOption_eq {x y : Except ε α} (h : x.toOption = y.toOption) :
    (∃ a, x = .ok a ∧ y = .ok a) ∨ ∃ e e', x = .error e ∧ y = .error e' := by
  cases x <;> cases y <;> cases h
  · exact .inr ⟨_, _, rfl, rfl⟩
  · exact .inl ⟨_, rfl, rfl⟩

theorem exists_of_map_toOption {x : Except ε α} {f : α → β} {b : β}
    (h : x.toOption.map f = some b) : ∃ a, x = .ok a ∧ f a = b := by
  cases x with
  | error e => cases h
  | ok a => exact ⟨a, rfl, Option.some.inj h⟩

/-! ### Atoms -/

/-- Where a written value is nothing but its head, a blend of two of them is one of them. -/
theorem Blends.of_heads {codec : Codec α}
    (h : ∀ a {m : Json}, m.head = (codec.encode a).head → m = codec.encode a) : Blends codec where
  exists_encode {a b m} _ blend := by
    obtain ⟨shape, -, -⟩ := blend
    exact shape.elim (fun s ↦ ⟨a, (h a s.head).symm⟩) fun s ↦ ⟨b, (h b s.head).symm⟩

instance : Lawful text where
  toBlends := .of_heads fun _ _ ↦ Json.eq_str_of_head
  read_encode _ _ := rfl
  read_unsigned _ v := by
    cases v with
    | num n => cases n <;> rfl
    | _ => rfl
  isAddressable_encode _ := .of_steps fun h ↦ by cases h

instance : Present text where
  encode_ne_null _ h := by cases h

instance : Lawful truth where
  toBlends := .of_heads fun _ _ ↦ Json.eq_bool_of_head
  read_encode _ _ := rfl
  read_unsigned _ v := by
    cases v with
    | num n => cases n <;> rfl
    | _ => rfl
  isAddressable_encode _ := .of_steps fun h ↦ by cases h

instance {bound : Nat} {kind format : String} : Lawful (bounded bound kind format) where
  toBlends := .of_heads fun _ _ ↦ Json.eq_int_of_head
  read_encode _ n := by
    have low : (0 : Int) ≤ (n.val : Int) := Int.natCast_nonneg _
    have high : (n.val : Int).toNat < bound := by simp
    exact dif_pos ⟨low, high⟩
  read_unsigned _ v := by
    cases v with
    | num n => cases n <;> rfl
    | _ => rfl
  isAddressable_encode _ := .of_steps fun h ↦ by cases h

instance {bound : Nat} {kind format : String} : Present (bounded bound kind format) where
  encode_ne_null _ h := by cases h

instance : Lawful byte := inferInstanceAs (Lawful (bounded ..))

instance : Present byte := inferInstanceAs (Present (bounded ..))

instance : Lawful word := inferInstanceAs (Lawful (bounded ..))

/-! ### Values that may be absent -/

section Nullable

variable {codec : Codec α}

theorem encode_nullable_some (a : α) : (nullable codec).encode (some a) = codec.encode a := rfl

instance [Blends codec] : Blends (nullable codec) where
  exists_encode {a b m} sorted blend := by
    have absent (h : m.head = .null) : ∃ c, (nullable codec).encode c = m :=
      ⟨none, (Json.eq_null_of_head h).symm⟩
    have present {x y : α} (h : Json.Blend (codec.encode x) (codec.encode y) m) :
        ∃ c, (nullable codec).encode c = m := by
      obtain ⟨c, hc⟩ := codec.exists_encode sorted h
      exact ⟨some c, hc⟩
    cases a with
    | none =>
      cases b with
      | none => exact absent blend.alike.head.symm
      | some b =>
        rcases blend.of_atom fun _ ↦ rfl with head | right
        · exact absent head
        · exact present right
    | some a =>
      cases b with
      | none =>
        rcases blend.symm.of_atom fun _ ↦ rfl with head | left
        · exact absent head
        · exact present left
      | some b => exact present blend

instance {settle : α → α} [Reads codec settle] [Present codec] :
    Reads (nullable codec) (Option.map settle) where
  read_encode dialect a := by
    cases a with
    | none => rfl
    | some a =>
      have read := codec.read_encode dialect a
      have ne := codec.encode_ne_null a
      rw [encode_nullable_some]
      -- What is written must be named before its cases can be told apart: it is never null.
      generalize codec.encode a = v at read ne
      cases v with
      | null => exact absurd rfl ne
      | _ => simp only [nullable, Document.ofJson] at read ⊢; rw [read]; rfl

instance [Steady codec] : Steady (nullable codec) where
  read_unsigned dialect v := by
    have same := codec.read_unsigned dialect v
    cases v with
    | null => rfl
    | num n =>
      cases n <;> exact (toOption_map ..).trans ((congrArg _ same).trans (toOption_map ..).symm)
    | _ => exact (toOption_map ..).trans ((congrArg _ same).trans (toOption_map ..).symm)

instance [Addressable codec] : Addressable (nullable codec) where
  isAddressable_encode a := by
    cases a with
    | none => exact .of_steps fun h ↦ by cases h
    | some a => exact codec.isAddressable_encode a

end Nullable

/-! ### Lists -/

section List

variable {codec : Codec α}

theorem encode_list (as : List α) : (list codec).encode as = .arr (as.map codec.encode) := by
  rw [encode, list, Json.sorted, Json.sortedItems_eq_map, List.map_map]
  rfl

theorem exists_map_eq {f : α → β} {bs : List β} (h : ∀ b ∈ bs, ∃ a, f a = b) :
    ∃ as : List α, as.map f = bs := by
  induction bs with
  | nil => exact ⟨[], rfl⟩
  | cons b rest ih =>
    have ⟨⟨a, ha⟩, others⟩ := List.forall_mem_cons.mp h
    obtain ⟨as, has⟩ := ih others
    exact ⟨a :: as, by rw [List.map_cons, ha, has]⟩

/-- The sources of an item of a blend of two written lists are written items. -/
theorem exists_item_of_sources {as bs : List α} {step : String} {x y : Json}
    (h : Json.sources ((Json.arr (as.map codec.encode)).step? step)
      ((Json.arr (bs.map codec.encode)).step? step) = some (x, y)) :
    ∃ a b, codec.encode a = x ∧ codec.encode b = y := by
  have item {cs : List α} {w : Json} (hw : (Json.arr (cs.map codec.encode)).step? step = some w) :
      ∃ c, codec.encode c = w := by
    obtain ⟨i, -, hi⟩ := Json.exists_index_of_step? hw
    obtain ⟨c, -, hc⟩ := List.mem_map.mp (List.mem_of_getElem? hi)
    exact ⟨c, hc⟩
  cases ha : (Json.arr (as.map codec.encode)).step? step <;>
    cases hb : (Json.arr (bs.map codec.encode)).step? step <;> rw [ha, hb] at h <;> cases h
  · obtain ⟨b, hb⟩ := item hb
    exact ⟨b, b, hb, hb⟩
  · obtain ⟨a, ha⟩ := item ha
    exact ⟨a, a, ha, ha⟩
  · obtain ⟨a, ha⟩ := item ha
    obtain ⟨b, hb⟩ := item hb
    exact ⟨a, b, ha, hb⟩

instance [Blends codec] : Blends (list codec) where
  exists_encode {as bs m} sorted blend := by
    rw [encode_list, encode_list] at blend
    obtain ⟨shape, there, parts⟩ := blend
    obtain ⟨items, rfl⟩ : ∃ items, m = .arr items := by
      rcases shape with shape | shape <;>
        obtain ⟨items, eq, -⟩ := Json.exists_arr_of_head shape.head
      · exact ⟨items, eq⟩
      · exact ⟨items, eq⟩
    obtain ⟨cs, hcs⟩ : ∃ cs : List α, cs.map codec.encode = items := exists_map_eq fun z mem ↦ by
      obtain ⟨i, hi⟩ := List.mem_iff_getElem?.mp mem
      rw [← Json.step?_arr_toString] at hi
      obtain ⟨⟨x, y⟩, source⟩ := Option.isSome_iff_exists.mp (there hi)
      obtain ⟨a, b, rfl, rfl⟩ := exists_item_of_sources source
      exact codec.exists_encode (sorted.of_arr z mem) (parts hi source)
    exact ⟨cs, by rw [encode_list, hcs]⟩

theorem readItems_ofItems {settle : α → α} [Reads codec settle] (dialect : Dialect) (as : List α) :
    readItems (codec.read dialect) (Document.ofItems (as.map codec.encode)) none =
      .ok (as.map settle) := by
  induction as with
  | nil => rfl
  | cons a rest ih =>
    simp only [List.map_cons, Document.ofItems, readItems, read_encode, ih, bind, Except.bind, pure,
      Except.pure]

instance {settle : α → α} [Reads codec settle] : Reads (list codec) (List.map settle) where
  read_encode dialect as := by
    rw [encode_list]
    exact readItems_ofItems dialect as

theorem readItems_unsigned [Steady codec] (dialect : Dialect) (items : List Json) :
    (readItems (codec.read dialect) (Document.ofItems (Json.unsignedItems items)) none).toOption =
      (readItems (codec.read dialect) (Document.ofItems items) none).toOption := by
  induction items with
  | nil => rfl
  | cons v rest ih =>
    simp only [Json.unsignedItems, Document.ofItems, readItems, toOption_bind, read_unsigned, ih]

instance [Steady codec] : Steady (list codec) where
  read_unsigned dialect v := by
    cases v with
    | arr items => exact readItems_unsigned dialect items
    | num n => cases n <;> rfl
    | _ => rfl

/-- What is apart in the items of a list is apart in the list, and nothing else. -/
theorem isAddressableBut_encode_list {apart : α → List String → Prop}
    (h : ∀ a, (codec.encode a).IsAddressableBut (apart a)) (as : List α) :
    ((list codec).encode as).IsAddressableBut fun place ↦
      ∃ (i : Nat) (a : α) (rest : List String),
        as[i]? = some a ∧ apart a rest ∧ place = toString i :: rest := by
  rw [encode_list]
  refine Json.isAddressableBut_arr fun i item hitem ↦ ?_
  rw [List.getElem?_map, Option.map_eq_some_iff] at hitem
  obtain ⟨a, ha, rfl⟩ := hitem
  exact (h a).mono fun rest mem ↦ ⟨i, a, rest, ha, mem, rfl⟩

instance [Addressable codec] : Addressable (list codec) where
  isAddressable_encode as :=
    (isAddressableBut_encode_list codec.isAddressable_encode as).mono
      fun _ ⟨_, _, _, _, no, _⟩ ↦ no

theorem IsRead.of_list {as : List α}
    (h : (list codec).IsRead as) : ∀ a ∈ as, codec.IsRead a := by
  obtain ⟨dialect, d, read⟩ := h
  cases d with
  | list items ending =>
    change readItems (codec.read dialect) items ending = .ok as at read
    induction items generalizing as with
    | nil =>
      cases ending <;> cases read
      simp
    | cons d rest ih =>
      rw [readItems] at read
      cases ha : codec.read dialect d with
      | error e => simp [ha, bind, Except.bind] at read
      | ok a =>
        cases hrest : readItems (codec.read dialect) rest ending with
        | error e => simp [ha, hrest, bind, Except.bind] at read
        | ok others =>
          simp only [ha, hrest, bind, Except.bind, pure, Except.pure, Except.ok.injEq] at read
          subst read
          exact List.forall_mem_cons.mpr ⟨⟨dialect, d, ha⟩, ih hrest⟩
  | _ => cases read

theorem IsRead.of_list_or_default {as : List α}
    (h : (list codec).IsRead as ∨ some [] = some as) : ∀ a ∈ as, codec.IsRead a := by
  rcases h with h | h
  · exact h.of_list
  · cases h
    simp

end List

/-! ### Choices -/

section Choice

variable {name : String} {definition : Json} {all : List α} {tag : α → String}

theorem checkUnit_unsigned (dialect : Dialect) (v : Json) :
    (checkUnit dialect (.ofJson v.unsigned)).toOption =
      (checkUnit dialect (.ofJson v)).toOption := by
  cases v with
  | num n => cases n <;> rfl
  | arr items => cases items <;> rfl
  | obj entries => cases entries <;> rfl
  | _ => rfl

/-- A choice is lawful if each of its values is found under its tag. -/
theorem Lawful.choice (found : ∀ a, ofTag? all tag (tag a) = some a) :
    Lawful (.choice name definition all tag) where
  toBlends := .of_heads fun _ _ ↦ Json.eq_str_of_head
  read_encode dialect a := by
    simp only [Codec.choice, encode, Json.sorted, Document.ofJson, checkTag, found, id]
  read_unsigned dialect v := by
    cases v with
    | num n =>
      cases n with
      | int => rfl
      | float =>
        simp only [Codec.choice, Json.unsigned, Document.ofJson]
        split <;> rfl
    | obj entries =>
      cases entries with
      | nil => rfl
      | cons entry rest =>
        cases rest with
        | nil =>
          simp only [Codec.choice, Json.unsigned, Json.unsignedValues, Document.ofJson,
            Document.ofEntries, readChoiceMap, toOption_bind, checkUnit_unsigned]
        | cons =>
          simp only [Codec.choice, Json.unsigned, Json.unsignedValues, Document.ofJson,
            Document.ofEntries, readChoiceMap]
          split
          · simp only [toOption_bind, checkUnit_unsigned]
          · rfl
    | _ => rfl
  isAddressable_encode _ := .of_steps fun h ↦ by cases h

end Choice

end Codec

end Sitewright
