import Sitewright.Proofs.Codec.Record

/-!
# Reading records slot by slot

A record stands in a value as an object, under the names of its fields, or as a list, in the order
of its fields. Either way each field has one *slot* in the value, one step below it (`Json.slot`),
and reading the record is reading each field from its slot: `Codec.read_record_iff` says so for
every record at once, with what its fields make of the slots as a parameter that is found by
instances, field by field.

Two consequences matter for changes. A value in which one slot is replaced reads as the record with
one field replaced, because the other slots are as they were (`Json.step?_slot_of_ne`). And whether
there are too many items for the record does not depend on what stands in them
(`Json.fits_setStep?`).
-/

namespace Sitewright

/-! ### Slots of a value -/

namespace Json

/-- The step that leads to a field of a record, which is a name in an object and an index in a
list. -/
def slot (v : Json) (name : String) (index : Nat) : String :=
  match v with
  | arr _ => toString index
  | _ => name

/-- Values that a record with so many fields can be read from. -/
def Fits (count : Nat) : Json → Prop
  | obj _ => True
  | arr items => items.length ≤ count
  | _ => False

variable {v v' new : Json} {step name other : String} {index position : Nat}

theorem slot_setStep? (h : v.setStep? step new = some v') (name : String) (index : Nat) :
    v'.slot name index = v.slot name index := by
  have head := head_setStep? h
  cases v with
  | obj entries =>
    obtain ⟨_, rfl⟩ := exists_obj_of_head head
    rfl
  | arr items =>
    obtain ⟨_, rfl, -⟩ := exists_arr_of_head head
    rfl
  | null | bool | num | str => cases h

theorem fits_setStep? (h : v.setStep? step new = some v') (count : Nat) :
    v'.Fits count ↔ v.Fits count := by
  have head := head_setStep? h
  cases v with
  | obj entries =>
    obtain ⟨_, rfl⟩ := exists_obj_of_head head
    exact Iff.rfl
  | arr items =>
    obtain ⟨others, rfl, length⟩ := exists_arr_of_head head
    rw [Fits, Fits, length]
  | null | bool | num | str => cases h

/-- Different fields have different slots. -/
theorem slot_ne (v : Json) (names : other ≠ name) (indices : position ≠ index) :
    v.slot other position ≠ v.slot name index := by
  cases v with
  | arr items => exact fun eq ↦ indices (toString_injective eq)
  | _ => exact names

theorem step?_slot_self (h : v.setStep? (v.slot name index) new = some v') :
    v'.step? (v'.slot name index) = some new := by
  rw [slot_setStep? h]
  exact step?_setStep?_self h

/-- Replacing what stands in one slot leaves the other slots as they are. -/
theorem step?_slot_of_ne (h : v.setStep? (v.slot name index) new = some v')
    (names : other ≠ name) (indices : position ≠ index) :
    v'.step? (v'.slot other position) = v.step? (v.slot other position) := by
  rw [slot_setStep? h]
  exact step?_setStep?_of_ne h (v.slot_ne names indices)

end Json

/-! ### Fields -/

namespace Codec

variable {α : Type}

/-- What a field is read as from its slot. -/
def readSlot (codec : Codec α) (default : Option α) (dialect : Dialect) :
    Option Json → Option α
  | none => default
  | some v => (codec.read dialect (.ofJson v)).toOption

end Codec

namespace Fields

variable {ρ α β : Type}

/-- From the slots of a value, the first of them at an index, the fields make what `make` does. -/
class Slotwise (fields : Fields ρ α) (make : outParam (Dialect → Json → Nat → Option α)) :
    Prop where
  toOption_fromMap (dialect : Dialect) {es : List (String × Json)} (nodup : (es.map (·.1)).Nodup)
    (index : Nat) : (fields.fromMap dialect (Document.ofEntries es)).toOption =
      make dialect (.obj es) index
  toOption_fromList (dialect : Dialect) (record : String) (count : Nat) (items : List Json)
    (index : Nat) : (fields.fromList dialect ⟨record, count, Document.ofItems items, none⟩
      index).toOption = make dialect (.arr items) index

section Field

variable {name about : String} {get : ρ → α} {codec : Codec α} {default : Option α}

instance : Slotwise (ofField name about get codec default)
    (fun dialect v index ↦ codec.readSlot default dialect (v.step? (v.slot name index))) where
  toOption_fromMap dialect es nodup _ := by
    show (readEntry codec name default dialect _).toOption =
      codec.readSlot default dialect (Entries.find? name es)
    cases found : Entries.find? name es with
    | none =>
      have absent := firstEntry_eq_none (Entries.find?_eq_none_iff.mp found) 0
      simp only [readEntry, absent, Codec.readSlot]
      cases default <;> rfl
    | some v =>
      obtain ⟨j, rest, first, once⟩ := firstEntry_of_find? nodup found 0
      simp only [readEntry, first, once, Codec.readSlot]
      cases codec.read dialect (.ofJson v) with
      | error e => rfl
      | ok a => rfl
  toOption_fromList dialect record count items index := by
    have item : (Json.arr items).step? ((Json.arr items).slot name index) = items[index]? :=
      Json.step?_arr_toString items index
    rw [item]
    show (readItem codec default dialect _ index).toOption = _
    simp only [readItem, Document.ofItems_eq_map, List.getElem?_map]
    cases items[index]? with
    | none => cases default <;> rfl
    | some v => rfl

end Field

variable {f : α → β} {fields : Fields ρ α} {first : Fields ρ (α → β)} {rest : Fields ρ α}

instance {make} [h : Slotwise fields make] :
    Slotwise (f <$> fields) (fun dialect v index ↦ (make dialect v index).map f) where
  toOption_fromMap dialect _ nodup index := by
    rw [fromMap_map, Attempt.toOption_both, h.toOption_fromMap dialect nodup index]
    rfl
  toOption_fromList dialect record count items index := by
    rw [← h.toOption_fromList dialect record count items index]
    exact Codec.toOption_map ..

instance {makeFirst makeRest} [h : Slotwise first makeFirst] [h' : Slotwise rest makeRest] :
    Slotwise (first <*> rest) (fun dialect v index ↦ (makeFirst dialect v index).bind fun g ↦
      (makeRest dialect v (index + first.members.length)).map g) where
  toOption_fromMap dialect _ nodup index := by
    rw [fromMap_seq, Attempt.toOption_both, h.toOption_fromMap dialect nodup index,
      h'.toOption_fromMap dialect nodup (index + first.members.length)]
  toOption_fromList dialect record count items index := by
    rw [fromList_seq, Codec.toOption_bind, h.toOption_fromList]
    refine Option.bind_congr fun g _ ↦ ?_
    rw [Codec.toOption_bind, h'.toOption_fromList, Option.map_eq_bind]
    rfl

end Fields

/-! ### Records -/

namespace Codec

variable {ρ : Type} {name about : String} {fields : Fields ρ ρ}

theorem toOption_eq_some_iff {ε α : Type} {x : Except ε α} {a : α} :
    x.toOption = some a ↔ x = .ok a := by
  cases x <;> simp [Except.toOption]

/-- **A record is read from its slots.** Only a list with too many items is refused beyond that. -/
theorem read_record_iff {make} [h : Fields.Slotwise fields make] {v : Json} (sorted : v.IsSorted)
    {r : ρ} : (record name about fields).read .value (.ofJson v) = .ok r ↔
      v.Fits fields.members.length ∧ make .value v 0 = some r := by
  cases v with
  | obj es =>
    obtain ⟨keys, -⟩ := sorted.of_obj
    show fields.readMap .value (Document.ofEntries es) none = .ok r ↔ True ∧ _
    have read : (fields.readMap .value (Document.ofEntries es) none).toOption =
        make .value (.obj es) 0 := by
      rw [← h.toOption_fromMap .value keys.nodup 0, Fields.readMap, Fields.passOver_ofEntries,
        Attempt.both_value, ← Attempt.toOption, Attempt.toOption_both]
      exact Option.map_id' ..
    rw [← read, toOption_eq_some_iff, true_and]
  | arr items =>
    show fields.readList name .value (Document.ofItems items) none = .ok r ↔
      items.length ≤ fields.members.length ∧ _
    have length : (Document.ofItems items).length = items.length := by
      rw [Document.ofItems_eq_map, List.length_map]
    rw [← h.toOption_fromList .value name fields.members.length items 0, toOption_eq_some_iff,
      Fields.readList, length]
    cases fields.fromList .value ⟨name, fields.members.length, Document.ofItems items, none⟩ 0 with
    | error e => simp [bind, Except.bind]
    | ok a =>
      by_cases excess : fields.members.length < items.length
      · have long : ¬ items.length ≤ fields.members.length := Nat.not_le.mpr excess
        simp [bind, Except.bind, excess, long, Dialect.value]
      · have fits : items.length ≤ fields.members.length := Nat.not_lt.mp excess
        simp [bind, Except.bind, excess, fits, pure, Except.pure]
  | null | bool | num | str => exact ⟨fun read ↦ (by cases read), fun both ↦ both.1.elim⟩

end Codec

end Sitewright
