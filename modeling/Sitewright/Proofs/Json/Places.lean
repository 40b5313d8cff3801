import Sitewright.Json.Pointer
import Sitewright.Proofs.Json.Sorted
import Sitewright.Proofs.Text.Numerals

/-!
# What stands where in a value

A value is a tree whose steps are object keys and list indices. `Json.head` is what a node of the
tree shows by itself, without its children: a scalar as it is, a list by its length, an object by
being one. `Json.headAt` is the head at the end of a list of steps, and two sorted values with the
same head everywhere are the same up to the sign of floating-point zeros
(`Json.unsigned_eq_of_alike`), which is as fine as equality of values is. The signed head shows that
sign too, and sorted values with the same signed head everywhere are one value
(`Json.eq_of_signedHeadAt`).

Every operation that changes a value at one place is described by the heads it leaves: nothing
changes at a place that is not below the changed one
(`Json.signedHeadAt_updateAt?_of_not_prefix`), and below it stands what the operation puts there
(`Json.at?_updateAt?`). A place has one list of steps only because an index has one numeral
(`Json.indexStep?_eq_some_iff`).
-/

namespace Sitewright

namespace Binary64

/-- The number with a zero made positive. -/
def unsigned (x : Binary64) : Binary64 := if x.isZero then zero false else x

theorem same_iff {x y : Binary64} : x.same y = true ↔ x.unsigned = y.unsigned := by
  have isZero_zero : (zero false).isZero = true := rfl
  rw [same, unsigned, unsigned, Bool.or_eq_true, Bool.and_eq_true, beq_iff_eq]
  by_cases hx : x.isZero = true <;> by_cases hy : y.isZero = true
  · simp [hx, hy]
  · have ne : zero false ≠ y := fun eq ↦ hy (eq ▸ isZero_zero)
    have ne' : x ≠ y := fun eq ↦ hy (eq ▸ hx)
    simp [hx, hy, ne, ne']
  · have ne : x ≠ zero false := fun eq ↦ hx (eq ▸ isZero_zero)
    have ne' : x ≠ y := fun eq ↦ hx (eq ▸ hy)
    simp [hx, hy, ne, ne']
  · simp [hx, hy]

end Binary64

namespace Json

/-! ### Indices -/

theorem foldl_digits_eq (cs : List Char) (n : Nat) :
    cs.foldl (fun n c ↦ n * 10 + (c.toNat - 48)) n = Nat.ofDigitChars 10 cs n := by
  rw [Nat.ofDigitChars_eq_foldl]
  congr
  funext n c
  rw [Nat.mul_comm]
  rfl

/-- An index is written in one way only. -/
theorem indexStep?_eq_some_iff {step : String} {i : Nat} :
    indexStep? step = some i ↔ step = toString i := by
  rw [indexStep?, foldl_digits_eq]
  constructor
  · intro h
    split at h
    · cases h
    · rename_i form
      simp only [Bool.or_eq_true, Bool.and_eq_true, Bool.not_eq_true', beq_iff_eq, bne_iff_ne,
        not_or, not_and, Bool.not_eq_false, List.isEmpty_iff, Decidable.not_not] at form
      obtain ⟨⟨nonempty, digits⟩, leading⟩ := form
      rw [← Option.some.inj h, Nat.toString_eq_ofList_toDigits,
        Text.toDigits_ofDigitChars (List.all_eq_true.mp digits) nonempty leading,
        String.ofList_toList]
  · rintro rfl
    rw [Nat.toString_eq_ofList_toDigits, String.toList_ofList, Nat.ofDigitChars_ten_toDigits]
    rcases Nat.eq_zero_or_pos i with rfl | pos
    · rfl
    · simp [Text.all_isDigit_toDigits, Text.head?_toDigits_ne_zero pos]

@[simp] theorem indexStep?_toString (i : Nat) : indexStep? (toString i) = some i :=
  indexStep?_eq_some_iff.mpr rfl

/-- Different numbers are written differently. -/
theorem toString_injective {i j : Nat} (h : toString i = toString j) : i = j :=
  Option.some.inj (by rw [← indexStep?_toString i, h, indexStep?_toString])

/-! ### Heads -/

/-- What a node of a value shows by itself. -/
inductive Head where
  /-- The absent value. -/
  | null
  /-- A truth value. -/
  | bool (b : Bool)
  /-- An integer. -/
  | int (n : Int)
  /-- A floating-point number, its zero without a sign. -/
  | float (x : Binary64)
  /-- A text. -/
  | str (s : String)
  /-- A list with a number of items. -/
  | list (length : Nat)
  /-- An object. -/
  | object
  deriving DecidableEq

/-- The head of a value. -/
def head : Json → Head
  | null => .null
  | bool b => .bool b
  | num (.int n) => .int n
  | num (.float x) => .float x.unsigned
  | str s => .str s
  | arr items => .list items.length
  | obj _ => .object

theorem eq_str_of_head {m : Json} {s : String} (h : m.head = .str s) : m = str s := by
  cases m with
  | str t => exact congrArg str (Head.str.inj h)
  | num n => cases n <;> cases h
  | _ => cases h

theorem eq_bool_of_head {m : Json} {b : Bool} (h : m.head = .bool b) : m = bool b := by
  cases m with
  | bool c => exact congrArg bool (Head.bool.inj h)
  | num n => cases n <;> cases h
  | _ => cases h

theorem eq_null_of_head {m : Json} (h : m.head = .null) : m = null := by
  cases m with
  | null => rfl
  | num n => cases n <;> cases h
  | _ => cases h

theorem eq_int_of_head {m : Json} {n : Int} (h : m.head = .int n) : m = num (.int n) := by
  cases m with
  | num n =>
    cases n with
    | int k => rw [Head.int.inj h]
    | float => cases h
  | _ => cases h

theorem exists_arr_of_head {v : Json} {n : Nat} (h : v.head = .list n) :
    ∃ items, v = arr items ∧ items.length = n := by
  cases v with
  | arr items => exact ⟨items, rfl, Head.list.inj h⟩
  | num n => cases n <;> cases h
  | _ => cases h

theorem exists_obj_of_head {v : Json} (h : v.head = .object) : ∃ entries, v = obj entries := by
  cases v with
  | obj entries => exact ⟨entries, rfl⟩
  | num n => cases n <;> cases h
  | _ => cases h

/-- The head with the sign of a floating-point zero. -/
def signedHead : Json → Head
  | num (.float x) => .float x
  | v => v.head

/-- The head with a floating-point zero made positive. -/
def Head.unsigned : Head → Head
  | float x => .float x.unsigned
  | h => h

theorem unsigned_signedHead (v : Json) : v.signedHead.unsigned = v.head := by
  rcases v with _ | _ | ⟨_ | _⟩ | _ | _ | _ <;> rfl

/-- The head of what stands at the end of a list of steps. -/
def headAt (steps : List String) (v : Json) : Option Head := (v.at? steps).map head

@[simp] theorem headAt_nil (v : Json) : v.headAt [] = some v.head := rfl

theorem headAt_cons (step : String) (rest : List String) (v : Json) :
    v.headAt (step :: rest) = (v.step? step).bind (headAt rest) := by
  rw [headAt, at?, Option.map_bind]
  rfl

theorem headAt_append (p q : List String) (v : Json) :
    v.headAt (p ++ q) = (v.at? p).bind (headAt q) := by
  rw [headAt, at?_append, Option.map_bind]
  rfl

theorem headAt_isSome (p : List String) (v : Json) : (v.headAt p).isSome = (v.at? p).isSome := by
  rw [headAt, Option.isSome_map]

/-- Above what is there something is there. -/
theorem isSome_at?_of_prefix {p q : List String} {v : Json} (pre : p <+: q)
    (h : (v.at? q).isSome = true) : (v.at? p).isSome = true := by
  obtain ⟨rest, rfl⟩ := pre
  rw [at?_append] at h
  exact Option.isSome_of_isSome_bind h

/-- The signed head of what stands at the end of a list of steps. -/
def signedHeadAt (steps : List String) (v : Json) : Option Head := (v.at? steps).map signedHead

@[simp] theorem signedHeadAt_nil (v : Json) : v.signedHeadAt [] = some v.signedHead := rfl

theorem signedHeadAt_cons (step : String) (rest : List String) (v : Json) :
    v.signedHeadAt (step :: rest) = (v.step? step).bind (signedHeadAt rest) := by
  rw [signedHeadAt, at?, Option.map_bind]
  rfl

theorem signedHeadAt_append (p q : List String) (v : Json) :
    v.signedHeadAt (p ++ q) = (v.at? p).bind (signedHeadAt q) := by
  rw [signedHeadAt, at?_append, Option.map_bind]
  rfl

theorem signedHeadAt_isSome (p : List String) (v : Json) :
    (v.signedHeadAt p).isSome = (v.at? p).isSome := by
  rw [signedHeadAt, Option.isSome_map]

/-- Where the signed heads are the same the heads are. -/
theorem headAt_congr {a b : Json} {p q : List String} (h : a.signedHeadAt p = b.signedHeadAt q) :
    a.headAt p = b.headAt q := by
  have unsigned (v : Json) (p : List String) :
      v.headAt p = (v.signedHeadAt p).map Head.unsigned := by
    rw [headAt, signedHeadAt, Option.map_map]
    exact congrArg (Option.map · _) (funext fun w ↦ (unsigned_signedHead w).symm)
  rw [unsigned, unsigned, h]

/-- Two values with the same heads everywhere. -/
def Alike (a b : Json) : Prop := ∀ p, a.headAt p = b.headAt p

namespace Alike

variable {a b : Json}

@[refl] theorem refl (a : Json) : Alike a a := fun _ ↦ rfl

theorem head (h : Alike a b) : a.head = b.head := Option.some.inj (h [])

end Alike

/-! ### Single steps -/

theorem step?_arr_toString (items : List Json) (i : Nat) :
    (arr items).step? (toString i) = items[i]? := by
  simp only [step?, indexStep?_toString, Option.bind_some]

/-- A step into a list is the numeral of an index. -/
theorem exists_index_of_step? {items : List Json} {step : String} {w : Json}
    (h : (arr items).step? step = some w) : ∃ i : Nat, step = toString i ∧ items[i]? = some w := by
  rw [step?, Option.bind_eq_some_iff] at h
  obtain ⟨i, hi, hw⟩ := h
  exact ⟨i, indexStep?_eq_some_iff.mp hi, hw⟩

/-- Lists of one length have the same steps. -/
theorem isSome_step?_arr {as bs : List Json} (length : as.length = bs.length) (step : String) :
    ((arr as).step? step).isSome = ((arr bs).step? step).isSome := by
  rw [step?, step?]
  cases indexStep? step with
  | none => rfl
  | some i =>
    rw [Option.bind_some, Option.bind_some]
    by_cases lt : i < as.length
    · simp [lt, length ▸ lt]
    · simp [List.getElem?_eq_none (Nat.not_lt.mp lt),
        List.getElem?_eq_none (Nat.not_lt.mp (length ▸ lt))]

/-- What holds of a value if it holds of everything one step below holds of every value. -/
theorem stepInduction {P : Json → Prop}
    (h : ∀ v, (∀ {step w}, v.step? step = some w → P w) → P v) (v : Json) : P v := by
  induction v with
  | arr items ih =>
    refine h _ fun hw ↦ ?_
    obtain ⟨i, -, hi⟩ := exists_index_of_step? hw
    exact ih _ (List.mem_of_getElem? hi)
  | obj entries ih => exact h _ fun hw ↦ ih _ (Entries.mem_of_find? hw)
  | null | bool | num | str => exact h _ fun hw ↦ by cases hw

theorem IsSorted.step? {v w : Json} (hv : v.IsSorted) {step : String} (h : v.step? step = some w) :
    w.IsSorted := by
  cases hv with
  | null | bool | num | str => cases h
  | arr parts =>
    obtain ⟨i, -, hi⟩ := exists_index_of_step? h
    exact parts w (List.mem_of_getElem? hi)
  | obj keys parts => exact parts (step, w) (Entries.mem_of_find? h)

theorem IsSorted.at? {v w : Json} (hv : v.IsSorted) {p : List String} (h : v.at? p = some w) :
    w.IsSorted := by
  induction p generalizing v with
  | nil => exact Option.some.inj h ▸ hv
  | cons step rest ih =>
    rw [Json.at?, Option.bind_eq_some_iff] at h
    obtain ⟨below, hbelow, hw⟩ := h
    exact ih (hv.step? hbelow) hw

section SetStep

variable {v v' new : Json} {step : String}

theorem isSome_setStep? (v new : Json) (step : String) :
    (v.setStep? step new).isSome = (v.step? step).isSome := by
  cases v with
  | obj entries => simp [setStep?, step?]
  | arr items =>
    rw [setStep?, step?]
    cases indexStep? step with
    | none => rfl
    | some i => by_cases lt : i < items.length <;> simp [lt]
  | null | bool | num | str => rfl

/-- A value a step below is replaced in the entries of an object or the items of a list. -/
theorem setStep?_eq_some_iff : v.setStep? step new = some v' ↔
    (∃ entries, v = .obj entries ∧ (Entries.find? step entries).isSome = true ∧
        v' = .obj (Entries.insert step new entries)) ∨
      ∃ items i, v = .arr items ∧ indexStep? step = some i ∧ i < items.length ∧
        v' = .arr (items.set i new) := by
  cases v with
  | obj entries =>
    simp only [setStep?, Option.map_eq_some_iff, Option.isSome_iff_exists]
    grind
  | arr items =>
    simp only [setStep?, Option.bind_eq_some_iff]
    grind
  | null | bool | num | str => simp [setStep?]

theorem step?_setStep?_self (h : v.setStep? step new = some v') : v'.step? step = some new := by
  obtain ⟨entries, rfl, -, rfl⟩ | ⟨items, i, rfl, hi, lt, rfl⟩ := setStep?_eq_some_iff.mp h
  · exact Entries.find?_insert_self ..
  · simp [step?, hi, lt]

theorem step?_setStep?_of_ne (h : v.setStep? step new = some v') {other : String}
    (ne : other ≠ step) : v'.step? other = v.step? other := by
  obtain ⟨entries, rfl, -, rfl⟩ | ⟨items, i, rfl, hi, -, rfl⟩ := setStep?_eq_some_iff.mp h
  · exact Entries.find?_insert_of_ne ne ..
  · rw [step?, step?]
    refine Option.bind_congr fun j hj ↦ List.getElem?_set_ne fun eq ↦ ne ?_
    rw [indexStep?_eq_some_iff.mp hj, indexStep?_eq_some_iff.mp hi, eq]

theorem signedHead_setStep? (h : v.setStep? step new = some v') :
    v'.signedHead = v.signedHead := by
  obtain ⟨entries, rfl, -, rfl⟩ | ⟨items, i, rfl, -, -, rfl⟩ := setStep?_eq_some_iff.mp h
  · rfl
  · simp [signedHead, head]

theorem head_setStep? (h : v.setStep? step new = some v') : v'.head = v.head := by
  rw [← unsigned_signedHead, signedHead_setStep? h, unsigned_signedHead]

theorem IsSorted.setStep? (hv : v.IsSorted) (hnew : new.IsSorted)
    (h : v.setStep? step new = some v') : v'.IsSorted := by
  obtain ⟨entries, rfl, -, rfl⟩ | ⟨items, i, rfl, -, -, rfl⟩ := setStep?_eq_some_iff.mp h
  · exact hv.insert hnew step
  · refine .arr fun w mem ↦ ?_
    rcases List.mem_or_eq_of_mem_set mem with mem | rfl
    · exact hv.of_arr w mem
    · exact hnew

end SetStep

/-! ### Changes at a place -/

section UpdateAt

variable {f : Json → Option Json} {v v' : Json}

theorem updateAt?_cons_eq_some_iff {step : String} {rest : List String} :
    updateAt? f (step :: rest) v = some v' ↔
      ∃ below changed, v.step? step = some below ∧ updateAt? f rest below = some changed ∧
        v.setStep? step changed = some v' := by
  simp [updateAt?, Option.bind_eq_some_iff]

/-- A change succeeds where the place is there and the change succeeds on what stands there. -/
theorem isSome_updateAt? (f : Json → Option Json) (p : List String) (v : Json) :
    (updateAt? f p v).isSome = ((v.at? p).bind f).isSome := by
  induction p generalizing v with
  | nil => rfl
  | cons step rest ih =>
    rw [updateAt?, at?]
    cases hbelow : v.step? step with
    | none => rfl
    | some below =>
      rw [Option.bind_some, Option.bind_some, ← ih below]
      cases updateAt? f rest below with
      | none => rfl
      | some changed => simp [isSome_setStep?, hbelow]

theorem exists_updateAt? {p : List String} {w w' : Json} (hw : v.at? p = some w)
    (hw' : f w = some w') : ∃ v', v.updateAt? f p = some v' := by
  rw [← Option.isSome_iff_exists, isSome_updateAt?, hw, Option.bind_some, hw']
  rfl

/-- What stood at the changed place and what stands there now. -/
theorem at?_updateAt? {p : List String} (h : updateAt? f p v = some v') :
    ∃ w w', v.at? p = some w ∧ f w = some w' ∧ v'.at? p = some w' := by
  induction p generalizing v v' with
  | nil => exact ⟨v, v', rfl, h, rfl⟩
  | cons step rest ih =>
    obtain ⟨below, changed, hbelow, hchanged, hv'⟩ := updateAt?_cons_eq_some_iff.mp h
    simp only [at?, hbelow, step?_setStep?_self hv', Option.bind_some]
    exact ih hchanged

theorem signedHeadAt_updateAt?_of_not_prefix {p : List String} (h : updateAt? f p v = some v')
    {q : List String} (hq : ¬ p <+: q) : v'.signedHeadAt q = v.signedHeadAt q := by
  induction p generalizing v v' q with
  | nil => exact absurd List.nil_prefix hq
  | cons step rest ih =>
    obtain ⟨below, changed, hbelow, hchanged, hv'⟩ := updateAt?_cons_eq_some_iff.mp h
    cases q with
    | nil => simp [signedHead_setStep? hv']
    | cons other q =>
      rw [signedHeadAt_cons, signedHeadAt_cons]
      by_cases eq : other = step
      · subst eq
        rw [step?_setStep?_self hv', hbelow, Option.bind_some, Option.bind_some]
        exact ih hchanged fun pre ↦ hq (List.cons_prefix_cons.mpr ⟨rfl, pre⟩)
      · rw [step?_setStep?_of_ne hv' eq]

theorem IsSorted.updateAt? (hv : v.IsSorted) {p : List String}
    (hf : ∀ {w w'}, v.at? p = some w → w.IsSorted → f w = some w' → w'.IsSorted)
    (h : updateAt? f p v = some v') : v'.IsSorted := by
  induction p generalizing v v' with
  | nil => exact hf rfl hv h
  | cons step rest ih =>
    obtain ⟨below, changed, hbelow, hchanged, hv'⟩ := updateAt?_cons_eq_some_iff.mp h
    refine hv.setStep? (ih (hv.step? hbelow) (fun {_ _} hw ↦ hf ?_) hchanged) hv'
    rw [Json.at?, hbelow, Option.bind_some, hw]

end UpdateAt

/-! ### Values without signed zeros -/

mutual

/-- The value with every floating-point zero made positive. -/
def unsigned : Json → Json
  | num (.float x) => num (.float x.unsigned)
  | arr items => arr (unsignedItems items)
  | obj entries => obj (unsignedValues entries)
  | v => v

/-- The values of a list, each with every floating-point zero made positive. -/
def unsignedItems : List Json → List Json
  | [] => []
  | v :: rest => v.unsigned :: unsignedItems rest

/-- The values of entries, each with every floating-point zero made positive. -/
def unsignedValues : List (String × Json) → List (String × Json)
  | [] => []
  | (k, v) :: rest => (k, v.unsigned) :: unsignedValues rest

end

theorem unsignedItems_eq_map (items : List Json) : unsignedItems items = items.map unsigned := by
  induction items with
  | nil => rfl
  | cons v rest ih => rw [unsignedItems, ih, List.map_cons]

theorem unsignedValues_eq_map (entries : List (String × Json)) :
    unsignedValues entries = entries.map fun entry ↦ (entry.1, entry.2.unsigned) := by
  induction entries with
  | nil => rfl
  | cons entry rest ih =>
    obtain ⟨k, v⟩ := entry
    rw [unsignedValues, ih, List.map_cons]

theorem find?_unsignedValues (key : String) (entries : List (String × Json)) :
    Entries.find? key (unsignedValues entries) = (Entries.find? key entries).map unsigned := by
  induction entries with
  | nil => rfl
  | cons entry rest ih =>
    obtain ⟨k, v⟩ := entry
    rw [unsignedValues, Entries.find?, Entries.find?, ih]
    split <;> rfl

theorem sorted_unsignedValues {entries : List (String × Json)} (h : Entries.Sorted entries) :
    Entries.Sorted (unsignedValues entries) := by
  rw [unsignedValues_eq_map, Entries.Sorted, List.map_map]
  exact h

theorem IsSorted.unsigned {v : Json} (hv : v.IsSorted) : v.unsigned.IsSorted := by
  induction hv with
  | null => exact .null
  | bool b => exact .bool b
  | num n => cases n <;> exact .num _
  | str s => exact .str s
  | arr _ ih =>
    rw [Json.unsigned, unsignedItems_eq_map]
    exact .arr (List.forall_mem_map.mpr ih)
  | obj keys _ ih =>
    refine .obj (sorted_unsignedValues keys) fun entry mem ↦ ?_
    rw [unsignedValues_eq_map] at mem
    obtain ⟨source, there, rfl⟩ := List.mem_map.mp mem
    exact ih source there

theorem signedHead_unsigned (v : Json) : v.unsigned.signedHead = v.head := by
  rcases v with _ | _ | ⟨_ | _⟩ | _ | items | _
  case arr => simp [unsigned, unsignedItems_eq_map, signedHead, head]
  all_goals rfl

theorem step?_unsigned (step : String) (v : Json) :
    v.unsigned.step? step = (v.step? step).map unsigned := by
  cases v with
  | num n => cases n <;> rfl
  | arr items =>
    rw [unsigned, step?, step?, unsignedItems_eq_map]
    cases indexStep? step with
    | none => rfl
    | some i => exact List.getElem?_map
  | obj entries => exact find?_unsignedValues step entries
  | null | bool | str => rfl

/-- Without signed zeros a value shows just its heads. -/
theorem signedHeadAt_unsigned (p : List String) (v : Json) :
    v.unsigned.signedHeadAt p = v.headAt p := by
  induction p generalizing v with
  | nil => rw [signedHeadAt_nil, headAt_nil, signedHead_unsigned]
  | cons step rest ih =>
    rw [signedHeadAt_cons, headAt_cons, step?_unsigned, Option.bind_map]
    exact Option.bind_congr fun below _ ↦ ih below

/-! ### Equality -/

/-- A sorted value is determined by its signed head and by what stands one step below. -/
theorem eq_of_steps {a b : Json} (ha : a.IsSorted) (hb : b.IsSorted)
    (head : a.signedHead = b.signedHead) (steps : ∀ step, a.step? step = b.step? step) :
    a = b := by
  rcases a with _ | _ | ⟨_ | _⟩ | _ | items | entries <;>
    rcases b with _ | _ | ⟨_ | _⟩ | _ | others | others <;>
    simp only [signedHead, Json.head, reduceCtorEq, Head.bool.injEq, Head.int.injEq,
      Head.float.injEq, Head.str.injEq] at head
  case arr.arr =>
    refine congrArg arr (List.ext_getElem? fun i ↦ ?_)
    rw [← step?_arr_toString, ← step?_arr_toString, steps]
  case obj.obj => exact congrArg obj (Entries.ext_of_sorted ha.of_obj.1 hb.of_obj.1 steps)
  all_goals first | rfl | rw [head]

/-- **A sorted value is what it shows.** -/
theorem eq_of_signedHeadAt {a b : Json} (ha : a.IsSorted) (hb : b.IsSorted)
    (h : ∀ p, a.signedHeadAt p = b.signedHeadAt p) : a = b := by
  induction a using stepInduction generalizing b with
  | h a ih =>
    refine eq_of_steps ha hb (Option.some.inj (h [])) fun step ↦ ?_
    have below (p : List String) : (a.step? step).bind (signedHeadAt p) =
        (b.step? step).bind (signedHeadAt p) := by
      rw [← signedHeadAt_cons, ← signedHeadAt_cons, h]
    cases hx : a.step? step with
    | none =>
      cases hy : b.step? step with
      | none => rfl
      | some y => simpa [hx, hy] using below []
    | some x =>
      cases hy : b.step? step with
      | none => simpa [hx, hy] using below []
      | some y =>
        rw [hx, hy] at below
        exact congrArg some (ih hx (ha.step? hx) (hb.step? hy) below)

/-- What stands at a place of a sorted value is what the value shows there and below. -/
theorem at?_eq_of_signedHeadAt {a b : Json} (ha : a.IsSorted) (hb : b.IsSorted) {p : List String}
    (h : ∀ rest, a.signedHeadAt (p ++ rest) = b.signedHeadAt (p ++ rest)) : a.at? p = b.at? p := by
  simp only [signedHeadAt_append] at h
  cases hx : a.at? p with
  | none =>
    cases hy : b.at? p with
    | none => rfl
    | some y => simpa [hx, hy] using h []
  | some x =>
    cases hy : b.at? p with
    | none => simpa [hx, hy] using h []
    | some y =>
      rw [hx, hy] at h
      exact congrArg some (eq_of_signedHeadAt (ha.at? hx) (hb.at? hy) h)

/-- Sorted values with the same heads everywhere differ in nothing but the signs of zeros. -/
theorem unsigned_eq_of_alike {a b : Json} (ha : a.IsSorted) (hb : b.IsSorted) (h : Alike a b) :
    a.unsigned = b.unsigned := by
  refine eq_of_signedHeadAt ha.unsigned hb.unsigned fun p ↦ ?_
  rw [signedHeadAt_unsigned, signedHeadAt_unsigned, h]

theorem sameItems_iff {as bs : List Json}
    (h : ∀ v ∈ as, ∀ w, v.same w = true ↔ v.unsigned = w.unsigned) :
    sameItems as bs = true ↔ unsignedItems as = unsignedItems bs := by
  induction as generalizing bs with
  | nil => cases bs <;> simp [sameItems, unsignedItems]
  | cons a as ih =>
    obtain ⟨first, others⟩ := List.forall_mem_cons.mp h
    cases bs with
    | nil => simp [sameItems, unsignedItems]
    | cons b bs => simp [sameItems, unsignedItems, first b, ih others]

theorem sameEntries_iff {as bs : List (String × Json)}
    (h : ∀ entry ∈ as, ∀ w, entry.2.same w = true ↔ entry.2.unsigned = w.unsigned) :
    sameEntries as bs = true ↔ unsignedValues as = unsignedValues bs := by
  induction as generalizing bs with
  | nil => cases bs <;> simp [sameEntries, unsignedValues]
  | cons a as ih =>
    obtain ⟨first, others⟩ := List.forall_mem_cons.mp h
    cases bs with
    | nil => simp [sameEntries, unsignedValues]
    | cons b bs => simp [sameEntries, unsignedValues, first b.2, ih others, and_assoc]

/-- Values are equal if they differ in nothing but the signs of zeros. -/
theorem same_iff_unsigned {a b : Json} : a.same b = true ↔ a.unsigned = b.unsigned := by
  induction a generalizing b with
  | null => rcases b with _ | _ | ⟨_ | _⟩ | _ | _ | _ <;> simp [same, unsigned]
  | bool | str => rcases b with _ | _ | ⟨_ | _⟩ | _ | _ | _ <;> simp [same, unsigned]
  | num n =>
    rcases n with _ | _ <;> rcases b with _ | _ | ⟨_ | _⟩ | _ | _ | _ <;>
      simp [same, unsigned, JsonNumber.same, Binary64.same_iff]
  | arr items ih =>
    cases b with
    | num n => cases n <;> simp [same, unsigned]
    | arr others => simp only [same, unsigned, arr.injEq, sameItems_iff fun v hv w ↦ ih v hv]
    | null | bool | str | obj => simp [same, unsigned]
  | obj entries ih =>
    cases b with
    | num n => cases n <;> simp [same, unsigned]
    | obj others => simp only [same, unsigned, obj.injEq, sameEntries_iff fun e he w ↦ ih e he]
    | null | bool | str | arr => simp [same, unsigned]

/-- **Equality is shown.** Sorted values are equal if they have the same heads everywhere. -/
theorem same_iff_alike {a b : Json} (ha : a.IsSorted) (hb : b.IsSorted) :
    a.same b = true ↔ Alike a b := by
  refine same_iff_unsigned.trans ⟨fun eq p ↦ ?_, unsigned_eq_of_alike ha hb⟩
  rw [← signedHeadAt_unsigned p a, eq, signedHeadAt_unsigned]

end Json

end Sitewright
