import Sitewright.Proofs.Json.Places

/-!
# Blends of two values

Taking back a part of an edit leaves a value that is neither the old nor the new one: some of its
nodes come from one side and some from the other. `Blend a b m` says that `m` is put together from
`a` and `b` in this way. At each node `m` has the head of one of the sides. If the sides have
different heads there, it has all steps of the side whose head it has, and if they have the same
head, it has at least the steps that both have. Below a step that only one side has, all comes from
that side.

The relation is made to be inverted one step at a time: a reader of values goes down a value once,
and all it asks of the value at each node is what `Blend` says of it. It is also closed under the
operations that take changes back (`Blend.updateAt?`), in whatever order they come.
-/

namespace Sitewright.Json

/-- The two values that a part is put together from, given what stands there on either side. A part
that only one side has comes from that side alone. -/
def sources : Option Json → Option Json → Option (Json × Json)
  | some x, some y => some (x, y)
  | some x, none => some (x, x)
  | none, some y => some (y, y)
  | none, none => none

theorem isSome_sources (x y : Option Json) : (sources x y).isSome = (x.isSome || y.isSome) := by
  cases x <;> cases y <;> rfl

/-- The value has the head of `side`, and those steps of `side` that it must not lose: all of them
where the other side has another head, otherwise those that the other side has too. -/
structure HasShape (side other m : Json) : Prop where
  head : m.head = side.head
  steps : ∀ step, (side.step? step).isSome = true →
    side.head ≠ other.head ∨ (other.step? step).isSome = true → (m.step? step).isSome = true

theorem HasShape.setStep? {side other m m' new : Json} {step : String} (h : HasShape side other m)
    (hm' : m.setStep? step new = some m') : HasShape side other m' := by
  refine ⟨(head_setStep? hm').trans h.head, fun step' there kept ↦ ?_⟩
  by_cases eq : step' = step
  · rw [eq, step?_setStep?_self hm']
    rfl
  · rw [step?_setStep?_of_ne hm' eq]
    exact h.steps step' there kept

/-- The value `m` is put together from `a` and `b`. -/
inductive Blend : Json → Json → Json → Prop where
  /-- A node with the shape of one side whose steps lead to blends of what the sides have there. -/
  | node {a b m : Json} (shape : HasShape a b m ∨ HasShape b a m)
      (there : ∀ {step z}, m.step? step = some z →
        (sources (a.step? step) (b.step? step)).isSome = true)
      (parts : ∀ {step z x y}, m.step? step = some z →
        sources (a.step? step) (b.step? step) = some (x, y) → Blend x y z) : Blend a b m

namespace Blend

variable {a b m m' : Json}

/-! ### The sides themselves -/

theorem left (a b : Json) : Blend a b a := by
  induction a using stepInduction generalizing b with
  | h a ih =>
    refine .node (.inl ⟨rfl, fun _ there _ ↦ there⟩) (fun hz ↦ by simp [isSome_sources, hz]) ?_
    intro step z x y hz source
    rw [hz] at source
    cases hb : b.step? step <;> rw [hb] at source <;> cases source <;> exact ih hz _

theorem right (a b : Json) : Blend a b b := by
  induction b using stepInduction generalizing a with
  | h b ih =>
    refine .node (.inr ⟨rfl, fun _ there _ ↦ there⟩) (fun hz ↦ by simp [isSome_sources, hz]) ?_
    intro step z x y hz source
    rw [hz] at source
    cases ha : a.step? step <;> rw [ha] at source <;> cases source <;> exact ih hz _

/-- The sides may be exchanged. -/
theorem symm (h : Blend a b m) : Blend b a m := by
  induction h with
  | @node a b m shape there _ ih =>
    refine .node shape.symm (fun {step z} hz ↦ ?_) (fun {step z x y} hz source ↦ ?_)
    · rw [isSome_sources, Bool.or_comm, ← isSome_sources]
      exact there hz
    · refine ih (x := y) (y := x) hz ?_
      cases ha : a.step? step <;> cases hb : b.step? step <;> rw [ha, hb] at source <;>
        cases source <;> rfl

/-- A blend with a value without parts either has the head of that value or is put together from the
other side alone. -/
theorem of_atom (h : Blend a b m) (atom : ∀ step, a.step? step = none) :
    m.head = a.head ∨ Blend b b m := by
  obtain ⟨shape, there, parts⟩ := h
  rcases shape with shape | shape
  · exact .inl shape.head
  · by_cases heads : b.head = a.head
    · exact .inl (shape.head.trans heads)
    · -- The heads differ, so the shape keeps every step of the other side.
      refine .inr (.node (.inl ⟨shape.head, fun step there _ ↦ shape.steps step there (.inl heads)⟩)
        (fun {step z} hz ↦ ?_) (fun {step z x y} hz source ↦ parts hz ?_))
      · simpa [atom step, isSome_sources] using there hz
      · rw [atom step]
        cases hb : b.step? step with
        | none =>
          rw [hb] at source
          cases source
        | some w =>
          rw [hb] at source
          cases source
          rfl

/-! ### Parts of a blend -/

/-- The sources of a part below a step. -/
theorem sources_at?_cons {step : String} {x y : Json}
    (h : sources (a.step? step) (b.step? step) = some (x, y)) (rest : List String) :
    sources (a.at? (step :: rest)) (b.at? (step :: rest)) = sources (x.at? rest) (y.at? rest) := by
  rw [at?, at?]
  cases ha : a.step? step <;> cases hb : b.step? step <;> rw [ha, hb] at h <;> cases h
  · simp only [Option.bind_none, Option.bind_some]
    cases at? rest x <;> rfl
  · simp only [Option.bind_none, Option.bind_some]
    cases at? rest x <;> rfl
  · rfl

/-- What stands at a place of a blend is put together from what the sides have there. -/
theorem at? (h : Blend a b m) {p : List String} {z : Json} (hz : m.at? p = some z) :
    ∃ x y, sources (a.at? p) (b.at? p) = some (x, y) ∧ Blend x y z := by
  induction p generalizing a b m with
  | nil => exact ⟨a, b, rfl, Option.some.inj hz ▸ h⟩
  | cons step rest ih =>
    rw [Json.at?, Option.bind_eq_some_iff] at hz
    obtain ⟨below, hbelow, hz⟩ := hz
    obtain ⟨-, there, parts⟩ := h
    obtain ⟨⟨x, y⟩, source⟩ := Option.isSome_iff_exists.mp (there hbelow)
    obtain ⟨x', y', source', part⟩ := ih (parts hbelow source) hz
    exact ⟨x', y', (sources_at?_cons source rest).trans source', part⟩

/-- A step that both sides have leads to a blend of what they have there. -/
theorem exists_step? (h : Blend a b m) {step : String} {x y : Json} (hx : a.step? step = some x)
    (hy : b.step? step = some y) : ∃ z, m.step? step = some z ∧ Blend x y z := by
  obtain ⟨shape, -, parts⟩ := h
  have left : (a.step? step).isSome = true := Option.isSome_of_mem hx
  have right : (b.step? step).isSome = true := Option.isSome_of_mem hy
  obtain ⟨z, hz⟩ := Option.isSome_iff_exists.mp <| shape.elim
    (fun s ↦ s.steps step left (.inr right)) fun s ↦ s.steps step right (.inr left)
  exact ⟨z, hz, parts hz (by rw [hx, hy]; rfl)⟩

/-- What is put together from one value is alike to it. -/
theorem alike (h : Blend a a m) : Alike a m := by
  intro p
  induction p generalizing a m with
  | nil =>
    obtain ⟨shape, -, -⟩ := h
    rw [headAt_nil, headAt_nil, shape.elim HasShape.head HasShape.head]
  | cons step rest ih =>
    rw [headAt_cons, headAt_cons]
    cases hx : a.step? step with
    | none =>
      obtain ⟨-, there, -⟩ := h
      cases hz : m.step? step with
      | none => rfl
      | some z => simpa [hx, sources] using there hz
    | some x =>
      obtain ⟨z, hz, part⟩ := h.exists_step? hx hx
      rw [hz, Option.bind_some, Option.bind_some]
      exact ih part

theorem exists_obj {as bs : List (String × Json)} (h : Blend (obj as) (obj bs) m) :
    ∃ ms, m = obj ms := by
  obtain ⟨shape, -, -⟩ := h
  exact exists_obj_of_head (shape.elim HasShape.head HasShape.head)

/-- Without one key a blend of two objects is a blend of the objects without it. -/
theorem erase {as bs ms : List (String × Json)} (h : Blend (obj as) (obj bs) (obj ms))
    (key : String) : Blend (obj (Entries.erase key as)) (obj (Entries.erase key bs))
      (obj (Entries.erase key ms)) := by
  have other {step : String} {es : List (String × Json)}
      (there : ((obj (Entries.erase key es)).step? step).isSome = true) : step ≠ key := by
    rintro rfl
    rw [step?, Entries.find?_erase_self] at there
    cases there
  have kept {step : String} (ne : step ≠ key) (es : List (String × Json)) :
      (obj (Entries.erase key es)).step? step = (obj es).step? step :=
    Entries.find?_erase_of_ne ne es
  have shape {side others : List (String × Json)} (s : HasShape (obj side) (obj others) (obj ms)) :
      HasShape (obj (Entries.erase key side)) (obj (Entries.erase key others))
        (obj (Entries.erase key ms)) := by
    refine ⟨rfl, fun step left right ↦ ?_⟩
    have ne := other left
    rw [kept ne] at left right ⊢
    exact s.steps step left (right.imp (absurd rfl) id)
  obtain ⟨sides, there, parts⟩ := h
  refine .node (sides.imp shape shape) (fun {step z} hz ↦ ?_) (fun {step z x y} hz source ↦ ?_)
  · have ne := other (Option.isSome_of_mem hz)
    rw [kept ne] at hz
    rw [kept ne, kept ne]
    exact there hz
  · have ne := other (Option.isSome_of_mem hz)
    rw [kept ne] at hz
    rw [kept ne, kept ne] at source
    exact parts hz source

/-! ### Changes of a blend -/

theorem setStep? (h : Blend a b m) {step : String} {new : Json}
    (hnew : ∀ x y, sources (a.step? step) (b.step? step) = some (x, y) → Blend x y new)
    (hm' : m.setStep? step new = some m') : Blend a b m' := by
  obtain ⟨shape, there, parts⟩ := h
  obtain ⟨old, hold⟩ : ∃ old, m.step? step = some old := by
    rw [← Option.isSome_iff_exists, ← isSome_setStep? m new step, hm']
    rfl
  refine .node (shape.imp (·.setStep? hm') (·.setStep? hm')) (fun {step' z} hz ↦ ?_) ?_
  · by_cases eq : step' = step
    · exact eq ▸ there hold
    · exact there ((step?_setStep?_of_ne hm' eq).symm.trans hz)
  · intro step' z x y hz source
    by_cases eq : step' = step
    · subst eq
      rw [step?_setStep?_self hm'] at hz
      exact Option.some.inj hz ▸ hnew x y source
    · exact parts ((step?_setStep?_of_ne hm' eq).symm.trans hz) source

/-- A change at a place keeps a blend if it keeps the blend of what the sides have there. -/
theorem updateAt? {f : Json → Option Json} {p : List String} (h : Blend a b m)
    (hf : ∀ {x y z z'}, sources (a.at? p) (b.at? p) = some (x, y) → Blend x y z → f z = some z' →
      Blend x y z')
    (hm' : m.updateAt? f p = some m') : Blend a b m' := by
  induction p generalizing a b m m' with
  | nil => exact hf rfl h hm'
  | cons step rest ih =>
    obtain ⟨below, changed, hbelow, hchanged, hset⟩ := updateAt?_cons_eq_some_iff.mp hm'
    refine h.setStep? (fun x y source ↦ ?_) hset
    obtain ⟨-, -, parts⟩ := h
    exact ih (parts hbelow source) (fun {_ _ _ _} source' ↦
      hf ((sources_at?_cons source rest).trans source')) hchanged

end Blend

end Sitewright.Json
