import Sitewright.Proofs.Diff.Agreement

/-!
# Edits within targets compose

Two edits that stay within targets may have differences that look nothing alike: a key that the
first one adds the second takes away, a list that has become shorter gets its length back, and the
difference of both together is reported at other paths, some of them deeper than any before. What
composes is not the lists of changes but what they say about places. To stay within targets is to
agree at every place that no target covers (`Diff.isWithin_between_iff`), and agreement is an
equivalence. So however many edits there are, the last value differs from the first only within the
targets (`Diff.staysWithin_composes`).
-/

namespace Sitewright

/-- A value as it is exchanged: the objects in it are in the order of their keys, each key once. -/
abbrev SortedJson : Type := { v : Json // v.IsSorted }

namespace Diff

/-- Two values differ only within targets. -/
def StaysWithin (targets : List FieldPath) (old new : SortedJson) : Prop :=
  (between old.val new.val).isWithin targets = true

instance (targets : List FieldPath) (old new : SortedJson) :
    Decidable (StaysWithin targets old new) :=
  inferInstanceAs (Decidable (_ = true))

variable {targets : List FieldPath} {first : SortedJson}

theorem staysWithin_iff {old new : SortedJson} :
    StaysWithin targets old new ↔ Json.AgreeOutside targets old.val new.val :=
  isWithin_between_iff old.property

/-- To differ only within targets is an equivalence. -/
theorem equivalence_staysWithin (targets : List FieldPath) : Equivalence (StaysWithin targets) where
  refl v := staysWithin_iff.mpr (.refl targets v.val)
  symm h := staysWithin_iff.mpr (staysWithin_iff.mp h).symm
  trans h k := staysWithin_iff.mpr ((staysWithin_iff.mp h).trans (staysWithin_iff.mp k))

/-- One edit after the other, each within the targets, leads to a value that differs from the first
only within them. -/
theorem staysWithin_getLast {edited : List SortedJson}
    (h : (first :: edited).IsChain (StaysWithin targets)) :
    StaysWithin targets first ((first :: edited).getLast (List.cons_ne_nil first edited)) := by
  induction edited generalizing first with
  | nil => exact (equivalence_staysWithin targets).refl first
  | cons next edited ih =>
    obtain ⟨step, rest⟩ := List.isChain_cons_cons.mp h
    rw [List.getLast_cons (List.cons_ne_nil next edited)]
    exact (equivalence_staysWithin targets).trans step (ih rest)

/-- **Edits within targets compose.** To differ only within targets is reflexive, symmetric and
transitive; so after any number of edits that stay within the targets, the last value differs from
the first only within them. -/
theorem staysWithin_composes (targets : List FieldPath) :
    (∀ v : SortedJson, StaysWithin targets v v) ∧
      (∀ v w : SortedJson, StaysWithin targets v w → StaysWithin targets w v) ∧
      (∀ u v w : SortedJson,
        StaysWithin targets u v → StaysWithin targets v w → StaysWithin targets u w) ∧
      ∀ (first : SortedJson) (edited : List SortedJson),
        (first :: edited).IsChain (StaysWithin targets) →
          StaysWithin targets first
            ((first :: edited).getLast (List.cons_ne_nil first edited)) := by
  have equivalence := equivalence_staysWithin targets
  refine ⟨equivalence.refl, fun v w ↦ equivalence.symm, fun u v w ↦ equivalence.trans, ?_⟩
  intro first edited chain
  exact staysWithin_getLast chain

/-- A menu with two dishes. -/
def twoDishes : SortedJson :=
  ⟨_, Json.isSorted_sorted (.obj [("name", .str "Harbor"),
    ("menu", .obj [("dishes", .arr [.str "Soup", .str "Fish"])])])⟩

/-- The menu with a note, and without its second dish. -/
def oneDish : SortedJson :=
  ⟨_, Json.isSorted_sorted (.obj [("name", .str "Harbor"),
    ("menu", .obj [("dishes", .arr [.str "Soup"]), ("note", .null)])])⟩

/-- The menu without the note, and with another second dish. -/
def otherDishes : SortedJson :=
  ⟨_, Json.isSorted_sorted (.obj [("name", .str "Harbor"),
    ("menu", .obj [("dishes", .arr [.str "Soup", .str "Crab"])])])⟩

/-- Neither of the two changes of the first edit, and neither of those of the second, is a change
from the first value to the last. -/
theorem staysWithin_composes_dishes :
    [twoDishes, oneDish, otherDishes].IsChain
        (StaysWithin [.field "menu.dishes", .field "menu.note"]) ∧
      StaysWithin [.field "menu.dishes", .field "menu.note"] twoDishes otherDishes ∧
      (between twoDishes.val oneDish.val).paths = [.field "menu.dishes", .field "menu.note"] ∧
      (between twoDishes.val otherDishes.val).paths = [.field "menu.dishes.1"] := by
  have chain : [twoDishes, oneDish, otherDishes].IsChain
      (StaysWithin [.field "menu.dishes", .field "menu.note"]) := by
    decide +kernel
  have composed := (staysWithin_composes [.field "menu.dishes", .field "menu.note"]).2.2.2
    twoDishes [oneDish, otherDishes] chain
  exact ⟨chain, composed, by decide +kernel, by decide +kernel⟩

end Diff

end Sitewright
