import Sitewright.Proofs.Markup.Clean
import Sitewright.Render.Draft
import Sitewright.Render.Section

/-!
# Subjects

An image tag in a generated text has one of three origins: a picture that was asked for, a logo, or
given code. These are the *subjects* of a source, in the order in which they appear. All else that a
tree is made of leaves no trace among them, and nothing of a picture but its description and the
classes of its place.

A tree that may hold neither pictures nor logos has no subjects
(`Markup.Clean.subjects_eq_nil`), so the words around a picture need not be gone through again.
-/

namespace Sitewright

/-- What an image tag comes from. -/
inductive Subject where
  /-- A picture that is asked for, with the style classes of its place. -/
  | picture (description classes : String)
  /-- A logo, by the attributes of its tag. -/
  | logo (attributes : List Attribute)
  /-- Given code. -/
  | code (s : String)
  deriving DecidableEq

namespace Markup

mutual

/-- The subjects of a tree. -/
def subjects : Markup ImageRequest → List Subject
  | text _ | fixed _ => []
  | image request => [.picture request.description request.classes]
  | void tag attributes => if tag = "img" then [.logo attributes] else []
  | element _ _ _ children => subjectsOfAll children

/-- The subjects of several trees. -/
def subjectsOfAll : List (Markup ImageRequest) → List Subject
  | [] => []
  | m :: rest => subjects m ++ subjectsOfAll rest

end

variable {m : Markup ImageRequest} {ms rest : List (Markup ImageRequest)} {tag classes s : String}
  {attributes : List Attribute} {flow : Flow} {α : Type}

@[simp] theorem subjects_text : (text s : Markup ImageRequest).subjects = [] := by rw [subjects]

@[simp] theorem subjects_fixed : (fixed s : Markup ImageRequest).subjects = [] := by rw [subjects]

@[simp] theorem subjects_void : (void tag attributes : Markup ImageRequest).subjects =
    if tag = "img" then [.logo attributes] else [] := by
  rw [subjects]

@[simp] theorem subjects_element :
    (element tag attributes flow ms).subjects = subjectsOfAll ms := by
  rw [subjects]

@[simp] theorem subjects_inline : (inline tag classes ms).subjects = subjectsOfAll ms :=
  subjects_element

@[simp] theorem subjects_stack : (stack tag classes ms).subjects = subjectsOfAll ms :=
  subjects_element

@[simp] theorem subjects_bare : (bare tag ms).subjects = subjectsOfAll ms := subjects_element

@[simp] theorem subjectsOfAll_nil : subjectsOfAll [] = [] := by rw [subjectsOfAll]

@[simp] theorem subjectsOfAll_cons :
    subjectsOfAll (m :: ms) = m.subjects ++ subjectsOfAll ms := by
  rw [subjectsOfAll]

theorem subjectsOfAll_eq_flatMap (ms : List (Markup ImageRequest)) :
    subjectsOfAll ms = ms.flatMap subjects := by
  induction ms with
  | nil => simp
  | cons m ms ih => simp [ih]

@[simp] theorem subjectsOfAll_append :
    subjectsOfAll (ms ++ rest) = subjectsOfAll ms ++ subjectsOfAll rest := by
  simp [subjectsOfAll_eq_flatMap]

@[simp] theorem subjectsOfAll_map (f : α → Markup ImageRequest) (as : List α) :
    subjectsOfAll (as.map f) = as.flatMap fun a ↦ (f a).subjects := by
  rw [subjectsOfAll_eq_flatMap, List.flatMap_map]

theorem subjectsOfAll_mapIdx {f : Nat → α → Markup ImageRequest} {g : Nat → α → Subject}
    (h : ∀ i a, (f i a).subjects = [g i a]) (as : List α) :
    subjectsOfAll (as.mapIdx f) = as.mapIdx g := by
  induction as generalizing f g with
  | nil => simp
  | cons a as ih =>
    rw [List.mapIdx_cons, List.mapIdx_cons, subjectsOfAll_cons, h, ih fun i a ↦ h (i + 1) a,
      List.singleton_append]

@[simp] theorem subjects_label : (label tag classes s : Markup ImageRequest).subjects = [] := by
  simp [label]

/-- What is written only if there is something to write has no subjects if it never has. -/
theorem subjectsOfAll_option {f : α → Markup ImageRequest} (h : ∀ a, (f a).subjects = [])
    (a : Option α) : subjectsOfAll (a.map f).toList = [] := by
  cases a <;> simp [h]

/-- No element without children is an image tag, unless it is a logo. -/
theorem ne_image_of_isTagName (h : isTagName tag.toList = true) : tag ≠ "img" := by
  rintro rfl
  revert h
  decide

/-- **What may hold neither pictures nor logos has no subjects.** -/
theorem Clean.subjects_eq_nil (h : Clean (fun _ ↦ False) False m) : m.subjects = [] := by
  induction h with
  | text => exact subjects_text
  | fixed => exact subjects_fixed
  | image allowed => exact allowed.elim
  | logo allowed => exact allowed.elim
  | void name =>
    rw [subjects_void, if_neg (ne_image_of_isTagName name)]
  | element _ _ _ _ ih =>
    rw [subjects_element, subjectsOfAll_eq_flatMap]
    exact List.flatMap_eq_nil_iff.mpr ih

theorem subjectsOfAll_eq_nil (h : CleanAll (fun _ ↦ False) False ms) : subjectsOfAll ms = [] := by
  rw [subjectsOfAll_eq_flatMap]
  exact List.flatMap_eq_nil_iff.mpr fun m mem ↦ (h m mem).subjects_eq_nil

end Markup

namespace Draft

open Markup

variable {styles : Styles} {classes : String}

@[simp] theorem subjects_picture (styles : Styles) (classes description : String) :
    (picture styles classes description).subjects = [.picture description classes] := by
  rw [picture, subjects]

@[simp] theorem subjects_button (classes : String) (link : CtaLink) :
    (button classes link).subjects = [] := by
  simp [button]

@[simp] theorem subjects_paragraph (classes : String) (s : Option String) :
    subjectsOfAll (paragraph classes s) = [] :=
  subjectsOfAll_option (fun _ ↦ subjects_label) _

@[simp] theorem subjects_heading (styles : Styles) (title : String) (subtitle : Option String) :
    (heading styles title subtitle).subjects = [] := by
  simp [heading]

@[simp] theorem subjects_heading? (styles : Styles) (title : Option String) :
    subjectsOfAll (heading? styles title) = [] :=
  subjectsOfAll_option (fun t ↦ subjects_heading styles t none) _

/-- The picture of an optional description, unless that is blank. -/
def described (classes : String) (description : Option String) : List Subject :=
  ((Text.unlessBlank description).map (Subject.picture · classes)).toList

@[simp] theorem subjects_picture? (styles : Styles) (classes : String)
    (description : Option String) :
    subjectsOfAll (picture? styles classes description) = described classes description := by
  rw [picture?, described]
  cases Text.unlessBlank description <;> simp

end Draft

/-- The frame of a section has no subjects of its own. -/
theorem SectionDraft.subjects_root (name anchor : String) (draft : SectionDraft) :
    (draft.component name anchor).root.subjects = Markup.subjectsOfAll draft.children := by
  simp [SectionDraft.component]

/-- The subjects of a source. -/
def SectionSource.subjects : SectionSource ImageRequest → List Subject
  | drawn c => c.root.subjects
  | given code => [.code code]

end Sitewright
