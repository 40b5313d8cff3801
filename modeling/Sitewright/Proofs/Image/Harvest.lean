import Sitewright.Proofs.Build.Files
import Sitewright.Proofs.Image.Copy
import Sitewright.Proofs.Markup.Subjects

/-!
# What the ledger sees

A ledger reads descriptions off finished texts. What it sees there is nothing but the subjects of
their sources: the image tags of a text are those of its subjects, with the pictures numbered on
(`SectionSource.allIn_text_eq`), and there are as many requests as pictures among them. So drawing a
source moves the ledger by its subjects alone (`ImageLedger.draw_snd`), and drawing one after the
other moves it by theirs, one after the other (`ImageLedger.drawAll_snd`). Two sites whose sources
have the same subjects end with the same ledger, however different their texts are.
-/

namespace Sitewright

open Markup

/-! ### Tags and requests -/

namespace Subject

/-- The number of pictures among subjects. -/
def requests : List Subject → Nat
  | [] => 0
  | picture _ _ :: rest => requests rest + 1
  | logo _ :: rest | code _ :: rest => requests rest

/-- The image tags of subjects that come after `before` requests, of which at most `cap` become
pictures. -/
def tags (cap before : Nat) : List Subject → List (List Char)
  | [] => []
  | picture description classes :: rest =>
    (if before < cap then
      [(printImage ⟨⟨description, classes, ""⟩, some (before + 1)⟩).toList] else []) ++
      tags cap (before + 1) rest
  | logo attributes :: rest => (voidTag "img" attributes).toList :: tags cap before rest
  | code s :: rest =>
    ImageTag.allIn (SectionSource.given s : SectionSource PlacedImage).text.toList ++
      tags cap before rest

variable {a b : List Subject}

theorem requests_append : requests (a ++ b) = requests a + requests b := by
  induction a with
  | nil => rw [requests, List.nil_append, Nat.zero_add]
  | cons subject a ih =>
    cases subject with
    | picture => rw [List.cons_append, requests, requests, ih, Nat.add_right_comm]
    | logo => rw [List.cons_append, requests, requests, ih]
    | code => rw [List.cons_append, requests, requests, ih]

theorem tags_append (cap before : Nat) :
    tags cap before (a ++ b) = tags cap before a ++ tags cap (before + requests a) b := by
  induction a generalizing before with
  | nil => rfl
  | cons subject a ih =>
    cases subject with
    | picture =>
      rw [List.cons_append, tags, tags, requests, ih, List.append_assoc,
        Nat.add_assoc, Nat.add_comm 1]
    | logo => rw [List.cons_append, tags, tags, requests, ih, List.cons_append]
    | code => rw [List.cons_append, tags, tags, requests, ih, List.append_assoc]

end Subject

/-! ### Trees -/

namespace Markup

variable {logos : Prop} {cap : Nat} {attributes : List Attribute}

/-- A logo is an image tag. -/
theorem allIn_logo (clean : Attribute.CleanAll attributes) :
    ImageTag.allIn (voidTag "img" attributes).toList = [(voidTag "img" attributes).toList] := by
  refine ImageTag.allIn_eq_self (isTag_voidTag (.lit rfl) clean) ?_
  -- What follows the name is a space, whether there are attributes or not.
  rw [voidTag_toList, printAttributes_toList]
  cases attributes with
  | nil => exact ⟨['/', '>'], rfl⟩
  | cons a others =>
    rw [List.flatMap_cons, a.print_toList]
    exact ⟨_, rfl⟩

/-- A request leaves the tag of its picture, if it comes in time. -/
theorem allIn_placeRequest {request : ImageRequest} (h : request.Plain) (before : Nat) :
    ImageTag.allIn (printImage (placeRequest cap before request)).toList =
      Subject.tags cap before [.picture request.description request.classes] := by
  rw [placeRequest, Subject.tags, Subject.tags, List.append_nil]
  split
  · exact allIn_printImage_some h (before + 1)
  · exact allIn_printImage_none h

mutual

/-- There are as many pictures in a tree as among its subjects. -/
theorem requests_subjects (m : Markup ImageRequest) :
    Subject.requests m.subjects = m.images.length := by
  cases m with
  | element tag attributes flow children =>
    rw [subjects_element, images, requests_subjectsOfAll children]
  | void tag attributes =>
    rw [subjects_void]
    split <;> rfl
  | text s => rw [subjects_text]; rfl
  | fixed s => rw [subjects_fixed]; rfl
  | image request => rw [subjects]; rfl

theorem requests_subjectsOfAll (ms : List (Markup ImageRequest)) :
    Subject.requests (subjectsOfAll ms) = (imagesOfAll ms).length := by
  cases ms with
  | nil => rw [subjectsOfAll_nil]; rfl
  | cons m rest =>
    rw [subjectsOfAll_cons, Subject.requests_append, requests_subjects m,
      requests_subjectsOfAll rest, imagesOfAll, List.length_append]

end

/-- **The image tags of a tree are those of its subjects.** -/
theorem Clean.found_place {m : Markup ImageRequest} (h : Clean ImageRequest.Plain logos m)
    (before : Nat) : (m.place cap before).1.found ImageTag.allIn printImage =
      Subject.tags cap before m.subjects := by
  -- The pictures of children are numbered on from one child to the next.
  have all {ms : List (Markup ImageRequest)} (each : ∀ m ∈ ms, ∀ before,
      (m.place cap before).1.found ImageTag.allIn printImage =
        Subject.tags cap before m.subjects) (before : Nat) :
      foundInAll ImageTag.allIn printImage (placeAll cap before ms).1 =
        Subject.tags cap before (subjectsOfAll ms) := by
    induction ms generalizing before with
    | nil =>
      rw [subjectsOfAll_nil]
      rfl
    | cons m rest ih =>
      obtain ⟨first, others⟩ := List.forall_mem_cons.mp each
      rw [placeAll, foundInAll, first, ih others, place_snd, subjectsOfAll_cons,
        Subject.tags_append, requests_subjects]
  induction h generalizing before with
  | text =>
    rw [subjects_text]
    exact ImageTag.allIn_eq_nil_of_notMem (bracket_notMem_escapeText _)
  | fixed plain =>
    rw [subjects_fixed]
    refine ImageTag.allIn_eq_nil_of_notMem fun mem ↦ ?_
    cases plain _ mem
  | image plain =>
    rw [subjects]
    exact allIn_placeRequest plain before
  | logo _ clean =>
    rw [subjects_void, if_pos rfl]
    exact allIn_logo clean
  | void name clean =>
    rw [subjects_void, if_neg (ne_image_of_isTagName name)]
    exact allIn_voidTag name clean
  | element name clean _ _ ih =>
    rw [Markup.place, found, allIn_openTag name clean, allIn_closeTag name, List.nil_append,
      List.append_nil, all ih, subjects_element]

end Markup

/-! ### Sources -/

namespace SectionSource

variable {source : SectionSource ImageRequest}

/-- **The image tags of a source are those of its subjects.** -/
theorem allIn_text_eq (h : source.IsClean) (cap before : Nat) :
    ImageTag.allIn (source.place cap before).1.text.toList =
      Subject.tags cap before source.subjects := by
  rcases h with ⟨code, rfl⟩ | ⟨c, rfl, name, clean⟩
  · rw [subjects, Subject.tags, Subject.tags, List.append_nil]
    rfl
  · have placed : Clean (fun picture : PlacedImage ↦ picture.request.Plain) True
        (c.place cap before).1.root := clean.place (fun _ _ plain ↦ plain) before
    have reads := reads_component (c := (c.place cap before).1) ImageTag.reader_allIn
      (fun cs bracket _ ↦ ImageTag.allIn_eq_nil_of_notMem bracket)
      (fun _ plain ↦ isTag_printImage plain) name placed
    exact reads.2.trans (clean.found_place before)

theorem place_snd_eq (cap before : Nat) (source : SectionSource ImageRequest) :
    (source.place cap before).2 = before + Subject.requests source.subjects := by
  cases source with
  | drawn c =>
    rw [subjects, requests_subjects]
    exact Markup.place_snd cap before c.root
  | given code => rfl

end SectionSource

/-! ### The ledger -/

namespace ImageLedger

/-- The ledger after subjects. -/
def see (ledger : ImageLedger) (subjects : List Subject) : ImageLedger :=
  (Subject.tags ledger.cap ledger.requests subjects).foldl note
    { ledger with requests := ledger.requests + Subject.requests subjects }

/-- **Drawing a source shows the ledger its subjects**, and nothing else. -/
theorem draw_snd (ledger : ImageLedger) {source : SectionSource ImageRequest}
    (h : source.IsClean) : (ledger.draw source).2 = ledger.see source.subjects := by
  have tags := SectionSource.allIn_text_eq h ledger.cap ledger.requests
  rw [draw, see, ← tags, ← SectionSource.place_snd_eq ledger.cap]
  rfl

/-- Drawing sources shows the ledger their subjects, one source after the other. -/
theorem drawAll_snd (ledger : ImageLedger) {sources : List (String × SectionSource ImageRequest)}
    (h : ∀ source ∈ sources, source.2.IsClean) : (ledger.drawAll sources).2 =
      (sources.map (·.2.subjects)).foldl see ledger := by
  induction sources generalizing ledger with
  | nil => rfl
  | cons source rest ih =>
    obtain ⟨first, others⟩ := List.forall_mem_cons.mp h
    have after : (ledger.drawAll (source :: rest)).2 =
        ((ledger.draw source.2).2.drawAll rest).2 := rfl
    rw [after, ih _ others, draw_snd ledger first, List.map_cons, List.foldl_cons]

end ImageLedger

end Sitewright
