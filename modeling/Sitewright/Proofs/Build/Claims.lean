import Mathlib.Data.List.Nodup
import Sitewright.Build.Plan

/-!
# Claims to files

Placed sections claim their files one after the other, page by page, and what becomes of a claim
depends on all claims before it. It depends on them in one way only: the first section placed under
a path writes its file (`Placement.writer?`), and every later one either finds its own content there
or is in conflict with it (`Settled.Follows`).

So there are three things to say. Every settled section follows the writer of its path
(`Settled.exists_follows`). The writer of a path is settled as one (`Settled.mem_of_writer?`), and
nobody else writes the file (`Settled.pairwise_path_ne`). And if no page places two sections under
one path, the notices about a section are those of its own claim (`Settled.filter_concerns`).
-/

namespace Sitewright

/-- Whether a notice is about a section under a path on a page. -/
def Notice.concerns (path route : String) : Notice → Bool
  | .namingCollision p _ later => p == path && later == route
  | .unsupportedSection .. | .pageSkipped .. => false

namespace Placement

/-- The first of the placed sections that has a path. -/
def writer? (placements : List Placement) (path : String) : Option Placement :=
  placements.find? fun p ↦ p.slot.path == path

/-- A placed section as the owner of its file. -/
def owner (p : Placement) : Owner := ⟨p.slot.path, p.route, p.content⟩

/-- Where a section stands: the path of its file, and its page. -/
def stand (p : Placement) : String × String := (p.slot.path, p.route)

theorem path_of_writer? {placements : List Placement} {path : String} {writer : Placement}
    (h : writer? placements path = some writer) : writer.slot.path = path := by
  simpa using List.find?_some h

theorem exists_writer? {placements : List Placement} {p : Placement} (h : p ∈ placements) :
    ∃ writer, writer? placements p.slot.path = some writer :=
  Option.isSome_iff_exists.mp (List.find?_isSome.mpr ⟨p, h, beq_self_eq_true _⟩)

end Placement

open Placement

theorem Owner.find?_register (owners : List Owner) (path wanted route : String)
    (content : Section) : find? path (register owners wanted route content) =
      (find? path owners).or (if wanted = path then some ⟨wanted, route, content⟩ else none) := by
  rw [register]
  split
  · by_cases eq : wanted = path <;> simp [find?, List.find?_append, eq]
  · rename_i owner h
    by_cases eq : wanted = path
    · rw [← eq, h, Option.some_or]
    · simp [eq]

namespace Settled

/-! ### One list of claims -/

theorem ofPlacements_append (owners : List Owner) (first second : List Placement) :
    ofPlacements owners (first ++ second) =
      ((ofPlacements owners first).1 ++
        (ofPlacements (ofPlacements owners first).2 second).1,
      (ofPlacements (ofPlacements owners first).2 second).2) := by
  induction first generalizing owners with
  | nil => rfl
  | cons p rest ih => simp [ofPlacements, ih]

/-- The pages claim their files like one long page. -/
theorem flatten_ofPages (owners : List Owner) (pages : List (List Placement)) :
    (ofPages owners pages).flatten = (ofPlacements owners pages.flatten).1 := by
  induction pages generalizing owners with
  | nil => rfl
  | cons page rest ih => simp [ofPages, ofPlacements_append, ih]

/-- The owner of a path is the one it had before, or else the first section placed under it. -/
theorem find?_ofPlacements (owners : List Owner) (placements : List Placement) (path : String) :
    Owner.find? path (ofPlacements owners placements).2 =
      (Owner.find? path owners).or ((writer? placements path).map owner) := by
  induction placements generalizing owners with
  | nil => simp [ofPlacements, writer?]
  | cons p rest ih =>
    rw [ofPlacements, ih, Owner.find?_register, Option.or_assoc]
    by_cases eq : p.slot.path = path <;> simp [writer?, eq, owner]

/-! ### Following the writer -/

/-- What becomes of a section whose path has a writer. -/
inductive Follows (writer : Placement) : Settled → Prop where
  /-- The writer itself writes the file. -/
  | writes : Follows writer ⟨writer, .new⟩
  /-- A section with the same content uses the file. -/
  | reuses {p : Placement} (same : writer.content = p.content) : Follows writer ⟨p, .reused⟩
  /-- A section with other content is in conflict with the page of the writer. -/
  | conflicts {p : Placement} (ne : writer.content ≠ p.content) :
    Follows writer ⟨p, .conflict writer.route⟩

/-- There is a notice exactly if the contents differ, and it names the two pages. -/
theorem Follows.notice?_eq {writer : Placement} {use : Settled} (h : Follows writer use) :
    use.notice? = if writer.content = use.placement.content then none else
      some (.namingCollision use.placement.slot.path writer.route use.placement.route) := by
  cases h with
  | writes => simp [notice?]
  | reuses same => simp [notice?, same]
  | conflicts ne => simp [notice?, ne]

/-- Only the writer writes. -/
theorem Follows.eq_of_new {writer : Placement} {use : Settled} (h : Follows writer use)
    (new : use.claim = .new) : use.placement = writer := by
  cases h with
  | writes => rfl
  | reuses | conflicts => cases new

theorem filter_notice? (use : Settled) (path route : String) :
    use.notice?.filter (·.concerns path route) =
      if use.placement.stand = (path, route) then use.notice? else none := by
  rw [notice?]
  split <;> simp [Option.filter, Notice.concerns, stand]

variable {placements : List Placement} {use : Settled}

/-- A section is settled as the writers before it have it. -/
theorem settled_append_cons (before after : List Placement) (p : Placement) :
    (ofPlacements [] (before ++ p :: after)).1 = (ofPlacements [] before).1 ++
      ⟨p, Owner.claim (ofPlacements [] before).2 p.slot.path p.content⟩ ::
        (ofPlacements (Owner.register (ofPlacements [] before).2 p.slot.path p.route p.content)
          after).1 := by
  rw [ofPlacements_append, ofPlacements]

theorem exists_split_of_mem {owners : List Owner} (h : use ∈ (ofPlacements owners placements).1) :
    ∃ before after, placements = before ++ use.placement :: after ∧
      use.claim = Owner.claim (ofPlacements owners before).2 use.placement.slot.path
        use.placement.content := by
  induction placements generalizing owners with
  | nil => cases h
  | cons p rest ih =>
    rw [ofPlacements, List.mem_cons] at h
    rcases h with rfl | later
    · exact ⟨[], rest, rfl, rfl⟩
    · obtain ⟨before, after, rfl, claim⟩ := ih later
      exact ⟨p :: before, after, rfl, claim⟩

/-- **Every settled section follows the writer of its path.** -/
theorem exists_follows (h : use ∈ (ofPlacements [] placements).1) :
    ∃ writer, writer? placements use.placement.slot.path = some writer ∧ Follows writer use := by
  obtain ⟨before, after, rfl, hclaim⟩ := exists_split_of_mem h
  obtain ⟨p, claim⟩ := use
  -- The owner of the path is the first before `p` to have it, if there is one, and else `p` itself.
  rw [Owner.claim, find?_ofPlacements] at hclaim
  rw [writer?, List.find?_append, ← writer?]
  cases early : writer? before p.slot.path with
  | none =>
    obtain rfl : claim = .new := by simpa [early, Owner.find?] using hclaim
    exact ⟨p, by simp, .writes⟩
  | some writer =>
    refine ⟨writer, rfl, ?_⟩
    by_cases same : writer.content = p.content
    · obtain rfl : claim = .reused := by simpa [early, Owner.find?, owner, same] using hclaim
      exact .reuses same
    · obtain rfl : claim = .conflict writer.route := by
        simpa [early, Owner.find?, owner, same] using hclaim
      exact .conflicts same

/-- The writer of a path is settled as one. -/
theorem mem_of_writer? {path : String} {writer : Placement}
    (h : writer? placements path = some writer) :
    ⟨writer, .new⟩ ∈ (ofPlacements [] placements).1 := by
  obtain rfl := path_of_writer? h
  obtain ⟨-, before, after, rfl, first⟩ := List.find?_eq_some_iff_append.mp h
  have none : writer? before writer.slot.path = none :=
    List.find?_eq_none.mpr fun p mem ↦ by simpa using first p mem
  have claim : Owner.claim (ofPlacements [] before).2 writer.slot.path writer.content = .new := by
    rw [Owner.claim_eq_new_iff, find?_ofPlacements, none]
    rfl
  rw [settled_append_cons, claim]
  exact List.mem_append_right _ List.mem_cons_self

/-! ### Sections that stand apart -/

/-- Among settled sections that stand apart only one stands where it stands. -/
theorem filterMap_stand {β : Type} (f : Settled → Option β) {settled : List Settled}
    (h : use ∈ settled)
    (apart : settled.Pairwise fun a b ↦ a.placement.stand ≠ b.placement.stand) :
    settled.filterMap (fun a ↦ if a.placement.stand = use.placement.stand then f a else none) =
      (f use).toList := by
  have none_of_ne {others : List Settled}
      (ne : ∀ a ∈ others, a.placement.stand ≠ use.placement.stand) :
      others.filterMap (fun a ↦ if a.placement.stand = use.placement.stand then f a else none) =
        [] :=
    List.filterMap_eq_nil_iff.mpr fun a mem ↦ if_neg (ne a mem)
  obtain ⟨before, after, rfl⟩ := List.append_of_mem h
  rw [List.pairwise_append, List.pairwise_cons] at apart
  obtain ⟨-, ⟨later, -⟩, earlier⟩ := apart
  rw [List.filterMap_append, List.filterMap_cons, if_pos rfl,
    none_of_ne fun a mem ↦ earlier a mem use List.mem_cons_self,
    none_of_ne fun a mem ↦ (later a mem).symm]
  cases f use <;> rfl

variable (apart : (placements.map stand).Nodup)

include apart

theorem pairwise_stand_ne :
    (ofPlacements [] placements).1.Pairwise fun a b ↦ a.placement.stand ≠ b.placement.stand := by
  rw [← map_placement_ofPlacements [] placements, List.map_map] at apart
  exact List.pairwise_map.mp apart

/-- Every file has one writer. -/
theorem pairwise_path_ne : (ofPlacements [] placements).1.Pairwise fun a b ↦
    a.claim = .new → b.claim = .new → a.placement.slot.path ≠ b.placement.slot.path := by
  refine (pairwise_stand_ne apart).imp_of_mem fun {a b} ha hb ne hnew hnew' eq ↦ ne ?_
  obtain ⟨writer, first, follows⟩ := exists_follows ha
  obtain ⟨writer', first', follows'⟩ := exists_follows hb
  rw [eq, first'] at first
  obtain rfl := Option.some.inj first
  rw [follows.eq_of_new hnew, follows'.eq_of_new hnew']

/-- **The notices about a section are those of its own claim.** -/
theorem filter_concerns (h : use ∈ (ofPlacements [] placements).1) :
    ((ofPlacements [] placements).1.filterMap notice?).filter
        (·.concerns use.placement.slot.path use.placement.route) = use.notice?.toList := by
  rw [List.filter_filterMap, ← filterMap_stand notice? h (pairwise_stand_ne apart)]
  exact congrArg (List.filterMap · _) (funext fun a ↦ filter_notice? a ..)

end Settled

end Sitewright
