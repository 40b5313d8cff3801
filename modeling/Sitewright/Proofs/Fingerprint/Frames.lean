import Mathlib.Algebra.Group.Nat.Defs
import Mathlib.Data.List.Basic
import Sitewright.Build.Project

/-!
# What is hashed can be read back

A list of named texts is hashed as one sequence of bytes: every name and every content with its
length before it. The lengths leave no choice to a reader. Eight bytes say how many belong to the
text, what is after those is the next frame, and so the frames are recovered one by one
(`Fingerprint.unframe?_eq_some_iff`) and the list with them
(`Fingerprint.readEntries?_eq_some_iff`). Wherever a byte is moved to, from a name to its content or
from one entry to the next, a length changes.

So different lists are hashed as different bytes, and what is left to the hash is to tell different
bytes apart (`Fingerprint.entries_readBack`). Eight bytes hold lengths below `2 ^ 64` only, and they
count bytes, not characters.
-/

namespace Sitewright

namespace Fingerprint

/-! ### Numbers -/

/-- The number that bytes stand for, the lowest first. -/
def ofLittleEndian : List UInt8 → Nat
  | [] => 0
  | byte :: bytes => byte.toNat + 256 * ofLittleEndian bytes

theorem ofLittleEndian_littleEndian {width n : Nat} (h : n < 256 ^ width) :
    ofLittleEndian (littleEndian width n) = n := by
  induction width generalizing n with
  | zero =>
    rw [Nat.pow_zero, Nat.lt_one_iff] at h
    rw [h]
    rfl
  | succ width ih =>
    have rest : n / 256 < 256 ^ width := by
      rw [Nat.pow_succ] at h
      exact Nat.div_lt_of_lt_mul (by omega)
    have low : (UInt8.ofNat (n % 256)).toNat = n % 256 := by
      rw [UInt8.toNat_ofNat']
      omega
    rw [littleEndian, ofLittleEndian, low, ih rest]
    omega

theorem littleEndian_ofLittleEndian (bytes : List UInt8) :
    littleEndian bytes.length (ofLittleEndian bytes) = bytes := by
  induction bytes with
  | nil => rfl
  | cons byte bytes ih =>
    have small : byte.toNat < 256 := byte.toNat_lt
    have low : (byte.toNat + 256 * ofLittleEndian bytes) % 256 = byte.toNat := by omega
    have rest : (byte.toNat + 256 * ofLittleEndian bytes) / 256 = ofLittleEndian bytes := by omega
    rw [List.length_cons, ofLittleEndian, littleEndian, low, rest, ih, UInt8.ofNat_toNat]

theorem ofLittleEndian_lt (bytes : List UInt8) : ofLittleEndian bytes < 256 ^ bytes.length := by
  induction bytes with
  | nil => exact Nat.one_pos
  | cons byte bytes ih =>
    have small : byte.toNat < 256 := byte.toNat_lt
    rw [ofLittleEndian, List.length_cons, Nat.pow_succ]
    omega

/-! ### Texts -/

/-- The text that bytes stand for, if they stand for one. -/
def textOf? (bytes : List UInt8) : Option String := String.fromUTF8? ⟨bytes.toArray⟩

theorem length_textBytes (s : String) : (textBytes s).length = s.utf8ByteSize := rfl

theorem textOf?_eq_some_iff {bytes : List UInt8} {s : String} :
    textOf? bytes = some s ↔ bytes = textBytes s := by
  rw [textOf?, String.fromUTF8?]
  constructor
  · intro h
    split at h
    · obtain rfl := Option.some.inj h
      rfl
    · cases h
  · rintro rfl
    exact dif_pos s.isValidUTF8

/-! ### Frames -/

/-- Reads a text with its length before it, and what comes after. -/
def unframe? (bytes : List UInt8) : Option (String × List UInt8) :=
  let length := ofLittleEndian (bytes.take 8)
  if bytes.length < 8 + length then none
  else (textOf? ((bytes.drop 8).take length)).map fun s ↦ (s, bytes.drop (8 + length))

variable {bytes rest : List UInt8} {s : String}

theorem length_framed (s : String) : (framed s).length = 8 + s.utf8ByteSize := by
  rw [framed, List.length_append, length_littleEndian, length_textBytes]

/-- A framed text is read back, whatever comes after it. -/
theorem unframe?_framed (h : s.utf8ByteSize < 2 ^ 64) (rest : List UInt8) :
    unframe? (framed s ++ rest) = some (s, rest) := by
  have whole : framed s ++ rest =
      littleEndian 8 s.utf8ByteSize ++ (textBytes s ++ rest) := by
    rw [framed, length_textBytes, List.append_assoc]
  have front : (framed s ++ rest).take 8 = littleEndian 8 s.utf8ByteSize := by
    rw [whole, List.take_left' (length_littleEndian ..)]
  have back : (framed s ++ rest).drop 8 = textBytes s ++ rest := by
    rw [whole, List.drop_left' (length_littleEndian ..)]
  have length : ofLittleEndian ((framed s ++ rest).take 8) = s.utf8ByteSize := by
    rw [front, ofLittleEndian_littleEndian (by omega)]
  rw [unframe?, length, if_neg (by rw [List.length_append, length_framed]; omega), back,
    List.take_left' (length_textBytes s), textOf?_eq_some_iff.mpr rfl, Option.map_some,
    List.drop_left' (length_framed s)]

/-- What is read is a framed text and what comes after it. -/
theorem eq_framed_of_unframe? (h : unframe? bytes = some (s, rest)) :
    s.utf8ByteSize < 2 ^ 64 ∧ bytes = framed s ++ rest := by
  rw [unframe?, Option.ite_none_left_eq_some, Option.map_eq_some_iff] at h
  obtain ⟨long, found, text, eq⟩ := h
  obtain ⟨rfl, rfl⟩ := Prod.mk.inj eq
  rw [textOf?_eq_some_iff] at text
  have front : (bytes.take 8).length = 8 := by
    rw [List.length_take]
    omega
  have size : found.utf8ByteSize = ofLittleEndian (bytes.take 8) := by
    rw [← length_textBytes, ← text, List.length_take, List.length_drop]
    omega
  have bound := ofLittleEndian_lt (bytes.take 8)
  rw [front] at bound
  have head : littleEndian 8 found.utf8ByteSize = bytes.take 8 := by
    have same := littleEndian_ofLittleEndian (bytes.take 8)
    rwa [front, ← size] at same
  refine ⟨by rw [size]; exact bound, ?_⟩
  rw [framed, length_textBytes, head, ← text, ← List.drop_drop, List.append_assoc,
    List.take_append_drop, List.take_append_drop]

/-- **Frames are recovered.** What is read off the front of bytes is exactly what was framed
there. -/
theorem unframe?_eq_some_iff :
    unframe? bytes = some (s, rest) ↔ s.utf8ByteSize < 2 ^ 64 ∧ bytes = framed s ++ rest := by
  refine ⟨eq_framed_of_unframe?, ?_⟩
  rintro ⟨bound, rfl⟩
  exact unframe?_framed bound rest

/-! ### Entries -/

/-- Reads a named text, and what comes after. -/
def readFramed? (bytes : List UInt8) : Option ((String × String) × List UInt8) :=
  (unframe? bytes).bind fun (name, more) ↦
    (unframe? more).map fun (content, rest) ↦ ((name, content), rest)

/-- Whether the lengths of a named text fit in eight bytes each. -/
def IsMeasured (entry : String × String) : Prop :=
  entry.1.utf8ByteSize < 2 ^ 64 ∧ entry.2.utf8ByteSize < 2 ^ 64

instance (entry : String × String) : Decidable (IsMeasured entry) :=
  inferInstanceAs (Decidable (_ ∧ _))

variable {entry : String × String} {entries : List (String × String)}

theorem readFramed?_eq_some_iff : readFramed? bytes = some (entry, rest) ↔
    IsMeasured entry ∧ bytes = framed entry.1 ++ (framed entry.2 ++ rest) := by
  obtain ⟨name, content⟩ := entry
  simp only [readFramed?, Option.bind_eq_some_iff, Option.map_eq_some_iff, Prod.exists,
    unframe?_eq_some_iff, Prod.mk.injEq, IsMeasured]
  constructor
  · rintro ⟨_, _, ⟨first, rfl⟩, _, _, ⟨second, rfl⟩, ⟨rfl, rfl⟩, rfl⟩
    exact ⟨⟨first, second⟩, rfl⟩
  · rintro ⟨⟨first, second⟩, rfl⟩
    exact ⟨_, _, ⟨first, rfl⟩, _, _, ⟨second, rfl⟩, ⟨rfl, rfl⟩, rfl⟩

theorem length_lt_of_readFramed? (h : readFramed? bytes = some (entry, rest)) :
    rest.length < bytes.length := by
  obtain ⟨-, rfl⟩ := readFramed?_eq_some_iff.mp h
  rw [List.length_append, List.length_append, length_framed]
  omega

/-- Reads named texts until nothing is left. -/
def readEntries? (bytes : List UInt8) : Option (List (String × String)) :=
  if bytes = [] then some []
  else
    match h : readFramed? bytes with
    | none => none
    | some (entry, rest) =>
      have : rest.length < bytes.length := length_lt_of_readFramed? h
      (readEntries? rest).map (entry :: ·)
termination_by bytes.length

theorem readEntries?_entryBytes (h : ∀ entry ∈ entries, IsMeasured entry) :
    readEntries? (entryBytes entries) = some entries := by
  induction entries with
  | nil => rw [readEntries?]; rfl
  | cons entry entries ih =>
    obtain ⟨first, others⟩ := List.forall_mem_cons.mp h
    have read : readFramed? (entryBytes (entry :: entries)) = some (entry, entryBytes entries) :=
      readFramed?_eq_some_iff.mpr ⟨first, entryBytes_cons ..⟩
    have more : entryBytes (entry :: entries) ≠ [] := by
      intro none
      have shorter := length_lt_of_readFramed? read
      rw [none] at shorter
      exact Nat.not_lt_zero _ shorter
    rw [readEntries?, if_neg more]
    split
    · rename_i nothing
      rw [nothing] at read
      cases read
    · rename_i found rest eq
      obtain ⟨rfl, rfl⟩ := Prod.mk.inj (Option.some.inj (eq.symm.trans read))
      rw [ih others, Option.map_some]

/-- What is read is what was written. -/
theorem eq_entryBytes_of_readEntries? (h : readEntries? bytes = some entries) :
    (∀ entry ∈ entries, IsMeasured entry) ∧ bytes = entryBytes entries := by
  fun_induction readEntries? bytes generalizing entries with
  | case1 =>
    obtain rfl := Option.some.inj h
    exact ⟨List.forall_mem_nil _, rfl⟩
  | case2 => cases h
  | case3 bytes _ entry rest read _ ih =>
    obtain ⟨others, eq, rfl⟩ := Option.map_eq_some_iff.mp h
    obtain ⟨measured, rfl⟩ := ih eq
    obtain ⟨first, rfl⟩ := readFramed?_eq_some_iff.mp read
    exact ⟨List.forall_mem_cons.mpr ⟨first, measured⟩, (entryBytes_cons ..).symm⟩

/-- **Entries are recovered.** Reading accepts exactly what writing produces. -/
theorem readEntries?_eq_some_iff : readEntries? bytes = some entries ↔
    (∀ entry ∈ entries, IsMeasured entry) ∧ bytes = entryBytes entries := by
  refine ⟨eq_entryBytes_of_readEntries?, ?_⟩
  rintro ⟨measured, rfl⟩
  exact readEntries?_entryBytes measured

end Fingerprint

/-- The files of a project as named texts. -/
def Project.entries (project : Project) : List (String × String) :=
  project.files.map fun file ↦ (file.path, file.content)

theorem Project.files_eq_iff {p q : Project} : p.files = q.files ↔ p.entries = q.entries := by
  refine ⟨fun h ↦ by rw [entries, h, entries], fun h ↦ List.map_injective_iff.mpr ?_ h⟩
  rintro ⟨_, _⟩ ⟨_, _⟩ eq
  cases eq
  rfl

namespace Fingerprint

/-- **Different lists are hashed as different bytes.** -/
theorem entryBytes_inj {a b : List (String × String)} (ha : ∀ entry ∈ a, IsMeasured entry)
    (hb : ∀ entry ∈ b, IsMeasured entry) : entryBytes a = entryBytes b ↔ a = b := by
  refine ⟨fun eq ↦ ?_, congrArg entryBytes⟩
  have read := readEntries?_entryBytes ha
  rw [eq, readEntries?_entryBytes hb] at read
  exact (Option.some.inj read).symm

/-- What the hash is taken of for a list of named texts. -/
def hashed (entries : List (String × String)) : ByteArray := ⟨(entryBytes entries).toArray⟩

theorem hashed_eq_iff {a b : List (String × String)} :
    hashed a = hashed b ↔ entryBytes a = entryBytes b := by
  refine ⟨fun eq ↦ ?_, fun eq ↦ by rw [hashed, eq, hashed]⟩
  exact congrArg (fun bytes : ByteArray ↦ bytes.data.toList) eq

theorem ofEntries_eq_iff {a b : List (String × String)} :
    ofEntries a = ofEntries b ↔ Blake3.hash (hashed a) = Blake3.hash (hashed b) := by
  rw [ofEntries, ofEntries, ofBytes, ofBytes, mk.injEq, hashed, hashed]

/-- **Fingerprints tell lists of texts apart before they are hashed.** Bytes are read back as a list
exactly if they are what is hashed for it and its lengths fit; so different lists are hashed as
different bytes, and two projects share a fingerprint only if their files agree or the hash takes
the same value on the different bytes of both. -/
theorem entries_readBack :
    (∀ bytes entries, readEntries? bytes = some entries ↔
      (∀ entry ∈ entries, IsMeasured entry) ∧ bytes = entryBytes entries) ∧
      (∀ a b, (∀ entry ∈ a, IsMeasured entry) → (∀ entry ∈ b, IsMeasured entry) → a ≠ b →
        entryBytes a ≠ entryBytes b) ∧
      ∀ p q : Project, (∀ entry ∈ p.entries, IsMeasured entry) →
        (∀ entry ∈ q.entries, IsMeasured entry) → p.fingerprint = q.fingerprint →
          p.files = q.files ∨
            hashed p.entries ≠ hashed q.entries ∧
              Blake3.hash (hashed p.entries) = Blake3.hash (hashed q.entries) := by
  refine ⟨fun _ _ ↦ readEntries?_eq_some_iff, fun a b ha hb ne eq ↦ ?_, fun p q hp hq same ↦ ?_⟩
  · exact ne ((entryBytes_inj ha hb).mp eq)
  · by_cases files : p.files = q.files
    · exact .inl files
    · refine .inr ⟨fun eq ↦ files ?_, ofEntries_eq_iff.mp same⟩
      exact Project.files_eq_iff.mpr ((entryBytes_inj hp hq).mp (hashed_eq_iff.mp eq))

/-- A character of two bytes moves from a content to the next name. -/
theorem entries_readBack_moved :
    (∀ entry ∈ [("a", "bé"), ("c", "")], IsMeasured entry) ∧
      (∀ entry ∈ [("a", "b"), ("éc", "")], IsMeasured entry) ∧
      entryBytes [("a", "bé"), ("c", "")] ≠ entryBytes [("a", "b"), ("éc", "")] := by
  have left : ∀ entry ∈ [("a", "bé"), ("c", "")], IsMeasured entry := by decide
  have right : ∀ entry ∈ [("a", "b"), ("éc", "")], IsMeasured entry := by decide
  exact ⟨left, right, entries_readBack.2.1 _ _ left right (by decide)⟩

end Fingerprint

end Sitewright
