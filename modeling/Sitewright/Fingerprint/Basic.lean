import Sitewright.Fingerprint.Blake3
import Sitewright.Text.Quoted

/-!
# Fingerprints

A fingerprint stands for a text or for a list of named texts. Of a list it hashes the concatenation
of all names and contents, each preceded by its length in eight bytes, so that the list can be
recovered from what is hashed: moving a character from a name to its content, or from one entry to
the next, changes the hashed bytes.
-/

namespace Sitewright

/-- A hash of 32 bytes. -/
structure Fingerprint where
  /-- The bytes. -/
  bytes : List UInt8
  deriving DecidableEq

namespace Fingerprint

/-- The bytes of a text. -/
def textBytes (s : String) : List UInt8 := s.toUTF8.data.toList

/-- A number in a given number of bytes, the lowest first. -/
def littleEndian : Nat → Nat → List UInt8
  | 0, _ => []
  | width + 1, n => UInt8.ofNat (n % 256) :: littleEndian width (n / 256)

@[simp] theorem length_littleEndian (width n : Nat) : (littleEndian width n).length = width := by
  induction width generalizing n with
  | zero => rfl
  | succ width ih => simp [littleEndian, ih]

/-- A text with its length before it. -/
def framed (s : String) : List UInt8 :=
  littleEndian 8 (textBytes s).length ++ textBytes s

/-- What is hashed for a list of named texts. -/
def entryBytes (entries : List (String × String)) : List UInt8 :=
  entries.flatMap fun entry => framed entry.1 ++ framed entry.2

theorem entryBytes_cons (name content : String) (rest : List (String × String)) :
    entryBytes ((name, content) :: rest) = framed name ++ (framed content ++ entryBytes rest) := by
  simp [entryBytes]

/-- The fingerprint of bytes. -/
def ofBytes (bytes : List UInt8) : Fingerprint := ⟨Blake3.hash ⟨bytes.toArray⟩⟩

/-- The fingerprint of a text. -/
def ofText (s : String) : Fingerprint := ofBytes (textBytes s)

/-- The fingerprint of a list of named texts. -/
def ofEntries (entries : List (String × String)) : Fingerprint := ofBytes (entryBytes entries)

/-- Bytes in hexadecimal. -/
def hexText (bytes : List UInt8) : String :=
  String.ofList (bytes.flatMap fun b => Text.hexFixed 2 b.toNat)

/-- The fingerprint in hexadecimal. -/
def text (f : Fingerprint) : String := hexText f.bytes

/-- The first sixteen characters of the fingerprint in hexadecimal. -/
def short (f : Fingerprint) : String := hexText (f.bytes.take 8)

end Fingerprint

end Sitewright
