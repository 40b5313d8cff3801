/-!
# BLAKE3

The hash function behind fingerprints, for inputs of any length and an output of 32 bytes.

The input is cut into chunks of 1024 bytes and each chunk into blocks of 64. The blocks of a chunk
are compressed one after the other, each from the chaining value of the one before; the chunks are
the leaves of a binary tree whose left subtree holds the largest power of two of chunks that leaves
at least one byte for the right. A node of the tree is kept *before* its last compression, because
the last compression of the root alone carries the root flag.
-/

namespace Sitewright.Blake3

/-- The words that chaining starts from. -/
def initialWords : Array UInt32 :=
  #[0x6A09E667, 0xBB67AE85, 0x3C6EF372, 0xA54FF53A, 0x510E527F, 0x9B05688C, 0x1F83D9AB, 0x5BE0CD19]

/-- The order in which the next round reads the message words. -/
def schedule : List Nat := [2, 6, 3, 10, 7, 0, 4, 13, 1, 11, 12, 5, 9, 14, 15, 8]

/-- The flag of the first block of a chunk. -/
def chunkStart : UInt32 := 1

/-- The flag of the last block of a chunk. -/
def chunkEnd : UInt32 := 2

/-- The flag of an inner node of the tree. -/
def parentFlag : UInt32 := 4

/-- The flag of the last compression. -/
def rootFlag : UInt32 := 8

/-- The bytes of a chunk. -/
def chunkSize : Nat := 1024

/-- The bytes of a block. -/
def blockSize : Nat := 64

/-- A word rotated to the right. -/
def rotateRight (w : UInt32) (n : UInt32) : UInt32 := (w >>> n) ||| (w <<< (32 - n))

/-- A word of an array. -/
def word (words : Array UInt32) (i : Nat) : UInt32 := words.getD i 0

/-- Mixes two message words into four words of a state. -/
def mix (s : Array UInt32) (a b c d : Nat) (x y : UInt32) : Array UInt32 :=
  let va := word s a + word s b + x
  let vd := rotateRight (word s d ^^^ va) 16
  let vc := word s c + vd
  let vb := rotateRight (word s b ^^^ vc) 12
  let va := va + vb + y
  let vd := rotateRight (vd ^^^ va) 8
  let vc := vc + vd
  let vb := rotateRight (vb ^^^ vc) 7
  (((s.setIfInBounds a va).setIfInBounds b vb).setIfInBounds c vc).setIfInBounds d vd

/-- One round: the columns of the state, then its diagonals. -/
def round (s m : Array UInt32) : Array UInt32 :=
  let s := mix s 0 4 8 12 (word m 0) (word m 1)
  let s := mix s 1 5 9 13 (word m 2) (word m 3)
  let s := mix s 2 6 10 14 (word m 4) (word m 5)
  let s := mix s 3 7 11 15 (word m 6) (word m 7)
  let s := mix s 0 5 10 15 (word m 8) (word m 9)
  let s := mix s 1 6 11 12 (word m 10) (word m 11)
  let s := mix s 2 7 8 13 (word m 12) (word m 13)
  mix s 3 4 9 14 (word m 14) (word m 15)

/-- A number of rounds, the message words being reordered in between. -/
def rounds : Nat → Array UInt32 → Array UInt32 → Array UInt32
  | 0, s, _ => s
  | n + 1, s, m => rounds n (round s m) (schedule.map (word m)).toArray

/-- A node of the tree before its last compression. -/
structure Node where
  /-- The chaining value. -/
  chaining : Array UInt32
  /-- The words of the block. -/
  block : Array UInt32
  /-- The number of the chunk; zero for inner nodes. -/
  counter : Nat
  /-- The number of bytes in the block. -/
  length : Nat
  /-- The flags of the compression. -/
  flags : UInt32

/-- The eight words that a node compresses to. -/
def Node.compress (node : Node) (extra : UInt32) : Array UInt32 :=
  let state := node.chaining ++ initialWords.extract 0 4 ++
    #[UInt32.ofNat node.counter, UInt32.ofNat (node.counter / Nat.pow 2 32),
      UInt32.ofNat node.length, node.flags ||| extra]
  let s := rounds 7 state node.block
  ((List.range 8).map fun i => word s i ^^^ word s (i + 8)).toArray

/-- The word of four bytes, the lowest first; bytes beyond the end are zero. -/
def wordAt (bytes : ByteArray) (stop i : Nat) : UInt32 :=
  let byte (j : Nat) : UInt32 := if j < stop then (bytes.data.getD j 0).toUInt32 else 0
  byte i ||| (byte (i + 1) <<< 8) ||| (byte (i + 2) <<< 16) ||| (byte (i + 3) <<< 24)

/-- The words of the block that starts at a byte. -/
def blockAt (bytes : ByteArray) (stop start : Nat) : Array UInt32 :=
  ((List.range 16).map fun i => wordAt bytes stop (start + 4 * i)).toArray

/-- The node of a chunk, from the block that starts at `start` to `stop`; at most `bound` blocks are
left. -/
def chunkFrom (bytes : ByteArray) (stop counter : Nat) :
    Nat → Nat → Array UInt32 → UInt32 → Node
  | 0, start, chaining, flags =>
    ⟨chaining, blockAt bytes stop start, counter, stop - start, flags ||| chunkEnd⟩
  | bound + 1, start, chaining, flags =>
    if stop ≤ start + blockSize then
      ⟨chaining, blockAt bytes stop start, counter, stop - start, flags ||| chunkEnd⟩
    else
      let node : Node := ⟨chaining, blockAt bytes stop start, counter, blockSize, flags⟩
      chunkFrom bytes stop counter bound (start + blockSize) (node.compress 0) 0

/-- The node of the chunk of the bytes from `start` to `stop`. -/
def chunk (bytes : ByteArray) (counter start stop : Nat) : Node :=
  chunkFrom bytes stop counter (chunkSize / blockSize) start initialWords chunkStart

/-- The inner node over two nodes. -/
def parent (left right : Node) : Node :=
  ⟨initialWords, left.compress 0 ++ right.compress 0, 0, blockSize, parentFlag⟩

/-- The number of bytes in the left subtree over more than one chunk. -/
def leftSize (length : Nat) : Nat := chunkSize * Nat.pow 2 ((length - 1) / chunkSize).log2

/-- The tree over the bytes from `start` to `stop`, of at most `bound` levels. -/
def tree (bytes : ByteArray) : Nat → Nat → Nat → Node
  | 0, start, stop => chunk bytes (start / chunkSize) start stop
  | bound + 1, start, stop =>
    if stop - start ≤ chunkSize then chunk bytes (start / chunkSize) start stop
    else
      let middle := start + leftSize (stop - start)
      parent (tree bytes bound start middle) (tree bytes bound middle stop)

/-- The four bytes of a word, the lowest first. -/
def wordBytes (w : UInt32) : List UInt8 :=
  [w.toUInt8, (w >>> 8).toUInt8, (w >>> 16).toUInt8, (w >>> 24).toUInt8]

/-- The hash of a sequence of bytes. -/
def hash (bytes : ByteArray) : List UInt8 :=
  ((tree bytes (bytes.size.log2 + 1) 0 bytes.size).compress rootFlag).toList.flatMap wordBytes

end Sitewright.Blake3
