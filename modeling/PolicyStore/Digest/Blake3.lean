/-!
# BLAKE3

The 256-bit BLAKE3 hash of a byte string. The input is cut into chunks of 1024 bytes, a chunk into
blocks of 64; each block is compressed into a chaining value of eight words. Chunks are the leaves of
a binary tree whose left subtrees are as large a power of two as leaves something to the right.
-/

namespace PolicyStore.Digest.Blake3

/-- Eight words that carry the state from one block to the next. -/
abbrev Chain := Vector UInt32 8

abbrev Block := Vector UInt32 16

def initial : Chain :=
  #v[0x6A09E667, 0xBB67AE85, 0x3C6EF372, 0xA54FF53A, 0x510E527F, 0x9B05688C, 0x1F83D9AB, 0x5BE0CD19]

/-- Where each word of a block comes from when the block is shuffled between rounds. -/
def shuffle : Vector (Fin 16) 16 :=
  #v[2, 6, 3, 10, 7, 0, 4, 13, 1, 11, 12, 5, 9, 14, 15, 8]

/-- A word rotated to the right by `n` bits, where `0 < n < 32`. -/
def rotateRight (x n : UInt32) : UInt32 :=
  (x >>> n) ||| (x <<< (32 - n))

def mix (v : Block) (a b c d : Fin 16) (x y : UInt32) : Block :=
  let v := v.set a (v.get a + v.get b + x)
  let v := v.set d (rotateRight (v.get d ^^^ v.get a) 16)
  let v := v.set c (v.get c + v.get d)
  let v := v.set b (rotateRight (v.get b ^^^ v.get c) 12)
  let v := v.set a (v.get a + v.get b + y)
  let v := v.set d (rotateRight (v.get d ^^^ v.get a) 8)
  let v := v.set c (v.get c + v.get d)
  v.set b (rotateRight (v.get b ^^^ v.get c) 7)

/-- Mixes a block into the state, columns first and then diagonals. -/
def round (v m : Block) : Block :=
  let v := mix v 0 4 8 12 m[0] m[1]
  let v := mix v 1 5 9 13 m[2] m[3]
  let v := mix v 2 6 10 14 m[4] m[5]
  let v := mix v 3 7 11 15 m[6] m[7]
  let v := mix v 0 5 10 15 m[8] m[9]
  let v := mix v 1 6 11 12 m[10] m[11]
  let v := mix v 2 7 8 13 m[12] m[13]
  mix v 3 4 9 14 m[14] m[15]

/-- Rounds with the block shuffled after each one. -/
def rounds : Nat → Block → Block → Block
  | 0, v, _ => v
  | n + 1, v, m => rounds n (round v m) (Vector.ofFn fun i => m.get (shuffle.get i))

/-- What a compression is given: a block with its place and its role in the tree. -/
structure Step where
  chain : Chain
  block : Block
  counter : UInt64
  length : UInt32
  flags : UInt32

def chunkStart : UInt32 := 1

def chunkEnd : UInt32 := 2

/-- The block holds the chaining values of two subtrees. -/
def parent : UInt32 := 4

/-- The step is the last one of all. -/
def root : UInt32 := 8

def Step.compress (s : Step) : Chain :=
  let start : Block :=
    #v[s.chain[0], s.chain[1], s.chain[2], s.chain[3], s.chain[4], s.chain[5], s.chain[6], s.chain[7],
      initial[0], initial[1], initial[2], initial[3],
      s.counter.toUInt32, (s.counter >>> 32).toUInt32, s.length, s.flags]
  let v := rounds 7 start s.block
  Vector.ofFn fun i : Fin 8 => v[i.val] ^^^ v[i.val + 8]

/-- The words of a byte string, low byte first; missing bytes are zero. -/
def words : List UInt8 → List UInt32
  | a :: b :: c :: d :: rest =>
    (a.toUInt32 ||| b.toUInt32 <<< 8 ||| c.toUInt32 <<< 16 ||| d.toUInt32 <<< 24) :: words rest
  | [a, b, c] => [a.toUInt32 ||| b.toUInt32 <<< 8 ||| c.toUInt32 <<< 16]
  | [a, b] => [a.toUInt32 ||| b.toUInt32 <<< 8]
  | [a] => [a.toUInt32]
  | [] => []

/-- The bytes of a word, low byte first. -/
def wordBytes (w : UInt32) : List UInt8 :=
  [w.toUInt8, (w >>> 8).toUInt8, (w >>> 16).toUInt8, (w >>> 24).toUInt8]

def blockOf (ws : List UInt32) : Block :=
  let array := ws.toArray
  Vector.ofFn fun i => array.getD i.val 0

/-- The last step of a chunk, after the steps of the blocks before it. -/
def chunk (counter : UInt64) (chain : Chain) (flags : UInt32) (bytes : List UInt8) : Step :=
  if _h : bytes.length ≤ 64 then
    ⟨chain, blockOf (words bytes), counter, bytes.length.toUInt32, flags ||| chunkEnd⟩
  else
    let step : Step := ⟨chain, blockOf (words (bytes.take 64)), counter, 64, flags⟩
    chunk counter step.compress 0 (bytes.drop 64)
termination_by bytes.length
decreasing_by simp only [List.length_drop]; omega

/-- The bytes that go to the left of a tree over `n` bytes, more than one chunk. -/
def leftLength (n : Nat) : Nat :=
  1024 * Nat.pow 2 ((n - 1) / 1024).log2

theorem leftLength_lt {n : Nat} (h : 1024 < n) : 0 < leftLength n ∧ leftLength n < n := by
  have hq : (n - 1) / 1024 ≠ 0 := by omega
  have := Nat.log2_self_le hq
  have := Nat.two_pow_pos ((n - 1) / 1024).log2
  simp only [leftLength, Nat.pow_eq]
  omega

/-- The last step of the tree over a byte string whose first chunk has the given number. -/
def tree (counter : Nat) (bytes : List UInt8) : Step :=
  if h : bytes.length ≤ 1024 then chunk (UInt64.ofNat counter) initial chunkStart bytes
  else
    let left := leftLength bytes.length
    have : 0 < left ∧ left < bytes.length := leftLength_lt (by omega)
    let chains :=
      (tree counter (bytes.take left)).compress ++
        (tree (counter + left / 1024) (bytes.drop left)).compress
    ⟨initial, chains, 0, 64, parent⟩
termination_by bytes.length
decreasing_by
  · simp only [List.length_take]; omega
  · simp only [List.length_drop]; omega

def hash (bytes : List UInt8) : List UInt8 :=
  let last := tree 0 bytes
  let final : Step := ⟨last.chain, last.block, 0, last.length, last.flags ||| root⟩
  final.compress.toList.flatMap wordBytes

theorem length_hash (bytes : List UInt8) : (hash bytes).length = 32 := by
  simp [hash, List.length_flatMap, wordBytes, List.map_const']

end PolicyStore.Digest.Blake3
