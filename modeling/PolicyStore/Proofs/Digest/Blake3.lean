import PolicyStore.Digest.Blake3

/-!
# Hashes of short inputs

An input of at most one block is hashed by a single compression.
-/

namespace PolicyStore.Digest.Blake3

theorem hash_of_short {bytes : List UInt8} (h : bytes.length ≤ 64) :
    hash bytes =
      (Step.compress ⟨initial, blockOf (words bytes), 0, bytes.length.toUInt32,
        chunkStart ||| chunkEnd ||| root⟩).toList.flatMap wordBytes := by
  rw [hash, tree, dif_pos (Nat.le_trans h (by decide)), chunk, dif_pos h]

end PolicyStore.Digest.Blake3
