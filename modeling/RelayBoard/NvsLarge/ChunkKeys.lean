import RelayBoard.NvsLarge.Overwrite

/-! # The Keys of a Large String

  `generate_chunk_key` writes into 15 bytes and does not look at how many
  `snprintf` wanted. The file determines for which strings the keys of all
  records of one large string are different.
-/

open CString Chunk

namespace NvsLarge

/-- The keys of the chunks of a value are pairwise distinct, and none of them is
    a metadata key. -/
def RecordKeysDistinct (key value : CStr) : Prop :=
  ChunkKeysDistinct key (chunkCount maxChunkSize value) ∧
    ∀ i < chunkCount maxChunkSize value,
      generateChunkKey key i ≠ key ∧ generateChunkKey key i ≠ chunkMetaKey key

/-- A number of chunks is a bound on the length. -/
theorem chunkCount_le_iff (value : CStr) (n : Nat) :
    chunkCount maxChunkSize value ≤ n ↔ value.length ≤ maxChunkSize * n := by
  rw [← Nat.not_lt, lt_chunkCount_iff maxChunkSize_pos, Nat.not_lt, Nat.mul_comm]

/-- All digits of the indices below `10 ^ (13 - key.length)` fit into the key. -/
theorem chunkKeysDistinct_of_le {key : CStr} (hkey : key.length ≤ 13) {n : Nat}
    (hn : n ≤ 10 ^ (13 - key.length)) : ChunkKeysDistinct key n := by
  rcases Nat.eq_or_lt_of_le hkey with hfull | hroom
  · -- no digit fits, and there is one chunk
    intro i j hi hj _
    rw [hfull] at hn
    omega
  · apply chunkKeysDistinct_of_fits
    intro i hi
    have hdigits : (decimal (i : Int)).length ≤ 13 - key.length :=
      (length_decimal_le_iff (by omega)).mpr (by omega)
    omega

/-- Index `10 ^ d` is cut to index `10 ^ (d - 1)` where `d` digits fit, and all
    indices are cut to one where none does. -/
theorem le_of_chunkKeysDistinct {key : CStr} (hkey : key.length ≤ 13) {n : Nat}
    (h : ChunkKeysDistinct key n) : n ≤ 10 ^ (13 - key.length) := by
  by_contra hn
  cases hd : 13 - key.length with
  | zero =>
      rw [hd] at hn
      have heq : generateChunkKey key 0 = generateChunkKey key 1 := by
        rw [generateChunkKey_eq hkey, generateChunkKey_eq hkey, hd, List.take_zero, List.take_zero]
      have := h 0 1 (by omega) (by omega) heq
      omega
  | succ d =>
      rw [hd] at hn
      have hlt : 10 ^ d < 10 ^ (d + 1) := Nat.pow_lt_pow_right (by decide) (by omega)
      have hlen := length_decimal_pow d
      have heq : generateChunkKey key (10 ^ (d + 1)) = generateChunkKey key (10 ^ d) := by
        rw [generateChunkKey_eq hkey, generateChunkKey_eq hkey, hd, Nat.pow_succ, Nat.mul_comm,
          decimal_mul_ten (Nat.pow_pos (by decide)), List.take_append_of_le_length (by omega)]
      have := h _ _ (by omega) (by omega) heq
      omega

/-- **Where chunk keys do not meet**: exactly up to ten to the number of
    characters the key leaves for the index. -/
theorem chunkKeysDistinct_iff {key : CStr} (hkey : key.length ≤ 13) (n : Nat) :
    ChunkKeysDistinct key n ↔ n ≤ 10 ^ (13 - key.length) :=
  ⟨le_of_chunkKeysDistinct hkey, chunkKeysDistinct_of_le hkey⟩

theorem recordKeysDistinct_iff {key : CStr} (hkey : key.length ≤ 13) (value : CStr) :
    RecordKeysDistinct key value ↔ value.length ≤ maxChunkSize * 10 ^ (13 - key.length) := by
  rw [← chunkCount_le_iff, ← chunkKeysDistinct_iff hkey]
  constructor
  · exact fun h => h.1
  · intro h
    refine ⟨h, ?_⟩
    intro i _
    exact ⟨generateChunkKey_ne_key hkey i, generateChunkKey_ne_chunkMetaKey hkey i⟩

/-- The records of a string that was written successfully never alias exactly
    when it has at most `10 ^ (13 - key.length)` chunks. -/
theorem written_recordKeysDistinct_iff (ok : Nat → Bool) (nvs nvs' : LargeStore)
    (ns key value : CStr) (hwrite : nvsWriteStringLarge ok nvs ns key value = (.ok, nvs')) :
    RecordKeysDistinct key value ↔ value.length ≤ maxChunkSize * 10 ^ (13 - key.length) :=
  recordKeysDistinct_iff (nvsWriteStringLarge_ok hwrite).2 value

/-- A text of one character under the key of a CA certificate. -/
theorem written_recordKeysDistinct_iff_one :
    RecordKeysDistinct "ca-mqtts.crt".toList ['a'] ↔
      ['a'].length ≤ maxChunkSize * 10 ^ (13 - "ca-mqtts.crt".toList.length) :=
  written_recordKeysDistinct_iff (fun _ => true) Nvs.empty _ "settings".toList _ _
    (nvsWriteStringLarge_all (by decide) _ _ _)

/-- Eleven chunks under the key of a CA certificate: the key of chunk 10 is cut
    to that of chunk 1. -/
theorem not_written_recordKeysDistinct :
    ¬ ∀ (ok : Nat → Bool) (nvs nvs' : LargeStore) (ns key value : CStr), key.length ≤ 12 →
      nvsWriteStringLarge ok nvs ns key value = (.ok, nvs') → RecordKeysDistinct key value := by
  intro h
  have hkey : "ca-mqtts.crt".toList.length = 12 := by decide
  have hdist := h (fun _ => true) Nvs.empty _ "settings".toList "ca-mqtts.crt".toList
    (List.replicate 19001 'a') (by omega) (nvsWriteStringLarge_all (by omega) _ _ _)
  rw [recordKeysDistinct_iff (by omega), List.length_replicate, hkey] at hdist
  exact absurd hdist (by decide)

end NvsLarge
