import RelayBoard.NvsLarge.ChunkKeys

/-! # Reading Back a Large String

  What `nvs_read_string_large` returns after a successful
  `nvs_write_string_large`, whatever the store held before.
-/

open CString Chunk

namespace NvsLarge

/-! ### The Chunks Written -/

/-- A successful write changes nothing but the records of its key. -/
theorem setAll_writesOf_frame (nvs : LargeStore) {ns ns' key key' value : CStr}
    (h : ns' = ns → key' ≠ key ∧ key' ≠ chunkMetaKey key ∧
      ∀ i < chunkCount maxChunkSize value, key' ≠ generateChunkKey key i) :
    Nvs.setAll nvs ns (writesOf key value) ns' key' = nvs ns' key' := by
  apply Nvs.setAll_of_ne
  intro hns w hw
  obtain ⟨hmeta, hrec, hchunk⟩ := h hns
  simp only [writesOf, List.mem_append, List.mem_map, List.mem_range, List.mem_cons,
    List.not_mem_nil, or_false] at hw
  rcases hw with ⟨i, hi, rfl⟩ | rfl | rfl
  · exact (hchunk i hi).symm
  · exact hmeta.symm
  · exact hrec.symm

/-! ### Round Trip -/

/-- If the last chunk key fits, all do. -/
theorem chunkKeysDistinct_of_last {key value : CStr} (hvalue : value ≠ [])
    (hfit : key.length + 1 +
      (decimal ((chunkCount maxChunkSize value - 1 : Nat) : Int)).length ≤ 14) :
    ChunkKeysDistinct key (chunkCount maxChunkSize value) := by
  have hlast := List.length_pos_iff.mpr (decimal_ne_nil (chunkCount maxChunkSize value - 1))
  have hcount : chunkCount maxChunkSize value ≠ 0 :=
    fun h => hvalue ((chunkCount_eq_zero_iff maxChunkSize_pos value).mp h)
  have hpow : chunkCount maxChunkSize value - 1 < 10 ^ (13 - key.length) :=
    (length_decimal_le_iff (by omega)).mp (by omega)
  exact chunkKeysDistinct_of_le (by omega) (by omega)

/-- **Round trip**: from any store, a string whose chunk keys fit is read as it
    was written, its chunks are not empty and not too long, and no other record
    has changed. -/
theorem nvsWriteStringLarge_roundTrip (ok : Nat → Bool) (nvs nvs' : LargeStore)
    (ns key value : CStr) (hvalue : value ≠ [])
    (hfit : key.length + 1 +
      (decimal ((chunkCount maxChunkSize value - 1 : Nat) : Int)).length ≤ 14)
    (hwrite : nvsWriteStringLarge ok nvs ns key value = (.ok, nvs')) :
    nvsReadStringLarge nvs' ns key = .ok (some value) ∧
      (∀ i < chunkCount maxChunkSize value, ∃ chunkValue,
        nvs' ns (generateChunkKey key i) = some (.str chunkValue) ∧ chunkValue ≠ [] ∧
          chunkValue.length ≤ maxChunkSize) ∧
      ∀ ns' key', nvs' ns' key' ≠ nvs ns' key' →
        ns' = ns ∧ (key' = key ∨ key' = chunkMetaKey key ∨
          ∃ i < chunkCount maxChunkSize value, key' = generateChunkKey key i) := by
  obtain ⟨rfl, hkey'⟩ := nvsWriteStringLarge_ok hwrite
  have hdist := chunkKeysDistinct_of_last hvalue hfit
  refine ⟨?_, ?_, ?_⟩
  · rw [read_setAll_writesOf nvs ns value hkey' hdist, if_neg hvalue]
  · intro i hi
    exact ⟨_, setAll_writesOf_chunk nvs ns value hkey' hdist hi, chunk_ne_nil maxChunkSize_pos hi,
      length_chunk_le value i⟩
  · intro ns' key' hne
    by_contra hother
    simp only [not_and, not_or, not_exists] at hother
    exact hne (setAll_writesOf_frame nvs hother)

/-- Two chunks over what an earlier write of three has left. -/
theorem nvsWriteStringLarge_roundTrip_shorter :
    nvsReadStringLarge
      (nvsWriteStringLarge (fun _ => true)
        (nvsWriteStringLarge (fun _ => true) Nvs.empty "settings".toList "ca-mqtts.crt".toList
          (List.replicate 5000 'a')).2
        "settings".toList "ca-mqtts.crt".toList (List.replicate 2000 'b')).2
      "settings".toList "ca-mqtts.crt".toList = .ok (some (List.replicate 2000 'b')) := by
  have hkey : "ca-mqtts.crt".toList.length = 12 := by decide
  have hcount : chunkCount maxChunkSize (List.replicate 2000 'b') = 2 := by
    rw [chunkCount, List.length_replicate]
    rfl
  exact (nvsWriteStringLarge_roundTrip (fun _ => true) _ _ "settings".toList
    "ca-mqtts.crt".toList (List.replicate 2000 'b')
    (by rw [Ne, List.replicate_eq_nil_iff]; decide)
    (by rw [hcount, hkey]; decide)
    (by rw [nvsWriteStringLarge_all (by omega)])).1

/-! ### Aliased Chunk Keys -/

/-- Chunks that share a key are equal, and there is a chunk: what is left of the
    string is the string. -/
def ReadsBack (key value : CStr) : Prop :=
  value ≠ [] ∧ ∀ i j, i < chunkCount maxChunkSize value → j < chunkCount maxChunkSize value →
    generateChunkKey key i = generateChunkKey key j →
    chunk maxChunkSize value i = chunk maxChunkSize value j

/-- `last i` is the last chunk written under the key of chunk `i`. -/
structure LastUnderKey (key value : CStr) (last : Nat → Nat) : Prop where
  le : ∀ i < chunkCount maxChunkSize value, i ≤ last i
  lt : ∀ i < chunkCount maxChunkSize value, last i < chunkCount maxChunkSize value
  key_eq : ∀ i < chunkCount maxChunkSize value,
    generateChunkKey key (last i) = generateChunkKey key i
  chunk_eq : ∀ i j, i < chunkCount maxChunkSize value → j < chunkCount maxChunkSize value →
    generateChunkKey key i = generateChunkKey key j →
    chunk maxChunkSize value (last i) = chunk maxChunkSize value (last j)

/-- A reader gets the last chunk under each key. -/
theorem read_setAll_writesOf_last (nvs : LargeStore) (ns : CStr) {key : CStr} (value : CStr)
    (hkey : key.length ≤ 13) :
    ∃ last, LastUnderKey key value last ∧
      nvsReadStringLarge (Nvs.setAll nvs ns (writesOf key value)) ns key =
        .ok (if value = [] then none
          else some ((List.range (chunkCount maxChunkSize value)).flatMap
            fun i => chunk maxChunkSize value (last i))) := by
  have hlast : ∀ i, ∃ j, i < chunkCount maxChunkSize value →
      i ≤ j ∧ j < chunkCount maxChunkSize value ∧
        generateChunkKey key j = generateChunkKey key i ∧
        Nvs.setAll nvs ns (writesOf key value) ns (generateChunkKey key i) =
          some (.str (chunk maxChunkSize value j)) := by
    intro i
    by_cases hi : i < chunkCount maxChunkSize value
    · obtain ⟨j, hij, hj, hjkey, hst⟩ := Nvs.setAll_range_last nvs ns
        (generateChunkKey key) (fun k => .str (chunk maxChunkSize value k)) hi
      refine ⟨j, fun _ => ⟨hij, hj, hjkey, ?_⟩⟩
      rw [(setAll_writesOf nvs ns value hkey).2 i]
      exact hst
    · exact ⟨0, fun h => absurd h hi⟩
  choose last hlast using hlast
  refine ⟨last, ?_, ?_⟩
  · constructor
    · exact fun i hi => (hlast i hi).1
    · exact fun i hi => (hlast i hi).2.1
    · exact fun i hi => (hlast i hi).2.2.1
    · intro i j hi hj hij
      have hsame := (hlast i hi).2.2.2
      rw [hij, (hlast j hj).2.2.2] at hsame
      simpa using hsame.symm
  · have hdesc := (setAll_writesOf nvs ns value hkey).1
    rw [hdesc.read (fun i => chunk maxChunkSize value (last i)) (Nat.le_refl _)
      (fun i hi => (hlast i hi).2.2.2), if_pos rfl]

/-- The last chunks are the string exactly when aliased chunks are equal. -/
theorem LastUnderKey.flatMap_eq_iff {key value : CStr} {last : Nat → Nat}
    (h : LastUnderKey key value last) (hvalue : value ≠ []) :
    (List.range (chunkCount maxChunkSize value)).flatMap
        (fun i => chunk maxChunkSize value (last i)) = value ↔ ReadsBack key value := by
  -- only the last chunk of all is short, and nothing has been written over it
  have hlong : ∀ i ∈ List.range (chunkCount maxChunkSize value),
      (chunk maxChunkSize value (last i)).length ≤ (chunk maxChunkSize value i).length := by
    intro i hi
    have hi' := List.mem_range.mp hi
    rcases Nat.eq_or_lt_of_le (h.le i hi') with heq | hlt
    · exact Nat.le_of_eq (by rw [← heq])
    · have := h.lt i hi'
      rw [length_chunk_of_lt maxChunkSize_pos (show i + 1 < _ by omega)]
      exact length_chunk_le value _
  have heq := flatMap_eq_flatMap_iff hlong
  rw [flatMap_chunk maxChunkSize_pos] at heq
  rw [heq]
  constructor
  · intro hall
    refine ⟨hvalue, ?_⟩
    intro i j hi hj hij
    calc chunk maxChunkSize value i
        = chunk maxChunkSize value (last i) := (hall i (List.mem_range.mpr hi)).symm
      _ = chunk maxChunkSize value (last j) := h.chunk_eq i j hi hj hij
      _ = chunk maxChunkSize value j := hall j (List.mem_range.mpr hj)
  · intro hback i hi
    have hi' := List.mem_range.mp hi
    exact hback.2 _ _ (h.lt i hi') hi' (h.key_eq i hi')

/-- **What a reader gets** after a successful write is the string that was written
    exactly when aliased chunks are equal. It is never an error. -/
theorem read_setAll_writesOf_iff (nvs : LargeStore) (ns : CStr) {key : CStr} (value : CStr)
    (hkey : key.length ≤ 13) :
    ∃ outValue, nvsReadStringLarge (Nvs.setAll nvs ns (writesOf key value)) ns key =
        .ok outValue ∧ (outValue = some value ↔ ReadsBack key value) := by
  obtain ⟨last, hlast, hread⟩ := read_setAll_writesOf_last nvs ns value hkey
  refine ⟨_, hread, ?_⟩
  by_cases hvalue : value = []
  · simp [hvalue, ReadsBack]
  · rw [if_neg hvalue, Option.some.injEq]
    exact hlast.flatMap_eq_iff hvalue

/-- A string that reads back is read. -/
theorem ReadsBack.read {key value : CStr} (h : ReadsBack key value) (nvs : LargeStore)
    (ns : CStr) (hkey : key.length ≤ 13) :
    nvsReadStringLarge (Nvs.setAll nvs ns (writesOf key value)) ns key = .ok (some value) := by
  obtain ⟨outValue, hread, hiff⟩ := read_setAll_writesOf_iff nvs ns value hkey
  rw [hread, hiff.mpr h]

end NvsLarge
