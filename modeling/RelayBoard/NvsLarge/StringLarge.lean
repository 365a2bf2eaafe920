import RelayBoard.Framework.Chunk
import RelayBoard.Platform.Nvs

/-! # Large Strings in NVS

  `components/ESP32_NVS_LARGE`: a string is stored as chunks of at most
  `MAX_CHUNK_SIZE` bytes under keys derived from its own, a metadata record
  under the key, and an array of chunk records under `key_M`.
-/

open CString Chunk

namespace NvsLarge

/-! ### Records -/

/-- `nvs_large_string_meta_t`. -/
structure StringMeta where
  chunkCount : Nat
  contentLen : Nat
  masterKey : CStr
  chunkMetaKey : CStr
  deriving DecidableEq, Repr

/-- `nvs_large_string_chunk_meta_t`. -/
structure ChunkMeta where
  index : Nat
  key : CStr
  size : Nat
  deriving DecidableEq, Repr

/-- A blob: the two of a large string, and any other one. -/
inductive LargeBlob where
  | stringMeta (strMeta : StringMeta)
  | chunkMeta (chunkMetaArray : List ChunkMeta)
  | other (bytes : List UInt8)
  deriving DecidableEq, Repr

abbrev LargeStore : Type := Nvs.Store LargeBlob

/-- `MAX_CHUNK_SIZE`. -/
def maxChunkSize : Nat := 1900

theorem maxChunkSize_pos : 0 < maxChunkSize := by decide

/-- `sizeof(nvs_large_string_meta_t)`. -/
def sizeofStringMeta : Nat := 40

/-- `sizeof(nvs_large_string_chunk_meta_t)`. -/
def sizeofChunkMeta : Nat := 24

/-! ### Keys -/

/-- `generate_chunk_key`: the buffer has 15 bytes and a longer key is cut. -/
def generateChunkKey (baseKey : CStr) (chunkIndex : Nat) : CStr :=
  snprintf 15 (baseKey ++ '_' :: decimal (chunkIndex : Int))

/-- The key of the chunk records. -/
def chunkMetaKey (key : CStr) : CStr := key ++ "_M".toList

/-! ### Writing -/

/-- The `k`-th NVS write of an operation, which succeeds if `ok k`; a key that
    is too long is refused. -/
def nvsWrite (ok : Nat → Bool) (k : Nat) (nvs : LargeStore) (ns key : CStr)
    (value : Nvs.Value LargeBlob) : EspErr × LargeStore :=
  if Nvs.keyMaxLength < key.length then (.nvsKeyTooLong, nvs)
  else if ok k then (.ok, Nvs.set nvs ns key value)
  else (.fail, nvs)

/-- `substring`; `none` is `NULL`. -/
def substring (src : CStr) (start length : Nat) : Option CStr :=
  if src.length ≤ start then none else some ((src.drop start).take length)

/-- The chunk loop of `nvs_write_string_large`. Its `substring` never starts
    behind the end of the value. -/
def writeChunks (ok : Nat → Bool) (ns key value : CStr) :
    List Nat → LargeStore → EspErr × LargeStore
  | [], nvs => (.ok, nvs)
  | i :: is, nvs =>
      let chunkValue := (substring value (i * maxChunkSize) maxChunkSize).getD []
      match nvsWrite ok i nvs ns (generateChunkKey key i) (.str chunkValue) with
      | (.ok, nvs) => writeChunks ok ns key value is nvs
      | (err, nvs) => (err, nvs)

/-- The metadata record of a value. -/
def stringMetaOf (key value : CStr) : StringMeta where
  chunkCount := chunkCount maxChunkSize value
  contentLen := value.length
  masterKey := key
  chunkMetaKey := chunkMetaKey key

/-- The chunk records of a value. -/
def chunkMetaArrayOf (key value : CStr) : List ChunkMeta :=
  (List.range (chunkCount maxChunkSize value)).map fun i =>
    ⟨i, generateChunkKey key i, (chunk maxChunkSize value i).length⟩

/-- `nvs_write_string_large`. -/
def nvsWriteStringLarge (ok : Nat → Bool) (nvs : LargeStore) (ns key value : CStr) :
    EspErr × LargeStore :=
  let count := chunkCount maxChunkSize value
  match writeChunks ok ns key value (List.range count) nvs with
  | (.ok, nvs) =>
      match nvsWrite ok count nvs ns key (.blob (.stringMeta (stringMetaOf key value))) with
      | (.ok, nvs) =>
          nvsWrite ok (count + 1) nvs ns (chunkMetaKey key)
            (.blob (.chunkMeta (chunkMetaArrayOf key value)))
      | (err, nvs) => (err, nvs)
  | (err, nvs) => (err, nvs)

/-! ### Reading -/

/-- What `nvs_read_string_large` ends in: an error, `ESP_OK` with `*out_value`
    (`none` is `NULL`), or the use of a record that holds no record: one that is
    uninitialized, or filled from a blob of another kind. -/
inductive ReadResult where
  | error (err : EspErr)
  | ok (outValue : Option CStr)
  | undefined
  deriving DecidableEq, Repr

/-- The chunk loop of `nvs_read_string_large`; `none` is a record of the array
    that the blob did not fill. -/
def readChunks (nvs : LargeStore) (ns : CStr) :
    List (Option ChunkMeta) → Option CStr → ReadResult
  | [], outValue => .ok outValue
  | none :: _, _ => .undefined
  | some chunkMeta :: rest, outValue =>
      match Nvs.readString nvs ns chunkMeta.key with
      | .error err => .error err
      | .ok chunkValue => readChunks nvs ns rest (some (outValue.getD [] ++ chunkValue))

/-- `nvs_read_string_large`. A blob longer than its buffer is an error; a shorter
    one leaves the rest of the buffer uninitialized. -/
def nvsReadStringLarge (nvs : LargeStore) (ns key : CStr) : ReadResult :=
  match Nvs.readBlob nvs ns key with
  | .error err => .error err
  | .ok (.chunkMeta chunkMetaArray) =>
      if sizeofStringMeta < chunkMetaArray.length * sizeofChunkMeta then .error .nvsInvalidLength
      else .undefined
  | .ok (.other bytes) =>
      if sizeofStringMeta < bytes.length then .error .nvsInvalidLength
      else .undefined
  | .ok (.stringMeta strMeta) =>
      match Nvs.readBlob nvs ns strMeta.chunkMetaKey with
      | .error err => .error err
      | .ok (.stringMeta _) =>
          if strMeta.chunkCount * sizeofChunkMeta < sizeofStringMeta then .error .nvsInvalidLength
          else .undefined
      | .ok (.other bytes) =>
          if strMeta.chunkCount * sizeofChunkMeta < bytes.length then .error .nvsInvalidLength
          else .undefined
      | .ok (.chunkMeta chunkMetaArray) =>
          if strMeta.chunkCount < chunkMetaArray.length then .error .nvsInvalidLength
          else readChunks nvs ns
            ((List.range strMeta.chunkCount).map fun i => chunkMetaArray[i]?) none

/-! ### Keys Do Not Meet the Metadata -/

theorem length_generateChunkKey_le (key : CStr) (i : Nat) :
    (generateChunkKey key i).length ≤ 14 :=
  List.length_take_le 14 _

/-- A chunk key is the key, an underscore, and digits, as far as they fit. -/
theorem generateChunkKey_eq {key : CStr} (hkey : key.length ≤ 13) (i : Nat) :
    generateChunkKey key i = key ++ '_' :: (decimal (i : Int)).take (13 - key.length) := by
  obtain ⟨k, hk⟩ : ∃ k, 14 - key.length = k + 1 := ⟨13 - key.length, by omega⟩
  have hk' : 13 - key.length = k := by omega
  rw [generateChunkKey, snprintf, List.take_append, List.take_of_length_le (by omega), hk, hk',
    List.take_succ_cons]

theorem generateChunkKey_ne_key {key : CStr} (hkey : key.length ≤ 13) (i : Nat) :
    generateChunkKey key i ≠ key := by
  rw [generateChunkKey_eq hkey]
  simp

theorem generateChunkKey_ne_chunkMetaKey {key : CStr} (hkey : key.length ≤ 13) (i : Nat) :
    generateChunkKey key i ≠ chunkMetaKey key := by
  rw [generateChunkKey_eq hkey, chunkMetaKey]
  intro h
  have htail := List.append_cancel_left h
  rw [show "_M".toList = '_' :: ['M'] from rfl, List.cons.injEq] at htail
  have hmem : 'M' ∈ (decimal (i : Int)).take (13 - key.length) := by simp [htail.2]
  exact absurd (isDigit_of_mem_decimal (List.mem_of_mem_take hmem)) (by decide)

theorem chunkMetaKey_ne_key (key : CStr) : chunkMetaKey key ≠ key := by
  simp [chunkMetaKey]

/-! ### A Write Is a Prefix of Its NVS Writes -/

/-- The NVS writes of `nvs_write_string_large`, in order. -/
def writesOf (key value : CStr) : List (CStr × Nvs.Value LargeBlob) :=
  (List.range (chunkCount maxChunkSize value)).map
      (fun i => (generateChunkKey key i, .str (chunk maxChunkSize value i))) ++
    [(key, .blob (.stringMeta (stringMetaOf key value))),
      (chunkMetaKey key, .blob (.chunkMeta (chunkMetaArrayOf key value)))]

theorem length_writesOf (key value : CStr) :
    (writesOf key value).length = chunkCount maxChunkSize value + 2 := by
  simp [writesOf]

theorem substring_eq_chunk {value : CStr} {i : Nat} (hi : i < chunkCount maxChunkSize value) :
    substring value (i * maxChunkSize) maxChunkSize = some (chunk maxChunkSize value i) := by
  have := (lt_chunkCount_iff maxChunkSize_pos value i).mp hi
  rw [substring, if_neg (by omega), chunk]

/-- The writes of an operation one after the other, the first of them being its
    `k`-th, with an early return on failure. -/
def runWrites (ok : Nat → Bool) (ns : CStr) :
    Nat → List (CStr × Nvs.Value LargeBlob) → LargeStore → EspErr × LargeStore
  | _, [], nvs => (.ok, nvs)
  | k, w :: ws, nvs =>
      match nvsWrite ok k nvs ns w.1 w.2 with
      | (.ok, nvs) => runWrites ok ns (k + 1) ws nvs
      | (err, nvs) => (err, nvs)

theorem runWrites_append (ok : Nat → Bool) (ns : CStr) (k : Nat)
    (ws ws' : List (CStr × Nvs.Value LargeBlob)) (nvs : LargeStore) :
    runWrites ok ns k (ws ++ ws') nvs =
      match runWrites ok ns k ws nvs with
      | (.ok, nvs) => runWrites ok ns (k + ws.length) ws' nvs
      | (err, nvs) => (err, nvs) := by
  induction ws generalizing k nvs with
  | nil => rfl
  | cons w ws ih =>
      simp only [List.cons_append, runWrites]
      cases hw : nvsWrite ok k nvs ns w.1 w.2 with
      | mk err nvs' =>
          cases err with
          | ok =>
              simp only [ih, List.length_cons]
              rw [Nat.add_assoc k 1, Nat.add_comm 1]
          | _ => rfl

theorem writeChunks_eq_runWrites (ok : Nat → Bool) (ns key value : CStr) (i k : Nat)
    (hk : i + k ≤ chunkCount maxChunkSize value) (nvs : LargeStore) :
    writeChunks ok ns key value (List.range' i k) nvs =
      runWrites ok ns i ((List.range' i k).map
        (fun i => (generateChunkKey key i, .str (chunk maxChunkSize value i)))) nvs := by
  induction k generalizing i nvs with
  | zero => rfl
  | succ k ih =>
      simp only [List.range'_succ, List.map_cons, writeChunks, runWrites,
        substring_eq_chunk (show i < chunkCount maxChunkSize value by omega), Option.getD_some]
      split
      · exact ih (i + 1) (by omega) _
      · rfl

theorem nvsWriteStringLarge_eq_runWrites (ok : Nat → Bool) (nvs : LargeStore)
    (ns key value : CStr) :
    nvsWriteStringLarge ok nvs ns key value =
      runWrites ok ns 0 (writesOf key value) nvs := by
  rw [writesOf, runWrites_append, nvsWriteStringLarge, List.range_eq_range',
    writeChunks_eq_runWrites ok ns key value 0 _ (by omega)]
  simp only [List.length_map, List.length_range', Nat.zero_add, runWrites]
  split
  · split
    · split
      · next h => rw [h]
      · next h => rw [h]
    · rfl
  · rfl

end NvsLarge
