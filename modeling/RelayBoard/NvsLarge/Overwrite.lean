import RelayBoard.NvsLarge.StringLarge

/-! # Overwriting a Large String

  `nvs_write_string_large` writes the chunks of the new string over those of
  the old one before it touches the metadata. The file determines for which
  pairs of strings a reader can never see a mixture, whatever NVS write
  fails or is the last before a power loss.
-/

open CString Chunk

namespace NvsLarge

/-! ### Prefixes of the Writes -/

theorem nvsWrite_ok_of_le {ok : Nat → Bool} {k : Nat} {nvs : LargeStore} {ns key : CStr}
    {value : Nvs.Value LargeBlob} (hkey : key.length ≤ Nvs.keyMaxLength) (hok : ok k = true) :
    nvsWrite ok k nvs ns key value = (.ok, Nvs.set nvs ns key value) := by
  rw [nvsWrite, if_neg (by omega), if_pos hok]

/-- A write either succeeds or leaves the store as it was. -/
theorem nvsWrite_cases (ok : Nat → Bool) (k : Nat) (nvs : LargeStore) (ns key : CStr)
    (value : Nvs.Value LargeBlob) :
    nvsWrite ok k nvs ns key value = (.ok, Nvs.set nvs ns key value) ∨
      ∃ err, err ≠ .ok ∧ nvsWrite ok k nvs ns key value = (err, nvs) := by
  unfold nvsWrite
  split
  · exact Or.inr ⟨_, by simp, rfl⟩
  · split
    · exact Or.inl rfl
    · exact Or.inr ⟨_, by simp, rfl⟩

/-- Whatever fails, the store has seen some of the first writes. -/
theorem runWrites_prefix (ok : Nat → Bool) (ns : CStr) (k : Nat)
    (ws : List (CStr × Nvs.Value LargeBlob)) (nvs : LargeStore) :
    ∃ j ≤ ws.length, (runWrites ok ns k ws nvs).2 = Nvs.setAll nvs ns (ws.take j) ∧
      ((runWrites ok ns k ws nvs).1 = .ok → j = ws.length) := by
  induction ws generalizing k nvs with
  | nil => exact ⟨0, by simp, rfl, fun _ => rfl⟩
  | cons w ws ih =>
      rcases nvsWrite_cases ok k nvs ns w.1 w.2 with hw | ⟨err, herr, hw⟩
      · obtain ⟨j, hj, hst, hok⟩ := ih (k + 1) (Nvs.set nvs ns w.1 w.2)
        refine ⟨j + 1, by simpa using hj, ?_, ?_⟩
        · simp only [runWrites, hw, hst, List.take_succ_cons, Nvs.setAll_cons]
        · intro h
          simp only [runWrites, hw] at h
          simp [hok h]
      · refine ⟨0, by simp, ?_, ?_⟩
        · cases err <;> simp_all [runWrites]
        · intro h
          cases err <;> simp_all [runWrites]

/-- Without a failure all writes are made. -/
theorem runWrites_all {ns : CStr} {ws : List (CStr × Nvs.Value LargeBlob)}
    (hkeys : ∀ w ∈ ws, w.1.length ≤ Nvs.keyMaxLength) (k : Nat) (nvs : LargeStore) :
    runWrites (fun _ => true) ns k ws nvs = (.ok, Nvs.setAll nvs ns ws) := by
  induction ws generalizing k nvs with
  | nil => rfl
  | cons w ws ih =>
      have hw : nvsWrite (fun _ => true) k nvs ns w.1 w.2 = (.ok, Nvs.set nvs ns w.1 w.2) :=
        nvsWrite_ok_of_le (hkeys w (by simp)) rfl
      simp only [runWrites, hw]
      exact ih (fun w' hw' => hkeys w' (by simp [hw'])) (k + 1) _

/-- A failure after `j` writes leaves exactly those. -/
theorem runWrites_stop {ns : CStr} {ws : List (CStr × Nvs.Value LargeBlob)}
    (hkeys : ∀ w ∈ ws, w.1.length ≤ Nvs.keyMaxLength) (j : Nat) (k : Nat) (nvs : LargeStore) :
    (runWrites (fun i => i < k + j) ns k ws nvs).2 = Nvs.setAll nvs ns (ws.take j) := by
  induction ws generalizing j k nvs with
  | nil => simp [runWrites]
  | cons w ws ih =>
      cases j with
      | zero =>
          have hlen := hkeys w (by simp)
          simp [runWrites, nvsWrite, Nat.not_lt.mpr hlen]
      | succ j =>
          have hw : nvsWrite (fun i => i < k + (j + 1)) k nvs ns w.1 w.2 =
              (.ok, Nvs.set nvs ns w.1 w.2) :=
            nvsWrite_ok_of_le (hkeys w (by simp)) (by simp)
          simp only [runWrites, hw, List.take_succ_cons, Nvs.setAll_cons]
          rw [← ih (fun w' hw' => hkeys w' (by simp [hw'])) j (k + 1)]
          simp only [Nat.add_assoc, Nat.add_comm 1 j]

theorem length_le_of_mem_writesOf {key value : CStr}
    (hkey : (chunkMetaKey key).length ≤ Nvs.keyMaxLength) :
    ∀ w ∈ writesOf key value, w.1.length ≤ Nvs.keyMaxLength := by
  have hmeta : (chunkMetaKey key).length = key.length + 2 := by simp [chunkMetaKey]
  have hmax : Nvs.keyMaxLength = 15 := rfl
  intro w hw
  simp only [writesOf, List.mem_append, List.mem_map, List.mem_cons, List.not_mem_nil,
    or_false] at hw
  rcases hw with ⟨i, _, rfl⟩ | rfl | rfl
  · have := length_generateChunkKey_le key i
    show (generateChunkKey key i).length ≤ _
    omega
  · show key.length ≤ _
    omega
  · exact hkey

/-- With room for the suffix of the metadata key and no failure, the string is
    written. -/
theorem nvsWriteStringLarge_all {key : CStr} (hkey : key.length ≤ 13) (nvs : LargeStore)
    (ns value : CStr) :
    nvsWriteStringLarge (fun _ => true) nvs ns key value =
      (.ok, Nvs.setAll nvs ns (writesOf key value)) := by
  have hlen : (chunkMetaKey key).length ≤ Nvs.keyMaxLength := by
    have hmeta : (chunkMetaKey key).length = key.length + 2 := by simp [chunkMetaKey]
    have hmax : Nvs.keyMaxLength = 15 := rfl
    omega
  rw [nvsWriteStringLarge_eq_runWrites]
  exact runWrites_all (length_le_of_mem_writesOf hlen) 0 nvs

/-- Writes that all succeeded had keys that are not too long. -/
theorem length_le_of_runWrites_ok {ok : Nat → Bool} {ns : CStr} {k : Nat}
    {ws : List (CStr × Nvs.Value LargeBlob)} {nvs : LargeStore}
    (h : (runWrites ok ns k ws nvs).1 = .ok) : ∀ w ∈ ws, w.1.length ≤ Nvs.keyMaxLength := by
  induction ws generalizing k nvs with
  | nil => simp
  | cons w ws ih =>
      by_cases hlen : Nvs.keyMaxLength < w.1.length
      · simp [runWrites, nvsWrite, hlen] at h
      · cases hok : ok k with
        | false => simp [runWrites, nvsWrite, hlen, hok] at h
        | true =>
            simp only [runWrites, nvsWrite, if_neg hlen, hok, if_pos] at h
            intro w' hw'
            rcases List.mem_cons.mp hw' with rfl | hw'
            · omega
            · exact ih h w' hw'

/-- A write that returned `ESP_OK` has made all its NVS writes, and its key
    leaves room for the suffix of the metadata key. -/
theorem nvsWriteStringLarge_ok {ok : Nat → Bool} {nvs nvs' : LargeStore} {ns key value : CStr}
    (h : nvsWriteStringLarge ok nvs ns key value = (.ok, nvs')) :
    nvs' = Nvs.setAll nvs ns (writesOf key value) ∧ key.length ≤ 13 := by
  rw [nvsWriteStringLarge_eq_runWrites] at h
  constructor
  · obtain ⟨j, _, hst, hok⟩ := runWrites_prefix ok ns 0 (writesOf key value) nvs
    rw [h] at hst hok
    rw [hok rfl, List.take_length] at hst
    exact hst
  · have hlen := length_le_of_runWrites_ok (by rw [h])
      (chunkMetaKey key, .blob (.chunkMeta (chunkMetaArrayOf key value))) (by simp [writesOf])
    have hmeta : (chunkMetaKey key).length = key.length + 2 := by simp [chunkMetaKey]
    have hmax : Nvs.keyMaxLength = 15 := rfl
    simp only at hlen
    omega

/-! ### What a Reader Sees -/

/-- Reading past records whose keys hold strings appends these strings. -/
theorem readChunks_append {nvs : LargeStore} {ns : CStr} {record : Nat → ChunkMeta}
    (content : Nat → CStr) (is : List Nat) (rest : List (Option ChunkMeta))
    (outValue : Option CStr)
    (hstored : ∀ i ∈ is, nvs ns (record i).key = some (.str (content i))) :
    readChunks nvs ns (is.map (fun i => some (record i)) ++ rest) outValue =
      readChunks nvs ns rest
        (if is = [] then outValue else some (outValue.getD [] ++ is.flatMap content)) := by
  induction is generalizing outValue with
  | nil => rfl
  | cons i is ih =>
      have hread : Nvs.readString nvs ns (record i).key = .ok (content i) := by
        simp [Nvs.readString, hstored i (by simp)]
      simp only [List.map_cons, List.cons_append, readChunks, hread]
      rw [ih _ (fun i' hi' => hstored i' (by simp [hi']))]
      by_cases hnil : is = []
      · simp [hnil]
      · simp [hnil, List.append_assoc]

/-- The record `nvs_write_string_large` writes for chunk `i`. -/
def chunkRecord (key value : CStr) (i : Nat) : ChunkMeta :=
  ⟨i, generateChunkKey key i, (chunk maxChunkSize value i).length⟩

/-- A buffer of `count` records filled from the records of a value. -/
theorem filledBuffer_eq (key value : CStr) {count : Nat}
    (h : chunkCount maxChunkSize value ≤ count) :
    ((List.range count).map fun i => (chunkMetaArrayOf key value)[i]?) =
      (List.range (chunkCount maxChunkSize value)).map (fun i => some (chunkRecord key value i)) ++
        List.replicate (count - chunkCount maxChunkSize value) none := by
  have hget : ∀ i, (chunkMetaArrayOf key value)[i]? =
      if i < chunkCount maxChunkSize value then some (chunkRecord key value i) else none := by
    intro i
    by_cases hi : i < chunkCount maxChunkSize value
    · simp [chunkMetaArrayOf, chunkRecord, hi]
    · simp [chunkMetaArrayOf, hi]
  apply List.ext_getElem?
  intro i
  by_cases hi : i < chunkCount maxChunkSize value
  · rw [List.getElem?_append_left (by simpa using hi)]
    simp [hget, hi, show i < count by omega]
  · rw [List.getElem?_append_right (by simpa using hi)]
    by_cases hc : i < count
    · simp [hget, hi, hc, List.getElem?_replicate]
      omega
    · simp [hc, List.getElem?_replicate]
      omega

/-- The metadata of one string over the chunk records of another. -/
structure Described (nvs : LargeStore) (ns key metaValue chunkValue : CStr) : Prop where
  strMeta : nvs ns key = some (.blob (.stringMeta (stringMetaOf key metaValue)))
  chunkMeta : nvs ns (chunkMetaKey key) =
    some (.blob (.chunkMeta (chunkMetaArrayOf key chunkValue)))

/-- Fewer chunks than records: the blob does not fit its buffer. -/
theorem Described.read_error {nvs : LargeStore} {ns key metaValue chunkValue : CStr}
    (h : Described nvs ns key metaValue chunkValue)
    (hlt : chunkCount maxChunkSize metaValue < chunkCount maxChunkSize chunkValue) :
    nvsReadStringLarge nvs ns key = .error .nvsInvalidLength := by
  have hlen : (chunkMetaArrayOf key chunkValue).length = chunkCount maxChunkSize chunkValue := by
    simp [chunkMetaArrayOf]
  simp only [nvsReadStringLarge, Nvs.readBlob, h.strMeta, stringMetaOf, h.chunkMeta]
  rw [if_pos (by omega)]

/-- Otherwise the chunks of the records are read one after the other. -/
theorem Described.read {nvs : LargeStore} {ns key metaValue chunkValue : CStr}
    (h : Described nvs ns key metaValue chunkValue)
    (content : Nat → CStr)
    (hle : chunkCount maxChunkSize chunkValue ≤ chunkCount maxChunkSize metaValue)
    (hstored : ∀ i < chunkCount maxChunkSize chunkValue,
      nvs ns (generateChunkKey key i) = some (.str (content i))) :
    nvsReadStringLarge nvs ns key =
      if chunkCount maxChunkSize chunkValue = chunkCount maxChunkSize metaValue then
        .ok (if chunkValue = [] then none
          else some ((List.range (chunkCount maxChunkSize chunkValue)).flatMap content))
      else .undefined := by
  have hlen : (chunkMetaArrayOf key chunkValue).length = chunkCount maxChunkSize chunkValue := by
    simp [chunkMetaArrayOf]
  have hnil := chunkCount_eq_zero_iff maxChunkSize_pos chunkValue
  simp only [nvsReadStringLarge, Nvs.readBlob, h.strMeta, stringMetaOf, h.chunkMeta]
  rw [if_neg (by omega), filledBuffer_eq key chunkValue hle,
    readChunks_append content _ _ _
      (fun i hi => hstored i (List.mem_range.mp hi))]
  -- a record the blob did not fill has no key to read from
  by_cases heq : chunkCount maxChunkSize chunkValue = chunkCount maxChunkSize metaValue
  · rw [if_pos heq, heq, Nat.sub_self, List.replicate_zero, readChunks, ← heq]
    by_cases hv : chunkValue = []
    · rw [if_pos hv, if_pos (by rw [hnil.mpr hv]; rfl)]
    · have hpos : chunkCount maxChunkSize chunkValue ≠ 0 := fun h0 => hv (hnil.mp h0)
      rw [if_neg hv, if_neg (by simpa using hpos)]
      rfl
  · obtain ⟨d, hd⟩ : ∃ d, chunkCount maxChunkSize metaValue -
        chunkCount maxChunkSize chunkValue = d + 1 := ⟨_, (Nat.succ_pred (by omega)).symm⟩
    rw [if_neg heq, hd, List.replicate_succ, readChunks]

/-! ### The Stores in Between -/

/-- The keys of the first `n` chunks are pairwise distinct: none of them has
    been cut to another. -/
def ChunkKeysDistinct (key : CStr) (n : Nat) : Prop :=
  ∀ i j, i < n → j < n → generateChunkKey key i = generateChunkKey key j → i = j

/-- The writes of the first `j` chunks. -/
def chunkWrites (key value : CStr) (j : Nat) : List (CStr × Nvs.Value LargeBlob) :=
  (List.range j).map fun i => (generateChunkKey key i, .str (chunk maxChunkSize value i))

theorem take_writesOf_of_le {key value : CStr} {j : Nat}
    (hj : j ≤ chunkCount maxChunkSize value) :
    (writesOf key value).take j = chunkWrites key value j := by
  rw [writesOf, List.take_append_of_le_length (by simpa using hj), ← List.map_take,
    List.take_range, Nat.min_eq_left hj, chunkWrites]

theorem take_writesOf_succ (key value : CStr) :
    (writesOf key value).take (chunkCount maxChunkSize value + 1) =
      chunkWrites key value (chunkCount maxChunkSize value) ++
        [(key, .blob (.stringMeta (stringMetaOf key value)))] := by
  rw [writesOf, List.take_append, List.take_of_length_le (by simp)]
  simp [chunkWrites]

theorem writesOf_eq (key value : CStr) :
    writesOf key value = (writesOf key value).take (chunkCount maxChunkSize value + 1) ++
      [(chunkMetaKey key, .blob (.chunkMeta (chunkMetaArrayOf key value)))] := by
  rw [take_writesOf_succ, writesOf, chunkWrites]
  simp

/-- Keys that fit with all their digits are distinct. -/
theorem chunkKeysDistinct_of_fits {key : CStr} {n : Nat}
    (hfit : ∀ i < n, key.length + 1 + (decimal (i : Int)).length ≤ 14) :
    ChunkKeysDistinct key n := by
  have huncut : ∀ i < n, generateChunkKey key i = key ++ '_' :: decimal (i : Int) := by
    intro i hi
    have := hfit i hi
    apply snprintf_of_lt
    simp only [List.length_append, List.length_cons]
    omega
  intro i j hi hj heq
  rw [huncut i hi, huncut j hj] at heq
  have htail := List.append_cancel_left heq
  exact decimal_natCast_injective (List.tail_eq_of_cons_eq htail)

section stores
variable (nvs : LargeStore) (ns : CStr) {key : CStr} (value : CStr)

/-- Chunk writes leave the metadata alone. -/
theorem setAll_chunkWrites_metadata (hkey : key.length ≤ 13) (j : Nat) :
    Nvs.setAll nvs ns (chunkWrites key value j) ns key = nvs ns key ∧
      Nvs.setAll nvs ns (chunkWrites key value j) ns (chunkMetaKey key) =
        nvs ns (chunkMetaKey key) := by
  constructor
  · apply Nvs.setAll_of_not_mem
    intro w hw
    obtain ⟨i, _, rfl⟩ := List.mem_map.mp hw
    exact generateChunkKey_ne_key hkey i
  · apply Nvs.setAll_of_not_mem
    intro w hw
    obtain ⟨i, _, rfl⟩ := List.mem_map.mp hw
    exact generateChunkKey_ne_chunkMetaKey hkey i

/-- What all but the last write of `value` leave. -/
theorem setAll_take_succ (hkey : key.length ≤ 13) :
    let nvs' := Nvs.setAll nvs ns
      ((writesOf key value).take (chunkCount maxChunkSize value + 1))
    nvs' ns key = some (.blob (.stringMeta (stringMetaOf key value))) ∧
      nvs' ns (chunkMetaKey key) = nvs ns (chunkMetaKey key) ∧
      ∀ i, nvs' ns (generateChunkKey key i) =
        Nvs.setAll nvs ns (chunkWrites key value (chunkCount maxChunkSize value)) ns
          (generateChunkKey key i) := by
  intro nvs'
  have hst : nvs' = Nvs.set
      (Nvs.setAll nvs ns (chunkWrites key value (chunkCount maxChunkSize value))) ns key
      (.blob (.stringMeta (stringMetaOf key value))) := by
    simp only [nvs', take_writesOf_succ, Nvs.setAll_append, Nvs.setAll_cons, Nvs.setAll_nil]
  rw [hst]
  refine ⟨Nvs.set_self _ _ _ _, ?_, ?_⟩
  · rw [Nvs.set_ne _ _ _ _ _ (chunkMetaKey_ne_key key)]
    exact (setAll_chunkWrites_metadata nvs ns value hkey _).2
  · intro i
    exact Nvs.set_ne _ _ _ _ _ (generateChunkKey_ne_key hkey i)

/-- What the whole write of `value` leaves. -/
theorem setAll_writesOf (hkey : key.length ≤ 13) :
    Described (Nvs.setAll nvs ns (writesOf key value)) ns key value value ∧
      ∀ i, Nvs.setAll nvs ns (writesOf key value) ns (generateChunkKey key i) =
        Nvs.setAll nvs ns (chunkWrites key value (chunkCount maxChunkSize value)) ns
          (generateChunkKey key i) := by
  obtain ⟨hmeta, _, hchunks⟩ := setAll_take_succ nvs ns value hkey
  rw [writesOf_eq, Nvs.setAll_append, Nvs.setAll_cons, Nvs.setAll_nil]
  refine ⟨⟨?_, Nvs.set_self _ _ _ _⟩, ?_⟩
  · rw [Nvs.set_ne _ _ _ _ _ (chunkMetaKey_ne_key key).symm]
    exact hmeta
  · intro i
    rw [Nvs.set_ne _ _ _ _ _ (generateChunkKey_ne_chunkMetaKey hkey i)]
    exact hchunks i

/-- Under distinct keys, the first `j` chunk writes replace the first `j` chunks. -/
theorem setAll_chunkWrites_chunk {n j i : Nat} (hdist : ChunkKeysDistinct key n) (hj : j ≤ n)
    (hi : i < n) :
    Nvs.setAll nvs ns (chunkWrites key value j) ns (generateChunkKey key i) =
      if i < j then some (.str (chunk maxChunkSize value i))
      else nvs ns (generateChunkKey key i) :=
  Nvs.setAll_range hdist hj hi

/-- A string under a chunk key stays a string under further chunk writes. -/
theorem setAll_chunkWrites_str {k : CStr} (hstr : ∃ s, nvs ns k = some (.str s)) (j : Nat) :
    ∃ s, Nvs.setAll nvs ns (chunkWrites key value j) ns k = some (.str s) := by
  induction j with
  | zero => exact hstr
  | succ j ih =>
      rw [chunkWrites, List.range_succ, List.map_append, Nvs.setAll_append]
      show ∃ s, Nvs.set _ ns (generateChunkKey key j) _ ns k = _
      rw [Nvs.set_apply]
      split
      · exact ⟨_, rfl⟩
      · exact ih

/-- The chunks of a completely written string with distinct keys. -/
theorem setAll_writesOf_chunk (hkey : key.length ≤ 13)
    (hdist : ChunkKeysDistinct key (chunkCount maxChunkSize value)) {i : Nat}
    (hi : i < chunkCount maxChunkSize value) :
    Nvs.setAll nvs ns (writesOf key value) ns (generateChunkKey key i) =
      some (.str (chunk maxChunkSize value i)) := by
  rw [(setAll_writesOf nvs ns value hkey).2 i,
    setAll_chunkWrites_chunk nvs ns value hdist (Nat.le_refl _) hi, if_pos hi]

/-- With distinct chunk keys the string that was written is read. -/
theorem read_setAll_writesOf (hkey : key.length ≤ 13)
    (hdist : ChunkKeysDistinct key (chunkCount maxChunkSize value)) :
    nvsReadStringLarge (Nvs.setAll nvs ns (writesOf key value)) ns key =
      .ok (if value = [] then none else some value) := by
  have hdesc := (setAll_writesOf nvs ns value hkey).1
  rw [hdesc.read (chunk maxChunkSize value) (Nat.le_refl _), if_pos rfl,
    flatMap_chunk maxChunkSize_pos]
  intro i hi
  exact setAll_writesOf_chunk nvs ns value hkey hdist hi

end stores

/-! ### Readers of an Interrupted Overwrite -/

/-- The store after the first `j` writes of `new` over a completely written `old`. -/
def interrupted (nvs : LargeStore) (ns key old new : CStr) (j : Nat) : LargeStore :=
  Nvs.setAll (Nvs.setAll nvs ns (writesOf key old)) ns ((writesOf key new).take j)

section readers
variable (nvs : LargeStore) (ns : CStr) {key : CStr} (old new : CStr)

/-- While the chunks are written, a reader sees the splice. -/
theorem read_interrupted_chunks (hkey : key.length ≤ 13)
    (hdist : ChunkKeysDistinct key (chunkCount maxChunkSize old)) {j : Nat}
    (hj : j ≤ chunkCount maxChunkSize new) (hle : j ≤ chunkCount maxChunkSize old) :
    nvsReadStringLarge (interrupted nvs ns key old new j) ns key =
      .ok (if old = [] then none else some (splice maxChunkSize j new old)) := by
  have hold := (setAll_writesOf nvs ns old hkey).1
  have hmeta := setAll_chunkWrites_metadata (Nvs.setAll nvs ns (writesOf key old)) ns new hkey j
  have hdesc : Described (interrupted nvs ns key old new j) ns key old old := by
    unfold interrupted
    rw [take_writesOf_of_le hj]
    exact ⟨hmeta.1.trans hold.strMeta, hmeta.2.trans hold.chunkMeta⟩
  rw [hdesc.read (fun i => if i < j then chunk maxChunkSize new i else chunk maxChunkSize old i)
    (Nat.le_refl _), if_pos rfl, flatMap_ite_chunk maxChunkSize_pos new old hle]
  intro i hi
  unfold interrupted
  rw [take_writesOf_of_le hj, setAll_chunkWrites_chunk _ ns new hdist hle hi]
  by_cases hij : i < j
  · rw [if_pos hij, if_pos hij]
  · rw [if_neg hij, if_neg hij, setAll_writesOf_chunk nvs ns old hkey hdist hi]

/-- Between the two metadata writes, the new count meets the old records. -/
theorem described_interrupted_succ (hkey : key.length ≤ 13) :
    Described (interrupted nvs ns key old new (chunkCount maxChunkSize new + 1)) ns key
      new old := by
  obtain ⟨hmeta, hrec, _⟩ := setAll_take_succ (Nvs.setAll nvs ns (writesOf key old)) ns new hkey
  exact ⟨hmeta, hrec.trans (setAll_writesOf nvs ns old hkey).1.chunkMeta⟩

/-- Fewer new chunks: a reader between the metadata writes gets an error. -/
theorem read_interrupted_shorter (hkey : key.length ≤ 13)
    (hlt : chunkCount maxChunkSize new < chunkCount maxChunkSize old) :
    nvsReadStringLarge (interrupted nvs ns key old new (chunkCount maxChunkSize new + 1)) ns
      key = .error .nvsInvalidLength :=
  (described_interrupted_succ nvs ns old new hkey).read_error hlt

/-- As many new chunks: it sees the new string. -/
theorem read_interrupted_same (hkey : key.length ≤ 13)
    (hdist : ChunkKeysDistinct key (chunkCount maxChunkSize old))
    (heq : chunkCount maxChunkSize new = chunkCount maxChunkSize old) :
    nvsReadStringLarge (interrupted nvs ns key old new (chunkCount maxChunkSize new + 1)) ns
      key = .ok (if old = [] then none else some new) := by
  have hdesc := described_interrupted_succ nvs ns old new hkey
  rw [hdesc.read (chunk maxChunkSize new) (by omega), if_pos heq.symm, ← heq,
    flatMap_chunk maxChunkSize_pos]
  intro i hi
  obtain ⟨_, _, hchunks⟩ := setAll_take_succ (Nvs.setAll nvs ns (writesOf key old)) ns new hkey
  rw [interrupted, hchunks i, setAll_chunkWrites_chunk _ ns new hdist (by omega) hi,
    if_pos (by omega)]

/-- More new chunks: it uses a record that was never written. -/
theorem read_interrupted_longer (hkey : key.length ≤ 13)
    (hdist : ChunkKeysDistinct key (chunkCount maxChunkSize old))
    (hlt : chunkCount maxChunkSize old < chunkCount maxChunkSize new) :
    nvsReadStringLarge (interrupted nvs ns key old new (chunkCount maxChunkSize new + 1)) ns
      key = .undefined := by
  have hdesc := described_interrupted_succ nvs ns old new hkey
  obtain ⟨_, _, hchunks⟩ := setAll_take_succ (Nvs.setAll nvs ns (writesOf key old)) ns new hkey
  have hstr : ∀ i < chunkCount maxChunkSize old, ∃ s,
      interrupted nvs ns key old new (chunkCount maxChunkSize new + 1) ns
        (generateChunkKey key i) = some (.str s) := by
    intro i hi
    rw [interrupted, hchunks i]
    exact setAll_chunkWrites_str _ ns new ⟨_, setAll_writesOf_chunk nvs ns old hkey hdist hi⟩ _
  choose! content hcontent using hstr
  rw [hdesc.read content (by omega) hcontent, if_neg (by omega)]

/-- After all writes, the new string is there. -/
theorem read_interrupted_all (hkey : key.length ≤ 13)
    (hdist : ChunkKeysDistinct key (chunkCount maxChunkSize new)) :
    nvsReadStringLarge (interrupted nvs ns key old new (writesOf key new).length) ns key =
      .ok (if new = [] then none else some new) := by
  rw [interrupted, List.take_length]
  exact read_setAll_writesOf _ ns new hkey hdist

end readers

/-! ### Main Theorem -/

/-- After any interruption of an overwrite, a reader gets an error, the old
    string, or the new one. -/
def AllOrNothing (nvs : LargeStore) (ns key old new : CStr) : Prop :=
  ∀ (ok₀ : Nat → Bool) (nvs₀ : LargeStore),
    nvsWriteStringLarge ok₀ nvs ns key old = (.ok, nvs₀) →
    ∀ (ok₁ : Nat → Bool),
      let result := nvsReadStringLarge (nvsWriteStringLarge ok₁ nvs₀ ns key new).2 ns key
      (∃ err, result = .error err) ∨ result = .ok (some old) ∨ result = .ok (some new)

/-- Neither string is empty, no chunk key of the old one is cut to another, and
    the new one differs from it in at most one of equally many chunks, or is a
    shorter number of its whole chunks. -/
def OverwriteSafe (key old new : CStr) : Prop :=
  old ≠ [] ∧ new ≠ [] ∧ ChunkKeysDistinct key (chunkCount maxChunkSize old) ∧
    (chunkCount maxChunkSize new = chunkCount maxChunkSize old ∧
        DifferInOne maxChunkSize new old ∨
      chunkCount maxChunkSize new < chunkCount maxChunkSize old ∧
        new = old.take (chunkCount maxChunkSize new * maxChunkSize))

/-- What `AllOrNothing` asks of one interrupted store. -/
def ReadsOne (nvs : LargeStore) (ns key old new : CStr) : Prop :=
  (∃ err, nvsReadStringLarge nvs ns key = .error err) ∨
    nvsReadStringLarge nvs ns key = .ok (some old) ∨
    nvsReadStringLarge nvs ns key = .ok (some new)

/-- It is enough to look at the stores after a number of writes. -/
theorem allOrNothing_of_interrupted {nvs : LargeStore} {ns key old new : CStr}
    (h : key.length ≤ 13 → ∀ j ≤ chunkCount maxChunkSize new + 2,
      ReadsOne (interrupted nvs ns key old new j) ns key old new) :
    AllOrNothing nvs ns key old new := by
  intro ok₀ nvs₀ hold ok₁
  obtain ⟨hnvs₀, hkey⟩ := nvsWriteStringLarge_ok hold
  obtain ⟨j, hj, hst, _⟩ := runWrites_prefix ok₁ ns 0 (writesOf key new) nvs₀
  rw [length_writesOf] at hj
  rw [nvsWriteStringLarge_eq_runWrites, hst, hnvs₀]
  exact h hkey j hj

theorem readsOne_of_allOrNothing {nvs : LargeStore} {ns key old new : CStr}
    (hkey : key.length ≤ 13) (h : AllOrNothing nvs ns key old new) (j : Nat) :
    ReadsOne (interrupted nvs ns key old new j) ns key old new := by
  have hlen : (chunkMetaKey key).length ≤ Nvs.keyMaxLength := by
    have hmax : Nvs.keyMaxLength = 15 := rfl
    simp only [chunkMetaKey, List.length_append, String.length_toList, hmax]
    have : "_M".length = 2 := by decide
    omega
  have hstop : ∀ nvs', (runWrites (fun i => i < 0 + j) ns 0 (writesOf key new) nvs').2 =
      Nvs.setAll nvs' ns ((writesOf key new).take j) :=
    runWrites_stop (length_le_of_mem_writesOf hlen) j 0
  have := h _ _ (nvsWriteStringLarge_all hkey nvs ns old) (fun i => i < 0 + j)
  rw [nvsWriteStringLarge_eq_runWrites, hstop] at this
  exact this

theorem readsOne_of_safe {nvs : LargeStore} {ns key old new : CStr} (hkey : key.length ≤ 13)
    (hsafe : OverwriteSafe key old new) {j : Nat} (hj : j ≤ chunkCount maxChunkSize new + 2) :
    ReadsOne (interrupted nvs ns key old new j) ns key old new := by
  obtain ⟨hold, hnew, hdist, hshape⟩ := hsafe
  -- both shapes write no more chunks than there were
  have hle : chunkCount maxChunkSize new ≤ chunkCount maxChunkSize old := by
    rcases hshape with ⟨h, _⟩ | ⟨h, _⟩ <;> omega
  rcases Nat.lt_or_ge (chunkCount maxChunkSize new) j with hlt | hchunks
  · -- all chunks are written; the metadata or everything is
    by_cases hall : j = chunkCount maxChunkSize new + 2
    · have hread := read_interrupted_all nvs ns old new hkey
        (fun i k hi hk => hdist i k (by omega) (by omega))
      rw [length_writesOf, ← hall, if_neg hnew] at hread
      exact Or.inr (Or.inr hread)
    · have hj' : j = chunkCount maxChunkSize new + 1 := by omega
      rw [hj']
      rcases hshape with ⟨heq, _⟩ | ⟨hshort, _⟩
      · have hread := read_interrupted_same nvs ns old new hkey hdist heq
        rw [if_neg hold] at hread
        exact Or.inr (Or.inr hread)
      · exact Or.inl ⟨_, read_interrupted_shorter nvs ns old new hkey hshort⟩
  · have hread := read_interrupted_chunks nvs ns old new hkey hdist hchunks (by omega)
    rw [if_neg hold] at hread
    rcases hshape with ⟨_, hone⟩ | ⟨_, hpre⟩
    · -- equally long: the splice is one of the two values
      rcases (forall_splice_iff maxChunkSize_pos new old).mpr hone j with h | h
      · exact Or.inr (Or.inl (by rw [hread, h]))
      · exact Or.inr (Or.inr (by rw [hread, h]))
    · -- shorter: what has been written so far was there before
      have htake : new.take (j * maxChunkSize) = old.take (j * maxChunkSize) := by
        rw [hpre, List.take_take, Nat.min_eq_left (Nat.mul_le_mul_right _ hchunks)]
      exact Or.inr (Or.inl (by rw [hread, splice_eq_old_iff.mpr htake]))

theorem safe_of_readsOne {nvs : LargeStore} {ns key old new : CStr} (hkey : key.length ≤ 13)
    (hdist : ChunkKeysDistinct key (chunkCount maxChunkSize old))
    (h : ∀ j, ReadsOne (interrupted nvs ns key old new j) ns key old new) :
    OverwriteSafe key old new := by
  -- each conjunct is read off one interruption: here, before the first write
  have hold : old ≠ [] := by
    intro hnil
    have hread := read_interrupted_chunks nvs ns old new hkey hdist
      (Nat.zero_le _) (Nat.zero_le _)
    rw [if_pos hnil] at hread
    rcases h 0 with ⟨err, h⟩ | h | h <;> simp [hread] at h
  -- here, after the chunks and the string metadata
  have hle : chunkCount maxChunkSize new ≤ chunkCount maxChunkSize old := by
    by_contra hlt
    have hread := read_interrupted_longer nvs ns old new hkey hdist
      (by omega)
    rcases h (chunkCount maxChunkSize new + 1) with ⟨err, h⟩ | h | h <;> simp [hread] at h
  -- here, after the last write
  have hnew : new ≠ [] := by
    intro hnil
    have hread := read_interrupted_all nvs ns old new hkey
      (fun i k hi hk => hdist i k (by omega) (by omega))
    rw [if_pos hnil] at hread
    rcases h (writesOf key new).length with ⟨err, h⟩ | h | h <;> simp [hread] at h
  -- and here, between two chunks
  have hsplice : ∀ j ≤ chunkCount maxChunkSize new,
      splice maxChunkSize j new old = old ∨ splice maxChunkSize j new old = new := by
    intro j hj
    have hread := read_interrupted_chunks nvs ns old new hkey hdist hj (by omega)
    rw [if_neg hold] at hread
    rcases h j with ⟨err, h⟩ | h | h <;> simp [hread] at h
    · exact Or.inl h
    · exact Or.inr h
  have hall := List.take_of_length_le (length_le_chunkCount_mul maxChunkSize_pos new)
  refine ⟨hold, hnew, hdist, ?_⟩
  rcases Nat.lt_or_eq_of_le hle with hlt | heq
  · refine Or.inr ⟨hlt, ?_⟩
    -- all chunks written and chunks of `old` left: the tail of `old` cannot vanish
    rcases hsplice _ (Nat.le_refl _) with h | h
    · rw [← splice_eq_old_iff.mp h, hall]
    · have hdrop := splice_eq_new_iff.mp h
      have hlen := (lt_chunkCount_iff maxChunkSize_pos old _).mp hlt
      have hlen' := length_le_chunkCount_mul maxChunkSize_pos new
      have := congrArg List.length hdrop
      rw [List.length_drop, List.length_drop] at this
      omega
  · refine Or.inl ⟨heq, (forall_splice_iff maxChunkSize_pos new old).mp ?_⟩
    intro j
    by_cases hj : j ≤ chunkCount maxChunkSize new
    · exact hsplice j hj
    · -- past the last chunk the splice is `new` itself
      have hmul : chunkCount maxChunkSize new * maxChunkSize ≤ j * maxChunkSize :=
        Nat.mul_le_mul_right _ (by omega)
      have hlen := length_le_chunkCount_mul maxChunkSize_pos new
      have hlen' := length_le_chunkCount_mul maxChunkSize_pos old
      rw [← heq] at hlen'
      refine Or.inr (splice_eq_new_iff.mpr ?_)
      rw [List.drop_eq_nil_of_le (by omega), List.drop_eq_nil_of_le (by omega)]

/-- A safe overwrite is all-or-nothing for readers; where no chunk key of the old
    string is cut to another, no other overwrite is. -/
theorem overwrite_allOrNothing (nvs : LargeStore) (ns key old new : CStr) :
    (OverwriteSafe key old new → AllOrNothing nvs ns key old new) ∧
      (key.length ≤ 13 → ChunkKeysDistinct key (chunkCount maxChunkSize old) →
        AllOrNothing nvs ns key old new → OverwriteSafe key old new) := by
  constructor
  · intro hsafe
    exact allOrNothing_of_interrupted (fun hkey j hj => readsOne_of_safe hkey hsafe hj)
  · intro hkey hdist h
    exact safe_of_readsOne hkey hdist (readsOne_of_allOrNothing hkey h)

/-- One character over two chunks of another string: after the first chunk a
    reader sees the new character and the old second chunk. -/
theorem not_overwrite_allOrNothing :
    ¬ ∀ (nvs : LargeStore) (ns key old new : CStr), AllOrNothing nvs ns key old new := by
  intro h
  have hold : chunkCount maxChunkSize (List.replicate 1901 'a') = 2 := by
    rw [chunkCount, List.length_replicate]
    rfl
  have hdist : ChunkKeysDistinct "cert".toList
      (chunkCount maxChunkSize (List.replicate 1901 'a')) := by
    rw [hold]
    exact chunkKeysDistinct_of_fits (by decide)
  obtain ⟨_, _, _, hshape⟩ := safe_of_readsOne (by decide) hdist
    (readsOne_of_allOrNothing (by decide)
      (h Nvs.empty "settings".toList "cert".toList (List.replicate 1901 'a') ['b']))
  rw [hold] at hshape
  rcases hshape with ⟨hcount, _⟩ | ⟨_, hpre⟩
  · exact absurd hcount (by decide)
  · have hcount : chunkCount maxChunkSize ['b'] * maxChunkSize = 1900 := by decide
    rw [hcount, List.take_replicate] at hpre
    have hhead := congrArg List.head? hpre
    simp at hhead

end NvsLarge
