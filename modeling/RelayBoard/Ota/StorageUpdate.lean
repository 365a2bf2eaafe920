import RelayBoard.Framework.Filled
import RelayBoard.Platform.Esp

/-! # Storage Updates

  `download_and_update_spiffs_partition` of `main/settings.c` writes what it reads
  from an HTTP stream to the erased SPIFFS partition. The file determines for which
  sequences of reads an update that reports success has written the image.
-/

open Filled

namespace StorageUpdate

/-! ### The Partition -/

/-- The bytes of a partition or of an image. -/
abbrev Bytes : Type := List UInt8

/-- Erased flash. -/
def erased : UInt8 := 0xFF

/-- `esp_partition_erase_range` of a whole partition. -/
def eraseRange (spiffsPartition : Bytes) : Bytes :=
  List.replicate spiffsPartition.length erased

/-- `esp_partition_write` of a range inside the partition; others are refused. -/
def espPartitionWrite (spiffsPartition : Bytes) (dstOffset : Nat) (src : Bytes) :
    Except EspErr Bytes :=
  if spiffsPartition.length < dstOffset then .error .invalidArg
  else if spiffsPartition.length < dstOffset + src.length then .error .invalidSize
  else
    .ok (spiffsPartition.take dstOffset ++
      (src ++ spiffsPartition.drop (dstOffset + src.length)))

/-! ### The Download -/

/-- `BUFFSIZE`. -/
def buffsize : Nat := 1024

/-- What `esp_http_client_read` returns: some bytes, 0 or a negative number. -/
inductive ReadResult where
  | data (bytes : Bytes)
  | closed
  | error
  deriving DecidableEq, Repr

/-- The reads of a body: each takes the next 1 to `BUFFSIZE` bytes, until the body ends,
    the connection is closed early, or a read fails. -/
inductive Delivers : Bytes → List ReadResult → Prop where
  | closed (body : Bytes) : Delivers body [.closed]
  | error (body : Bytes) : Delivers body [.error]
  | data {body : Bytes} {reads : List ReadResult} (bytes : Bytes) :
      bytes ≠ [] → bytes.length ≤ buffsize → Delivers body reads →
        Delivers (bytes ++ body) (.data bytes :: reads)

/-- The calls before the download and the driver's answer to each write. -/
structure UpdateEnv where
  clientInit : Bool
  headOpen : EspErr
  fetchHeaders : Int
  statusCode : Int
  getOpen : EspErr
  erase : EspErr
  writeOk : Nat → Bool

/-- The download loop. The offset grows by `BUFFSIZE`, whatever was read; `none` is a
    loop that still reads. -/
def downloadLoop (writeOk : Nat → Bool) :
    List ReadResult → Nat → Bytes → Option (EspErr × Bytes)
  | [], _, _ => none
  | .error :: _, _, spiffsPartition => some (.fail, spiffsPartition)
  | .closed :: _, _, spiffsPartition => some (.ok, spiffsPartition)
  | .data otaWriteData :: reads, offset, spiffsPartition =>
      match espPartitionWrite spiffsPartition offset otaWriteData with
      | .error _ => some (.fail, spiffsPartition)
      | .ok written =>
          if writeOk offset then downloadLoop writeOk reads (offset + buffsize) written
          else some (.fail, spiffsPartition)

/-- `download_and_update_spiffs_partition` on the partition found. -/
def downloadAndUpdateSpiffsPartition (env : UpdateEnv) (reads : List ReadResult)
    (spiffsPartition : Bytes) : Option (EspErr × Bytes) :=
  if env.clientInit = false then some (.fail, spiffsPartition)
  else if env.headOpen ≠ .ok then some (env.headOpen, spiffsPartition)
  else if env.fetchHeaders < 0 then some (.fail, spiffsPartition)
  else if env.statusCode ≠ 200 then some (.fail, spiffsPartition)
  else if env.getOpen ≠ .ok then some (env.getOpen, spiffsPartition)
  else if env.erase ≠ .ok then some (env.erase, spiffsPartition)
  else downloadLoop env.writeOk reads 0 (eraseRange spiffsPartition)

/-! ### What Is Written -/

/-- The content that the reads leave, every chunk filled up to `BUFFSIZE`. -/
def chunks : List ReadResult → Bytes
  | .data bytes :: reads =>
      bytes ++ (List.replicate (buffsize - bytes.length) erased ++ chunks reads)
  | _ => []

/-- What is left of the image after the first read of fewer than `BUFFSIZE` bytes. -/
def behindShortRead : List ReadResult → Bytes → Bytes
  | .data bytes :: reads, image =>
      if bytes.length = buffsize then behindShortRead reads (image.drop bytes.length)
      else image.drop bytes.length
  | _, image => image

/-- The reads end with a 0. -/
def Closes : List ReadResult → Prop
  | [] => False
  | .error :: _ => False
  | .closed :: _ => True
  | .data _ :: reads => Closes reads

/-- The partition holds the image and is erased behind it. -/
def HoldsImage (spiffsPartition image : Bytes) : Prop :=
  spiffsPartition = image ++ List.replicate (spiffsPartition.length - image.length) erased

/-! ### The Loop -/

/-- A write inside the partition, position by position. -/
theorem espPartitionWrite_ok {spiffsPartition src written : Bytes} {dstOffset : Nat}
    (h : espPartitionWrite spiffsPartition dstOffset src = .ok written) :
    dstOffset + src.length ≤ spiffsPartition.length ∧
      written = spiffsPartition.take dstOffset ++
        (src ++ spiffsPartition.drop (dstOffset + src.length)) := by
  unfold espPartitionWrite at h
  split at h
  · cases h
  split at h
  · cases h
  next hsize =>
  cases h
  exact ⟨Nat.le_of_not_lt hsize, rfl⟩

/-- A write at the end of what was written appends to it. -/
theorem espPartitionWrite_append {spiffsPartition front src written : Bytes}
    (hsame : Same erased spiffsPartition front)
    (h : espPartitionWrite spiffsPartition front.length src = .ok written) (k : Nat) :
    written.length = spiffsPartition.length ∧
      Same erased written (front ++ (src ++ List.replicate k erased)) := by
  obtain ⟨hfit, rfl⟩ := espPartitionWrite_ok h
  have hle : front.length ≤ spiffsPartition.length := Nat.le_of_add_right_le hfit
  have heq := (eq_append_replicate_iff hle).mpr hsame
  have htake : spiffsPartition.take front.length = front := by
    rw [heq, List.take_left]
  have hdrop : spiffsPartition.drop (front.length + src.length) =
      List.replicate (spiffsPartition.length - front.length - src.length) erased := by
    rw [← List.drop_drop, heq, List.drop_left, List.drop_replicate]
    simp
  constructor
  · rw [htake, hdrop]
    simp only [List.length_append, List.length_replicate]
    omega
  · rw [htake, hdrop, same_append_left_iff, same_append_left_iff]
    exact same_replicate _ k

/-- A loop that ends with `ESP_OK` has written the filled chunks from its offset on. -/
theorem downloadLoop_ok {writeOk : Nat → Bool} {image : Bytes} {reads : List ReadResult}
    (hreads : Delivers image reads) {front spiffsPartition p : Bytes}
    (hsame : Same erased spiffsPartition front)
    (h : downloadLoop writeOk reads front.length spiffsPartition = some (.ok, p)) :
    Closes reads ∧ p.length = spiffsPartition.length ∧
      Same erased p (front ++ chunks reads) := by
  induction hreads generalizing front spiffsPartition with
  | closed body =>
      cases h
      refine ⟨trivial, rfl, ?_⟩
      rw [show chunks [.closed] = [] from rfl, List.append_nil]
      exact hsame
  | error body => cases h
  | data bytes _ hlen _ ih =>
      rw [downloadLoop] at h
      split at h
      · cases h
      next written hwrite =>
      split at h
      · -- the next offset is the end of the filled chunk
        obtain ⟨hlength, hsame'⟩ := espPartitionWrite_append hsame hwrite
          (buffsize - bytes.length)
        have hoffset : (front ++ (bytes ++ List.replicate (buffsize - bytes.length)
            erased)).length = front.length + buffsize := by
          simp only [List.length_append, List.length_replicate]
          omega
        rw [← hoffset] at h
        obtain ⟨hcloses, hp, hsame''⟩ := ih hsame' h
        refine ⟨hcloses, hp.trans hlength, ?_⟩
        simpa only [chunks, List.append_assoc] using hsame''
      · cases h

/-- The loop comes to an end on every body. -/
theorem downloadLoop_isSome (writeOk : Nat → Bool) {image : Bytes} {reads : List ReadResult}
    (hreads : Delivers image reads) (offset : Nat) (spiffsPartition : Bytes) :
    (downloadLoop writeOk reads offset spiffsPartition).isSome = true := by
  induction hreads generalizing offset spiffsPartition with
  | closed body => rfl
  | error body => rfl
  | data bytes _ _ _ ih =>
      rw [downloadLoop]
      split
      · rfl
      · split
        · exact ih _ _
        · rfl

/-! ### Chunks and the Image -/

/-- Chunks of erased bytes are erased bytes. -/
theorem eq_erased_of_mem_chunks {image : Bytes} {reads : List ReadResult}
    (hreads : Delivers image reads) (h : ∀ b ∈ image, b = erased) :
    ∀ b ∈ chunks reads, b = erased := by
  induction hreads with
  | closed body => exact nofun
  | error body => exact nofun
  | data bytes _ _ _ ih =>
      intro b hb
      rcases List.mem_append.mp hb with hb | hb
      · exact h b (List.mem_append_left _ hb)
      rcases List.mem_append.mp hb with hb | hb
      · exact List.eq_of_mem_replicate hb
      · exact ih (fun b hb => h b (List.mem_append_right _ hb)) b hb

/-- Behind a gap, the chunks of a body are the body only if it is erased bytes. -/
theorem eq_erased_of_gap {image : Bytes} {reads : List ReadResult}
    (hreads : Delivers image reads) (hcloses : Closes reads) {k : Nat} (hk : 0 < k)
    (h : Same erased (List.replicate k erased ++ chunks reads) image) :
    ∀ b ∈ image, b = erased := by
  induction hreads generalizing k with
  | closed body =>
      rw [show chunks [.closed] = [] from rfl, List.append_nil] at h
      rw [← same_nil_iff]
      intro i
      exact (same_replicate 0 k i).trans (h i)
  | error body => exact absurd hcloses id
  | data bytes _ hlen _ ih =>
      rw [chunks] at h
      have hbytes := eq_fill_of_same_shift hk h
      have hrest := same_shift_cancel hk h
      -- the gap before the next chunk is at least as wide
      rw [← List.append_assoc, List.replicate_append_replicate] at hrest
      have hbody := ih hcloses (Nat.add_pos_left hk _) hrest
      intro b hb
      rcases List.mem_append.mp hb with hb | hb
      · exact hbytes b hb
      · exact hbody b hb

/-- The chunks are the image exactly when nothing but erased bytes is left behind the
    first short read. -/
theorem same_chunks_iff {image : Bytes} {reads : List ReadResult}
    (hreads : Delivers image reads) (hcloses : Closes reads) :
    Same erased (chunks reads) image ↔ ∀ b ∈ behindShortRead reads image, b = erased := by
  induction hreads with
  | closed body => exact same_nil_iff
  | error body => exact absurd hcloses id
  | @data body reads bytes _ hlen hbody ih =>
      rw [chunks, behindShortRead, List.drop_left, same_append_left_iff]
      by_cases hfull : bytes.length = buffsize
      · rw [if_pos hfull, hfull, Nat.sub_self, List.replicate_zero, List.nil_append]
        exact ih hcloses
      · rw [if_neg hfull]
        have hgap : 0 < buffsize - bytes.length := by omega
        constructor
        · exact eq_erased_of_gap hbody hcloses hgap
        · intro h i
          rw [getD_eq_fill h i]
          refine getD_eq_fill (fun b hb => ?_) i
          rcases List.mem_append.mp hb with hb | hb
          · exact List.eq_of_mem_replicate hb
          · exact eq_erased_of_mem_chunks hbody h b hb

/-! ### Main Theorem -/

/-- An update that reports success ran the whole loop on the erased partition. -/
theorem downloadAndUpdate_ok {env : UpdateEnv} {reads : List ReadResult}
    {spiffsPartition p : Bytes}
    (h : downloadAndUpdateSpiffsPartition env reads spiffsPartition = some (.ok, p)) :
    downloadLoop env.writeOk reads 0 (eraseRange spiffsPartition) = some (.ok, p) := by
  unfold downloadAndUpdateSpiffsPartition at h
  repeat' split at h
  all_goals first
    | exact h
    | cases h
    | next hne => exact absurd (congrArg Prod.fst (Option.some.inj h)) hne

/-- The update returns, whatever the body and the calls do. -/
theorem downloadAndUpdate_isSome (env : UpdateEnv) {image : Bytes} {reads : List ReadResult}
    (hreads : Delivers image reads) (spiffsPartition : Bytes) :
    (downloadAndUpdateSpiffsPartition env reads spiffsPartition).isSome = true := by
  have hloop := downloadLoop_isSome env.writeOk hreads 0 (eraseRange spiffsPartition)
  unfold downloadAndUpdateSpiffsPartition
  repeat' split
  all_goals first
    | exact hloop
    | rfl

/-- **A storage update that reports success** has written the image exactly when only
    erased bytes of it are left behind the first short read. -/
theorem holdsImage_iff {image : Bytes} {reads : List ReadResult} (hreads : Delivers image reads)
    {spiffsPartition : Bytes} (hfit : image.length ≤ spiffsPartition.length)
    {env : UpdateEnv} {p : Bytes}
    (h : downloadAndUpdateSpiffsPartition env reads spiffsPartition = some (.ok, p)) :
    HoldsImage p image ↔ ∀ b ∈ behindShortRead reads image, b = erased := by
  have hsame : Same erased (eraseRange spiffsPartition) [] := same_replicate _ 0
  have hloop : downloadLoop env.writeOk reads ([] : Bytes).length (eraseRange spiffsPartition) =
      some (.ok, p) := downloadAndUpdate_ok h
  obtain ⟨hcloses, hlength, hchunks⟩ := downloadLoop_ok hreads hsame hloop
  have hsize : image.length ≤ p.length := by
    rw [hlength, eraseRange, List.length_replicate]
    exact hfit
  rw [HoldsImage, eq_append_replicate_iff hsize, ← same_chunks_iff hreads hcloses]
  constructor
  · intro h' i
    exact (hchunks i).symm.trans (h' i)
  · intro h' i
    exact (hchunks i).trans (h' i)

/-- The calls of an update that succeed. -/
def UpdateEnv.ok : UpdateEnv where
  clientInit := true
  headOpen := .ok
  fetchHeaders := 0
  statusCode := 200
  getOpen := .ok
  erase := .ok
  writeOk := fun _ => true

/-- An image that arrives in one read is written. -/
theorem holdsImage_iff_oneRead :
    HoldsImage [7, 0xFF] [7] ↔
      ∀ b ∈ behindShortRead [.data [7], .closed] [7], b = erased := by
  have hrun : downloadAndUpdateSpiffsPartition .ok [.data [7], .closed] [0, 0] =
      some (.ok, [7, 0xFF]) := rfl
  exact holdsImage_iff (.data [7] (by decide) (by decide) (.closed [])) (by decide) hrun

/-- Two reads of one byte each: the second byte is written 1024 bytes behind the first. -/
theorem not_holdsImage :
    ¬ ∀ (env : UpdateEnv) (image : Bytes) (reads : List ReadResult) (spiffsPartition p : Bytes),
      Delivers image reads → image.length ≤ spiffsPartition.length →
      downloadAndUpdateSpiffsPartition env reads spiffsPartition = some (.ok, p) →
      HoldsImage p image := by
  intro h
  have hrun : (downloadAndUpdateSpiffsPartition .ok [.data [1], .data [2], .closed]
      (List.replicate 2048 0)).any (fun r => r.1 = .ok ∧ r.2[1]? = some 0xFF) = true := by
    decide +kernel
  obtain ⟨⟨ret, p⟩, hp, hr⟩ := (Option.any_eq_true _ _).mp hrun
  obtain ⟨hret, hsecond⟩ := of_decide_eq_true hr
  cases hret
  have hfit : ([1, 2] : Bytes).length ≤ (List.replicate 2048 (0 : UInt8)).length := by
    rw [List.length_replicate]
    decide
  have hheld : p = [1, 2] ++ List.replicate (p.length - 2) erased := h .ok [1, 2] _ _ p
    (.data [1] (by decide) (by decide) (.data [2] (by decide) (by decide) (.closed []))) hfit hp
  rw [hheld] at hsecond
  cases hsecond

end StorageUpdate
