import RelayBoard.Framework.Transition
import RelayBoard.NvsLarge.RoundTrip

/-! # CA Certificates

  `components/ca_cert_manager`: a certificate is kept in NVS as a large string
  under the base name of its path, with the file at the path as a fallback.
  The file determines for which texts a load returns what was saved.
-/

open CString Chunk LTS NvsLarge

namespace CaCertManager

/-! ### Loading and Saving -/

/-- `S_NAMESPACE`. -/
def sNamespace : CStr := "settings".toList

/-- `CA_CERT_PATH_MQTTS`. -/
def caCertPathMqtts : CStr := "/spiffs/ca-mqtts.crt".toList

/-- `CA_CERT_PATH_HTTPS`. -/
def caCertPathHttps : CStr := "/spiffs/ca-https.crt".toList

/-- `esp_basename`: what follows the last slash. A `NULL` or empty path is `"."`. -/
def espBasename : Option CStr → CStr
  | none => ".".toList
  | some path =>
      if path = [] then ".".toList
      else (path.reverse.takeWhile (fun c => c ≠ '/')).reverse

/-- `load_ca_certificate`. `spiffs` are the texts of the files that can be opened,
    and `ok` and `mallocOk` say which NVS writes and whether the allocation
    succeed. An `ESP_OK` comes with `*ca_cert`. -/
def loadCaCertificate (ok : Nat → Bool) (mallocOk : Bool) (spiffs : CStr → Option CStr)
    (nvs : LargeStore) (caCertPath : Option CStr) : ReadResult × LargeStore :=
  match caCertPath with
  | none => (.error .invalidArg, nvs)
  | some path =>
      let certFile := espBasename (some path)
      match nvsReadStringLarge nvs sNamespace certFile with
      | .ok caCert => (.ok caCert, nvs)
      | .undefined => (.undefined, nvs)
      | .error _ =>
          match spiffs path with
          | none => (.error .fail, nvs)
          | some text =>
              if text.length = 0 then (.error .fail, nvs)
              else if ¬ mallocOk then (.error .noMem, nvs)
              else
                match nvsWriteStringLarge ok nvs sNamespace certFile text with
                | (.ok, nvs) => (.ok (some text), nvs)
                | (_, nvs) => (.error .fail, nvs)

/-- `save_ca_certificate`. `DO_SYNC_CA_CERT_TO_SPIFFS` is false: the file is never
    written. -/
def saveCaCertificate (ok : Nat → Bool) (nvs : LargeStore) (caCert caCertPath : Option CStr) :
    EspErr × LargeStore :=
  match caCert with
  | none => (.invalidArg, nvs)
  | some text =>
      match nvsWriteStringLarge ok nvs sNamespace (espBasename caCertPath) text with
      | (.ok, nvs) => (.ok, nvs)
      | (_, nvs) => (.fail, nvs)

/-! ### Single Calls -/

section calls
variable (mallocOk : Bool) (spiffs : CStr → Option CStr) (nvs : LargeStore) (path : CStr)

/-- What NVS returns is what is loaded. -/
theorem loadCaCertificate_stored {caCert : Option CStr}
    (h : nvsReadStringLarge nvs sNamespace (espBasename (some path)) = .ok caCert) :
    loadCaCertificate (fun _ => true) mallocOk spiffs nvs (some path) = (.ok caCert, nvs) := by
  simp [loadCaCertificate, h]

/-- Without a text in NVS, the file is loaded and stored. -/
theorem loadCaCertificate_file (hkey : (espBasename (some path)).length ≤ 13) {err : EspErr}
    (h : nvsReadStringLarge nvs sNamespace (espBasename (some path)) = .error err) {text : CStr}
    (htext : text ≠ []) (hfile : spiffs path = some text) :
    loadCaCertificate (fun _ => true) true spiffs nvs (some path) =
      (.ok (some text),
        Nvs.setAll nvs sNamespace (writesOf (espBasename (some path)) text)) := by
  simp [loadCaCertificate, h, hfile, htext, nvsWriteStringLarge_all hkey]

/-- Where the file is of no use either, an error is returned and nothing is stored. -/
theorem loadCaCertificate_none {err : EspErr}
    (h : nvsReadStringLarge nvs sNamespace (espBasename (some path)) = .error err)
    (hnone : ∀ text, spiffs path = some text → text ≠ [] → mallocOk = false) :
    ∃ err', loadCaCertificate (fun _ => true) mallocOk spiffs nvs (some path) =
      (.error err', nvs) := by
  cases hfile : spiffs path with
  | none => exact ⟨.fail, by simp [loadCaCertificate, h, hfile]⟩
  | some text =>
      by_cases htext : text = []
      · exact ⟨.fail, by simp [loadCaCertificate, h, hfile, htext]⟩
      · exact ⟨.noMem, by simp [loadCaCertificate, h, hfile, htext, hnone text hfile htext]⟩

theorem saveCaCertificate_some (hkey : (espBasename (some path)).length ≤ 13) (text : CStr) :
    saveCaCertificate (fun _ => true) nvs (some text) (some path) =
      (.ok, Nvs.setAll nvs sNamespace (writesOf (espBasename (some path)) text)) := by
  simp [saveCaCertificate, nvsWriteStringLarge_all hkey]

end calls

/-! ### Sequences of Calls -/

/-- The store, with the text of the last successful save and what the last call
    returned if it was a load. -/
structure CertState where
  nvs : LargeStore
  lastSaved : Option CStr
  loaded : Option ReadResult

/-- A call on the certificate. -/
inductive Call where
  | save (caCert : Option CStr)
  | load (mallocOk : Bool)
  deriving DecidableEq, Repr

/-- The state after a call whose storage operations succeed. -/
def afterCall (spiffs : CStr → Option CStr) (path : CStr) (s : CertState) : Call → CertState
  | .save caCert =>
      let (err, nvs) := saveCaCertificate (fun _ => true) s.nvs caCert (some path)
      ⟨nvs, if err = .ok then caCert else s.lastSaved, none⟩
  | .load mallocOk =>
      let (result, nvs) := loadCaCertificate (fun _ => true) mallocOk spiffs s.nvs (some path)
      ⟨nvs, s.lastSaved, some result⟩

/-- Saves and loads of one certificate, from a store that holds no text for it. -/
def certSystem (spiffs : CStr → Option CStr) (path : CStr) : System CertState Call where
  init := fun s =>
    (∃ err, nvsReadStringLarge s.nvs sNamespace (espBasename (some path)) = .error err) ∧
    s.lastSaved = none ∧
    s.loaded = none
  step := fun s call s' => s' = afterCall spiffs path s call

/-- A load that returned `ESP_OK` has returned a text: the one saved last, or that
    of the file if none was. -/
def Agrees (spiffs : CStr → Option CStr) (path : CStr) (s : CertState) : Prop :=
  ∀ caCert, s.loaded = some (.ok caCert) →
    caCert ≠ none ∧ caCert = s.lastSaved.or (spiffs path)

/-- The text a call may store reads back: the one saved, or that of the file as
    long as none was saved. -/
def Sound (spiffs : CStr → Option CStr) (path : CStr) (s : CertState) : Call → Prop
  | .save caCert => ∀ text, caCert = some text → ReadsBack (espBasename (some path)) text
  | .load mallocOk =>
      s.lastSaved = none → mallocOk = true →
        ∀ text, spiffs path = some text → text ≠ [] → ReadsBack (espBasename (some path)) text

/-- The store returns the text saved last. If none was saved, it returns that of
    the file, or nothing. -/
def Stored (spiffs : CStr → Option CStr) (path : CStr) (s : CertState) : Prop :=
  let result := nvsReadStringLarge s.nvs sNamespace (espBasename (some path))
  (∃ text, s.lastSaved.or (spiffs path) = some text ∧
      ReadsBack (espBasename (some path)) text ∧ result = .ok (some text)) ∨
    s.lastSaved = none ∧ ∃ err, result = .error err

section runs
variable {spiffs : CStr → Option CStr} {path : CStr}

/-- A load from such a store agrees, and leaves such a store. -/
theorem Stored.load (hkey : (espBasename (some path)).length ≤ 13) {s : CertState}
    {mallocOk : Bool} (h : Stored spiffs path s) (hok : Sound spiffs path s (.load mallocOk)) :
    Stored spiffs path (afterCall spiffs path s (.load mallocOk)) ∧
      Agrees spiffs path (afterCall spiffs path s (.load mallocOk)) := by
  simp only [afterCall]
  rcases h with ⟨text, htext, hback, hread⟩ | ⟨hnone, err, hread⟩
  · -- NVS answers
    rw [loadCaCertificate_stored mallocOk spiffs s.nvs path hread]
    refine ⟨Or.inl ⟨text, htext, hback, hread⟩, ?_⟩
    intro caCert hloaded
    simp only [Option.some.injEq, ReadResult.ok.injEq] at hloaded
    subst hloaded
    exact ⟨by simp, htext.symm⟩
  by_cases hfile : ∀ text, spiffs path = some text → text ≠ [] → mallocOk = false
  · -- nothing to load
    obtain ⟨err', hload⟩ := loadCaCertificate_none mallocOk spiffs s.nvs path hread hfile
    rw [hload]
    refine ⟨Or.inr ⟨hnone, err, hread⟩, ?_⟩
    intro caCert hloaded
    simp at hloaded
  · -- the file is loaded and stored
    obtain ⟨text, htext⟩ := Classical.not_forall.mp hfile
    simp only [Classical.not_imp, Bool.not_eq_false] at htext
    obtain ⟨htext, hne, rfl⟩ := htext
    have hback := hok hnone rfl text htext hne
    rw [loadCaCertificate_file spiffs s.nvs path hkey hread hne htext]
    have hor : s.lastSaved.or (spiffs path) = some text := by simp [hnone, htext]
    refine ⟨Or.inl ⟨text, hor, hback, hback.read _ _ hkey⟩, ?_⟩
    intro caCert hloaded
    simp only [Option.some.injEq, ReadResult.ok.injEq] at hloaded
    subst hloaded
    exact ⟨by simp, hor.symm⟩

/-- A save of a text that reads back leaves such a store. -/
theorem Stored.save (hkey : (espBasename (some path)).length ≤ 13) {s : CertState}
    {caCert : Option CStr} (h : Stored spiffs path s)
    (hok : Sound spiffs path s (.save caCert)) :
    Stored spiffs path (afterCall spiffs path s (.save caCert)) ∧
      Agrees spiffs path (afterCall spiffs path s (.save caCert)) := by
  refine ⟨?_, by simp [Agrees, afterCall]⟩
  cases caCert with
  | none => exact h
  | some text =>
      have hback := hok text rfl
      simp only [afterCall, saveCaCertificate_some s.nvs path hkey text]
      exact Or.inl ⟨text, by simp, hback, hback.read _ _ hkey⟩

theorem stored_of_reachableWhen (hkey : (espBasename (some path)).length ≤ 13) {s : CertState}
    (hs : ReachableWhen (certSystem spiffs path) (Sound spiffs path) s) :
    Stored spiffs path s ∧ Agrees spiffs path s := by
  apply hs.invariant
  · rintro s ⟨herr, hsaved, hloaded⟩
    exact ⟨Or.inr ⟨hsaved, herr⟩, by simp [Agrees, hloaded]⟩
  · rintro s call s' hinv hok rfl
    match call with
    | .save caCert => exact hinv.1.save hkey hok
    | .load mallocOk => exact hinv.1.load hkey hok

/-- After a text that does not read back has been stored as the one to serve, the
    next load does not agree. -/
theorem not_agrees_of_not_readsBack (hkey : (espBasename (some path)).length ≤ 13)
    (nvs : LargeStore) {lastSaved : Option CStr} (loaded : Option ReadResult) {text : CStr}
    (hserved : lastSaved.or (spiffs path) = some text)
    (hback : ¬ ReadsBack (espBasename (some path)) text) :
    ¬ Agrees spiffs path (afterCall spiffs path
      ⟨Nvs.setAll nvs sNamespace (writesOf (espBasename (some path)) text), lastSaved, loaded⟩
      (.load true)) := by
  intro hagrees
  obtain ⟨caCert, hread, hiff⟩ := read_setAll_writesOf_iff nvs sNamespace text hkey
  simp only [afterCall, loadCaCertificate_stored true spiffs _ path hread] at hagrees
  obtain ⟨_, heq⟩ := hagrees caCert rfl
  exact hback (hiff.mp (heq.trans hserved))

/-- Loads agree with saves as long as every text stored reads back, and the first
    text stored that does not makes the next load disagree. -/
theorem load_agrees (hkey : (espBasename (some path)).length ≤ 13) {s : CertState}
    (hs : ReachableWhen (certSystem spiffs path) (Sound spiffs path) s) :
    Agrees spiffs path s ∧
      ∀ call, ¬ Sound spiffs path s call →
        ¬ Agrees spiffs path (afterCall spiffs path (afterCall spiffs path s call)
          (.load true)) := by
  obtain ⟨hstored, hagrees⟩ := stored_of_reachableWhen hkey hs
  refine ⟨hagrees, ?_⟩
  intro call hbad
  match call with
  | .save caCert =>
      simp only [Sound, Classical.not_forall] at hbad
      obtain ⟨text, rfl, hback⟩ := hbad
      have hsave : afterCall spiffs path s (.save (some text)) =
          ⟨Nvs.setAll s.nvs sNamespace (writesOf (espBasename (some path)) text),
            some text, none⟩ := by
        simp [afterCall, saveCaCertificate_some s.nvs path hkey text]
      rw [hsave]
      exact not_agrees_of_not_readsBack hkey s.nvs none (by simp) hback
  | .load mallocOk =>
      simp only [Sound, Classical.not_forall] at hbad
      obtain ⟨hnone, rfl, text, hfile, hne, hback⟩ := hbad
      have hor : s.lastSaved.or (spiffs path) = some text := by simp [hnone, hfile]
      rcases hstored with ⟨text', htext', hback', _⟩ | ⟨_, err, hread⟩
      · -- what is stored reads back, so it is not this text
        rw [hor] at htext'
        obtain rfl := Option.some.inj htext'
        exact absurd hback' hback
      · have hload : afterCall spiffs path s (.load true) =
            ⟨Nvs.setAll s.nvs sNamespace (writesOf (espBasename (some path)) text),
              s.lastSaved, some (.ok (some text))⟩ := by
          simp [afterCall, loadCaCertificate_file spiffs s.nvs path hkey hread hne hfile]
        rw [hload]
        exact not_agrees_of_not_readsBack hkey s.nvs _ hor hback

end runs

/-- The erased partition, before any call. -/
def erasedState : CertState := ⟨Nvs.empty, none, none⟩

theorem init_erasedState (spiffs : CStr → Option CStr) (path : CStr) :
    (certSystem spiffs path).init erasedState :=
  ⟨⟨.nvsNotFound, rfl⟩, rfl, rfl⟩

/-- A text of one character is saved and loaded. -/
theorem load_agrees_saved :
    let s := afterCall (fun _ => none) caCertPathMqtts
      (afterCall (fun _ => none) caCertPathMqtts erasedState (.save (some ['a']))) (.load true)
    s.loaded = some (.ok (some ['a'])) ∧ Agrees (fun _ => none) caCertPathMqtts s := by
  have hkey : (espBasename (some caCertPathMqtts)).length ≤ 13 := by decide
  have hback : ReadsBack (espBasename (some caCertPathMqtts)) ['a'] := by
    refine ⟨by simp, ?_⟩
    intro i j hi hj _
    have hcount : chunkCount maxChunkSize ['a'] = 1 := by decide
    rw [show i = j by omega]
  refine ⟨by decide +kernel, (load_agrees hkey (.step (.step
    (.init (init_erasedState _ _)) (l := .save (some ['a'])) ?_ rfl) (l := .load true) ?_ rfl)).1⟩
  · rintro text ⟨⟩
    exact hback
  · simp [Sound]

/-- The empty text is saved, and loaded as a null pointer with `ESP_OK`. -/
theorem not_load_agrees :
    ¬ ∀ (spiffs : CStr → Option CStr) (path : CStr), (espBasename (some path)).length ≤ 12 →
      ∀ s, Reachable (certSystem spiffs path) s → Agrees spiffs path s := by
  intro h
  have hs : Reachable (certSystem (fun _ => none) caCertPathMqtts)
      (afterCall (fun _ => none) caCertPathMqtts
        (afterCall (fun _ => none) caCertPathMqtts erasedState (.save (some []))) (.load true)) :=
    .step (.step (.init (init_erasedState _ _)) rfl) rfl
  have hagrees := h _ _ (by decide) _ hs
  exact (hagrees none (by decide +kernel)).1 rfl

end CaCertManager
