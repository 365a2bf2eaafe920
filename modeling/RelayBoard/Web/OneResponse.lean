import RelayBoard.Web.Api
import RelayBoard.Web.SettingRead
import RelayBoard.Web.SettingUpdate

/-! # One Response per Request

  How many responses a request to the `/api` handlers gets. The handlers and
  the helpers that answer for them agree on one response, except where a
  handler answers after a helper has, continues with another handler, or
  leaves a `switch` without an answer.
-/

open CString NvsLarge Relay

namespace Web

/-! ### Calls -/

/-- A request to an `/api` handler, with everything the handler meets. -/
inductive ApiCall where
  | updateRelay (env : Env) (serializes : Bool) (print : Print) (b : Board) (req : Request)
  | setSetting (o : SettingOutcomes) (nvs : Nvs.Store RelayUnit) (req : Request)
  | getSettingsAll (o : ReadOutcomes) (nvs : Nvs.Store RelayUnit) (q : Query)
  | getSettingOne (o : ReadOutcomes) (nvs : Nvs.Store RelayUnit) (q : Query)
  | relaysData (o : RelaysOutcomes) (env : Env) (b : Board)
  | getCaCertificate (o : CertOutcomes) (nvs : LargeStore) (q : Query)
  | apiControl (print : Print) (nvs : Nvs.Store RelayUnit) (req : Request)

/-- What the handler of a request returns and has sent; `none` if it does not
    return. -/
def serve : ApiCall → Option (EspErr × List Sent)
  | .updateRelay env serializes print b req =>
      match updateRelayPostHandler env serializes b req with
      | none => none
      | some (ret, response, _) => (response.sent print).map fun sent => (ret, [sent])
  | .setSetting o nvs req =>
      (setSettingValuePostHandler o nvs req).map fun handled => (handled.ret, handled.sent)
  | .getSettingsAll o nvs q => some (getSettingsAllHandler o nvs q)
  | .getSettingOne o nvs q => some (getSettingOneHandler o nvs q)
  | .relaysData o env b => relaysDataGetHandler o env b
  | .getCaCertificate o nvs q => getCaCertificateHandler o nvs q
  | .apiControl print nvs req => apiControlHandler print nvs req

/-- A handler that returned `ESP_OK` has sent one response, and one that returned an
    error at most one. -/
def SentOne (result : Option (EspErr × List Sent)) : Prop :=
  ∀ ret sent, result = some (ret, sent) →
    (ret = .ok → sent.length = 1) ∧ (ret ≠ .ok → sent.length ≤ 1)

@[simp] theorem sentOne_none : SentOne none := by
  simp [SentOne]

@[simp] theorem sentOne_some (ret : EspErr) (sent : List Sent) :
    SentOne (some (ret, sent)) ↔
      (ret = .ok → sent.length = 1) ∧ (ret ≠ .ok → sent.length ≤ 1) := by
  constructor
  · intro h
    exact h ret sent rfl
  · rintro h ret' sent' heq
    simp only [Option.some.injEq, Prod.mk.injEq] at heq
    obtain ⟨rfl, rfl⟩ := heq
    exact h

/-- One response is one response, whatever is returned. -/
theorem sentOne_singleton (ret : EspErr) (response : Sent) :
    SentOne (some (ret, [response])) := by
  simp

theorem sentOne_map {α : Type} (result : Option α) (ret : α → EspErr) (response : α → Sent) :
    SentOne (result.map fun a => (ret a, [response a])) := by
  cases result <;> simp

/-! ### The Handlers One by One -/

theorem sentOne_updateRelay (env : Env) (serializes : Bool) (print : Print) (b : Board)
    (req : Request) : SentOne (serve (.updateRelay env serializes print b req)) := by
  unfold serve
  dsimp only
  split
  · exact sentOne_none
  · exact sentOne_map _ _ _

/-- A refused request, or an update with its one answer. -/
theorem length_sent_setSettingValuePostHandler {o : SettingOutcomes}
    {nvs : Nvs.Store RelayUnit} {req : Request} {handled : Handled RelayUnit}
    (h : setSettingValuePostHandler o nvs req = some handled) : handled.sent.length = 1 := by
  have hupdate : ∀ jsonRequest, (updateSettings o nvs jsonRequest).sent.length = 1 := by
    intro jsonRequest
    unfold updateSettings
    split
    · rfl
    · dsimp only
      split <;> rfl
  unfold setSettingValuePostHandler at h
  split at h
  · simp only [Option.some.injEq] at h
    simp [← h, Handled.refused]
  · split at h
    · split at h
      · split at h
        · simp only [Option.some.injEq] at h
          simp [← h, Handled.refused]
        · simp only [Option.some.injEq] at h
          rw [← h, hupdate]
      · simp at h
    · simp only [Option.some.injEq] at h
      simp [← h, Handled.refused]

theorem sentOne_setSetting (o : SettingOutcomes) (nvs : Nvs.Store RelayUnit) (req : Request) :
    SentOne (serve (.setSetting o nvs req)) := by
  show SentOne ((setSettingValuePostHandler o nvs req).map _)
  cases hhandled : setSettingValuePostHandler o nvs req with
  | none => simp
  | some handled => simp [length_sent_setSettingValuePostHandler hhandled]

theorem sentOne_sendSettings (print : Print) (root : Json) :
    SentOne (some (sendSettings print root)) := by
  unfold sendSettings
  split <;> simp

theorem sentOne_getSettingsAll (o : ReadOutcomes) (nvs : Nvs.Store RelayUnit) (q : Query) :
    SentOne (serve (.getSettingsAll o nvs q)) := by
  show SentOne (some (getSettingsAllHandler o nvs q))
  unfold getSettingsAllHandler
  split
  · simp
  · split
    · simp
    · exact sentOne_sendSettings _ _

theorem sentOne_getSettingOne (o : ReadOutcomes) (nvs : Nvs.Store RelayUnit) (q : Query) :
    SentOne (serve (.getSettingOne o nvs q)) := by
  show SentOne (some (getSettingOneHandler o nvs q))
  unfold getSettingOneHandler
  split
  · exact sentOne_singleton _ _
  · split
    · exact sentOne_singleton _ _
    · split
      · exact sentOne_singleton _ _
      · split
        · exact sentOne_singleton _ _
        · split
          · exact sentOne_singleton _ _
          · exact sentOne_sendSettings _ _

theorem sentOne_relaysData (o : RelaysOutcomes) (env : Env) (b : Board) :
    SentOne (serve (.relaysData o env b)) := by
  show SentOne (relaysDataGetHandler o env b)
  unfold relaysDataGetHandler
  split
  · simp
  · split
    · simp
    · split
      · simp
      · split
        · simp
        · split
          · simp
          · split <;> simp

/-! ### Certificates -/

theorem sentOne_sendCertRoot (print : Print) (status : CStr) (root : Json) :
    SentOne (some (sendCertRoot print status root)) := by
  unfold sendCertRoot
  split <;> simp

/-- What `sendCertRoot` sends is one response. -/
theorem length_sendCertRoot (print : Print) (status : CStr) (root : Json) :
    (sendCertRoot print status root).2.length = 1 := by
  unfold sendCertRoot
  split <;> simp

/-- Once the identity is accepted, there is one answer. -/
theorem sentOne_getCaCertificate (o : CertOutcomes) (nvs : LargeStore) (q : Query) :
    SentOne (getCaCertificate o nvs q) := by
  unfold getCaCertificate
  dsimp only
  split
  · exact sentOne_sendCertRoot _ _ _
  · split
    · exact sentOne_sendCertRoot _ _ _
    · split
      · exact sentOne_sendCertRoot _ _ _
      · split
        · exact sentOne_none
        all_goals exact sentOne_sendCertRoot _ _ _

/-- Two responses are never one, whatever is returned. -/
theorem not_sentOne_two (ret : EspErr) (first : Sent) {sent : List Sent}
    (h : sent.length = 1) : ¬ SentOne (some (ret, first :: sent)) := by
  rw [sentOne_some]
  rintro ⟨hok, herr⟩
  by_cases hret : ret = .ok
  · have := hok hret
    simp [h] at this
  · have := herr hret
    simp [h] at this

/-- A refused identity is answered twice: by the validation and by the handler. -/
theorem sentOne_getCaCertificateHandler_iff (o : CertOutcomes) (nvs : LargeStore) (q : Query) :
    SentOne (getCaCertificateHandler o nvs q) ↔
      ¬ (o.rootOk = true ∧ validateDeviceIdentityFromGetQuery nvs q ≠ .ok ()) := by
  unfold getCaCertificateHandler
  cases hroot : o.rootOk with
  | false => simp
  | true =>
      rw [if_neg (by simp)]
      cases hvalid : validateDeviceIdentityFromGetQuery nvs q with
      | ok u => simpa using sentOne_getCaCertificate o nvs q
      | error response =>
          have hlen := length_sendCertRoot o.print "401 Unauthorized".toList
            (certRoot [] [] 0 EspErr.fail.code "Device identity validation failed".toList)
          have htwo := not_sentOne_two (sendCertRoot o.print "401 Unauthorized".toList
            (certRoot [] [] 0 EspErr.fail.code
              "Device identity validation failed".toList)).1 response hlen
          exact iff_of_false htwo (fun hnot => hnot ⟨rfl, by simp⟩)

/-! ### Control -/

/-- A standard reboot: `params.mode` is 0 and the answer on it finds memory. -/
def AsksReboot (print : Print) (jsonRequest : Json) : Prop :=
  (∃ params, jsonRequest.getObjectItem "params".toList = some params ∧
    numberItem params "mode".toList = some 0) ∧ (print rebootingResponse).isSome = true

/-- The request asks for what `api_control_handler` does not answer once: for no action,
    or for a standard reboot. -/
def AsksMisanswered (print : Print) (jsonRequest : Json) : Prop :=
  numberItem jsonRequest "action".toList = some 0 ∨
    numberItem jsonRequest "action".toList = some 1 ∧ AsksReboot print jsonRequest

/-- A standard reboot is answered, and answered again by `reboot_handler`. -/
theorem sentOne_controlRestart_iff (print : Print) (jsonRequest : Json) :
    SentOne (controlRestart print jsonRequest) ↔ ¬ AsksReboot print jsonRequest := by
  unfold controlRestart AsksReboot
  cases jsonRequest.getObjectItem "params".toList with
  | none => exact iff_of_true (sentOne_singleton _ _) (by simp)
  | some params =>
      simp only [Option.some.injEq, exists_eq_left']
      cases numberItem params "mode".toList with
      | none => exact iff_of_true (sentOne_singleton _ _) (by simp)
      | some mode =>
          simp only [Option.some.injEq]
          by_cases h0 : mode = 0
          · rw [if_pos h0, if_pos (show systemReboot = .ok from rfl)]
            unfold sendPrinted
            cases print rebootingResponse with
            | none => exact iff_of_true sentOne_none (by simp)
            | some out => exact iff_of_false (not_sentOne_two _ _ rfl) (by simp [h0])
          · rw [if_neg h0]
            refine iff_of_true ?_ (fun h => h0 h.1)
            by_cases h1 : mode = 1
            · rw [if_pos h1]
              exact sentOne_none
            · rw [if_neg h1]
              by_cases h2 : mode = 2
              · rw [if_pos h2]
                exact sentOne_none
              · rw [if_neg h2]
                exact sentOne_singleton _ _

/-- The `switch` answers once except for the two actions above. -/
theorem sentOne_controlAction_iff (print : Print) (jsonRequest : Json) (action : Int) :
    SentOne (controlAction print jsonRequest action) ↔
      ¬ (action = 0 ∨ action = 1 ∧ AsksReboot print jsonRequest) := by
  unfold controlAction
  by_cases h0 : action = 0
  · simp [h0]
  · rw [if_neg h0]
    by_cases h1 : action = 1
    · rw [if_pos h1, sentOne_controlRestart_iff]
      simp [h1]
    · rw [if_neg h1]
      refine iff_of_true ?_ (by simp [h0, h1])
      split
      · exact sentOne_map _ (fun _ => .ok) (fun response => response)
      · exact sentOne_map _ (fun _ => .fail) (fun response => response)

theorem sentOne_apiControlHandler_iff (print : Print) (nvs : Nvs.Store RelayUnit)
    (req : Request) :
    SentOne (apiControlHandler print nvs req) ↔
      ¬ ∃ jsonRequest, receiveJson req = .ok jsonRequest ∧
        validateDeviceIdentityFromJson nvs jsonRequest = .ok ∧
        AsksMisanswered print jsonRequest := by
  unfold apiControlHandler AsksMisanswered
  cases receiveJson req with
  | error response => exact iff_of_true (sentOne_singleton _ _) (by simp)
  | ok jsonRequest =>
      simp only [Except.ok.injEq, exists_eq_left']
      by_cases hvalid : validateDeviceIdentityFromJson nvs jsonRequest = .ok
      · rw [if_neg (not_not_intro hvalid)]
        cases numberItem jsonRequest "action".toList with
        | none => exact iff_of_true (sentOne_singleton _ _) (by simp)
        | some action =>
            simp only [hvalid, true_and, Option.some.injEq]
            exact sentOne_controlAction_iff print jsonRequest action
      · rw [if_pos hvalid]
        exact iff_of_true (by simp) (fun h => hvalid h.1)

/-! ### Main Theorem -/

/-- The requests that are not answered once. -/
def Misanswered : ApiCall → Prop
  | .getCaCertificate o nvs q =>
      o.rootOk = true ∧ validateDeviceIdentityFromGetQuery nvs q ≠ .ok ()
  | .apiControl print nvs req =>
      ∃ jsonRequest, receiveJson req = .ok jsonRequest ∧
        validateDeviceIdentityFromJson nvs jsonRequest = .ok ∧
        AsksMisanswered print jsonRequest
  | _ => False

/-- An `/api` request is answered once exactly if it is none of these. -/
theorem serve_sentOne_iff (call : ApiCall) : SentOne (serve call) ↔ ¬ Misanswered call := by
  match call with
  | .updateRelay env serializes print b req =>
      simpa [Misanswered] using sentOne_updateRelay env serializes print b req
  | .setSetting o nvs req => simpa [Misanswered] using sentOne_setSetting o nvs req
  | .getSettingsAll o nvs q => simpa [Misanswered] using sentOne_getSettingsAll o nvs q
  | .getSettingOne o nvs q => simpa [Misanswered] using sentOne_getSettingOne o nvs q
  | .relaysData o env b => simpa [Misanswered] using sentOne_relaysData o env b
  | .getCaCertificate o nvs q => exact sentOne_getCaCertificateHandler_iff o nvs q
  | .apiControl print nvs req => exact sentOne_apiControlHandler_iff print nvs req

/-- A control request of the device's owner for no action: the handler returns `ESP_OK`
    and has sent nothing. -/
theorem not_serve_sentOne : ¬ ∀ call, SentOne (serve call) := by
  intro h
  have hserve : serve (.apiControl (fun _ => none)
      (Nvs.setAll Nvs.empty Settings.sNamespace
        [(Settings.sKeyDeviceId, .str "id".toList),
          (Settings.sKeyDeviceSerial, .str "serial".toList)])
      ⟨80, true, some (.object [("device_id".toList, .string "id".toList),
        ("device_serial".toList, .string "serial".toList),
        ("action".toList, .number 0)])⟩) = some (.ok, []) := by
    decide +kernel
  exact absurd ((h _ _ _ hserve).1 rfl) (by decide)

end Web
