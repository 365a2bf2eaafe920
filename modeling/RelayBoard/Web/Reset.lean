import RelayBoard.Web.Api
import RelayBoard.Web.Form
import RelayBoard.Web.SettingUpdate

/-! # The Reset Request

  `reset_post_handler` of `main/web.c`, and the three resets of `main/settings.c`
  that it chooses from.
-/

open CString Relay Settings

namespace Web

variable {Blob : Type}

/-! ### Resets -/

/-- `WIFI_NAMESPACE`. -/
def wifiNamespace : CStr := "nvs.net80211".toList

/-- What an erasure does: its result, and what is left in NVS when it fails. -/
structure Erasure (Blob : Type) where
  ret : EspErr
  left : Nvs.Store Blob

/-- NVS after an erasure that leaves `erased` when it succeeds. -/
def Erasure.store (e : Erasure Blob) (erased : Nvs.Store Blob) : Nvs.Store Blob :=
  if e.ret = .ok then erased else e.left

/-- `nvs_erase_all` of a namespace. -/
def eraseAll (nvs : Nvs.Store Blob) (ns : CStr) : Nvs.Store Blob :=
  fun ns' key => if ns' = ns then none else nvs ns' key

/-- `reset_factory_settings`. -/
def resetFactorySettings (e : Erasure Blob) : EspErr × Nvs.Store Blob :=
  (e.ret, e.store Nvs.empty)

/-- `reset_device_settings`. -/
def resetDeviceSettings (e : Erasure Blob) (nvs : Nvs.Store Blob) : EspErr × Nvs.Store Blob :=
  (e.ret, e.store (eraseAll nvs sNamespace))

/-- `reset_wifi_settings`. -/
def resetWifiSettings (e : Erasure Blob) (nvs : Nvs.Store Blob) : EspErr × Nvs.Store Blob :=
  (e.ret, e.store (eraseAll nvs wifiNamespace))

/-! ### The Handler -/

/-- The end of the handler: a successful action is followed by a reboot. -/
def finishReset (action : EspErr × Nvs.Store Blob) : Handled Blob :=
  if action.1 = .ok then ⟨rebootHandler.1, rebootHandler.2, true, action.2⟩
  else ⟨action.1, [httpdRespSend500], false, action.2⟩

/-- The `switch` over the action. -/
def resetAction (e : Erasure Blob) (nvs : Nvs.Store Blob) (action : Int) : Handled Blob :=
  if action = 0 then finishReset (resetFactorySettings e)
  else if action = 1 then finishReset (resetDeviceSettings e nvs)
  else if action = 2 then finishReset (resetWifiSettings e nvs)
  else if action = 9 then finishReset (systemReboot, nvs)
  else .refused nvs (.err .notFound none)

/-- `reset_post_handler` from the text in its buffer; `none` is a failed
    `ESP_ERROR_CHECK` of the stored identity. -/
def resetRequest (e : Erasure Blob) (nvs : Nvs.Store Blob) (buf : CStr) :
    Option (Handled Blob) :=
  match Nvs.readString nvs sNamespace sKeyDeviceId,
      Nvs.readString nvs sNamespace sKeyDeviceSerial with
  | .ok deviceId, .ok deviceSerial =>
      let receivedDeviceId := extractParamValue buf "device_id=".toList (deviceIdLength + 1)
      let receivedDeviceSerial :=
        extractParamValue buf "device_serial=".toList (deviceSerialLength + 1)
      let action := atoi (extractParamValue buf "action=".toList 8)
      if deviceId ≠ receivedDeviceId ∨ deviceSerial ≠ receivedDeviceSerial then
        some (.refused nvs (.err .forbidden (some "Device validation failed".toList)))
      else some (resetAction e nvs action)
  | _, _ => none

/-- `reset_post_handler`; a failed receive is not answered. -/
def resetPostHandler (e : Erasure Blob) (nvs : Nvs.Store Blob) (req : FormRequest) :
    Option (Handled Blob) :=
  match recvBody req.recvs req.contentLen (List.replicate 1024 nul) with
  | none => none
  | some (.error err) => some ⟨err, [], false, nvs⟩
  | some (.ok buf) => (bufText buf).bind (resetRequest e nvs)

/-- A request whose text is in the buffer. -/
theorem resetPostHandler_of_formText (e : Erasure Blob) (nvs : Nvs.Store Blob)
    {req : FormRequest} {text : CStr} (h : formText 1024 req = some text) :
    resetPostHandler e nvs req = resetRequest e nvs text := by
  unfold formText at h
  unfold resetPostHandler
  split at h
  · next buf hbuf =>
      rw [hbuf]
      dsimp only
      rw [h]
      rfl
  · cases h

/-- No action is answered like a refused identity. -/
theorem resetAction_ne_refused (e : Erasure Blob) (nvs : Nvs.Store Blob) (action : Int) :
    resetAction e nvs action ≠
      .refused nvs (.err .forbidden (some "Device validation failed".toList)) := by
  have hfinish : ∀ result : EspErr × Nvs.Store Blob, finishReset result ≠
      .refused nvs (.err .forbidden (some "Device validation failed".toList)) := by
    intro result heq
    have hsent := congrArg Handled.sent heq
    unfold finishReset at hsent
    split at hsent <;> cases hsent
  unfold resetAction
  split
  · exact hfinish _
  · split
    · exact hfinish _
    · split
      · exact hfinish _
      · split
        · exact hfinish _
        · intro heq
          cases congrArg Handled.sent heq

end Web
