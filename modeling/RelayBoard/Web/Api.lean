import RelayBoard.Certificate.CaCertManager
import RelayBoard.Web.Http

/-! # Units, Certificates and Control over HTTP

  `relays_data_get_handler`, `get_ca_certificate_handler` and
  `api_control_handler` of `main/web.c`, and the `reboot_handler` that the
  last one continues with. A handler that panics or restarts the device
  before it returns is `none`.
-/

open CString NvsLarge CaCertManager Relay Settings

namespace Web

/-! ### Unit Data -/

/-- Which objects of the answer find memory, which units are serialized, and cJSON's
    printing. -/
structure RelaysOutcomes where
  responseOk : Bool
  relayArrayOk : Bool
  /-- The array of `get_all_relay_units`. -/
  relayListOk : Bool
  serializes : RelayUnit → Bool
  statusOk : Bool
  print : Print

/-- The body of the answer of `relays_data_get_handler`. -/
def relaysResponse (o : RelaysOutcomes) (relayList : List RelayUnit) : Json :=
  .object [("data".toList, .array ((relayList.filter o.serializes).map serializeRelayUnit)),
    ("status".toList, .object [("count".toList, .number relayList.length),
      ("code".toList, .number 0), ("text".toList, .string "ok".toList)])]

/-- `relays_data_get_handler`; it returns the result of the send. -/
def relaysDataGetHandler (o : RelaysOutcomes) (env : Env) (b : Board) :
    Option (EspErr × List Sent) :=
  if o.responseOk = false then some (.fail, [httpdRespSend500])
  else if o.relayArrayOk = false then some (.fail, [httpdRespSend500])
  else
    match getAllRelayUnits env b with
    | none => none
    | some (relayList, _) =>
        if o.relayListOk = false then some (.fail, [httpdRespSend500])
        else if o.statusOk = false then some (.fail, [httpdRespSend500])
        else
          match o.print (relaysResponse o relayList) with
          | none => some (.fail, [httpdRespSend500])
          | some jsonResponse =>
              some (.ok, [.resp status200 applicationJson jsonResponse])

/-! ### Certificates -/

/-- The outcomes of a certificate request: memory for its answer, cJSON's printing, and
    what `load_ca_certificate` meets. -/
structure CertOutcomes where
  rootOk : Bool
  print : Print
  writeOk : Nat → Bool
  mallocOk : Bool
  spiffs : CStr → Option CStr

/-- The root object with its items replaced. -/
def certRoot (cert type : CStr) (size : Nat) (status : Int) (msg : CStr) : Json :=
  .object [("cert".toList, .string cert), ("type".toList, .string type),
    ("size".toList, .number size), ("status".toList, .number status),
    ("msg".toList, .string msg)]

/-- A plain text under status 500. -/
def sendPlain500 (text : CStr) : Sent :=
  .resp "500 Internal Server Error".toList "text/plain".toList text

/-- The end of every path: the root is printed and sent. -/
def sendCertRoot (print : Print) (status : CStr) (root : Json) : EspErr × List Sent :=
  match print root with
  | none => (.fail, [sendPlain500 "OOM: failed to serialize JSON".toList])
  | some out => (.ok, [.resp status applicationJson out])

/-- `get_ca_certificate_handler` once the identity is accepted. A load whose result is
    undefined does not return. -/
def getCaCertificate (o : CertOutcomes) (nvs : LargeStore) (q : Query) :
    Option (EspErr × List Sent) :=
  let caType := extractParamValueFromGetQuery q "ca_type".toList 8
  match caType with
  | .error err =>
      some (sendCertRoot o.print "400 Bad Request".toList
        (certRoot [] [] 0 err.code "missing or invalid ca_type".toList))
  | .ok caType =>
      if caType = [] then
        some (sendCertRoot o.print "400 Bad Request".toList
          (certRoot [] [] 0 EspErr.ok.code "missing or invalid ca_type".toList))
      else if caType ≠ "https".toList ∧ caType ≠ "mqtts".toList then
        some (sendCertRoot o.print "400 Bad Request".toList
          (certRoot [] [] 0 3 "ca_type must be 'https' or 'mqtts'".toList))
      else
        let certPath := if caType = "https".toList then caCertPathHttps else caCertPathMqtts
        match (loadCaCertificate o.writeOk o.mallocOk o.spiffs nvs (some certPath)).1 with
        | .undefined => none
        | .ok (some cert) =>
            some (sendCertRoot o.print status200 (certRoot cert caType cert.length 0 []))
        | .ok none =>
            some (sendCertRoot o.print "500 Internal Server Error".toList
              (certRoot [] caType 0 4 "failed to load certificate".toList))
        | .error _ =>
            some (sendCertRoot o.print "500 Internal Server Error".toList
              (certRoot [] caType 0 4 "failed to load certificate".toList))

/-- `get_ca_certificate_handler`. The validation of the identity has answered already
    when it fails. -/
def getCaCertificateHandler (o : CertOutcomes) (nvs : LargeStore) (q : Query) :
    Option (EspErr × List Sent) :=
  if o.rootOk = false then
    some (.fail, [sendPlain500 "OOM: failed to allocate JSON object".toList])
  else
    match validateDeviceIdentityFromGetQuery nvs q with
    | .error response =>
        let (ret, sent) := sendCertRoot o.print "401 Unauthorized".toList
          (certRoot [] [] 0 EspErr.fail.code "Device identity validation failed".toList)
        some (ret, response :: sent)
    | .ok () => getCaCertificate o nvs q

/-! ### Control -/

/-- `system_reboot` starts a task and succeeds. -/
def systemReboot : EspErr := .ok

/-- The page of `reboot_handler`. -/
def rebootHtml : CStr :=
  "<html><head><title>Rebooting...</title>".toList ++
    "<meta http-equiv=\"refresh\" content=\"30;url=/\" />".toList ++
    "<script>setTimeout(function() \x7b window.location.href = '/'; \x7d, 30000);".toList ++
    "</script></head><body><h2>Device is rebooting...</h2>".toList ++
    "<p>Please wait, you will be redirected to the <a href=\"/\">home page</a>".toList ++
    " in 30 seconds.</p></body></html>".toList

/-- `reboot_handler`. -/
def rebootHandler : EspErr × List Sent :=
  (.ok, [.resp status200 "text/html".toList rebootHtml])

/-- A status and a message, as `api_control_handler` answers. -/
def controlResponse (status : Int) (message : CStr) : Json :=
  .object [("status".toList, .number status), ("message".toList, .string message)]

/-- The answer on a reboot by `system_reboot`. -/
def rebootingResponse : Json := controlResponse 0 "Rebooting device".toList

/-- Action 1: `esp_restart` and `abort` do not return. -/
def controlRestart (print : Print) (jsonRequest : Json) : Option (EspErr × List Sent) :=
  match jsonRequest.getObjectItem "params".toList with
  | none =>
      some (.fail, [.err .badRequest
        (some "Missing 'params' object required for action".toList)])
  | some params =>
      match numberItem params "mode".toList with
      | none =>
          some (.fail, [.err .badRequest (some "Invalid or missing 'mode' parameter".toList)])
      | some mode =>
          if mode = 0 then
            if systemReboot = .ok then
              match sendPrinted print status200 rebootingResponse with
              | none => none
              | some response => some (rebootHandler.1, response :: rebootHandler.2)
            else
              some (.fail, [.err .internalServerError
                (some "Failed to initiate reboot".toList)])
          else if mode = 1 then none
          else if mode = 2 then none
          else some (.fail, [.err .badRequest (some "Unknown reboot mode".toList)])

/-- The `switch` over the action. -/
def controlAction (print : Print) (jsonRequest : Json) (action : Int) :
    Option (EspErr × List Sent) :=
  if action = 0 then some (.ok, [])
  else if action = 1 then controlRestart print jsonRequest
  else if action = 2 then
    (sendPrinted print "400 Bad Request".toList
      (controlResponse 1 "Service restart not implemented yet".toList)).map
        fun response => (.ok, [response])
  else
    (sendPrinted print "400 Bad Request".toList
      (controlResponse 2 ("Unknown action code: ".toList ++ decimal action))).map
        fun response => (.fail, [response])

/-- `api_control_handler`. A failed validation of the identity is not answered. -/
def apiControlHandler (print : Print) (nvs : Nvs.Store RelayUnit) (req : Request) :
    Option (EspErr × List Sent) :=
  match receiveJson req with
  | .error response => some (.fail, [response])
  | .ok jsonRequest =>
      if validateDeviceIdentityFromJson nvs jsonRequest ≠ .ok then some (.fail, [])
      else
        match numberItem jsonRequest "action".toList with
        | none =>
            some (.fail, [.err .badRequest (some "Missing or invalid action".toList)])
        | some action => controlAction print jsonRequest action

end Web
