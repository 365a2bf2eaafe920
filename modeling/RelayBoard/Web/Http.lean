import RelayBoard.Web.UpdateRelay

/-! # Requests and Responses

  What the `/api` handlers of `main/web.c` have in common: the responses they
  send, the query parameters they read, and the two checks of the device
  identity. The calls into the HTTP server and into cJSON are parameters.
-/

open CString Relay Settings

namespace Web

/-! ### Responses -/

/-- `httpd_err_code_t`. -/
inductive HttpdErr where
  | badRequest
  | unauthorized
  | forbidden
  | notFound
  | internalServerError
  deriving DecidableEq, Repr

/-- A complete response on the connection of a request. -/
inductive Sent where
  /-- `httpd_resp_send` under a status and a content type. -/
  | resp (status contentType body : CStr)
  /-- `httpd_resp_send_err`; `none` is the default text of `httpd_resp_send_500`. -/
  | err (code : HttpdErr) (text : Option CStr)
  deriving DecidableEq, Repr

/-- `httpd_resp_send_500`. -/
def httpdRespSend500 : Sent := .err .internalServerError none

/-- `HTTPD_200`, the status unless a handler sets one. -/
def status200 : CStr := "200 OK".toList

def applicationJson : CStr := "application/json".toList

/-- `cJSON_PrintUnformatted`; `none` is `NULL`. -/
abbrev Print : Type := Json → Option CStr

/-- `httpd_resp_send` of a printed item under a status. The length of a null text is
    taken before anything is sent: `none` is the panic in `strlen`. -/
def sendPrinted (print : Print) (status : CStr) (v : Json) : Option Sent :=
  (print v).map (Sent.resp status applicationJson)

/-- A response of `update_relay_post_handler`. -/
def Response.sent (print : Print) : Response → Option Sent
  | .json body => sendPrinted print status200 body
  | .badRequest text => some (.err .badRequest (some text))
  | .unauthorized text => some (.err .unauthorized (some text))
  | .internalError => some httpdRespSend500

/-! ### Bodies -/

/-- `MAX_JSON_BUFFER_SIZE`. -/
def maxJsonBufferSize : Nat := 2048

/-- The body of a request to `set_setting_value_post_handler` or
    `api_control_handler`, or the answer to one that is too long, cut off or no JSON. -/
def receiveJson (req : Request) : Except Sent Json :=
  if req.contentLen ≥ maxJsonBufferSize then .error httpdRespSend500
  else if req.received = false then .error httpdRespSend500
  else
    match req.json with
    | none => .error (.err .badRequest (some "Invalid JSON format".toList))
    | some json => .ok json

/-! ### Queries -/

/-- The calls that read the query of a request. -/
structure Query where
  /-- `httpd_req_get_url_query_len`. -/
  queryLen : Nat
  /-- Is there memory for the query while a parameter is extracted? -/
  mallocOk : CStr → Bool
  /-- `httpd_req_get_url_query_str`. -/
  queryStr : Except EspErr CStr
  /-- `httpd_query_key_value` of a query, a name and a buffer size. -/
  keyValue : CStr → CStr → Nat → Except EspErr CStr

/-- `extract_param_value_from_get_query`. -/
def extractParamValueFromGetQuery (q : Query) (name : CStr) (outSz : Nat) :
    Except EspErr CStr :=
  if q.queryLen = 0 then .error .notFound
  else if q.mallocOk name = false then .error .noMem
  else
    match q.queryStr with
    | .error err => .error err
    | .ok query => q.keyValue query name outSz

/-- `validate_device_identity_from_get_query`: it answers a request that fails. -/
def validateDeviceIdentityFromGetQuery {Blob : Type} (nvs : Nvs.Store Blob) (q : Query) :
    Except Sent Unit :=
  match extractParamValueFromGetQuery q "device_id".toList (deviceIdLength + 1) with
  | .error _ => .error (.err .badRequest (some "Missing device_id".toList))
  | .ok deviceIdIn =>
      match extractParamValueFromGetQuery q "device_serial".toList (deviceSerialLength + 1) with
      | .error _ => .error (.err .badRequest (some "Missing device_serial".toList))
      | .ok deviceSerialIn =>
          match Nvs.readString nvs sNamespace sKeyDeviceId with
          | .error _ =>
              .error (.err .internalServerError
                (some "Failed to read device_id from NVS".toList))
          | .ok deviceId =>
              match Nvs.readString nvs sNamespace sKeyDeviceSerial with
              | .error _ =>
                  .error (.err .internalServerError
                    (some "Failed to read device_serial from NVS".toList))
              | .ok deviceSerial =>
                  if deviceIdIn = deviceId ∧ deviceSerialIn = deviceSerial then .ok ()
                  else .error (.err .forbidden (some "Device ID or serial mismatch".toList))

end Web
