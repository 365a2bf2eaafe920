/-! # Result Codes

  The `esp_err_t` values the modelled functions return. A function that may
  end in `ESP_ERROR_CHECK` on a failure, in a failed `assert`, or in a null
  dereference returns an `Option`: `none` is the panic that reboots the chip.
-/

/-- `esp_err_t`. -/
inductive EspErr where
  | ok
  | fail
  | noMem
  | invalidArg
  | invalidState
  | invalidSize
  | notFound
  | notSupported
  | nvsBase
  | nvsNotFound
  | nvsTypeMismatch
  | nvsInvalidLength
  | nvsKeyTooLong
  deriving DecidableEq, Repr

/-- `esp_err_to_name`. -/
def EspErr.name : EspErr → List Char
  | .ok => "ESP_OK".toList
  | .fail => "ESP_FAIL".toList
  | .noMem => "ESP_ERR_NO_MEM".toList
  | .invalidArg => "ESP_ERR_INVALID_ARG".toList
  | .invalidState => "ESP_ERR_INVALID_STATE".toList
  | .invalidSize => "ESP_ERR_INVALID_SIZE".toList
  | .notFound => "ESP_ERR_NOT_FOUND".toList
  | .notSupported => "ESP_ERR_NOT_SUPPORTED".toList
  | .nvsBase => "ESP_ERR_NVS_BASE".toList
  | .nvsNotFound => "ESP_ERR_NVS_NOT_FOUND".toList
  | .nvsTypeMismatch => "ESP_ERR_NVS_TYPE_MISMATCH".toList
  | .nvsInvalidLength => "ESP_ERR_NVS_INVALID_LENGTH".toList
  | .nvsKeyTooLong => "ESP_ERR_NVS_KEY_TOO_LONG".toList

/-- The number of a result code. -/
def EspErr.code : EspErr → Int
  | .ok => 0
  | .fail => -1
  | .noMem => 257
  | .invalidArg => 258
  | .invalidState => 259
  | .invalidSize => 260
  | .notFound => 261
  | .notSupported => 262
  | .nvsBase => 4352
  | .nvsNotFound => 4354
  | .nvsTypeMismatch => 4355
  | .nvsInvalidLength => 4364
  | .nvsKeyTooLong => 4361
