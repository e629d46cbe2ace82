import RtcAsr.Python.Value

/-!
# Local STT v1 messages and their validators

The client half of `src/protocols/local_stt_v1.py`: the hot-path constants, the protocol error,
the field checks, the message models with their defaults, and `parseClientMessage`.

A message model validates its fields in the order of their declaration and collects the line
errors of all of them; the protocol error is made from the first one.  A check can also *raise*
(`math.isfinite` on an integer beyond the float range does): such an exception is not a line
error, it ends the validation and leaves the parser as it is (`Validated.raised`).
-/

namespace RtcAsr

/-! ## Constants -/

def PROTOCOL_VERSION : String := "local-stt.v1"
def HOT_PATH_SAMPLE_RATE : ℤ := 16000
def HOT_PATH_CHANNELS : ℤ := 1
def HOT_PATH_PCM_FORMAT : String := "pcm_s16le"
def HOT_PATH_FRAME_MS : ℤ := 20
def HOT_PATH_BYTES_PER_FRAME : ℤ := 640

/-! ## Exceptions -/

/-- `LocalSttProtocolError`. -/
structure LocalSttProtocolError where
  message : String
  code : String := "invalid_message"
  fatal : Bool := true
  retryable : Bool := false
  metadata : Dict := []

/-- `ErrorMessage`, the event a protocol error is reported with. -/
structure ErrorMessage where
  code : String
  message : String
  metadata : Dict := []
  retryable : Bool := false
  fatal : Bool := true

/-- `LocalSttProtocolError.as_event`. -/
def LocalSttProtocolError.asEvent (e : LocalSttProtocolError) : ErrorMessage :=
  ⟨e.code, e.message, e.metadata, e.retryable, e.fatal⟩

/-- The exceptions the connection handlers tell apart: the transport's disconnect, an unavailable
backend, a protocol error, the legacy route's client error, and every other exception. -/
inductive Exn
  | disconnect
  | asrUnavailable (message : String)
  | protocol (error : LocalSttProtocolError)
  | streamClient (message : String) (code : ℕ)
  | builtin (error : PyError)

/-! ## Validation results -/

/-- One line error of a failed validation. -/
structure LineError where
  type : String
  loc : List String
  msg : String

/-- The result of validating a value: the value, the line errors, or an exception that is not a
validation error. -/
inductive Validated (α : Type)
  | valid (value : α)
  | invalid (first : LineError) (rest : List LineError)
  | raised (error : PyError)

namespace Validated

variable {α β : Type}

/-- Put the line errors under a location. -/
def under (part : String) : Validated α → Validated α
  | valid a => valid a
  | invalid e es =>
      invalid { e with loc := part :: e.loc } (es.map fun e => { e with loc := part :: e.loc })
  | raised e => raised e

/-- Validate further what has been validated. -/
def andThen (x : Validated α) (f : α → Validated β) : Validated β :=
  match x with
  | valid a => f a
  | invalid e es => invalid e es
  | raised e => raised e

/-- Validate the next field: an exception ends the validation, line errors are collected. -/
def next (f : Validated (α → β)) (x : Validated α) : Validated β :=
  match f, x with
  | raised e, _ => raised e
  | _, raised e => raised e
  | valid f, valid a => valid (f a)
  | valid _, invalid e es => invalid e es
  | invalid e es, valid _ => invalid e es
  | invalid e es, invalid e' es' => invalid e (es ++ e' :: es')

/-- One line error without a location. -/
def fail (type msg : String) : Validated α := invalid ⟨type, [], msg⟩ []

end Validated

open Validated

/-- A field of a model: its value validated under its name, its default when it is absent, and a
line error when it is absent and required. -/
def field {α : Type} (payload : Dict) (name : String) (default : Option α)
    (validate : Json → Validated α) : Validated α :=
  match payload.get? name, default with
  | some v, _ => (validate v).under name
  | none, some d => valid d
  | none, none => invalid ⟨"missing", [name], "Field required"⟩ []

/-! ## Field checks -/

/-- `_reject_boolean_integer_field` followed by the type `int | None`. -/
def optionalInteger : Json → Validated (Option ℤ)
  | .null => valid none
  | .bool _ => fail "invalid_integer_field" "must be an integer, not a boolean"
  | .int n => valid (some n)
  | _ => fail "invalid_integer_field" "must be an integer"

/-- `_reject_boolean_integer_field` followed by the type `int`: `None` passes the first check and
fails the second. -/
def requiredInteger (v : Json) : Validated ℤ :=
  (optionalInteger v).andThen fun n =>
    match n with
    | some n => valid n
    | none => fail "int_type" "Input should be a valid integer"

/-- `_require_positive_integer_field`. -/
def requirePositiveIntegerField : Option ℤ → Validated (Option ℤ)
  | none => valid none
  | some n =>
    if n < 1 then fail "invalid_integer_field" "must be a positive integer" else valid (some n)

/-- `_reject_boolean_numeric_field` followed by the type `float | None`.  `math.isfinite` raises
`OverflowError` on an integer that has no float. -/
def optionalNumber : Json → Validated (Option PyFloat)
  | .null => valid none
  | .bool _ => fail "invalid_numeric_field" "must be numeric, not a boolean"
  | .int n =>
    match intToFloat n with
    | .ok q => valid (some (.finite q))
    | .error e => raised e
  | .float x =>
    if x.isFinite then valid (some x) else fail "invalid_numeric_field" "must be finite"
  | _ => fail "invalid_numeric_field" "must be numeric"

/-- `_require_finite_numeric_field`. -/
def requireFiniteNumericField : Option PyFloat → Validated (Option PyFloat)
  | none => valid none
  | some x =>
    if x.isFinite then valid (some x) else fail "invalid_numeric_field" "must be finite"

/-- `_require_positive_numeric_field`. -/
def requirePositiveNumericField : Option PyFloat → Validated (Option PyFloat)
  | none => valid none
  | some x =>
    if x.nonpos then fail "invalid_numeric_field" "must be greater than 0" else valid (some x)

/-- `_require_boolean_field`. -/
def requireBooleanField : Json → Validated Bool
  | .bool b => valid b
  | _ => fail "invalid_boolean_field" "must be a boolean"

/-- `_require_metadata_object`. -/
def requireMetadataObject : Json → Validated Dict
  | .obj d => valid d
  | _ => fail "invalid_metadata_field" "must be a JSON object"

/-- `_require_string_field`. -/
def requireStringField : Json → Validated String
  | .str s => valid s
  | _ => fail "invalid_string_field" "must be a string"

/-- `_require_optional_string_field`. -/
def requireOptionalStringField : Json → Validated (Option String)
  | .null => valid none
  | .str s => valid (some s)
  | _ => fail "invalid_string_field" "must be a string"

/-- `Literal[PROTOCOL_VERSION]`. -/
def requireVersion (v : Json) : Validated Unit :=
  if v.isStr PROTOCOL_VERSION then valid ()
    else fail "literal_error" "Input should be 'local-stt.v1'"

/-- A positive integer field: `partial_interval_ms`, `stable_partial_cycles`. -/
def positiveInteger (v : Json) : Validated (Option ℤ) :=
  (optionalInteger v).andThen requirePositiveIntegerField

/-- A positive finite number field: `partial_window_seconds`, `max_buffer_seconds`. -/
def positiveNumber (v : Json) : Validated (Option PyFloat) :=
  ((optionalNumber v).andThen requireFiniteNumericField).andThen requirePositiveNumericField

/-- `timestamp_ms`, with its constraint `ge=0`. -/
def nonnegativeInteger (v : Json) : Validated (Option ℤ) :=
  (optionalInteger v).andThen fun n =>
    match n with
    | some n =>
      if n < 0 then fail "greater_than_equal" "Input should be greater than or equal to 0"
      else valid (some n)
    | none => valid none

/-! ## Models -/

/-- `AudioFormat`. -/
structure AudioFormat where
  sampleRate : ℤ
  channels : ℤ
  format : String
  frameMs : ℤ := HOT_PATH_FRAME_MS
  bytesPerFrame : Option ℤ := none
  deriving DecidableEq, Repr

/-- `AudioFormat.validate_hot_path`. -/
def AudioFormat.validateHotPath (a : AudioFormat) : Validated AudioFormat :=
  if a.sampleRate ≠ HOT_PATH_SAMPLE_RATE then
    fail "unsupported_audio_format" "audio.sample_rate must be 16000"
  else if a.channels ≠ HOT_PATH_CHANNELS then
    fail "unsupported_audio_format" "audio.channels must be 1"
  else if a.format ≠ HOT_PATH_PCM_FORMAT then
    fail "unsupported_audio_format" "audio.format must be pcm_s16le"
  else if a.frameMs ≠ HOT_PATH_FRAME_MS then
    fail "unsupported_audio_format" "audio.frame_ms must be 20"
  else if a.bytesPerFrame.isSome ∧ a.bytesPerFrame ≠ some HOT_PATH_BYTES_PER_FRAME then
    fail "unsupported_audio_format" "audio.bytes_per_frame must be 640"
  else valid a

/-- Validation of an `AudioFormat`. -/
def validateAudioFormat : Json → Validated AudioFormat
  | .obj d =>
    ((((((valid AudioFormat.mk).next
      (field d "sample_rate" none requiredInteger)).next
      (field d "channels" none requiredInteger)).next
      (field d "format" none requireStringField)).next
      (field d "frame_ms" (some HOT_PATH_FRAME_MS) requiredInteger)).next
      (field d "bytes_per_frame" (some none) optionalInteger)).andThen
      AudioFormat.validateHotPath
  | _ => fail "model_type" "Input should be a valid dictionary or instance of AudioFormat"

/-- `StartMessage`; `type` and `version` have one value each. -/
structure StartMessage where
  audio : AudioFormat
  language : Option String := none
  interimResults : Bool := true
  partialIntervalMs : Option ℤ := none
  partialWindowSeconds : Option PyFloat := none
  maxBufferSeconds : Option PyFloat := none
  finalizeOnStablePartial : Bool := false
  stablePartialCycles : Option ℤ := none
  clientStreamId : Option String := none
  metadata : Dict := []

/-- Validation of a `StartMessage`, the fields in the order of the class. -/
def validateStart (d : Dict) : Validated StartMessage :=
  (((((((((((valid fun _ : Unit => StartMessage.mk).next
    (field d "version" none requireVersion)).next
    (field d "audio" none validateAudioFormat)).next
    (field d "language" (some none) requireOptionalStringField)).next
    (field d "interim_results" (some true) requireBooleanField)).next
    (field d "partial_interval_ms" (some none) positiveInteger)).next
    (field d "partial_window_seconds" (some none) positiveNumber)).next
    (field d "max_buffer_seconds" (some none) positiveNumber)).next
    (field d "finalize_on_stable_partial" (some false) requireBooleanField)).next
    (field d "stable_partial_cycles" (some none) positiveInteger)).next
    (field d "client_stream_id" (some none) requireOptionalStringField)).next
    (field d "metadata" (some []) requireMetadataObject)

/-- The fields of `PingMessage` and of `PongMessage`. -/
structure Heartbeat where
  pingId : Option String := none
  timestampMs : Option ℤ := none
  metadata : Dict := []

/-- Validation of a `PingMessage` or a `PongMessage`. -/
def validateHeartbeat (d : Dict) : Validated Heartbeat :=
  (((valid Heartbeat.mk).next
    (field d "ping_id" (some none) requireOptionalStringField)).next
    (field d "timestamp_ms" (some none) nonnegativeInteger)).next
    (field d "metadata" (some []) requireMetadataObject)

/-- `ClientMessage`, the union discriminated by `type`. -/
inductive ClientMessage
  | start (message : StartMessage)
  | finalize
  | cancel
  | close
  | ping (message : Heartbeat)
  | pong (message : Heartbeat)

/-- Validate the member of the union the tag selects. -/
def validateTagged (d : Dict) : String → Option (Validated ClientMessage)
  | "start" => some (((validateStart d).under "start").andThen fun m => valid (.start m))
  | "finalize" => some (valid .finalize)
  | "cancel" => some (valid .cancel)
  | "close" => some (valid .close)
  | "ping" => some (((validateHeartbeat d).under "ping").andThen fun m => valid (.ping m))
  | "pong" => some (((validateHeartbeat d).under "pong").andThen fun m => valid (.pong m))
  | _ => none

/-- Validation against `ClientMessage`. -/
def validateClientMessage (d : Dict) : Validated ClientMessage :=
  match d.get? "type" with
  | none => fail "union_tag_not_found" "Unable to extract tag using discriminator 'type'"
  | some (.str tag) =>
    match validateTagged d tag with
    | some v => v
    | none => fail "union_tag_invalid" tag
  | some _ => fail "union_tag_invalid" "unknown"

/-! ## Protocol errors from validation errors -/

/-- `_error_code_from_validation`. -/
def errorCodeFromValidation (type : String) : String :=
  if type ∈ ["unsupported_audio_format", "invalid_timing_metadata", "invalid_integer_field",
      "invalid_numeric_field", "invalid_boolean_field", "invalid_string_field",
      "invalid_metadata_field"] then type
  else if type = "union_tag_invalid" then "unsupported_message_type"
  else "invalid_message"

/-- The location prefixes `_protocol_error_from_validation` drops. -/
def messageTags : List String :=
  ["start", "finalize", "cancel", "close", "ping", "ready", "transcript", "warning", "error",
    "pong", "closed"]

/-- The location of a line error without the tag of the union member. -/
def withoutTag : List String → List String
  | [] => []
  | part :: parts => if part ∈ messageTags then parts else part :: parts

/-- `_protocol_error_from_validation`.  The tag of an unknown message type is text for a string
tag; the rendering of other tags is left out. -/
def protocolErrorFromValidation (error : LineError) : LocalSttProtocolError :=
  let code := errorCodeFromValidation error.type
  if code = "unsupported_message_type" then
    { message := "Unsupported Local STT v1 message type: " ++ error.msg, code := code }
  else
    let location := String.intercalate "." (withoutTag error.loc)
    { message := if location = "" then error.msg else location ++ ": " ++ error.msg, code := code }

/-- `_validate_message`: line errors become a protocol error, an exception passes through. -/
def validateMessage {α : Type} : Validated α → Except Exn α
  | .valid a => .ok a
  | .invalid e _ => .error (.protocol (protocolErrorFromValidation e))
  | .raised e => .error (.builtin e)

/-- `parse_client_message`. -/
def parseClientMessage (payload : Dict) : Except Exn ClientMessage :=
  validateMessage (validateClientMessage payload)

/-! ## Dumping a validated start message -/

/-- `None` or a value. -/
def Json.ofOption {α : Type} (f : α → Json) : Option α → Json
  | none => .null
  | some a => f a

/-- `AudioFormat.model_dump`. -/
def AudioFormat.modelDump (a : AudioFormat) : Dict :=
  [("sample_rate", .int a.sampleRate), ("channels", .int a.channels), ("format", .str a.format),
    ("frame_ms", .int a.frameMs), ("bytes_per_frame", .ofOption .int a.bytesPerFrame)]

/-- `StartMessage.model_dump`. -/
def StartMessage.modelDump (m : StartMessage) : Dict :=
  [("type", .str "start"), ("version", .str PROTOCOL_VERSION), ("audio", .obj m.audio.modelDump),
    ("language", .ofOption .str m.language), ("interim_results", .bool m.interimResults),
    ("partial_interval_ms", .ofOption .int m.partialIntervalMs),
    ("partial_window_seconds", .ofOption .float m.partialWindowSeconds),
    ("max_buffer_seconds", .ofOption .float m.maxBufferSeconds),
    ("finalize_on_stable_partial", .bool m.finalizeOnStablePartial),
    ("stable_partial_cycles", .ofOption .int m.stablePartialCycles),
    ("client_stream_id", .ofOption .str m.clientStreamId), ("metadata", .obj m.metadata)]

/-! ## Audio payloads -/

/-- `validate_audio_chunk` on bytes. -/
def validateAudioChunk (chunk : Bytes) : Except Exn Bytes :=
  if chunk = [] then
    .error (.protocol
      { message := "Audio frames must not be empty", code := "invalid_audio_chunk" })
  else if chunk.length % 2 ≠ 0 then
    .error (.protocol
      { message := "PCM16 audio frames must contain an even number of bytes",
        code := "invalid_audio_chunk" })
  else .ok chunk

end RtcAsr
