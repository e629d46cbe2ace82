import RtcAsr.Protocol.RawUds

/-!
# Server messages and the message encoders

The server half of `src/protocols/local_stt_v1.py`: the server message models with
`parseServerMessage`, the dumps the raw-UDS encoders send, the encoders of both directions, and
`parseRawUdsServerFrame`.

`json.dumps` is a parameter like `json.loads`: it gives the bytes of a text, or raises (on an
integer of too many digits, or a nesting that is too deep).
-/

namespace RtcAsr

open Validated

/-! ## Server messages -/

/-- `ReadyMessage`; `type` and `version` have one value each. -/
structure ReadyMessage where
  audio : AudioFormat
  interimResults : Bool := true
  metadata : Dict := []

/-- `TranscriptMessage`. -/
structure TranscriptMessage where
  text : String
  isFinal : Bool
  speechFinal : Bool
  revision : ℤ
  audioReceivedMs : ℤ
  audioTranscribedMs : ℤ
  metadata : Dict := []
  language : Option String := none

/-- `WarningMessage`. -/
structure WarningMessage where
  code : String
  message : String
  metadata : Dict := []
  retryable : Bool := false

/-- `ClosedMessage`. -/
structure ClosedMessage where
  reason : String
  metadata : Dict := []

/-- `ServerMessage`, the union discriminated by `type`. -/
inductive ServerMessage
  | ready (message : ReadyMessage)
  | transcript (message : TranscriptMessage)
  | warning (message : WarningMessage)
  | error (message : ErrorMessage)
  | ping (message : Heartbeat)
  | pong (message : Heartbeat)
  | closed (message : ClosedMessage)

/-! ## Validation -/

/-- A required integer with a lower bound `ge`. -/
def integerAtLeast (bound : ℤ) (v : Json) : Validated ℤ :=
  (requiredInteger v).andThen fun n =>
    if n < bound then
      fail "greater_than_equal" ("Input should be greater than or equal to " ++ toString bound)
    else valid n

/-- Validation of a `ReadyMessage`. -/
def validateReady (d : Dict) : Validated ReadyMessage :=
  ((((valid fun _ : Unit => ReadyMessage.mk).next
    (field d "version" none requireVersion)).next
    (field d "audio" none validateAudioFormat)).next
    (field d "interim_results" (some true) requireBooleanField)).next
    (field d "metadata" (some []) requireMetadataObject)

/-- `TranscriptMessage.validate_timing`. -/
def TranscriptMessage.validateTiming (m : TranscriptMessage) : Validated TranscriptMessage :=
  if m.audioReceivedMs < m.audioTranscribedMs then
    fail "invalid_timing_metadata"
      "audio_transcribed_ms must be less than or equal to audio_received_ms"
  else if m.isFinal = true ∧ m.revision < 1 then
    fail "invalid_transcript_revision" "final transcripts must include a positive revision"
  else valid m

/-- Validation of a `TranscriptMessage`. -/
def validateTranscript (d : Dict) : Validated TranscriptMessage :=
  (((((((((valid TranscriptMessage.mk).next
    (field d "text" none requireStringField)).next
    (field d "is_final" none requireBooleanField)).next
    (field d "speech_final" none requireBooleanField)).next
    (field d "revision" none (integerAtLeast 1))).next
    (field d "audio_received_ms" none (integerAtLeast 0))).next
    (field d "audio_transcribed_ms" none (integerAtLeast 0))).next
    (field d "metadata" (some []) requireMetadataObject)).next
    (field d "language" (some none) requireOptionalStringField)).andThen
    TranscriptMessage.validateTiming

/-- Validation of a `WarningMessage`. -/
def validateWarning (d : Dict) : Validated WarningMessage :=
  ((((valid WarningMessage.mk).next
    (field d "code" none requireStringField)).next
    (field d "message" none requireStringField)).next
    (field d "metadata" (some []) requireMetadataObject)).next
    (field d "retryable" (some false) requireBooleanField)

/-- Validation of an `ErrorMessage`. -/
def validateError (d : Dict) : Validated ErrorMessage :=
  (((((valid ErrorMessage.mk).next
    (field d "code" none requireStringField)).next
    (field d "message" none requireStringField)).next
    (field d "metadata" (some []) requireMetadataObject)).next
    (field d "retryable" (some false) requireBooleanField)).next
    (field d "fatal" (some true) requireBooleanField)

/-- Validation of a `ClosedMessage`. -/
def validateClosed (d : Dict) : Validated ClosedMessage :=
  ((valid ClosedMessage.mk).next
    (field d "reason" none requireStringField)).next
    (field d "metadata" (some []) requireMetadataObject)

/-- Validate the member of the server union the tag selects. -/
def validateServerTagged (d : Dict) : String → Option (Validated ServerMessage)
  | "ready" => some (((validateReady d).under "ready").andThen fun m => valid (.ready m))
  | "transcript" =>
    some (((validateTranscript d).under "transcript").andThen fun m => valid (.transcript m))
  | "warning" => some (((validateWarning d).under "warning").andThen fun m => valid (.warning m))
  | "error" => some (((validateError d).under "error").andThen fun m => valid (.error m))
  | "ping" => some (((validateHeartbeat d).under "ping").andThen fun m => valid (.ping m))
  | "pong" => some (((validateHeartbeat d).under "pong").andThen fun m => valid (.pong m))
  | "closed" => some (((validateClosed d).under "closed").andThen fun m => valid (.closed m))
  | _ => none

/-- Validation against `ServerMessage`. -/
def validateServerMessage (d : Dict) : Validated ServerMessage :=
  match d.get? "type" with
  | none => fail "union_tag_not_found" "Unable to extract tag using discriminator 'type'"
  | some (.str tag) =>
    match validateServerTagged d tag with
    | some v => v
    | none => fail "union_tag_invalid" tag
  | some _ => fail "union_tag_invalid" "unknown"

/-- `parse_server_message`. -/
def parseServerMessage (payload : Dict) : Except Exn ServerMessage :=
  validateMessage (validateServerMessage payload)

/-! ## Dumps

Each list holds every field of the model in the order of the class. -/

/-- The bindings whose value is not `None`: `exclude_none` on the fields of one model. -/
def excludeNone (d : Dict) : Dict := d.filter fun b => !b.2.isNull

/-- The fields of a `StartMessage`; those of its audio format are dumped without `None`. -/
def StartMessage.fields (m : StartMessage) : Dict :=
  [("type", .str "start"), ("version", .str PROTOCOL_VERSION),
    ("audio", .obj (excludeNone m.audio.modelDump)), ("language", .ofOption .str m.language),
    ("interim_results", .bool m.interimResults),
    ("partial_interval_ms", .ofOption .int m.partialIntervalMs),
    ("partial_window_seconds", .ofOption .float m.partialWindowSeconds),
    ("max_buffer_seconds", .ofOption .float m.maxBufferSeconds),
    ("finalize_on_stable_partial", .bool m.finalizeOnStablePartial),
    ("stable_partial_cycles", .ofOption .int m.stablePartialCycles),
    ("client_stream_id", .ofOption .str m.clientStreamId), ("metadata", .obj m.metadata)]

/-- The fields of a `PingMessage` or a `PongMessage`. -/
def Heartbeat.fields (type : String) (m : Heartbeat) : Dict :=
  [("type", .str type), ("ping_id", .ofOption .str m.pingId),
    ("timestamp_ms", .ofOption .int m.timestampMs), ("metadata", .obj m.metadata)]

/-- The fields of a client message. -/
def ClientMessage.fields : ClientMessage → Dict
  | .start m => m.fields
  | .finalize => [("type", .str "finalize")]
  | .cancel => [("type", .str "cancel")]
  | .close => [("type", .str "close")]
  | .ping m => m.fields "ping"
  | .pong m => m.fields "pong"

/-- The fields of a `ReadyMessage`. -/
def ReadyMessage.fields (m : ReadyMessage) : Dict :=
  [("type", .str "ready"), ("version", .str PROTOCOL_VERSION),
    ("audio", .obj (excludeNone m.audio.modelDump)), ("interim_results", .bool m.interimResults),
    ("metadata", .obj m.metadata)]

/-- The fields of a `TranscriptMessage`. -/
def TranscriptMessage.fields (m : TranscriptMessage) : Dict :=
  [("type", .str "transcript"), ("text", .str m.text), ("is_final", .bool m.isFinal),
    ("speech_final", .bool m.speechFinal), ("revision", .int m.revision),
    ("audio_received_ms", .int m.audioReceivedMs),
    ("audio_transcribed_ms", .int m.audioTranscribedMs), ("metadata", .obj m.metadata),
    ("language", .ofOption .str m.language)]

/-- The fields of a `WarningMessage`. -/
def WarningMessage.fields (m : WarningMessage) : Dict :=
  [("type", .str "warning"), ("code", .str m.code), ("message", .str m.message),
    ("metadata", .obj m.metadata), ("retryable", .bool m.retryable)]

/-- The fields of an `ErrorMessage`. -/
def ErrorMessage.fields (m : ErrorMessage) : Dict :=
  [("type", .str "error"), ("code", .str m.code), ("message", .str m.message),
    ("metadata", .obj m.metadata), ("retryable", .bool m.retryable), ("fatal", .bool m.fatal)]

/-- The fields of a `ClosedMessage`. -/
def ClosedMessage.fields (m : ClosedMessage) : Dict :=
  [("type", .str "closed"), ("reason", .str m.reason), ("metadata", .obj m.metadata)]

/-- The fields of a server message. -/
def ServerMessage.fields : ServerMessage → Dict
  | .ready m => m.fields
  | .transcript m => m.fields
  | .warning m => m.fields
  | .error m => m.fields
  | .ping m => m.fields "ping"
  | .pong m => m.fields "pong"
  | .closed m => m.fields

/-- `_raw_uds_message_payload` on a client message: `model_dump(exclude_none=True)`. -/
def ClientMessage.rawUdsMessagePayload (m : ClientMessage) : Dict := excludeNone m.fields

/-- `_raw_uds_message_payload` on a server message. -/
def ServerMessage.rawUdsMessagePayload (m : ServerMessage) : Dict := excludeNone m.fields

/-- The bindings `_compact_raw_uds_message_payload` pops: an empty `metadata`, and a
`finalize_on_stable_partial` that is `False`. -/
def isPopped : String × Json → Bool
  | ("metadata", .obj []) => true
  | ("finalize_on_stable_partial", .bool false) => true
  | _ => false

/-- `_compact_raw_uds_message_payload`, on the dump of the message. -/
def compactRawUdsMessagePayload (payload : Dict) : Dict := payload.filter fun b => !isPopped b

/-! ## Encoders -/

/-- A heartbeat without a field: its frame has no payload. -/
def Heartbeat.isPlain (m : Heartbeat) : Bool :=
  m.pingId.isNone && m.timestampMs.isNone && m.metadata.isEmpty

/-- `encode_raw_uds_json_frame`, `dumps` being `json.dumps` with the compact separators, encoded
as UTF-8. -/
def encodeRawUdsJsonFrame (dumps : Json → Except PyError Bytes) (frameType : RawUdsFrameType)
    (payload : Dict) : Except Exn Bytes :=
  if frameType = .audioPcm16 then
    .error (.protocol
      { message := "Raw UDS frame type " ++ frameType.name ++ " cannot carry JSON control data",
        code := "raw_uds_invalid_json_frame_type" })
  else do
    let jsonPayload ← liftError .builtin (dumps (.obj payload))
    encodeRawUdsFrame frameType jsonPayload

/-- The frame type a client message is sent with. -/
def ClientMessage.frameType : ClientMessage → RawUdsFrameType
  | .ping _ => .ping
  | .pong _ => .pong
  | _ => .jsonControl

/-- The message is a ping or a pong without a field. -/
def ClientMessage.isPlainHeartbeat : ClientMessage → Bool
  | .ping m => m.isPlain
  | .pong m => m.isPlain
  | _ => false

/-- `encode_raw_uds_client_message`, on the dictionary `_raw_uds_message_payload` makes of its
argument. -/
def encodeRawUdsClientMessage (dumps : Json → Except PyError Bytes) (payload : Dict) :
    Except Exn Bytes := do
  let normalized ← normalizeRawUdsControlPayload payload
  let message ← parseClientMessage normalized
  if message.isPlainHeartbeat = true then encodeRawUdsFrame message.frameType []
  else
    encodeRawUdsJsonFrame dumps message.frameType
      (compactRawUdsMessagePayload (excludeNone message.fields))

/-- The frame type a server message is sent with. -/
def ServerMessage.frameType : ServerMessage → RawUdsFrameType
  | .error _ => .error
  | .ping _ => .ping
  | .pong _ => .pong
  | _ => .jsonEvent

/-- The message is a ping or a pong without a field. -/
def ServerMessage.isPlainHeartbeat : ServerMessage → Bool
  | .ping m => m.isPlain
  | .pong m => m.isPlain
  | _ => false

/-- `encode_raw_uds_server_message`, on the dictionary `_raw_uds_message_payload` makes of its
argument. -/
def encodeRawUdsServerMessage (dumps : Json → Except PyError Bytes) (payload : Dict) :
    Except Exn Bytes := do
  let message ← parseServerMessage payload
  if message.isPlainHeartbeat = true then encodeRawUdsFrame message.frameType []
  else
    encodeRawUdsJsonFrame dumps message.frameType
      (compactRawUdsMessagePayload (excludeNone message.fields))

/-! ## The server frame parser -/

/-- The rewrapping of `parse_raw_uds_server_frame` outside JSON events: an envelope mismatch keeps
its code. -/
def recodeUnlessMismatch {α : Type} (r : Except Exn α) : Except Exn α :=
  match r with
  | .error (.protocol e) =>
    if e.code = "raw_uds_frame_type_mismatch" then r else recode "raw_uds_malformed_json_event" r
  | _ => r

/-- `parse_raw_uds_server_frame`. -/
def parseRawUdsServerFrame (loads : Bytes → JsonText) (frame : RawUdsFrame) :
    Except Exn ServerMessage :=
  match frame.frameType with
  | .jsonEvent => recode "raw_uds_malformed_json_event" do
    parseServerMessage (← decodeRawUdsJsonPayload loads frame)
  | .ping => recodeUnlessMismatch do
    let payload ← if frame.payload = [] then .ok [] else decodeRawUdsJsonPayload loads frame
    parseServerMessage (← applyRawUdsEnvelopeType payload "ping")
  | .pong => recodeUnlessMismatch do
    let payload ← if frame.payload = [] then .ok [] else decodeRawUdsJsonPayload loads frame
    parseServerMessage (← applyRawUdsEnvelopeType payload "pong")
  | .error => recodeUnlessMismatch do
    parseServerMessage
      (← applyRawUdsEnvelopeType (← decodeRawUdsJsonPayload loads frame) "error")
  | type =>
    .error (.protocol
      { message := "Raw UDS frame type " ++ type.name ++ " is not a server frame",
        code := "raw_uds_invalid_server_frame_type" })

end RtcAsr
