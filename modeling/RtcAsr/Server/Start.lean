import RtcAsr.Protocol.Validation

/-!
# From client messages to handler events

The two translators of `src/main.py`: `_parse_local_stt_client_event` for websocket text frames and
the dispatch of `_receive_raw_uds_event` for raw-UDS frames, both through
`_parse_local_stt_start_message`.
-/

namespace RtcAsr

open Validated

def DEFAULT_STABLE_PARTIAL_CYCLES : ℤ := 3

/-- `LocalSttStartConfig`. -/
structure LocalSttStartConfig where
  start : StartMessage
  partialIntervalChunks : ℤ := 1
  partialIntervalAudioMs : Option ℤ := none
  partialWindowSeconds : Option PyFloat := none
  maxBufferSeconds : Option PyFloat := none
  finalizeOnStablePartial : Bool := false
  stablePartialCycles : ℤ := DEFAULT_STABLE_PARTIAL_CYCLES
  clientStreamId : Option String := none
  clientMetadata : Dict := []

/-- What the handlers of a v1 connection receive. -/
inductive ClientEvent
  | start (config : LocalSttStartConfig)
  | audio (chunk : Bytes)
  | finalize
  | cancel
  | close
  | ping (message : Heartbeat)
  | pong (message : Heartbeat)

/-! ## Start messages -/

/-- `is_flat_start`: no nested shape, and one of the keys of the flat one. -/
def isFlatStart (payload : Dict) : Bool :=
  !(payload.contains "audio" || payload.contains "version") &&
    ["protocol", "sample_rate", "channels", "format", "frame_ms"].any payload.contains

/-- `_is_positive_integer`. -/
def isPositiveInteger : Json → Option ℤ
  | .int n => if 0 < n then some n else none
  | _ => none

/-- `math.ceil(partial_interval_ms / frame_ms)`, in chunks of at least one frame. -/
def partialIntervalChunks (partialIntervalMs frameMs : ℤ) : Except PyError ℤ :=
  (intTrueDiv partialIntervalMs frameMs).map fun q => max 1 ⌈q⌉

/-- The cadence of the interim results: chunks, and milliseconds of audio when the message gives
an interval. -/
def partialInterval (start : StartMessage) (legacyChunks : Json) : Except Exn (ℤ × Option ℤ) :=
  match start.partialIntervalMs with
  | some ms =>
    match partialIntervalChunks ms start.audio.frameMs with
    | .ok chunks => .ok (chunks, some (chunks * start.audio.frameMs))
    | .error e => .error (.builtin e)
  | none =>
    if legacyChunks.isNull then .ok (1, none)
    else
      match isPositiveInteger legacyChunks with
      | some chunks => .ok (chunks, none)
      | none =>
        .error (.protocol { message := "partial_interval_chunks must be a positive integer" })

/-- `start.stable_partial_cycles or DEFAULT_STABLE_PARTIAL_CYCLES`. -/
def stableCycles : Option ℤ → ℤ
  | some n => if n = 0 then DEFAULT_STABLE_PARTIAL_CYCLES else n
  | none => DEFAULT_STABLE_PARTIAL_CYCLES

/-- The configuration of a parsed start message. -/
def startConfig (start : StartMessage) (legacyChunks : Json) : Except Exn LocalSttStartConfig :=
  match partialInterval start legacyChunks with
  | .ok (chunks, audioMs) =>
    .ok
      { start := start
        partialIntervalChunks := chunks
        partialIntervalAudioMs := audioMs
        partialWindowSeconds := start.partialWindowSeconds
        maxBufferSeconds := start.maxBufferSeconds
        finalizeOnStablePartial := start.finalizeOnStablePartial
        stablePartialCycles := stableCycles start.stablePartialCycles
        clientStreamId := start.clientStreamId
        clientMetadata := start.metadata }
  | .error e => .error e

/-- `_parse_local_stt_start_message`. -/
def parseLocalSttStartMessage (payload : Dict) : Except Exn LocalSttStartConfig :=
  let flat := isFlatStart payload
  if flat = true ∧ (payload.getD "protocol" .null).isStr "local-stt-v1" = false then
    .error (.protocol { message := "protocol must be local-stt-v1" })
  else
    let translated := if flat then translateFlatStart payload else payload
    let legacyChunks := if flat then payload.getD "partial_interval_chunks" .null else .null
    match parseClientMessage translated with
    | .ok (.start start) => startConfig start legacyChunks
    | .ok _ => .error (.protocol { message := "Expected a start message" })
    | .error e => .error e

/-! ## The two transports -/

/-- The event of a parsed message that is not a start message.  The handlers assert that a start
event carries a configuration, so a bare start message would end in an `AssertionError`. -/
def ClientMessage.event : ClientMessage → Except Exn ClientEvent
  | .start _ => .error (.builtin (.other "AssertionError" ""))
  | .finalize => .ok .finalize
  | .cancel => .ok .cancel
  | .close => .ok .close
  | .ping m => .ok (.ping m)
  | .pong m => .ok (.pong m)

/-- A start event carries its configuration. -/
def startEvent : Except Exn LocalSttStartConfig → Except Exn ClientEvent
  | .ok config => .ok (.start config)
  | .error e => .error e

/-- `str(payload.get("type", "")).strip().lower()`; no value but a string renders as one of the
words it is compared with. -/
def eventWord (payload : Dict) : String :=
  match payload.get? "type" with
  | some (.str s) => asciiLower (pyStrip s)
  | _ => ""

/-- `_parse_local_stt_client_event`. -/
def parseLocalSttClientEvent (payload : Dict) : Except Exn ClientEvent :=
  if eventWord payload = "start" then startEvent (parseLocalSttStartMessage payload)
  else if eventWord payload = "stop" then .ok .finalize
  else
    match parseClientMessage payload with
    | .ok message => message.event
    | .error e => .error e

/-- The dispatch of `_receive_raw_uds_event` on a parsed client frame. -/
def rawUdsEvent : RawUdsClientPayload → Except Exn ClientEvent
  | .audio chunk => .ok (.audio chunk)
  | .message (.start m) => startEvent (parseLocalSttStartMessage m.modelDump)
  | .message m => m.event

/-- What `_receive_raw_uds_event` makes of a frame. -/
def receiveRawUdsFrame (loads : Bytes → JsonText) (frame : RawUdsFrame) : Except Exn ClientEvent :=
  match parseRawUdsClientFrame loads frame with
  | .ok payload => rawUdsEvent payload
  | .error e => .error e

/-- What `websocket.receive` gives on a v1 connection. -/
inductive WebSocketMessage
  | disconnect
  | binary (chunk : Bytes)
  | text (json : JsonText)
  | empty

/-- `_receive_local_stt_event`. -/
def receiveLocalSttEvent : WebSocketMessage → Except Exn ClientEvent
  | .disconnect => .error .disconnect
  | .binary chunk =>
    match validateAudioChunk chunk with
    | .ok audio => .ok (.audio audio)
    | .error e => .error e
  | .text (.value (.obj payload)) => parseLocalSttClientEvent payload
  | .text (.value _) =>
    .error (.protocol { message := "Local STT v1 messages must be JSON objects" })
  | .text .malformed =>
    .error (.protocol { message := "Local STT v1 messages must be valid JSON objects" })
  | .text (.raised e) => .error (.builtin e)
  | .empty =>
    .error (.protocol
      { message := "Local STT v1 events must be JSON objects or binary PCM16 frames" })

/-! ## The shape of a flat start message's translation -/

@[simp] lemma get?_type_translateFlatStart (payload : Dict) :
    (translateFlatStart payload).get? "type" = some (.str "start") := rfl

@[simp] lemma isFlatStart_modelDump (m : StartMessage) : isFlatStart m.modelDump = false := rfl

@[simp] lemma get?_type_modelDump (m : StartMessage) :
    m.modelDump.get? "type" = some (.str "start") := rfl

/-- The translation keeps the number fields, an absent one becoming `None`. -/
lemma hugeNumberField_translateFlatStart (payload : Dict) :
    HugeNumberField (translateFlatStart payload) ↔ HugeNumberField payload := by
  have h1 : (translateFlatStart payload).getD "partial_window_seconds" .null =
    payload.getD "partial_window_seconds" .null := rfl
  have h2 : (translateFlatStart payload).getD "max_buffer_seconds" .null =
    payload.getD "max_buffer_seconds" .null := rfl
  rw [HugeNumberField, HugeNumberField, h1, h2]

end RtcAsr
