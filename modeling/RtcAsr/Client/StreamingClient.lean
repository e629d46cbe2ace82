import RtcAsr.Client.AudioText
import RtcAsr.Foundation.FairSchedule
import RtcAsr.Server.FinalDecode

/-!
# The streaming client

`ASRWebSocketClient` of `src/streaming.py` on a connection to `/ws/stream`.  The coroutines of the
client are programs over the state of the connection (`Link`): the server, the messages on their way
to it, and how many of its events the client has read.  The turns of the environment are those of
the server, the end of what the client waits for, the timeout of a timed read, and the loss of the
connection; what the server does after a loss no longer reaches the client, so its writes succeed.
-/

namespace RtcAsr.Streaming

/-! ## Configurations -/

/-- A number, `int` or `float`. -/
inductive PyNumber
  | int (n : ℤ)
  | float (x : PyFloat)

namespace PyNumber

/-- The number in a JSON message. -/
def toJson : PyNumber → Json
  | int n => .int n
  | float x => .float x

/-- `float(value)`, where it succeeds. -/
def toFloat : PyNumber → PyFloat
  | int n => .finite (Binary64.round n)
  | float x => x

/-- `_is_positive_finite_number` without an exception: `math.isfinite` raises on an integer that no
float can hold. -/
def PositiveFinite : PyNumber → Prop
  | int n => 0 < n ∧ ¬ Binary64.Overflows n
  | float x => x.nonpos = false ∧ x.isFinite = true

end PyNumber

/-- `StreamConfig`, with the checks of `__post_init__`. -/
structure StreamConfig where
  language : Option String := some "en"
  sampleRate : ℤ := 16000
  partialIntervalChunks : ℤ := 1
  partialWindowSeconds : Option PyNumber := none
  maxBufferSeconds : Option PyNumber := none
  finalizeOnStablePartial : Bool := false
  stablePartialCycles : Option ℤ := none
  sendBinaryFrames : Bool := false
  sampleRate_pos : 0 < sampleRate := by decide
  partialIntervalChunks_pos : 0 < partialIntervalChunks := by decide
  partialWindowSeconds_pos : ∀ seconds ∈ partialWindowSeconds, seconds.PositiveFinite := by simp
  maxBufferSeconds_pos : ∀ seconds ∈ maxBufferSeconds, seconds.PositiveFinite := by simp
  stablePartialCycles_pos : ∀ cycles ∈ stablePartialCycles, 0 < cycles := by simp

/-- An entry that is left out when there is no value. -/
def optionalEntry (key : String) (value : Option Json) : Dict :=
  (value.map fun value => (key, value)).toList

/-- `StreamConfig.as_payload`. -/
def StreamConfig.asPayload (config : StreamConfig) : Dict :=
  [("type", .str "start"), ("language", Json.ofOption .str config.language),
    ("sample_rate", .int config.sampleRate),
    ("partial_interval_chunks", .int config.partialIntervalChunks)] ++
  optionalEntry "partial_window_seconds" (config.partialWindowSeconds.map PyNumber.toJson) ++
  optionalEntry "max_buffer_seconds" (config.maxBufferSeconds.map PyNumber.toJson) ++
  optionalEntry "finalize_on_stable_partial"
    (if config.finalizeOnStablePartial then some (.bool true) else none) ++
  optionalEntry "stable_partial_cycles" (config.stablePartialCycles.map .int)

/-! ## Events on the wire -/

/-- The names of the backend and of its model. -/
structure BackendNames where
  backendName : String
  modelName : String

/-- The entries of a transcript; a text that is no string stands as its rendering. -/
def Transcript.entries (result : Transcript) : Dict :=
  (match result.text with
    | .missing => []
    | .str s => [("text", .str s)]
    | .other rendered => [("text", .str rendered)]) ++
  [("language", Json.ofOption .str result.language)] ++
  optionalEntry "backend" (result.backend.map .str) ++
  optionalEntry "model" (result.model.map .str)

/-- `{**base, **update}`; the bindings are read from the left. -/
def mergeDict (base update : Dict) : Dict := update ++ base

/-- A float as it is given, or no entry. -/
def secondsEntry (key : String) (seconds : Option PyFloat) : Dict :=
  optionalEntry key (seconds.map .float)

/-- `ready_payload`. -/
def readyPayload (names : BackendNames) (session : StreamSession) : Dict :=
  [("type", .str "ready"), ("stream_id", .int session.streamId),
    ("backend", .str names.backendName), ("model", .str names.modelName),
    ("language", Json.ofOption .str session.language), ("sample_rate", .int session.sampleRate),
    ("partial_interval_chunks", .int session.partialIntervalChunks),
    ("max_buffer_bytes", .int session.maxBufferBytes)] ++
  secondsEntry "partial_window_seconds" session.partialWindowSeconds ++
  secondsEntry "max_buffer_seconds" session.maxBufferSeconds

/-- The entries about the position of a session. -/
def positionEntries (session : StreamSession) : Dict :=
  [("chunks_received", .int session.chunksReceived),
    ("buffered_bytes", .int session.audioBuffer.length),
    ("remaining_buffer_bytes",
      .int ((session.maxBufferBytes : ℤ) - session.audioBuffer.length))]

/-- `_stream_event`. -/
def streamEvent (eventType : String) (session : StreamSession) (result : Transcript) : Dict :=
  mergeDict
    ([("type", .str eventType), ("stream_id", .int session.streamId),
      ("is_final", .bool (eventType == "final"))] ++ positionEntries session)
    (Transcript.entries result)

/-- What the server writes for an event. -/
def payload (names : BackendNames) : LegacyEvent → Dict
  | .ready session => readyPayload names session
  | .transcript eventType session result => streamEvent eventType session result
  | .canceled session =>
    [("type", .str "canceled"), ("stream_id", .int session.streamId)] ++ positionEntries session
  | .error message code =>
    [("type", .str "error"), ("message", .str message), ("code", .int code)]

/-- `TranscriptEvent`. -/
structure TranscriptEvent where
  type : String
  text : String
  streamId : Option ℤ := none
  isFinal : Bool := false
  chunksReceived : ℤ := 0
  bufferedBytes : ℤ := 0
  remainingBufferBytes : ℤ := 0
  language : Option String := none
  backend : Option String := none
  model : Option String := none
  durationMs : Option ℤ := none
  raw : Dict

/-- `_maybe_int`. -/
def maybeInt : Json → Option ℤ
  | .int n => some n
  | _ => none

/-- `_maybe_str`. -/
def maybeStr : Json → Option String
  | .str s => some s
  | _ => none

/-- `TranscriptEvent.from_payload`. -/
def TranscriptEvent.fromPayload (payload : Dict) : TranscriptEvent where
  type := (payload.getD "type" (.str "")).pyStr
  text := (payload.getD "text" (payload.getD "message" (.str ""))).pyStr
  streamId := maybeInt (payload.getD "stream_id" .null)
  isFinal := (payload.getD "is_final" (.bool false)).truthy
  chunksReceived := (maybeInt (payload.getD "chunks_received" .null)).getD 0
  bufferedBytes := (maybeInt (payload.getD "buffered_bytes" .null)).getD 0
  remainingBufferBytes := (maybeInt (payload.getD "remaining_buffer_bytes" .null)).getD 0
  language := maybeStr (payload.getD "language" .null)
  backend := maybeStr (payload.getD "backend" .null)
  model := maybeStr (payload.getD "model" .null)
  durationMs := maybeInt (payload.getD "duration_ms" .null)
  raw := payload

/-- An event as the client reads it. -/
def read (names : BackendNames) (event : LegacyEvent) : TranscriptEvent :=
  .fromPayload (payload names event)

/-! ## The connection -/

/-- A service: its configuration, its backend, and what the backend returns. -/
structure Service where
  config : LegacyConfig := {}
  names : BackendNames
  transcriber : Transcriber

/-- A connection of the client. -/
structure Link where
  server : LegacyConn := {}
  /-- The messages on their way to the server. -/
  outbox : List WebSocketMessage := []
  /-- The number of events the client has read. -/
  eventsRead : ℕ := 0

/-- The turns of the environment. -/
inductive Turn
  /-- The server receives a message and acts on it. -/
  | deliver
  /-- A write of the server ends. -/
  | written
  /-- What the client waits for ends, if it can. -/
  | answer
  /-- The time of a timed read is over. -/
  | timeout
  /-- The client finds the connection closed. -/
  | closed
  deriving DecidableEq

/-- The transcription of an audio for the active session. -/
def Service.transcribe (service : Service) (l : LegacyConn) (audio : Bytes) :
    Except Exn Transcript :=
  match l.session with
  | some s => s.decode service.transcriber audio
  | none => .error (clientError "Send a start event before audio chunks")

/-- The server receives a message. -/
def Service.receive (service : Service) (l : LegacyConn) (message : WebSocketMessage) :
    Option LegacyConn := l.step service.config (.message message (service.transcribe l))

/-- A turn of the server; it leaves the connection as it is when the server cannot take it. -/
def Link.move (service : Service) (link : Link) : Turn → Link
  | .deliver =>
    match link.outbox with
    | [] => link
    | message :: outbox =>
      match service.receive link.server message with
      | none => link
      | some server => { link with server := server, outbox := outbox }
  | .written =>
    match link.server.step service.config (.written (.ok ())) with
    | none => link
    | some server => { link with server := server }
  | _ => link

/-! ## The client -/

/-- What the client raises: `websockets.ConnectionClosed`. -/
inductive ClientExn
  | connectionClosed

/-- A coroutine of the client. -/
abbrev ClientTask := Routine Link Turn ClientExn

variable (service : Service)

/-- `websocket.send`. -/
def send (message : WebSocketMessage) : ClientTask PUnit := do
  modify fun link => { link with outbox := link.outbox ++ [message] }
  Routine.await fun link turn =>
    match turn with
    | .answer => (link, some (.ok ⟨⟩))
    | .closed => (link, some (.error .connectionClosed))
    | turn => (link.move service turn, none)

/-- `_send_json`. -/
def sendJson (payload : Dict) : ClientTask PUnit := send service (.text (.value (.obj payload)))

/-- The next event the server has written. -/
def Link.nextEvent (link : Link) : Option TranscriptEvent :=
  (link.server.sent[link.eventsRead]?).map (read service.names)

/-- `receive_event`, again and again until an event is one to stop at. -/
def receiveUntil (stops : TranscriptEvent → Bool) : ClientTask TranscriptEvent :=
  Routine.await fun link turn =>
    match turn with
    | .answer =>
      match link.nextEvent service with
      | none => (link, none)
      | some event =>
        ({ link with eventsRead := link.eventsRead + 1 },
          if stops event then some (.ok event) else none)
    | .closed => (link, some (.error .connectionClosed))
    | turn => (link.move service turn, none)

/-- `receive_event`. -/
def receiveEvent : ClientTask TranscriptEvent := receiveUntil service fun _ => true

/-- `_receive_optional_event`. -/
def receiveOptionalEvent : ClientTask (Option TranscriptEvent) :=
  Routine.await fun link turn =>
    match turn with
    | .answer =>
      match link.nextEvent service with
      | none => (link, none)
      | some event => ({ link with eventsRead := link.eventsRead + 1 }, some (.ok (some event)))
    | .timeout => (link, some (.ok none))
    | .closed => (link, some (.error .connectionClosed))
    | turn => (link.move service turn, none)

/-- `start_stream`. -/
def startStream (config : StreamConfig) : ClientTask TranscriptEvent := do
  sendJson service config.asPayload
  receiveEvent service

/-- The message for a chunk. -/
def audioMessage (binary : Bool) (chunk : Bytes) : WebSocketMessage :=
  if binary then .binary chunk else .text (.value (.obj (audioPayload chunk)))

/-- `send_audio_chunk`. -/
def sendAudioChunk (binary : Bool) (chunk : Bytes) : ClientTask PUnit :=
  send service (audioMessage binary chunk)

/-- `stop_stream`. -/
def stopStream : ClientTask TranscriptEvent := do
  sendJson service [("type", .str "stop")]
  receiveUntil service fun event => event.type != "partial"

/-- The loop of `transcribe_once`, from the chunk with the given index on, and what follows it. -/
def transcribeChunks (config : StreamConfig) :
    ℕ → List Bytes → List TranscriptEvent → ClientTask (List TranscriptEvent)
  | _, [], events => do
    let event ← stopStream service
    return events ++ [event]
  | chunkIndex, chunk :: chunks, events => do
    sendAudioChunk service config.sendBinaryFrames chunk
    if (chunkIndex : ℤ) % config.partialIntervalChunks ≠ 0 then
      transcribeChunks config (chunkIndex + 1) chunks events
    else
      let partialEvent ← receiveOptionalEvent service
      match partialEvent with
      | none => transcribeChunks config (chunkIndex + 1) chunks events
      | some event =>
        if event.type = "error" then return events ++ [event]
        else transcribeChunks config (chunkIndex + 1) chunks (events ++ [event])

/-- `transcribe_once`. -/
def transcribeOnce (config : StreamConfig) (chunks : List Bytes) :
    ClientTask (List TranscriptEvent) := do
  let ready ← startStream service config
  transcribeChunks service config 1 chunks [ready]

end RtcAsr.Streaming
