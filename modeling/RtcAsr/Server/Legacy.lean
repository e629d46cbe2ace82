import RtcAsr.Foundation.StepSystem
import RtcAsr.Server.Connection

/-!
# The legacy route

`/ws/stream` of `src/main.py`: one coroutine that receives a message, acts on it, and writes at most
one event.  The transcription runs in the coroutine itself, so a message, what the handler does with
it and the result of the transcription are one step; the end of a write is another.
-/

namespace RtcAsr

/-! ## Audio in JSON messages -/

/-- The value of a base64 digit. -/
def base64Digit (c : Char) : Option ℕ :=
  if 'A' ≤ c ∧ c ≤ 'Z' then some (c.toNat - 'A'.toNat)
  else if 'a' ≤ c ∧ c ≤ 'z' then some (c.toNat - 'a'.toNat + 26)
  else if '0' ≤ c ∧ c ≤ '9' then some (c.toNat - '0'.toNat + 52)
  else if c = '+' then some 62
  else if c = '/' then some 63
  else none

/-- `base64.b64decode(…, validate=True)` on a list of characters: quantums of four digits, the last
one padded.  After a complete quantum nothing but padding may follow; it is ignored. -/
def b64decodeChars : List Char → Option Bytes
  | [] => some []
  | [a, b, '=', '='] => do
    let x ← base64Digit a
    let y ← base64Digit b
    return [UInt8.ofNat (x * 4 + y / 16)]
  | [a, b, c, '='] => do
    let x ← base64Digit a
    let y ← base64Digit b
    let z ← base64Digit c
    return [UInt8.ofNat (x * 4 + y / 16), UInt8.ofNat (y % 16 * 16 + z / 4)]
  | a :: b :: c :: d :: rest => do
    let x ← base64Digit a
    let y ← base64Digit b
    let z ← base64Digit c
    let w ← base64Digit d
    let bytes ← (if rest.all (· = '=') = true then some [] else b64decodeChars rest)
    return UInt8.ofNat (x * 4 + y / 16) :: UInt8.ofNat (y % 16 * 16 + z / 4) ::
      UInt8.ofNat (z % 4 * 64 + w) :: bytes
  | _ => none

/-- `base64.b64decode(…, validate=True)`. -/
def b64decode (encoded : String) : Option Bytes := b64decodeChars encoded.toList

/-- The truth value of a JSON value. -/
def Json.truthy : Json → Bool
  | .null => false
  | .bool b => b
  | .int n => n != 0
  | .float x => x != .finite 0
  | .str s => s != ""
  | .arr items => !items.isEmpty
  | .obj fields => !fields.isEmpty

/-- `StreamClientError` with its default code. -/
def clientError (message : String) : Exn := .streamClient message 1003

/-- `_decode_websocket_audio` on a JSON message: `audio_bytes` can only be set to no bytes. -/
def decodeWebsocketAudio (payload : Dict) : Except Exn Bytes :=
  if (payload.getD "audio_bytes" .null).isNull = false then
    .error (clientError "audio_bytes must be raw bytes")
  else
    let audioData := payload.getD "audio_data" .null
    let encoded := if audioData.truthy = true then audioData else payload.getD "audio" .null
    match encoded with
    | .str s =>
      if s = "" then .error (clientError "audio_data or audio is required for audio events")
      else
        match b64decode s with
        | some bytes => .ok bytes
        | none => .error (clientError "audio_data must be valid base64-encoded audio bytes")
    | _ => .error (clientError "audio_data or audio is required for audio events")

/-! ## Sessions -/

/-- The configuration the route reads. -/
structure LegacyConfig where
  sampleRate : ℤ := 16000
  streamMaxBufferBytes : ℕ := 1048576

/-- `float(value)` on a number. -/
def positiveSeconds (fieldName : String) : Json → Except Exn (Option PyFloat)
  | .null => .ok none
  | .int n =>
    if n ≤ 0 then .error (clientError (fieldName ++ " must be a positive number"))
    else liftError .builtin ((intToFloat n).map fun q => some (.finite q))
  | .float x =>
    if x.nonpos = true then .error (clientError (fieldName ++ " must be a positive number"))
    else .ok (some x)
  | _ => .error (clientError (fieldName ++ " must be a positive number"))

/-- `language` of a start message: a string or null, `"en"` when it is absent. -/
def startLanguage (payload : Dict) : Option (Option String) :=
  match payload.getD "language" (.str "en") with
  | .null => some none
  | .str s => some (some s)
  | _ => none

/-- `_create_stream_session`. -/
def createStreamSession (config : LegacyConfig) (payload : Dict) (streamId : ℕ) :
    Except Exn StreamSession := do
  let partialWindowSeconds ←
    positiveSeconds "partial_window_seconds" (payload.getD "partial_window_seconds" .null)
  let maxBufferSeconds ←
    positiveSeconds "max_buffer_seconds" (payload.getD "max_buffer_seconds" .null)
  match isPositiveInteger (payload.getD "sample_rate" (.int config.sampleRate)) with
  | none => .error (clientError "sample_rate must be a positive integer")
  | some sampleRate =>
    match isPositiveInteger (payload.getD "partial_interval_chunks" (.int 1)) with
    | none => .error (clientError "partial_interval_chunks must be a positive integer")
    | some partialInterval =>
      match startLanguage payload with
      | none => .error (clientError "language must be a string or null")
      | some language =>
        let limited ← liftError .builtin
          (bytesWithin config.streamMaxBufferBytes maxBufferSeconds sampleRate)
        let maxBufferBytes := limited.getD config.streamMaxBufferBytes
        let partialWindowBytes ← liftError .builtin
          (bytesWithin maxBufferBytes partialWindowSeconds sampleRate)
        return {
          streamId := streamId
          language := language
          sampleRate := sampleRate
          maxBufferBytes := maxBufferBytes
          partialIntervalChunks := partialInterval
          partialWindowSeconds := partialWindowSeconds
          maxBufferSeconds := maxBufferSeconds
          partialWindowBytes := partialWindowBytes }

/-- **What a created session is**: checked values and their limits in bytes. -/
lemma createStreamSession_eq_ok {config : LegacyConfig} {payload : Dict} {streamId : ℕ}
    {s : StreamSession} (h : createStreamSession config payload streamId = .ok s) :
    ∃ language sampleRate interval maxBufferSeconds partialWindowSeconds limited window,
      liftError Exn.builtin
        (bytesWithin config.streamMaxBufferBytes maxBufferSeconds sampleRate) = .ok limited ∧
      liftError Exn.builtin (bytesWithin (limited.getD config.streamMaxBufferBytes)
        partialWindowSeconds sampleRate) = .ok window ∧
      s = {
        streamId := streamId
        language := language
        sampleRate := sampleRate
        maxBufferBytes := limited.getD config.streamMaxBufferBytes
        partialIntervalChunks := interval
        partialWindowSeconds := partialWindowSeconds
        maxBufferSeconds := maxBufferSeconds
        partialWindowBytes := window } := by
  unfold createStreamSession at h
  simp only [bind, Except.bind, pure, Except.pure] at h
  split at h
  · cases h
  split at h
  · cases h
  split at h
  · cases h
  split at h
  · cases h
  split at h
  · cases h
  split at h
  · cases h
  rename_i limited hlimited
  split at h
  · cases h
  rename_i window hwindow
  exact ⟨_, _, _, _, _, limited, window, hlimited, hwindow, (Except.ok.inj h).symm⟩

/-- A created session has received nothing. -/
lemma createStreamSession_new {config : LegacyConfig} {payload : Dict} {streamId : ℕ}
    {s : StreamSession} (h : createStreamSession config payload streamId = .ok s) :
    s.New streamId := by
  obtain ⟨language, rate, interval, buffer, seconds, limited, window, -, -, rfl⟩ :=
    createStreamSession_eq_ok h
  exact ⟨rfl, rfl, rfl, rfl, rfl, rfl, rfl⟩

/-- `StreamSession.record_partial` at the current position, whose duration is a quotient by the
sample rate; the route accepts rates no float can hold. -/
def StreamSession.recordCurrentPartial (s : StreamSession) (transcript : Transcript) :
    Except PyError StreamSession :=
  (intToFloat s.sampleRate).map fun _ =>
    s.recordPartial transcript s.chunksReceived s.audioReceivedMs

/-- `_resolve_final_result`, with `transcribe` for `_run_transcription` on this session. -/
def resolveFinalResult (transcribe : Bytes → Except Exn Transcript) (s : StreamSession) :
    Except Exn Transcript :=
  match s.reusableLastPartial with
  | some result => .ok result
  | none => transcribe s.audioBuffer

/-! ## The route -/

/-- An event the route writes. -/
inductive LegacyEvent
  | ready (session : StreamSession)
  | transcript (type : String) (session : StreamSession) (result : Transcript)
  | canceled (session : StreamSession)
  | error (message : String) (code : ℕ)

/-- Where the coroutine stands. -/
inductive LegacyPc
  | receiving
  | sending
  /-- `_close_websocket_error`. -/
  | sendingError
  | finished
  deriving DecidableEq

/-- A connection of the legacy route. -/
structure LegacyConn where
  services : Services := {}
  nextStreamId : ℕ := 1
  session : Option StreamSession := none
  pc : LegacyPc := .receiving
  sent : List LegacyEvent := []
  /-- The chunks accepted since the last start. -/
  accepted : List Bytes := []

/-- The steps of the route: a message with the result of the transcription it may cause, and the end
of a write. -/
inductive LegacyAct
  | message (message : WebSocketMessage) (transcription : Bytes → Except Exn Transcript)
  | written (result : Except Exn Unit)

/-- `_receive_stream_event`: the payload of a text message, or the bytes of a binary one. -/
inductive LegacyPayload
  | binary (chunk : Bytes)
  | json (payload : Dict) (eventType : String)

/-- `_receive_stream_event`. -/
def receiveStreamEvent (session : Option StreamSession) :
    WebSocketMessage → Except Exn LegacyPayload
  | .disconnect => .error .disconnect
  | .binary chunk =>
    match session with
    | none => .error (clientError "Send a start event before audio chunks")
    | some _ => .ok (.binary chunk)
  | .text (.value (.obj payload)) => .ok (.json payload (eventWord payload))
  | .text (.value _) => .error (clientError "Stream events must be JSON objects")
  | .text .malformed => .error (clientError "Stream events must be valid JSON")
  | .text (.raised e) => .error (.builtin e)
  | .empty => .error (clientError "Stream events must be JSON text or binary audio frames")

namespace LegacyConn

/-- The coroutine writes an event. -/
def write (l : LegacyConn) (event : LegacyEvent) : LegacyConn :=
  { l with pc := .sending, sent := l.sent ++ [event] }

/-- `_close_websocket_error`. -/
def closeWith (l : LegacyConn) (message : String) (code : ℕ) : LegacyConn :=
  { l with pc := .sendingError, sent := l.sent ++ [.error message code] }

/-- The `except` clauses of the route. -/
def raise (l : LegacyConn) (e : Exn) : LegacyConn :=
  match e with
  | .disconnect => { l with pc := .finished }
  | .asrUnavailable message =>
    { l with services := { l.services with preloadError := some message } }.closeWith message 1011
  | .streamClient message code => l.closeWith message code
  | .protocol error => l.closeWith error.message 1003
  | .builtin (.valueError message) => l.closeWith message 1003
  | e =>
    { l with services := Conn.recordLazyLoadFailure l.services e }.closeWith
      "Unexpected streaming error" 1011

/-- A completed transcription: the backend is loaded and healthy. -/
def transcribed (l : LegacyConn) : LegacyConn :=
  { l with services := { preloadError := none, loaded := true } }

/-- The audio branch. -/
def audio (l : LegacyConn) (transcribe : Bytes → Except Exn Transcript) (s : StreamSession)
    (chunk : Bytes) : LegacyConn :=
  match s.appendAudio chunk with
  | .error e => l.raise e
  | .ok s =>
    let l := { l with session := some s, accepted := l.accepted ++ [chunk] }
    if (s.chunksReceived : ℤ) % s.partialIntervalChunks ≠ 0 then l
    else
      match transcribe s.partialAudioBytes with
      | .error e => l.raise e
      | .ok result =>
        match s.recordCurrentPartial result with
        | .error e => l.transcribed.raise (.builtin e)
        | .ok s =>
          let l := { l.transcribed with session := some s }
          if result.strippedText = "" then l else l.write (.transcript "partial" s result)

/-- The stop branch. -/
def stop (l : LegacyConn) (transcribe : Bytes → Except Exn Transcript) (s : StreamSession) :
    LegacyConn :=
  if s.audioBuffer = [] then l.raise (clientError "No audio chunks received for this stream")
  else
    match resolveFinalResult transcribe s with
    | .error e => l.raise e
    | .ok result =>
      let l := if s.reusableLastPartial.isSome then l else l.transcribed
      { l with session := none }.write (.transcript "final" s result)

/-- The route acts on an event. -/
def handle (config : LegacyConfig) (l : LegacyConn) (transcribe : Bytes → Except Exn Transcript) :
    LegacyPayload → LegacyConn
  | .binary chunk =>
    match l.session with
    | none => l.raise (clientError "Send a start event before audio chunks")
    | some s => l.audio transcribe s chunk
  | .json payload eventType =>
    if eventType = "start" then
      match l.session with
      | some _ =>
        l.raise (.builtin (.valueError "Finish the active stream before starting a new one"))
      | none =>
        match createStreamSession config payload l.nextStreamId with
        | .error e => l.raise e
        | .ok s =>
          { l with nextStreamId := l.nextStreamId + 1, session := some s, accepted := [] }.write
            (.ready s)
    else if eventType = "audio" then
      match l.session with
      | none => l.raise (clientError "Send a start event before audio chunks")
      | some s =>
        match decodeWebsocketAudio payload with
        | .error e => l.raise e
        | .ok chunk => l.audio transcribe s chunk
    else if eventType = "stop" then
      match l.session with
      | none => l.raise (clientError "Send a start event before stopping the stream")
      | some s => l.stop transcribe s
    else if eventType = "cancel" then
      match l.session with
      | none => l.raise (clientError "Send a start event before canceling the stream")
      | some s => { l with session := none }.write (.canceled s)
    else l.raise (clientError "Unsupported stream event type")

/-- One step of the route. -/
def step (config : LegacyConfig) (l : LegacyConn) : LegacyAct → Option LegacyConn
  | .message m transcribe =>
    match l.pc with
    | .receiving =>
      match receiveStreamEvent l.session m with
      | .error e => some (l.raise e)
      | .ok payload => some (l.handle config transcribe payload)
    | _ => none
  | .written result =>
    match l.pc, result with
    | .sending, .ok _ => some { l with pc := .receiving }
    | .sending, .error e => some (l.raise e)
    | .sendingError, _ => some { l with pc := .finished }
    | _, _ => none

end LegacyConn

/-- The legacy route as a step system. -/
def legacyRoute (config : LegacyConfig) : StepSystem LegacyConn LegacyAct :=
  ⟨LegacyConn.step config⟩

end RtcAsr
