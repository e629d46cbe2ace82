import RtcAsr.Foundation.Coroutine
import RtcAsr.Foundation.Routine
import RtcAsr.Python.Value

/-!
# The audio relay of the browser demo

`RTCASRAudioRelay` of `examples/browser_pipecat_demo/service/pipecat_bridge.py`.  A frame processor
hands audio frames to the relay one after the other and closes it at the end.  The relay cuts the
audio into chunks, sends them to a client of the speech service, and starts a new client before the
audio sent to the present one would exceed the service's buffer; a receiver task forwards the
client's events to the application.

The coroutines of the frame processor are `Routine`s.  Each of their awaits is a point where the
environment takes turns: the receiver task gets the next result of `recv_event`, or the awaited
operation ends.  `AsrClient` is a client object; it keeps what was sent to it and which of its
events were forwarded.  `formerClients` and `raisedCalls` are not in the source: they keep the
clients the relay has let go and count the calls that raised.  The application's callbacks do not
raise.
-/

namespace RtcAsr.Bridge

/-! ## Sizes in bytes -/

/-- Multiplication of a finite float with a float. -/
def mulFinite (x : ℚ) : PyFloat → PyFloat
  | .finite y => .ofRat (x * y)
  | .inf => if x = 0 then .nan else if 0 < x then .inf else .negInf
  | .negInf => if x = 0 then .nan else if 0 < x then .negInf else .inf
  | .nan => .nan

/-- `int(x)`: the integer part. -/
def floatToInt : PyFloat → Except PyError ℤ
  | .finite q => .ok (if 0 ≤ q then ⌊q⌋ else ⌈q⌉)
  | .inf => .error (.overflowError "cannot convert float infinity to integer")
  | .negInf => .error (.overflowError "cannot convert float infinity to integer")
  | .nan => .error (.valueError "cannot convert float NaN to integer")

/-- `str(exc)`. -/
def excText : PyError → String
  | .overflowError message => message
  | .valueError message => message
  | .typeError message => message
  | .other _ message => message

/-- The clients a relay can be given. -/
structure ClientClass where
  /-- Whether the client has `recv_event`. -/
  recvEvent : Bool
  /-- Whether the client has `finalize`; else it is stopped. -/
  finalize : Bool
  /-- Whether `finalize` returns the final event. -/
  returnsFinal : Bool

/-- `AsyncLocalSttClient`: `finalize` returns nothing, the final event is received. -/
def ClientClass.asyncLocalStt : ClientClass :=
  { recvEvent := true, finalize := true, returnsFinal := false }

/-- The parameters of a relay. -/
structure RelayConfig where
  sessionId : String
  chunkMs : ℤ
  maxBufferSeconds : PyFloat
  clientClass : ClientClass := .asyncLocalStt

/-- `_chunk_size_bytes`. -/
def chunkSizeBytes (config : RelayConfig) (sampleRate numChannels : ℤ) : Except PyError ℕ := do
  let seconds ← intTrueDiv config.chunkMs 1000
  let rate ← intToFloat (sampleRate * numChannels * 2)
  let size ← floatToInt (.ofRat (rate * seconds))
  return (max 1 size).toNat

/-- `max_buffer_bytes` of `_roll_utterance_if_needed`. -/
def maxBufferBytes (config : RelayConfig) (sampleRate numChannels : ℤ) : Except PyError ℕ := do
  let rate ← intToFloat (sampleRate * numChannels * 2)
  let size ← floatToInt (mulFinite rate config.maxBufferSeconds)
  return (max 2 size).toNat

/-- `buffered_audio_ms` of `_roll_utterance_if_needed`. -/
def bufferedAudioMs (bytes : ℕ) (sampleRate numChannels : ℤ) : Except PyError ℤ := do
  let seconds ← intTrueDiv bytes (max (sampleRate * numChannels * 2) 1)
  floatToInt (.ofRat (seconds * 1000))

/-! ## Events and messages -/

/-- The fields of a `TranscriptEvent` the relay reads. -/
structure TranscriptEvent where
  type : String
  text : String
  streamId : Option ℤ := none
  isFinal : Bool := false
  chunksReceived : ℤ := 0
  revision : Option ℤ := none
  audioReceivedMs : Option ℤ := none
  audioTranscribedMs : Option ℤ := none

/-- The type of the message for an event. -/
def TranscriptEvent.messageType (event : TranscriptEvent) : String :=
  let eventType := if event.isFinal || event.type == "final" then "final" else event.type
  if ["partial", "final", "error", "canceled"].contains eventType then eventType else "status"

/-- The identity of the message for an event, the `n`-th of its session. -/
def TranscriptEvent.eventId (event : TranscriptEvent) (sessionId : String) (n : ℕ) : String :=
  let natural :=
    [event.streamId, event.revision, event.audioReceivedMs, event.audioTranscribedMs].filterMap id
  if natural.isEmpty then sessionId ++ ":event:" ++ toString n
  else
    String.intercalate ":"
      (sessionId :: (natural ++ [event.chunksReceived]).map fun z => toString z)

/-- What is sent to the application. -/
inductive AppMessage
  | connected (sampleRate numChannels : ℤ)
  | rolling (bufferedAudioMs : ℤ)
  | transcript (eventId : String) (event : TranscriptEvent)
  | error (message : String)

/-! ## The state -/

/-- A client object. -/
structure AsrClient where
  sampleRate : ℤ
  numChannels : ℤ
  /-- The chunks for which `send_audio` returned. -/
  sent : List Bytes := []
  /-- The events that were forwarded to the application. -/
  forwarded : List TranscriptEvent := []

/-- The number of bytes sent to a client. -/
def AsrClient.bytesSent (client : AsrClient) : ℕ := client.sent.flatten.length

/-- The final events that were forwarded. -/
def AsrClient.finals (client : AsrClient) : List TranscriptEvent :=
  client.forwarded.filter (·.isFinal)

/-- How the relay let a client go. -/
inductive Ending
  | closed
  | startFailed
  deriving DecidableEq

/-- The future `_final_event`. -/
inductive FinalEvent
  | pending
  | result (event : TranscriptEvent)
  | failed (message : String)

/-- The receiver task. -/
inductive Receiver
  | running
  | returned
  | cancelled
  deriving DecidableEq

/-- `RTCASRAudioRelay`. -/
structure Relay where
  buffer : Bytes := []
  client : Option AsrClient := none
  sampleRate : Option ℤ := none
  numChannels : Option ℤ := none
  finalEvent : Option FinalEvent := none
  receiverTask : Option Receiver := none
  utteranceBytesSent : ℕ := 0
  eventSequence : ℕ := 0
  /-- The messages to the application. -/
  messages : List AppMessage := []
  /-- The messages of `mark_failed`. -/
  failures : List String := []
  /-- The audio that was taken into the buffer. -/
  heard : Bytes := []
  formerClients : List (AsrClient × Ending) := []
  raisedCalls : ℕ := 0

namespace Relay

/-- `_send_transcript_event`. -/
def sendTranscriptEvent (config : RelayConfig) (s : Relay) (event : TranscriptEvent) : Relay :=
  { s with
    eventSequence := s.eventSequence + 1
    messages := s.messages ++
      [.transcript (event.eventId config.sessionId (s.eventSequence + 1)) event]
    client := s.client.map fun client =>
      { client with forwarded := client.forwarded ++ [event] } }

/-- `_send_error`. -/
def sendError (s : Relay) (message : String) : Relay :=
  { s with failures := s.failures ++ [message], messages := s.messages ++ [.error message] }

/-- The future `_final_event` is resolved if it is not yet. -/
def resolve (s : Relay) (outcome : FinalEvent) : Relay :=
  match s.finalEvent with
  | some .pending => { s with finalEvent := some outcome }
  | _ => s

/-- The results of `recv_event`. -/
inductive Received
  | event (event : Option TranscriptEvent)
  | failed (error : PyError)

/-- One turn of the loop of `_pump_events`. -/
def pumpEvent (config : RelayConfig) (s : Relay) : Received → Relay
  | .event none => s
  | .event (some event) =>
    let s := s.sendTranscriptEvent config event
    if event.isFinal then { s.resolve (.result event) with receiverTask := some .returned }
    else if event.type = "error" then
      let message := if event.text = "" then "ASR websocket error" else event.text
      { s.resolve (.failed message) with receiverTask := some .returned }
    else s
  | .failed error =>
    { s.sendError ("ASR websocket receive failed: " ++ excText error) with
      receiverTask := some .returned }

/-- `_pump_events` receives, if it is running. -/
def receive (config : RelayConfig) (s : Relay) (received : Received) : Relay :=
  if s.receiverTask = some .running then s.pumpEvent config received else s

/-- A new client, before it is started. -/
def newClient (s : Relay) (sampleRate numChannels : ℤ) : Relay :=
  { s with
    sampleRate := some sampleRate
    numChannels := some numChannels
    client := some { sampleRate := sampleRate, numChannels := numChannels }
    finalEvent := some .pending }

/-- The relay lets its client go. -/
def letGo (s : Relay) (ending : Ending) : Relay :=
  { s with
    client := none
    finalEvent := none
    formerClients := s.formerClients ++ s.client.toList.map fun client => (client, ending) }

/-- A started client gets its receiver task, and the application a message. -/
def connected (s : Relay) (config : RelayConfig) (sampleRate numChannels : ℤ) : Relay :=
  { s with
    receiverTask := if config.clientClass.recvEvent then some .running else s.receiverTask
    messages := s.messages ++ [.connected sampleRate numChannels] }

/-- `send_audio` returned. -/
def sentChunk (s : Relay) (chunk : Bytes) : Relay :=
  { s with
    utteranceBytesSent := s.utteranceBytesSent + chunk.length
    client := s.client.map fun client => { client with sent := client.sent ++ [chunk] } }

/-- The buffer takes audio in. -/
def hear (s : Relay) (audio : Bytes) : Relay :=
  { s with buffer := s.buffer ++ audio, heard := s.heard ++ audio }

end Relay

/-! ## The coroutines -/

/-- What happens while a coroutine of the relay waits. -/
inductive Turn
  /-- `recv_event` ends in the receiver task. -/
  | receive (received : Relay.Received)
  /-- What the coroutine waits for ends, or the coroutine is cancelled. -/
  | answer (result : Except (TaskExn PyError) (Option TranscriptEvent))

/-- A coroutine of the relay. -/
abbrev RelayTask := Routine Relay Turn (TaskExn PyError)

/-- A value, or an exception that is raised. -/
def ofExcept {α : Type} : Except PyError α → RelayTask α
  | .ok a => pure a
  | .error e => throw (.raised e)

variable (config : RelayConfig)

/-- Waiting for a call of the client. -/
def awaitClient : RelayTask (Option TranscriptEvent) := Routine.await fun s turn =>
  match turn with
  | .receive received => (s.receive config received, none)
  | .answer result => (s, some result)

/-- `await asyncio.wait_for(asyncio.shield(self._final_event), timeout=5.0)`.  The handler around it
raises again what it catches: the receiver task never ends with an exception of its own. -/
def awaitFinal : RelayTask PUnit := Routine.await fun s turn =>
  match turn with
  | .receive received => (s.receive config received, none)
  | .answer (.error .cancelled) => (s, some (.error .cancelled))
  | .answer (.error (.raised _)) => (s, some (.error (.raised (.other "TimeoutError" ""))))
  | .answer (.ok _) =>
    match s.finalEvent with
    | some (.result _) => (s, some (.ok ⟨⟩))
    | some (.failed message) => (s, some (.error (.raised (.other "RuntimeError" message))))
    | _ => (s, none)

/-- `_ensure_client`. -/
def ensureClient (sampleRate numChannels : ℤ) : RelayTask PUnit := do
  let s ← get
  if s.client.isSome then pure ⟨⟩
  else
    modify (·.newClient sampleRate numChannels)
    tryCatch (discard (awaitClient config)) fun
      | .cancelled => throw .cancelled
      | .raised error => do
        modify (·.letGo .startFailed)
        modify (·.sendError ("ASR websocket start failed: " ++ excText error))
        throw (.raised error)
    modify (·.connected config sampleRate numChannels)

/-- The receiver task is cancelled and awaited; what awaiting it raises is ignored. -/
def stopReceiver : RelayTask PUnit := do
  let s ← get
  if s.receiverTask = some .running then
    modify fun s => { s with receiverTask := some .cancelled }
    tryCatch (discard (awaitClient config)) fun _ => pure ⟨⟩
  modify fun s => { s with receiverTask := none }

/-- `_close_client`. -/
def closeClient : RelayTask PUnit := do
  stopReceiver config
  if (← get).client.isSome then
    discard (awaitClient config)
  modify fun s => { s.letGo .closed with utteranceBytesSent := 0 }

/-- The part of `_finalize_and_close_client` before it closes the client. -/
def finalizeClient : RelayTask PUnit := do
  let finalEvent ← awaitClient config
  if config.clientClass.finalize then
    match finalEvent.filter fun _ => config.clientClass.returnsFinal with
    | some event => modify (·.sendTranscriptEvent config event)
    | none =>
      match (← get).finalEvent with
      | none => pure ⟨⟩
      | some (.result _) => pure ⟨⟩
      | some (.failed message) => throw (.raised (.other "RuntimeError" message))
      | some .pending => awaitFinal config
  else
    match finalEvent with
    | some event => modify (·.sendTranscriptEvent config event)
    | none =>
      throw (.raised (.other "AttributeError" "'NoneType' object has no attribute 'is_final'"))

/-- `_finalize_and_close_client`. -/
def finalizeAndCloseClient : RelayTask PUnit := do
  if (← get).client.isNone then pure ⟨⟩
  else
    finalizeClient config
    closeClient config

/-- `_roll_utterance_if_needed`. -/
def rollUtteranceIfNeeded (nextChunkBytes : ℕ) : RelayTask PUnit := do
  let s ← get
  match s.sampleRate, s.numChannels with
  | some sampleRate, some numChannels =>
    let cap ← ofExcept (maxBufferBytes config sampleRate numChannels)
    if s.utteranceBytesSent = 0 then pure ⟨⟩
    else if s.utteranceBytesSent + nextChunkBytes ≤ cap then pure ⟨⟩
    else
      let ms ← ofExcept (bufferedAudioMs s.utteranceBytesSent sampleRate numChannels)
      modify fun s => { s with messages := s.messages ++ [.rolling ms] }
      finalizeAndCloseClient config
      ensureClient config sampleRate numChannels
  | _, _ => pure ⟨⟩

/-- `_send_chunk`. -/
def sendChunk (chunk : Bytes) : RelayTask PUnit := do
  let s ← get
  if s.client.isNone then throw (.raised (.other "RuntimeError" "ASR client is not started"))
  else
    rollUtteranceIfNeeded config chunk.length
    tryCatch (discard (awaitClient config)) fun
      | .cancelled => throw .cancelled
      | .raised error => do
        modify (·.sendError ("ASR websocket send failed: " ++ excText error))
        throw (.raised error)
    modify (·.sentChunk chunk)

/-- The loop of `handle_audio_frame`.  Every turn takes at least one byte from the buffer. -/
def sendChunks (chunkSize : ℕ) : ℕ → RelayTask PUnit
  | 0 => pure ⟨⟩
  | fuel + 1 => do
    let s ← get
    if chunkSize ≤ s.buffer.length then
      modify fun s => { s with buffer := s.buffer.drop chunkSize }
      sendChunk config (s.buffer.take chunkSize)
      sendChunks chunkSize fuel
    else pure ⟨⟩

/-- An audio frame, with the attributes it has. -/
structure AudioFrame where
  audio : Option Bytes := none
  sampleRate : Option ℤ := none
  numChannels : Option ℤ := none

/-- `int(getattr(frame, "sample_rate", 16000))`. -/
def AudioFrame.rate (frame : AudioFrame) : ℤ := frame.sampleRate.getD 16000

/-- `int(getattr(frame, "num_channels", 1))`. -/
def AudioFrame.channels (frame : AudioFrame) : ℤ := frame.numChannels.getD 1

/-- `handle_audio_frame`. -/
def handleAudioFrame (frame : AudioFrame) : RelayTask PUnit := do
  let audio := frame.audio.getD []
  if audio.isEmpty then pure ⟨⟩
  else
    ensureClient config frame.rate frame.channels
    modify (·.hear audio)
    let chunkSize ← ofExcept (chunkSizeBytes config frame.rate frame.channels)
    sendChunks config chunkSize (← get).buffer.length

/-- The rest of the buffer is sent. -/
def sendRest : RelayTask PUnit := do
  let s ← get
  if s.buffer.isEmpty then pure ⟨⟩
  else
    sendChunk config s.buffer
    modify fun s => { s with buffer := [] }

/-- The `except` part of `close`. -/
def shutdownFailed : TaskExn PyError → RelayTask PUnit
  | .cancelled => throw .cancelled
  | .raised error => modify (·.sendError ("ASR relay shutdown failed: " ++ excText error))

/-- The part of `close` before the client is closed. -/
def shutDown : RelayTask PUnit :=
  tryCatch
    (do
      sendRest config
      if 0 < (← get).utteranceBytesSent then finalizeAndCloseClient config else pure ⟨⟩)
    shutdownFailed

/-- `close`. -/
def close : RelayTask PUnit := do
  if (← get).client.isNone then pure ⟨⟩
  else tryFinally (shutDown config) (closeClient config)

/-! ## The frame processor -/

/-- What the frame processor calls. -/
inductive Call
  | handleAudioFrame (frame : AudioFrame)
  | close

/-- A call. -/
def Call.run : Call → RelayTask PUnit
  | .handleAudioFrame frame => Bridge.handleAudioFrame config frame
  | .close => Bridge.close config

/-- The time between two calls. -/
def idle : RelayTask PUnit := Routine.await fun s turn =>
  match turn with
  | .receive received => (s.receive config received, none)
  | .answer _ => (s, some (.ok ⟨⟩))

/-- The frame processor makes one call after the other, whether they raise or not. -/
def serve : List Call → RelayTask PUnit
  | [] => idle config
  | call :: calls => do
    idle config
    tryCatch (call.run config) fun _ =>
      modify fun s => { s with raisedCalls := s.raisedCalls + 1 }
    serve calls

end RtcAsr.Bridge
