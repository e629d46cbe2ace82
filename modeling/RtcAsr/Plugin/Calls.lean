import RtcAsr.Plugin.Service
import RtcAsr.Foundation.Coroutine

/-!
# The coroutines of the streaming service

The methods of `LocalStreamingSTTService` that await, one definition each.  A `Call` is a method
with its arguments, a `Frame` a call stopped at one of its awaits; the frame carries the local
variables that are read afterwards.  Each definition gives the frame move for a frame of its method
and for the signal it is resumed with, `entry` being the beginning of the method.

The environment decides how an awaited operation of a connection, a timeout or a sleep ends, and
when a connection breaks.  A connection that is not broken takes a payload in when `send` is called;
`send` can still fail afterwards.
-/

namespace RtcAsr.Plugin

/-- The frames `process_frame` tells apart. -/
inductive PipecatFrame
  | audioRaw (audio : Bytes) (sampleRate numChannels : ℤ)
  | vadUserStartedSpeaking
  /-- `VADUserStoppedSpeakingFrame` and `UserStoppedSpeakingFrame`. -/
  | userStoppedSpeaking
  | other

/-- The methods with their arguments. -/
inductive Call
  | ensureConnection
  | closeSocketAndTasks (cancelCurrent : Bool)
  | ensureUtteranceStarted
  | sendWs (payload : Payload) (replay startAfter : Bool)
  | reconnect (startUtterance : Bool)
  | disconnect
  | sendLoop
  | receiveLoop
  | handleServerPayload (payload : Dict)
  | sendControl (payload : Payload)
  | enqueueChunk (chunk : AudioChunk)
  | handleAudio (audio : Bytes)
  | startCurrentUtterance
  | finalizeCurrentUtterance
  | cancelCurrentUtterance
  | processFrame (frame : PipecatFrame)
  | start
  | stop

inductive EnsureConnectionPc
  | entry
  | locking
  | connecting

inductive ClosePc
  | entry
  | awaiting (task : TaskId) (rest : List TaskId)
  | closing

inductive EnsureUtterancePc
  | entry
  | locking
  | connecting
  | sending (generation : ℕ)
  | readying (event : ℕ)

/-- `handed` says that the connection took the payload in. -/
inductive SendWsPc
  | entry
  | sending (connection : ℕ) (handed : Bool)
  | reconnecting
  | resending (connection : ℕ) (handed : Bool)

inductive ReconnectPc
  | entry
  | closing
  | connecting
  | starting

inductive DisconnectPc
  | entry
  | closing

inductive SendLoopPc
  | entry
  | getting
  | sending (chunk : AudioChunk)
  | disconnecting (chunk : AudioChunk)

inductive ReceiveLoopPc
  | entry
  | receiving (connection : ℕ)
  | handling (payload : Dict)
  | reconnecting
  | disconnecting

inductive HandlePc
  | entry
  | ponging (reply : Dict)
  | pushing (isFinal : Bool)

inductive SendControlPc
  | entry
  | connecting
  | sending

inductive EnqueuePc
  | entry
  | sleeping

inductive HandleAudioPc
  | entry
  | connecting
  | enqueueing (chunk : AudioChunk)

inductive StartUtterancePc
  | entry
  | starting
  | enqueueing (chunk : AudioChunk)

inductive FinalizePc
  | entry
  | enqueueing (generation : ℕ) (chunk : AudioChunk)
  | joining (generation drained : ℕ)
  | sending (generation event : ℕ)
  | waiting (generation event : ℕ)
  | disconnecting (generation event : ℕ)

inductive CancelPc
  | entry
  | sending (connection : ℕ)
  | disconnecting

inductive ProcessPc
  | entry
  | handling
  | pushing

inductive StartPc
  | entry
  | connecting

inductive StopPc
  | entry
  | sending
  | disconnecting

/-- A call stopped at one of its awaits. -/
inductive Frame
  | ensureConnection (pc : EnsureConnectionPc)
  | closeSocketAndTasks (cancelCurrent : Bool) (pc : ClosePc)
  | ensureUtteranceStarted (pc : EnsureUtterancePc)
  | sendWs (payload : Payload) (replay startAfter : Bool) (pc : SendWsPc)
  | reconnect (startUtterance : Bool) (pc : ReconnectPc)
  | disconnect (pc : DisconnectPc)
  | sendLoop (pc : SendLoopPc)
  | receiveLoop (pc : ReceiveLoopPc)
  | handleServerPayload (payload : Dict) (pc : HandlePc)
  | sendControl (payload : Payload) (pc : SendControlPc)
  | enqueueChunk (chunk : AudioChunk) (pc : EnqueuePc)
  | handleAudio (audio : Bytes) (pc : HandleAudioPc)
  | startCurrentUtterance (pc : StartUtterancePc)
  | finalizeCurrentUtterance (pc : FinalizePc)
  | cancelCurrentUtterance (pc : CancelPc)
  | processFrame (frame : PipecatFrame) (pc : ProcessPc)
  | start (pc : StartPc)
  | stop (pc : StopPc)

/-- The beginning of a call. -/
def Call.enter : Call → Frame
  | .ensureConnection => .ensureConnection .entry
  | .closeSocketAndTasks cancelCurrent => .closeSocketAndTasks cancelCurrent .entry
  | .ensureUtteranceStarted => .ensureUtteranceStarted .entry
  | .sendWs payload replay startAfter => .sendWs payload replay startAfter .entry
  | .reconnect startUtterance => .reconnect startUtterance .entry
  | .disconnect => .disconnect .entry
  | .sendLoop => .sendLoop .entry
  | .receiveLoop => .receiveLoop .entry
  | .handleServerPayload payload => .handleServerPayload payload .entry
  | .sendControl payload => .sendControl payload .entry
  | .enqueueChunk chunk => .enqueueChunk chunk .entry
  | .handleAudio audio => .handleAudio audio .entry
  | .startCurrentUtterance => .startCurrentUtterance .entry
  | .finalizeCurrentUtterance => .finalizeCurrentUtterance .entry
  | .cancelCurrentUtterance => .cancelCurrentUtterance .entry
  | .processFrame frame => .processFrame frame .entry
  | .start => .start .entry
  | .stop => .stop .entry

/-- The call of a frame. -/
def Frame.call : Frame → Call
  | .ensureConnection _ => .ensureConnection
  | .closeSocketAndTasks cancelCurrent _ => .closeSocketAndTasks cancelCurrent
  | .ensureUtteranceStarted _ => .ensureUtteranceStarted
  | .sendWs payload replay startAfter _ => .sendWs payload replay startAfter
  | .reconnect startUtterance _ => .reconnect startUtterance
  | .disconnect _ => .disconnect
  | .sendLoop _ => .sendLoop
  | .receiveLoop _ => .receiveLoop
  | .handleServerPayload payload _ => .handleServerPayload payload
  | .sendControl payload _ => .sendControl payload
  | .enqueueChunk chunk _ => .enqueueChunk chunk
  | .handleAudio audio _ => .handleAudio audio
  | .startCurrentUtterance _ => .startCurrentUtterance
  | .finalizeCurrentUtterance _ => .finalizeCurrentUtterance
  | .cancelCurrentUtterance _ => .cancelCurrentUtterance
  | .processFrame frame _ => .processFrame frame
  | .start _ => .start
  | .stop _ => .stop

/-- `_send_json(payload)` and `_send_binary(payload)`. -/
def Call.send (payload : Payload) : Call := .sendWs payload true true

/-- The call a frame waits for. -/
def Frame.pending : Frame → Option Call
  | .ensureUtteranceStarted .connecting => some .ensureConnection
  | .ensureUtteranceStarted (.sending generation) => some (.sendWs (.start generation) true false)
  | .sendWs _ _ startAfter .reconnecting => some (.reconnect startAfter)
  | .reconnect _ .closing => some (.closeSocketAndTasks false)
  | .reconnect _ .connecting => some .ensureConnection
  | .reconnect true .starting => some .ensureUtteranceStarted
  | .disconnect .closing => some (.closeSocketAndTasks true)
  | .sendLoop (.sending chunk) => some (.send (.audio chunk))
  | .sendLoop (.disconnecting _) => some .disconnect
  | .receiveLoop (.handling payload) => some (.handleServerPayload payload)
  | .receiveLoop .reconnecting => some (.reconnect true)
  | .receiveLoop .disconnecting => some .disconnect
  | .handleServerPayload _ (.ponging reply) => some (.send (.pong reply))
  | .sendControl _ .connecting => some .ensureConnection
  | .sendControl payload .sending => some (.sendWs payload false false)
  | .handleAudio _ .connecting => some .ensureConnection
  | .handleAudio _ (.enqueueing chunk) => some (.enqueueChunk chunk)
  | .startCurrentUtterance .starting => some .ensureUtteranceStarted
  | .startCurrentUtterance (.enqueueing chunk) => some (.enqueueChunk chunk)
  | .finalizeCurrentUtterance (.enqueueing _ chunk) => some (.enqueueChunk chunk)
  | .finalizeCurrentUtterance (.sending _ _) => some (.sendControl .finalize)
  | .finalizeCurrentUtterance (.disconnecting _ _) => some .disconnect
  | .cancelCurrentUtterance (.sending _) => some (.sendControl .cancel)
  | .cancelCurrentUtterance .disconnecting => some .disconnect
  | .processFrame (.audioRaw audio _ _) .handling => some (.handleAudio audio)
  | .processFrame .vadUserStartedSpeaking .handling => some .startCurrentUtterance
  | .processFrame .userStoppedSpeaking .handling => some .finalizeCurrentUtterance
  | .start .connecting => some .ensureConnection
  | .stop .sending => some (.send .close)
  | .stop .disconnecting => some .disconnect
  | _ => none

/-- What the coroutines are resumed with. -/
abbrev ServiceSignal := Signal (Option Json) PluginExn

/-- The frame moves of the service. -/
abbrev ServiceMove := Move Service Frame Call PluginExn

/-- The end of a method that passes on the outcome of its last call. -/
def passOn (s : Service) : ServiceSignal → ServiceMove
  | .value _ => .ret s
  | .failed e => .throw s e

@[simp] lemma passOn_shared (s : Service) (signal : ServiceSignal) :
    (passOn s signal).shared = s := by
  cases signal <;> rfl

variable (config : LocalSTTConfig) (me next : TaskId) (s : Service)

/-- `_ensure_connection`. -/
def ensureConnection : EnsureConnectionPc → ServiceSignal → ServiceMove
  | .entry, _ => if s.websocket.isSome then .ret s else .await s (.ensureConnection .locking)
  | .locking, .failed e => .throw s e
  | .locking, .value _ =>
    if s.websocket.isSome then .ret s
    else
      .await { s with connectLock := some me, closed := false } (.ensureConnection .connecting)
  | .connecting, .failed e => .throw { s with connectLock := none } e
  | .connecting, .value _ =>
    { shared := { s.connected next with connectLock := none }
      command := .ret
      spawn := [.sendLoop, .receiveLoop] }

/-- `_close_socket_and_tasks` after its tasks have ended. -/
def closeSocket (cancelCurrent : Bool) : ServiceMove :=
  let s := { s with sendTask := none, receiveTask := none }
  if s.websocket.isSome then .await s (.closeSocketAndTasks cancelCurrent .closing)
  else .ret { s with closed := s.closed && cancelCurrent }

/-- The second loop of `_close_socket_and_tasks`. -/
def awaitTasks (cancelCurrent : Bool) : List TaskId → ServiceMove
  | [] => closeSocket s cancelCurrent
  | task :: rest => .await s (.closeSocketAndTasks cancelCurrent (.awaiting task rest))

/-- `_close_socket_and_tasks`. -/
def closeSocketAndTasks (cancelCurrent : Bool) : ClosePc → ServiceSignal → ServiceMove
  | .entry, _ =>
    { awaitTasks { s with closed := true } cancelCurrent (s.linkTasks me) with
      cancel := s.linkTasks me }
  | .awaiting _ _, .failed (.raised e) => .throw s (.raised e)
  | .awaiting _ rest, _ => awaitTasks s cancelCurrent rest
  | .closing, .failed .cancelled => .throw s .cancelled
  | .closing, _ => .ret { s with closed := s.closed && cancelCurrent }

/-- `_ensure_utterance_started`. -/
def ensureUtteranceStarted : EnsureUtterancePc → ServiceSignal → ServiceMove
  | .entry, _ => if s.utteranceActive then .ret s else .await s (.ensureUtteranceStarted .locking)
  | .locking, .failed e => .throw s e
  | .locking, .value _ =>
    if s.utteranceActive then .ret s
    else
      .call { s with startLock := some me } (.ensureUtteranceStarted .connecting) .ensureConnection
  | .connecting, .value _ =>
    .call s.prepareStart (.ensureUtteranceStarted (.sending s.generation))
      (.sendWs (.start s.generation) true false)
  | .sending _, .value _ =>
    .await s (.ensureUtteranceStarted (.readying (s.readyEvent.getD 0)))
  | .readying _, .value _ => .ret { s with utteranceActive := true, startLock := none }
  | _, .failed e => .throw { s with startLock := none } e

/-- `_send_ws`. -/
def sendWs (payload : Payload) (replay startAfter : Bool) : SendWsPc → ServiceSignal → ServiceMove
  | .entry, _ =>
    match s.websocket with
    | none => .throw s (.raised (.runtimeError "Local STT websocket is not connected"))
    | some connection =>
      .await (s.hand connection payload)
        (.sendWs payload replay startAfter
          (.sending connection (!s.broken.contains connection)))
  | .sending _ _, .value _ => .ret s
  | .sending _ _, .failed .cancelled => .throw s .cancelled
  | .sending _ _, .failed (.raised e) =>
    if config.reconnectOnError then
      .call s (.sendWs payload replay startAfter .reconnecting) (.reconnect startAfter)
    else .throw s (.raised e)
  | .reconnecting, .failed e => .throw s e
  | .reconnecting, .value _ =>
    if replay then
      match s.websocket with
      | none => .throw s (.raised (.runtimeError "Local STT websocket reconnect failed"))
      | some connection =>
        .await (s.hand connection payload)
          (.sendWs payload replay startAfter
            (.resending connection (!s.broken.contains connection)))
    else .ret s
  | .resending _ _, signal => passOn s signal

/-- `_reconnect`. -/
def reconnect (startUtterance : Bool) : ReconnectPc → ServiceSignal → ServiceMove
  | .entry, _ => .call s (.reconnect startUtterance .closing) (.closeSocketAndTasks false)
  | .closing, .value _ =>
    .call s.dropConnection (.reconnect startUtterance .connecting) .ensureConnection
  | .connecting, .value _ =>
    if startUtterance then .call s (.reconnect true .starting) .ensureUtteranceStarted else .ret s
  | .starting, .value _ => .ret s
  | _, .failed e => .throw s e

/-- `_disconnect`. -/
def disconnect : DisconnectPc → ServiceSignal → ServiceMove
  | .entry, _ => .call s (.disconnect .closing) (.closeSocketAndTasks true)
  | .closing, .value _ => .ret s.disconnect
  | .closing, .failed e => .throw s e

/-- The head of the loop of `_send_loop`. -/
def sendLoopHead : ServiceMove := if s.closed then .ret s else .await s (.sendLoop .getting)

/-- `_send_loop`. -/
def sendLoop : SendLoopPc → ServiceSignal → ServiceMove
  | .entry, .failed e => .throw s e
  | .entry, .value _ => sendLoopHead s
  | .getting, .failed e => .throw s e
  | .getting, .value _ =>
    match s.sendQueue with
    | [] => .await s (.sendLoop .getting)
    | chunk :: rest =>
      if chunk.generation = s.generation then
        .call (s.takeChunk chunk rest) (.sendLoop (.sending chunk)) (.send (.audio chunk))
      else sendLoopHead (s.takeChunk chunk rest).taskDone
  | .sending _, .value _ =>
    if s.sendTask = some me then sendLoopHead s.taskDone else .ret s.taskDone
  | .sending _, .failed .cancelled => .throw s.taskDone .cancelled
  | .sending chunk, .failed (.raised _) => .call s (.sendLoop (.disconnecting chunk)) .disconnect
  | .disconnecting _, signal => passOn s.taskDone signal

/-- The head of the loop of `_receive_loop`. -/
def receiveLoopHead : ServiceMove :=
  if s.closed then .ret s
  else
    match s.websocket with
    | none => .ret s
    | some connection => .await s (.receiveLoop (.receiving connection))

/-- The error handler of `_receive_loop`. -/
def receiveLoopError : ServiceMove :=
  if !config.reconnectOnError || s.closed then .call s (.receiveLoop .disconnecting) .disconnect
  else .call s (.receiveLoop .reconnecting) (.reconnect true)

/-- `_receive_loop`. -/
def receiveLoop : ReceiveLoopPc → ServiceSignal → ServiceMove
  | .entry, .failed e => .throw s e
  | .entry, .value _ => receiveLoopHead s
  | .receiving _, .failed .cancelled => .throw s .cancelled
  | .receiving _, .failed (.raised _) => receiveLoopError config s
  | .receiving connection, .value message =>
    let message := message.getD .null
    let s := s.record (.received connection message)
    match parseServerMessage message with
    | .error _ => receiveLoopError config s
    | .ok payload => .call s (.receiveLoop (.handling payload)) (.handleServerPayload payload)
  | .handling _, .value _ => receiveLoopHead s
  | .handling _, .failed .cancelled => .throw s .cancelled
  | .handling _, .failed (.raised _) => receiveLoopError config s
  | .reconnecting, signal => passOn s signal
  | .disconnecting, signal => passOn s signal

/-- The end of a transcript event in `_handle_server_payload`. -/
def endTranscript (isFinal : Bool) : Service :=
  if isFinal then s.endUtterance .finalTranscript else s

/-- `_push_transcript` on a transcript of this kind pushes a frame. -/
def LocalSTTConfig.emits (isFinal : Bool) : Bool :=
  if isFinal then config.emitFinalFrames else config.emitInterimFrames

/-- A transcript that is neither stale nor suppressed. -/
def pushTranscript (payload : Dict) (event : TranscriptEvent) (generation : Generation) :
    ServiceMove :=
  let s := if event.isFinal then s.recordFinalTranscriptReceived generation else s
  if config.emits event.isFinal then
    .await (s.record (.pushed event generation s.generation))
      (.handleServerPayload payload (.pushing event.isFinal))
  else .ret (endTranscript s event.isFinal)

/-- `_handle_server_payload`. -/
def handleServerPayload (payload : Dict) : HandlePc → ServiceSignal → ServiceMove
  | .entry, _ =>
    match serverEvent payload with
    | .error e => .throw s (.raised e)
    | .ok (.ping reply) =>
      .call s (.handleServerPayload payload (.ponging reply)) (.send (.pong reply))
    | .ok .pong => .ret s
    | .ok (.ready generation) =>
      if generation.stale s.generation then .ret s
      else .ret { s with readySet := s.readyEvent.toList ++ s.readySet }
    | .ok (.transcript event generation) =>
      if generation.stale s.generation || s.suppressTranscripts then .ret s
      else pushTranscript config s payload event generation
    | .ok .warning => .ret s
    | .ok .closed => .ret (s.releaseFinalWaiters .server)
    | .ok .error => .ret (s.releaseFinalWaiters .server)
  | .ponging _, signal => passOn s signal
  | .pushing _, .failed e => .throw s e
  | .pushing isFinal, .value _ => .ret (endTranscript s isFinal)

/-- `_send_control` with `ensure_started=False`, which all its callers pass. -/
def sendControl (payload : Payload) : SendControlPc → ServiceSignal → ServiceMove
  | .entry, _ => .call s (.sendControl payload .connecting) .ensureConnection
  | .connecting, .value _ =>
    .call s (.sendControl payload .sending) (.sendWs payload false false)
  | .sending, .value _ => .ret s
  | _, .failed e => .throw s e

/-- The `block` loop of `_enqueue_chunk`. -/
def blockChunk (chunk : AudioChunk) : ServiceMove :=
  if s.exceeds config chunk && !(s.sendQueue.isEmpty &&
      decide ((config.maxSendQueueMs : ℚ) < chunk.durationMs)) then
    .await s (.enqueueChunk chunk .sleeping)
  else .ret (s.putChunk chunk)

/-- `_enqueue_chunk`. -/
def enqueueChunk (chunk : AudioChunk) : EnqueuePc → ServiceSignal → ServiceMove
  | .entry, _ =>
    match config.dropPolicy with
    | .block => blockChunk config s chunk
    | .raise =>
      if s.exceeds config chunk then
        .throw (s.countDropped chunk) (.raised (.queueFull "Local STT send queue is full"))
      else .ret (s.enqueueDroppingOldest config chunk)
    | .dropOldest => .ret (s.enqueueDroppingOldest config chunk)
  | .sleeping, .failed e => .throw s e
  | .sleeping, .value _ => blockChunk config s chunk

/-- A chunk that a method passes on to `_enqueue_chunk` at its end. -/
def enqueueLast (flushed : Service × Option AudioChunk) (pc : AudioChunk → Frame) : ServiceMove :=
  match flushed with
  | (s, none) => .ret s
  | (s, some chunk) => .call s (pc chunk) (.enqueueChunk chunk)

/-- `_handle_audio`. -/
def handleAudio (audio : Bytes) : HandleAudioPc → ServiceSignal → ServiceMove
  | .entry, _ =>
    if audio.isEmpty then .ret s else .call s (.handleAudio audio .connecting) .ensureConnection
  | .connecting, .failed e => .throw s e
  | .connecting, .value _ =>
    let heard := s.record (.heard audio s.utteranceActive)
    if s.utteranceActive then
      enqueueLast (heard.queueAudioForSend config audio) fun chunk =>
        .handleAudio audio (.enqueueing chunk)
    else .ret (heard.appendPreRoll config audio)
  | .enqueueing _, signal => passOn s signal

/-- `_start_current_utterance`. -/
def startCurrentUtterance : StartUtterancePc → ServiceSignal → ServiceMove
  | .entry, _ =>
    let s := s.record .vadStarted
    if s.utteranceActive then .ret s
    else
      .call { s with generation := s.generation + 1 } (.startCurrentUtterance .starting)
        .ensureUtteranceStarted
  | .starting, .failed e => .throw s e
  | .starting, .value _ =>
    enqueueLast (s.flushPreRoll config) fun chunk => .startCurrentUtterance (.enqueueing chunk)
  | .enqueueing _, signal => passOn s signal

/-- `finalize_current_utterance`. -/
def finalizeCurrentUtterance : FinalizePc → ServiceSignal → ServiceMove
  | .entry, _ =>
    if s.utteranceActive then
      match s.flushAggregateBuffer with
      | (s, none) => .await s (.finalizeCurrentUtterance (.joining s.generation s.drained))
      | (s, some chunk) =>
        .call s (.finalizeCurrentUtterance (.enqueueing s.generation chunk)) (.enqueueChunk chunk)
    else .ret s
  | .enqueueing _ _, .failed e => .throw s e
  | .enqueueing generation _, .value _ =>
    .await s (.finalizeCurrentUtterance (.joining generation s.drained))
  | .joining _ _, .failed e => .throw s e
  | .joining generation _, .value _ =>
    if s.utteranceActive && s.websocket.isSome then
      .call (s.setdefaultFinal generation)
        (.finalizeCurrentUtterance (.sending generation (s.finalEvent generation)))
        (.sendControl .finalize)
    else .ret s
  | .sending _ _, .failed e => .throw s e
  | .sending generation event, .value _ =>
    if config.finalTimeoutS.nonpos || config.finalTimeoutS = .nan then
      .ret ((s.endUtterance .finalized).popFinal generation)
    else
      .await (s.endUtterance .finalized) (.finalizeCurrentUtterance (.waiting generation event))
  | .waiting generation event, .failed (.raised .timeoutError) =>
    .call s (.finalizeCurrentUtterance (.disconnecting generation event)) .disconnect
  | .waiting generation _, signal => passOn (s.popFinal generation) signal
  | .disconnecting generation _, signal => passOn (s.popFinal generation) signal

/-- `cancel_current_utterance`. -/
def cancelCurrentUtterance : CancelPc → ServiceSignal → ServiceMove
  | .entry, _ =>
    match s.cancelUtterance.websocket with
    | none => .ret s.cancelUtterance
    | some connection =>
      .call s.cancelUtterance (.cancelCurrentUtterance (.sending connection)) (.sendControl .cancel)
  | .sending _, .failed e => .throw s e
  | .sending connection, .value _ =>
    if s.websocket = some connection then
      .call s (.cancelCurrentUtterance .disconnecting) .disconnect
    else .ret s
  | .disconnecting, signal => passOn s signal

/-- The checks of `_validate_audio_frame`. -/
def validateAudioFrame (audio : Bytes) (sampleRate numChannels : ℤ) : Except PluginExn Unit :=
  if sampleRate ≠ config.sampleRate then
    .error (.valueError ("Local STT requires " ++ toString config.sampleRate ++ " Hz audio; got "
      ++ toString sampleRate))
  else if numChannels ≠ config.channels then
    .error (.valueError ("Local STT requires mono audio; got " ++ toString numChannels
      ++ " channels"))
  else if (audio.length : ℤ) % (config.channels * 2) ≠ 0 then
    .error (.valueError "Local STT requires complete little-endian PCM16 samples")
  else .ok ()

/-- `process_frame`; a frame that is passed on is pushed by the superclass. -/
def processFrame (frame : PipecatFrame) : ProcessPc → ServiceSignal → ServiceMove
  | .entry, .failed e => .throw s e
  | .entry, .value _ =>
    match frame with
    | .audioRaw audio sampleRate numChannels =>
      match validateAudioFrame config audio sampleRate numChannels with
      | .error e => .throw s (.raised e)
      | .ok () => .call s (.processFrame frame .handling) (.handleAudio audio)
    | .vadUserStartedSpeaking => .call s (.processFrame frame .handling) .startCurrentUtterance
    | _ => .await s (.processFrame frame .pushing)
  | .handling, .failed e => .throw s e
  | .handling, .value _ =>
    match frame with
    | .audioRaw _ _ _ =>
      if config.passAudioDownstream then .await s (.processFrame frame .pushing) else .ret s
    | .vadUserStartedSpeaking => .await s (.processFrame frame .pushing)
    | _ => .ret s
  | .pushing, .failed e => .throw s e
  | .pushing, .value _ =>
    match frame with
    | .userStoppedSpeaking => .call s (.processFrame frame .handling) .finalizeCurrentUtterance
    | _ => .ret s

/-- `start`. -/
def start : StartPc → ServiceSignal → ServiceMove
  | .entry, .failed e => .throw s e
  | .entry, .value _ => .call s (.start .connecting) .ensureConnection
  | .connecting, signal => passOn s signal

/-- `stop`. -/
def stop : StopPc → ServiceSignal → ServiceMove
  | .entry, .failed e => .throw s e
  | .entry, .value _ =>
    if s.websocket.isSome then .call s (.stop .sending) (.send .close)
    else .call s (.stop .disconnecting) .disconnect
  | .sending, .failed e => .throw s e
  | .sending, .value _ => .call s (.stop .disconnecting) .disconnect
  | .disconnecting, signal => passOn s signal

/-- The frame move of a frame. -/
def frameMove : Frame → ServiceSignal → ServiceMove
  | .ensureConnection pc, signal => ensureConnection me next s pc signal
  | .closeSocketAndTasks cancelCurrent pc, signal =>
    closeSocketAndTasks me s cancelCurrent pc signal
  | .ensureUtteranceStarted pc, signal => ensureUtteranceStarted me s pc signal
  | .sendWs payload replay startAfter pc, signal =>
    sendWs config s payload replay startAfter pc signal
  | .reconnect startUtterance pc, signal => reconnect s startUtterance pc signal
  | .disconnect pc, signal => disconnect s pc signal
  | .sendLoop pc, signal => sendLoop me s pc signal
  | .receiveLoop pc, signal => receiveLoop config s pc signal
  | .handleServerPayload payload pc, signal => handleServerPayload config s payload pc signal
  | .sendControl payload pc, signal => sendControl s payload pc signal
  | .enqueueChunk chunk pc, signal => enqueueChunk config s chunk pc signal
  | .handleAudio audio pc, signal => handleAudio config s audio pc signal
  | .startCurrentUtterance pc, signal => startCurrentUtterance config s pc signal
  | .finalizeCurrentUtterance pc, signal => finalizeCurrentUtterance config s pc signal
  | .cancelCurrentUtterance pc, signal => cancelCurrentUtterance s pc signal
  | .processFrame frame pc, signal => processFrame config s frame pc signal
  | .start pc, signal => start s pc signal
  | .stop pc, signal => stop s pc signal

/-! ## What the environment decides -/

/-- The signals with which what a frame awaits can end. -/
def Frame.answers : Frame → ServiceSignal → Bool
  | _, .failed .cancelled => false
  | .ensureConnection .locking, .value _ => s.connectLock.isNone
  | .ensureConnection .connecting, _ => true
  | .closeSocketAndTasks _ .closing, _ => true
  | .ensureUtteranceStarted .locking, .value _ => s.startLock.isNone
  | .ensureUtteranceStarted (.readying event), .value _ => s.readySet.contains event
  | .ensureUtteranceStarted (.readying _), .failed (.raised .timeoutError) => true
  | .sendWs _ _ _ (.sending _ handed), .value _ => handed
  | .sendWs _ _ _ (.resending _ handed), .value _ => handed
  | .sendWs _ _ _ (.sending _ _), .failed _ => true
  | .sendWs _ _ _ (.resending _ _), .failed _ => true
  | .sendLoop .getting, .value _ => !s.sendQueue.isEmpty
  | .receiveLoop (.receiving _), .value message => message.isSome
  | .receiveLoop (.receiving _), .failed _ => true
  | .handleServerPayload _ (.pushing _), _ => true
  | .enqueueChunk _ .sleeping, .value _ => true
  | .finalizeCurrentUtterance (.joining _ drained), .value _ =>
    s.unfinished == 0 || s.drained != drained
  | .finalizeCurrentUtterance (.waiting _ event), .value _ => s.finalSet.contains event
  | .finalizeCurrentUtterance (.waiting _ _), .failed (.raised .timeoutError) => true
  | .processFrame _ .pushing, _ => true
  -- A task that was created begins with the first frame of its call.
  | .sendLoop .entry, .value _ => true
  | .receiveLoop .entry, .value _ => true
  | .processFrame _ .entry, .value _ => true
  | .start .entry, .value _ => true
  | .stop .entry, .value _ => true
  | .cancelCurrentUtterance .entry, .value _ => true
  | .finalizeCurrentUtterance .entry, .value _ => true
  | .disconnect .entry, .value _ => true
  | _, _ => false

/-- The task a frame awaits. -/
def Frame.awaited : Frame → Option TaskId
  | .closeSocketAndTasks _ (.awaiting task _) => some task
  | _ => none

/-- The methods the application calls; `cancel` and `cleanup` add a call of the superclass to
`cancel_current_utterance` and `_disconnect`. -/
def Call.callable : Call → Bool
  | .processFrame _ => true
  | .start => true
  | .stop => true
  | .cancelCurrentUtterance => true
  | .finalizeCurrentUtterance => true
  | .disconnect => true
  | _ => false

/-- The service as a program of coroutines; what happens outside is that a connection breaks. -/
def service : Coroutines Service Frame Call (Option Json) PluginExn ℕ where
  resume me next frame signal s := frameMove config me next s frame signal
  answers s frame signal := frame.answers s signal
  awaited := Frame.awaited
  outside connection s := { s with broken := connection :: s.broken }
  enter := Call.enter
  fn := Frame.call
  pending := Frame.pending
  callable := Call.callable
  none := none

/-- A state of the service and of its tasks. -/
abbrev ServiceWorld := World Service Frame (Option Json) PluginExn

/-- The choices of the environment and the event loop. -/
abbrev ServiceAction := LoopAction Call (Option Json) PluginExn ℕ

/-- A service that was constructed. -/
def ServiceWorld.initial : ServiceWorld := World.initial {}

/-- A task is resumed and makes `n` frame moves. -/
def turn (t : TaskId) (signal : ServiceSignal) (n : ℕ) : List ServiceAction :=
  .resume t signal :: List.replicate n .tick

/-- The runs of a service. -/
abbrev serviceSystem : StepSystem ServiceWorld ServiceAction := (service config).system

/-- The ready event of generation 1. -/
def readyOfFirst : Json :=
  .obj [("type", .str "ready"), ("metadata", .obj [("local_stt_generation", .int 1)])]

/-- A VAD start up to the active utterance. -/
def firstUtterance : List ServiceAction :=
  [.call (.processFrame .vadUserStartedSpeaking)] ++ turn 0 (.value none) 3 ++
    turn 0 (.value none) 2 ++ turn 0 (.value none) 1 ++ turn 0 (.value none) 3 ++
    turn 0 (.value none) 2 ++ turn 2 (.value none) 1 ++ turn 2 (.value (some readyOfFirst)) 3 ++
    turn 0 (.value none) 3

/-- A final transcript of generation 1. -/
def finalOfFirst : Json :=
  .obj [("type", .str "transcript"), ("text", .str "hello"), ("is_final", .bool true),
    ("revision", .int 1), ("audio_received_ms", .int 20), ("audio_transcribed_ms", .int 20),
    ("metadata", .obj [("client_metadata", .obj [("local_stt_generation", .int 1)])])]

/-- The first utterance takes two bytes in. -/
def firstAudio : List ServiceAction :=
  firstUtterance ++ turn 0 (.value none) 1 ++
    [.call (.processFrame (.audioRaw [1, 2] 16000 1))] ++ turn 3 (.value none) 5 ++
    turn 3 (.value none) 1

/-- The first utterance is finalized, and its audio sent. -/
def firstAudioSent : List ServiceAction :=
  firstAudio ++ [.call (.processFrame .userStoppedSpeaking)] ++ turn 4 (.value none) 1 ++
    turn 4 (.value none) 4 ++ turn 1 (.value none) 1 ++ turn 1 (.value none) 2

end RtcAsr.Plugin
