import RtcAsr.Foundation.StepSystem
import RtcAsr.Server.Runtime

/-!
# A v1 connection

The handler of a v1 connection with its receive task, over the runtime of the active stream.
`websocket_stream_v1` and `_raw_uds_stream_client` are the same program up to the transport: a
received message arrives as the event or the exception of the translators
(`RtcAsr.Server.Start`), and a write succeeds or raises.

A step is what one task does between two awaits.  The action says which task runs and what its
await returned, so a run of the step system is an interleaving of the handler, the receive task,
the worker and the sender.
-/

namespace RtcAsr

/-! ## The state -/

/-- The service state that is shared by all connections. -/
structure Services where
  /-- `services.preload_error`. -/
  preloadError : Option String := none
  /-- `services.transcriber.is_loaded()`. -/
  loaded : Bool := false
  deriving DecidableEq, Repr

/-- `_accepting_traffic`, with `asr_preload_model` of the configuration. -/
def Services.acceptingTraffic (asrPreloadModel : Bool) (s : Services) : Bool :=
  s.preloadError.isNone && (!asrPreloadModel || s.loaded)

/-- What follows `stop_runtime`.  The first two are in the `try` body of the handler, the others in
its `except` clauses. -/
inductive AfterStop
  | continueLoop
  | sendClosed
  | exit
  | sendError (message : ErrorMessage)

/-- `stop_runtime` was called in the `try` body, where its exceptions are caught. -/
def AfterStop.inTry : AfterStop → Bool
  | .continueLoop => true
  | .sendClosed => true
  | _ => false

/-- Where the handler stands. -/
inductive HandlerPc
  /-- `await asyncio.wait({receive_task, worker_task})`. -/
  | waiting
  /-- `await _start_streaming_decoder_async(...)`. -/
  | startingDecoder
  | sendingReady
  | finalizeAwaitingWorker
  | finalizeJoining
  | finalizeAwaitingSender
  | autoFinalJoining
  | cancelJoining
  | stoppingWorker (k : AfterStop)
  | cancellingDecoder (k : AfterStop)
  | closingDecoder (k : AfterStop) (pending : Option Exn)
  | stoppingSender (k : AfterStop)
  | sendingPong
  | sendingClosed
  | sendingError
  | finished

/-- The receive task. -/
inductive ReceiveTask
  | absent
  | pending
  | done (result : Except Exn ClientEvent)

/-- The message a receive task holds. -/
def ReceiveTask.held : ReceiveTask → List ClientEvent
  | .done (.ok e) => [e]
  | _ => []

/-- A v1 connection. -/
structure Conn where
  services : Services := {}
  nextStreamId : ℕ := 1
  /-- `runtime`, with `worker_task` and `send_task`. -/
  stream : Option StreamRuntime := none
  pc : HandlerPc := .waiting
  receive : ReceiveTask := .pending
  /-- The events whose write was started, in order. -/
  sent : List Event := []
  /-- The messages the receive tasks took off the transport. -/
  taken : List ClientEvent := []
  /-- The messages the handler acted on. -/
  handled : List ClientEvent := []

/-- The steps of a connection. -/
inductive Act
  /-- The receive task ends. -/
  | receive (result : Except Exn ClientEvent)
  /-- The handler's `asyncio.wait` returns. -/
  | wake
  /-- `start_stream` returns a decoder or `None`, or raises. -/
  | startedDecoder (result : Except Exn Bool)
  /-- A write of the handler ends. -/
  | handlerSent (result : Except Exn Unit)
  /-- The handler's wait for a task or for the queue ends. -/
  | proceed
  /-- `decoder.cancel` ends in the handler. -/
  | handlerDecoderCanceled (result : Except Exn Unit)
  /-- `decoder.close` ends in the handler. -/
  | handlerDecoderClosed (result : Except Exn Unit)
  /-- The sender is cancelled. -/
  | senderCancel
  /-- The worker or the sender takes a step. -/
  | task (a : StreamAct)
  /-- The model gets loaded. -/
  | modelLoaded

namespace Conn

/-! ## Exceptions and the end of a stream -/

/-- `str(exc)`, for the exceptions that are recorded or reported by their text. -/
def exnText : Exn → String
  | .disconnect => ""
  | .asrUnavailable message => message
  | .protocol e => e.message
  | .streamClient message _ => message
  | .builtin (.overflowError message) => message
  | .builtin (.valueError message) => message
  | .builtin (.typeError message) => message
  | .builtin (.other _ message) => message

/-- `_record_lazy_load_failure`. -/
def recordLazyLoadFailure (s : Services) (e : Exn) : Services :=
  if s.loaded = true then s else { s with preloadError := some (exnText e) }

/-- The top of the handler's loop: a new receive task. -/
def listen (c : Conn) : Conn := { c with pc := .waiting, receive := .pending }

/-- What the handler does after `stop_runtime`. -/
def afterStop (c : Conn) (k : AfterStop) : Conn :=
  let c := { c with stream := none }
  match k with
  | .continueLoop => c.listen
  | .sendClosed => { c with pc := .sendingClosed, sent := c.sent ++ [.closed] }
  | .exit => { c with pc := .finished }
  | .sendError message => { c with pc := .sendingError, sent := c.sent ++ [.error message] }

/-- `stop_runtime` up to its first await; without a runtime there is nothing to stop. -/
def beginStop (c : Conn) (k : AfterStop) : Conn :=
  match c.stream with
  | none => c.afterStop k
  | some r => { c with stream := some r.close, pc := .stoppingWorker k }

/-- The `except` clauses of the handler up to `stop_runtime`. -/
def raise (c : Conn) (e : Exn) : Conn :=
  match e with
  | .disconnect => c.beginStop .exit
  | .asrUnavailable message =>
    { c with services := { c.services with preloadError := some message } }.beginStop
      (.sendError { code := "backend_unavailable", message := message })
  | .protocol error => c.beginStop (.sendError error.asEvent)
  | e =>
    { c with services := recordLazyLoadFailure c.services e }.beginStop
      (.sendError { code := "internal_error", message := "Unexpected streaming error" })

/-- An exception of a decoder call in `stop_runtime`: caught in the `try` body, else it ends the
handler. -/
def raiseInStop (c : Conn) (k : AfterStop) (e : Exn) : Conn :=
  if k.inTry = true then c.raise e else { c with pc := .finished }

/-- The protocol error of a message that does not fit the state. -/
def invalidState (message : String) : Exn :=
  .protocol { message := message, code := "invalid_state" }

/-! ## Messages -/

/-- The handler acts on a received message. -/
def handle (env : ServerEnv) (c : Conn) : ClientEvent → Conn
  | .start config =>
    match c.stream with
    | some _ => c.raise (invalidState "Finish the active stream before starting a new one")
    | none =>
      match createLocalSttStreamSession config env.streamMaxBufferBytes c.nextStreamId with
      | .error e => c.raise (.builtin e)
      | .ok session =>
        { c with
          nextStreamId := c.nextStreamId + 1
          stream := some { session := session }
          pc := .startingDecoder }
  | .audio chunk =>
    match c.stream with
    | none => c.raise (invalidState "Send a start event before audio chunks")
    | some r =>
      match r.session.appendAudio chunk with
      | .error e =>
        c.raise (.protocol
          { message := exnText e, code := "buffer_limit_exceeded",
            metadata := [("max_buffer_bytes", .int r.session.maxBufferBytes)] })
      | .ok session => { c with stream := some (r.appendAudio session chunk) }.listen
  | .finalize =>
    match c.stream with
    | none => c.raise (invalidState "Send a start event before finalizing the stream")
    | some r =>
      if r.session.audioBuffer = [] then
        c.raise (invalidState "No audio chunks received for this stream")
      else { c with stream := some r.requestFinalize, pc := .finalizeAwaitingWorker }
  | .cancel =>
    match c.stream with
    | none => c.raise (invalidState "Send a start event before canceling the stream")
    | some r =>
      let r := r.requestCancel
      { c with
        stream := some (r.enqueueEvent (.canceled (localSttCancelWarningEvent r.session)))
        pc := .cancelJoining }
  | .ping message =>
    match c.stream with
    | some r =>
      match r.sender with
      | .absent => { c with pc := .sendingPong, sent := c.sent ++ [.pong message] }
      | _ => { c with stream := some (r.enqueueEvent (.pong message)) }.listen
    | none => { c with pc := .sendingPong, sent := c.sent ++ [.pong message] }
  | .pong _ => c.listen
  | .close => c.beginStop .sendClosed

/-- `asyncio.wait` returns.  With the worker done, the receive task is cancelled and awaited: its
exception is raised, its message is dropped. -/
def wake (env : ServerEnv) (c : Conn) : Option Conn :=
  let c' := { c with receive := .absent }
  match c.stream.map StreamRuntime.worker with
  | some .returned =>
    match c.receive with
    | .done (.error e) => some (c'.raise e)
    | _ => some { c' with pc := .autoFinalJoining }
  | some (.raised workerError) =>
    match c.receive with
    | .done (.error e) => some (c'.raise e)
    | _ => some (c'.raise workerError)
  | _ =>
    match c.receive with
    | .done (.ok e) => some ({ c' with handled := c'.handled ++ [e] }.handle env e)
    | .done (.error e) => some (c'.raise e)
    | _ => none

/-! ## The awaits of the handler -/

/-- `start_stream` ended: the tasks are created and the ready event is written. -/
def startedDecoder (c : Conn) (r : StreamRuntime) : Except Exn Bool → Conn
  | .error e => c.raise e
  | .ok decoder =>
    let r := r.startTasks decoder
    { c with
      services := { c.services with loaded := c.services.loaded || decoder }
      stream := some r
      pc := .sendingReady
      sent := c.sent ++ [.ready (localSttReadyEvent r.session)] }

/-- A write of the handler ended. -/
def handlerSent (c : Conn) (result : Except Exn Unit) : Option Conn :=
  match c.pc, result with
  | .sendingReady, .ok _ => some c.listen
  | .sendingPong, .ok _ => some c.listen
  | .sendingClosed, .ok _ => some { c with pc := .finished }
  | .sendingReady, .error e => some (c.raise e)
  | .sendingPong, .error e => some (c.raise e)
  | .sendingClosed, .error e => some (c.raise e)
  | .sendingError, _ => some { c with pc := .finished }
  | _, _ => none

/-- `_close_streaming_decoder_async` up to its first await. -/
def closeDecoder (c : Conn) (r : StreamRuntime) (k : AfterStop) : Conn :=
  if r.streamingDecoder = false then { c with pc := .stoppingSender k }
  else if r.cancelRequested = true then
    { c with stream := some (r.dropDecoder .cancel), pc := .cancellingDecoder k }
  else { c with stream := some (r.dropDecoder .close), pc := .closingDecoder k none }

/-- The handler's wait for a task or for the queue ends. -/
def proceed (c : Conn) (r : StreamRuntime) : Option Conn :=
  match c.pc with
  | .finalizeAwaitingWorker =>
    match r.worker with
    | .returned => some { c with pc := .finalizeJoining }
    | .raised e => some (c.raise e)
    | _ => none
  | .finalizeJoining =>
    if r.unfinishedEvents = 0 then some { c with pc := .finalizeAwaitingSender } else none
  | .finalizeAwaitingSender =>
    match r.sender with
    | .raised e => some (c.raise e)
    | .returned => some { c with stream := none }.listen
    | .cancelled => some { c with stream := none }.listen
    | _ => none
  | .autoFinalJoining =>
    if r.unfinishedEvents = 0 then some (c.beginStop .continueLoop) else none
  | .cancelJoining =>
    if r.unfinishedEvents = 0 then some (c.beginStop .continueLoop) else none
  | .stoppingWorker k =>
    match r.worker with
    | .returned => some (c.closeDecoder r k)
    | .raised _ => some (c.closeDecoder r k)
    | .absent => some (c.closeDecoder r k)
    | _ => none
  | .stoppingSender k =>
    match r.sender with
    | .idle => none
    | .sending _ => none
    | _ => some (c.afterStop k)
  | _ => none

/-- `decoder.cancel` ended; `decoder.close` follows in any case. -/
def handlerDecoderCanceled (c : Conn) (r : StreamRuntime) (result : Except Exn Unit) :
    Option Conn :=
  match c.pc with
  | .cancellingDecoder k =>
    let pending := match result with
      | .ok _ => none
      | .error e => some e
    some { c with stream := some r.callClose, pc := .closingDecoder k pending }
  | _ => none

/-- `decoder.close` ended; its own exception replaces the one of `decoder.cancel`. -/
def handlerDecoderClosed (c : Conn) (result : Except Exn Unit) : Option Conn :=
  match c.pc, result with
  | .closingDecoder k none, .ok _ => some { c with pc := .stoppingSender k }
  | .closingDecoder k (some e), .ok _ => some (c.raiseInStop k e)
  | .closingDecoder k _, .error e => some (c.raiseInStop k e)
  | _, _ => none

/-- The handler has called `send_task.cancel()` and awaits the task. -/
def cancelsSender : HandlerPc → Bool
  | .finalizeAwaitingSender => true
  | .stoppingSender _ => true
  | _ => false

/-! ## The tasks -/

/-- A completed transcription clears the preload error, and a completed decoder call shows that the
model is loaded. -/
def afterDecode (s : Services) : StreamAct → Services
  | .transcribed (.ok _) => { preloadError := none, loaded := true }
  | .pushed (.ok _) => { s with loaded := true }
  | .decoderFinalized (.ok _) => { s with loaded := true }
  | _ => s

/-- One step of a connection. -/
def step (env : ServerEnv) (c : Conn) : Act → Option Conn
  | .receive result =>
    match c.receive with
    | .pending =>
      some { c with
        receive := .done result
        taken := c.taken ++ (ReceiveTask.done result).held }
    | _ => none
  | .wake =>
    match c.pc with
    | .waiting => c.wake env
    | _ => none
  | .startedDecoder result =>
    match c.pc, c.stream with
    | .startingDecoder, some r => some (c.startedDecoder r result)
    | _, _ => none
  | .handlerSent result => c.handlerSent result
  | .proceed => c.stream.bind c.proceed
  | .handlerDecoderCanceled result => c.stream.bind fun r => c.handlerDecoderCanceled r result
  | .handlerDecoderClosed result => c.handlerDecoderClosed result
  | .senderCancel =>
    if cancelsSender c.pc = true then
      c.stream.bind fun r => r.senderCancel.map fun r' => { c with stream := some r' }
    else none
  | .task a =>
    c.stream.bind fun r => (r.step env a).map fun r' =>
      { c with
        stream := some r'
        services := afterDecode c.services a
        sent := c.sent ++ r.writes a }
  | .modelLoaded => some { c with services := { c.services with loaded := true } }

end Conn

/-- A v1 connection as a step system. -/
def connection (env : ServerEnv) : StepSystem Conn Act := ⟨Conn.step env⟩

/-! ## Runs by name -/

/-- A server with the default buffer limit and a case folding for ASCII texts. -/
def defaultEnv : ServerEnv := { casefold := asciiLower, streamMaxBufferBytes := 1048576 }

/-- The hot-path audio format. -/
def hotPathAudio : AudioFormat :=
  { sampleRate := HOT_PATH_SAMPLE_RATE
    channels := HOT_PATH_CHANNELS
    format := HOT_PATH_PCM_FORMAT }

/-- The configuration of a start message without options. -/
def plainStart : LocalSttStartConfig := { start := { audio := hotPathAudio } }

/-- A start message with auto-finalization after one stable result. -/
def autoFinalStart : LocalSttStartConfig :=
  { plainStart with finalizeOnStablePartial := true, stablePartialCycles := 1 }

/-- The steps from a start message to the end of the ready write. -/
def openStream (config : LocalSttStartConfig) (decoder : Bool) : List Act :=
  [.receive (.ok (.start config)), .wake, .startedDecoder (.ok decoder), .handlerSent (.ok ())]

/-- The steps of a message the handler takes. -/
def deliver (e : ClientEvent) : List Act := [.receive (.ok e), .wake]

end RtcAsr
