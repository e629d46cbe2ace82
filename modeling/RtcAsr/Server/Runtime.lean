import RtcAsr.Server.Session

/-!
# The runtime of one stream

`StreamRuntime` of `src/main.py` with the two tasks that are started with it: the ASR worker
(`_local_stt_asr_worker`) and the sender (`_send_queued_events`, and its raw-UDS twin).  A task is
a program counter that names the `await` it is suspended at; everything between two awaits is one
step.  What a decoder or a write returns comes with the step (`StreamAct`).

The lock of the streaming decoder has no field: the worker holds it from the first to the last
decoder call of a step sequence, and the handler takes it only when the worker has ended.
-/

namespace RtcAsr

/-- What a v1 connection takes from its surroundings. -/
structure ServerEnv where
  /-- `str.casefold`. -/
  casefold : String → String
  /-- `config.stream_max_buffer_bytes`. -/
  streamMaxBufferBytes : ℕ

/-- A call of the streaming decoder. -/
inductive DecoderCall
  | pushAudio (audio : Bytes)
  | finalize
  | cancel
  | close
  deriving DecidableEq, Repr

/-- What a partial decode was started with. -/
structure Snapshot where
  chunksReceived : ℕ
  audioReceivedMs : ℕ
  /-- The bytes handed to the decoder. -/
  audio : Bytes
  deriving DecidableEq, Repr

/-- Where the ASR worker stands. -/
inductive WorkerPc
  /-- The task was not created yet. -/
  | absent
  /-- `await runtime.audio_updated.wait()`. -/
  | waiting
  | transcribingPartial (snap : Snapshot)
  | pushingPartial (snap : Snapshot)
  | transcribingFinal (finalAudio : Bytes)
  | pushingFinal (finalAudio remaining : Bytes)
  | finalizingDecoder (finalAudio : Bytes)
  | closingDecoder (finalAudio : Bytes) (result : Transcript)
  | returned
  | raised (error : Exn)

/-- The worker task is done. -/
def WorkerPc.done : WorkerPc → Bool
  | .returned => true
  | .raised _ => true
  | _ => false

/-- Where the sender stands. -/
inductive SenderPc
  /-- The task was not created yet. -/
  | absent
  /-- `await asyncio.wait_for(runtime.outgoing_events.get(), timeout=0.1)`. -/
  | idle
  | sending (event : Event)
  | returned
  | cancelled
  | raised (error : Exn)

/-- The sender task is done. -/
def SenderPc.done : SenderPc → Bool
  | .returned => true
  | .cancelled => true
  | .raised _ => true
  | _ => false

/-- `StreamRuntime`, its tasks, and what they have done so far. -/
structure StreamRuntime where
  session : StreamSession
  audioUpdated : Bool := false
  finalizeRequested : Bool := false
  cancelRequested : Bool := false
  outgoingEvents : List Event := []
  /-- The unfinished count of the queue, which `join` waits for. -/
  unfinishedEvents : ℕ := 0
  partialDecodeStarted : Bool := false
  dirty : Bool := false
  closed : Bool := false
  finalEmitted : Bool := false
  sendQueueHighWater : ℕ := 0
  /-- `streaming_decoder is not None`. -/
  streamingDecoder : Bool := false
  streamingDecodeOffset : ℕ := 0
  worker : WorkerPc := .absent
  sender : SenderPc := .absent
  /-- The chunks appended to the buffer. -/
  accepted : List Bytes := []
  /-- The byte strings of the completed `push_audio` calls. -/
  pushedAudio : List Bytes := []
  /-- The decoder calls begun. -/
  decoderCalls : List DecoderCall := []
  /-- What `_resolve_final_result_async` or `_finalize_streaming_decoder_async` returned. -/
  finalResult : Option Transcript := none

namespace StreamRuntime

/-! ## Methods of the runtime -/

/-- `StreamRuntime.note_audio`. -/
def noteAudio (r : StreamRuntime) : StreamRuntime := { r with dirty := true, audioUpdated := true }

/-- `StreamRuntime.request_finalize`. -/
def requestFinalize (r : StreamRuntime) : StreamRuntime :=
  { r with finalizeRequested := true, audioUpdated := true }

/-- `StreamRuntime.request_cancel`. -/
def requestCancel (r : StreamRuntime) : StreamRuntime :=
  { r with
    cancelRequested := true
    session := { r.session with
      audioBuffer := []
      lastPartialResult := none
      stablePartialText := none
      stablePartialCount := 0 }
    audioUpdated := true }

/-- `StreamRuntime.close`. -/
def close (r : StreamRuntime) : StreamRuntime := { r with closed := true, audioUpdated := true }

/-- `metadata.setdefault` of the two queue entries. -/
def withQueueMetadata (depth highWater : ℕ) : Event → Event
  | .transcript e => .transcript { e with sendQueue := some (depth, highWater) }
  | .canceled e => .canceled { e with sendQueue := some (depth, highWater) }
  | .pong e =>
    let metadata := e.metadata.setdefault "send_queue_depth" (.int depth)
    .pong { e with metadata := metadata.setdefault "send_queue_high_water" (.int highWater) }
  | e => e

/-- `StreamRuntime.enqueue_event`. -/
def enqueueEvent (r : StreamRuntime) (event : Event) : StreamRuntime :=
  let depth := r.outgoingEvents.length + 1
  let highWater := max r.sendQueueHighWater depth
  { r with
    sendQueueHighWater := highWater
    outgoingEvents := r.outgoingEvents ++ [withQueueMetadata depth highWater event]
    unfinishedEvents := r.unfinishedEvents + 1 }

/-- An accepted chunk: the append, and `note_audio`. -/
def appendAudio (r : StreamRuntime) (session : StreamSession) (chunk : Bytes) : StreamRuntime :=
  noteAudio { r with session := session, accepted := r.accepted ++ [chunk] }

/-! ## The streaming decoder and the tasks -/

/-- The stream is started: its decoder is stored, and its tasks are created. -/
def startTasks (r : StreamRuntime) (decoder : Bool) : StreamRuntime :=
  let session :=
    if decoder = true then { r.session with decoderMode := .stateful } else r.session
  { r with session := session, streamingDecoder := decoder, worker := .waiting, sender := .idle }

/-- The decoder is taken out of the runtime to be ended by a call. -/
def dropDecoder (r : StreamRuntime) (call : DecoderCall) : StreamRuntime :=
  { r with streamingDecoder := false, decoderCalls := r.decoderCalls ++ [call] }

/-- A call of `decoder.close` after `decoder.cancel`. -/
def callClose (r : StreamRuntime) : StreamRuntime :=
  { r with decoderCalls := r.decoderCalls ++ [.close] }

/-! ## The ASR worker -/

/-- Back to the top of the loop, the event set again when audio arrived meanwhile. -/
def waitAgain (r : StreamRuntime) : StreamRuntime :=
  { r with audioUpdated := r.audioUpdated || r.dirty, worker := .waiting }

/-- The worker after the event of a transcript was enqueued: a final one ends it. -/
def afterEmit (r : StreamRuntime) (isFinal : Bool) : StreamRuntime :=
  if isFinal = true then { r with finalEmitted := true, closed := true, worker := .returned }
  else r.waitAgain

/-- The event of a transcript is built and enqueued. -/
def emitTranscript (r : StreamRuntime) (result : Transcript) (isFinal : Bool)
    (transcribedAudioBytes : ℕ) : StreamRuntime :=
  match localSttTranscriptEvent r.session result isFinal transcribedAudioBytes with
  | (session, .error e) => { r with session := session, worker := .raised (.builtin e) }
  | (session, .ok event) =>
    (enqueueEvent { r with session := session } (.transcript event)).afterEmit isFinal

/-- The end of a final decode: nothing after a cancel or a close, else the final transcript. -/
def finishFinal (r : StreamRuntime) (finalAudio : Bytes) (result : Transcript) : StreamRuntime :=
  let r : StreamRuntime := { r with finalResult := some result }
  if r.cancelRequested = true ∨ r.closed = true then { r with worker := .returned }
  else r.emitTranscript result true finalAudio.length

/-- The call of `decoder.finalize`. -/
def callFinalize (r : StreamRuntime) (finalAudio : Bytes) : StreamRuntime :=
  { r with
    worker := .finalizingDecoder finalAudio
    decoderCalls := r.decoderCalls ++ [.finalize] }

/-- The finalize branch of the worker up to its first await. -/
def startFinal (r : StreamRuntime) : StreamRuntime :=
  let finalAudio := r.session.audioBuffer
  if r.streamingDecoder = true then
    let remaining := r.session.audioBuffer.drop r.streamingDecodeOffset
    if remaining = [] then r.callFinalize finalAudio
    else
      { r with
        worker := .pushingFinal finalAudio remaining
        decoderCalls := r.decoderCalls ++ [.pushAudio remaining] }
  else
    match r.session.reusableLastPartial with
    | some result => r.finishFinal finalAudio result
    | none => { r with worker := .transcribingFinal finalAudio }

/-- The part of the worker after a partial decode. -/
def afterPartial (env : ServerEnv) (r : StreamRuntime) (snap : Snapshot)
    (partialResult : Option Transcript) : StreamRuntime :=
  let r : StreamRuntime := { r with partialDecodeStarted := false }
  if r.cancelRequested = true ∨ r.finalEmitted = true ∨ r.closed = true then
    { r with worker := .returned }
  else
    match partialResult with
    | none =>
      let session := { r.session with
        lastPartialChunksReceived := snap.chunksReceived
        lastPartialAudioReceivedMs := snap.audioReceivedMs }
      waitAgain { r with session := session }
    | some result =>
      if r.finalizeRequested = true then
        let session :=
          if snap.chunksReceived = r.session.chunksReceived ∧
              r.session.partialCoversFullBuffer = true then
            r.session.recordPartial result snap.chunksReceived snap.audioReceivedMs
          else r.session
        { r with session := session, audioUpdated := true, worker := .waiting }
      else
        let session :=
          (r.session.recordPartial result snap.chunksReceived
            snap.audioReceivedMs).recordTranscriptStability env.casefold result
        let r := { r with session := session }
        if result.strippedText = "" then r.waitAgain
        else r.emitTranscript result session.shouldFinalizeStablePartial snap.audio.length

/-- The partial branch of the worker up to its first await; a push of nothing returns `None` at
once. -/
def startPartial (env : ServerEnv) (r : StreamRuntime) : StreamRuntime :=
  let audio :=
    if r.streamingDecoder = true then r.session.audioBuffer.drop r.streamingDecodeOffset
    else r.session.partialAudioBytes
  let snap : Snapshot := ⟨r.session.chunksReceived, r.session.audioReceivedMs, audio⟩
  let r : StreamRuntime := { r with dirty := false, partialDecodeStarted := true }
  if r.streamingDecoder = true then
    if audio = [] then r.afterPartial env snap none
    else
      { r with
        worker := .pushingPartial snap
        decoderCalls := r.decoderCalls ++ [.pushAudio audio] }
  else { r with worker := .transcribingPartial snap }

/-- The worker wakes up at the top of its loop. -/
def workerWake (env : ServerEnv) (r : StreamRuntime) : StreamRuntime :=
  let r : StreamRuntime := { r with audioUpdated := false }
  if r.cancelRequested = true then { r with worker := .returned }
  else if r.finalEmitted = true ∨ r.closed = true then { r with worker := .returned }
  else if r.finalizeRequested = true then r.startFinal
  else if r.partialDecodeStarted = true ∨ r.session.interimResults = false ∨
      r.session.shouldEmitPartial = false then
    { r with dirty := false, worker := .waiting }
  else r.startPartial env

/-- The worker ends with an exception of a decode. -/
def workerRaise (r : StreamRuntime) (e : Exn) : StreamRuntime :=
  { r with partialDecodeStarted := false, worker := .raised e }

/-- A completed `push_audio`: the offset moves past what was pushed. -/
def advance (r : StreamRuntime) (audio : Bytes) : StreamRuntime :=
  { r with
    streamingDecodeOffset := r.streamingDecodeOffset + audio.length
    pushedAudio := r.pushedAudio ++ [audio] }

/-- `transcribe` ends. -/
def transcribed (env : ServerEnv) (r : StreamRuntime) (result : Except Exn Transcript) :
    Option StreamRuntime :=
  match r.worker, result with
  | .transcribingPartial snap, .ok t => some (r.afterPartial env snap (some t))
  | .transcribingFinal audio, .ok t => some (r.finishFinal audio t)
  | .transcribingPartial _, .error e => some (r.workerRaise e)
  | .transcribingFinal _, .error e => some (r.workerRaise e)
  | _, _ => none

/-- `decoder.push_audio` ends. -/
def pushed (env : ServerEnv) (r : StreamRuntime) (result : Except Exn (Option Transcript)) :
    Option StreamRuntime :=
  match r.worker, result with
  | .pushingPartial snap, .ok t => some ((r.advance snap.audio).afterPartial env snap t)
  | .pushingFinal audio remaining, .ok _ => some ((r.advance remaining).callFinalize audio)
  | .pushingPartial _, .error e => some (r.workerRaise e)
  | .pushingFinal _ _, .error e => some (r.workerRaise e)
  | _, _ => none

/-- `decoder.finalize` ends. -/
def decoderFinalized (r : StreamRuntime) (result : Except Exn Transcript) : Option StreamRuntime :=
  match r.worker, result with
  | .finalizingDecoder audio, .ok t =>
    some { r.dropDecoder .close with worker := .closingDecoder audio t }
  | .finalizingDecoder _, .error e => some (r.workerRaise e)
  | _, _ => none

/-- `decoder.close` ends in the worker. -/
def decoderClosed (r : StreamRuntime) (result : Except Exn Unit) : Option StreamRuntime :=
  match r.worker, result with
  | .closingDecoder audio t, .ok _ => some (r.finishFinal audio t)
  | .closingDecoder _ _, .error e => some (r.workerRaise e)
  | _, _ => none

/-! ## The sender -/

/-- The sender takes the next event and starts to write it. -/
def senderTake (r : StreamRuntime) : Option StreamRuntime :=
  match r.sender, r.outgoingEvents with
  | .idle, e :: es => some { r with sender := .sending e, outgoingEvents := es }
  | _, _ => none

/-- A write of the sender ends; `task_done` counts it also when it failed. -/
def senderSent (r : StreamRuntime) (result : Except Exn Unit) : Option StreamRuntime :=
  let unfinished := r.unfinishedEvents - 1
  match r.sender, result with
  | .sending _, .ok _ =>
    let sender := if r.closed = true ∧ r.outgoingEvents = [] then .returned else .idle
    some { r with sender := sender, unfinishedEvents := unfinished }
  | .sending _, .error e => some { r with sender := .raised e, unfinishedEvents := unfinished }
  | _, _ => none

/-- `get` times out; the sender leaves its loop when the runtime is closed and the queue empty. -/
def senderExit (r : StreamRuntime) : Option StreamRuntime :=
  match r.sender, r.outgoingEvents with
  | .idle, [] => if r.closed = true then some { r with sender := .returned } else none
  | _, _ => none

/-- The cancellation of the sender takes effect. -/
def senderCancel (r : StreamRuntime) : Option StreamRuntime :=
  match r.sender with
  | .idle => some { r with sender := .cancelled }
  | .sending _ => some { r with sender := .cancelled, unfinishedEvents := r.unfinishedEvents - 1 }
  | _ => none

end StreamRuntime

/-- The steps of the two tasks of a stream. -/
inductive StreamAct
  | workerWake
  | transcribed (result : Except Exn Transcript)
  | pushed (result : Except Exn (Option Transcript))
  | decoderFinalized (result : Except Exn Transcript)
  | decoderClosed (result : Except Exn Unit)
  | senderTake
  | senderSent (result : Except Exn Unit)
  | senderExit

/-- One step of a task. -/
def StreamRuntime.step (env : ServerEnv) (r : StreamRuntime) : StreamAct → Option StreamRuntime
  | .workerWake =>
    match r.worker with
    | .waiting => if r.audioUpdated = true then some (r.workerWake env) else none
    | _ => none
  | .transcribed result => r.transcribed env result
  | .pushed result => r.pushed env result
  | .decoderFinalized result => r.decoderFinalized result
  | .decoderClosed result => r.decoderClosed result
  | .senderTake => r.senderTake
  | .senderSent result => r.senderSent result
  | .senderExit => r.senderExit

/-- The event whose write a step starts. -/
def StreamRuntime.writes (r : StreamRuntime) : StreamAct → List Event
  | .senderTake => r.outgoingEvents.take 1
  | _ => []

end RtcAsr
