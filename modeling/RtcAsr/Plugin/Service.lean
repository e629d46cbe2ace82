import RtcAsr.Plugin.ServerEvent

/-!
# The state of the streaming service

The fields of `LocalStreamingSTTService` and its methods that do not await.  Connections, tasks and
`asyncio.Event`s are numbered.  Durations are exact rationals, and the metrics are left out, but for
the count of dropped frames.

`history` is not in the source: it records, the newest first, what the application and the server
can observe.  Bytes in the aggregate buffer carry the generation in which they were accepted, and a
chunk the number it got when it was put into the queue.
-/

namespace RtcAsr.Plugin

/-- A task of the event loop. -/
abbrev TaskId := ℕ

/-- `_AudioChunk`: a byte comes with the generation in which it was accepted, a queued chunk with
its place in the order of enqueueing. -/
structure AudioChunk where
  data : List (UInt8 × ℕ)
  durationMs : ℚ
  generation : ℕ
  number : ℕ := 0

/-- The bytes of a chunk. -/
def AudioChunk.bytes (chunk : AudioChunk) : Bytes := chunk.data.map Prod.fst

/-- What is written to a connection.  A start message is `buildStartMessage` with the generation in
its metadata. -/
inductive Payload
  | start (generation : ℕ)
  | finalize
  | cancel
  | close
  | pong (reply : Dict)
  | audio (chunk : AudioChunk)

/-- Why the event of a finalize waiter is set. -/
inductive Release
  /-- A final transcript of this generation, or one without a generation. -/
  | final (generation : Generation)
  /-- An error or a closed event of the server. -/
  | server
  | cancel
  | disconnect
  deriving DecidableEq, Repr

/-- What can be observed of the service. -/
inductive Happening
  /-- A payload was handed to the connection. -/
  | sent (connection : ℕ) (payload : Payload)
  /-- The connection delivered a message. -/
  | received (connection : ℕ) (message : Json)
  /-- A `VADUserStartedSpeakingFrame` is processed. -/
  | vadStarted
  /-- An utterance ended with its finalize message. -/
  | finalized
  /-- `cancel_current_utterance` was called. -/
  | canceled
  /-- A final transcript ended the utterance. -/
  | finalTranscript
  /-- A disconnect was completed. -/
  | disconnected
  /-- A transcription frame is pushed, `current` being the generation of the service. -/
  | pushed (event : TranscriptEvent) (generation : Generation) (current : ℕ)
  /-- The event of the finalize waiters of a generation is set. -/
  | released (generation event : ℕ) (release : Release)
  /-- Audio of a frame arrives, while an utterance is active or not. -/
  | heard (audio : Bytes) (active : Bool)
  /-- The pre-roll buffer is emptied into the utterance. -/
  | preRollFlushed
  /-- The aggregate buffer becomes a chunk. -/
  | aggregated (chunk : AudioChunk)
  /-- A chunk is counted in `local_stt_audio_frames_dropped_total`. -/
  | dropped (chunk : AudioChunk)

/-- `LocalStreamingSTTService`. -/
structure Service where
  websocket : Option ℕ := none
  /-- The number of connections made. -/
  connections : ℕ := 0
  /-- The connections that take nothing any more. -/
  broken : List ℕ := []
  sendQueue : List AudioChunk := []
  /-- The chunks put into the queue for which `task_done` was not called. -/
  unfinished : ℕ := 0
  /-- How often `unfinished` came back to zero, which wakes the tasks in `join`. -/
  drained : ℕ := 0
  queuedAudioMs : ℚ := 0
  preRollBuffer : Bytes := []
  aggregateBuffer : List (UInt8 × ℕ) := []
  aggregateDurationMs : ℚ := 0
  /-- The task that holds `_connect_lock`. -/
  connectLock : Option TaskId := none
  /-- The task that holds `_start_lock`. -/
  startLock : Option TaskId := none
  readyEvent : Option ℕ := none
  /-- The number of ready events made. -/
  readyEvents : ℕ := 0
  /-- The ready events that are set. -/
  readySet : List ℕ := []
  sendTask : Option TaskId := none
  receiveTask : Option TaskId := none
  closed : Bool := false
  utteranceActive : Bool := false
  generation : ℕ := 0
  suppressTranscripts : Bool := false
  /-- The events of `_final_events`, by generation. -/
  finalEvents : List (ℕ × ℕ) := []
  /-- The number of final events made. -/
  finalEventCount : ℕ := 0
  /-- The final events that are set. -/
  finalSet : List ℕ := []
  /-- `local_stt_audio_frames_dropped_total`. -/
  audioFramesDropped : ℕ := 0
  /-- The number of chunks put into the queue. -/
  enqueued : ℕ := 0
  history : List Happening := []

variable (config : LocalSTTConfig)

/-- `bytes_per_second`. -/
def LocalSTTConfig.bytesPerSecond : ℤ := config.sampleRate * config.channels * 2

/-- `aggregation_bytes`. -/
def LocalSTTConfig.aggregationBytes : ℕ :=
  (max 1 (config.sampleRate * config.channels * 2 * config.aggregationMs / 1000)).toNat

/-- `pre_roll_bytes`. -/
def LocalSTTConfig.preRollBytes : ℕ :=
  (max 0 (config.sampleRate * config.channels * 2 * config.preRollMs / 1000)).toNat

/-- `_audio_duration_ms`. -/
def audioDurationMs (length : ℕ) : ℚ := (length : ℚ) / config.bytesPerSecond * 1000

namespace Service

variable (s : Service)

/-- Something is observed. -/
def record (h : Happening) : Service := { s with history := h :: s.history }

/-! ## Connections -/

/-- The end of `_ensure_connection`: the connection and its two loops, which are the next two new
tasks. -/
def connected (next : TaskId) : Service :=
  { s with
    websocket := some s.connections
    connections := s.connections + 1
    readyEvent := some s.readyEvents
    readyEvents := s.readyEvents + 1
    sendTask := some next
    receiveTask := some (next + 1) }

/-- `_ready_event` before a start message: a new event, or the present one cleared. -/
def prepareStart : Service :=
  match s.readyEvent with
  | none =>
    { s with
      readyEvent := some s.readyEvents
      readyEvents := s.readyEvents + 1
      suppressTranscripts := false }
  | some event =>
    { s with readySet := s.readySet.filter (· != event), suppressTranscripts := false }

/-- The tasks that `_close_socket_and_tasks` stops when `me` calls it. -/
def linkTasks (me : TaskId) : List TaskId :=
  (s.sendTask.toList ++ s.receiveTask.toList).filter (· != me)

/-- `_reconnect` after closing. -/
def dropConnection : Service := { s with websocket := none, utteranceActive := false }

/-- `websocket.send(payload)` up to its first suspension: an unbroken connection takes the payload
in. -/
def hand (connection : ℕ) (payload : Payload) : Service :=
  if s.broken.contains connection then s else s.record (.sent connection payload)

/-! ## The send queue -/

/-- `queue.task_done()`. -/
def taskDone : Service :=
  { s with
    unfinished := s.unfinished - 1
    drained := if s.unfinished = 1 then s.drained + 1 else s.drained }

/-- `_put_chunk`. -/
def putChunk (chunk : AudioChunk) : Service :=
  { s with
    sendQueue := s.sendQueue ++ [{ chunk with number := s.enqueued }]
    unfinished := s.unfinished + 1
    enqueued := s.enqueued + 1
    queuedAudioMs := s.queuedAudioMs + chunk.durationMs }

/-- The part of `_send_loop` after `get` up to the check of the generation, for the first chunk. -/
def takeChunk (chunk : AudioChunk) (rest : List AudioChunk) : Service :=
  { s with sendQueue := rest, queuedAudioMs := max 0 (s.queuedAudioMs - chunk.durationMs) }

/-- Counting a dropped chunk. -/
def countDropped (chunk : AudioChunk) : Service :=
  { s with
    audioFramesDropped := s.audioFramesDropped + 1
    history := .dropped chunk :: s.history }

/-- Removing the first chunk of the queue unsent. -/
def dropFirst (chunk : AudioChunk) (rest : List AudioChunk) : Service :=
  ((s.takeChunk chunk rest).taskDone).countDropped chunk

/-- The loops of `_clear_send_queue` and of `drop_oldest`, which drop chunks from the front while
`p` holds. -/
def dropWhile (p : Service → Bool) : ℕ → Service → Service
  | 0, s => s
  | fuel + 1, s =>
    match s.sendQueue with
    | [] => s
    | chunk :: rest => if p s then dropWhile p fuel (s.dropFirst chunk rest) else s

/-- Dropping chunks leaves alone what dropping one chunk leaves alone. -/
lemma dropWhile_view {β : Type} {view : Service → β}
    (hview : ∀ s chunk rest, view (dropFirst s chunk rest) = view s) (p : Service → Bool) (n : ℕ)
    (s : Service) : view (dropWhile p n s) = view s := by
  induction n generalizing s with
  | zero => rfl
  | succ n ih =>
    unfold dropWhile
    split
    · rfl
    · split
      · rw [ih, hview]
      · rfl

/-- Dropping chunks keeps what dropping one chunk keeps. -/
lemma dropWhile_keeps {P : Service → Prop}
    (hP : ∀ s chunk rest, s.sendQueue = chunk :: rest → P s → P (dropFirst s chunk rest))
    (p : Service → Bool) (n : ℕ) {s : Service} (hs : P s) : P (dropWhile p n s) := by
  induction n generalizing s with
  | zero => exact hs
  | succ n ih =>
    unfold dropWhile
    split
    · exact hs
    · rename_i chunk rest hqueue
      split
      · exact ih (hP s chunk rest hqueue hs)
      · exact hs

/-- `_clear_send_queue`. -/
def clearSendQueue : Service := dropWhile (fun _ => true) s.sendQueue.length s

/-- `self._queued_audio_ms + chunk.duration_ms > self.config.max_send_queue_ms`. -/
def exceeds (chunk : AudioChunk) : Bool :=
  decide ((config.maxSendQueueMs : ℚ) < s.queuedAudioMs + chunk.durationMs)

/-- The loop of the `drop_oldest` part of `_enqueue_chunk`. -/
def makeRoom (chunk : AudioChunk) : Service :=
  dropWhile (fun s => s.exceeds config chunk) s.sendQueue.length s

/-- The `drop_oldest` part of `_enqueue_chunk`. -/
def enqueueDroppingOldest (chunk : AudioChunk) : Service :=
  if (s.makeRoom config chunk).exceeds config chunk then
    (s.makeRoom config chunk).countDropped chunk
  else (s.makeRoom config chunk).putChunk chunk

/-! ## Buffers -/

/-- `_append_pre_roll`. -/
def appendPreRoll (audio : Bytes) : Service :=
  if config.preRollBytes = 0 then s
  else
    let buffer := s.preRollBuffer ++ audio
    { s with preRollBuffer := buffer.drop (buffer.length - config.preRollBytes) }

/-- The chunk of the aggregate buffer. -/
def aggregateChunk : AudioChunk :=
  { data := s.aggregateBuffer
    durationMs := s.aggregateDurationMs
    generation := s.generation }

/-- `_flush_aggregate_buffer` up to `_enqueue_chunk`: the chunk it passes on. -/
def flushAggregateBuffer : Service × Option AudioChunk :=
  if s.aggregateBuffer.isEmpty then (s, none)
  else
    ({ s with
        aggregateBuffer := []
        aggregateDurationMs := 0
        history := .aggregated s.aggregateChunk :: s.history },
      some s.aggregateChunk)

/-- The aggregate buffer takes audio in. -/
def extendAggregateBuffer (audio : Bytes) : Service :=
  { s with
    aggregateBuffer := s.aggregateBuffer ++ audio.map fun b => (b, s.generation)
    aggregateDurationMs := s.aggregateDurationMs + audioDurationMs config audio.length }

/-- `_queue_audio_for_send` up to `_enqueue_chunk`: the chunk it passes on. -/
def queueAudioForSend (audio : Bytes) : Service × Option AudioChunk :=
  if config.aggregationBytes ≤ (s.extendAggregateBuffer config audio).aggregateBuffer.length then
    (s.extendAggregateBuffer config audio).flushAggregateBuffer
  else (s.extendAggregateBuffer config audio, none)

/-- The pre-roll buffer is emptied. -/
def clearPreRoll : Service :=
  { s with preRollBuffer := [], history := .preRollFlushed :: s.history }

/-- The end of `_start_current_utterance`: the pre-roll becomes the beginning of the utterance. -/
def flushPreRoll : Service × Option AudioChunk :=
  if s.preRollBuffer.isEmpty then (s.clearPreRoll, none)
  else s.clearPreRoll.queueAudioForSend config s.preRollBuffer

/-! ## Final waiters -/

/-- The event of `_final_events.setdefault(generation, asyncio.Event())`. -/
def finalEvent (generation : ℕ) : ℕ := (s.finalEvents.lookup generation).getD s.finalEventCount

/-- `_final_events.setdefault(generation, asyncio.Event())`. -/
def setdefaultFinal (generation : ℕ) : Service :=
  match s.finalEvents.lookup generation with
  | some _ => s
  | none =>
    { s with
      finalEvents := s.finalEvents ++ [(generation, s.finalEventCount)]
      finalEventCount := s.finalEventCount + 1 }

/-- `_final_events.pop(generation, None)`. -/
def popFinal (generation : ℕ) : Service :=
  { s with finalEvents := s.finalEvents.filter (·.1 != generation) }

/-- Setting the event of a finalize waiter. -/
def setFinal (release : Release) (entry : ℕ × ℕ) : Service :=
  { s with
    finalSet := entry.2 :: s.finalSet
    history := .released entry.1 entry.2 release :: s.history }

/-- `_release_final_waiters`. -/
def releaseFinalWaiters (release : Release) : Service :=
  { s.finalEvents.foldl (fun s entry => s.setFinal release entry) s with finalEvents := [] }

/-- Releasing the waiters leaves alone what setting one event and forgetting the events leave
alone. -/
lemma releaseFinalWaiters_view {β : Type} {view : Service → β} {release : Release}
    (hset : ∀ s entry, view (setFinal s release entry) = view s)
    (hforget : ∀ s : Service, view { s with finalEvents := [] } = view s) :
    view (s.releaseFinalWaiters release) = view s := by
  have hfold : ∀ (entries : List (ℕ × ℕ)) (s : Service),
      view (entries.foldl (fun s entry => s.setFinal release entry) s) = view s := by
    intro entries
    induction entries with
    | nil => exact fun _ => rfl
    | cons entry entries ih => exact fun s => (ih _).trans (hset s entry)
  exact (hforget _).trans (hfold s.finalEvents s)

/-- `_record_final_transcript_received`: a final without a generation is for the only waiter. -/
def recordFinalTranscriptReceived (generation : Generation) : Service :=
  match generation with
  | .known n =>
    match s.finalEvents.find? fun entry => (entry.1 : ℤ) == n with
    | some entry => s.setFinal (.final generation) entry
    | none => s
  | _ =>
    match s.finalEvents with
    | [entry] => s.setFinal (.final generation) entry
    | _ => s

/-! ## Ending an utterance -/

/-- The utterance ended on both sides. -/
def endUtterance (h : Happening) : Service :=
  { s with utteranceActive := false, history := h :: s.history }

/-- The pre-roll and the aggregate buffer are cleared. -/
def clearBuffers : Service :=
  { s with preRollBuffer := [], aggregateBuffer := [], aggregateDurationMs := 0 }

/-- The utterance is given up, and its generation with it. -/
def discardUtterance : Service :=
  { s with
    generation := s.generation + 1
    suppressTranscripts := true
    utteranceActive := false
    history := .canceled :: s.history }

/-- `cancel_current_utterance` before it awaits. -/
def cancelUtterance : Service :=
  (s.discardUtterance.clearBuffers.clearSendQueue).releaseFinalWaiters .cancel

/-- The connection and its utterance are given up. -/
def forgetConnection : Service :=
  { s with websocket := none, utteranceActive := false, history := .disconnected :: s.history }

/-- `_disconnect` after closing. -/
def disconnect : Service :=
  (s.clearSendQueue.releaseFinalWaiters .disconnect).clearBuffers.forgetConnection

end Service

end RtcAsr.Plugin
