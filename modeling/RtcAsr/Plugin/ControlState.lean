import RtcAsr.Plugin.CallOrder

/-!
# The control state

What is left of a service without its audio: the queue, the buffers and their counts are blanked,
and the history keeps the messages and the turns of the user.  The audio path does not touch the
control state, and of the other methods only some frames do (`Frame.touches`,
`control_frameMove`).
-/

namespace RtcAsr.Plugin

/-- The happenings that are not about audio. -/
def Happening.isControl : Happening → Bool
  | .heard _ _ => false
  | .preRollFlushed => false
  | .aggregated _ => false
  | .dropped _ => false
  | _ => true

namespace Service

variable (config : LocalSTTConfig) (s : Service)

/-- The service without its audio. -/
def control : Service :=
  { s with
    sendQueue := []
    unfinished := 0
    drained := 0
    queuedAudioMs := 0
    preRollBuffer := []
    aggregateBuffer := []
    aggregateDurationMs := 0
    audioFramesDropped := 0
    enqueued := 0
    history := s.history.filter Happening.isControl }

/-- What happens to audio is left out. -/
lemma control_record {h : Happening} (hh : h.isControl = false) :
    (s.record h).control = s.control := by
  simp [record, control, hh]

/-- The queue is left out. -/
@[simp] lemma control_takeChunk (chunk : AudioChunk) (rest : List AudioChunk) :
    (s.takeChunk chunk rest).control = s.control := rfl

/-- So are its counts. -/
@[simp] lemma control_taskDone : s.taskDone.control = s.control := rfl

/-- A chunk that is enqueued is left out. -/
@[simp] lemma control_putChunk (chunk : AudioChunk) : (s.putChunk chunk).control = s.control := rfl

/-- So is a chunk that is dropped. -/
@[simp] lemma control_countDropped (chunk : AudioChunk) :
    (s.countDropped chunk).control = s.control := rfl

/-- So are all the chunks that are dropped one after the other. -/
@[simp] lemma control_dropWhile (p : Service → Bool) (n : ℕ) :
    (dropWhile p n s).control = s.control :=
  dropWhile_view (fun _ _ _ => rfl) p n s

/-- Clearing the queue leaves the control state alone. -/
@[simp] lemma control_clearSendQueue : s.clearSendQueue.control = s.control :=
  control_dropWhile s _ _

/-- So does the policy `drop_oldest`, whether it drops or enqueues. -/
@[simp] lemma control_enqueueDroppingOldest (chunk : AudioChunk) :
    (s.enqueueDroppingOldest config chunk).control = s.control := by
  unfold enqueueDroppingOldest makeRoom
  split <;> simp

/-- So does the pre-roll. -/
@[simp] lemma control_appendPreRoll (audio : Bytes) :
    (s.appendPreRoll config audio).control = s.control := by
  unfold appendPreRoll
  split <;> rfl

/-- So does the aggregate buffer when it becomes a chunk. -/
@[simp] lemma control_flushAggregateBuffer : s.flushAggregateBuffer.1.control = s.control := by
  unfold flushAggregateBuffer
  split <;> rfl

/-- So does audio of an utterance. -/
@[simp] lemma control_queueAudioForSend (audio : Bytes) :
    (s.queueAudioForSend config audio).1.control = s.control := by
  unfold queueAudioForSend
  split
  · rw [control_flushAggregateBuffer]
    rfl
  · rfl

/-- So does the pre-roll that becomes the beginning of an utterance. -/
@[simp] lemma control_flushPreRoll : (s.flushPreRoll config).1.control = s.control := by
  unfold flushPreRoll
  split
  · rfl
  · rw [control_queueAudioForSend]
    rfl

/-- So do the buffers when they are cleared. -/
@[simp] lemma control_clearBuffers : s.clearBuffers.control = s.control := rfl

end Service

/-! ## Quiet frames -/

/-- The frames whose moves touch the control state. -/
def Frame.touches : Frame → Bool
  | .ensureConnection .locking => true
  | .ensureConnection .connecting => true
  | .closeSocketAndTasks _ _ => true
  | .ensureUtteranceStarted .entry => false
  | .ensureUtteranceStarted _ => true
  | .sendWs _ _ _ .entry => true
  | .sendWs _ _ _ .reconnecting => true
  | .reconnect _ .closing => true
  | .disconnect .closing => true
  | .receiveLoop (.receiving _) => true
  | .handleServerPayload _ .entry => true
  | .handleServerPayload _ (.pushing _) => true
  | .startCurrentUtterance .entry => true
  | .finalizeCurrentUtterance (.joining _ _) => true
  | .finalizeCurrentUtterance (.sending _ _) => true
  | .finalizeCurrentUtterance (.waiting _ _) => true
  | .finalizeCurrentUtterance (.disconnecting _ _) => true
  | .cancelCurrentUtterance .entry => true
  | _ => false

/-- A method that ends by enqueueing a chunk leaves the control state as it was before. -/
lemma enqueueLast_control {s : Service} {flushed : Service × Option AudioChunk}
    {pc : AudioChunk → Frame} (h : flushed.1.control = s.control) :
    (enqueueLast flushed pc).shared.control = s.control := by
  obtain ⟨s', _ | chunk⟩ := flushed <;> exact h

variable (config : LocalSTTConfig) (me next : TaskId) (s : Service)

/-- The head of the send loop changes nothing. -/
lemma sendLoopHead_control : (sendLoopHead s).shared.control = s.control := by
  unfold sendLoopHead
  split <;> rfl

/-- The send loop takes chunks and is done with them. -/
lemma sendLoop_control (pc : SendLoopPc) (signal : ServiceSignal) :
    (sendLoop me s pc signal).shared.control = s.control := by
  cases pc with
  | entry =>
    cases signal with
    | value v => exact sendLoopHead_control s
    | failed e => rfl
  | getting =>
    cases signal with
    | value v =>
      simp only [sendLoop]
      split
      · rfl
      · split
        · rfl
        · rw [sendLoopHead_control]
          rfl
    | failed e => rfl
  | sending chunk =>
    rcases signal with v | (_ | e)
    · simp only [sendLoop]
      split
      · rw [sendLoopHead_control]
        rfl
      · rfl
    · rfl
    · rfl
  | disconnecting chunk => simp [sendLoop]

/-- The head of the receive loop changes nothing. -/
lemma receiveLoopHead_control : (receiveLoopHead s).shared.control = s.control := by
  unfold receiveLoopHead
  split <;> (try split) <;> rfl

/-- Nor does the error handler of the receive loop. -/
lemma receiveLoopError_control : (receiveLoopError config s).shared.control = s.control := by
  unfold receiveLoopError
  split <;> rfl

/-- A chunk is enqueued or dropped, under each of the policies. -/
lemma enqueueChunk_control (chunk : AudioChunk) (pc : EnqueuePc) (signal : ServiceSignal) :
    (enqueueChunk config s chunk pc signal).shared.control = s.control := by
  have hblock : (blockChunk config s chunk).shared.control = s.control := by
    unfold blockChunk
    split <;> rfl
  have hdrop := s.control_enqueueDroppingOldest config chunk
  cases pc with
  | entry =>
    simp only [enqueueChunk]
    split
    · exact hblock
    · split
      · rfl
      · exact hdrop
    · exact hdrop
  | sleeping =>
    cases signal with
    | value v => exact hblock
    | failed e => rfl

/-- The audio of a frame goes to the buffers. -/
lemma handleAudio_control (audio : Bytes) (pc : HandleAudioPc) (signal : ServiceSignal) :
    (handleAudio config s audio pc signal).shared.control = s.control := by
  have hrecord : (s.record (.heard audio s.utteranceActive)).control = s.control :=
    s.control_record rfl
  cases pc with
  | entry => simp only [handleAudio]; split <;> rfl
  | connecting =>
    cases signal with
    | value v =>
      simp only [handleAudio]
      split
      · exact enqueueLast_control (by simp [hrecord])
      · exact (Service.control_appendPreRoll ..).trans hrecord
    | failed e => rfl
  | enqueueing chunk => simp [handleAudio]

/-- **The quiet frames leave the control state alone.** -/
theorem control_frameMove {frame : Frame} (hquiet : frame.touches = false)
    (signal : ServiceSignal) :
    (frameMove config me next s frame signal).shared.control = s.control := by
  cases frame with
  | ensureConnection pc =>
    cases pc with
    | entry => simp only [frameMove, ensureConnection]; split <;> rfl
    | locking => cases hquiet
    | connecting => cases hquiet
  | closeSocketAndTasks cancelCurrent pc => cases hquiet
  | ensureUtteranceStarted pc =>
    cases pc with
    | entry => simp only [frameMove, ensureUtteranceStarted]; split <;> rfl
    | _ => cases hquiet
  | sendWs payload replay startAfter pc =>
    cases pc with
    | sending connection handed =>
      rcases signal with v | (_ | e) <;> simp only [frameMove, sendWs] <;> (try split) <;> rfl
    | resending connection handed => simp [frameMove, sendWs]
    | _ => cases hquiet
  | reconnect startUtterance pc =>
    cases pc with
    | closing => cases hquiet
    | _ => cases signal <;> simp only [frameMove, reconnect] <;> (try split) <;> rfl
  | disconnect pc =>
    cases pc with
    | entry => rfl
    | closing => cases hquiet
  | sendLoop pc => exact sendLoop_control me s pc signal
  | receiveLoop pc =>
    cases pc with
    | receiving connection => cases hquiet
    | entry =>
      cases signal with
      | value v => exact receiveLoopHead_control s
      | failed e => rfl
    | handling payload =>
      rcases signal with v | (_ | e)
      · exact receiveLoopHead_control s
      · rfl
      · exact receiveLoopError_control config s
    | reconnecting => simp [frameMove, receiveLoop]
    | disconnecting => simp [frameMove, receiveLoop]
  | handleServerPayload payload pc =>
    cases pc with
    | ponging reply => simp [frameMove, handleServerPayload]
    | _ => cases hquiet
  | sendControl payload pc => cases pc <;> cases signal <;> rfl
  | enqueueChunk chunk pc => exact enqueueChunk_control config s chunk pc signal
  | handleAudio audio pc => exact handleAudio_control config s audio pc signal
  | startCurrentUtterance pc =>
    cases pc with
    | entry => cases hquiet
    | starting =>
      cases signal with
      | value v => exact enqueueLast_control (s.control_flushPreRoll config)
      | failed e => rfl
    | enqueueing chunk => simp [frameMove, startCurrentUtterance]
  | finalizeCurrentUtterance pc =>
    cases pc with
    | entry =>
      have hflush : s.flushAggregateBuffer.1.control = s.control :=
        s.control_flushAggregateBuffer
      simp only [frameMove, finalizeCurrentUtterance]
      split
      · split
        case h_1 s' heq => rw [← hflush, heq]; rfl
        case h_2 s' chunk heq => rw [← hflush, heq]; rfl
      · rfl
    | enqueueing generation chunk => cases signal <;> rfl
    | joining generation drained => cases hquiet
    | sending generation event => cases hquiet
    | waiting generation event => cases hquiet
    | disconnecting generation event => cases hquiet
  | cancelCurrentUtterance pc =>
    cases pc with
    | entry => cases hquiet
    | sending connection =>
      cases signal with
      | value v => simp only [frameMove, cancelCurrentUtterance]; split <;> rfl
      | failed e => rfl
    | disconnecting => simp [frameMove, cancelCurrentUtterance]
  | processFrame frame pc =>
    cases pc <;> cases signal <;> cases frame <;> simp only [frameMove, processFrame] <;>
      (try split) <;> rfl
  | start pc => cases pc <;> cases signal <;> rfl
  | stop pc => cases pc <;> cases signal <;> simp only [frameMove, stop] <;> (try split) <;> rfl

end RtcAsr.Plugin
