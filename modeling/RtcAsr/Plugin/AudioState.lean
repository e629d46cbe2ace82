import RtcAsr.Plugin.CallOrder

/-!
# The audio state

What is left of a service without its connections, tasks and waiters: the queue, the buffers, their
counts and the generation, and the history of audio and of the messages that delimit it.  Only the
methods of the audio path touch the audio state (`Frame.carries`, `audio_frameMove`).
-/

namespace RtcAsr.Plugin

/-- The happenings that are about audio, and the messages that delimit it. -/
def Happening.isAudio : Happening → Bool
  | .sent _ (.start _) => true
  | .sent _ (.audio _) => true
  | .sent _ .finalize => true
  | .heard _ _ => true
  | .preRollFlushed => true
  | .aggregated _ => true
  | .dropped _ => true
  | _ => false

namespace Service

variable (s : Service)

/-- The audio of the service. -/
def audio : Service :=
  { s with
    websocket := none
    connections := 0
    broken := []
    connectLock := none
    startLock := none
    readyEvent := none
    readyEvents := 0
    readySet := []
    sendTask := none
    receiveTask := none
    closed := false
    utteranceActive := false
    suppressTranscripts := false
    finalEvents := []
    finalEventCount := 0
    finalSet := []
    history := s.history.filter Happening.isAudio }

lemma audio_record {h : Happening} (hh : h.isAudio = false) : (s.record h).audio = s.audio := by
  simp [record, audio, hh]

@[simp] lemma audio_connected (next : TaskId) : (s.connected next).audio = s.audio := rfl

@[simp] lemma audio_prepareStart : s.prepareStart.audio = s.audio := by
  unfold prepareStart
  split <;> rfl

@[simp] lemma audio_setdefaultFinal (g : ℕ) : (s.setdefaultFinal g).audio = s.audio := by
  unfold setdefaultFinal
  split <;> rfl

@[simp] lemma audio_setFinal (release : Release) (entry : ℕ × ℕ) :
    (s.setFinal release entry).audio = s.audio := by
  simp [setFinal, audio, Happening.isAudio]

@[simp] lemma audio_releaseFinalWaiters (release : Release) :
    (s.releaseFinalWaiters release).audio = s.audio :=
  s.releaseFinalWaiters_view (fun s entry => s.audio_setFinal release entry) fun _ => rfl

@[simp] lemma audio_recordFinal (generation : Generation) :
    (s.recordFinalTranscriptReceived generation).audio = s.audio := by
  unfold recordFinalTranscriptReceived
  split <;> (try split) <;> simp

/-- The end of an utterance is not about audio. -/
lemma audio_endUtterance {h : Happening} (hh : h.isAudio = false) :
    (s.endUtterance h).audio = s.audio := by
  simp [endUtterance, audio, hh]

end Service

/-- The frames whose moves touch the audio state. -/
def Frame.carries : Frame → Bool
  | .sendWs _ _ _ .entry => true
  | .sendWs _ _ _ .reconnecting => true
  | .disconnect .closing => true
  | .sendLoop .entry => false
  | .sendLoop _ => true
  | .enqueueChunk _ _ => true
  | .handleAudio _ .connecting => true
  | .startCurrentUtterance .entry => true
  | .startCurrentUtterance .starting => true
  | .finalizeCurrentUtterance .entry => true
  | .cancelCurrentUtterance .entry => true
  | _ => false

variable (config : LocalSTTConfig) (me next : TaskId) (s : Service)

lemma closeSocketAndTasks_audio (cancelCurrent : Bool) (pc : ClosePc) (signal : ServiceSignal) :
    (closeSocketAndTasks me s cancelCurrent pc signal).shared.audio = s.audio := by
  have haudio : ∀ s : Service, s.audio = s.apartFromLoops.audio := fun _ => rfl
  rw [haudio, closeSocketAndTasks_kept, ← haudio]

lemma receiveLoop_audio (pc : ReceiveLoopPc) (signal : ServiceSignal) :
    (receiveLoop config s pc signal).shared.audio = s.audio := by
  have hhead : (receiveLoopHead s).shared.audio = s.audio := by
    unfold receiveLoopHead
    split <;> (try split) <;> rfl
  have herror : ∀ s : Service, (receiveLoopError config s).shared.audio = s.audio := by
    intro s
    unfold receiveLoopError
    split <;> rfl
  cases pc with
  | entry =>
    cases signal with
    | value v => exact hhead
    | failed e => rfl
  | receiving connection =>
    rcases signal with v | (_ | e)
    · have hrecord := s.audio_record
        (show (Happening.received connection (v.getD .null)).isAudio = false from rfl)
      simp only [receiveLoop]
      split
      · exact (herror _).trans hrecord
      · exact hrecord
    · rfl
    · exact herror s
  | handling payload =>
    rcases signal with v | (_ | e)
    · exact hhead
    · rfl
    · exact herror s
  | reconnecting => simp [receiveLoop]
  | disconnecting => simp [receiveLoop]

lemma handleServerPayload_audio (payload : Dict) (pc : HandlePc) (signal : ServiceSignal) :
    (handleServerPayload config s payload pc signal).shared.audio = s.audio := by
  have hend : ∀ (s : Service) isFinal, (endTranscript s isFinal).audio = s.audio := by
    intro s isFinal
    unfold endTranscript
    split
    · exact s.audio_endUtterance rfl
    · rfl
  cases pc with
  | entry =>
    simp only [handleServerPayload]
    split
    case h_4 => split <;> rfl
    case h_5 event generation hevent =>
      split
      · rfl
      · simp only [pushTranscript]
        have hrecord : (if event.isFinal = true then s.recordFinalTranscriptReceived generation
            else s).audio = s.audio := by
          split
          · exact s.audio_recordFinal generation
          · rfl
        split
        · exact (Service.audio_record _ rfl).trans hrecord
        · exact (hend _ _).trans hrecord
    case h_7 => exact s.audio_releaseFinalWaiters _
    case h_8 => exact s.audio_releaseFinalWaiters _
    all_goals rfl
  | ponging reply => simp [handleServerPayload]
  | pushing isFinal =>
    cases signal with
    | value v => exact hend s isFinal
    | failed e => rfl

lemma finalizeCurrentUtterance_audio {pc : FinalizePc}
    (hquiet : (Frame.finalizeCurrentUtterance pc).carries = false) (signal : ServiceSignal) :
    (finalizeCurrentUtterance config s pc signal).shared.audio = s.audio := by
  have hpop : ∀ (s : Service) g, (s.popFinal g).audio = s.audio := fun _ _ => rfl
  have hend := s.audio_endUtterance (show Happening.finalized.isAudio = false from rfl)
  cases pc with
  | entry => cases hquiet
  | enqueueing g chunk => cases signal <;> rfl
  | joining g drained =>
    cases signal with
    | value v =>
      simp only [finalizeCurrentUtterance]
      split
      · exact s.audio_setdefaultFinal g
      · rfl
    | failed e => rfl
  | sending g event =>
    cases signal with
    | value v =>
      simp only [finalizeCurrentUtterance]
      split
      · exact (hpop _ g).trans hend
      · exact hend
    | failed e => rfl
  | waiting g event =>
    rcases signal with v | (_ | (_ | _ | _ | _ | _ | _)) <;>
      simp [finalizeCurrentUtterance, Move.call, hpop]
  | disconnecting g event => simp [finalizeCurrentUtterance, hpop]

/-- **Only the frames of the audio path touch the audio state.** -/
theorem audio_frameMove {frame : Frame} (hquiet : frame.carries = false) (signal : ServiceSignal) :
    (frameMove config me next s frame signal).shared.audio = s.audio := by
  cases frame with
  | ensureConnection pc =>
    cases pc <;> cases signal <;> simp only [frameMove, ensureConnection] <;> (try split) <;> rfl
  | closeSocketAndTasks cancelCurrent pc => exact closeSocketAndTasks_audio me s _ pc signal
  | ensureUtteranceStarted pc =>
    cases pc with
    | connecting =>
      cases signal with
      | value v => exact s.audio_prepareStart
      | failed e => rfl
    | _ => cases signal <;> simp only [frameMove, ensureUtteranceStarted] <;> (try split) <;> rfl
  | sendWs payload replay startAfter pc =>
    cases pc with
    | sending connection handed =>
      rcases signal with v | (_ | e) <;> simp only [frameMove, sendWs] <;> (try split) <;> rfl
    | resending connection handed => simp [frameMove, sendWs]
    | _ => cases hquiet
  | reconnect startUtterance pc =>
    cases pc <;> cases signal <;> simp only [frameMove, reconnect] <;> (try split) <;> rfl
  | disconnect pc =>
    cases pc with
    | entry => rfl
    | closing => cases hquiet
  | sendLoop pc =>
    cases pc with
    | entry =>
      cases signal with
      | value v => simp only [frameMove, sendLoop, sendLoopHead]; split <;> rfl
      | failed e => rfl
    | _ => cases hquiet
  | receiveLoop pc => exact receiveLoop_audio config s pc signal
  | handleServerPayload payload pc => exact handleServerPayload_audio config s payload pc signal
  | sendControl payload pc => cases pc <;> cases signal <;> rfl
  | enqueueChunk chunk pc => cases hquiet
  | handleAudio audio pc =>
    cases pc with
    | entry => simp only [frameMove, handleAudio]; split <;> rfl
    | connecting => cases hquiet
    | enqueueing chunk => simp [frameMove, handleAudio]
  | startCurrentUtterance pc =>
    cases pc with
    | enqueueing chunk => simp [frameMove, startCurrentUtterance]
    | _ => cases hquiet
  | finalizeCurrentUtterance pc => exact finalizeCurrentUtterance_audio config s hquiet signal
  | cancelCurrentUtterance pc =>
    cases pc with
    | entry => cases hquiet
    | sending connection =>
      cases signal with
      | value v => simp only [frameMove, cancelCurrentUtterance]; split <;> rfl
      | failed e => rfl
    | disconnecting => simp [frameMove, cancelCurrentUtterance]
  | processFrame frame pc =>
    cases pc <;> cases signal <;> cases frame <;> simp only [frameMove, processFrame] <;>
      (try split) <;> rfl
  | start pc => cases pc <;> cases signal <;> rfl
  | stop pc => cases pc <;> cases signal <;> simp only [frameMove, stop] <;> (try split) <;> rfl

/-! ## Taking a chunk -/

/-- The payloads of `_send_control`. -/
def Payload.isCommand : Payload → Bool
  | .finalize => true
  | .cancel => true
  | _ => false

/-- `_send_control` is called with a command. -/
lemma pending_sendControl {frame : Frame} {payload : Payload}
    (h : frame.pending = some (.sendControl payload)) : payload.isCommand = true := by
  unfold Frame.pending at h
  split at h <;> cases h <;> rfl

/-- What calls to send a chunk is the send loop, or carries the chunk already. -/
lemma pending_audio {frame : Frame} {chunk : AudioChunk} {replay startAfter : Bool}
    (h : frame.pending = some (.sendWs (.audio chunk) replay startAfter)) :
    frame.call = .sendLoop ∨ frame.call = .sendControl (.audio chunk) := by
  unfold Frame.pending at h
  split at h <;> cases h
  · exact .inl rfl
  · exact .inr rfl

variable {config me next s} {signal : ServiceSignal}

/-- The send loop takes the first chunk of the queue, which is of the current generation, and calls
`_send_binary` with it. -/
structure Takes (s : Service) (frame : Frame) (signal : ServiceSignal) (m : ServiceMove)
    (chunk : AudioChunk) (replay startAfter : Bool) : Prop where
  frame : frame = .sendLoop .getting
  signal : ∃ v, signal = .value v
  flags : replay = true ∧ startAfter = true
  taken : ∃ rest, s.sendQueue = chunk :: rest ∧ chunk.generation = s.generation ∧
    m.shared = s.takeChunk chunk rest

/-- **A chunk is sent by a send loop that takes it from the queue.** -/
lemma frameMove_takes {frame f : Frame} {chunk : AudioChunk} {replay startAfter : Bool}
    (hcontrol : ∀ chunk, frame.call ≠ .sendControl (.audio chunk))
    (hcommand : (frameMove config me next s frame signal).command =
      .call f (.sendWs (.audio chunk) replay startAfter)) :
    Takes s frame signal (frameMove config me next s frame signal) chunk replay startAfter := by
  have hstays := (frameMove_stays config me next s signal frame).command
  rw [hcommand] at hstays
  obtain ⟨hcall, hpending⟩ := hstays
  rcases pending_audio hpending with hloop | hsend
  · have hframe : frame.call = .sendLoop := hcall.symm.trans hloop
    cases frame <;> cases hframe
    rename_i pc
    revert hcommand
    cases pc with
    | entry =>
      cases signal with
      | value v => simp only [frameMove, sendLoop, sendLoopHead]; split <;> intro h <;> cases h
      | failed e => intro h; cases h
    | getting =>
      cases signal with
      | value v =>
        simp only [frameMove, sendLoop]
        split
        · intro h; cases h
        · rename_i chunk' rest hqueue
          split
          · rename_i hgeneration
            intro h
            cases h
            exact ⟨rfl, ⟨v, rfl⟩, ⟨rfl, rfl⟩, rest, hqueue, hgeneration, rfl⟩
          · simp only [sendLoopHead]
            split <;> intro h <;> cases h
      | failed e => intro h; cases h
    | sending chunk' =>
      rcases signal with v | (_ | e)
      · simp only [frameMove, sendLoop, sendLoopHead]
        split <;> (try split) <;> intro h <;> cases h
      · intro h; cases h
      · intro h; cases h
    | disconnecting chunk' => cases signal <;> intro h <;> cases h
  · exact absurd (hcall.symm.trans hsend) (hcontrol chunk)

end RtcAsr.Plugin
