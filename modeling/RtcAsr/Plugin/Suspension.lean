import RtcAsr.Plugin.CallOrder

/-!
# Where tasks are suspended

A task is suspended in a frame that waits for no call (`frameMove_rests`) and past the entry of its
call, unless the task begins with this call (`suspended_step`).
-/

namespace RtcAsr.Plugin

variable {config : LocalSTTConfig} {me next : TaskId} {s : Service} {signal : ServiceSignal}

/-- A move that suspends the task does so in a frame that waits for no call. -/
def Rests (m : ServiceMove) : Prop := ∀ g, m.command = .await g → g.pending = none

/-- A frame that waits for no call. -/
@[simp] lemma rests_await {f : Frame} : Rests (.await s f) ↔ f.pending = none := by
  refine ⟨fun h => h f rfl, fun h g hg => ?_⟩
  obtain rfl : f = g := by
    injection hg
  exact h

/-- A call does not suspend the task. -/
@[simp] lemma rests_call {f : Frame} {k : Call} : Rests (.call s f k) := by
  rintro _ ⟨⟩

/-- Nor does a return. -/
@[simp] lemma rests_ret : Rests (.ret s) := by
  rintro _ ⟨⟩

/-- Nor does an exception. -/
@[simp] lemma rests_throw {e : TaskExn PluginExn} : Rests (.throw s e) := by
  rintro _ ⟨⟩

/-- Nor does a result that is passed on. -/
@[simp] lemma rests_passOn : Rests (passOn s signal) := by
  cases signal with
  | value v => exact rests_ret
  | failed e => exact rests_throw

section rests

attribute [local simp] Frame.pending

/-- The end of `_ensure_connection` returns. -/
lemma ensureConnection_rests (pc : EnsureConnectionPc) :
    Rests (ensureConnection me next s pc signal) := by
  cases pc with
  | entry =>
    simp only [ensureConnection]
    split <;> simp
  | locking =>
    cases signal with
    | value v =>
      simp only [ensureConnection]
      split <;> simp
    | failed e => exact rests_throw
  | connecting =>
    cases signal with
    | value v =>
      rintro _ ⟨⟩
    | failed e => exact rests_throw

/-- Awaiting the tasks of a connection, and closing its socket, waits for no call. -/
lemma awaitTasks_rests (cancelCurrent : Bool) (tasks : List TaskId) :
    Rests (awaitTasks s cancelCurrent tasks) := by
  cases tasks with
  | nil =>
    simp only [awaitTasks, closeSocket]
    split <;> simp
  | cons task rest => simp [awaitTasks]

/-- `_close_socket_and_tasks` calls nothing. -/
lemma closeSocketAndTasks_rests (cancelCurrent : Bool) (pc : ClosePc) :
    Rests (closeSocketAndTasks me s cancelCurrent pc signal) := by
  cases pc with
  | entry =>
    have hawaits : Rests (awaitTasks { s with closed := true } cancelCurrent (s.linkTasks me)) :=
      awaitTasks_rests cancelCurrent _
    exact hawaits
  | awaiting task rest =>
    rcases signal with v | (_ | e)
    · exact awaitTasks_rests cancelCurrent rest
    · exact awaitTasks_rests cancelCurrent rest
    · exact rests_throw
  | closing =>
    rcases signal with v | (_ | e)
    · exact rests_ret
    · exact rests_throw
    · exact rests_ret

/-- `_ensure_utterance_started` waits for the lock and for the ready event. -/
lemma ensureUtteranceStarted_rests (pc : EnsureUtterancePc) :
    Rests (ensureUtteranceStarted me s pc signal) := by
  cases pc <;> cases signal <;> simp only [ensureUtteranceStarted] <;> (try split) <;> simp

/-- `_send_ws` waits for the connection to take the payload in. -/
lemma sendWs_rests (payload : Payload) (replay startAfter : Bool) (pc : SendWsPc) :
    Rests (sendWs config s payload replay startAfter pc signal) := by
  cases pc with
  | entry =>
    simp only [sendWs]
    split <;> simp
  | sending connection handed =>
    rcases signal with v | (_ | e)
    · exact rests_ret
    · exact rests_throw
    · simp only [sendWs]
      split <;> simp
  | reconnecting =>
    cases signal with
    | value v =>
      simp only [sendWs]
      split
      · split <;> simp
      · exact rests_ret
    | failed e => exact rests_throw
  | resending connection handed => exact rests_passOn

/-- A method that ends by enqueueing a chunk calls or returns. -/
lemma enqueueLast_rests {flushed : Service × Option AudioChunk} {pc : AudioChunk → Frame} :
    Rests (enqueueLast flushed pc) := by
  obtain ⟨s, _ | chunk⟩ := flushed
  · exact rests_ret
  · exact rests_call

/-- The head of the send loop waits for a chunk. -/
lemma sendLoopHead_rests : Rests (sendLoopHead s) := by
  unfold sendLoopHead
  split <;> simp

/-- The send loop waits for nothing else. -/
lemma sendLoop_rests (pc : SendLoopPc) : Rests (sendLoop me s pc signal) := by
  cases pc with
  | entry =>
    cases signal with
    | value v => exact sendLoopHead_rests
    | failed e => exact rests_throw
  | getting =>
    cases signal with
    | value v =>
      simp only [sendLoop]
      split
      · exact rests_await.mpr rfl
      · split
        · exact rests_call
        · exact sendLoopHead_rests
    | failed e => exact rests_throw
  | sending chunk =>
    rcases signal with v | (_ | e)
    · simp only [sendLoop]
      split
      · exact sendLoopHead_rests
      · exact rests_ret
    · exact rests_throw
    · exact rests_call
  | disconnecting chunk => exact rests_passOn

/-- The head of the receive loop waits for a message. -/
lemma receiveLoopHead_rests : Rests (receiveLoopHead s) := by
  unfold receiveLoopHead
  split
  · exact rests_ret
  · split <;> simp

/-- Its error handler calls. -/
lemma receiveLoopError_rests : Rests (receiveLoopError config s) := by
  unfold receiveLoopError
  split <;> exact rests_call

/-- The receive loop waits for a message. -/
lemma receiveLoop_rests (pc : ReceiveLoopPc) : Rests (receiveLoop config s pc signal) := by
  cases pc with
  | entry =>
    cases signal with
    | value v => exact receiveLoopHead_rests
    | failed e => exact rests_throw
  | receiving connection =>
    rcases signal with v | (_ | e)
    · simp only [receiveLoop]
      split
      · exact receiveLoopError_rests
      · exact rests_call
    · exact rests_throw
    · exact receiveLoopError_rests
  | handling payload =>
    rcases signal with v | (_ | e)
    · exact receiveLoopHead_rests
    · exact rests_throw
    · exact receiveLoopError_rests
  | reconnecting => exact rests_passOn
  | disconnecting => exact rests_passOn

/-- A transcript is pushed downstream. -/
lemma handleServerPayload_rests (payload : Dict) (pc : HandlePc) :
    Rests (handleServerPayload config s payload pc signal) := by
  cases pc with
  | entry =>
    simp only [handleServerPayload, pushTranscript]
    split <;> (try split) <;> (try split) <;> simp
  | ponging reply => exact rests_passOn
  | pushing isFinal =>
    cases signal with
    | value v => exact rests_ret
    | failed e => exact rests_throw

/-- The block loop sleeps. -/
lemma blockChunk_rests (chunk : AudioChunk) : Rests (blockChunk config s chunk) := by
  unfold blockChunk
  split <;> simp

/-- Under the other policies `_enqueue_chunk` returns or raises at once. -/
lemma enqueueChunk_rests (chunk : AudioChunk) (pc : EnqueuePc) :
    Rests (enqueueChunk config s chunk pc signal) := by
  cases pc with
  | entry =>
    simp only [enqueueChunk]
    split
    · exact blockChunk_rests chunk
    · split <;> simp
    · exact rests_ret
  | sleeping =>
    cases signal with
    | value v => exact blockChunk_rests chunk
    | failed e => exact rests_throw

/-- `_handle_audio` ends by enqueueing a chunk, if there is one. -/
lemma handleAudio_rests (audio : Bytes) (pc : HandleAudioPc) :
    Rests (handleAudio config s audio pc signal) := by
  cases pc with
  | entry =>
    simp only [handleAudio]
    split <;> simp
  | connecting =>
    cases signal with
    | value v =>
      simp only [handleAudio]
      split
      · exact enqueueLast_rests
      · exact rests_ret
    | failed e => exact rests_throw
  | enqueueing chunk => exact rests_passOn

/-- So does the start of an utterance. -/
lemma startCurrentUtterance_rests (pc : StartUtterancePc) :
    Rests (startCurrentUtterance config s pc signal) := by
  cases pc with
  | entry =>
    simp only [startCurrentUtterance]
    split <;> simp
  | starting =>
    cases signal with
    | value v => exact enqueueLast_rests
    | failed e => exact rests_throw
  | enqueueing chunk => exact rests_passOn

/-- A finalize joins the queue and waits for the final transcript. -/
lemma finalizeCurrentUtterance_rests (pc : FinalizePc) :
    Rests (finalizeCurrentUtterance config s pc signal) := by
  cases pc with
  | entry =>
    simp only [finalizeCurrentUtterance]
    split
    · split <;> simp
    · exact rests_ret
  | enqueueing generation chunk => cases signal <;> simp [finalizeCurrentUtterance]
  | joining generation drained =>
    cases signal with
    | value v =>
      simp only [finalizeCurrentUtterance]
      split <;> simp
    | failed e => exact rests_throw
  | sending generation event =>
    cases signal with
    | value v =>
      simp only [finalizeCurrentUtterance]
      split <;> simp
    | failed e => exact rests_throw
  | waiting generation event =>
    rcases signal with v | (_ | (_ | _ | _ | _ | _ | _)) <;>
      simp [finalizeCurrentUtterance, passOn]
  | disconnecting generation event => exact rests_passOn

/-- A frame is pushed downstream, or a method is called for it. -/
lemma processFrame_rests (frame : PipecatFrame) (pc : ProcessPc) :
    Rests (processFrame config s frame pc signal) := by
  cases pc <;> cases signal <;> cases frame <;> simp only [processFrame] <;> (try split) <;> simp

/-- **A task is suspended in a frame that waits for no call.** -/
theorem frameMove_rests (frame : Frame) : Rests (frameMove config me next s frame signal) := by
  cases frame with
  | ensureConnection pc => exact ensureConnection_rests pc
  | closeSocketAndTasks cancelCurrent pc => exact closeSocketAndTasks_rests cancelCurrent pc
  | ensureUtteranceStarted pc => exact ensureUtteranceStarted_rests pc
  | sendWs payload replay startAfter pc => exact sendWs_rests payload replay startAfter pc
  | reconnect startUtterance pc =>
    cases pc <;> cases signal <;> cases startUtterance <;> simp [frameMove, reconnect]
  | disconnect pc => cases pc <;> cases signal <;> simp [frameMove, disconnect]
  | sendLoop pc => exact sendLoop_rests pc
  | receiveLoop pc => exact receiveLoop_rests pc
  | handleServerPayload payload pc => exact handleServerPayload_rests payload pc
  | sendControl payload pc => cases pc <;> cases signal <;> simp [frameMove, sendControl]
  | enqueueChunk chunk pc => exact enqueueChunk_rests chunk pc
  | handleAudio audio pc => exact handleAudio_rests audio pc
  | startCurrentUtterance pc => exact startCurrentUtterance_rests pc
  | finalizeCurrentUtterance pc => exact finalizeCurrentUtterance_rests pc
  | cancelCurrentUtterance pc =>
    cases pc with
    | entry =>
      simp only [frameMove, cancelCurrentUtterance]
      split <;> simp
    | sending connection =>
      cases signal with
      | value v =>
        simp only [frameMove, cancelCurrentUtterance]
        split <;> simp
      | failed e => exact rests_throw
    | disconnecting => exact rests_passOn
  | processFrame frame pc => exact processFrame_rests frame pc
  | start pc => cases pc <;> cases signal <;> simp [frameMove, start]
  | stop pc => cases pc <;> cases signal <;> simp only [frameMove, stop] <;> (try split) <;> simp

end rests

/-! ## Suspended tasks -/

variable {w w' : ServiceWorld} {t : TaskId} {f : Frame} {fs : List Frame}

/-- A frame that waits for a call is not resumed with a value. -/
lemma not_accepts_of_pending {v : Option Json} (hpending : f.pending ≠ none) :
    (service config).accepts w t f (.value v) = false := by
  cases hmark : w.cancelled t with
  | true => simp [Coroutines.accepts, hmark]
  | false =>
    unfold Frame.pending at hpending
    split at hpending
    case h_31 => exact absurd rfl hpending
    all_goals simp [Coroutines.accepts, hmark, service, Frame.awaited, Frame.answers]

/-- A step suspends tasks only in frames that wait for no call, past their entry. -/
theorem suspended_step {a : ServiceAction} (hw : (service config).Suspended w)
    (h : (service config).step w a = some w') : (service config).Suspended w' :=
  Coroutines.suspended_step (service_enters config)
    (fun {t n f signal s g} hcommand => by
      have hrests : Rests (frameMove config t n s f signal) := frameMove_rests f
      exact hrests g hcommand) hw h

end RtcAsr.Plugin
