import RtcAsr.Plugin.Calls

/-!
# Who calls whom

The methods of the service call each other in a fixed order (`Call.rank`), so that the tasks of the
service are nested activations (`service_lawful`): a method occurs once on a stack, above what waits
for it.
-/

namespace RtcAsr.Plugin

/-- A method calls methods of smaller rank only. -/
def Call.rank : Call → ℕ
  | .ensureConnection => 0
  | .closeSocketAndTasks _ => 0
  | .enqueueChunk _ => 0
  | .reconnect false => 1
  | .disconnect => 1
  | .sendWs _ _ false => 2
  | .ensureUtteranceStarted => 3
  | .sendControl _ => 3
  | .reconnect true => 4
  | .sendWs _ _ true => 5
  | .handleServerPayload _ => 6
  | .handleAudio _ => 6
  | .startCurrentUtterance => 6
  | .finalizeCurrentUtterance => 6
  | .cancelCurrentUtterance => 6
  | .sendLoop => 7
  | .receiveLoop => 7
  | .processFrame _ => 7
  | .start => 7
  | .stop => 7

/-- Every frame that a command puts on the stack meets `P`. -/
def EachFrame (P : Frame → Prop) : Command Frame Call PluginExn → Prop
  | .await f => P f
  | .call f k => P f ∧ P k.enter
  | .ret => True
  | .throw _ => True

/-- `EachFrame` speaks of the frames of a command. -/
lemma EachFrame.frames {config : LocalSTTConfig} {P : Frame → Prop}
    {c : Command Frame Call PluginExn} (h : EachFrame P c) :
    ∀ f ∈ (service config).frames c, P f := by
  cases c with
  | await f => exact List.forall_mem_singleton.mpr h
  | call f k => exact List.forall_mem_cons.mpr ⟨h.2, List.forall_mem_singleton.mpr h.1⟩
  | ret => simp [Coroutines.frames]
  | throw e => simp [Coroutines.frames]

/-- The frame stays in its method and remembers what it calls; only `_ensure_connection` creates
tasks, and only `_close_socket_and_tasks` stops some. -/
structure Stays (k : Call) (m : ServiceMove) : Prop where
  command : match m.command with
    | .await f => f.call = k ∧ f ≠ k.enter
    | .call f k' => f.call = k ∧ f.pending = some k'
    | .ret => True
    | .throw _ => True
  spawn : m.spawn = [] ∨ k = .ensureConnection
  cancel : m.cancel = [] ∨ ∃ cancelCurrent, k = .closeSocketAndTasks cancelCurrent

section stays

variable {k : Call} {s : Service}

/-- A frame that is suspended stays in its method and is past its entry. -/
@[simp] lemma stays_await {f : Frame} : Stays k (.await s f) ↔ f.call = k ∧ f ≠ k.enter :=
  ⟨fun h => h.command, fun h => ⟨h, .inl rfl, .inl rfl⟩⟩

/-- A frame that calls a method stays in its own and remembers the call. -/
@[simp] lemma stays_call {f : Frame} {k' : Call} :
    Stays k (.call s f k') ↔ f.call = k ∧ f.pending = some k' :=
  ⟨fun h => h.command, fun h => ⟨h, .inl rfl, .inl rfl⟩⟩

/-- A frame that returns need not stay. -/
@[simp] lemma stays_ret : Stays k (.ret s) := ⟨trivial, .inl rfl, .inl rfl⟩

/-- Nor need one that raises. -/
@[simp] lemma stays_throw {e : TaskExn PluginExn} : Stays k (.throw s e) :=
  ⟨trivial, .inl rfl, .inl rfl⟩

/-- Nor need one that passes a result on. -/
@[simp] lemma stays_passOn {signal : ServiceSignal} : Stays k (passOn s signal) := by
  cases signal
  · exact stays_ret
  · exact stays_throw

end stays

variable (config : LocalSTTConfig) (me next : TaskId) (s : Service) (signal : ServiceSignal)

attribute [local simp] Frame.call Frame.pending Call.enter

/-- Only the end of `_ensure_connection` creates tasks. -/
lemma ensureConnection_stays (pc : EnsureConnectionPc) :
    Stays .ensureConnection (ensureConnection me next s pc signal) := by
  cases pc with
  | entry =>
    simp only [ensureConnection]
    split <;> simp
  | locking =>
    cases signal with
    | value v =>
      simp only [ensureConnection]
      split <;> simp
    | failed e => exact stays_throw
  | connecting =>
    cases signal with
    | value v => exact ⟨trivial, .inr rfl, .inl rfl⟩
    | failed e => exact stays_throw

/-- The end of `_close_socket_and_tasks`. -/
lemma closeSocket_stays (cancelCurrent : Bool) :
    Stays (.closeSocketAndTasks cancelCurrent) (closeSocket s cancelCurrent) := by
  unfold closeSocket
  simp only
  split <;> simp

/-- Its second loop. -/
lemma awaitTasks_stays (cancelCurrent : Bool) (tasks : List TaskId) :
    Stays (.closeSocketAndTasks cancelCurrent) (awaitTasks s cancelCurrent tasks) := by
  cases tasks with
  | nil => exact closeSocket_stays s cancelCurrent
  | cons task rest => simp [awaitTasks]

/-- The entry of `_close_socket_and_tasks` is the only one that stops tasks. -/
lemma closeSocketAndTasks_stays (cancelCurrent : Bool) (pc : ClosePc) :
    Stays (.closeSocketAndTasks cancelCurrent)
      (closeSocketAndTasks me s cancelCurrent pc signal) := by
  cases pc with
  | entry =>
    have h := awaitTasks_stays { s with closed := true } cancelCurrent (s.linkTasks me)
    exact ⟨h.command, h.spawn, .inr ⟨cancelCurrent, rfl⟩⟩
  | awaiting task rest =>
    rcases signal with v | (_ | e)
    · exact awaitTasks_stays s cancelCurrent rest
    · exact awaitTasks_stays s cancelCurrent rest
    · exact stays_throw
  | closing => rcases signal with v | (_ | e) <;> simp [closeSocketAndTasks]

/-- It connects and sends the start. -/
lemma ensureUtteranceStarted_stays (pc : EnsureUtterancePc) :
    Stays .ensureUtteranceStarted (ensureUtteranceStarted me s pc signal) := by
  cases pc <;> cases signal <;> simp only [ensureUtteranceStarted] <;> (try split) <;>
    simp

/-- `_send_ws` calls `_reconnect` after a failed write. -/
lemma sendWs_stays (payload : Payload) (replay startAfter : Bool) (pc : SendWsPc) :
    Stays (.sendWs payload replay startAfter)
      (sendWs config s payload replay startAfter pc signal) := by
  cases pc with
  | entry => simp only [sendWs]; split <;> simp
  | sending connection handed =>
    rcases signal with v | (_ | e) <;> simp only [sendWs] <;> (try split) <;>
      simp
  | reconnecting =>
    cases signal with
    | value v => simp only [sendWs]; split <;> (try split) <;> simp
    | failed e => exact stays_throw
  | resending connection handed => simp [sendWs]

/-- It closes and connects, and starts the utterance again if it is asked to. -/
lemma reconnect_stays (startUtterance : Bool) (pc : ReconnectPc) :
    Stays (.reconnect startUtterance) (reconnect s startUtterance pc signal) := by
  cases pc <;> cases signal <;> cases startUtterance <;> simp [reconnect]

/-- It closes. -/
lemma disconnect_stays (pc : DisconnectPc) : Stays .disconnect (disconnect s pc signal) := by
  cases pc <;> cases signal <;> simp [disconnect]

/-- The head of the send loop waits for a chunk or returns. -/
lemma sendLoopHead_stays : Stays .sendLoop (sendLoopHead s) := by
  unfold sendLoopHead
  split <;> simp

/-- The send loop sends, and disconnects after an error. -/
lemma sendLoop_stays (pc : SendLoopPc) : Stays .sendLoop (sendLoop me s pc signal) := by
  cases pc with
  | entry =>
    cases signal with
    | value v => exact sendLoopHead_stays s
    | failed e => exact stays_throw
  | getting =>
    cases signal with
    | value v =>
      simp only [sendLoop]
      split
      · simp
      · split
        · simp
        · exact sendLoopHead_stays _
    | failed e => exact stays_throw
  | sending chunk =>
    rcases signal with v | (_ | e)
    · simp only [sendLoop]
      split
      · exact sendLoopHead_stays _
      · exact stays_ret
    · exact stays_throw
    · simp [sendLoop]
  | disconnecting chunk => simp [sendLoop]

/-- The head of the receive loop waits for a message or returns. -/
lemma receiveLoopHead_stays : Stays .receiveLoop (receiveLoopHead s) := by
  unfold receiveLoopHead
  split <;> (try split) <;> simp

/-- Its error handler reconnects or disconnects. -/
lemma receiveLoopError_stays : Stays .receiveLoop (receiveLoopError config s) := by
  unfold receiveLoopError
  split <;> simp

/-- The receive loop handles one payload after the other. -/
lemma receiveLoop_stays (pc : ReceiveLoopPc) :
    Stays .receiveLoop (receiveLoop config s pc signal) := by
  cases pc with
  | entry =>
    cases signal with
    | value v => exact receiveLoopHead_stays s
    | failed e => exact stays_throw
  | receiving connection =>
    rcases signal with v | (_ | e)
    · simp only [receiveLoop]
      split
      · exact receiveLoopError_stays config _
      · simp
    · exact stays_throw
    · exact receiveLoopError_stays config s
  | handling payload =>
    rcases signal with v | (_ | e)
    · exact receiveLoopHead_stays s
    · exact stays_throw
    · exact receiveLoopError_stays config s
  | reconnecting => simp [receiveLoop]
  | disconnecting => simp [receiveLoop]

/-- A ping is answered, and a transcript is pushed. -/
lemma handleServerPayload_stays (payload : Dict) (pc : HandlePc) :
    Stays (.handleServerPayload payload) (handleServerPayload config s payload pc signal) := by
  cases pc with
  | entry =>
    simp only [handleServerPayload, pushTranscript]
    split <;> (try split) <;> (try split) <;> simp
  | ponging reply => simp [handleServerPayload]
  | pushing isFinal => cases signal <;> simp [handleServerPayload]

/-- A control message is sent after connecting. -/
lemma sendControl_stays (payload : Payload) (pc : SendControlPc) :
    Stays (.sendControl payload) (sendControl s payload pc signal) := by
  cases pc <;> cases signal <;> simp [sendControl]

/-- `_enqueue_chunk` calls nothing; under the policy `block` it may sleep. -/
lemma enqueueChunk_stays (chunk : AudioChunk) (pc : EnqueuePc) :
    Stays (.enqueueChunk chunk) (enqueueChunk config s chunk pc signal) := by
  have hblock : Stays (.enqueueChunk chunk) (blockChunk config s chunk) := by
    unfold blockChunk
    split <;> simp
  cases pc with
  | entry =>
    simp only [enqueueChunk]
    split
    · exact hblock
    · split <;> simp
    · exact stays_ret
  | sleeping =>
    cases signal with
    | value v => exact hblock
    | failed e => exact stays_throw

/-- A method that ends by enqueueing a chunk. -/
lemma enqueueLast_stays {k : Call} {flushed : Service × Option AudioChunk}
    {pc : AudioChunk → Frame} (hcall : ∀ chunk, (pc chunk).call = k)
    (hpending : ∀ chunk, (pc chunk).pending = some (.enqueueChunk chunk)) :
    Stays k (enqueueLast flushed pc) := by
  rcases flushed with ⟨s, _ | chunk⟩
  · exact stays_ret
  · exact stays_call.mpr ⟨hcall chunk, hpending chunk⟩

/-- It connects, and may enqueue a chunk. -/
lemma handleAudio_stays (audio : Bytes) (pc : HandleAudioPc) :
    Stays (.handleAudio audio) (handleAudio config s audio pc signal) := by
  cases pc with
  | entry => simp only [handleAudio]; split <;> simp
  | connecting =>
    cases signal with
    | value v =>
      simp only [handleAudio]
      split
      · exact enqueueLast_stays (fun _ => rfl) (fun _ => rfl)
      · exact stays_ret
    | failed e => exact stays_throw
  | enqueueing chunk => simp [handleAudio]

/-- It starts the utterance and may enqueue the pre-roll. -/
lemma startCurrentUtterance_stays (pc : StartUtterancePc) :
    Stays .startCurrentUtterance (startCurrentUtterance config s pc signal) := by
  cases pc with
  | entry => simp only [startCurrentUtterance]; split <;> simp
  | starting =>
    cases signal with
    | value v => exact enqueueLast_stays (fun _ => rfl) (fun _ => rfl)
    | failed e => exact stays_throw
  | enqueueing chunk => simp [startCurrentUtterance]

/-- It enqueues the last chunk, joins the queue, sends the finalize message and waits. -/
lemma finalizeCurrentUtterance_stays (pc : FinalizePc) :
    Stays .finalizeCurrentUtterance (finalizeCurrentUtterance config s pc signal) := by
  cases pc with
  | entry =>
    simp only [finalizeCurrentUtterance]
    split <;> (try split) <;> simp
  | enqueueing generation chunk =>
    cases signal <;> simp [finalizeCurrentUtterance]
  | joining generation drained =>
    cases signal with
    | value v => simp only [finalizeCurrentUtterance]; split <;> simp
    | failed e => exact stays_throw
  | sending generation event =>
    cases signal with
    | value v => simp only [finalizeCurrentUtterance]; split <;> simp
    | failed e => exact stays_throw
  | waiting generation event =>
    rcases signal with v | (_ | (_ | _ | _ | _ | _ | _)) <;>
      simp [finalizeCurrentUtterance, passOn]
  | disconnecting generation event => simp [finalizeCurrentUtterance]

/-- It sends the cancel message and disconnects. -/
lemma cancelCurrentUtterance_stays (pc : CancelPc) :
    Stays .cancelCurrentUtterance (cancelCurrentUtterance s pc signal) := by
  cases pc with
  | entry => simp only [cancelCurrentUtterance]; split <;> simp
  | sending connection =>
    cases signal with
    | value v => simp only [cancelCurrentUtterance]; split <;> simp
    | failed e => exact stays_throw
  | disconnecting => simp [cancelCurrentUtterance]

/-- It passes the frame on, or calls the method for it. -/
lemma processFrame_stays (frame : PipecatFrame) (pc : ProcessPc) :
    Stays (.processFrame frame) (processFrame config s frame pc signal) := by
  cases pc <;> cases signal <;> cases frame <;> simp only [processFrame] <;> (try split) <;>
    simp

/-- It connects. -/
lemma start_stays (pc : StartPc) : Stays .start (start s pc signal) := by
  cases pc <;> cases signal <;> simp [start]

/-- It sends the close message and disconnects. -/
lemma stop_stays (pc : StopPc) : Stays .stop (stop s pc signal) := by
  cases pc <;> cases signal <;> simp only [stop] <;> (try split) <;>
    simp

/-- Every frame stays in its method, and remembers what it calls. -/
lemma frameMove_stays (frame : Frame) :
    Stays frame.call (frameMove config me next s frame signal) := by
  cases frame with
  | ensureConnection pc => exact ensureConnection_stays me next s signal pc
  | closeSocketAndTasks cancelCurrent pc => exact closeSocketAndTasks_stays me s signal _ pc
  | ensureUtteranceStarted pc => exact ensureUtteranceStarted_stays me s signal pc
  | sendWs payload replay startAfter pc => exact sendWs_stays config s signal _ _ _ pc
  | reconnect startUtterance pc => exact reconnect_stays s signal _ pc
  | disconnect pc => exact disconnect_stays s signal pc
  | sendLoop pc => exact sendLoop_stays me s signal pc
  | receiveLoop pc => exact receiveLoop_stays config s signal pc
  | handleServerPayload payload pc => exact handleServerPayload_stays config s signal _ pc
  | sendControl payload pc => exact sendControl_stays s signal _ pc
  | enqueueChunk chunk pc => exact enqueueChunk_stays config s signal _ pc
  | handleAudio audio pc => exact handleAudio_stays config s signal _ pc
  | startCurrentUtterance pc => exact startCurrentUtterance_stays config s signal pc
  | finalizeCurrentUtterance pc => exact finalizeCurrentUtterance_stays config s signal pc
  | cancelCurrentUtterance pc => exact cancelCurrentUtterance_stays s signal pc
  | processFrame frame pc => exact processFrame_stays config s signal _ pc
  | start pc => exact start_stays s signal pc
  | stop pc => exact stop_stays s signal pc

/-- What holds of the call of a frame and of the call it makes holds of the calls of its new
frames. -/
lemma eachFrame_of_calls {config : LocalSTTConfig} {me next : TaskId} {s : Service}
    {signal : ServiceSignal} {frame : Frame} {P : Call → Prop} (hframe : P frame.call)
    (hcalled : ∀ f k, (frameMove config me next s frame signal).command = .call f k → P k) :
    EachFrame (fun f => P f.call) (frameMove config me next s frame signal).command := by
  have hstays := (frameMove_stays config me next s signal frame).command
  cases hcommand : (frameMove config me next s frame signal).command with
  | await f =>
    rw [hcommand] at hstays
    change P f.call
    rw [hstays.1]
    exact hframe
  | call f k =>
    rw [hcommand] at hstays
    refine ⟨?_, ?_⟩
    · change P f.call
      rw [hstays.1]
      exact hframe
    · change P k.enter.call
      rw [show k.enter.call = k by cases k <;> rfl]
      exact hcalled f k hcommand
  | ret => trivial
  | throw e => trivial

/-- A frame waits for a call of smaller rank. -/
lemma rank_pending_lt {frame : Frame} {k : Call} (h : frame.pending = some k) :
    k.rank < frame.call.rank := by
  unfold Frame.pending at h
  split at h <;> cases h
  case h_3 payload replay startAfter => cases startAfter <;> simp [Frame.call, Call.rank]
  case h_4 startUtterance => cases startUtterance <;> simp [Frame.call, Call.rank]
  case h_5 startUtterance => cases startUtterance <;> simp [Frame.call, Call.rank]
  all_goals simp [Frame.call, Call.send, Call.rank]

/-- **The service obeys the laws of calling.** -/
theorem service_lawful : (service config).Lawful Call.rank where
  fn_enter k := by cases k <;> rfl
  fn_await {t n f signal s g} h := by
    have hstays := (frameMove_stays config t n s signal f).command
    simp only [show (frameMove config t n s f signal).command = _ from h] at hstays
    exact hstays.1
  fn_call {t n f signal s g k} h := by
    have hstays := (frameMove_stays config t n s signal f).command
    simp only [show (frameMove config t n s f signal).command = _ from h] at hstays
    exact hstays
  rank_lt h := rank_pending_lt h

/-- A call is entered only when it is made. -/
theorem service_enters : (service config).Enters where
  pending_enter k := by
    cases k
    case processFrame frame => cases frame <;> rfl
    all_goals rfl
  await_entered {t n f signal s g} h := by
    have hstays := (frameMove_stays config t n s signal f).command
    simp only [show (frameMove config t n s f signal).command = _ from h] at hstays
    obtain ⟨hcall, hentered⟩ := hstays
    exact fun hg => hentered (hcall ▸ hg)

/-- The tasks a frame move creates are the two loops of a connection. -/
lemma frameMove_spawn {frame : Frame} {k : Call}
    (hk : k ∈ (frameMove config me next s frame signal).spawn) :
    k = .sendLoop ∨ k = .receiveLoop := by
  rcases (frameMove_stays config me next s signal frame).spawn with hnil | hcall
  · rw [hnil] at hk
    cases hk
  · cases frame <;> simp only [Frame.call, reduceCtorEq] at hcall
    case ensureConnection pc =>
      revert hk
      cases pc with
      | entry =>
        simp only [frameMove, ensureConnection]
        split <;> simp [Move.ret, Move.await]
      | locking =>
        cases signal with
        | value v =>
          simp only [frameMove, ensureConnection]
          split <;> simp [Move.ret, Move.await]
        | failed e => simp [frameMove, ensureConnection, Move.throw]
      | connecting =>
        cases signal with
        | value v => simp [frameMove, ensureConnection]
        | failed e => simp [frameMove, ensureConnection, Move.throw]

/-- The service but for what `_close_socket_and_tasks` touches. -/
def Service.apartFromLoops (s : Service) : Service :=
  { s with sendTask := none, receiveTask := none, closed := false }

/-- Awaiting the tasks of a connection touches the tasks and the flag `closed` only. -/
lemma awaitTasks_kept (cancelCurrent : Bool) (tasks : List TaskId) :
    (awaitTasks s cancelCurrent tasks).shared.apartFromLoops = s.apartFromLoops := by
  cases tasks with
  | nil => simp only [awaitTasks, closeSocket]; split <;> rfl
  | cons task rest => rfl

/-- `_close_socket_and_tasks` touches the tasks and the flag `closed` only. -/
lemma closeSocketAndTasks_kept (cancelCurrent : Bool) (pc : ClosePc) (signal : ServiceSignal) :
    (closeSocketAndTasks me s cancelCurrent pc signal).shared.apartFromLoops =
      s.apartFromLoops := by
  cases pc with
  | entry => exact (awaitTasks_kept { s with closed := true } cancelCurrent _).trans rfl
  | awaiting task rest =>
    rcases signal with v | (_ | e)
    · exact awaitTasks_kept s cancelCurrent rest
    · exact awaitTasks_kept s cancelCurrent rest
    · rfl
  | closing => rcases signal with v | (_ | e) <;> rfl

/-- The calls that a task begins with. -/
def Call.isRoot (k : Call) : Prop := k.callable = true ∨ k = .sendLoop ∨ k = .receiveLoop

/-- The shape of the tasks of the service: nested stacks, in which only the running task is at the
entry of a call. -/
structure ServiceShaped (w : ServiceWorld) : Prop where
  shaped : (service config).Shaped w
  prompt : (service config).Prompt Call.isRoot w

/-- There are no tasks at first. -/
lemma serviceShaped_initial : ServiceShaped config .initial :=
  ⟨Coroutines.shaped_initial _, Coroutines.prompt_initial _ _⟩

/-- A step keeps the shape. -/
theorem serviceShaped_step {config : LocalSTTConfig} {w w' : ServiceWorld} {a : ServiceAction}
    (hw : ServiceShaped config w) (h : (service config).step w a = some w') :
    ServiceShaped config w' where
  shaped := Coroutines.shaped_step (service_lawful config) hw.shaped h
  prompt := Coroutines.prompt_step (service_lawful config) (service_enters config)
    (fun _ hk => .inl hk) (fun hk => .inr (frameMove_spawn _ _ _ _ _ hk)) hw.shaped hw.prompt h

/-- A condition that follows, for shaped worlds, from a test that a run passes. -/
lemma along_of_shaped_check {config : LocalSTTConfig} {C : ServiceWorld → ServiceAction → Prop}
    {c : ServiceWorld → ServiceAction → Bool}
    (h : ∀ w a, ServiceShaped config w → c w a = true → C w a) {as : List ServiceAction}
    (hc : (serviceSystem config).check c .initial as = true) :
    (serviceSystem config).Along C .initial as :=
  StepSystem.Along.imp_of_invariant (C := fun w a => c w a = true)
    (fun _ _ _ hw _ hstep => serviceShaped_step hw hstep) h (serviceShaped_initial config)
    (StepSystem.along_of_check (fun _ _ hc => hc) hc)

end RtcAsr.Plugin
