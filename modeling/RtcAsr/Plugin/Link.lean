import RtcAsr.Plugin.ControlState
import RtcAsr.Foundation.CoroutineLock

/-!
# The link of the service

The connection of the service, its two loops and its two locks.  Few frames touch them
(`link_frameMove`).  The connection is made under `_connect_lock` and the start handshake under
`_start_lock`, so that at most one task is in each at a time (`connectLock_obeyed`,
`startLock_obeyed`).
-/

namespace RtcAsr.Plugin

/-- The connection, the loops and the locks. -/
structure Link where
  websocket : Option ℕ
  connections : ℕ
  sendTask : Option TaskId
  receiveTask : Option TaskId
  connectLock : Option TaskId
  startLock : Option TaskId

/-- The link of a service. -/
def Service.link (s : Service) : Link :=
  ⟨s.websocket, s.connections, s.sendTask, s.receiveTask, s.connectLock, s.startLock⟩

/-- The link is part of the control state. -/
lemma link_congr {s s' : Service} (h : s'.control = s.control) : s'.link = s.link := by
  have hlink : ∀ s : Service, s.link = s.control.link := fun _ => rfl
  rw [hlink, h, ← hlink]

/-- The frames whose moves touch the link. -/
def Frame.links : Frame → Bool
  | .ensureConnection .locking => true
  | .ensureConnection .connecting => true
  | .closeSocketAndTasks _ _ => true
  | .ensureUtteranceStarted .entry => false
  | .ensureUtteranceStarted _ => true
  | .reconnect _ .closing => true
  | .disconnect .closing => true
  | _ => false

variable (config : LocalSTTConfig) (me next : TaskId) (s : Service)

lemma link_hand (connection : ℕ) (payload : Payload) :
    (s.hand connection payload).link = s.link := by
  unfold Service.hand
  split <;> rfl

lemma link_releaseFinalWaiters (release : Release) :
    (s.releaseFinalWaiters release).link = s.link :=
  s.releaseFinalWaiters_view (fun _ _ => rfl) fun _ => rfl

lemma link_recordFinal (generation : Generation) :
    (s.recordFinalTranscriptReceived generation).link = s.link := by
  unfold Service.recordFinalTranscriptReceived
  split <;> (try split) <;> rfl

lemma link_cancelUtterance : s.cancelUtterance.link = s.link := by
  unfold Service.cancelUtterance
  rw [link_releaseFinalWaiters, link_congr (Service.control_clearSendQueue _)]
  rfl

lemma link_disconnect : s.disconnect.link = { s.link with websocket := none } := by
  have hclear : (s.clearSendQueue.releaseFinalWaiters .disconnect).link = s.link := by
    rw [link_releaseFinalWaiters, link_congr (Service.control_clearSendQueue _)]
  rw [← hclear]
  rfl

lemma link_prepareStart : s.prepareStart.link = s.link := by
  unfold Service.prepareStart
  split <;> rfl

lemma link_endTranscript (isFinal : Bool) : (endTranscript s isFinal).link = s.link := by
  unfold endTranscript
  split <;> rfl

lemma sendWs_link (payload : Payload) (replay startAfter : Bool) (pc : SendWsPc)
    (signal : ServiceSignal) :
    (sendWs config s payload replay startAfter pc signal).shared.link = s.link := by
  cases pc with
  | entry =>
    simp only [sendWs]
    split
    · rfl
    · exact link_hand s _ payload
  | sending connection handed =>
    rcases signal with v | (_ | e) <;> simp only [sendWs] <;> (try split) <;> rfl
  | reconnecting =>
    cases signal with
    | value v =>
      simp only [sendWs]
      split
      · split
        · rfl
        · exact link_hand s _ payload
      · rfl
    | failed e => rfl
  | resending connection handed => simp [sendWs]

lemma handleServerPayload_link (payload : Dict) (pc : HandlePc) (signal : ServiceSignal) :
    (handleServerPayload config s payload pc signal).shared.link = s.link := by
  cases pc with
  | entry =>
    have hrecord : ∀ isFinal generation, (if isFinal = true then
        s.recordFinalTranscriptReceived generation else s).link = s.link := by
      intro isFinal generation
      split
      · exact link_recordFinal s generation
      · rfl
    simp only [handleServerPayload]
    split
    case h_4 => split <;> rfl
    case h_5 event generation hevent =>
      split
      · rfl
      · simp only [pushTranscript]
        split
        · exact hrecord _ _
        · exact (link_endTranscript _ _).trans (hrecord _ _)
    case h_7 => exact link_releaseFinalWaiters s _
    case h_8 => exact link_releaseFinalWaiters s _
    all_goals rfl
  | ponging reply => simp [handleServerPayload]
  | pushing isFinal =>
    cases signal with
    | value v => exact link_endTranscript s isFinal
    | failed e => rfl

lemma finalizeCurrentUtterance_link (pc : FinalizePc) (signal : ServiceSignal) :
    (finalizeCurrentUtterance config s pc signal).shared.link = s.link := by
  by_cases hquiet : (Frame.finalizeCurrentUtterance pc).touches = false
  · exact link_congr (control_frameMove config 0 0 s hquiet signal)
  cases pc with
  | joining generation drained =>
    cases signal with
    | value v =>
      simp only [finalizeCurrentUtterance, Service.setdefaultFinal]
      split
      · split <;> rfl
      · rfl
    | failed e => rfl
  | sending generation event =>
    cases signal with
    | value v => simp only [finalizeCurrentUtterance]; split <;> rfl
    | failed e => rfl
  | waiting generation event =>
    rcases signal with v | (_ | (_ | _ | _ | _ | _ | _)) <;> rfl
  | disconnecting generation event => cases signal <;> rfl
  | _ => exact absurd rfl hquiet

/-- **The other frames leave the link alone.** -/
theorem link_frameMove {frame : Frame} (hplain : frame.links = false) (signal : ServiceSignal) :
    (frameMove config me next s frame signal).shared.link = s.link := by
  by_cases hquiet : frame.touches = false
  · exact link_congr (control_frameMove config me next s hquiet signal)
  cases frame with
  | ensureConnection pc => cases pc <;> first | exact absurd rfl hquiet | cases hplain
  | closeSocketAndTasks cancelCurrent pc => cases hplain
  | ensureUtteranceStarted pc => cases pc <;> first | exact absurd rfl hquiet | cases hplain
  | sendWs payload replay startAfter pc => exact sendWs_link config s payload _ _ pc signal
  | reconnect startUtterance pc => cases pc <;> first | exact absurd rfl hquiet | cases hplain
  | disconnect pc => cases pc <;> first | exact absurd rfl hquiet | cases hplain
  | receiveLoop pc =>
    cases pc with
    | receiving connection =>
      rcases signal with v | (_ | e)
      · simp only [frameMove, receiveLoop]
        split
        · exact (link_congr (receiveLoopError_control config _)).trans rfl
        · rfl
      · rfl
      · exact link_congr (receiveLoopError_control config s)
    | _ => exact absurd rfl hquiet
  | handleServerPayload payload pc => exact handleServerPayload_link config s payload pc signal
  | startCurrentUtterance pc =>
    cases pc with
    | entry => simp only [frameMove, startCurrentUtterance]; split <;> rfl
    | _ => exact absurd rfl hquiet
  | finalizeCurrentUtterance pc => exact finalizeCurrentUtterance_link config s pc signal
  | cancelCurrentUtterance pc =>
    cases pc with
    | entry =>
      simp only [frameMove, cancelCurrentUtterance]
      split <;> exact link_cancelUtterance s
    | _ => exact absurd rfl hquiet
  | _ => exact absurd rfl hquiet

/-! ## The locks -/

/-- `_connect_lock`. -/
def connectLock : Coroutines.Lock Service Frame Call where
  holder := Service.connectLock
  owner := .ensureConnection
  asks f := f = .ensureConnection .locking
  inside f := f = .ensureConnection .connecting

/-- The start handshake under `_start_lock`. -/
def EnsureUtterancePc.inside : EnsureUtterancePc → Prop
  | .entry => False
  | .locking => False
  | _ => True

/-- `_start_lock`. -/
def startLock : Coroutines.Lock Service Frame Call where
  holder := Service.startLock
  owner := .ensureUtteranceStarted
  asks f := f = .ensureUtteranceStarted .locking
  inside f := ∃ pc : EnsureUtterancePc, pc.inside ∧ f = .ensureUtteranceStarted pc

variable {config me next s}

/-- A frame move of another method does nothing to a lock. -/
lemma idle_of_other {L : Coroutines.Lock Service Frame Call} {frame : Frame}
    {signal : ServiceSignal}
    (hfn : ∀ f, L.inside f → f.call = L.owner) (hcall : frame.call ≠ L.owner)
    (hholder : L.holder (frameMove config me next s frame signal).shared = L.holder s) :
    L.Moves me frame signal s (frameMove config me next s frame signal) := by
  refine .idle hholder fun g hrest hinside => absurd ?_ hcall
  rw [← hfn g hinside]
  exact ((service_lawful config).fn_rest hrest).symm

/-- **`_ensure_connection` connects under `_connect_lock`.** -/
theorem connectLock_obeyed : connectLock.Obeyed (service config) where
  fn_inside h := h ▸ rfl
  pending_asks h := h ▸ rfl
  awaited_asks h := h ▸ rfl
  entry_asks h := by
    rw [h]
    rintro ⟨⟩
  enter_inside k h := by cases k <;> cases h
  answers {s f v} hasks h := by
    rw [hasks] at h
    exact Option.isNone_iff_eq_none.mp h
  moves {t n f signal s} := by
    by_cases hcall : f.call = .ensureConnection
    · cases f <;> cases hcall
      rename_i pc
      cases pc with
      | entry =>
        refine .idle ?_ fun g hrest hinside => ?_
        · simp only [service, frameMove, ensureConnection]
          split <;> rfl
        · obtain rfl := hinside
          simp only [service, frameMove, ensureConnection] at hrest
          split at hrest <;> cases hrest
      | locking =>
        cases signal with
        | value v =>
          by_cases hwebsocket : s.websocket.isSome = true
          · refine .idle ?_ fun g hrest hinside => ?_
            · simp [service, frameMove, ensureConnection, hwebsocket, Move.ret]
            · simp [service, frameMove, ensureConnection, hwebsocket, Move.ret,
                Coroutines.Command.rest] at hrest
          · refine .acquire rfl rfl ?_
            simp [service, frameMove, ensureConnection, hwebsocket, Move.await, connectLock]
        | failed e => exact .idle rfl (by rintro g ⟨⟩)
      | connecting =>
        refine .release rfl fun g hrest => ?_
        cases signal <;> cases hrest
    · refine idle_of_other (fun f h => h ▸ rfl) hcall ?_
      by_cases hlinks : f.links = false
      · exact congrArg Link.connectLock (link_frameMove config t n s hlinks signal)
      cases f with
      | ensureConnection pc => exact absurd rfl hcall
      | closeSocketAndTasks cancelCurrent pc =>
        have hkept := congrArg Service.connectLock
          (closeSocketAndTasks_kept t s cancelCurrent pc signal)
        exact hkept
      | ensureUtteranceStarted pc =>
        cases pc with
        | connecting =>
          cases signal with
          | value v => exact congrArg Link.connectLock (link_prepareStart s)
          | failed e => rfl
        | _ =>
          cases signal <;> simp only [frameMove, ensureUtteranceStarted] <;> (try split) <;> rfl
      | reconnect startUtterance pc =>
        cases pc <;> first | exact absurd rfl hlinks | (cases signal <;> rfl)
      | disconnect pc =>
        cases pc with
        | entry => exact absurd rfl hlinks
        | closing =>
          cases signal with
          | value v => exact congrArg Link.connectLock (link_disconnect s)
          | failed e => rfl
      | _ => exact absurd rfl hlinks
  outside _ _ := rfl

/-- **`_ensure_utterance_started` does its handshake under `_start_lock`.** -/
theorem startLock_obeyed : startLock.Obeyed (service config) where
  fn_inside h := by
    obtain ⟨pc, -, rfl⟩ := h
    rfl
  pending_asks h := h ▸ rfl
  awaited_asks h := h ▸ rfl
  entry_asks h := by
    rw [h]
    rintro ⟨⟩
  enter_inside k h := by
    obtain ⟨pc, hpc, heq⟩ := h
    cases k <;> cases heq
    exact hpc
  answers {s f v} hasks h := by
    rw [hasks] at h
    exact Option.isNone_iff_eq_none.mp h
  moves {t n f signal s} := by
    by_cases hcall : f.call = .ensureUtteranceStarted
    · cases f <;> cases hcall
      rename_i pc
      cases pc with
      | entry =>
        refine .idle ?_ fun g hrest hinside => ?_
        · simp only [service, frameMove, ensureUtteranceStarted]
          split <;> rfl
        · obtain ⟨pc, hpc, rfl⟩ := hinside
          simp only [service, frameMove, ensureUtteranceStarted] at hrest
          split at hrest <;> cases hrest
          exact hpc.elim
      | locking =>
        cases signal with
        | value v =>
          by_cases hactive : s.utteranceActive = true
          · refine .idle ?_ fun g hrest hinside => ?_
            · simp [service, frameMove, ensureUtteranceStarted, hactive, Move.ret]
            · simp [service, frameMove, ensureUtteranceStarted, hactive, Move.ret,
                Coroutines.Command.rest] at hrest
          · refine .acquire rfl rfl ?_
            simp [service, frameMove, ensureUtteranceStarted, hactive, Move.call, startLock]
        | failed e => exact .idle rfl (by rintro g ⟨⟩)
      | connecting =>
        cases signal with
        | value v =>
          exact .idle (congrArg Link.startLock (link_prepareStart s)) fun _ _ _ =>
            ⟨.connecting, trivial, rfl⟩
        | failed e => exact .release ⟨.connecting, trivial, rfl⟩ (by rintro g ⟨⟩)
      | sending generation =>
        cases signal with
        | value v => exact .idle rfl fun _ _ _ => ⟨.sending generation, trivial, rfl⟩
        | failed e => exact .release ⟨.sending generation, trivial, rfl⟩ (by rintro g ⟨⟩)
      | readying event =>
        refine .release ⟨.readying event, trivial, rfl⟩ fun g hrest => ?_
        cases signal <;> cases hrest
    · refine idle_of_other (fun f h => ?_) hcall ?_
      · obtain ⟨pc, -, rfl⟩ := h
        rfl
      by_cases hlinks : f.links = false
      · exact congrArg Link.startLock (link_frameMove config t n s hlinks signal)
      cases f with
      | ensureUtteranceStarted pc => exact absurd rfl hcall
      | ensureConnection pc =>
        cases pc <;> cases signal <;> simp only [frameMove, ensureConnection] <;> (try split) <;>
          rfl
      | closeSocketAndTasks cancelCurrent pc =>
        have hkept := congrArg Service.startLock
          (closeSocketAndTasks_kept t s cancelCurrent pc signal)
        exact hkept
      | reconnect startUtterance pc =>
        cases pc <;> first | exact absurd rfl hlinks | (cases signal <;> rfl)
      | disconnect pc =>
        cases pc with
        | entry => exact absurd rfl hlinks
        | closing =>
          cases signal with
          | value v => exact congrArg Link.startLock (link_disconnect s)
          | failed e => rfl
      | _ => exact absurd rfl hlinks
  outside _ _ := rfl

end RtcAsr.Plugin
