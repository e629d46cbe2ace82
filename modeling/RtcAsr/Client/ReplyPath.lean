import RtcAsr.Client.LocalSttClient
import RtcAsr.Server.StreamRule

/-!
# The way of a reply

A request that waits for a reply is on its way to the server, held by the receive task, worked on by
the handler, or its reply is in the queue of the stream or among the events that were written.  No
step of the server adds a reply or changes the order of the replies it owes (`step_yields`).
-/

namespace RtcAsr

/-! ## Replies -/

/-- What tells a reply from the others. -/
inductive Reply
  | ready
  | pong (pingId : Option String)
  | closed
  deriving DecidableEq

/-- The reply to a call. -/
def ClientCall.reply : ClientCall → Reply
  | .start _ => .ready
  | .ping message => .pong message.pingId
  | .close => .closed

/-- The reply a message asks for. -/
def ClientEvent.reply? : ClientEvent → Option Reply
  | .start _ => some .ready
  | .ping message => some (.pong message.pingId)
  | .close => some .closed
  | _ => none

/-- The reply an event is. -/
def Event.reply? : Event → Option Reply
  | .ready _ => some .ready
  | .pong message => some (.pong message.pingId)
  | .closed => some .closed
  | _ => none

/-- The reply that follows a stop. -/
def AfterStop.replies : AfterStop → List Reply
  | .sendClosed => [.closed]
  | _ => []

/-- The reply the handler works on. -/
def HandlerPc.replies : HandlerPc → List Reply
  | .startingDecoder => [.ready]
  | .stoppingWorker k => k.replies
  | .cancellingDecoder k => k.replies
  | .closingDecoder k _ => k.replies
  | .stoppingSender k => k.replies
  | _ => []

namespace Conn

/-- The replies in the queue of the active stream. -/
def queuedReplies (c : Conn) : List Reply :=
  match c.stream with
  | none => []
  | some r => r.outgoingEvents.filterMap Event.reply?

/-- The reply the received message asks for. -/
def heldReplies (c : Conn) : List Reply := c.receive.held.filterMap ClientEvent.reply?

/-- The replies the server owes, in their order. -/
def owed (c : Conn) : List Reply := c.queuedReplies ++ (c.pc.replies ++ c.heldReplies)

/-- The server went on from where it had written `sent`: it writes one event at most, and the reply
that is written with those it owes are among the replies given. -/
def Yields (sent : List Event) (replies : List Reply) (c : Conn) : Prop :=
  ∃ new, c.sent = sent ++ new ∧ new.length ≤ 1 ∧
    (new.filterMap Event.reply? ++ c.owed).Sublist replies

variable {env : ServerEnv} {c c' : Conn} {r : StreamRuntime}

/-- Nothing is written. -/
lemma yields_of_owed {sent : List Event} {replies : List Reply} (hsent : c.sent = sent)
    (h : c.owed.Sublist replies) : Yields sent replies c :=
  ⟨[], by rw [hsent, List.append_nil], Nat.zero_le _, h⟩

/-- One event is written. -/
lemma yields_of_event {sent : List Event} {replies : List Reply} {e : Event}
    (hsent : c.sent = sent ++ [e]) (h : (e.reply?.toList ++ c.owed).Sublist replies) :
    Yields sent replies c := by
  refine ⟨[e], hsent, le_rfl, ?_⟩
  cases he : e.reply? <;> simpa [he] using h

/-- More replies may be owed. -/
lemma Yields.mono {sent : List Event} {replies replies' : List Reply}
    (h : Yields sent replies c) (hle : replies.Sublist replies') : Yields sent replies' c := by
  obtain ⟨new, hsent, hlength, hsub⟩ := h
  exact ⟨new, hsent, hlength, hsub.trans hle⟩

/-! ## The handler -/

/-- The end of `stop_runtime` owes the reply that follows it. -/
lemma afterStop_yields (c : Conn) (k : AfterStop) :
    Yields c.sent (k.replies ++ c.heldReplies) (c.afterStop k) := by
  cases k with
  | continueLoop => exact yields_of_owed rfl (by simp [owed, queuedReplies, heldReplies, afterStop,
      listen, HandlerPc.replies, ReceiveTask.held])
  | sendClosed =>
    refine yields_of_event (e := .closed) rfl ?_
    simp [owed, queuedReplies, heldReplies, afterStop, HandlerPc.replies, Event.reply?,
      AfterStop.replies]
  | exit =>
    refine yields_of_owed rfl ?_
    simp [owed, queuedReplies, heldReplies, afterStop, HandlerPc.replies, AfterStop.replies]
  | sendError message =>
    refine yields_of_event (e := .error message) rfl ?_
    simp [owed, queuedReplies, heldReplies, afterStop, HandlerPc.replies, Event.reply?,
      AfterStop.replies]

/-- `stop_runtime` begins. -/
lemma beginStop_yields (c : Conn) (k : AfterStop) :
    Yields c.sent (c.queuedReplies ++ (k.replies ++ c.heldReplies)) (c.beginStop k) := by
  unfold beginStop
  cases hs : c.stream with
  | none => exact (afterStop_yields c k).mono (List.sublist_append_right _ _)
  | some r =>
    refine yields_of_owed rfl ?_
    simp [owed, queuedReplies, heldReplies, HandlerPc.replies, hs, StreamRuntime.close]

/-- An exception owes no reply of its own. -/
lemma raise_yields (c : Conn) (e : Exn) :
    Yields c.sent (c.queuedReplies ++ c.heldReplies) (c.raise e) := by
  unfold raise
  split
  · exact beginStop_yields c .exit
  · exact beginStop_yields { c with services := _ } (.sendError _)
  · exact beginStop_yields c (.sendError _)
  · exact beginStop_yields { c with services := _ } (.sendError _)

/-- An exception owes no more than before. -/
lemma raise_yields_owed (c : Conn) (e : Exn) : Yields c.sent c.owed (c.raise e) := by
  refine (raise_yields c e).mono ?_
  rw [owed]
  exact (List.Sublist.refl _).append (List.sublist_append_right _ _)

/-- The metadata of the queue leaves a reply what it is. -/
@[simp] lemma reply?_withQueueMetadata (depth highWater : ℕ) (e : Event) :
    (StreamRuntime.withQueueMetadata depth highWater e).reply? = e.reply? := by
  cases e <;> rfl

/-- An event that is enqueued is owed last. -/
lemma replies_enqueueEvent (r : StreamRuntime) (e : Event) :
    (r.enqueueEvent e).outgoingEvents.filterMap Event.reply? =
      r.outgoingEvents.filterMap Event.reply? ++ e.reply?.toList := by
  unfold StreamRuntime.enqueueEvent
  cases h : e.reply? <;> simp [h]

/-- The handler acts on a message and owes its reply last. -/
lemma handle_yields (hphase : c.Phase) (hpc : c.pc = .waiting) (hreceive : c.receive = .absent)
    (e : ClientEvent) :
    Yields c.sent (c.queuedReplies ++ e.reply?.toList) (c.handle env e) := by
  have hheld : c.heldReplies = [] := by rw [heldReplies, hreceive]; rfl
  have hraise : ∀ error, Yields c.sent (c.queuedReplies ++ e.reply?.toList) (c.raise error) := by
    intro error
    refine (raise_yields c error).mono ?_
    rw [hheld, List.append_nil]
    exact List.sublist_append_left _ _
  cases e with
  | start config =>
    simp only [handle]
    split
    · exact hraise _
    · next hnone =>
      split
      · exact hraise _
      · refine yields_of_owed rfl ?_
        simp [owed, queuedReplies, heldReplies, hreceive, hnone, HandlerPc.replies,
          ReceiveTask.held, ClientEvent.reply?]
  | audio chunk =>
    simp only [handle]
    split
    · exact hraise _
    · next r hr =>
      split
      · exact hraise _
      · refine yields_of_owed rfl ?_
        simp [owed, queuedReplies, heldReplies, hr, HandlerPc.replies, listen, ReceiveTask.held,
          ClientEvent.reply?, StreamRuntime.appendAudio, StreamRuntime.noteAudio]
  | finalize =>
    simp only [handle]
    split
    · exact hraise _
    · next r hr =>
      split_ifs
      · exact hraise _
      · refine yields_of_owed rfl ?_
        simp [owed, queuedReplies, heldReplies, hr, hreceive, HandlerPc.replies, ReceiveTask.held,
          ClientEvent.reply?, StreamRuntime.requestFinalize]
  | cancel =>
    simp only [handle]
    split
    · exact hraise _
    · next r hr =>
      refine yields_of_owed rfl ?_
      simp [owed, queuedReplies, heldReplies, hr, hreceive, HandlerPc.replies, ReceiveTask.held,
        ClientEvent.reply?, replies_enqueueEvent, Event.reply?, StreamRuntime.requestCancel]
  | ping message =>
    simp only [handle]
    split
    · next r hr =>
      split
      · next hsender =>
        have hfit : r.Active ∧ r.finalizeRequested = false := by
          simpa [Phase, hr, hpc, HandlerPc.Fits] using hphase
        exact absurd hsender hfit.1.senderStarted
      · refine yields_of_owed rfl ?_
        simp [owed, queuedReplies, heldReplies, hr, HandlerPc.replies, listen, ReceiveTask.held,
          ClientEvent.reply?, replies_enqueueEvent, Event.reply?]
    · next hnone =>
      refine yields_of_event (e := .pong message) rfl ?_
      simp [owed, queuedReplies, heldReplies, hnone, hreceive, HandlerPc.replies, ReceiveTask.held,
        ClientEvent.reply?, Event.reply?]
  | pong message =>
    refine yields_of_owed rfl ?_
    simp [handle, owed, queuedReplies, heldReplies, HandlerPc.replies, listen, ReceiveTask.held,
      ClientEvent.reply?]
  | close =>
    refine (beginStop_yields c .sendClosed).mono ?_
    rw [hheld]
    simp [AfterStop.replies, ClientEvent.reply?]

/-- The handler wakes up. -/
lemma wake_yields (hphase : c.Phase) (hpc : c.pc = .waiting) (h : c.wake env = some c') :
    Yields c.sent c.owed c' := by
  have howed : c.owed = c.queuedReplies ++ c.heldReplies := by
    rw [owed, hpc]
    rfl
  have hraise : ∀ e, Yields c.sent c.owed (({ c with receive := .absent } : Conn).raise e) := by
    intro e
    refine (raise_yields { c with receive := .absent } e).mono ?_
    rw [howed]
    simp [queuedReplies, heldReplies, ReceiveTask.held]
  rw [howed] at hraise ⊢
  unfold wake at h
  dsimp only at h
  split at h
  · split at h <;> cases h
    · exact hraise _
    · refine yields_of_owed rfl ?_
      simp [owed, queuedReplies, heldReplies, HandlerPc.replies, ReceiveTask.held]
  · split at h <;> cases h
    · exact hraise _
    · exact hraise _
  · split at h <;> cases h
    · next e hreceive =>
      have hheld : c.heldReplies = e.reply?.toList := by
        rw [heldReplies, hreceive]
        cases he : e.reply? <;> simp [ReceiveTask.held, he]
      rw [hheld]
      exact handle_yields (c := { c with receive := .absent, handled := c.handled ++ [e] }) hphase
        hpc rfl e
    · exact hraise _

/-- `start_stream` ends. -/
lemma startedDecoder_yields (hr : r.Fresh) (hs : c.stream = some r) (hpc : c.pc = .startingDecoder)
    (result : Except Exn Bool) : Yields c.sent c.owed (c.startedDecoder r result) := by
  have hevents : r.outgoingEvents = [] := by rw [hr]
  cases result with
  | error e => exact raise_yields_owed c e
  | ok decoder =>
    refine yields_of_event rfl ?_
    simp [startedDecoder, owed, queuedReplies, heldReplies, hs, hpc, hevents, HandlerPc.replies,
      Event.reply?, StreamRuntime.startTasks]

/-- A write of the handler ends. -/
lemma handlerSent_yields {result : Except Exn Unit} (h : c.handlerSent result = some c') :
    Yields c.sent c.owed c' := by
  have hlisten : Yields c.sent c.owed c.listen := by
    refine yields_of_owed rfl ?_
    simp [owed, listen, queuedReplies, heldReplies, HandlerPc.replies, ReceiveTask.held]
  have hfinished : Yields c.sent c.owed { c with pc := .finished } := by
    refine yields_of_owed rfl ?_
    simp only [owed, queuedReplies, heldReplies, HandlerPc.replies]
    exact (List.Sublist.refl _).append (List.sublist_append_right _ _)
  unfold handlerSent at h
  split at h <;> cases h
  · exact hlisten
  · exact hlisten
  · exact hfinished
  · exact raise_yields_owed c _
  · exact raise_yields_owed c _
  · exact raise_yields_owed c _
  · exact hfinished

/-- The handler moves to a position that owes no more. -/
lemma yields_of_pc {pc : HandlerPc} (h : pc.replies.Sublist c.pc.replies) :
    Yields c.sent c.owed { c with pc := pc } := by
  refine yields_of_owed rfl ?_
  simp only [owed, queuedReplies, heldReplies]
  exact (List.Sublist.refl _).append (h.append (List.Sublist.refl _))

/-- The decoder is closed on the way of a stop. -/
lemma closeDecoder_yields (hs : c.stream = some r) {k : AfterStop}
    (hpc : c.pc = .stoppingWorker k) :
    Yields c.sent c.owed (c.closeDecoder r k) := by
  unfold closeDecoder
  split_ifs
  · exact yields_of_pc (by rw [hpc]; exact List.Sublist.refl _)
  · refine yields_of_owed rfl ?_
    simp [owed, queuedReplies, heldReplies, hs, hpc, HandlerPc.replies, StreamRuntime.dropDecoder]
  · refine yields_of_owed rfl ?_
    simp [owed, queuedReplies, heldReplies, hs, hpc, HandlerPc.replies, StreamRuntime.dropDecoder]

/-- The handler's wait ends. -/
lemma proceed_yields (hs : c.stream = some r) (h : c.proceed r = some c') :
    Yields c.sent c.owed c' := by
  have hstop : ∀ k : AfterStop, k.replies = [] → Yields c.sent c.owed (c.beginStop k) := by
    intro k hk
    refine (beginStop_yields c k).mono ?_
    rw [hk, owed]
    exact (List.Sublist.refl _).append (List.sublist_append_right _ _)
  have hlisten : Yields c.sent c.owed ({ c with stream := none } : Conn).listen := by
    refine yields_of_owed rfl ?_
    simp [owed, listen, queuedReplies, heldReplies, HandlerPc.replies, ReceiveTask.held]
  unfold proceed at h
  split at h
  · next hpc =>
    split at h <;> cases h
    · exact yields_of_pc (List.nil_sublist _)
    · exact raise_yields_owed c _
  · split_ifs at h
    cases h
    exact yields_of_pc (List.nil_sublist _)
  · split at h <;> cases h
    · exact raise_yields_owed c _
    · exact hlisten
    · exact hlisten
  · split_ifs at h
    cases h
    exact hstop _ rfl
  · split_ifs at h
    cases h
    exact hstop _ rfl
  · next hpc =>
    split at h <;> cases h <;> exact closeDecoder_yields hs hpc
  · next k hpc =>
    split at h <;> cases h
    refine (afterStop_yields c k).mono ?_
    rw [owed, hpc]
    exact List.sublist_append_right _ _
  · cases h

/-- An exception in `stop_runtime`. -/
lemma raiseInStop_yields (c : Conn) (k : AfterStop) (e : Exn) :
    Yields c.sent c.owed (c.raiseInStop k e) := by
  unfold raiseInStop
  split_ifs
  · exact raise_yields_owed c e
  · exact yields_of_pc (List.nil_sublist _)

/-- A decoder call of the handler ends. -/
lemma handlerDecoderClosed_yields {result : Except Exn Unit}
    (h : c.handlerDecoderClosed result = some c') : Yields c.sent c.owed c' := by
  unfold handlerDecoderClosed at h
  split at h <;> cases h
  · next hpc => exact yields_of_pc (by rw [hpc]; exact List.Sublist.refl _)
  · exact raiseInStop_yields c _ _
  · exact raiseInStop_yields c _ _

/-- A step of the worker or of the sender. -/
lemma task_yields {r' : StreamRuntime} {a : StreamAct} (hs : c.stream = some r)
    (h : r.step env a = some r') :
    Yields c.sent c.owed { c with
      stream := some r'
      services := afterDecode c.services a
      sent := c.sent ++ r.writes a } := by
  cases ha : a.isSender with
  | false =>
    have hwrites : r.writes a = [] := by cases a <;> first | rfl | cases ha
    have hevents : r'.outgoingEvents.filterMap Event.reply? =
        r.outgoingEvents.filterMap Event.reply? := by
      cases (StreamRuntime.step_emits h ha).2 with
      | quiet heq => exact congrArg (fun q => q.events.filterMap Event.reply?) heq
      | refused _ heq => exact congrArg (fun q => q.events.filterMap Event.reply?) heq
      | emitted event _ _ _ _ heq =>
        have hevents := congrArg QueueView.events heq
        rw [show r'.outgoingEvents = r.outgoingEvents ++ [.transcript event] from hevents]
        simp [Event.reply?]
    refine yields_of_owed (by simp [hwrites]) ?_
    simp [owed, queuedReplies, heldReplies, hs, hevents]
  | true =>
    cases a with
    | senderTake =>
      simp only [StreamRuntime.step, StreamRuntime.senderTake] at h
      split at h <;> cases h
      next e es _ hevents =>
      refine yields_of_event (e := e) (by simp [StreamRuntime.writes, hevents]) ?_
      simp only [owed, queuedReplies, heldReplies, hs, hevents]
      cases he : e.reply? <;> simp [he]
    | senderSent result =>
      simp only [StreamRuntime.step, StreamRuntime.senderSent] at h
      split at h <;> cases h <;> refine yields_of_owed (by simp [StreamRuntime.writes]) ?_ <;>
        simp [owed, queuedReplies, heldReplies, hs]
    | senderExit =>
      simp only [StreamRuntime.step, StreamRuntime.senderExit] at h
      split at h
      · split_ifs at h
        cases h
        refine yields_of_owed (by simp [StreamRuntime.writes]) ?_
        simp [owed, queuedReplies, heldReplies, hs]
      · cases h
    | _ => cases ha

/-! ## The steps -/

/-- **No step adds a reply.** A step of the server that is no receipt writes one event at most, and
what it writes and owes after it are replies it owed before, in the same order. -/
theorem step_yields {a : Act} (hphase : c.Phase) (ha : ∀ e, a ≠ .receive (.ok e))
    (h : c.step env a = some c') : Yields c.sent c.owed c' := by
  cases a with
  | receive result =>
    simp only [step] at h
    split at h <;> cases h
    next hreceive =>
    cases result with
    | ok e => exact absurd rfl (ha e)
    | error e =>
      refine yields_of_owed rfl ?_
      simp [owed, queuedReplies, heldReplies, hreceive, ReceiveTask.held]
  | wake =>
    simp only [step] at h
    split at h
    · next hpc => exact wake_yields hphase hpc h
    · cases h
  | startedDecoder result =>
    simp only [step] at h
    split at h <;> cases h
    next r hpc hs =>
    have hfresh : r.Fresh := by simpa [Phase, hs, hpc, HandlerPc.Fits] using hphase
    exact startedDecoder_yields hfresh hs hpc result
  | handlerSent result => exact handlerSent_yields h
  | proceed =>
    obtain ⟨r, hs, h⟩ := Option.bind_eq_some_iff.mp h
    exact proceed_yields hs h
  | handlerDecoderCanceled result =>
    obtain ⟨r, hs, h⟩ := Option.bind_eq_some_iff.mp h
    unfold handlerDecoderCanceled at h
    split at h <;> cases h
    next hpc =>
    refine yields_of_owed rfl ?_
    simp [owed, queuedReplies, heldReplies, hs, hpc, HandlerPc.replies, StreamRuntime.callClose]
  | handlerDecoderClosed result => exact handlerDecoderClosed_yields h
  | senderCancel =>
    simp only [step] at h
    split_ifs at h
    obtain ⟨r, hs, h⟩ := Option.bind_eq_some_iff.mp h
    obtain ⟨r', hr', rfl⟩ := Option.map_eq_some_iff.mp h
    obtain ⟨_, rfl⟩ := StreamRuntime.senderCancel_eq hr'
    refine yields_of_owed rfl ?_
    simp [owed, queuedReplies, heldReplies, hs]
  | task a =>
    obtain ⟨r, hs, h⟩ := Option.bind_eq_some_iff.mp h
    obtain ⟨r', hr', rfl⟩ := Option.map_eq_some_iff.mp h
    exact task_yields hs hr'
  | modelLoaded =>
    cases h
    exact yields_of_owed rfl (List.Sublist.refl _)

/-- A receipt owes the reply the message asks for last. -/
lemma receive_owed {e : ClientEvent} (h : c.step env (.receive (.ok e)) = some c') :
    c'.sent = c.sent ∧ c'.owed = c.owed ++ e.reply?.toList := by
  simp only [step] at h
  split at h <;> cases h
  next hreceive =>
  refine ⟨rfl, ?_⟩
  simp only [owed, queuedReplies, heldReplies, hreceive, ReceiveTask.held, List.filterMap_nil,
    List.append_nil, List.append_assoc]
  cases he : e.reply? <;> simp [he]

end Conn
end RtcAsr
