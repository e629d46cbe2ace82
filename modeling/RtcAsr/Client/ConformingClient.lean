import RtcAsr.Client.ReplyPath
import RtcAsr.Server.AutoFinal
import RtcAsr.Server.Delivery
import RtcAsr.Server.EventOrder

/-!
# Auto-final and a conforming client

A client that sends audio and `finalize` only until it has read the end of its stream, and the next
start only then.  The messages are on their way while the server ends the stream on its own, so the
handler can find them without a stream, or together with the end of the worker.  In every run no
frame is answered with an error and no start is lost exactly when the handler meets every frame with
its stream still active and fit to take it, and no start together with the end of the worker
(`accepted_iff`).  A start is never refused because of a stream that is still active: the ends of
streams the client has read are counted against the streams the server has created.
-/

namespace RtcAsr

/-! ## The ends of streams -/

/-- The event is the last one of its stream. -/
def Event.endsStream : Event → Bool
  | .transcript e => e.isFinal
  | .canceled _ => true
  | _ => false

/-- The streams that have ended. -/
def endedStreams (es : List Event) : ℕ := es.countP Event.endsStream

/-- The message starts a stream. -/
def ClientEvent.isStart : ClientEvent → Bool
  | .start _ => true
  | _ => false

/-- The message is a frame of a stream: audio or `finalize`. -/
def ClientEvent.isFrame : ClientEvent → Bool
  | .audio _ => true
  | .finalize => true
  | _ => false

/-- The starts among the messages. -/
def starts (es : List ClientEvent) : ℕ := es.countP ClientEvent.isStart

lemma endedStreams_append (es fs : List Event) :
    endedStreams (es ++ fs) = endedStreams es + endedStreams fs := List.countP_append

lemma starts_append (es fs : List ClientEvent) : starts (es ++ fs) = starts es + starts fs :=
  List.countP_append

/-- The streams that have ended have different numbers. -/
def GrammarState.Bounds (n : ℕ) : GrammarState → Prop
  | .idle last => n ≤ last
  | .block streamId _ => n < streamId
  | .ended => True

/-- The number of the last stream bounds the streams that have ended. -/
lemma bounds_of_accepted {es : List Event} {g : GrammarState}
    (h : eventGrammar.run (.idle 0) es = some g) : g.Bounds (endedStreams es) := by
  induction es using List.reverseRecOn generalizing g with
  | nil =>
    obtain rfl := Option.some.inj h
    exact Nat.le_refl 0
  | append_singleton es e ih =>
    obtain ⟨t, hrun, hstep⟩ := StepSystem.run_concat_eq_some.mp h
    have hbounds := ih hrun
    have hcount : endedStreams (es ++ [e]) =
        endedStreams es + if e.endsStream = true then 1 else 0 :=
      (endedStreams_append es [e]).trans (congrArg _ (by simp [endedStreams, List.countP_cons]))
    rw [hcount]
    change t.next e = some g at hstep
    cases e with
    | pong message =>
      obtain rfl := Option.some.inj hstep
      exact hbounds
    | closed =>
      obtain rfl := Option.some.inj hstep
      trivial
    | error message =>
      obtain rfl := Option.some.inj hstep
      trivial
    | ready e =>
      cases t with
      | idle last =>
        simp only [GrammarState.next] at hstep
        split_ifs at hstep with hid
        obtain rfl := Option.some.inj hstep
        exact Nat.lt_of_le_of_lt hbounds hid
      | _ => cases hstep
    | transcript e =>
      cases t with
      | block streamId revision =>
        simp only [GrammarState.next] at hstep
        split_ifs at hstep with hid hfinal
        · obtain rfl := Option.some.inj hstep
          simp only [Event.endsStream, hfinal, if_true]
          exact hbounds
        · obtain rfl := Option.some.inj hstep
          simp only [Event.endsStream, hfinal]
          exact hbounds
      | _ => cases hstep
    | canceled e =>
      cases t with
      | block streamId revision =>
        simp only [GrammarState.next] at hstep
        split_ifs at hstep with hid
        obtain rfl := Option.some.inj hstep
        exact hbounds
      | _ => cases hstep

namespace Conn

variable {env : ServerEnv} {c c' : Conn}

/-- While the worker of a stream runs, the stream is one the server has created and no ended one. -/
lemma endedStreams_lt {r : StreamRuntime} (hphase : c.Phase) (hordered : c.Ordered)
    (hpc : c.pc = .waiting) (hs : c.stream = some r) (hw : r.worker.done = false) :
    endedStreams c.sent + 1 < c.nextStreamId := by
  have hfits : r.Active ∧ r.finalizeRequested = false := by
    simpa [Phase, hs, hpc, HandlerPc.Fits] using hphase
  have hreturned : r.worker ≠ .returned := by
    intro h
    rw [h] at hw
    cases hw
  have hopen : r.queue.ended = false := by
    simp only [QueueView.ended, StreamRuntime.queue, hfits.1.notFinal hreturned, hfits.1.kept,
      Bool.or_self]
  rw [Ordered, hs] at hordered
  obtain ⟨hid, hqueue, -⟩ := hordered
  cases hqueue with
  | fresh habsent => exact absurd habsent hfits.1.started
  | @started revision _ _ _ _ _ hrun _ =>
    have hbounds := bounds_of_accepted hrun
    simp only [QueueView.grammar, hopen] at hbounds
    have hlt : endedStreams (c.sent ++ r.outgoingEvents) < r.session.streamId := hbounds
    rw [endedStreams_append] at hlt
    omega

/-! ## The streams of a connection -/

/-- What a connection counts: the number of the next stream, the messages the handler acted on, and
the messages received. -/
def progress (c : Conn) : ℕ × List ClientEvent × List ClientEvent :=
  (c.nextStreamId, c.handled, c.taken)

lemma progress_afterStop (c : Conn) (k : AfterStop) : (c.afterStop k).progress = c.progress := by
  cases k <;> rfl

lemma progress_beginStop (c : Conn) (k : AfterStop) : (c.beginStop k).progress = c.progress := by
  unfold beginStop
  split
  · exact progress_afterStop c k
  · rfl

lemma progress_raise (c : Conn) (e : Exn) : (c.raise e).progress = c.progress := by
  unfold raise
  split
  · exact progress_beginStop c _
  · exact progress_beginStop { c with services := _ } _
  · exact progress_beginStop c _
  · exact progress_beginStop { c with services := _ } _

/-- Only a start creates a stream. -/
lemma progress_handle (env : ServerEnv) (c : Conn) (e : ClientEvent) :
    (c.handle env e).nextStreamId ≤ c.nextStreamId + starts [e] ∧
      (c.handle env e).progress.2 = c.progress.2 := by
  have hsame : ∀ {d : Conn}, d.progress = c.progress →
      d.nextStreamId ≤ c.nextStreamId + starts [e] ∧ d.progress.2 = c.progress.2 := by
    intro d h
    obtain ⟨hid, hrest⟩ := Prod.mk.inj h
    exact ⟨hid ▸ Nat.le_add_right .., hrest⟩
  cases e with
  | start config =>
    simp only [handle]
    split
    · exact hsame (progress_raise c _)
    · split
      · exact hsame (progress_raise c _)
      · exact ⟨Nat.le_refl _, rfl⟩
  | audio chunk =>
    simp only [handle]
    split
    · exact hsame (progress_raise c _)
    · split
      · exact hsame (progress_raise c _)
      · exact hsame rfl
  | finalize =>
    simp only [handle]
    split
    · exact hsame (progress_raise c _)
    · split_ifs
      · exact hsame (progress_raise c _)
      · exact hsame rfl
  | cancel =>
    simp only [handle]
    split
    · exact hsame (progress_raise c _)
    · exact hsame rfl
  | ping message =>
    simp only [handle]
    split
    · split
      · exact hsame rfl
      · exact hsame rfl
    · exact hsame rfl
  | pong message => exact hsame rfl
  | close => exact hsame (progress_beginStop c _)

/-- The handler's wait ends. -/
lemma proceed_progress {r : StreamRuntime} (h : c.proceed r = some c') :
    c'.progress = c.progress := by
  unfold proceed at h
  split at h
  · split at h <;> cases h
    · rfl
    · exact progress_raise c _
  · split_ifs at h
    cases h
    rfl
  · split at h <;> cases h
    · exact progress_raise c _
    · rfl
    · rfl
  · split_ifs at h
    cases h
    exact progress_beginStop c _
  · split_ifs at h
    cases h
    exact progress_beginStop c _
  · have hclose : ∀ k, (c.closeDecoder r k).progress = c.progress := by
      intro k
      unfold closeDecoder
      split_ifs
      · rfl
      · rfl
      · rfl
    split at h <;> cases h <;> exact hclose _
  · split at h <;> cases h
    exact progress_afterStop c _
  · cases h

/-- A step that is neither a receipt nor a wake-up counts nothing. -/
lemma step_progress {a : Act} (ha : a ≠ .wake) (hreceive : ∀ e, a ≠ .receive (.ok e))
    (h : c.step env a = some c') : c'.progress = c.progress := by
  cases a with
  | wake => exact absurd rfl ha
  | receive result =>
    simp only [step] at h
    split at h <;> cases h
    cases result with
    | ok e => exact absurd rfl (hreceive e)
    | error e => simp [progress, ReceiveTask.held]
  | startedDecoder result =>
    simp only [step] at h
    split at h <;> cases h
    cases result with
    | error e => exact progress_raise c e
    | ok decoder => rfl
  | handlerSent result =>
    simp only [step, handlerSent] at h
    split at h <;> cases h
    · rfl
    · rfl
    · rfl
    · exact progress_raise c _
    · exact progress_raise c _
    · exact progress_raise c _
    · rfl
  | proceed =>
    obtain ⟨r, hs, h⟩ := Option.bind_eq_some_iff.mp h
    exact proceed_progress h
  | handlerDecoderCanceled result =>
    obtain ⟨r, hs, h⟩ := Option.bind_eq_some_iff.mp h
    unfold handlerDecoderCanceled at h
    split at h <;> cases h
    rfl
  | handlerDecoderClosed result =>
    have hraise : ∀ k e, (c.raiseInStop k e).progress = c.progress := by
      intro k e
      unfold raiseInStop
      split_ifs
      · exact progress_raise c e
      · rfl
    simp only [step, handlerDecoderClosed] at h
    split at h <;> cases h
    · rfl
    · exact hraise _ _
    · exact hraise _ _
  | senderCancel =>
    simp only [step] at h
    split_ifs at h
    obtain ⟨r, hs, h⟩ := Option.bind_eq_some_iff.mp h
    obtain ⟨r', hr', rfl⟩ := Option.map_eq_some_iff.mp h
    rfl
  | task a =>
    obtain ⟨r, hs, h⟩ := Option.bind_eq_some_iff.mp h
    obtain ⟨r', hr', rfl⟩ := Option.map_eq_some_iff.mp h
    rfl
  | modelLoaded =>
    cases h
    rfl

/-- The streams the server created, against the starts it took off the transport. -/
structure Created (c : Conn) : Prop where
  settled : c.Settled
  present : starts (c.handled ++ c.receive.held) ≤ starts c.taken
  created : c.nextStreamId ≤ starts c.handled + 1

/-- The invariant holds in the first state. -/
lemma created_init : Created {} := ⟨settled_init, Nat.le_refl 0, Nat.le_refl 1⟩

/-- A wake-up creates a stream for a start it handles at most. -/
lemma wake_progress (h : c.wake env = some c') :
    c'.nextStreamId + starts c.handled ≤ c.nextStreamId + starts c'.handled ∧
      c'.taken = c.taken := by
  have hsame : ∀ {d : Conn}, d.progress = c.progress →
      d.nextStreamId + starts c.handled ≤ c.nextStreamId + starts d.handled ∧
        d.taken = c.taken := by
    intro d h
    obtain ⟨hid, hrest⟩ := Prod.mk.inj h
    obtain ⟨hhandled, htaken⟩ := Prod.mk.inj hrest
    exact ⟨by rw [hid, hhandled], htaken⟩
  unfold wake at h
  dsimp only at h
  split at h
  · split at h <;> cases h
    · exact hsame (progress_raise { c with receive := .absent } _)
    · exact hsame rfl
  · split at h <;> cases h
    · exact hsame (progress_raise { c with receive := .absent } _)
    · exact hsame (progress_raise { c with receive := .absent } _)
  · split at h <;> cases h
    · next e hreceive =>
      obtain ⟨hid, hrest⟩ := progress_handle env
        { c with receive := .absent, handled := c.handled ++ [e] } e
      obtain ⟨hhandled, htaken⟩ := Prod.mk.inj hrest
      refine ⟨?_, htaken⟩
      rw [hhandled, starts_append]
      dsimp only at hid ⊢
      omega
    · exact hsame (progress_raise { c with receive := .absent } _)

/-- A step that is no receipt creates a stream for a start it handles at most. -/
lemma step_created {a : Act} (hreceive : ∀ e, a ≠ .receive (.ok e)) (h : c.step env a = some c') :
    c'.nextStreamId + starts c.handled ≤ c.nextStreamId + starts c'.handled ∧
      c'.taken = c.taken := by
  by_cases ha : a = .wake
  · subst ha
    simp only [Conn.step] at h
    split at h
    · exact wake_progress h
    · cases h
  · obtain ⟨hid, hrest⟩ := Prod.mk.inj (step_progress ha hreceive h)
    obtain ⟨hhandled, htaken⟩ := Prod.mk.inj hrest
    exact ⟨by rw [hid, hhandled], htaken⟩

/-- The steps of the server keep the invariant. -/
lemma Created.step {a : Act} (hc : c.Created) (h : c.step env a = some c') : c'.Created := by
  obtain ⟨haccounts, hsettled⟩ := step_accounts hc.settled h
  have hcreated : c'.nextStreamId + starts c.handled ≤ c.nextStreamId + starts c'.handled := by
    by_cases hreceive : ∃ e, a = .receive (.ok e)
    · obtain ⟨e, rfl⟩ := hreceive
      simp only [Conn.step] at h
      split at h <;> cases h
      exact Nat.le_refl _
    · exact (step_created (fun e he => hreceive ⟨e, he⟩) h).1
  refine ⟨hsettled, ?_, ?_⟩
  · have hpresent := hc.present
    cases haccounts with
    | received hheld htaken hhandled =>
      rw [hheld, List.append_nil] at hpresent
      rw [hhandled, htaken, starts_append, starts_append]
      omega
    | kept htaken hsame =>
      rw [htaken, hsame]
      exact hpresent
    | lost htaken hhandled hheld hheld' =>
      rw [starts_append] at hpresent
      rw [htaken, hhandled, hheld', List.append_nil]
      omega
  · have hbound := hc.created
    omega

/-! ## Frames and starts -/

/-- The worker of the active stream is done. -/
def workerDone (c : Conn) : Bool := c.stream.any fun r => r.worker.done

/-- The handler is on its way to answer with an error event and to close the connection. -/
def answersError (c : Conn) : Bool :=
  match c.pc with
  | .stoppingWorker (.sendError _) => true
  | .sendingError => true
  | _ => false

/-- The frame that is answered with an error when the handler acts on it. -/
def refuses (c c' : Conn) : List ClientEvent :=
  match c.receive with
  | .done (.ok e) =>
    if c.workerDone = false ∧ e.isFrame = true ∧ c'.answersError = true then [e] else []
  | _ => []

/-- The start that is dropped with the end of a stream, or refused because of an active one. -/
def loses (c : Conn) : List ClientEvent :=
  match c.receive with
  | .done (.ok e) => if e.isStart = true ∧ c.stream.isSome = true then [e] else []
  | _ => []

/-- The handler meets the message in time: a frame with its stream active and fit to take it, or
with the end of the worker, when it is dropped; a start not with the end of the worker. -/
def InTime (c : Conn) : ClientEvent → Prop
  | .start _ => c.workerDone = false
  | .audio chunk => c.workerDone = true ∨ ∃ r, c.stream = some r ∧
    r.session.audioBuffer.length + chunk.length ≤ r.session.maxBufferBytes
  | .finalize => c.workerDone = true ∨ ∃ r, c.stream = some r ∧ r.session.audioBuffer ≠ []
  | _ => True

/-- A protocol error is answered with an error event. -/
lemma raise_protocol_answersError (c : Conn) (e : LocalSttProtocolError) :
    (c.raise (.protocol e)).answersError = true := by
  unfold raise beginStop
  cases c.stream with
  | none => rfl
  | some r => rfl

/-- A frame is answered with an error exactly when it does not meet its stream. -/
lemma handle_frame {e : ClientEvent} (he : e.isFrame = true) (hdone : c.workerDone = false) :
    (c.handle env e).answersError = true ↔ ¬ c.InTime e := by
  cases e with
  | audio chunk =>
    simp only [handle, InTime, hdone, Bool.false_eq_true, false_or]
    cases hs : c.stream with
    | none => exact iff_of_true (raise_protocol_answersError c _) (by simp)
    | some r =>
      dsimp only
      unfold StreamSession.appendAudio
      split_ifs with hfull
      · exact iff_of_true (raise_protocol_answersError c _) (by simpa using hfull)
      · exact iff_of_false (by simp [answersError, listen]) (by simpa using hfull)
  | finalize =>
    simp only [handle, InTime, hdone, Bool.false_eq_true, false_or]
    cases hs : c.stream with
    | none => exact iff_of_true (raise_protocol_answersError c _) (by simp)
    | some r =>
      dsimp only
      split_ifs with hempty
      · exact iff_of_true (raise_protocol_answersError c _) (by simpa using hempty)
      · exact iff_of_false (by simp [answersError]) (by simpa using hempty)
  | _ => cases he

/-- With a message and no end of the worker, the handler acts on the message. -/
lemma wake_eq_handle {e : ClientEvent} (hdone : c.workerDone = false)
    (hreceive : c.receive = .done (.ok e)) (h : c.wake env = some c') :
    c' = handle env { c with receive := .absent, handled := c.handled ++ [e] } e := by
  unfold wake at h
  dsimp only at h
  have hworker : ∀ r, c.stream = some r → r.worker.done = false := by
    intro r hr
    simpa [workerDone, hr] using hdone
  split at h
  · next hreturned =>
    obtain ⟨r, hr, hw⟩ := Option.map_eq_some_iff.mp hreturned
    have hnot := hworker r hr
    rw [hw] at hnot
    cases hnot
  · next hraised =>
    obtain ⟨r, hr, hw⟩ := Option.map_eq_some_iff.mp hraised
    have hnot := hworker r hr
    rw [hw] at hnot
    cases hnot
  · rw [hreceive] at h
    exact (Option.some.inj h).symm

end Conn

/-! ## The exchange -/

/-- A client and its server, with the messages between them. -/
structure Exchange where
  server : Conn := {}
  /-- The messages on their way to the server. -/
  outbox : List ClientEvent := []
  /-- The number of events the client read. -/
  read : ℕ := 0
  /-- The client has started a stream and has not read its end. -/
  streaming : Bool := false
  /-- The frames that were answered with an error. -/
  refused : List ClientEvent := []
  /-- The starts that were dropped, or refused because of an active stream. -/
  lost : List ClientEvent := []

/-- The steps of an exchange. -/
inductive ExchangeAct
  /-- A step of the server that is no receipt of a message. -/
  | server (a : Act)
  /-- The server receives the next message. -/
  | deliver
  /-- The client sends a message. -/
  | send (e : ClientEvent)
  /-- The client reads the next event. -/
  | read

/-- What a conforming client may send: frames while it has not read the end of its stream, and a
start otherwise. -/
def ClientEvent.conforms (streaming : Bool) (e : ClientEvent) : Bool :=
  if e.isFrame = true then streaming else if e.isStart = true then !streaming else true

namespace Exchange

/-- A step of the server is noted. -/
def note (w : Exchange) (server : Conn) : Act → Exchange
  | .wake =>
    { w with
      server := server
      refused := w.refused ++ w.server.refuses server
      lost := w.lost ++ w.server.loses }
  | _ => { w with server := server }

/-- One step of an exchange. -/
def step (env : ServerEnv) (w : Exchange) : ExchangeAct → Option Exchange
  | .server a =>
    match a with
    | .receive (.ok _) => none
    | a => (w.server.step env a).map fun server => w.note server a
  | .deliver =>
    match w.outbox with
    | [] => none
    | e :: outbox =>
      (w.server.step env (.receive (.ok e))).map fun server =>
        { w with server := server, outbox := outbox }
  | .send e =>
    if e.conforms w.streaming = true then
      some { w with outbox := w.outbox ++ [e], streaming := w.streaming || e.isStart }
    else none
  | .read =>
    match w.server.sent[w.read]? with
    | none => none
    | some e => some { w with read := w.read + 1, streaming := w.streaming && !e.endsStream }

/-- No frame was answered with an error, and no start was lost. -/
def Accepted (w : Exchange) : Prop := w.refused = [] ∧ w.lost = []

/-- The handler wakes up in time for the message it has received. -/
def InTime (w : Exchange) : ExchangeAct → Prop
  | .server .wake => ∀ e, w.server.receive = .done (.ok e) → w.server.InTime e
  | _ => True

/-- The starts the client has sent are at most the streams it has seen the end of, and the one it is
in. -/
structure Tracked (w : Exchange) : Prop where
  phase : w.server.Phase
  ordered : w.server.Ordered
  created : w.server.Created
  posted : starts (w.server.taken ++ w.outbox) ≤
    endedStreams (w.server.sent.take w.read) + if w.streaming = true then 1 else 0

variable {env : ServerEnv} {w w' : Exchange}

/-- A step of the server that is no receipt. -/
lemma step_server {a : Act} (ha : ∀ e, a ≠ .receive (.ok e)) :
    step env w (.server a) = (w.server.step env a).map fun server => w.note server a := by
  cases a with
  | receive result =>
    cases result with
    | ok e => exact absurd rfl (ha e)
    | error e => rfl
  | _ => rfl

/-- The events the client has read are among those written. -/
lemma endedStreams_take_le (es : List Event) (n : ℕ) : endedStreams (es.take n) ≤ endedStreams es :=
  (List.take_sublist n es).countP_le

/-- A conforming client starts no stream while another one is active: a start the handler meets with
a stream comes with the end of its worker. -/
lemma Tracked.workerDone (hw : w.Tracked) (hpc : w.server.pc = .waiting) {e : ClientEvent}
    (hreceive : w.server.receive = .done (.ok e)) (hstart : e.isStart = true)
    {r : StreamRuntime} (hs : w.server.stream = some r) : w.server.workerDone = true := by
  by_contra hdone
  have hworker : r.worker.done = false := by
    simpa [Conn.workerDone, hs] using hdone
  have hended := Conn.endedStreams_lt hw.phase hw.ordered hpc hs hworker
  have hread := endedStreams_take_le w.server.sent w.read
  have hposted := hw.posted
  have hpresent := hw.created.present
  have hcreated := hw.created.created
  have hheld : starts w.server.receive.held = 1 := by
    simp [hreceive, ReceiveTask.held, starts, hstart]
  rw [starts_append] at hposted hpresent
  split_ifs at hposted <;> omega

/-- The handler wakes up. -/
lemma Tracked.wake (hw : w.Tracked) (haccepted : w.Accepted) {server : Conn}
    (h : w.server.step env .wake = some server) :
    (w.note server .wake).Accepted ↔ w.InTime (.server .wake) := by
  have hpc : w.server.pc = .waiting := by
    simp only [Conn.step] at h
    split at h
    · assumption
    · cases h
  have hlists : (w.note server .wake).Accepted ↔
      w.server.refuses server = [] ∧ w.server.loses = [] := by
    simp [Accepted, note, haccepted.1, haccepted.2]
  rw [hlists]
  cases hreceive : w.server.receive with
  | done result =>
    cases result with
    | error e => simp [Conn.refuses, Conn.loses, InTime, hreceive]
    | ok e =>
      have hin : w.InTime (.server .wake) ↔ w.server.InTime e :=
        ⟨fun hall => hall e hreceive, fun he e' he' => by
          cases hreceive.symm.trans he'
          exact he⟩
      rw [hin]
      by_cases hstart : e.isStart = true
      · obtain ⟨config, rfl⟩ : ∃ config, e = .start config := by
          cases e with
          | start config => exact ⟨config, rfl⟩
          | _ => cases hstart
        have hrefuses : w.server.refuses server = [] := by
          simp [Conn.refuses, hreceive, ClientEvent.isFrame]
        have hloses : w.server.loses = [] ↔ w.server.stream = none := by
          simp [Conn.loses, hreceive, hstart]
        have hdone : w.server.stream = none ↔ w.server.InTime (.start config) := by
          cases hs : w.server.stream with
          | none => simp [Conn.InTime, Conn.workerDone, hs]
          | some r => simp [Conn.InTime, hw.workerDone hpc hreceive hstart hs]
        rw [← hdone, ← hloses]
        exact ⟨And.right, fun h => ⟨hrefuses, h⟩⟩
      · have hloses : w.server.loses = [] := by simp [Conn.loses, hreceive, hstart]
        have hrefuses : w.server.refuses server = [] ↔ w.server.InTime e := by
          cases hframe : e.isFrame with
          | false =>
            refine iff_of_true (by simp [Conn.refuses, hreceive, hframe]) ?_
            cases e with
            | start config => exact absurd rfl hstart
            | audio chunk => cases hframe
            | finalize => cases hframe
            | _ => trivial
          | true =>
            cases hdone : w.server.workerDone with
            | true =>
              refine iff_of_true (by simp [Conn.refuses, hreceive, hdone]) ?_
              cases e with
              | audio chunk => exact Or.inl hdone
              | finalize => exact Or.inl hdone
              | _ => cases hframe
            | false =>
              have hwake : w.server.wake env = some server := by
                simp only [Conn.step, hpc] at h
                exact h
              have hserver := Conn.wake_eq_handle hdone hreceive hwake
              have hanswer : server.answersError = true ↔ ¬ w.server.InTime e := by
                rw [hserver]
                exact Conn.handle_frame
                  (c := { w.server with receive := .absent, handled := w.server.handled ++ [e] })
                  hframe hdone
              simp only [Conn.refuses, hreceive, hdone, hframe, true_and, hanswer, ite_eq_right_iff,
                List.cons_ne_nil, imp_false, not_not]
        rw [hrefuses, hloses]
        exact ⟨And.left, fun h => ⟨h, rfl⟩⟩
  | _ => simp [Conn.refuses, Conn.loses, InTime, hreceive]

/-- A step of the server that is no receipt. -/
lemma Tracked.server_step (hw : w.Tracked) {a : Act} {server : Conn}
    (ha : ∀ e, a ≠ .receive (.ok e)) (h : w.server.step env a = some server) :
    (w.note server a).Tracked := by
  have hphase := (Conn.step_moves hw.phase (Conn.tasksMeet_true _ a) h).phase
  have hordered := Conn.step_ordered hw.phase hw.ordered h
  have hcreated := hw.created.step h
  obtain ⟨new, hsent, -, -⟩ := Conn.step_yields hw.phase ha h
  have htaken := (Conn.step_created ha h).2
  have hposted : starts (server.taken ++ w.outbox) ≤
      endedStreams (server.sent.take w.read) + if w.streaming = true then 1 else 0 := by
    rw [htaken, hsent, List.take_append, endedStreams_append]
    exact hw.posted.trans (Nat.add_le_add_right (Nat.le_add_right ..) _)
  cases a with
  | wake => exact ⟨hphase, hordered, hcreated, hposted⟩
  | _ => exact ⟨hphase, hordered, hcreated, hposted⟩

/-- The server receives a message. -/
lemma Tracked.deliver_step (hw : w.Tracked) {e : ClientEvent} {outbox : List ClientEvent}
    {server : Conn} (houtbox : w.outbox = e :: outbox)
    (h : w.server.step env (.receive (.ok e)) = some server) :
    Tracked { w with server := server, outbox := outbox } := by
  have hphase := (Conn.step_moves hw.phase (Conn.tasksMeet_true _ _) h).phase
  have hordered := Conn.step_ordered hw.phase hw.ordered h
  have hcreated := hw.created.step h
  refine ⟨hphase, hordered, hcreated, ?_⟩
  have hposted := hw.posted
  simp only [Conn.step] at h
  split at h <;> cases h
  rw [houtbox] at hposted
  simpa [ReceiveTask.held] using hposted

/-- The client sends a message. -/
lemma Tracked.send_step (hw : w.Tracked) {e : ClientEvent} (he : e.conforms w.streaming = true) :
    Tracked { w with outbox := w.outbox ++ [e], streaming := w.streaming || e.isStart } := by
  refine ⟨hw.phase, hw.ordered, hw.created, ?_⟩
  have hposted := hw.posted
  dsimp only
  rw [← List.append_assoc, starts_append (w.server.taken ++ w.outbox)]
  cases e with
  | start config =>
    have hidle : w.streaming = false := by
      simpa [ClientEvent.conforms, ClientEvent.isFrame, ClientEvent.isStart] using he
    simp only [hidle, Bool.false_eq_true, if_false, Nat.add_zero] at hposted
    simpa [starts, ClientEvent.isStart, hidle] using hposted
  | _ => simpa [starts, ClientEvent.isStart] using hposted

/-- The client reads an event. -/
lemma Tracked.read_step (hw : w.Tracked) {e : Event} (he : w.server.sent[w.read]? = some e) :
    Tracked { w with read := w.read + 1, streaming := w.streaming && !e.endsStream } := by
  refine ⟨hw.phase, hw.ordered, hw.created, ?_⟩
  have hposted := hw.posted
  dsimp only
  rw [List.take_add_one, he, Option.toList_some, endedStreams_append]
  cases hends : e.endsStream with
  | false =>
    have hzero : endedStreams [e] = 0 := by simp [endedStreams, hends]
    simpa [hzero] using hposted
  | true =>
    have hone : endedStreams [e] = 1 := by simp [endedStreams, hends]
    simp only [hone, Bool.not_true, Bool.and_false, Bool.false_eq_true, if_false]
    split_ifs at hposted <;> omega

/-- **One step.** A step from a state without refused frames and lost starts keeps it so exactly
when the handler does not wake up too late for a message. -/
theorem accepted_step {a : ExchangeAct} (hw : w.Tracked) (haccepted : w.Accepted)
    (h : step env w a = some w') : w'.Tracked ∧ (w'.Accepted ↔ w.InTime a) := by
  cases a with
  | server a =>
    have ha : ∀ e, a ≠ .receive (.ok e) := by
      rintro e rfl
      cases h
    rw [step_server ha] at h
    obtain ⟨server, hserver, rfl⟩ := Option.map_eq_some_iff.mp h
    refine ⟨hw.server_step ha hserver, ?_⟩
    cases a with
    | wake => exact hw.wake haccepted hserver
    | _ => exact iff_of_true haccepted trivial
  | deliver =>
    simp only [step] at h
    split at h
    · cases h
    · next houtbox =>
      obtain ⟨server, hserver, rfl⟩ := Option.map_eq_some_iff.mp h
      exact ⟨hw.deliver_step houtbox hserver, iff_of_true haccepted trivial⟩
  | send e =>
    simp only [step] at h
    split_ifs at h with he
    cases h
    exact ⟨hw.send_step he, iff_of_true haccepted trivial⟩
  | read =>
    simp only [step] at h
    split at h <;> cases h
    next he => exact ⟨hw.read_step he, iff_of_true haccepted trivial⟩

end Exchange

/-- A client and its server as a step system. -/
def exchange (env : ServerEnv) : StepSystem Exchange ExchangeAct := ⟨Exchange.step env⟩

namespace Exchange

variable {env : ServerEnv} {w : Exchange}

/-- The invariant holds in the first state. -/
lemma tracked_init : Tracked {} :=
  ⟨Conn.phase_init, ⟨.idle 0, rfl, fun _ => ⟨0, Nat.zero_lt_one, rfl⟩⟩, Conn.created_init,
    Nat.le_refl 0⟩

/-- **Conforming clients.** In a run of a conforming client no frame is answered with an error and
no start is lost exactly when the handler meets every frame with its stream active and fit to take
it, and no start together with the end of the worker. -/
theorem accepted_iff {as : List ExchangeAct} (hrun : (exchange env).run {} as = some w) :
    (exchange env).Throughout Accepted {} as ↔ (exchange env).Along InTime {} as :=
  StepSystem.throughout_iff_along (fun _ _ _ hJ hI h => accepted_step hJ hI h) tracked_init
    ⟨rfl, rfl⟩ hrun

/-- A test for the condition. -/
def inTime (w : Exchange) : ExchangeAct → Bool
  | .server .wake =>
    match w.server.receive, w.server.stream with
    | .done (.ok (.start _)), _ => !w.server.workerDone
    | .done (.ok (.audio chunk)), some r =>
      decide (r.session.audioBuffer.length + chunk.length ≤ r.session.maxBufferBytes)
    | .done (.ok (.audio _)), none => false
    | .done (.ok .finalize), some r => !r.session.audioBuffer.isEmpty
    | .done (.ok .finalize), none => false
    | _, _ => true
  | _ => true

/-- The test is right. -/
lemma inTime_of_test {a : ExchangeAct} (h : inTime w a = true) : w.InTime a := by
  cases a with
  | server a =>
    cases a with
    | wake =>
      intro e he
      cases e with
      | start config => simpa [inTime, he, Conn.InTime] using h
      | audio chunk =>
        cases hs : w.server.stream with
        | none => simp [inTime, he, hs] at h
        | some r => exact Or.inr ⟨r, hs, by simpa [inTime, he, hs] using h⟩
      | finalize =>
        cases hs : w.server.stream with
        | none => simp [inTime, he, hs] at h
        | some r => exact Or.inr ⟨r, hs, by simpa [inTime, he, hs] using h⟩
      | _ => trivial
    | _ => trivial
  | _ => trivial

/-- A stream that ends on its own after one chunk, and the handler back in its loop. -/
def autoFinal (inFlight : List ExchangeAct) : List ExchangeAct :=
  [.send (.start autoFinalStart), .deliver, .server .wake, .server (.startedDecoder (.ok false)),
    .server (.handlerSent (.ok ())), .send (.audio Conn.twoMs), .deliver, .server .wake,
    .server (.task .workerWake), .server (.task (.transcribed (.ok Conn.wordTranscript)))] ++
    inFlight ++
    [.server .wake, .server (.task .senderTake), .server (.task (.senderSent (.ok ()))),
      .server .proceed, .server .proceed, .server .proceed]

/-- The client reads the final transcript and starts the next stream. -/
def nextStart : List ExchangeAct :=
  autoFinal [] ++ [.read, .read, .send (.start autoFinalStart), .deliver, .server .wake]

/-- The next start is accepted. -/
theorem accepted_nextStart : (exchange defaultEnv).Throughout Accepted {} nextStart := by
  have hrun : ∃ w, (exchange defaultEnv).run {} nextStart = some w ∧
      w.server.stream.isSome = true :=
    StepSystem.exists_run_of_map (f := fun w : Exchange => w.server.stream.isSome)
      (by decide +kernel)
  obtain ⟨w, hrun, -⟩ := hrun
  refine (accepted_iff hrun).mpr ?_
  exact StepSystem.along_of_check (fun _ _ => inTime_of_test) (by decide +kernel)

/-- The client sends a second chunk before it can read the final transcript. -/
def chunkInFlight : List ExchangeAct :=
  autoFinal [.send (.audio Conn.twoMs)] ++ [.deliver, .server .wake]

/-- The chunk is answered with an error. -/
theorem not_accepted_chunkInFlight :
    ¬ ∀ as, (exchange defaultEnv).Throughout Accepted {} as := by
  intro hlaw
  have hrun : ∃ w, (exchange defaultEnv).run {} chunkInFlight = some w ∧ w.refused.length = 1 :=
    StepSystem.exists_run_of_map (f := fun w : Exchange => w.refused.length) (by decide +kernel)
  obtain ⟨w, hrun, hrefused⟩ := hrun
  rw [((hlaw chunkInFlight).last hrun).1] at hrefused
  cases hrefused

end Exchange
end RtcAsr
