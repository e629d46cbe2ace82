import RtcAsr.Server.EventGrammar
import RtcAsr.Server.StatefulDecoder

/-!
# The written events of a connection

The events whose write was started, followed by those that wait in the queue of the active stream,
are accepted by the grammar: the sender only moves an event from the one list to the other, and
every event that is enqueued is the next one of the grammar.  A stream is dropped without a close or
an error only after its queue was drained.
-/

namespace RtcAsr

/-! ## The events of a stream -/

/-- The event that is being written is not counted as done yet. -/
def SenderPc.writing : SenderPc → ℕ
  | .sending _ => 1
  | _ => 0

namespace QueueView

/-- No transcript follows: the final one or the cancel warning was enqueued. -/
def ended (q : QueueView) : Bool := q.finalEmitted || q.canceled

/-- Where the acceptor stands after the events of the stream. -/
def grammar (q : QueueView) (revision : ℕ) : GrammarState :=
  if q.ended = true then .idle q.streamId else .block q.streamId revision

/-- The written events and the queue of a stream whose worker is at `w`. -/
inductive Ordered (sent : List Event) (q : QueueView) (w : WorkerPc) : Prop
  /-- The tasks of the stream are not started. -/
  | fresh {last : ℕ} (hw : w = .absent) (hsender : q.sender = .absent) (hevents : q.events = [])
      (hrevision : q.revision = 0) (hlast : last < q.streamId)
      (hrun : eventGrammar.run (.idle 0) sent = some (.idle last))
  /-- The ready event of the stream was written. -/
  | started {revision : ℕ} (hw : w ≠ .absent)
      (hcount : q.unfinished = q.events.length + q.sender.writing)
      (hclosed : q.finalEmitted = true → q.closed = true)
      (hexit : q.sender = .returned → q.closed = true ∧ q.events = [])
      (hrevision : w.running = true → revision = q.revision + 1)
      (hrun : eventGrammar.run (.idle 0) (sent ++ q.events) = some (q.grammar revision))
      (hfinals : finalCount q.streamId (sent ++ q.events) = if q.finalEmitted = true then 1 else 0)

variable {sent : List Event} {q q' : QueueView} {w w' : WorkerPc}

/-- The written events are accepted. -/
lemma Ordered.accepted (h : q.Ordered sent w) :
    ∃ g, eventGrammar.run (.idle 0) sent = some g := by
  cases h with
  | fresh _ _ _ _ _ hrun => exact ⟨_, hrun⟩
  | started _ _ _ _ _ hrun => exact accepted_of_append hrun

/-- With nothing queued, an ended stream leaves the acceptor between utterances. -/
lemma Ordered.idle (h : q.Ordered sent w) (hevents : q.events = []) (hended : q.ended = true) :
    ∃ last ≤ q.streamId, eventGrammar.run (.idle 0) sent = some (.idle last) := by
  cases h with
  | fresh _ _ _ _ hlast hrun => exact ⟨_, hlast.le, hrun⟩
  | started _ _ _ _ _ hrun =>
    rw [hevents, List.append_nil, grammar, if_pos hended] at hrun
    exact ⟨_, le_rfl, hrun⟩

/-- A running worker emits what comes next. -/
lemma Ordered.emission (h : q.Ordered sent w) (hw : w.running = true) (he : Emission q q' w') :
    q'.Ordered sent w' := by
  cases h with
  | fresh habsent =>
    rw [habsent] at hw
    cases hw
  | @started revision _ hcount hclosed hexit hrevision hrun hfinals =>
    cases he with
    | quiet heq hw' =>
      subst heq
      exact .started hw' hcount hclosed hexit (fun _ => hrevision hw) hrun hfinals
    | refused e heq hw' =>
      subst heq hw'
      exact .started (by simp) hcount hclosed hexit (by simp [WorkerPc.running]) hrun hfinals
    | emitted event hkept hopen hid hnext heq hw' =>
      have hnotFinal : q.finalEmitted = false := by
        by_contra hfinal
        rw [hclosed (by simpa using hfinal)] at hopen
        cases hopen
      have hblock : q.grammar revision = .block q.streamId (q.revision + 1) := by
        rw [grammar, ended, hnotFinal, hkept, hrevision hw]
        rfl
      subst heq
      refine .started ?_ ?_ ?_ ?_ (fun _ => rfl) ?_ ?_
      · rw [hw']
        split_ifs <;> simp
      · simp only [emit, hcount, List.length_append, List.length_singleton]
        omega
      · intro hfinal
        simp only [emit, hnotFinal, Bool.or_false] at hfinal
        simp [emit, hfinal]
      · exact fun hreturned => absurd ((hexit hreturned).1.symm.trans hopen) (by simp)
      · rw [emit, ← List.append_assoc, StepSystem.run_concat_eq_some]
        refine ⟨_, hrun, ?_⟩
        rw [hblock]
        simp only [eventGrammar, GrammarState.next, hid, hnext, and_self, if_true, grammar, ended,
          hnotFinal, hkept, Bool.or_false]
      · rw [emit, ← List.append_assoc, finalCount_concat, hfinals, hnotFinal]
        cases hfinal : event.isFinal <;> simp [finalCount, hfinal, hid]

/-- A pong may be enqueued while the stream is open. -/
lemma Ordered.pong (h : q.Ordered sent w) (hw : w ≠ .absent) (hopen : q.closed = false)
    (message : Heartbeat) :
    Ordered sent { q with
      events := q.events ++ [.pong message]
      unfinished := q.unfinished + 1 } w := by
  cases h with
  | fresh habsent => exact absurd habsent hw
  | started _ hcount hclosed hexit hrevision hrun hfinals =>
    refine .started hw ?_ hclosed ?_ hrevision ?_ ?_
    · simp only [hcount, List.length_append, List.length_singleton]
      omega
    · exact fun hreturned => absurd ((hexit hreturned).1.symm.trans hopen) (by simp)
    · rw [← List.append_assoc, StepSystem.run_concat_eq_some]
      exact ⟨_, hrun, rfl⟩
    · rw [← List.append_assoc, finalCount_concat, hfinals]
      rfl

/-- The cancel warning ends the utterance. -/
lemma Ordered.cancel (h : q.Ordered sent w) (hw : w ≠ .absent) (hopen : q.closed = false)
    (hended : q.ended = false) {warning : CancelWarningEvent}
    (hid : warning.streamId = q.streamId) :
    Ordered sent { q with
      events := q.events ++ [.canceled warning]
      unfinished := q.unfinished + 1
      canceled := true } w := by
  cases h with
  | fresh habsent => exact absurd habsent hw
  | @started revision _ hcount hclosed hexit hrevision hrun hfinals =>
    refine .started hw ?_ hclosed ?_ hrevision ?_ ?_
    · simp only [hcount, List.length_append, List.length_singleton]
      omega
    · exact fun hreturned => absurd ((hexit hreturned).1.symm.trans hopen) (by simp)
    · have hblock : q.grammar revision = .block q.streamId revision := by
        rw [grammar, if_neg (by simp [hended])]
      rw [← List.append_assoc, StepSystem.run_concat_eq_some]
      refine ⟨_, hrun, ?_⟩
      rw [hblock]
      simp only [eventGrammar, GrammarState.next, hid, if_true, grammar, ended, Bool.or_true]
    · rw [← List.append_assoc, finalCount_concat, hfinals]
      rfl

/-- A close stops the queue, not the events. -/
lemma Ordered.close (h : q.Ordered sent w) : Ordered sent { q with closed := true } w := by
  cases h with
  | fresh hw hsender hevents hrevision hlast hrun =>
    exact .fresh hw hsender hevents hrevision hlast hrun
  | started hw hcount _ hexit hrevision hrun hfinals =>
    exact .started hw hcount (fun _ => rfl) (fun h => ⟨rfl, (hexit h).2⟩) hrevision hrun hfinals

/-- The sender takes the next event. -/
lemma Ordered.take (h : q.Ordered sent w) {e : Event} {es : List Event}
    (hevents : q.events = e :: es)
    (hidle : q.sender = .idle) :
    Ordered (sent ++ [e]) { q with events := es, sender := .sending e } w := by
  cases h with
  | fresh _ hsender =>
    rw [hidle] at hsender
    cases hsender
  | started hw hcount hclosed _ hrevision hrun hfinals =>
    have hsame : sent ++ [e] ++ es = sent ++ q.events := by rw [hevents, List.append_assoc]; rfl
    refine .started hw ?_ hclosed nofun hrevision ?_ ?_
    · simp only [hcount, hevents, hidle, SenderPc.writing, List.length_cons]
    · exact hsame ▸ hrun
    · exact hsame ▸ hfinals

/-- The sender moves on without touching the queue. -/
lemma Ordered.sender (h : q.Ordered sent w) (hstarted : q.sender ≠ .absent) {sender : SenderPc}
    {unfinished : ℕ} (hcount : q.sender.writing + unfinished = q.unfinished + sender.writing)
    (hexit : sender = .returned → q.closed = true ∧ q.events = []) :
    Ordered sent { q with unfinished := unfinished, sender := sender } w := by
  cases h with
  | fresh _ hsender => exact absurd hsender hstarted
  | started hw hcount' hclosed _ hrevision hrun hfinals =>
    refine .started hw ?_ hclosed hexit hrevision hrun hfinals
    show unfinished = q.events.length + sender.writing
    omega

end QueueView

namespace StreamRuntime

variable {env : ServerEnv} {sent : List Event} {r r' : StreamRuntime} {a : StreamAct}

/-- A step that is not the sender's writes nothing. -/
lemma writes_eq_nil (r : StreamRuntime) (ha : a.isSender = false) : r.writes a = [] := by
  cases a with
  | senderTake => cases ha
  | _ => rfl

/-- The tasks keep the events in order. -/
lemma ordered_step (h : r.queue.Ordered sent r.worker) (hstep : r.step env a = some r') :
    r'.queue.Ordered (sent ++ r.writes a) r'.worker := by
  cases ha : a.isSender with
  | false =>
    obtain ⟨hw, hemits⟩ := step_emits hstep ha
    rw [writes_eq_nil r ha, List.append_nil]
    exact h.emission hw hemits
  | true =>
    cases a with
    | senderTake =>
      simp only [step, senderTake] at hstep
      split at hstep <;> cases hstep
      next e es hidle hevents =>
      rw [show r.writes .senderTake = [e] by simp [writes, hevents]]
      exact h.take hevents hidle
    | senderSent result =>
      simp only [step, senderSent] at hstep
      rw [show r.writes (.senderSent result) = [] from rfl, List.append_nil]
      have hcount : ∀ e, r.sender = .sending e → 1 ≤ r.unfinishedEvents := by
        intro e hsending
        cases h with
        | fresh _ hsender => exact absurd (hsending.symm.trans hsender) (by simp)
        | started _ hcount =>
          have hcount' : r.unfinishedEvents = r.outgoingEvents.length + r.sender.writing := hcount
          rw [hsending] at hcount'
          exact hcount' ▸ Nat.le_add_left 1 _
      split at hstep <;> cases hstep
      · next e _ hsending =>
        refine h.sender (by simp [queue, hsending]) ?_ ?_
        · have := hcount e hsending
          show r.sender.writing + (r.unfinishedEvents - 1) = r.unfinishedEvents + _
          rw [hsending]
          split_ifs <;> simp only [SenderPc.writing] <;> omega
        · split_ifs with hdone
          · exact fun _ => hdone
          · rintro ⟨⟩
      · next e _ hsending =>
        refine h.sender (by simp [queue, hsending]) ?_ (by rintro ⟨⟩)
        have := hcount e hsending
        show r.sender.writing + (r.unfinishedEvents - 1) = r.unfinishedEvents + _
        rw [hsending]
        simp only [SenderPc.writing]
        omega
    | senderExit =>
      simp only [step, senderExit] at hstep
      rw [show r.writes .senderExit = [] from rfl, List.append_nil]
      split at hstep
      · next hidle hevents =>
        split_ifs at hstep with hclosed
        cases hstep
        refine h.sender (by simp [queue, hidle]) ?_ fun _ => ⟨hclosed, hevents⟩
        show r.sender.writing + r.unfinishedEvents = r.unfinishedEvents + 0
        rw [hidle]
        exact Nat.zero_add _
      · cases hstep
    | _ => cases ha

/-- The tasks do not cancel the sender. -/
lemma step_notCancelled (hstep : r.step env a = some r') (h : r.sender ≠ .cancelled) :
    r'.sender ≠ .cancelled := by
  cases ha : a.isSender with
  | false => rwa [(step_emits hstep ha).2.sender]
  | true =>
    cases a with
    | senderTake =>
      simp only [step, senderTake] at hstep
      split at hstep <;> cases hstep
      simp
    | senderSent result =>
      simp only [step, senderSent] at hstep
      split at hstep <;> cases hstep
      · dsimp only
        split_ifs <;> simp
      · simp
    | senderExit =>
      simp only [step, senderExit] at hstep
      split at hstep
      · split_ifs at hstep
        cases hstep
        simp
      · cases hstep
    | _ => cases ha

/-- The cancellation of the sender keeps the events in order. -/
lemma ordered_senderCancel (h : r.queue.Ordered sent r.worker) (hstep : r.senderCancel = some r') :
    r'.queue.Ordered sent r'.worker := by
  unfold senderCancel at hstep
  split at hstep <;> cases hstep
  · next hidle =>
    refine h.sender (by simp [queue, hidle]) ?_ (by rintro ⟨⟩)
    show r.sender.writing + r.unfinishedEvents = r.unfinishedEvents + 0
    rw [hidle]
    exact Nat.zero_add _
  · next e hsending =>
    refine h.sender (by simp [queue, hsending]) ?_ (by rintro ⟨⟩)
    cases h with
    | fresh _ hsender => exact absurd (hsending.symm.trans hsender) (by simp)
    | started _ hcount =>
      have hcount' : r.unfinishedEvents = r.outgoingEvents.length + r.sender.writing := hcount
      show r.sender.writing + (r.unfinishedEvents - 1) = r.unfinishedEvents + 0
      rw [hsending, SenderPc.writing] at hcount' ⊢
      omega

/-- The ready event opens the utterance of a fresh stream. -/
lemma ordered_startTasks (h : r.queue.Ordered sent r.worker) (hr : Fresh r) (decoder : Bool) :
    (r.startTasks decoder).queue.Ordered
      (sent ++ [.ready (localSttReadyEvent (r.startTasks decoder).session)])
      (r.startTasks decoder).worker := by
  have habsent : r.worker = .absent := by rw [hr]
  have hid : (r.startTasks decoder).session.streamId = r.session.streamId := by
    rw [startTasks]
    cases decoder <;> rfl
  have hrev : (r.startTasks decoder).session.transcriptRevision =
      r.session.transcriptRevision := by
    rw [startTasks]
    cases decoder <;> rfl
  cases h with
  | started hw => exact absurd habsent hw
  | @fresh last _ _ hevents hrevision hlast hrun =>
    have hqueue : (r.startTasks decoder).queue =
        { events := [], unfinished := 0, sender := .idle, finalEmitted := false, closed := false,
          canceled := false, streamId := r.session.streamId, revision := 0 } := by
      rw [queue, hid, hrev, show r.session.transcriptRevision = 0 from hrevision, hr]
      rfl
    rw [hqueue]
    refine .started (by simp [startTasks]) rfl (by simp) (by rintro ⟨⟩) (fun _ => rfl) ?_ ?_
    · rw [List.append_nil, StepSystem.run_concat_eq_some]
      refine ⟨_, hrun, ?_⟩
      have hlast' : last < (localSttReadyEvent (r.startTasks decoder).session).streamId :=
        hlast.trans_eq hid.symm
      simp only [eventGrammar, GrammarState.next, if_pos hlast']
      exact congrArg (fun id => some (GrammarState.block id 1)) hid
    · have hzero : finalCount r.session.streamId sent = 0 :=
        finalCount_eq_zero hrun (by simp) hlast
      rw [List.append_nil, finalCount_concat, hzero]
      rfl

end StreamRuntime

/-! ## The connection -/

/-- The positions in which the next message may start a stream. -/
def HandlerPc.listens : HandlerPc → Bool
  | .waiting => true
  | .sendingPong => true
  | _ => false

/-- The positions after a stream was drained, from which the connection goes on. -/
def HandlerPc.drained : HandlerPc → Bool
  | .finalizeAwaitingSender => true
  | .stoppingWorker .continueLoop => true
  | .cancellingDecoder .continueLoop => true
  | .closingDecoder .continueLoop _ => true
  | .stoppingSender .continueLoop => true
  | _ => false

/-- The positions in which the sender runs until it is done. -/
def HandlerPc.serves : HandlerPc → Bool
  | .waiting => true
  | .sendingReady => true
  | .finalizeAwaitingWorker => true
  | .finalizeJoining => true
  | _ => false

lemma HandlerPc.drained_closing (k : AfterStop) (pending : Option Exn) :
    (closingDecoder k pending).drained = (stoppingSender k).drained := by
  cases k <;> rfl

namespace Conn

/-- The written events are in order, and what follows them will be. -/
def OrderedAt (sent : List Event) (nextStreamId : ℕ) (pc : HandlerPc) :
    Option StreamRuntime → Prop
  | none => ∃ g, eventGrammar.run (.idle 0) sent = some g ∧
      (pc.listens = true → ∃ last < nextStreamId, g = .idle last)
  | some r => r.session.streamId < nextStreamId ∧ r.queue.Ordered sent r.worker ∧
      (pc.drained = true → r.outgoingEvents = [] ∧ r.queue.ended = true) ∧
      (pc.serves = true → r.sender ≠ .cancelled)

/-- The events of a connection are in order. -/
def Ordered (c : Conn) : Prop := OrderedAt c.sent c.nextStreamId c.pc c.stream

variable {env : ServerEnv} {c c' : Conn} {s : Option StreamRuntime}

/-- The written events are accepted. -/
lemma Ordered.accepted (h : c.Ordered) : ∃ g, eventGrammar.run (.idle 0) c.sent = some g := by
  unfold Ordered at h
  cases hs : c.stream with
  | none =>
    rw [hs] at h
    exact ⟨_, h.choose_spec.1⟩
  | some r =>
    rw [hs] at h
    exact h.2.1.accepted

/-- The stream of a drained position leaves the acceptor between utterances. -/
lemma Ordered.idle {r : StreamRuntime} (h : c.Ordered) (hs : c.stream = some r)
    (hdrained : c.pc.drained = true) :
    ∃ last < c.nextStreamId, eventGrammar.run (.idle 0) c.sent = some (.idle last) := by
  rw [Ordered, hs] at h
  obtain ⟨hnext, hordered, hdrain, -⟩ := h
  obtain ⟨hevents, hended⟩ := hdrain hdrained
  obtain ⟨last, hlast, hrun⟩ := hordered.idle hevents hended
  exact ⟨last, hlast.trans_lt hnext, hrun⟩

lemma afterStop_ordered (haccepted : ∃ g, eventGrammar.run (.idle 0) c.sent = some g)
    {k : AfterStop} (hk : k = .continueLoop →
      ∃ last < c.nextStreamId, eventGrammar.run (.idle 0) c.sent = some (.idle last)) :
    (c.afterStop k).Ordered := by
  obtain ⟨g, hg⟩ := haccepted
  cases k with
  | continueLoop =>
    obtain ⟨last, hlast, hrun⟩ := hk rfl
    exact ⟨_, hrun, fun _ => ⟨last, hlast, rfl⟩⟩
  | sendClosed => exact ⟨.ended, StepSystem.run_concat_eq_some.mpr ⟨g, hg, rfl⟩, nofun⟩
  | exit => exact ⟨g, hg, nofun⟩
  | sendError message => exact ⟨.ended, StepSystem.run_concat_eq_some.mpr ⟨g, hg, rfl⟩, nofun⟩

lemma beginStop_ordered (h : c.Ordered) {k : AfterStop}
    (hk : k = .continueLoop → ∃ r, c.stream = some r ∧ r.outgoingEvents = [] ∧
      r.queue.ended = true) : (c.beginStop k).Ordered := by
  unfold beginStop
  split
  · next hs =>
    refine afterStop_ordered h.accepted fun hcontinue => ?_
    obtain ⟨r, hr, -⟩ := hk hcontinue
    exact absurd (hr.symm.trans hs) (by simp)
  · next r hs =>
    rw [Ordered, hs] at h
    refine ⟨h.1, h.2.1.close, fun hdrained => ?_, nofun⟩
    cases k with
    | continueLoop =>
      obtain ⟨r', hr', hevents, hended⟩ := hk rfl
      obtain rfl := Option.some.inj (hr'.symm.trans hs)
      exact ⟨hevents, hended⟩
    | sendClosed => cases hdrained
    | exit => cases hdrained
    | sendError message => cases hdrained

lemma raise_ordered (h : c.Ordered) (e : Exn) : (c.raise e).Ordered := by
  unfold raise
  split
  · exact beginStop_ordered h nofun
  · refine beginStop_ordered ?_ nofun
    exact h
  · exact beginStop_ordered h nofun
  · refine beginStop_ordered ?_ nofun
    exact h

/-- A stream that stays where it is, in a position after which nothing is promised. -/
lemma OrderedAt.move {sent : List Event} {nextStreamId : ℕ} {pc pc' : HandlerPc}
    (h : OrderedAt sent nextStreamId pc s)
    (hdrained : pc'.drained = true → pc.drained = true)
    (hserves : pc'.serves = true → pc.serves = true)
    (hlistens : s = none → pc'.listens = true → pc.listens = true) :
    OrderedAt sent nextStreamId pc' s := by
  cases s with
  | none =>
    obtain ⟨g, hg, hidle⟩ := h
    exact ⟨g, hg, fun hpc => hidle (hlistens rfl hpc)⟩
  | some r =>
    exact ⟨h.1, h.2.1, fun hpc => h.2.2.1 (hdrained hpc), fun hpc => h.2.2.2 (hserves hpc)⟩

lemma handle_ordered (hphase : c.Phase) (hpc : c.pc = .waiting)
    (hw : ∀ r, c.stream = some r → r.worker ≠ .returned) (h : c.Ordered) (e : ClientEvent) :
    (c.handle env e).Ordered := by
  have hactive : ∀ r, c.stream = some r → r.Active := by
    intro r hr
    have hfit : r.Active ∧ r.finalizeRequested = false := by
      simpa [Phase, hr, hpc, HandlerPc.Fits] using hphase
    exact hfit.1
  cases e with
  | start config =>
    simp only [handle]
    split
    · exact raise_ordered h _
    · next hnone =>
      split
      · exact raise_ordered h _
      · next session hsession =>
        have hnew := createLocalSttStreamSession_new hsession
        rw [Ordered, hnone, hpc] at h
        obtain ⟨g, hg, hidle⟩ := h
        obtain ⟨last, hlast, rfl⟩ := hidle rfl
        refine ⟨?_, .fresh rfl rfl rfl hnew.transcriptRevision (hlast.trans_eq ?_) hg,
          by rintro ⟨⟩, by rintro ⟨⟩⟩
        · exact hnew.streamId_eq.trans_lt (Nat.lt_succ_self _)
        · exact hnew.streamId_eq.symm
  | audio chunk =>
    simp only [handle]
    split
    · exact raise_ordered h _
    · next r hr =>
      rw [Ordered, hr] at h
      split
      · exact raise_ordered (by rw [Ordered, hr]; exact h) _
      · next session hsession =>
        rw [StreamSession.appendAudio_eq_ok hsession]
        exact ⟨h.1, h.2.1, by rintro ⟨⟩, fun _ => h.2.2.2 (by rw [hpc]; rfl)⟩
  | finalize =>
    simp only [handle]
    split
    · exact raise_ordered h _
    · next r hr =>
      split_ifs
      · exact raise_ordered h _
      · rw [Ordered, hr] at h
        exact ⟨h.1, h.2.1, by rintro ⟨⟩, fun _ => h.2.2.2 (by rw [hpc]; rfl)⟩
  | cancel =>
    simp only [handle]
    split
    · exact raise_ordered h _
    · next r hr =>
      have hr' := hactive r hr
      rw [Ordered, hr] at h
      refine ⟨h.1, h.2.1.cancel hr'.started (hr'.notClosed (hw r hr)) ?_ rfl,
        by rintro ⟨⟩, by rintro ⟨⟩⟩
      simp [QueueView.ended, StreamRuntime.queue, hr'.notFinal (hw r hr), hr'.kept]
  | ping message =>
    simp only [handle]
    split
    · next r hr =>
      split
      · next hsender => exact absurd hsender (hactive r hr).senderStarted
      · rw [Ordered, hr] at h
        have hopen := (hactive r hr).notClosed (hw r hr)
        exact ⟨h.1, h.2.1.pong (hactive r hr).started hopen _, by rintro ⟨⟩,
          fun _ => h.2.2.2 (by rw [hpc]; rfl)⟩
    · next hnone =>
      rw [Ordered, hnone, hpc] at h
      obtain ⟨g, hg, hidle⟩ := h
      refine Eq.mpr (congrArg (OrderedAt _ _ _) hnone) ?_
      exact ⟨g, StepSystem.run_concat_eq_some.mpr ⟨g, hg, rfl⟩, hidle⟩
  | pong message =>
    refine OrderedAt.move h (by rintro ⟨⟩) ?_ ?_
    · rw [hpc]
      exact fun _ => rfl
    · rw [hpc]
      exact fun _ _ => rfl
  | close => exact beginStop_ordered h (by rintro ⟨⟩)

lemma wake_ordered (hphase : c.Phase) (hpc : c.pc = .waiting) (h : c.Ordered)
    (hstep : c.wake env = some c') : c'.Ordered := by
  unfold wake at hstep
  dsimp only at hstep
  split at hstep
  · split at hstep <;> cases hstep
    · refine raise_ordered ?_ _
      exact h
    · exact OrderedAt.move h nofun nofun fun _ => nofun
  · split at hstep <;> cases hstep
    · refine raise_ordered ?_ _
      exact h
    · refine raise_ordered ?_ _
      exact h
  · next hreturned _ =>
    split at hstep <;> cases hstep
    · refine handle_ordered (c := { c with receive := .absent, handled := _ }) hphase hpc ?_ h _
      intro r hr hw
      exact hreturned (by rw [show c.stream = some r from hr]; exact congrArg some hw)
    · refine raise_ordered ?_ _
      exact h

lemma startedDecoder_ordered {r : StreamRuntime} (hr : r.Fresh) (hs : c.stream = some r)
    (h : c.Ordered) (result : Except Exn Bool) : (c.startedDecoder r result).Ordered := by
  cases result with
  | error e => exact raise_ordered h e
  | ok decoder =>
    rw [Ordered, hs] at h
    refine ⟨?_, StreamRuntime.ordered_startTasks h.2.1 hr decoder, nofun, nofun⟩
    cases decoder <;> exact h.1

lemma handlerSent_ordered (hphase : c.Phase) (h : c.Ordered) {result : Except Exn Unit}
    (hstep : c.handlerSent result = some c') : c'.Ordered := by
  unfold handlerSent at hstep
  split at hstep <;> cases hstep
  · next hpc =>
    refine OrderedAt.move h (by rintro ⟨⟩) (fun _ => by rw [hpc]; rfl) fun hnone _ => ?_
    have hnone' : c.stream = none := hnone
    simp [Phase, hnone', hpc, HandlerPc.Idle] at hphase
  · next hpc =>
    cases hs : c.stream with
    | none =>
      rw [Ordered, hs, hpc] at h
      obtain ⟨g, hg, hidle⟩ := h
      exact Eq.mpr (congrArg (OrderedAt _ _ _) hs) ⟨g, hg, fun _ => hidle rfl⟩
    | some r => simp [Phase, hs, hpc, HandlerPc.Fits] at hphase
  · exact OrderedAt.move h (by rintro ⟨⟩) (by rintro ⟨⟩) (by rintro _ ⟨⟩)
  · exact raise_ordered h _
  · exact raise_ordered h _
  · exact raise_ordered h _
  · exact OrderedAt.move h (by rintro ⟨⟩) (by rintro ⟨⟩) (by rintro _ ⟨⟩)

/-- The next position of `stop_runtime` is drained when the last one was. -/
lemma closeDecoder_ordered {r : StreamRuntime} {k : AfterStop} (hs : c.stream = some r)
    (hpc : c.pc = .stoppingWorker k) (h : c.Ordered) : (c.closeDecoder r k).Ordered := by
  rw [Ordered, hs, hpc] at h
  have hdrained : ∀ pc : HandlerPc, (pc.drained = true → k = .continueLoop) →
      (pc.drained = true → r.outgoingEvents = [] ∧ r.queue.ended = true) := by
    intro pc hk hpc
    obtain rfl := hk hpc
    exact h.2.2.1 rfl
  unfold closeDecoder
  split_ifs
  · refine Eq.mpr (congrArg (OrderedAt _ _ _) hs) ⟨h.1, h.2.1, hdrained _ ?_, nofun⟩
    cases k <;> simp [HandlerPc.drained]
  · refine ⟨h.1, h.2.1, hdrained (.cancellingDecoder k) ?_, nofun⟩
    cases k <;> simp [HandlerPc.drained]
  · refine ⟨h.1, h.2.1, hdrained (.closingDecoder k none) ?_, nofun⟩
    cases k <;> simp [HandlerPc.drained]

/-- A queue that was joined is empty. -/
lemma events_eq_nil {r : StreamRuntime} {sent : List Event} (h : r.queue.Ordered sent r.worker)
    (hjoined : r.unfinishedEvents = 0) : r.outgoingEvents = [] := by
  cases h with
  | fresh _ _ hevents => exact hevents
  | started _ hcount =>
    have hcount' : r.unfinishedEvents = r.outgoingEvents.length + r.sender.writing := hcount
    exact List.eq_nil_of_length_eq_zero (by omega)

lemma proceed_ordered {r : StreamRuntime} (hphase : c.Phase) (hs : c.stream = some r)
    (h : c.Ordered) (hstep : c.proceed r = some c') : c'.Ordered := by
  have hfit : c.pc.Fits r := by simpa [Phase, hs] using hphase
  have h' := h
  rw [Ordered, hs] at h'
  obtain ⟨hnext, hordered, -, hserves⟩ := h'
  unfold proceed at hstep
  split at hstep
  · next hpc =>
    split at hstep <;> cases hstep
    · exact OrderedAt.move h (by rintro ⟨⟩) (fun _ => by rw [hpc]; rfl) (by rintro _ ⟨⟩)
    · exact raise_ordered h _
  · next hpc =>
    rw [hpc] at hfit
    split_ifs at hstep with hjoined
    cases hstep
    refine Eq.mpr (congrArg (OrderedAt _ _ _) hs) ⟨hnext, hordered, fun _ => ?_, by rintro ⟨⟩⟩
    refine ⟨events_eq_nil hordered hjoined, ?_⟩
    simp [QueueView.ended, StreamRuntime.queue, hfit.1.returned_iff.mp hfit.2.2]
  · next hpc =>
    obtain ⟨last, hlast, hrun⟩ := h.idle hs (by rw [hpc]; rfl)
    split at hstep <;> cases hstep
    · exact raise_ordered h _
    · exact ⟨_, hrun, fun _ => ⟨last, hlast, rfl⟩⟩
    · exact ⟨_, hrun, fun _ => ⟨last, hlast, rfl⟩⟩
  · next hpc =>
    rw [hpc] at hfit
    split_ifs at hstep with hjoined
    cases hstep
    refine beginStop_ordered h fun _ => ⟨r, hs, events_eq_nil hordered hjoined, ?_⟩
    simp [QueueView.ended, StreamRuntime.queue, hfit.1.returned_iff.mp hfit.2.2]
  · next hpc =>
    rw [hpc] at hfit
    split_ifs at hstep with hjoined
    cases hstep
    refine beginStop_ordered h fun _ => ⟨r, hs, events_eq_nil hordered hjoined, ?_⟩
    simp [QueueView.ended, StreamRuntime.queue, hfit.1.canceled]
  · next hpc =>
    split at hstep <;> cases hstep <;> exact closeDecoder_ordered hs hpc h
  · next k hpc =>
    split at hstep <;> cases hstep
    refine afterStop_ordered h.accepted ?_
    rintro rfl
    exact h.idle hs (by rw [hpc]; rfl)
  · cases hstep

lemma raiseInStop_ordered (h : c.Ordered) (k : AfterStop) (e : Exn) :
    (c.raiseInStop k e).Ordered := by
  unfold raiseInStop
  split_ifs
  · exact raise_ordered h e
  · exact OrderedAt.move h nofun nofun fun _ => nofun

lemma handlerDecoderCanceled_ordered {r : StreamRuntime} (hs : c.stream = some r) (h : c.Ordered)
    {result : Except Exn Unit} (hstep : c.handlerDecoderCanceled r result = some c') :
    c'.Ordered := by
  unfold handlerDecoderCanceled at hstep
  split at hstep <;> cases hstep
  next k hpc =>
  rw [Ordered, hs, hpc] at h
  refine ⟨h.1, h.2.1, ?_, nofun⟩
  cases k with
  | continueLoop => exact fun _ => h.2.2.1 rfl
  | _ => nofun

lemma handlerDecoderClosed_ordered (h : c.Ordered) {result : Except Exn Unit}
    (hstep : c.handlerDecoderClosed result = some c') : c'.Ordered := by
  unfold handlerDecoderClosed at hstep
  split at hstep <;> cases hstep
  · next hpc =>
    refine OrderedAt.move h (fun hdrained => ?_) nofun fun _ => nofun
    rw [hpc]
    exact (HandlerPc.drained_closing _ _).trans hdrained
  · exact raiseInStop_ordered h _ _
  · exact raiseInStop_ordered h _ _

/-- The tasks of a drained stream emit nothing. -/
lemma drained_step {r r' : StreamRuntime} {a : StreamAct} (hfit : c.pc.Fits r)
    (hdrained : c.pc.drained = true) (hempty : r.outgoingEvents = [] ∧ r.queue.ended = true)
    (hstep : r.step env a = some r') : r'.outgoingEvents = [] ∧ r'.queue.ended = true := by
  have hclosed : r.closed = true := by
    revert hdrained hfit
    cases c.pc with
    | finalizeAwaitingSender =>
      exact fun hfit _ => hfit.1.closed_eq.trans (hfit.1.returned_iff.mp hfit.2.2)
    | stoppingWorker k => exact fun hfit _ => hfit
    | cancellingDecoder k => exact fun hfit _ => hfit.1
    | closingDecoder k pending => exact fun hfit _ => hfit.1
    | stoppingSender k => exact fun hfit _ => hfit.1
    | _ => nofun
  cases ha : a.isSender with
  | false =>
    cases (StreamRuntime.step_emits hstep ha).2 with
    | quiet heq =>
      exact ⟨(congrArg QueueView.events heq).trans hempty.1,
        (congrArg QueueView.ended heq).trans hempty.2⟩
    | refused _ heq =>
      exact ⟨(congrArg QueueView.events heq).trans hempty.1,
        (congrArg QueueView.ended heq).trans hempty.2⟩
    | emitted _ _ hopen => exact absurd (hclosed.symm.trans hopen) (by simp)
  | true =>
    cases a with
    | senderTake => simp [StreamRuntime.step, StreamRuntime.senderTake, hempty.1] at hstep
    | senderSent result =>
      simp only [StreamRuntime.step, StreamRuntime.senderSent] at hstep
      split at hstep <;> cases hstep <;> exact hempty
    | senderExit =>
      simp only [StreamRuntime.step, StreamRuntime.senderExit] at hstep
      split at hstep
      · split_ifs at hstep
        cases hstep
        exact hempty
      · cases hstep
    | _ => cases ha

/-- The sender is cancelled in other positions. -/
lemma serves_of_cancelsSender {pc : HandlerPc} (h : cancelsSender pc = true) :
    pc.serves = false := by
  cases pc <;> first | rfl | cases h

/-- **The step lemma.** Every step keeps the events in order. -/
theorem step_ordered {a : Act} (hphase : c.Phase) (h : c.Ordered)
    (hstep : c.step env a = some c') : c'.Ordered := by
  cases a with
  | receive result =>
    simp only [step] at hstep
    split at hstep <;> cases hstep
    exact h
  | wake =>
    simp only [step] at hstep
    split at hstep
    · next hpc => exact wake_ordered hphase hpc h hstep
    · cases hstep
  | startedDecoder result =>
    simp only [step] at hstep
    split at hstep <;> cases hstep
    next hpc hs =>
    exact startedDecoder_ordered (by simpa [Phase, hs, hpc, HandlerPc.Fits] using hphase) hs h _
  | handlerSent result => exact handlerSent_ordered hphase h hstep
  | proceed =>
    obtain ⟨r, hs, hstep⟩ := Option.bind_eq_some_iff.mp hstep
    exact proceed_ordered hphase hs h hstep
  | handlerDecoderCanceled result =>
    obtain ⟨r, hs, hstep⟩ := Option.bind_eq_some_iff.mp hstep
    exact handlerDecoderCanceled_ordered hs h hstep
  | handlerDecoderClosed result => exact handlerDecoderClosed_ordered h hstep
  | senderCancel =>
    simp only [step] at hstep
    split_ifs at hstep with hpc
    obtain ⟨r, hs, hstep⟩ := Option.bind_eq_some_iff.mp hstep
    obtain ⟨r', hr', rfl⟩ := Option.map_eq_some_iff.mp hstep
    rw [Ordered, hs] at h
    have hordered := StreamRuntime.ordered_senderCancel h.2.1 hr'
    obtain ⟨unfinished, rfl⟩ := StreamRuntime.senderCancel_eq hr'
    refine ⟨h.1, hordered, h.2.2.1, fun hserves => ?_⟩
    exact absurd (serves_of_cancelsSender hpc) (by simp [hserves])
  | task a =>
    obtain ⟨r, hs, hstep⟩ := Option.bind_eq_some_iff.mp hstep
    obtain ⟨r', hr', rfl⟩ := Option.map_eq_some_iff.mp hstep
    rw [Ordered, hs] at h
    refine ⟨?_, StreamRuntime.ordered_step h.2.1 hr', fun hdrained => ?_, fun hserves => ?_⟩
    · exact ((StreamRuntime.step_frame hr').streamId).trans_lt h.1
    · exact drained_step (by simpa [Phase, hs] using hphase) hdrained (h.2.2.1 hdrained) hr'
    · exact StreamRuntime.step_notCancelled hr' (h.2.2.2 hserves)
  | modelLoaded =>
    cases hstep
    exact h

/-- The events are in order in every reachable state. -/
theorem ordered_of_reaches (h : (connection env).Reaches {} c) : c.Ordered := by
  refine (StepSystem.invariant (M := connection env) (I := fun c => c.Phase ∧ c.Ordered) ?_ ?_ h).2
  · rintro c a c' ⟨hphase, hordered⟩ hstep
    exact ⟨(step_moves hphase (tasksMeet_true c a) hstep).phase, step_ordered hphase hordered hstep⟩
  · exact ⟨phase_init, ⟨.idle 0, rfl, fun _ => ⟨0, Nat.zero_lt_one, rfl⟩⟩⟩

end Conn
end RtcAsr
