import RtcAsr.Server.FinalizeServed

/-!
# Joining the queue of a dead sender

The handler joins the queue of its stream for a finalize, an auto-final and a cancel.  The sender
ends with the first write that fails, and counts only the event of that write as done, so a join is
served exactly when no event is left behind by a failed write.  A join that is not served is never
left.
-/

namespace RtcAsr

/-- A write of the sender failed. -/
def SenderPc.failed : SenderPc → Bool
  | .raised _ => true
  | _ => false

/-- The handler is blocked in `runtime.outgoing_events.join()`. -/
def HandlerPc.joins : HandlerPc → Bool
  | .finalizeJoining => true
  | .autoFinalJoining => true
  | .cancelJoining => true
  | _ => false

namespace StreamRuntime

/-- As long as events are unfinished, the sender runs. -/
def QueueServed (r : StreamRuntime) : Prop := r.unfinishedEvents ≠ 0 → r.sender.done = false

/-- A queue is served when a failed write left no event behind. -/
lemma queueServed_iff {sent : List Event} {r : StreamRuntime} (h : r.queue.Ordered sent r.worker)
    (hstarted : r.worker ≠ .absent) (hkept : r.sender ≠ .cancelled) :
    r.QueueServed ↔ (r.sender.failed = true → r.outgoingEvents = []) := by
  cases h with
  | fresh hw => exact absurd hw hstarted
  | started _ hcount _ hexit =>
    have hcount' : r.unfinishedEvents = r.outgoingEvents.length + r.sender.writing := hcount
    unfold QueueServed
    cases hs : r.sender with
    | raised e =>
      rw [hcount', hs]
      simp [SenderPc.done, SenderPc.failed, SenderPc.writing]
    | returned =>
      have hevents : r.outgoingEvents = [] := (hexit hs).2
      rw [hcount', hs, hevents]
      simp [SenderPc.failed, SenderPc.writing]
    | cancelled => exact absurd hs hkept
    | _ => simp [SenderPc.done, SenderPc.failed]

end StreamRuntime

namespace Conn

/-- **The handler joins only a queue whose sender runs**, unless the queue is done. -/
def JoinServed (c : Conn) : Prop :=
  c.pc.joins = true → ∀ r, c.stream = some r → r.QueueServed

/-- The handler can get out of its join. -/
def Released (env : ServerEnv) (c : Conn) : Prop :=
  c.pc.joins = true → ∃ bs c', (connection env).run c bs = some c' ∧ c'.pc.joins = false

/-- No failed write leaves an event behind for a join: while the handler joins, a write fails only
with an empty queue; a join of a finalize or an auto-final begins after a failed write only with an
empty queue; and a cancel, which queues its warning, is not taken after a failed write. -/
def LeavesNone (c : Conn) (a : Act) : Prop :=
  ∀ r, c.stream = some r →
    match a with
    | .task (.senderSent (.error _)) => c.pc.joins = true → r.outgoingEvents = []
    | .proceed =>
      c.pc = .finalizeAwaitingWorker → r.worker = .returned → r.sender.failed = true →
        r.outgoingEvents = []
    | .wake =>
      (r.worker = .returned → (∀ e, c.receive ≠ .done (.error e)) → r.sender.failed = true →
        r.outgoingEvents = []) ∧
      (r.worker.done = false → c.receive = .done (.ok .cancel) → r.sender.failed = false)
    | _ => True

variable {env : ServerEnv} {c c' : Conn} {r : StreamRuntime}

/-! ## Where a join begins -/

/-- The sender of a joined queue was started and is not cancelled. -/
def Kept (c : Conn) : Prop :=
  c.pc.joins = true → ∀ r, c.stream = some r → r.sender ≠ .absent ∧ r.sender ≠ .cancelled

/-- What a join needs to know of the state: the position of the handler, the order of the events,
and that the sender is kept. -/
structure Joinable (c : Conn) : Prop where
  phase : c.Phase
  ordered : c.Ordered
  kept : c.Kept

lemma afterStop_joins (c : Conn) (k : AfterStop) : (c.afterStop k).pc.joins = false := by
  cases k <;> rfl

lemma beginStop_joins (c : Conn) (k : AfterStop) : (c.beginStop k).pc.joins = false := by
  unfold beginStop
  split
  · exact afterStop_joins c k
  · rfl

lemma raise_joins (c : Conn) (e : Exn) : (c.raise e).pc.joins = false := by
  unfold raise
  split <;> exact beginStop_joins _ _

/-- Only a cancel makes the handler join at once. -/
lemma handle_joins {e : ClientEvent} (h : (c.handle env e).pc.joins = true) : e = .cancel := by
  have habsurd : ∀ {b : Bool}, b = true → b = false → e = .cancel := by
    rintro b rfl hb
    cases hb
  cases e with
  | cancel => rfl
  | start config =>
    simp only [handle] at h
    split at h
    · exact habsurd h (raise_joins _ _)
    · split at h
      · exact habsurd h (raise_joins _ _)
      · cases h
  | audio chunk =>
    simp only [handle] at h
    split at h
    · exact habsurd h (raise_joins _ _)
    · split at h
      · exact habsurd h (raise_joins _ _)
      · cases h
  | finalize =>
    simp only [handle] at h
    split at h
    · exact habsurd h (raise_joins _ _)
    · split_ifs at h
      · exact habsurd h (raise_joins _ _)
      · cases h
  | ping message =>
    simp only [handle] at h
    split at h
    · split at h <;> cases h
    · cases h
  | pong message => cases h
  | close => exact habsurd h (beginStop_joins _ _)

/-- A step after which the handler does not join leaves nothing to show, if it asks for nothing. -/
lemma not_joins (h : c'.pc.joins = false) {P : Prop} (hP : P) :
    c'.Kept ∧ (c'.JoinServed ↔ P) :=
  ⟨fun hjoins => absurd (hjoins.symm.trans h) (by simp),
    fun _ => hP, fun _ hjoins => absurd (hjoins.symm.trans h) (by simp)⟩

/-- The stream of a joined queue is started. -/
lemma started_of_joins (hphase : c.Phase) (hs : c.stream = some r) (hjoins : c.pc.joins = true) :
    r.worker ≠ .absent := by
  have hfit : c.pc.Fits r := by simpa [Phase, hs] using hphase
  revert hjoins hfit
  cases c.pc with
  | finalizeJoining => exact fun _ hfit => hfit.1.started
  | autoFinalJoining => exact fun _ hfit => hfit.1.started
  | cancelJoining => exact fun _ hfit => hfit.1.started
  | _ => rintro ⟨⟩

/-- A joined queue is served when a failed write left no event behind. -/
lemma Joinable.served_iff (h : c.Joinable) (hs : c.stream = some r) (hjoins : c.pc.joins = true) :
    c.JoinServed ↔ (r.sender.failed = true → r.outgoingEvents = []) := by
  have hordered := h.ordered
  rw [Ordered, hs] at hordered
  rw [← StreamRuntime.queueServed_iff hordered.2.1 (started_of_joins h.phase hs hjoins)
    (h.kept hjoins r hs).2]
  constructor
  · exact fun hserved => hserved hjoins r hs
  · rintro hserved - r' hr'
    obtain rfl := Option.some.inj (hs.symm.trans hr')
    exact hserved

/-- A position in which the sender runs until it is done has started and not cancelled it. -/
lemma Joinable.serving (h : c.Joinable) (hs : c.stream = some r) (hactive : r.Active)
    (hpc : c.pc.serves = true) : r.sender ≠ .absent ∧ r.sender ≠ .cancelled := by
  have hordered := h.ordered
  rw [Ordered, hs] at hordered
  exact ⟨hactive.senderStarted, hordered.2.2.2 hpc⟩

/-- The wake-up of the handler. -/
lemma wake_joins (h : c.Joinable) (hpc : c.pc = .waiting) (hphase : c'.Phase)
    (hordered : c'.Ordered) (hstep : c.wake env = some c') :
    c'.Kept ∧ (c'.JoinServed ↔ c.LeavesNone .wake) := by
  have hkept : ∀ r, c.stream = some r → r.sender ≠ .absent ∧ r.sender ≠ .cancelled := by
    intro r hr
    have hfit : r.Active ∧ r.finalizeRequested = false := by
      simpa [Phase, hr, hpc, HandlerPc.Fits] using h.phase
    exact h.serving hr hfit.1 (by rw [hpc]; rfl)
  unfold wake at hstep
  dsimp only at hstep
  cases hs : c.stream with
  | none =>
    have hnone : c.LeavesNone .wake := fun r hr => absurd (hs.symm.trans hr) (by simp)
    rw [hs] at hstep
    simp only [Option.map_none] at hstep
    split at hstep <;> cases hstep
    · refine not_joins (Bool.eq_false_iff.mpr fun hjoins => ?_) hnone
      obtain rfl := handle_joins hjoins
      simp [handle, raise_joins] at hjoins
    · exact not_joins (raise_joins _ _) hnone
  | some r =>
    rw [hs] at hstep
    simp only [Option.map_some] at hstep
    have hleaves : c.LeavesNone .wake ↔
        (r.worker = .returned → (∀ e, c.receive ≠ .done (.error e)) → r.sender.failed = true →
          r.outgoingEvents = []) ∧
        (r.worker.done = false → c.receive = .done (.ok .cancel) → r.sender.failed = false) :=
      ⟨fun hleaves => hleaves r hs, fun hleaves r' hr' =>
        Option.some.inj (hs.symm.trans hr') ▸ hleaves⟩
    rw [hleaves]
    split at hstep
    · next hw =>
      have hw : r.worker = .returned := Option.some.inj hw
      split at hstep <;> cases hstep
      · next e hreceive =>
        refine not_joins (raise_joins _ _) ⟨fun _ hnone => absurd hreceive (hnone e), ?_⟩
        simp [hw, WorkerPc.done]
      · next hreceive =>
        have hkept' : Conn.Kept
            { c with stream := some r, receive := .absent, pc := .autoFinalJoining } :=
          fun _ r' hr' => Option.some.inj hr' ▸ hkept r hs
        refine ⟨hkept', ?_⟩
        rw [Joinable.served_iff ⟨hphase, hordered, hkept'⟩ (r := r) rfl rfl]
        simp only [hw, WorkerPc.done]
        exact ⟨fun hserved => ⟨fun _ _ => hserved, by rintro ⟨⟩⟩,
          fun hserved => hserved.1 trivial fun e he => hreceive e he⟩
    · next e hw =>
      have hw : r.worker = .raised e := Option.some.inj hw
      have hdone : (r.worker = .returned → (∀ e, c.receive ≠ .done (.error e)) →
            r.sender.failed = true → r.outgoingEvents = []) ∧
          (r.worker.done = false → c.receive = .done (.ok .cancel) → r.sender.failed = false) := by
        simp [hw, WorkerPc.done]
      split at hstep <;> cases hstep
      · exact not_joins (raise_joins _ _) hdone
      · exact not_joins (raise_joins _ _) hdone
    · next hreturned hraised =>
      have hreturned : r.worker ≠ .returned := fun hw => hreturned (congrArg some hw)
      split at hstep <;> cases hstep
      · next e hreceive =>
        by_cases he : e = .cancel
        · subst he
          have hkept' : Conn.Kept (handle env { c with
              stream := some r, receive := .absent, handled := c.handled ++ [.cancel] } .cancel) :=
            fun _ r' hr' => Option.some.inj hr' ▸ hkept r hs
          refine ⟨hkept', ?_⟩
          rw [Joinable.served_iff ⟨hphase, hordered, hkept'⟩ rfl rfl]
          have hdone : r.worker.done = false := by
            cases hw : r.worker with
            | returned => exact absurd hw hreturned
            | raised e => exact absurd (congrArg some hw) (hraised e)
            | _ => rfl
          simp only [hreturned, hdone, hreceive]
          simp [StreamRuntime.requestCancel, StreamRuntime.enqueueEvent]
        · refine not_joins (Bool.eq_false_iff.mpr fun hjoins => he (handle_joins hjoins)) ?_
          refine ⟨fun hw => absurd hw hreturned, fun _ hcancel => ?_⟩
          rw [hreceive] at hcancel
          simp only [ReceiveTask.done.injEq, Except.ok.injEq] at hcancel
          exact absurd hcancel he
      · next e hreceive =>
        refine not_joins (raise_joins _ _) ⟨fun hw => absurd hw hreturned, fun _ hcancel => ?_⟩
        rw [hreceive] at hcancel
        cases hcancel

/-- A wait of the handler ends. -/
lemma proceed_joins (h : c.Joinable) (hs : c.stream = some r) (hphase : c'.Phase)
    (hordered : c'.Ordered) (hstep : c.proceed r = some c') :
    c'.Kept ∧ (c'.JoinServed ↔ c.LeavesNone .proceed) := by
  have hleaves : c.pc ≠ .finalizeAwaitingWorker → c.LeavesNone .proceed :=
    fun hpc _ _ hpc' => absurd hpc' hpc
  unfold proceed at hstep
  split at hstep
  · next hpc =>
    have hfit : r.Active ∧ r.finalizeRequested = true := by
      simpa [Phase, hs, hpc, HandlerPc.Fits] using h.phase
    have hkept := h.serving hs hfit.1 (by rw [hpc]; rfl)
    split at hstep <;> cases hstep
    · next hw =>
      have hkept' : Conn.Kept { c with pc := .finalizeJoining } :=
        fun _ r' hr' => Option.some.inj (hs.symm.trans hr') ▸ hkept
      refine ⟨hkept', ?_⟩
      rw [Joinable.served_iff ⟨hphase, hordered, hkept'⟩ hs rfl]
      constructor
      · rintro hserved r' hr' - -
        obtain rfl := Option.some.inj (hs.symm.trans hr')
        exact hserved
      · exact fun hserved => hserved r hs hpc hw
    · next e hw =>
      refine not_joins (raise_joins _ _) fun r' hr' _ hreturned => ?_
      obtain rfl := Option.some.inj (hs.symm.trans hr')
      rw [hw] at hreturned
      cases hreturned
  · next hpc =>
    split_ifs at hstep
    cases hstep
    exact not_joins rfl (hleaves (by rw [hpc]; simp))
  · next hpc =>
    have hP := hleaves (by rw [hpc]; simp)
    split at hstep <;> cases hstep
    · exact not_joins (raise_joins _ _) hP
    · exact not_joins rfl hP
    · exact not_joins rfl hP
  · next hpc =>
    split_ifs at hstep
    cases hstep
    exact not_joins (beginStop_joins _ _) (hleaves (by rw [hpc]; simp))
  · next hpc =>
    split_ifs at hstep
    cases hstep
    exact not_joins (beginStop_joins _ _) (hleaves (by rw [hpc]; simp))
  · next hpc =>
    have hclose : ∀ k, (c.closeDecoder r k).pc.joins = false := by
      intro k
      unfold closeDecoder
      split_ifs <;> rfl
    split at hstep <;> cases hstep <;> exact not_joins (hclose _) (hleaves (by rw [hpc]; simp))
  · next hpc =>
    split at hstep <;> cases hstep
    exact not_joins (afterStop_joins _ _) (hleaves (by rw [hpc]; simp))
  · cases hstep

/-- Joining, the worker puts nothing into the queue. -/
lemma worker_queue {r' : StreamRuntime} {a : StreamAct} (hphase : c.Phase) (hs : c.stream = some r)
    (hjoins : c.pc.joins = true) (ha : a.isSender = false) (hstep : r.step env a = some r') :
    r'.sender = r.sender ∧ r'.outgoingEvents = r.outgoingEvents := by
  obtain ⟨hw, hemits⟩ := StreamRuntime.step_emits hstep ha
  have hfit : c.pc.Fits r := by simpa [Phase, hs] using hphase
  refine ⟨hemits.sender, ?_⟩
  cases hemits with
  | quiet heq => exact congrArg QueueView.events heq
  | refused _ heq => exact congrArg QueueView.events heq
  | emitted _ hkept =>
    have hkept : r.cancelRequested = false := hkept
    revert hjoins hfit
    cases c.pc with
    | finalizeJoining =>
      rintro - ⟨-, -, hreturned⟩
      rw [hreturned] at hw
      cases hw
    | autoFinalJoining =>
      rintro - ⟨-, -, hreturned⟩
      rw [hreturned] at hw
      cases hw
    | cancelJoining =>
      rintro - ⟨hcanceling, -⟩
      exact absurd (hcanceling.canceled.symm.trans hkept) (by simp)
    | _ => rintro ⟨⟩

/-- A step of the worker or of the sender. -/
lemma task_joins {r' : StreamRuntime} {a : StreamAct} (h : c.Joinable) (hserved : c.JoinServed)
    (hs : c.stream = some r) (hr' : r.step env a = some r') (hstream : c'.stream = some r')
    (hpc : c'.pc = c.pc) (hphase : c'.Phase) (hordered : c'.Ordered) :
    c'.Kept ∧ (c'.JoinServed ↔ c.LeavesNone (.task a)) := by
  cases hjoins : c.pc.joins with
  | false =>
    refine not_joins (by rw [hpc, hjoins]) fun t ht => ?_
    split <;> first | trivial | simp_all
  | true =>
    have hkept' : c'.Kept := by
      rintro - t ht
      obtain rfl := Option.some.inj (hstream.symm.trans ht)
      obtain ⟨hstarted, hkept⟩ := h.kept hjoins r hs
      refine ⟨?_, StreamRuntime.step_notCancelled hr' hkept⟩
      cases ha : a.isSender with
      | true =>
        obtain ⟨_, _, _, hsender, rfl⟩ := StreamRuntime.step_sender hr' ha
        exact hsender
      | false => rwa [(StreamRuntime.step_emits hr' ha).2.sender]
    refine ⟨hkept', ?_⟩
    rw [Joinable.served_iff ⟨hphase, hordered, hkept'⟩ hstream (by rw [hpc, hjoins])]
    have hserved := (h.served_iff hs hjoins).mp hserved
    cases ha : a.isSender with
    | false =>
      obtain ⟨hsender, hevents⟩ := worker_queue h.phase hs hjoins ha hr'
      rw [hsender, hevents]
      refine ⟨fun _ t _ => ?_, fun _ => hserved⟩
      cases a <;> trivial
    | true =>
      cases a with
      | senderTake =>
        simp only [StreamRuntime.step, StreamRuntime.senderTake] at hr'
        split at hr' <;> cases hr'
        exact ⟨fun _ _ _ => trivial, by rintro _ ⟨⟩⟩
      | senderExit =>
        simp only [StreamRuntime.step, StreamRuntime.senderExit] at hr'
        split at hr'
        · split_ifs at hr'
          cases hr'
          exact ⟨fun _ _ _ => trivial, by rintro _ ⟨⟩⟩
        · cases hr'
      | senderSent result =>
        simp only [StreamRuntime.step, StreamRuntime.senderSent] at hr'
        split at hr' <;> cases hr'
        · refine ⟨fun _ _ _ => trivial, fun _ hfailed => ?_⟩
          dsimp only at hfailed
          split_ifs at hfailed
          · cases hfailed
          · cases hfailed
        · constructor
          · rintro hempty t ht -
            obtain rfl := Option.some.inj (hs.symm.trans ht)
            exact hempty rfl
          · exact fun hempty _ => hempty r hs hjoins
      | _ => cases ha

/-- **The step lemma.** A step keeps what a join needs, and from a served state it reaches a served
state exactly when it leaves no event behind. -/
theorem step_joins {a : Act} (h : c.Joinable) (hserved : c.JoinServed)
    (hstep : c.step env a = some c') : c'.Joinable ∧ (c'.JoinServed ↔ c.LeavesNone a) := by
  have hphase := (step_moves h.phase (tasksMeet_true c a) hstep).phase
  have hordered := step_ordered h.phase h.ordered hstep
  suffices hjoins : c'.Kept ∧ (c'.JoinServed ↔ c.LeavesNone a) from
    ⟨⟨hphase, hordered, hjoins.1⟩, hjoins.2⟩
  cases a with
  | receive result =>
    simp only [step] at hstep
    split at hstep <;> cases hstep
    exact ⟨h.kept, fun _ _ _ => trivial, fun _ => hserved⟩
  | wake =>
    simp only [step] at hstep
    split at hstep
    · next hpc => exact wake_joins h hpc hphase hordered hstep
    · cases hstep
  | startedDecoder result =>
    simp only [step] at hstep
    split at hstep <;> cases hstep
    cases result with
    | error e => exact not_joins (raise_joins _ _) fun _ _ => trivial
    | ok decoder => exact not_joins rfl fun _ _ => trivial
  | handlerSent result =>
    simp only [step, handlerSent] at hstep
    split at hstep <;> cases hstep
    · exact not_joins rfl fun _ _ => trivial
    · exact not_joins rfl fun _ _ => trivial
    · exact not_joins rfl fun _ _ => trivial
    · exact not_joins (raise_joins _ _) fun _ _ => trivial
    · exact not_joins (raise_joins _ _) fun _ _ => trivial
    · exact not_joins (raise_joins _ _) fun _ _ => trivial
    · exact not_joins rfl fun _ _ => trivial
  | proceed =>
    obtain ⟨r, hs, hstep⟩ := Option.bind_eq_some_iff.mp hstep
    exact proceed_joins h hs hphase hordered hstep
  | handlerDecoderCanceled result =>
    obtain ⟨r, hs, hstep⟩ := Option.bind_eq_some_iff.mp hstep
    unfold handlerDecoderCanceled at hstep
    split at hstep <;> cases hstep
    exact not_joins rfl fun _ _ => trivial
  | handlerDecoderClosed result =>
    have hraise : ∀ k e, (c.raiseInStop k e).pc.joins = false := by
      intro k e
      unfold raiseInStop
      split_ifs
      · exact raise_joins _ _
      · rfl
    simp only [step, handlerDecoderClosed] at hstep
    split at hstep <;> cases hstep
    · exact not_joins rfl fun _ _ => trivial
    · exact not_joins (hraise _ _) fun _ _ => trivial
    · exact not_joins (hraise _ _) fun _ _ => trivial
  | senderCancel =>
    simp only [step] at hstep
    split_ifs at hstep with hpc
    obtain ⟨r, hs, hstep⟩ := Option.bind_eq_some_iff.mp hstep
    obtain ⟨r', hr', rfl⟩ := Option.map_eq_some_iff.mp hstep
    refine not_joins ?_ fun _ _ => trivial
    show c.pc.joins = false
    revert hpc
    cases c.pc <;> simp [cancelsSender, HandlerPc.joins]
  | task a =>
    obtain ⟨r, hs, hstep⟩ := Option.bind_eq_some_iff.mp hstep
    obtain ⟨r', hr', rfl⟩ := Option.map_eq_some_iff.mp hstep
    exact task_joins h hserved hs hr' rfl rfl hphase hordered
  | modelLoaded =>
    cases hstep
    exact ⟨h.kept, fun _ _ _ => trivial, fun _ => hserved⟩

/-! ## Leaving a join -/

/-- A joining handler has a stream. -/
lemma stream_of_joins (hphase : c.Phase) (hjoins : c.pc.joins = true) : ∃ r, c.stream = some r := by
  cases hs : c.stream with
  | some r => exact ⟨r, rfl⟩
  | none =>
    have hidle : c.pc.Idle := by simpa [Phase, hs] using hphase
    revert hjoins hidle
    cases c.pc <;> simp [HandlerPc.joins, HandlerPc.Idle]

/-- A join of a queue that is done ends. -/
lemma proceed_of_joined (hjoins : c.pc.joins = true) (hs : c.stream = some r)
    (hdone : r.unfinishedEvents = 0) :
    ∃ c', c.step env .proceed = some c' ∧ c'.pc.joins = false := by
  have hproceed : c.step env .proceed = c.proceed r := by simp [step, hs]
  rw [hproceed]
  cases hpc : c.pc with
  | finalizeJoining =>
    exact ⟨{ c with pc := .finalizeAwaitingSender }, by simp [proceed, hpc, hdone], rfl⟩
  | autoFinalJoining =>
    exact ⟨c.beginStop .continueLoop, by simp [proceed, hpc, hdone], beginStop_joins _ _⟩
  | cancelJoining =>
    exact ⟨c.beginStop .continueLoop, by simp [proceed, hpc, hdone], beginStop_joins _ _⟩
  | _ =>
    rw [hpc] at hjoins
    cases hjoins

/-- A running sender with unfinished events takes a step that succeeds. -/
lemma sender_writes {sent : List Event} (h : r.queue.Ordered sent r.worker)
    (hstarted : r.sender ≠ .absent) (hserved : r.QueueServed) (hleft : r.unfinishedEvents ≠ 0) :
    ∃ a r', r.step env a = some r' ∧ a.isSender = true ∧ ∀ e, a ≠ .senderSent (.error e) := by
  have hruns := hserved hleft
  cases h with
  | fresh _ hsender => exact absurd hsender hstarted
  | started _ hcount =>
    have hcount' : r.unfinishedEvents = r.outgoingEvents.length + r.sender.writing := hcount
    cases hsender : r.sender with
    | idle =>
      rw [hsender] at hcount'
      obtain ⟨e, es, hevents⟩ : ∃ e es, r.outgoingEvents = e :: es :=
        List.exists_cons_of_ne_nil fun hnil => hleft (by rw [hcount', hnil]; rfl)
      exact ⟨.senderTake, { r with sender := .sending e, outgoingEvents := es },
        by simp [StreamRuntime.step, StreamRuntime.senderTake, hsender, hevents], rfl, by simp⟩
    | sending e =>
      have hsome : (r.step env (.senderSent (.ok ()))).isSome = true := by
        simp [StreamRuntime.step, StreamRuntime.senderSent, hsender]
      obtain ⟨r', hr'⟩ := Option.isSome_iff_exists.mp hsome
      exact ⟨_, r', hr', rfl, by simp⟩
    | absent => exact absurd hsender hstarted
    | returned | cancelled | raised =>
      rw [hsender] at hruns
      cases hruns

/-- **A served join is left** once the writes that remain succeed. -/
theorem Joinable.released (h : c.Joinable) (hserved : c.JoinServed) : c.Released env := by
  intro hjoins
  obtain ⟨r, hs⟩ := stream_of_joins h.phase hjoins
  -- the induction is on the steps the sender takes until the queue is empty
  induction hn : r.unsent using Nat.strong_induction_on generalizing c r with
  | _ n ih =>
    by_cases hleft : r.unfinishedEvents = 0
    · obtain ⟨c', hstep, hjoins'⟩ : ∃ c', c.step env .proceed = some c' ∧ c'.pc.joins = false :=
        proceed_of_joined hjoins hs hleft
      exact ⟨[.proceed], c', StepSystem.run_cons_eq_some.mpr ⟨c', hstep, rfl⟩, hjoins'⟩
    · have hordered := h.ordered
      rw [Ordered, hs] at hordered
      obtain ⟨hstarted, hkept⟩ := h.kept hjoins r hs
      obtain ⟨a, r', hr', ha, hok⟩ : ∃ a r', r.step env a = some r' ∧ a.isSender = true ∧
          ∀ e, a ≠ .senderSent (.error e) :=
        sender_writes hordered.2.1 hstarted (hserved hjoins r hs) hleft
      have hless : r'.unsent < r.unsent := by
        refine (StreamRuntime.sender_progress hordered.2.1 hstarted hkept ?_ hleft).2 a r' ha hr'
        intro e he
        have hruns := hserved hjoins r hs hleft
        rw [he] at hruns
        cases hruns
      obtain ⟨c', hstep, hs', hpc⟩ : ∃ c', c.step env (.task a) = some c' ∧
          c'.stream = some r' ∧ c'.pc = c.pc := by
        simp [step, hs, hr']
      obtain ⟨h', hserved'⟩ := step_joins h hserved hstep
      have hleaves : c.LeavesNone (.task a) := by
        intro t _
        split
        · next heq => exact absurd (Act.task.inj heq) (hok _)
        all_goals trivial
      obtain ⟨bs, c'', hrun, hout⟩ := ih r'.unsent (hn ▸ hless) h' (hserved'.mpr hleaves)
        (by rw [hpc, hjoins]) r' hs' rfl
      exact ⟨.task a :: bs, c'', StepSystem.run_cons_eq_some.mpr ⟨c', hstep, hrun⟩, hout⟩

/-! ## The rule -/

lemma joinable_init : Joinable {} where
  phase := phase_init
  ordered := ⟨.idle 0, rfl, fun _ => ⟨0, Nat.zero_lt_one, rfl⟩⟩
  kept := nofun

/-- **Every join is served exactly when failed writes leave no event behind**: throughout the run
the handler joins only queues whose sender runs, and gets out of every join, if and only if each
step of the run leaves no event behind for a join. -/
theorem joinServed_iff_leavesNone {as : List Act} {c : Conn}
    (hrun : (connection env).run {} as = some c) :
    (connection env).Throughout (fun c => c.JoinServed ∧ c.Released env) {} as ↔
      (connection env).Along LeavesNone {} as := by
  refine StepSystem.throughout_iff_along (J := Joinable) ?_ joinable_init ⟨nofun, nofun⟩ hrun
  rintro c a c' h ⟨hserved, -⟩ hstep
  obtain ⟨h', hiff⟩ := step_joins h hserved hstep
  exact ⟨h', fun hI => hiff.mp hI.1, fun hC => ⟨hiff.mpr hC, h'.released (hiff.mpr hC)⟩⟩

/-- The writes of the sender succeed. -/
def WritesSucceed (c : Conn) (a : Act) : Prop :=
  c.TasksMeet (fun _ a => ∀ e, a ≠ .senderSent (.error e)) a

/-- Writes that succeed leave no sender that failed. -/
lemma change_not_failed {r r' : StreamRuntime} (h : r.sender.failed = false)
    (hchange : StreamRuntime.Change env (fun _ a => ∀ e, a ≠ .senderSent (.error e)) r r') :
    r'.sender.failed = false := by
  cases hchange with
  | @task _ a hQ hstep =>
    cases ha : a.isSender with
    | false => rwa [(StreamRuntime.step_emits hstep ha).2.sender]
    | true =>
      cases a with
      | senderTake =>
        simp only [StreamRuntime.step, StreamRuntime.senderTake] at hstep
        split at hstep <;> cases hstep
        rfl
      | senderSent result =>
        simp only [StreamRuntime.step, StreamRuntime.senderSent] at hstep
        split at hstep <;> cases hstep
        · dsimp only
          split_ifs <;> rfl
        · exact absurd rfl (hQ _)
      | senderExit =>
        simp only [StreamRuntime.step, StreamRuntime.senderExit] at hstep
        split at hstep
        · split_ifs at hstep
          cases hstep
          rfl
        · cases hstep
      | _ => cases ha
  | senderCancel hcancel =>
    obtain ⟨_, rfl⟩ := StreamRuntime.senderCancel_eq hcancel
    rfl
  | startTasks => rfl
  | _ => exact h

/-- Writes that succeed leave no event behind. -/
theorem leavesNone_of_writesSucceed {as : List Act}
    (h : (connection env).Along WritesSucceed {} as) : (connection env).Along LeavesNone {} as := by
  refine StepSystem.Along.imp_of_invariant
    (I := fun c => c.Phase ∧ ∀ r, c.stream = some r → r.sender.failed = false) ?_ ?_
    ⟨phase_init, by simp⟩ h
  · rintro c a c' ⟨hphase, hs⟩ hok hstep
    have hmoves := step_moves hphase hok hstep
    exact ⟨hmoves.phase, evolves_keeps (fun _ _ _ _ _ => rfl) (fun _ _ => change_not_failed)
      hmoves.evolves hs⟩
  · rintro c a ⟨-, hs⟩ hok r hr
    have hfailed := hs r hr
    split
    · exact absurd rfl (hok r hr _)
    · exact fun _ _ hfailed' => absurd (hfailed.symm.trans hfailed') (by simp)
    · exact ⟨fun _ _ hfailed' => absurd (hfailed.symm.trans hfailed') (by simp), fun _ _ => hfailed⟩
    · trivial

/-- A cancel whose warning is written. -/
def servedCancel : List Act := openStream plainStart false ++ deliver .cancel ++ [.task .senderTake]

/-- Its join is served. -/
theorem joinServed_iff_leavesNone_cancel :
    (connection defaultEnv).Throughout (fun c => c.JoinServed ∧ c.Released defaultEnv) {}
      servedCancel := by
  have hrun : ∃ c, (connection defaultEnv).run {} servedCancel = some c := ⟨_, rfl⟩
  obtain ⟨c, hrun⟩ := hrun
  refine (joinServed_iff_leavesNone hrun).mpr (leavesNone_of_writesSucceed ?_)
  refine StepSystem.along_of_mem fun a ha s => ?_
  simp only [servedCancel, openStream, deliver, List.mem_append, List.mem_cons, List.not_mem_nil,
    or_false] at ha
  obtain ((rfl | rfl | rfl | rfl) | rfl | rfl) | rfl := ha <;> simp [WritesSucceed, TasksMeet]

/-! ## A join that is never left -/

/-- A join that is not served stays as it is. -/
lemma Joinable.stuck {a : Act} (h : c.Joinable) (hjoins : c.pc.joins = true)
    (hserved : ¬ c.JoinServed) (hstep : c.step env a = some c') :
    c'.Joinable ∧ c'.pc = c.pc ∧ ¬ c'.JoinServed := by
  have hphase := (step_moves h.phase (tasksMeet_true c a) hstep).phase
  have hordered := step_ordered h.phase h.ordered hstep
  obtain ⟨r, hs⟩ := stream_of_joins h.phase hjoins
  have hfailed := mt (h.served_iff hs hjoins).mpr hserved
  have hleft : r.unfinishedEvents ≠ 0 := by
    intro hzero
    refine hserved fun _ t ht => ?_
    obtain rfl := Option.some.inj (hs.symm.trans ht)
    exact fun hleft => absurd hzero hleft
  obtain ⟨e, he⟩ : ∃ e, r.sender = .raised e := by
    cases hsender : r.sender with
    | raised e => exact ⟨e, rfl⟩
    | _ => exact absurd (by simp [hsender, SenderPc.failed]) hfailed
  cases a with
  | receive result =>
    simp only [step] at hstep
    split at hstep <;> cases hstep
    exact ⟨⟨hphase, hordered, h.kept⟩, rfl, hserved⟩
  | modelLoaded =>
    cases hstep
    exact ⟨⟨hphase, hordered, h.kept⟩, rfl, hserved⟩
  | task a =>
    obtain ⟨t, ht, hstep⟩ := Option.bind_eq_some_iff.mp hstep
    obtain rfl := Option.some.inj (hs.symm.trans ht)
    obtain ⟨r', hr', rfl⟩ := Option.map_eq_some_iff.mp hstep
    have ha : a.isSender = false := by
      cases a with
      | senderTake => simp [StreamRuntime.step, StreamRuntime.senderTake, he] at hr'
      | senderSent result => simp [StreamRuntime.step, StreamRuntime.senderSent, he] at hr'
      | senderExit => simp [StreamRuntime.step, StreamRuntime.senderExit, he] at hr'
      | _ => rfl
    obtain ⟨hsender, hevents⟩ := worker_queue h.phase hs hjoins ha hr'
    have hkept' : Conn.Kept { c with
        stream := some r'
        services := afterDecode c.services a
        sent := c.sent ++ r.writes a } := by
      rintro - t ht
      obtain rfl := Option.some.inj ht
      rw [hsender]
      exact h.kept hjoins r hs
    refine ⟨⟨hphase, hordered, hkept'⟩, rfl, ?_⟩
    rw [Joinable.served_iff ⟨hphase, hordered, hkept'⟩ rfl hjoins, hsender, hevents]
    exact hfailed
  | proceed =>
    obtain ⟨t, ht, hstep⟩ := Option.bind_eq_some_iff.mp hstep
    obtain rfl := Option.some.inj (hs.symm.trans ht)
    revert hjoins hstep
    cases hpc : c.pc <;> simp [HandlerPc.joins, proceed, hpc, hleft]
  | wake =>
    revert hjoins hstep
    cases hpc : c.pc <;> simp [HandlerPc.joins, step, hpc]
  | startedDecoder result =>
    revert hjoins hstep
    cases hpc : c.pc <;> simp [HandlerPc.joins, step, hpc]
  | handlerSent result =>
    revert hjoins hstep
    cases hpc : c.pc <;> simp [HandlerPc.joins, step, handlerSent, hpc]
  | handlerDecoderCanceled result =>
    revert hjoins hstep
    cases hpc : c.pc <;> simp [HandlerPc.joins, step, handlerDecoderCanceled, hpc, hs]
  | handlerDecoderClosed result =>
    revert hjoins hstep
    cases hpc : c.pc <;> simp [HandlerPc.joins, step, handlerDecoderClosed, hpc]
  | senderCancel =>
    revert hjoins hstep
    cases hpc : c.pc <;> simp [HandlerPc.joins, step, cancelsSender, hpc]

/-- A ping whose pong is refused by the encoder, followed by a cancel. -/
def refusedPong : List Act :=
  openStream plainStart false ++ deliver (.ping {}) ++
    [.task .senderTake, .task (.senderSent (.error (.protocol payloadTooLarge)))] ++
    deliver .cancel

/-- The handler joins the queue of a dead sender, and never gets out of the join. -/
theorem join_of_dead_sender :
    ∃ c, (connection defaultEnv).run {} refusedPong = some c ∧ c.pc = .cancelJoining ∧
      ¬ c.JoinServed ∧
      ∀ bs c', (connection defaultEnv).run c bs = some c' → c'.pc = .cancelJoining := by
  have hrun : ∃ c, (connection defaultEnv).run {} refusedPong = some c ∧
      c.pc = .cancelJoining ∧ (∃ r e, c.stream = some r ∧ r.unfinishedEvents = 1 ∧
        r.sender = .raised e) := ⟨_, rfl, rfl, _, _, rfl, rfl, rfl⟩
  obtain ⟨c, hrun, hpc, r, e, hs, hleft, hraised⟩ := hrun
  have hserved : ¬ c.JoinServed := by
    intro hserved
    have hruns := hserved (by rw [hpc]; rfl) r hs (by rw [hleft]; simp)
    rw [hraised] at hruns
    cases hruns
  have hreaches : (connection defaultEnv).Reaches {} c := ⟨_, hrun⟩
  have hjoinable : c.Joinable := by
    refine ⟨phase_of_reaches hreaches, ordered_of_reaches hreaches, fun _ t ht => ?_⟩
    obtain rfl := Option.some.inj (hs.symm.trans ht)
    simp [hraised]
  refine ⟨c, hrun, hpc, hserved, fun bs c' hrun' => ?_⟩
  have hstuck := StepSystem.invariant (M := connection defaultEnv)
    (I := fun c => c.Joinable ∧ c.pc = .cancelJoining ∧ ¬ c.JoinServed)
    (fun s a s' hI hstep =>
      have h := hI.1.stuck (by rw [hI.2.1]; rfl) hI.2.2 hstep
      ⟨h.1, h.2.1.trans hI.2.1, h.2.2⟩)
    ⟨hjoinable, hpc, hserved⟩ ⟨bs, hrun'⟩
  exact hstuck.2.1

end Conn
end RtcAsr
