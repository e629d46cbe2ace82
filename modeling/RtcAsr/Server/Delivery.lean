import RtcAsr.Server.StreamRule

/-!
# Delivery of client messages

A received message is held by the receive task until the handler acts on it.  While a connection
stays open, the messages taken off the transport are the handled ones and then the held one, unless
the handler wakes up with the worker done and a message received at the same time: the message is
dropped with the receive task (`Conn.DropsMessage`).
-/

namespace RtcAsr

/-- What follows `stop_runtime` keeps the connection open. -/
def AfterStop.keepsOpen : AfterStop → Bool
  | .continueLoop => true
  | _ => false

/-- The handler is on its way back to its loop. -/
def HandlerPc.isOpen : HandlerPc → Bool
  | .stoppingWorker k => k.keepsOpen
  | .cancellingDecoder k => k.keepsOpen
  | .closingDecoder k _ => k.keepsOpen
  | .stoppingSender k => k.keepsOpen
  | .sendingClosed => false
  | .sendingError => false
  | .finished => false
  | _ => true

namespace Conn

/-- The wake-up finds the worker returned and a message in the receive task. -/
def DropsMessage (c : Conn) : Act → Prop
  | .wake => c.stream.map StreamRuntime.worker = some .returned ∧ c.receive.held ≠ []
  | _ => False

/-- The receive task is awaited in the loop only. -/
def Settled (c : Conn) : Prop := c.pc ≠ .waiting → c.receive = .absent

/-- The messages received, handled and held agree. -/
def Delivered (c : Conn) : Prop := c.taken = c.handled ++ c.receive.held

/-- The messages received and not yet lost. -/
def present (c : Conn) : ℤ := c.handled.length + c.receive.held.length - c.taken.length

/-! ## What leaves the messages alone -/

/-- A step of the handler outside its loop: it neither receives nor handles a message. -/
structure Keeps (c c' : Conn) : Prop where
  taken : c'.taken = c.taken
  handled : c'.handled = c.handled
  settled : c'.Settled
  held : c'.receive.held = []

variable {env : ServerEnv} {c c' : Conn}

lemma listen_keeps (c : Conn) : Keeps c c.listen := ⟨rfl, rfl, fun h => absurd rfl h, rfl⟩

lemma keeps_of_absent (h : c'.receive = .absent) (htaken : c'.taken = c.taken)
    (hhandled : c'.handled = c.handled) : Keeps c c' :=
  ⟨htaken, hhandled, fun _ => h, by rw [h]; rfl⟩

lemma afterStop_keeps (h : c.receive = .absent) (k : AfterStop) : Keeps c (c.afterStop k) := by
  cases k with
  | continueLoop => exact ⟨rfl, rfl, fun h => absurd rfl h, rfl⟩
  | sendClosed => exact keeps_of_absent h rfl rfl
  | exit => exact keeps_of_absent h rfl rfl
  | sendError message => exact keeps_of_absent h rfl rfl

lemma beginStop_keeps (h : c.receive = .absent) (k : AfterStop) : Keeps c (c.beginStop k) := by
  unfold beginStop
  split
  · exact afterStop_keeps h k
  · exact keeps_of_absent h rfl rfl

/-- An exception ends the connection and leaves the messages alone. -/
lemma raise_keeps (h : c.receive = .absent) (e : Exn) : Keeps c (c.raise e) := by
  have hbegin : ∀ s k, Keeps c ({ c with services := s }.beginStop k) := fun s k =>
    have hkeeps := beginStop_keeps (c := { c with services := s }) h k
    ⟨hkeeps.taken, hkeeps.handled, hkeeps.settled, hkeeps.held⟩
  unfold raise
  split
  · exact hbegin c.services _
  · exact hbegin _ _
  · exact hbegin c.services _
  · exact hbegin _ _

lemma handle_keeps (h : c.receive = .absent) (e : ClientEvent) : Keeps c (c.handle env e) := by
  cases e with
  | start config =>
    simp only [handle]
    split
    · exact raise_keeps h _
    · split
      · exact raise_keeps h _
      · exact keeps_of_absent h rfl rfl
  | audio chunk =>
    simp only [handle]
    split
    · exact raise_keeps h _
    · split
      · exact raise_keeps h _
      · exact ⟨rfl, rfl, fun h => absurd rfl h, rfl⟩
  | finalize =>
    simp only [handle]
    split
    · exact raise_keeps h _
    · split_ifs
      · exact raise_keeps h _
      · exact keeps_of_absent h rfl rfl
  | cancel =>
    simp only [handle]
    split
    · exact raise_keeps h _
    · exact keeps_of_absent h rfl rfl
  | ping message =>
    simp only [handle]
    split
    · split
      · exact keeps_of_absent h rfl rfl
      · exact ⟨rfl, rfl, fun h => absurd rfl h, rfl⟩
    · exact keeps_of_absent h rfl rfl
  | pong message => exact listen_keeps c
  | close => exact beginStop_keeps h _

lemma startedDecoder_keeps (h : c.receive = .absent) (r : StreamRuntime)
    (result : Except Exn Bool) : Keeps c (c.startedDecoder r result) := by
  cases result with
  | error e => exact raise_keeps h e
  | ok decoder => exact keeps_of_absent h rfl rfl

lemma handlerSent_keeps (h : c.receive = .absent) {result : Except Exn Unit}
    (hstep : c.handlerSent result = some c') : Keeps c c' := by
  unfold handlerSent at hstep
  split at hstep <;> cases hstep
  · exact listen_keeps c
  · exact listen_keeps c
  · exact keeps_of_absent h rfl rfl
  · exact raise_keeps h _
  · exact raise_keeps h _
  · exact raise_keeps h _
  · exact keeps_of_absent h rfl rfl

lemma closeDecoder_keeps (h : c.receive = .absent) (r : StreamRuntime) (k : AfterStop) :
    Keeps c (c.closeDecoder r k) := by
  unfold closeDecoder
  split_ifs
  · exact keeps_of_absent h rfl rfl
  · exact keeps_of_absent h rfl rfl
  · exact keeps_of_absent h rfl rfl

lemma proceed_keeps (h : c.receive = .absent) {r : StreamRuntime}
    (hstep : c.proceed r = some c') : Keeps c c' := by
  unfold proceed at hstep
  split at hstep
  · split at hstep <;> cases hstep
    · exact keeps_of_absent h rfl rfl
    · exact raise_keeps h _
  · split_ifs at hstep
    cases hstep
    exact keeps_of_absent h rfl rfl
  · split at hstep <;> cases hstep
    · exact raise_keeps h _
    · exact ⟨rfl, rfl, fun h => absurd rfl h, rfl⟩
    · exact ⟨rfl, rfl, fun h => absurd rfl h, rfl⟩
  · split_ifs at hstep
    cases hstep
    exact beginStop_keeps h _
  · split_ifs at hstep
    cases hstep
    exact beginStop_keeps h _
  · split at hstep <;> cases hstep <;> exact closeDecoder_keeps h _ _
  · split at hstep <;> cases hstep
    exact afterStop_keeps h _
  · cases hstep

lemma raiseInStop_keeps (h : c.receive = .absent) (k : AfterStop) (e : Exn) :
    Keeps c (c.raiseInStop k e) := by
  unfold raiseInStop
  split_ifs
  · exact raise_keeps h e
  · exact keeps_of_absent h rfl rfl

lemma handlerDecoderCanceled_keeps (h : c.receive = .absent) {r : StreamRuntime}
    {result : Except Exn Unit} (hstep : c.handlerDecoderCanceled r result = some c') :
    Keeps c c' := by
  unfold handlerDecoderCanceled at hstep
  split at hstep <;> cases hstep
  exact keeps_of_absent h rfl rfl

lemma handlerDecoderClosed_keeps (h : c.receive = .absent) {result : Except Exn Unit}
    (hstep : c.handlerDecoderClosed result = some c') : Keeps c c' := by
  unfold handlerDecoderClosed at hstep
  split at hstep <;> cases hstep
  · exact keeps_of_absent h rfl rfl
  · exact raiseInStop_keeps h _ _
  · exact raiseInStop_keeps h _ _

/-! ## A closed connection stays closed -/

lemma beginStop_isOpen (c : Conn) {k : AfterStop} (hk : k.keepsOpen = false) :
    (c.beginStop k).pc.isOpen = false := by
  unfold beginStop
  split
  · cases k <;> simp_all [AfterStop.keepsOpen, afterStop, HandlerPc.isOpen]
  · exact hk

lemma raise_isOpen (c : Conn) (e : Exn) : (c.raise e).pc.isOpen = false := by
  unfold raise
  split
  · exact beginStop_isOpen _ rfl
  · exact beginStop_isOpen _ rfl
  · exact beginStop_isOpen _ rfl
  · exact beginStop_isOpen _ rfl

lemma closeDecoder_isOpen (c : Conn) (r : StreamRuntime) {k : AfterStop}
    (hk : k.keepsOpen = false) : (c.closeDecoder r k).pc.isOpen = false := by
  unfold closeDecoder
  split_ifs <;> exact hk

lemma proceed_isOpen {r : StreamRuntime} (hclosed : c.pc.isOpen = false)
    (h : c.proceed r = some c') : c'.pc.isOpen = false := by
  unfold proceed at h
  split at h
  · next hpc => rw [hpc] at hclosed; cases hclosed
  · next hpc => rw [hpc] at hclosed; cases hclosed
  · next hpc => rw [hpc] at hclosed; cases hclosed
  · next hpc => rw [hpc] at hclosed; cases hclosed
  · next hpc => rw [hpc] at hclosed; cases hclosed
  · next k hpc =>
    rw [hpc] at hclosed
    split at h <;> cases h <;> exact closeDecoder_isOpen c r hclosed
  · next k hpc =>
    rw [hpc] at hclosed
    split at h <;> cases h
    cases k <;> first | rfl | cases hclosed
  · cases h

/-- No step opens a closed connection. -/
lemma step_isOpen {a : Act} (hclosed : c.pc.isOpen = false) (h : c.step env a = some c') :
    c'.pc.isOpen = false := by
  cases a with
  | receive result =>
    simp only [step] at h
    split at h <;> cases h
    exact hclosed
  | wake =>
    simp only [step] at h
    split at h
    · next hpc => rw [hpc] at hclosed; cases hclosed
    · cases h
  | startedDecoder result =>
    simp only [step] at h
    split at h <;> cases h
    next hpc _ => rw [hpc] at hclosed; cases hclosed
  | handlerSent result =>
    simp only [step, handlerSent] at h
    split at h <;> cases h
    · next hpc => rw [hpc] at hclosed; cases hclosed
    · next hpc => rw [hpc] at hclosed; cases hclosed
    · rfl
    · exact raise_isOpen c _
    · exact raise_isOpen c _
    · exact raise_isOpen c _
    · rfl
  | proceed =>
    obtain ⟨r, -, h⟩ := Option.bind_eq_some_iff.mp h
    exact proceed_isOpen hclosed h
  | handlerDecoderCanceled result =>
    obtain ⟨r, -, h⟩ := Option.bind_eq_some_iff.mp h
    unfold handlerDecoderCanceled at h
    split at h <;> cases h
    next hpc => rw [hpc] at hclosed; exact hclosed
  | handlerDecoderClosed result =>
    simp only [step, handlerDecoderClosed] at h
    split at h <;> cases h
    · next hpc => rw [hpc] at hclosed; exact hclosed
    · unfold raiseInStop
      split_ifs
      · exact raise_isOpen c _
      · rfl
    · unfold raiseInStop
      split_ifs
      · exact raise_isOpen c _
      · rfl
  | senderCancel =>
    simp only [step] at h
    split_ifs at h
    obtain ⟨r, -, h⟩ := Option.bind_eq_some_iff.mp h
    obtain ⟨r', -, rfl⟩ := Option.map_eq_some_iff.mp h
    exact hclosed
  | task a =>
    obtain ⟨r, -, h⟩ := Option.bind_eq_some_iff.mp h
    obtain ⟨r', -, rfl⟩ := Option.map_eq_some_iff.mp h
    exact hclosed
  | modelLoaded =>
    cases h
    exact hclosed

/-! ## What a step does to the messages -/

/-- A step receives a message, keeps the messages, or loses the held one; it loses one only at a
drop or when it closes the connection. -/
inductive Accounts (c : Conn) (a : Act) (c' : Conn) : Prop
  | received (hheld : c.receive.held = []) (htaken : c'.taken = c.taken ++ c'.receive.held)
    (hhandled : c'.handled = c.handled)
  | kept (htaken : c'.taken = c.taken)
    (hpresent : c'.handled ++ c'.receive.held = c.handled ++ c.receive.held)
    (hdrops : ¬ c.DropsMessage a)
  | lost (htaken : c'.taken = c.taken) (hhandled : c'.handled = c.handled)
    (hheld : c.receive.held ≠ []) (hheld' : c'.receive.held = [])
    (hwhy : c.DropsMessage a ∨ c'.pc.isOpen = false)

/-- A step outside the loop that keeps the messages. -/
lemma Keeps.accounts {a : Act} (h : Keeps c c') (hreceive : c.receive = .absent)
    (ha : a ≠ .wake) : Accounts c a c' ∧ c'.Settled := by
  refine ⟨.kept h.taken ?_ (by cases a <;> simp_all [DropsMessage]), h.settled⟩
  rw [h.handled, h.held, hreceive]
  rfl

/-- A wake-up that ends in an exception or in the auto-final branch keeps the messages when none is
held. -/
lemma Keeps.accounts_wake (h : Keeps { c with receive := .absent } c')
    (hheld : c.receive.held = []) : Accounts c .wake c' ∧ c'.Settled := by
  refine ⟨.kept h.taken ?_ fun hdrops => hdrops.2 hheld, h.settled⟩
  rw [h.handled, h.held, hheld]

lemma wake_accounts (h : c.wake env = some c') : Accounts c .wake c' ∧ c'.Settled := by
  unfold wake at h
  dsimp only at h
  split at h
  · next hreturned =>
    split at h
    · next e hreceive =>
      cases h
      exact (raise_keeps rfl e).accounts_wake (by rw [hreceive]; rfl)
    · cases h
      by_cases hheld : c.receive.held = []
      · have hkeeps : Keeps { c with receive := .absent }
            { c with receive := .absent, pc := .autoFinalJoining } := keeps_of_absent rfl rfl rfl
        exact hkeeps.accounts_wake hheld
      · exact ⟨.lost rfl rfl hheld rfl (Or.inl ⟨hreturned, hheld⟩), fun _ => rfl⟩
  · next error hraised =>
    split at h
    · next e hreceive =>
      cases h
      exact (raise_keeps rfl e).accounts_wake (by rw [hreceive]; rfl)
    · cases h
      have hkeeps : Keeps { c with receive := .absent }
          ({ c with receive := .absent }.raise error) :=
        raise_keeps rfl error
      by_cases hheld : c.receive.held = []
      · exact hkeeps.accounts_wake hheld
      · exact ⟨.lost hkeeps.taken hkeeps.handled hheld hkeeps.held
          (Or.inr (raise_isOpen _ error)), hkeeps.settled⟩
  · next hreturned _ =>
    split at h
    · next e hreceive =>
      cases h
      have hkeeps : Keeps _
          (handle env { c with receive := .absent, handled := c.handled ++ [e] } e) :=
        handle_keeps rfl e
      refine ⟨.kept hkeeps.taken ?_ fun hdrops => hreturned hdrops.1, hkeeps.settled⟩
      rw [hkeeps.handled, hkeeps.held, hreceive]
      simp [ReceiveTask.held]
    · next e hreceive =>
      cases h
      exact (raise_keeps rfl e).accounts_wake (by rw [hreceive]; rfl)
    · cases h

/-- **The step lemma.** -/
theorem step_accounts {a : Act} (hsettled : c.Settled) (h : c.step env a = some c') :
    Accounts c a c' ∧ c'.Settled := by
  cases a with
  | receive result =>
    simp only [step] at h
    split at h <;> cases h
    next hpending =>
    refine ⟨.received (by rw [hpending]; rfl) rfl rfl, fun hpc => ?_⟩
    exact absurd ((hsettled hpc).symm.trans hpending) (by simp)
  | wake =>
    simp only [step] at h
    split at h
    · exact wake_accounts h
    · cases h
  | startedDecoder result =>
    simp only [step] at h
    split at h <;> cases h
    next hpc _ =>
    have hreceive := hsettled (by rw [hpc]; simp)
    exact (startedDecoder_keeps hreceive _ _).accounts hreceive (by simp)
  | handlerSent result =>
    have hreceive : c.receive = .absent := by
      refine hsettled fun hpc => ?_
      simp [step, handlerSent, hpc] at h
    exact (handlerSent_keeps hreceive h).accounts hreceive (by simp)
  | proceed =>
    obtain ⟨r, -, h⟩ := Option.bind_eq_some_iff.mp h
    have hreceive : c.receive = .absent := by
      refine hsettled fun hpc => ?_
      simp [proceed, hpc] at h
    exact (proceed_keeps hreceive h).accounts hreceive (by simp)
  | handlerDecoderCanceled result =>
    obtain ⟨r, -, h⟩ := Option.bind_eq_some_iff.mp h
    have hreceive : c.receive = .absent := by
      refine hsettled fun hpc => ?_
      simp [handlerDecoderCanceled, hpc] at h
    exact (handlerDecoderCanceled_keeps hreceive h).accounts hreceive (by simp)
  | handlerDecoderClosed result =>
    have hreceive : c.receive = .absent := by
      refine hsettled fun hpc => ?_
      simp [step, handlerDecoderClosed, hpc] at h
    exact (handlerDecoderClosed_keeps hreceive h).accounts hreceive (by simp)
  | senderCancel =>
    simp only [step] at h
    split_ifs at h
    obtain ⟨r, -, h⟩ := Option.bind_eq_some_iff.mp h
    obtain ⟨r', -, rfl⟩ := Option.map_eq_some_iff.mp h
    exact ⟨.kept rfl rfl (by simp [DropsMessage]), hsettled⟩
  | task a =>
    obtain ⟨r, -, h⟩ := Option.bind_eq_some_iff.mp h
    obtain ⟨r', -, rfl⟩ := Option.map_eq_some_iff.mp h
    exact ⟨.kept rfl rfl (by simp [DropsMessage]), hsettled⟩
  | modelLoaded =>
    cases h
    exact ⟨.kept rfl rfl (by simp [DropsMessage]), hsettled⟩

/-! ## Over a run -/

/-- No step makes a lost message present again. -/
lemma Accounts.present_le {a : Act} (h : Accounts c a c') : c'.present ≤ c.present := by
  unfold present
  cases h with
  | received hheld htaken hhandled =>
    rw [htaken, hhandled, hheld]
    simp
  | kept htaken hpresent =>
    have hlength := congrArg List.length hpresent
    rw [List.length_append, List.length_append] at hlength
    rw [htaken]
    omega
  | lost htaken hhandled hheld hheld' =>
    rw [htaken, hhandled, hheld', List.length_nil]
    omega

/-- A drop loses a message. -/
lemma Accounts.present_lt {a : Act} (h : Accounts c a c') (hdrops : c.DropsMessage a) :
    c'.present < c.present := by
  unfold present
  cases h with
  | received hheld =>
    cases a with
    | wake => exact absurd hheld hdrops.2
    | _ => exact absurd hdrops id
  | kept _ _ hkept => exact absurd hdrops hkept
  | lost htaken hhandled hheld hheld' =>
    have hpos := List.length_pos_iff.mpr hheld
    rw [htaken, hhandled, hheld', List.length_nil]
    omega

/-- Without a drop the messages of an open connection stay delivered. -/
lemma Accounts.delivered {a : Act} (h : Accounts c a c') (hdelivered : c.Delivered)
    (hkeeps : ¬ c.DropsMessage a) (hopen : c'.pc.isOpen = true) : c'.Delivered := by
  unfold Delivered at hdelivered ⊢
  cases h with
  | received hheld htaken hhandled =>
    rw [htaken, hhandled, hdelivered, hheld, List.append_nil]
  | kept htaken hpresent => rw [htaken, hpresent, hdelivered]
  | lost _ _ _ _ hwhy =>
    obtain hdrops | hclosed := hwhy
    · exact absurd hdrops hkeeps
    · exact absurd (hopen.symm.trans hclosed) (by simp)

lemma settled_init : Settled {} := fun h => absurd rfl h

/-- **Delivery.** At the end of a run that leaves the connection open, the messages taken off the
transport are the ones the handler acted on, in order and each once, and then the one the receive
task holds, exactly when no wake-up of the run found a message together with the worker returned. -/
theorem delivered_iff {as : List Act} (hrun : (connection env).run {} as = some c)
    (hopen : c.pc.isOpen = true) :
    c.taken = c.handled ++ c.receive.held ↔
      (connection env).Along (fun c a => ¬ c.DropsMessage a) {} as := by
  constructor
  · intro hdelivered
    have hend : present {} ≤ c.present := by
      unfold present
      rw [hdelivered]
      simp [ReceiveTask.held]
    refine StepSystem.along_of_conserved (I := Settled) (w := present)
      (fun s a s' hs hstep => (step_accounts hs hstep).2)
      (fun s a s' hs hstep => (step_accounts hs hstep).1.present_le)
      (fun s a s' hs hdrops hstep => ?_) settled_init hrun hend
    exact (step_accounts hs hstep).1.present_lt (not_not.mp hdrops)
  · intro halong
    have hinv := StepSystem.invariant_along (M := connection env)
      (I := fun c => c.Settled ∧ (c.pc.isOpen = true → c.Delivered))
      (fun s a s' hs hkeeps hstep => ?_) ⟨settled_init, fun _ => rfl⟩ halong hrun
    · exact hinv.2 hopen
    · obtain ⟨haccounts, hsettled⟩ := step_accounts hs.1 hstep
      refine ⟨hsettled, fun hopen' => ?_⟩
      have hopen : s.pc.isOpen = true := by
        by_contra hclosed
        have hclosed' := step_isOpen (Bool.eq_false_iff.mpr hclosed) hstep
        exact absurd (hopen'.symm.trans hclosed') (by simp)
      exact haccounts.delivered (hs.2 hopen) hkeeps hopen'

theorem delivered_iff_audio :
    ∃ c, (connection defaultEnv).run {} (openStream plainStart false ++ deliver (.audio [1, 0])) =
        some c ∧
      (c.taken = c.handled ++ c.receive.held ↔
        (connection defaultEnv).Along (fun c a => ¬ c.DropsMessage a) {}
          (openStream plainStart false ++ deliver (.audio [1, 0]))) :=
  ⟨_, rfl, delivered_iff rfl rfl⟩

/-- The transcript of a word. -/
def wordTranscript : Transcript := { text := .str "hello" }

/-- The stream ends on its own while a close message is received; the handler wakes up with both
and goes back to its loop. -/
def closeAtAutoFinal : List Act :=
  openStream autoFinalStart false ++ deliver (.audio [1, 0]) ++
    [.task .workerWake, .task (.transcribed (.ok wordTranscript)), .receive (.ok .close), .wake,
      .task .senderTake, .task (.senderSent (.ok ())), .proceed, .proceed, .proceed]

/-- The close message is taken off the transport and never handled, and the connection is open. -/
theorem not_delivered_closeAtAutoFinal :
    ∃ c, (connection defaultEnv).run {} closeAtAutoFinal = some c ∧ c.pc.isOpen = true ∧
      c.taken ≠ c.handled ++ c.receive.held := by
  have hrun : ((connection defaultEnv).run {} closeAtAutoFinal).map
      (fun c => (c.pc.isOpen, c.taken.length, c.handled.length, c.receive.held.length)) =
        some (true, 3, 2, 0) := by decide +kernel
  obtain ⟨c, hrun, hc⟩ := Option.map_eq_some_iff.mp hrun
  simp only [Prod.mk.injEq] at hc
  obtain ⟨hopen, htaken, hhandled, hheld⟩ := hc
  refine ⟨c, hrun, hopen, fun hdelivered => ?_⟩
  have hlength := congrArg List.length hdelivered
  rw [List.length_append] at hlength
  omega

end Conn
end RtcAsr
