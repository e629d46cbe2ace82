import RtcAsr.Foundation.Ranking
import RtcAsr.Server.DecoderCalls

/-!
# A connection that closes comes to rest

Once the handler has left its loop for good, it waits for the worker, ends the decoder, cancels the
sender and writes its last event.  None of these waits can last: every step lowers a rank, whatever
the calls it waits for return or raise, and when no step is left the handler is finished and no task
of its stream is running (`closing_atRest`).
-/

namespace RtcAsr

/-! ## The rank -/

/-- How many steps a worker takes at most once its stream is closed. -/
def WorkerPc.closingSteps : WorkerPc → ℕ
  | .pushingFinal _ _ => 3
  | .finalizingDecoder _ => 2
  | .waiting => 1
  | .transcribingPartial _ => 1
  | .pushingPartial _ => 1
  | .transcribingFinal _ => 1
  | .closingDecoder _ _ => 1
  | _ => 0

/-- How many steps a sender takes at most with so many events in its queue. -/
def SenderPc.stepsLeft (queued : ℕ) : SenderPc → ℕ
  | .idle => 2 * queued + 1
  | .sending _ => 2 * queued + 2
  | _ => 0

/-- How many stages follow `stop_runtime`; one in the `try` body may be followed by another. -/
def AfterStop.stages (k : AfterStop) : ℕ := if k.inTry = true then 8 else 2

/-- How many stages the handler goes through at most when it closes the connection. -/
def HandlerPc.stages : HandlerPc → ℕ
  | .stoppingWorker k => k.stages + 4
  | .cancellingDecoder k => k.stages + 3
  | .closingDecoder k _ => k.stages + 2
  | .stoppingSender k => k.stages + 1
  | .sendingClosed => 2
  | .sendingError => 1
  | _ => 0

namespace StreamRuntime

/-- How many steps the tasks of a closed stream take at most. -/
def stepsLeft (r : StreamRuntime) : ℕ :=
  r.worker.closingSteps + r.sender.stepsLeft r.outgoingEvents.length

/-- A closed stream whose worker waits has its event set. -/
def Woken (r : StreamRuntime) : Prop :=
  r.closed = true → r.worker = .waiting → r.audioUpdated = true

variable {env : ServerEnv} {r r' : StreamRuntime} {a : StreamAct}

/-- A stream whose worker is done is woken. -/
lemma woken_of_done (hw : r.worker.done = true) : r.Woken := by
  intro _ hwaiting
  rw [hwaiting] at hw
  cases hw

/-- A partial decode leaves an open stream, or a worker that is done. -/
lemma woken_afterPartial (snap : Snapshot) (result : Option Transcript) :
    (r.afterPartial env snap result).Woken := by
  have houtcome := afterPartial_outcome env r snap result
  generalize r.afterPartial env snap result = r' at houtcome
  cases houtcome with
  | dropped => exact woken_of_done rfl
  | skipped hopen => exact fun hclosed _ => absurd (hopen.notClosed.symm.trans hclosed) (by simp)
  | pending => exact fun _ _ => rfl
  | silent result hopen =>
    exact fun hclosed _ => absurd (hopen.notClosed.symm.trans hclosed) (by simp)
  | refused => exact woken_of_done rfl
  | emitted result hopen =>
    intro hclosed hw
    unfold afterEmit at hclosed hw ⊢
    split_ifs at hclosed hw with hfinal
    exact absurd (hopen.notClosed.symm.trans hclosed) (by simp)

/-- The moves of a worker keep its stream woken. -/
lemma WorkerMove.woken (h : WorkerMove env r a r') : r'.Woken := by
  cases h with
  | stop => exact woken_of_done rfl
  | idle _ _ hopen => exact fun hclosed _ => absurd (hopen.notClosed.symm.trans hclosed) (by simp)
  | nothingToPush _ _ hdue =>
    exact fun hclosed _ => absurd (hdue.isOpen.notClosed.symm.trans hclosed) (by simp)
  | reuse => exact woken_of_done (finishFinal_done _ _ _)
  | transcribed => exact woken_afterPartial _ _
  | pushed => exact woken_afterPartial _ _
  | transcribedFinal => exact woken_of_done (finishFinal_done _ _ _)
  | closed => exact woken_of_done (finishFinal_done _ _ _)
  | raised => exact woken_of_done rfl
  | _ => exact fun _ hw => by cases hw

/-- Every change keeps a stream woken. -/
lemma Woken.change {Q : StreamRuntime → StreamAct → Prop} (hr : r.Woken) (h : Change env Q r r') :
    r'.Woken := by
  cases h with
  | @task _ a hQ h =>
    cases ha : a.isSender with
    | true =>
      obtain ⟨_, _, _, -, rfl⟩ := step_sender h ha
      exact hr
    | false => exact (step_move h ha).woken
  | senderCancel h =>
    obtain ⟨_, rfl⟩ := senderCancel_eq h
    exact hr
  | startTasks decoder hfresh =>
    intro hclosed
    rw [hfresh] at hclosed
    cases hclosed
  | appendAudio => exact fun _ _ => rfl
  | requestFinalize => exact fun _ _ => rfl
  | cancel => exact fun _ _ => rfl
  | close => exact fun _ _ => rfl
  | _ => exact hr

/-! ## The tasks of a closed stream -/

/-- A partial decode of a closed stream ends its worker. -/
lemma afterPartial_closed (hclosed : r.closed = true) (snap : Snapshot)
    (result : Option Transcript) :
    r.afterPartial env snap result =
      { r with partialDecodeStarted := false, worker := .returned } := by
  unfold afterPartial
  exact if_pos (Or.inr (Or.inr hclosed))

/-- A final decode of a closed stream ends its worker. -/
lemma finishFinal_closed (hclosed : r.closed = true) (audio : Bytes) (result : Transcript) :
    r.finishFinal audio result = { r with finalResult := some result, worker := .returned } := by
  unfold finishFinal
  exact if_pos (Or.inr hclosed)

/-- **A move of the worker of a closed stream brings it closer to its end.** -/
lemma WorkerMove.closing (hclosed : r.closed = true) (h : WorkerMove env r a r') :
    r'.closed = true ∧ r'.worker.closingSteps < r.worker.closingSteps ∧
      r'.sender = r.sender ∧ r'.outgoingEvents = r.outgoingEvents := by
  have hnot : ¬ r.IsOpen := fun hopen => absurd (hclosed.symm.trans hopen.notClosed) (by simp)
  cases h with
  | stop hw =>
    rw [hw]
    exact ⟨hclosed, Nat.zero_lt_one, rfl, rfl⟩
  | idle _ _ hopen => exact absurd hopen hnot
  | transcribe _ _ hdue => exact absurd hdue.isOpen hnot
  | push _ _ hdue => exact absurd hdue.isOpen hnot
  | nothingToPush _ _ hdue => exact absurd hdue.isOpen hnot
  | transcribeFinal _ _ hopen => exact absurd hopen hnot
  | pushFinal _ _ hopen => exact absurd hopen hnot
  | callFinalize _ _ hopen => exact absurd hopen hnot
  | reuse _ _ hopen => exact absurd hopen hnot
  | transcribed hw =>
    rw [afterPartial_closed hclosed, hw]
    exact ⟨hclosed, Nat.zero_lt_one, rfl, rfl⟩
  | @pushed snap hw =>
    rw [afterPartial_closed (r := r.advance snap.audio) hclosed, hw]
    exact ⟨hclosed, Nat.zero_lt_one, rfl, rfl⟩
  | transcribedFinal hw =>
    rw [finishFinal_closed hclosed, hw]
    exact ⟨hclosed, Nat.zero_lt_one, rfl, rfl⟩
  | pushedFinal hw =>
    rw [hw]
    exact ⟨hclosed, Nat.lt_succ_self 2, rfl, rfl⟩
  | finalized hw =>
    rw [hw]
    exact ⟨hclosed, Nat.lt_succ_self 1, rfl, rfl⟩
  | closed hw =>
    rw [finishFinal_closed hclosed, hw]
    exact ⟨hclosed, Nat.zero_lt_one, rfl, rfl⟩
  | raised hw =>
    refine ⟨hclosed, ?_, rfl, rfl⟩
    show 0 < _
    cases hworker : r.worker with
    | absent | returned | raised | waiting =>
      rw [hworker] at hw
      cases hw
    | _ => exact Nat.succ_pos _

/-- A step of the sender leaves it fewer steps. -/
lemma sender_closing (h : r.step env a = some r') (ha : a.isSender = true) :
    r'.sender.stepsLeft r'.outgoingEvents.length < r.sender.stepsLeft r.outgoingEvents.length := by
  cases a with
  | senderTake =>
    simp only [step, senderTake] at h
    split at h <;> cases h
    next hsender hevents =>
      rw [hsender, hevents]
      simp only [SenderPc.stepsLeft, List.length_cons]
      omega
  | senderSent result =>
    simp only [step, senderSent] at h
    split at h <;> cases h
    · next hsender =>
      rw [hsender]
      split_ifs
      · exact Nat.succ_pos _
      · exact Nat.lt_succ_self _
    · next hsender =>
      rw [hsender]
      exact Nat.succ_pos _
  | senderExit =>
    simp only [step, senderExit] at h
    split at h
    · next hsender hevents =>
      split_ifs at h
      cases h
      rw [hsender]
      exact Nat.succ_pos _
    · cases h
  | _ => cases ha

/-- **A step of a task of a closed stream leaves the tasks fewer steps.** -/
theorem step_closing (hclosed : r.closed = true) (h : r.step env a = some r') :
    r'.closed = true ∧ r'.stepsLeft < r.stepsLeft := by
  unfold stepsLeft
  cases ha : a.isSender with
  | true =>
    have hlt := sender_closing h ha
    obtain ⟨_, _, _, -, rfl⟩ := step_sender h ha
    exact ⟨hclosed, Nat.add_lt_add_left hlt _⟩
  | false =>
    obtain ⟨hclosed', hlt, hsender, hevents⟩ := (step_move h ha).closing hclosed
    rw [hsender, hevents]
    exact ⟨hclosed', Nat.add_lt_add_right hlt _⟩

/-- The cancellation of the sender leaves the tasks fewer steps. -/
lemma senderCancel_closing (h : r.senderCancel = some r') : r'.stepsLeft < r.stepsLeft := by
  unfold stepsLeft
  unfold senderCancel at h
  split at h <;> cases h
  · next hsender =>
    rw [hsender]
    exact Nat.add_lt_add_left (Nat.succ_pos _) _
  · next hsender =>
    rw [hsender]
    exact Nat.add_lt_add_left (Nat.succ_pos _) _

/-- A closed stream whose tasks cannot take a step has none that runs. -/
lemma ended_of_stuck (hclosed : r.closed = true) (hwoken : r.Woken)
    (hstuck : ∀ a, r.step env a = none) :
    r.worker.running = false ∧ ∀ e, r.sender ≠ .idle ∧ r.sender ≠ .sending e := by
  constructor
  · cases hw : r.worker with
    | absent => rfl
    | returned => rfl
    | raised e => rfl
    | waiting =>
      have hnone := hstuck .workerWake
      simp [step, hw, hwoken hclosed hw] at hnone
    | transcribingPartial snap =>
      have hnone := hstuck (.transcribed (.error .disconnect))
      simp [step, transcribed, hw] at hnone
    | transcribingFinal audio =>
      have hnone := hstuck (.transcribed (.error .disconnect))
      simp [step, transcribed, hw] at hnone
    | pushingPartial snap =>
      have hnone := hstuck (.pushed (.error .disconnect))
      simp [step, pushed, hw] at hnone
    | pushingFinal audio remaining =>
      have hnone := hstuck (.pushed (.error .disconnect))
      simp [step, pushed, hw] at hnone
    | finalizingDecoder audio =>
      have hnone := hstuck (.decoderFinalized (.error .disconnect))
      simp [step, decoderFinalized, hw] at hnone
    | closingDecoder audio result =>
      have hnone := hstuck (.decoderClosed (.error .disconnect))
      simp [step, decoderClosed, hw] at hnone
  · intro e
    constructor
    · intro hsender
      cases hevents : r.outgoingEvents with
      | nil =>
        have hnone := hstuck .senderExit
        simp [step, senderExit, hsender, hevents, hclosed] at hnone
      | cons event events =>
        have hnone := hstuck .senderTake
        simp [step, senderTake, hsender, hevents] at hnone
    · intro hsender
      have hnone := hstuck (.senderSent (.ok ()))
      simp [step, senderSent, hsender] at hnone

end StreamRuntime

/-! ## The handler -/

/-- The steps of the handler and of the tasks; the loading of the model is no step of theirs. -/
def Act.counts : Act → Bool
  | .modelLoaded => false
  | _ => true

namespace Conn

variable {env : ServerEnv} {c c' : Conn} {r : StreamRuntime} {a : Act}

/-- How many steps the handler and the tasks take at most when the connection is closed. -/
def stepsLeft (c : Conn) : ℕ :=
  c.pc.stages + match c.stream with
    | none => 0
    | some r => r.stepsLeft

/-- The handler closes the connection. -/
structure Closing (c : Conn) : Prop where
  closing : c.pc.isOpen = false
  phase : c.Phase
  settled : c.Settled
  woken : ∀ r, c.stream = some r → r.Woken

/-- The stream of a closing connection is closed. -/
lemma Closing.closed (hc : c.Closing) (hs : c.stream = some r) : r.closed = true := by
  have hclosing := hc.closing
  have hfits : c.pc.Fits r := by simpa [Phase, hs] using hc.phase
  cases hpc : c.pc with
  | stoppingWorker k =>
    rw [hpc] at hfits
    exact hfits
  | cancellingDecoder k =>
    rw [hpc] at hfits
    exact hfits.1
  | closingDecoder k pending =>
    rw [hpc] at hfits
    exact hfits.1
  | stoppingSender k =>
    rw [hpc] at hfits
    exact hfits.1
  | finished =>
    rw [hpc] at hfits
    exact hfits.1
  | sendingClosed | sendingError =>
    rw [hpc] at hfits
    exact absurd hfits id
  | _ =>
    rw [hpc] at hclosing
    cases hclosing

/-- The steps keep a closing connection closing. -/
lemma Closing.step (hc : c.Closing) (h : c.step env a = some c') : c'.Closing := by
  have hmoves := step_moves hc.phase (tasksMeet_true c a) h
  refine ⟨step_isOpen hc.closing h, hmoves.phase, (step_accounts hc.settled h).2, ?_⟩
  refine evolves_keeps ?_ (fun _ _ hr h => hr.change h) hmoves.evolves hc.woken
  intro config streamMaxBufferBytes streamId session hsession hclosed
  cases hclosed

/-- The end of `stop_runtime` is followed by fewer stages. -/
lemma stages_afterStop (c : Conn) (k : AfterStop) (hk : k.keepsOpen = false) :
    (c.afterStop k).stepsLeft ≤ k.stages := by
  cases k with
  | continueLoop => cases hk
  | sendClosed => exact (by decide : 2 ≤ 8)
  | exit => exact (by decide : 0 ≤ 2)
  | sendError message => exact (by decide : 1 ≤ 2)

/-- An exception without a stream is followed by the error event at most. -/
lemma stepsLeft_raise_none (hs : c.stream = none) (e : Exn) : (c.raise e).stepsLeft ≤ 1 := by
  have hstop : ∀ (d : Conn) (k : AfterStop), d.stream = none → k = .exit ∨ (∃ m, k = .sendError m) →
      (d.beginStop k).stepsLeft ≤ 1 := by
    intro d k hd hk
    unfold beginStop
    rw [hd]
    rcases hk with rfl | ⟨m, rfl⟩
    · exact Nat.zero_le 1
    · exact Nat.le_refl 1
  unfold raise
  split
  · exact hstop c _ hs (Or.inl rfl)
  · exact hstop { c with services := _ } _ hs (Or.inr ⟨_, rfl⟩)
  · exact hstop c _ hs (Or.inr ⟨_, rfl⟩)
  · exact hstop { c with services := _ } _ hs (Or.inr ⟨_, rfl⟩)

/-- An exception with a stream is followed by a second `stop_runtime` at most. -/
lemma stepsLeft_raise_some (hs : c.stream = some r) (e : Exn) :
    (c.raise e).stepsLeft = 6 + r.stepsLeft := by
  have hstop : ∀ (d : Conn) (k : AfterStop), d.stream = some r → k.inTry = false →
      (d.beginStop k).stepsLeft = 6 + r.stepsLeft := by
    intro d k hd hk
    unfold beginStop
    rw [hd]
    simp [stepsLeft, HandlerPc.stages, AfterStop.stages, hk, StreamRuntime.stepsLeft,
      StreamRuntime.close]
  unfold raise
  split
  · exact hstop c _ hs rfl
  · exact hstop { c with services := _ } _ hs rfl
  · exact hstop c _ hs rfl
  · exact hstop { c with services := _ } _ hs rfl

/-- The handler goes on with the decoder. -/
lemma stepsLeft_closeDecoder (hs : c.stream = some r) (k : AfterStop) :
    (c.closeDecoder r k).stepsLeft ≤ k.stages + 3 + r.stepsLeft := by
  unfold closeDecoder
  split_ifs
  · simp only [stepsLeft, hs, HandlerPc.stages]
    omega
  · simp only [stepsLeft, HandlerPc.stages]
    exact Nat.le_refl _
  · simp only [stepsLeft, HandlerPc.stages]
    exact Nat.add_le_add_right (Nat.le_succ _) _

/-- A wait of a closing handler ends. -/
lemma Closing.proceed_lt (hc : c.Closing) (hs : c.stream = some r) (h : c.proceed r = some c') :
    c'.stepsLeft < c.stepsLeft := by
  have hclosing := hc.closing
  unfold proceed at h
  split at h
  · next hpc => rw [hpc] at hclosing; cases hclosing
  · next hpc => rw [hpc] at hclosing; cases hclosing
  · next hpc => rw [hpc] at hclosing; cases hclosing
  · next hpc => rw [hpc] at hclosing; cases hclosing
  · next hpc => rw [hpc] at hclosing; cases hclosing
  · next k hpc =>
    have hle := stepsLeft_closeDecoder hs k
    have hrank : c.stepsLeft = k.stages + 4 + r.stepsLeft := by
      simp only [stepsLeft, hpc, hs, HandlerPc.stages]
    split at h <;> cases h
    · omega
    · omega
    · omega
  · next k hpc =>
    rw [hpc] at hclosing
    have hle := stages_afterStop c k hclosing
    have hrank : c.stepsLeft = k.stages + 1 + r.stepsLeft := by
      simp only [stepsLeft, hpc, hs, HandlerPc.stages]
    split at h <;> cases h
    omega
  · cases h

/-- A write of a closing handler ends. -/
lemma Closing.handlerSent_lt (hc : c.Closing) {result : Except Exn Unit}
    (h : c.handlerSent result = some c') : c'.stepsLeft < c.stepsLeft := by
  have hclosing := hc.closing
  have hnone : c.pc = .sendingClosed ∨ c.pc = .sendingError → c.stream = none := by
    intro hpc
    cases hs : c.stream with
    | none => rfl
    | some r =>
      have hfits : c.pc.Fits r := by simpa [Phase, hs] using hc.phase
      rcases hpc with hpc | hpc
      · rw [hpc] at hfits
        exact absurd hfits id
      · rw [hpc] at hfits
        exact absurd hfits id
  unfold handlerSent at h
  split at h <;> cases h
  · next hpc => rw [hpc] at hclosing; cases hclosing
  · next hpc => rw [hpc] at hclosing; cases hclosing
  · next hpc =>
    have hs := hnone (Or.inl hpc)
    simp [stepsLeft, hs, hpc, HandlerPc.stages]
  · next hpc => rw [hpc] at hclosing; cases hclosing
  · next hpc => rw [hpc] at hclosing; cases hclosing
  · next hpc =>
    have hs := hnone (Or.inl hpc)
    have hle := stepsLeft_raise_none hs
    have hrank : c.stepsLeft = 2 := by simp [stepsLeft, hs, hpc, HandlerPc.stages]
    rw [hrank]
    exact Nat.lt_succ_of_le (hle _)
  · next hpc =>
    have hs := hnone (Or.inr hpc)
    simp [stepsLeft, hs, hpc, HandlerPc.stages]

/-- A call of `decoder.close` ends in a closing handler. -/
lemma Closing.handlerDecoderClosed_lt (hc : c.Closing) {result : Except Exn Unit}
    (h : c.handlerDecoderClosed result = some c') : c'.stepsLeft < c.stepsLeft := by
  have hstream : ∀ k pending, c.pc = .closingDecoder k pending → ∃ r, c.stream = some r := by
    intro k pending hpc
    cases hs : c.stream with
    | none =>
      have hidle : c.pc.Idle := by simpa [Phase, hs] using hc.phase
      rw [hpc] at hidle
      exact absurd hidle id
    | some r => exact ⟨r, rfl⟩
  have hraise : ∀ k pending e, c.pc = .closingDecoder k pending →
      (c.raiseInStop k e).stepsLeft < c.stepsLeft := by
    intro k pending e hpc
    obtain ⟨r, hs⟩ := hstream k pending hpc
    have hrank : c.stepsLeft = k.stages + 2 + r.stepsLeft := by
      simp only [stepsLeft, hpc, hs, HandlerPc.stages]
    unfold raiseInStop
    split_ifs with hk
    · have hstages : k.stages = 8 := by simp [AfterStop.stages, hk]
      rw [stepsLeft_raise_some hs, hrank, hstages]
      omega
    · have hfinished : stepsLeft { c with pc := .finished } = r.stepsLeft := by
        simp [stepsLeft, hs, HandlerPc.stages]
      rw [hfinished, hrank]
      omega
  unfold handlerDecoderClosed at h
  split at h <;> cases h
  · next k hpc =>
    simp only [stepsLeft, hpc, HandlerPc.stages]
    omega
  · next hpc => exact hraise _ _ _ hpc
  · next hpc => exact hraise _ _ _ hpc

/-- **Every step of a closing connection leaves fewer steps.** -/
theorem Closing.step_lt (hc : c.Closing) (ha : a.counts = true) (h : c.step env a = some c') :
    c'.stepsLeft < c.stepsLeft := by
  have hclosing := hc.closing
  have hreplace : ∀ {r r' : StreamRuntime} {d : Conn}, c.stream = some r → d.stream = some r' →
      d.pc = c.pc → r'.stepsLeft < r.stepsLeft → d.stepsLeft < c.stepsLeft := by
    intro r r' d hs hs' hpc hlt
    simp only [stepsLeft, hs, hs', hpc]
    exact Nat.add_lt_add_left hlt _
  cases a with
  | receive result =>
    simp only [Conn.step] at h
    split at h <;> cases h
    next hpending =>
    have habsent : c.receive = .absent := by
      refine hc.settled fun hpc => ?_
      rw [hpc] at hclosing
      cases hclosing
    exact absurd (habsent.symm.trans hpending) (by simp)
  | wake =>
    simp only [Conn.step] at h
    split at h
    · next hpc =>
      rw [hpc] at hclosing
      cases hclosing
    · cases h
  | startedDecoder result =>
    simp only [Conn.step] at h
    split at h <;> cases h
    next hpc _ =>
    rw [hpc] at hclosing
    cases hclosing
  | handlerSent result => exact hc.handlerSent_lt h
  | proceed =>
    obtain ⟨r, hs, h⟩ := Option.bind_eq_some_iff.mp h
    exact hc.proceed_lt hs h
  | handlerDecoderCanceled result =>
    obtain ⟨r, hs, h⟩ := Option.bind_eq_some_iff.mp h
    unfold handlerDecoderCanceled at h
    split at h <;> cases h
    next k hpc =>
    simp only [stepsLeft, hpc, hs, HandlerPc.stages]
    exact Nat.add_lt_add_right (Nat.lt_succ_self _) _
  | handlerDecoderClosed result => exact hc.handlerDecoderClosed_lt h
  | senderCancel =>
    simp only [Conn.step] at h
    split_ifs at h
    obtain ⟨r, hs, h⟩ := Option.bind_eq_some_iff.mp h
    obtain ⟨r', hr', rfl⟩ := Option.map_eq_some_iff.mp h
    exact hreplace hs rfl rfl (StreamRuntime.senderCancel_closing hr')
  | task a =>
    obtain ⟨r, hs, h⟩ := Option.bind_eq_some_iff.mp h
    obtain ⟨r', hr', rfl⟩ := Option.map_eq_some_iff.mp h
    exact hreplace hs rfl rfl (StreamRuntime.step_closing (hc.closed hs) hr').2
  | modelLoaded => cases ha

/-- The steps of a closing connection come to rest. -/
lemma closing_lowers (env : ServerEnv) :
    (connection env).Lowers Act.counts Closing stepsLeft where
  keeps := fun _ _ _ hc h => hc.step h
  lt := fun _ _ _ hc h ha => hc.step_lt ha h
  le := by
    intro s a s' hc h ha
    cases a with
    | modelLoaded =>
      cases h
      exact Nat.le_refl _
    | _ => cases ha

/-- **A closing connection that cannot take a step is finished.** -/
lemma Closing.finished (hc : c.Closing) (hrest : (connection env).AtRest Act.counts c) :
    c.pc = .finished ∧ ∀ r, c.stream = some r →
      r.worker.running = false ∧ ∀ e, r.sender ≠ .idle ∧ r.sender ≠ .sending e := by
  have hclosing := hc.closing
  have hstuck : ∀ {a : Act}, a.counts = true → c.step env a = none := fun ha => hrest _ ha
  have htasks : ∀ r, c.stream = some r →
      r.worker.running = false ∧ ∀ e, r.sender ≠ .idle ∧ r.sender ≠ .sending e := by
    intro r hs
    have hnone : ∀ a, r.step env a = none := by
      intro a
      have hconn := hstuck (a := .task a) rfl
      simpa [Conn.step, hs] using hconn
    exact StreamRuntime.ended_of_stuck (hc.closed hs) (hc.woken r hs) hnone
  refine ⟨?_, htasks⟩
  have hphase := hc.phase
  cases hs : c.stream with
  | none =>
    have hidle : c.pc.Idle := by simpa [Phase, hs] using hphase
    cases hpc : c.pc with
    | finished => rfl
    | sendingClosed =>
      have hnone := hstuck (a := .handlerSent (.ok ())) rfl
      simp [Conn.step, handlerSent, hpc] at hnone
    | sendingError =>
      have hnone := hstuck (a := .handlerSent (.ok ())) rfl
      simp [Conn.step, handlerSent, hpc] at hnone
    | waiting | sendingPong =>
      rw [hpc] at hclosing
      cases hclosing
    | _ =>
      rw [hpc] at hidle
      exact absurd hidle id
  | some r =>
    have hfits : c.pc.Fits r := by simpa [Phase, hs] using hphase
    obtain ⟨hrunning, hsender⟩ := htasks r hs
    cases hpc : c.pc with
    | finished => rfl
    | stoppingWorker k =>
      have hnone := hstuck (a := .proceed) rfl
      cases hw : r.worker with
      | absent | returned | raised => simp [Conn.step, hs, proceed, hpc, hw] at hnone
      | _ =>
        rw [hw] at hrunning
        cases hrunning
    | cancellingDecoder k =>
      have hnone := hstuck (a := .handlerDecoderCanceled (.ok ())) rfl
      simp [Conn.step, hs, handlerDecoderCanceled, hpc] at hnone
    | closingDecoder k pending =>
      have hnone := hstuck (a := .handlerDecoderClosed (.ok ())) rfl
      cases pending with
      | none => simp [Conn.step, handlerDecoderClosed, hpc] at hnone
      | some e => simp [Conn.step, handlerDecoderClosed, hpc] at hnone
    | stoppingSender k =>
      have hnone := hstuck (a := .proceed) rfl
      cases hsent : r.sender with
      | idle => exact absurd hsent (hsender .closed).1
      | sending e => exact absurd hsent (hsender e).2
      | _ => simp [Conn.step, hs, proceed, hpc, hsent] at hnone
    | sendingClosed | sendingError =>
      rw [hpc] at hfits
      exact absurd hfits id
    | _ =>
      rw [hpc] at hclosing
      cases hclosing

/-- The streams of a reachable connection are woken. -/
lemma woken_of_reaches (h : (connection env).Reaches {} c) (hs : c.stream = some r) : r.Woken := by
  refine stream_invariant_of_reaches ?_ (fun _ _ hr h => hr.change h) h r hs
  intro config streamMaxBufferBytes streamId session hsession hclosed
  cases hclosed

/-- Every reachable connection is settled. -/
lemma settled_of_reaches (h : (connection env).Reaches {} c) : c.Settled :=
  StepSystem.invariant (M := connection env) (fun _ _ _ hs hstep => (step_accounts hs hstep).2)
    settled_init h

/-- **A connection that closes comes to rest.** Once the handler closes the connection, whatever the
tasks do and the calls they wait for return or raise, only a bounded number of steps is left, some
steps lead to rest, and at rest the handler is finished, the worker and the sender have ended and
the decoder has been taken out of the runtime. -/
theorem closing_atRest (h : (connection env).Reaches {} c) (hclosing : c.pc.isOpen = false) :
    (∀ as c', (connection env).run c as = some c' → as.countP Act.counts ≤ c.stepsLeft) ∧
      (∃ as c', (connection env).run c as = some c' ∧ (connection env).AtRest Act.counts c') ∧
      ∀ c', (connection env).Reaches c c' → (connection env).AtRest Act.counts c' →
        c'.pc = .finished ∧ ∀ r, c'.stream = some r →
          r.worker.running = false ∧ r.streamingDecoder = false ∧
            ∀ e, r.sender ≠ .idle ∧ r.sender ≠ .sending e := by
  have hc : c.Closing :=
    ⟨hclosing, phase_of_reaches h, settled_of_reaches h, fun r hs => woken_of_reaches h hs⟩
  refine ⟨fun as c' hrun => ?_, ?_, fun c' hreaches hrest => ?_⟩
  · have hle := (closing_lowers env).countP_le hc hrun
    omega
  · obtain ⟨as, c', -, hrun, hrest⟩ := (closing_lowers env).exists_atRest hc
    exact ⟨as, c', hrun, hrest⟩
  · have hc' : c'.Closing := StepSystem.invariant (fun _ _ _ hs hstep => hs.step hstep) hc hreaches
    obtain ⟨hpc, htasks⟩ := hc'.finished hrest
    refine ⟨hpc, fun r hs => ?_⟩
    obtain ⟨hrunning, hsender⟩ := htasks r hs
    obtain ⟨as, has⟩ := h
    obtain ⟨bs, hbs⟩ := hreaches
    have hreach : (connection env).Reaches {} c' :=
      ⟨as ++ bs, by rw [StepSystem.run_append, has]; exact hbs⟩
    exact ⟨hrunning, (served_of_reaches hreach r hs).position (by rw [hpc]; rfl), hsender⟩

/-- The client disconnects while its first chunk is decoded. -/
def disconnectDuringDecode : List Act :=
  openStream plainStart true ++ deliver (.audio [1, 0]) ++
    [.task .workerWake, .receive (.error .disconnect), .wake]

theorem closing_atRest_disconnectDuringDecode :
    ∃ c, (connection defaultEnv).run {} disconnectDuringDecode = some c ∧ c.pc.isOpen = false ∧
      ∃ as c', (connection defaultEnv).run c as = some c' ∧
        (connection defaultEnv).AtRest Act.counts c' := by
  have hrun : ∃ c, (connection defaultEnv).run {} disconnectDuringDecode = some c ∧
      c.pc.isOpen = false := ⟨_, rfl, rfl⟩
  obtain ⟨c, hrun, hclosing⟩ := hrun
  exact ⟨c, hrun, hclosing, (closing_atRest ⟨_, hrun⟩ hclosing).2.1⟩

end Conn
end RtcAsr
