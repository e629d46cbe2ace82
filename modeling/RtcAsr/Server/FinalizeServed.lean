import RtcAsr.Server.EventOrder
import RtcAsr.Server.WorkerMove

/-!
# A finalize is served

After `request_finalize` the worker is never left waiting: as long as its decodes succeed it takes
at most five more steps and then has enqueued the final transcript.  With the order of the events
this gives the grammar of a connection.
-/

namespace RtcAsr

/-! ## Worker positions -/

namespace WorkerPc

/-- The positions before a final decode. -/
def awaitsFinal : WorkerPc → Bool
  | .waiting => true
  | .transcribingPartial _ => true
  | .pushingPartial _ => true
  | _ => false

/-- The audio of the final decode. -/
def finalAudio : WorkerPc → Bytes
  | .transcribingFinal audio => audio
  | .pushingFinal audio _ => audio
  | .finalizingDecoder audio => audio
  | .closingDecoder audio _ => audio
  | _ => []

/-- How many steps a worker takes at most once it was told to finalize. -/
def remaining : WorkerPc → ℕ
  | .transcribingPartial _ => 5
  | .pushingPartial _ => 5
  | .waiting => 4
  | .pushingFinal _ _ => 3
  | .finalizingDecoder _ => 2
  | .closingDecoder _ _ => 1
  | .transcribingFinal _ => 1
  | _ => 0

lemma awaitsFinal_of_done {w : WorkerPc} (hw : w.done = true) : w.awaitsFinal = false := by
  cases w <;> first | rfl | cases hw

lemma finalAudio_of_done {w : WorkerPc} (hw : w.done = true) : w.finalAudio = [] := by
  cases w <;> first | rfl | cases hw

end WorkerPc

/-- The steps of a worker whose decodes succeed. -/
def StreamAct.decodes : StreamAct → Bool
  | .workerWake => true
  | .transcribed (.ok _) => true
  | .pushed (.ok _) => true
  | .decoderFinalized (.ok _) => true
  | .decoderClosed (.ok _) => true
  | _ => false

namespace StreamRuntime

/-! ## The invariant -/

/-- A worker that was told to finalize will wake up, and the final audio is part of the buffer. -/
structure Serving (r : StreamRuntime) : Prop where
  awake : r.finalizeRequested = true → r.worker.awaitsFinal = true → r.audioUpdated = true
  within : r.cancelRequested = false → r.worker.finalAudio.length ≤ r.session.audioBuffer.length

variable {env : ServerEnv} {r r' : StreamRuntime} {a : StreamAct}

/-- A worker that is done is served. -/
lemma serving_of_done (hw : r.worker.done = true) : r.Serving where
  awake := fun _ hawaits => by
    rw [WorkerPc.awaitsFinal_of_done hw] at hawaits
    cases hawaits
  within := fun _ => by simp [WorkerPc.finalAudio_of_done hw]

/-- A stream whose worker awaits no final decode is served if no finalize was requested. -/
lemma serving_of_listens (hlisten : r.finalizeRequested = false) (hw : r.worker.finalAudio = []) :
    r.Serving where
  awake := fun hfin => absurd (hfin.symm.trans hlisten) (by simp)
  within := fun _ => by simp [hw]

/-- A partial decode keeps a finalizing worker served. -/
lemma PartialOutcome.serving {snap : Snapshot} {result : Option Transcript}
    (h : PartialOutcome env r snap result r')
    (hawake : r.finalizeRequested = true → r.audioUpdated = true) : r'.Serving := by
  cases h with
  | dropped => exact serving_of_done rfl
  | skipped =>
    refine ⟨fun hfin _ => ?_, fun _ => Nat.zero_le _⟩
    simp [waitAgain, hawake hfin]
  | pending => exact ⟨fun _ _ => rfl, fun _ => Nat.zero_le _⟩
  | silent result hopen hlisten => exact serving_of_listens hlisten rfl
  | refused => exact serving_of_done rfl
  | emitted result hopen hlisten =>
    unfold afterEmit
    split_ifs
    · exact serving_of_done rfl
    · exact serving_of_listens hlisten rfl

/-- The worker keeps a stream served. -/
lemma Serving.move (hr : r.Serving) (h : WorkerMove env r a r') : r'.Serving := by
  cases h with
  | stop => exact serving_of_done rfl
  | idle hw hset hopen hlisten => exact serving_of_listens hlisten rfl
  | transcribe hw hset hdue => exact serving_of_listens hdue.listens rfl
  | push hw hset hdue => exact serving_of_listens hdue.listens rfl
  | nothingToPush hw hset hdue => exact serving_of_listens hdue.listens rfl
  | transcribeFinal => exact ⟨by rintro _ ⟨⟩, fun _ => le_rfl⟩
  | pushFinal => exact ⟨by rintro _ ⟨⟩, fun _ => le_rfl⟩
  | callFinalize => exact ⟨by rintro _ ⟨⟩, fun _ => le_rfl⟩
  | reuse => exact serving_of_done (finishFinal_done _ _ _)
  | transcribed hw result =>
    refine (afterPartial_outcome env r _ (some result)).serving fun hfin => ?_
    exact hr.awake hfin (by rw [hw]; rfl)
  | @pushed snap hw result =>
    refine (afterPartial_outcome env (r.advance snap.audio) snap result).serving fun hfin => ?_
    exact hr.awake hfin (by rw [hw]; rfl)
  | transcribedFinal => exact serving_of_done (finishFinal_done _ _ _)
  | pushedFinal hw =>
    have hwithin := hr.within
    rw [hw] at hwithin
    exact ⟨by rintro _ ⟨⟩, hwithin⟩
  | finalized hw =>
    have hwithin := hr.within
    rw [hw] at hwithin
    exact ⟨by rintro _ ⟨⟩, hwithin⟩
  | closed => exact serving_of_done (finishFinal_done _ _ _)
  | raised => exact serving_of_done rfl

/-- The tasks keep a stream served. -/
lemma Serving.step (hr : r.Serving) (h : r.step env a = some r') : r'.Serving := by
  cases ha : a.isSender with
  | false => exact hr.move (step_move h ha)
  | true =>
    obtain ⟨_, _, _, -, rfl⟩ := step_sender h ha
    exact ⟨hr.awake, hr.within⟩

/-- Every change of a stream keeps it served. -/
lemma Serving.change (hr : r.Serving) (h : Change env (fun _ _ => True) r r') : r'.Serving := by
  cases h with
  | task _ h => exact hr.step h
  | senderCancel h =>
    obtain ⟨_, rfl⟩ := senderCancel_eq h
    exact ⟨hr.awake, hr.within⟩
  | startTasks decoder hfresh =>
    have hlisten : r.finalizeRequested = false := by rw [hfresh]
    exact ⟨fun hfin => absurd (hfin.symm.trans hlisten) (by simp), fun _ => Nat.zero_le _⟩
  | appendAudio hactive _ _ h =>
    rw [StreamSession.appendAudio_eq_ok h]
    refine ⟨fun _ _ => rfl, fun _ => (hr.within hactive.kept).trans ?_⟩
    simp [appendAudio, noteAudio]
  | pong => exact ⟨hr.awake, hr.within⟩
  | requestFinalize => exact ⟨fun _ _ => rfl, hr.within⟩
  | cancel => exact ⟨fun _ _ => rfl, by rintro ⟨⟩⟩
  | close => exact ⟨fun _ _ => rfl, hr.within⟩
  | dropDecoder => exact ⟨hr.awake, hr.within⟩
  | callClose => exact ⟨hr.awake, hr.within⟩

/-! ## Succeeding steps -/

/-- A final decode of the buffer, or of a part of it, is followed by the return of the worker. -/
lemma finishFinal_returned {finalAudio : Bytes}
    (h : finalAudio.length ≤ r.session.audioBuffer.length) (result : Transcript) :
    (r.finishFinal finalAudio result).worker = .returned := by
  unfold finishFinal
  dsimp only
  split_ifs
  · rfl
  · rw [emitTranscript_eq { r with finalResult := some result } result true h]
    rfl

/-- A worker that was told to finalize can take a succeeding step. -/
lemma Serving.enabled (hr : r.Serving) (hfin : r.finalizeRequested = true)
    (hw : r.worker.running = true) : ∃ a, a.decodes = true ∧ (r.step env a).isSome = true := by
  have t : Transcript := { text := .missing }
  cases hpc : r.worker with
  | waiting =>
    have hawake : r.audioUpdated = true := hr.awake hfin (by rw [hpc]; rfl)
    exact ⟨.workerWake, rfl, by simp [StreamRuntime.step, hpc, hawake]⟩
  | transcribingPartial snap =>
    exact ⟨.transcribed (.ok t), rfl, by simp [StreamRuntime.step, transcribed, hpc]⟩
  | pushingPartial snap =>
    exact ⟨.pushed (.ok none), rfl, by simp [StreamRuntime.step, pushed, hpc]⟩
  | transcribingFinal audio =>
    exact ⟨.transcribed (.ok t), rfl, by simp [StreamRuntime.step, transcribed, hpc]⟩
  | pushingFinal audio remaining =>
    exact ⟨.pushed (.ok none), rfl, by simp [StreamRuntime.step, pushed, hpc]⟩
  | finalizingDecoder audio =>
    exact ⟨.decoderFinalized (.ok t), rfl, by simp [StreamRuntime.step, decoderFinalized, hpc]⟩
  | closingDecoder audio result =>
    exact ⟨.decoderClosed (.ok ()), rfl, by simp [StreamRuntime.step, decoderClosed, hpc]⟩
  | absent | returned | raised =>
    rw [hpc] at hw
    cases hw

/-- The worker got closer to its return. -/
structure Nearer (w w' : WorkerPc) : Prop where
  remaining_lt : w'.remaining < w.remaining
  notRaised : ∀ e, w' ≠ .raised e

/-- A return is nearer than anything. -/
lemma nearer_returned {w w' : WorkerPc} (hw : 0 < w.remaining) (hw' : w' = .returned) :
    Nearer w w' :=
  ⟨hw' ▸ hw, by simp [hw']⟩

/-- A partial decode of a finalizing worker is followed by a wake-up or by its return. -/
lemma PartialOutcome.nearer {snap : Snapshot} {result : Option Transcript}
    (h : PartialOutcome env r snap result r') (hfin : r.finalizeRequested = true) {w : WorkerPc}
    (hw : 4 < w.remaining) : Nearer w r'.worker := by
  have hnot : r.finalizeRequested ≠ false := by simp [hfin]
  cases h with
  | dropped => exact nearer_returned (by omega) rfl
  | skipped => exact ⟨hw, by rintro _ ⟨⟩⟩
  | pending => exact ⟨hw, by rintro _ ⟨⟩⟩
  | silent result hopen hlisten => exact absurd hlisten hnot
  | refused result hopen hlisten => exact absurd hlisten hnot
  | emitted result hopen hlisten => exact absurd hlisten hnot

/-- **Every succeeding step of a finalizing worker brings it closer to its return.** -/
theorem Serving.nearer (hr : r.Serving) (hkept : r.cancelRequested = false)
    (hfin : r.finalizeRequested = true) (ha : a.decodes = true) (h : r.step env a = some r') :
    Nearer r.worker r'.worker := by
  have hwithin := hr.within hkept
  have hnot : r.finalizeRequested ≠ false := by simp [hfin]
  have hworker : a.isSender = false := by
    cases a <;> first | rfl | cases ha
  cases step_move h hworker with
  | stop hw => exact nearer_returned (by simp [hw, WorkerPc.remaining]) rfl
  | idle hw hset hopen hlisten => exact absurd hlisten hnot
  | transcribe hw hset hdue => exact absurd hdue.listens hnot
  | push hw hset hdue => exact absurd hdue.listens hnot
  | nothingToPush hw hset hdue => exact absurd hdue.listens hnot
  | transcribeFinal hw =>
    rw [hw]
    exact ⟨show 1 < 4 by decide, by rintro _ ⟨⟩⟩
  | pushFinal hw =>
    rw [hw]
    exact ⟨show 3 < 4 by decide, by rintro _ ⟨⟩⟩
  | callFinalize hw =>
    rw [hw]
    exact ⟨show 2 < 4 by decide, by rintro _ ⟨⟩⟩
  | reuse hw =>
    have hlength : r.session.audioBuffer.length ≤ r.awake.session.audioBuffer.length := le_rfl
    exact nearer_returned (by simp [hw, WorkerPc.remaining]) (finishFinal_returned hlength _)
  | transcribed hw result =>
    exact (afterPartial_outcome env r _ (some result)).nearer hfin
      (by simp [hw, WorkerPc.remaining])
  | @pushed snap hw result =>
    exact (afterPartial_outcome env (r.advance snap.audio) snap result).nearer hfin
      (by simp [hw, WorkerPc.remaining])
  | transcribedFinal hw =>
    rw [hw] at hwithin
    exact nearer_returned (by simp [hw, WorkerPc.remaining]) (finishFinal_returned hwithin _)
  | pushedFinal hw =>
    rw [hw]
    exact ⟨show 2 < 3 by decide, by rintro _ ⟨⟩⟩
  | finalized hw =>
    rw [hw]
    exact ⟨show 1 < 2 by decide, by rintro _ ⟨⟩⟩
  | closed hw =>
    rw [hw] at hwithin
    exact nearer_returned (by simp [hw, WorkerPc.remaining]) (finishFinal_returned hwithin _)
  | raised hw hraised =>
    rcases hraised with rfl | rfl | rfl | rfl <;> cases ha

/-- The steps of the sender until the queue is empty. -/
def unsent (r : StreamRuntime) : ℕ := 2 * r.outgoingEvents.length + r.sender.writing

/-- A sender with something left to write takes a step, and every step leaves less. -/
theorem sender_progress {sent : List Event} (h : r.queue.Ordered sent r.worker)
    (hstarted : r.sender ≠ .absent) (hcancelled : r.sender ≠ .cancelled)
    (hraised : ∀ e, r.sender ≠ .raised e) (hleft : r.unfinishedEvents ≠ 0) :
    (∃ a, a.isSender = true ∧ (r.step env a).isSome = true) ∧
      ∀ a r', a.isSender = true → r.step env a = some r' → r'.unsent < r.unsent := by
  cases h with
  | fresh _ hsender => exact absurd hsender hstarted
  | started _ hcount _ hexit =>
    have hcount' : r.unfinishedEvents = r.outgoingEvents.length + r.sender.writing := hcount
    constructor
    · cases hpc : r.sender with
      | idle =>
        rw [hpc] at hcount'
        obtain ⟨e, es, hevents⟩ : ∃ e es, r.outgoingEvents = e :: es :=
          List.exists_cons_of_ne_nil fun hnil => hleft (by rw [hcount', hnil]; rfl)
        exact ⟨.senderTake, rfl, by simp [step, senderTake, hpc, hevents]⟩
      | sending e => exact ⟨.senderSent (.ok ()), rfl, by simp [step, senderSent, hpc]⟩
      | returned =>
        have hevents : r.outgoingEvents = [] := (hexit hpc).2
        rw [hpc, hevents] at hcount'
        exact absurd hcount' hleft
      | absent => exact absurd hpc hstarted
      | cancelled => exact absurd hpc hcancelled
      | raised e => exact absurd hpc (hraised e)
    · intro a r' ha hstep
      cases a with
      | senderTake =>
        simp only [step, senderTake] at hstep
        split at hstep <;> cases hstep
        next hidle hevents =>
        simp only [unsent, hidle, hevents, SenderPc.writing, List.length_cons]
        omega
      | senderSent result =>
        simp only [step, senderSent] at hstep
        split at hstep <;> cases hstep
        · next hsending =>
          simp only [unsent, hsending]
          split_ifs <;> simp [SenderPc.writing]
        · next hsending => simp [unsent, hsending, SenderPc.writing]
      | senderExit =>
        simp only [step, senderExit] at hstep
        split at hstep
        · next hidle hevents =>
          rw [hidle, hevents] at hcount'
          exact absurd hcount' hleft
        · cases hstep
      | _ => cases ha

end StreamRuntime

namespace Conn

/-! ## The grammar of a connection -/

variable {env : ServerEnv} {c : Conn} {r : StreamRuntime}

/-- The stream of a reachable connection is served. -/
lemma serving (h : (connection env).Reaches {} c) (hs : c.stream = some r) : r.Serving := by
  refine stream_invariant_of_reaches ?_ (fun _ _ hr h => hr.change h) h r hs
  exact fun _ _ _ _ _ => ⟨nofun, fun _ => Nat.zero_le _⟩

/-- What becomes of an accepted finalize, by the position of the handler. -/
structure FinalizeServed (env : ServerEnv) (c : Conn) (r : StreamRuntime) : Prop where
  /-- The worker goes on until it returns, and only a failing decode raises. -/
  decoding : c.pc = .finalizeAwaitingWorker → r.worker.running = true →
    (∃ a, a.decodes = true ∧ (r.step env a).isSome = true) ∧
      ∀ a r', a.decodes = true → r.step env a = some r' → StreamRuntime.Nearer r.worker r'.worker
  /-- Once it returned, one final transcript is written or queued, and the handler goes on. -/
  decoded : c.pc = .finalizeAwaitingWorker → r.worker = .returned →
    finalCount r.session.streamId (c.sent ++ r.outgoingEvents) = 1 ∧
      c.step env .proceed = some { c with pc := .finalizeJoining }
  /-- The queue is written to its end, unless a write fails. -/
  joining : c.pc = .finalizeJoining → (∀ e, r.sender ≠ .raised e) → r.unfinishedEvents ≠ 0 →
    (∃ a, a.isSender = true ∧ (r.step env a).isSome = true) ∧
      ∀ a r', a.isSender = true → r.step env a = some r' → r'.unsent < r.unsent
  /-- Once it is, the one final transcript is written, and the handler goes on. -/
  joined : c.pc = .finalizeJoining → r.unfinishedEvents = 0 →
    finalCount r.session.streamId c.sent = 1 ∧
      c.step env .proceed = some { c with pc := .finalizeAwaitingSender }

/-- A stream that emitted its final transcript has it among its events once. -/
lemma finalCount_eq_one (hordered : c.Ordered) (hs : c.stream = some r)
    (hfinal : r.finalEmitted = true) (hw : r.worker ≠ .absent) :
    finalCount r.session.streamId (c.sent ++ r.outgoingEvents) = 1 := by
  rw [Ordered, hs] at hordered
  cases hordered.2.1 with
  | fresh habsent => exact absurd habsent hw
  | started _ _ _ _ _ _ hfinals => exact hfinals.trans (if_pos hfinal)

lemma finalizeServed (h : (connection env).Reaches {} c) (hs : c.stream = some r) :
    FinalizeServed env c r := by
  have hserving := serving h hs
  have hordered := ordered_of_reaches h
  have hfit : c.pc.Fits r := by
    have hphase := phase_of_reaches h
    rwa [Phase, hs] at hphase
  constructor
  · intro hpc hw
    rw [hpc] at hfit
    exact ⟨hserving.enabled hfit.2 hw,
      fun a r' ha hstep => hserving.nearer hfit.1.kept hfit.2 ha hstep⟩
  · intro hpc hw
    rw [hpc] at hfit
    refine ⟨finalCount_eq_one hordered hs (hfit.1.returned_iff.mp hw) hfit.1.started, ?_⟩
    simp [step, hs, proceed, hpc, hw]
  · intro hpc hraised hleft
    rw [hpc] at hfit
    rw [Ordered, hs] at hordered
    exact StreamRuntime.sender_progress hordered.2.1 hfit.1.senderStarted
      (hordered.2.2.2 (by rw [hpc]; rfl)) hraised hleft
  · intro hpc hjoined
    rw [hpc] at hfit
    have hone := finalCount_eq_one hordered hs (hfit.1.returned_iff.mp hfit.2.2) hfit.1.started
    rw [Ordered, hs] at hordered
    rw [events_eq_nil hordered.2.1 hjoined, List.append_nil] at hone
    exact ⟨hone, by simp [step, hs, proceed, hpc, hjoined]⟩

/-- **The event grammar.** What a connection writes up to a close or an error, pongs removed, is a
sequence of utterances; and an accepted finalize is served: the worker, as long as its decodes
succeed, and then the sender, as long as its writes succeed, come to an end, at which exactly one
final transcript of the stream was written. -/
theorem events_grammar (h : (connection env).Reaches {} c) :
    Utterances 0 (conversation c.sent) ∧ ∀ r, c.stream = some r → FinalizeServed env c r := by
  obtain ⟨g, hg⟩ := (ordered_of_reaches h).accepted
  exact ⟨language_of_run hg, fun r hs => finalizeServed h hs⟩

/-- An utterance with a finalize, and a cancelled one. -/
def finalizeThenCancel : List Act :=
  openStream plainStart false ++ deliver (.audio [1, 0]) ++ deliver .finalize ++
    [.task .workerWake, .task (.transcribed (.ok { text := .str "turn" })), .proceed,
      .task .senderTake, .task (.senderSent (.ok ())), .proceed, .proceed] ++
    openStream plainStart false ++ deliver .cancel ++ [.task .senderTake]

theorem events_grammar_finalizeThenCancel :
    ∃ c e f, (connection defaultEnv).run {} finalizeThenCancel = some c ∧
      c.sent.length = 4 ∧ c.sent[1]? = some (.transcript e) ∧ e.isFinal = true ∧
      c.sent[3]? = some (.canceled f) ∧ f.streamId = 2 ∧ Utterances 0 (conversation c.sent) := by
  have hrun : ∃ c e f, (connection defaultEnv).run {} finalizeThenCancel = some c ∧
      c.sent.length = 4 ∧ c.sent[1]? = some (.transcript e) ∧ e.isFinal = true ∧
      c.sent[3]? = some (.canceled f) ∧ f.streamId = 2 :=
    ⟨_, _, _, rfl, rfl, rfl, rfl, rfl, rfl⟩
  obtain ⟨c, e, f, hrun, hsent, hfinal⟩ := hrun
  have hgrammar := events_grammar ⟨finalizeThenCancel, hrun⟩
  exact ⟨c, e, f, hrun, hsent, hfinal.1, hfinal.2.1, hfinal.2.2.1, hfinal.2.2.2, hgrammar.1⟩

end Conn
end RtcAsr
