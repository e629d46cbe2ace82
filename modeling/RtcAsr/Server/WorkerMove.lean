import RtcAsr.Server.AutoFinal

/-!
# The moves of the worker

What one step of `_local_stt_asr_worker` can do, once for all invariants: `WorkerMove` lists the
branches of the loop with their guards, `PartialOutcome` and `FinalOutcome` the ends of a partial
and of a final decode.  Every step that is not the sender's is one of them (`step_move`).
-/

namespace RtcAsr

/-- The session after a partial decode without a result: only the positions of the last partial
decode move. -/
def StreamSession.skipPartial (s : StreamSession) (snap : Snapshot) : StreamSession :=
  { s with
    lastPartialChunksReceived := snap.chunksReceived
    lastPartialAudioReceivedMs := snap.audioReceivedMs }

/-- The worker is inside a call that may raise. -/
def WorkerPc.inCall : WorkerPc → Bool
  | .waiting => false
  | w => w.running

namespace StreamRuntime

/-- The stream is neither cancelled nor at its end. -/
structure IsOpen (r : StreamRuntime) : Prop where
  kept : r.cancelRequested = false
  notFinal : r.finalEmitted = false
  notClosed : r.closed = false

/-- The flags of a stream that is not open. -/
lemma not_isOpen {r : StreamRuntime}
    (h : r.cancelRequested = true ∨ r.finalEmitted = true ∨ r.closed = true) : ¬ r.IsOpen := by
  rintro ⟨hkept, hfinal, hclosed⟩
  simp [hkept, hfinal, hclosed] at h

/-- What a partial decode that starts now is given. -/
def snapshot (r : StreamRuntime) : Snapshot where
  chunksReceived := r.session.chunksReceived
  audioReceivedMs := r.session.audioReceivedMs
  audio := if r.streamingDecoder = true then r.rest else r.session.partialAudioBytes

/-- A partial decode is due. -/
structure Due (r : StreamRuntime) : Prop where
  isOpen : r.IsOpen
  listens : r.finalizeRequested = false
  interim : r.session.interimResults = true
  cadence : r.session.shouldEmitPartial = true

/-- The runtime at the top of the loop, its event cleared. -/
def awake (r : StreamRuntime) : StreamRuntime := { r with audioUpdated := false }

/-- The runtime from which a partial decode is started. -/
def decodingPartial (r : StreamRuntime) : StreamRuntime :=
  { r with audioUpdated := false, dirty := false, partialDecodeStarted := true }

/-! ## The ends of a decode -/

/-- The event of a transcript is enqueued. -/
def enqueueTranscript (r : StreamRuntime) (result : Transcript) (isFinal : Bool) (n : ℕ) :
    StreamRuntime :=
  (enqueueEvent { r with session := r.session.nextTranscriptRevision }
    (.transcript (transcriptEventOf r.session.nextTranscriptRevision result isFinal n)))

/-- The end of a partial decode. -/
inductive PartialOutcome (env : ServerEnv) (r : StreamRuntime) (snap : Snapshot) :
    Option Transcript → StreamRuntime → Prop
  /-- The stream has ended meanwhile. -/
  | dropped (result : Option Transcript) (h : ¬ r.IsOpen) :
    PartialOutcome env r snap result { r with partialDecodeStarted := false, worker := .returned }
  /-- The stateful decoder recognised nothing. -/
  | skipped (hopen : r.IsOpen) :
    PartialOutcome env r snap none
      (waitAgain
        { r with partialDecodeStarted := false, session := r.session.skipPartial snap })
  /-- A finalize waits: the result is recorded at most. -/
  | pending (result : Transcript) (hopen : r.IsOpen) (hfin : r.finalizeRequested = true)
    (session : StreamSession)
    (hsession : session = r.session ∨
      session = r.session.recordPartial result snap.chunksReceived snap.audioReceivedMs) :
    PartialOutcome env r snap (some result)
      { r with
        partialDecodeStarted := false
        session := session
        audioUpdated := true
        worker := .waiting }
  /-- The result has no text. -/
  | silent (result : Transcript) (hopen : r.IsOpen) (hlisten : r.finalizeRequested = false)
    (htext : result.strippedText = "") :
    PartialOutcome env r snap (some result)
      (waitAgain { r with partialDecodeStarted := false, session := r.recorded env snap result })
  /-- The event of the result is refused by its validators. -/
  | refused (result : Transcript) (hopen : r.IsOpen) (hlisten : r.finalizeRequested = false)
    (e : PyError)
    (hlt : r.session.audioReceivedMs <
      audioBytesToDurationMs snap.audio.length r.session.sampleRate) :
    PartialOutcome env r snap (some result)
      { r with
        partialDecodeStarted := false
        session := (r.recorded env snap result).nextTranscriptRevision
        worker := .raised (.builtin e) }
  /-- The result is emitted, as the final transcript if it is stable. -/
  | emitted (result : Transcript) (hopen : r.IsOpen) (hlisten : r.finalizeRequested = false)
    (htext : result.strippedText ≠ "") :
    PartialOutcome env r snap (some result)
      ((enqueueTranscript
        { r with partialDecodeStarted := false, session := r.recorded env snap result } result
        (r.recorded env snap result).shouldFinalizeStablePartial snap.audio.length).afterEmit
        (r.recorded env snap result).shouldFinalizeStablePartial)

/-- The end of a final decode. -/
inductive FinalOutcome (r : StreamRuntime) (finalAudio : Bytes) (result : Transcript) :
    StreamRuntime → Prop
  /-- The stream has ended meanwhile. -/
  | dropped (h : ¬ r.IsOpen) :
    FinalOutcome r finalAudio result { r with finalResult := some result, worker := .returned }
  /-- The event is refused by its validators. -/
  | refused (hkept : r.cancelRequested = false) (e : PyError)
    (hlt : r.session.audioReceivedMs < audioBytesToDurationMs finalAudio.length
      r.session.sampleRate) :
    FinalOutcome r finalAudio result
      { r with
        finalResult := some result
        session := r.session.nextTranscriptRevision
        worker := .raised (.builtin e) }
  /-- The final transcript is emitted. -/
  | emitted (hkept : r.cancelRequested = false) (hclosed : r.closed = false) :
    FinalOutcome r finalAudio result
      ((enqueueTranscript { r with finalResult := some result } result true
        finalAudio.length).afterEmit true)

/-- A transcript is refused by its validators, or enqueued. -/
lemma emitTranscript_outcome (r : StreamRuntime) (result : Transcript) (isFinal : Bool) (n : ℕ) :
    (∃ e, r.session.audioReceivedMs < audioBytesToDurationMs n r.session.sampleRate ∧
      r.emitTranscript result isFinal n =
        { r with session := r.session.nextTranscriptRevision, worker := .raised (.builtin e) }) ∨
    r.emitTranscript result isFinal n =
      (r.enqueueTranscript result isFinal n).afterEmit isFinal := by
  unfold emitTranscript localSttTranscriptEvent
  dsimp only
  split_ifs with hlt
  · exact Or.inl ⟨_, hlt, rfl⟩
  · exact Or.inr rfl

/-- A partial decode ends in one of the ways listed. -/
lemma afterPartial_outcome (env : ServerEnv) (r : StreamRuntime) (snap : Snapshot)
    (result : Option Transcript) :
    PartialOutcome env r snap result (r.afterPartial env snap result) := by
  unfold afterPartial
  dsimp only
  split
  · next hstop => exact .dropped result (not_isOpen hstop)
  · next hstop =>
    have hopen : r.IsOpen := by
      simp only [not_or, Bool.not_eq_true] at hstop
      exact ⟨hstop.1, hstop.2.1, hstop.2.2⟩
    cases result with
    | none => exact .skipped hopen
    | some result =>
      dsimp only
      split
      · next hfin =>
        refine .pending result hopen hfin _ ?_
        split_ifs
        · exact Or.inr rfl
        · exact Or.inl rfl
      · next hfin =>
        have hlisten : r.finalizeRequested = false := Bool.eq_false_iff.mpr hfin
        obtain ⟨hms, hrate⟩ := recorded_audio env r snap result
        split
        · next htext => exact .silent result hopen hlisten htext
        · next htext =>
          obtain ⟨e, hlt, h⟩ | h := emitTranscript_outcome
            { r with partialDecodeStarted := false, session := r.recorded env snap result } result
            (r.recorded env snap result).shouldFinalizeStablePartial snap.audio.length
          · simp only [hms, hrate] at hlt
            refine Eq.subst (motive := PartialOutcome env r snap (some result)) h.symm ?_
            exact .refused result hopen hlisten e hlt
          · refine Eq.subst (motive := PartialOutcome env r snap (some result)) h.symm ?_
            exact .emitted result hopen hlisten htext

/-- A final decode ends in one of the ways listed. -/
lemma finishFinal_outcome (r : StreamRuntime) (finalAudio : Bytes) (result : Transcript) :
    FinalOutcome r finalAudio result (r.finishFinal finalAudio result) := by
  unfold finishFinal
  dsimp only
  split_ifs with hstop
  · exact .dropped (not_isOpen (hstop.imp_right Or.inr))
  · simp only [not_or, Bool.not_eq_true] at hstop
    obtain ⟨e, hlt, h⟩ | h := emitTranscript_outcome { r with finalResult := some result } result
      true finalAudio.length
    · rw [h]
      exact .refused hstop.1 e hlt
    · rw [h]
      exact .emitted hstop.1 hstop.2

/-! ## The moves -/

/-- One step of the worker. -/
inductive WorkerMove (env : ServerEnv) (r : StreamRuntime) : StreamAct → StreamRuntime → Prop
  /-- The worker finds the stream cancelled or at its end. -/
  | stop (hw : r.worker = .waiting) (hset : r.audioUpdated = true) (h : ¬ r.IsOpen) :
    WorkerMove env r .workerWake { r.awake with worker := .returned }
  /-- No partial decode is due. -/
  | idle (hw : r.worker = .waiting) (hset : r.audioUpdated = true) (hopen : r.IsOpen)
    (hlisten : r.finalizeRequested = false)
    (h : r.partialDecodeStarted = true ∨ r.session.interimResults = false ∨
      r.session.shouldEmitPartial = false) :
    WorkerMove env r .workerWake { r.awake with dirty := false, worker := .waiting }
  /-- A partial decode without a stateful decoder is started. -/
  | transcribe (hw : r.worker = .waiting) (hset : r.audioUpdated = true) (hdue : r.Due)
    (hdecoder : r.streamingDecoder = false) :
    WorkerMove env r .workerWake
      { r.decodingPartial with worker := .transcribingPartial r.snapshot }
  /-- The rest of the buffer is pushed into the stateful decoder. -/
  | push (hw : r.worker = .waiting) (hset : r.audioUpdated = true) (hdue : r.Due)
    (hdecoder : r.streamingDecoder = true) (hrest : r.rest ≠ []) :
    WorkerMove env r .workerWake
      { r.decodingPartial with
        worker := .pushingPartial r.snapshot
        decoderCalls := r.decoderCalls ++ [.pushAudio r.rest] }
  /-- There is nothing to push. -/
  | nothingToPush (hw : r.worker = .waiting) (hset : r.audioUpdated = true) (hdue : r.Due)
    (hdecoder : r.streamingDecoder = true) (hrest : r.rest = []) :
    WorkerMove env r .workerWake
      (waitAgain { r.decodingPartial with
        partialDecodeStarted := false, session := r.session.skipPartial r.snapshot })
  /-- The final decode without a stateful decoder is started. -/
  | transcribeFinal (hw : r.worker = .waiting) (hset : r.audioUpdated = true) (hopen : r.IsOpen)
    (hfin : r.finalizeRequested = true) (hdecoder : r.streamingDecoder = false) :
    WorkerMove env r .workerWake
      { r.awake with worker := .transcribingFinal r.session.audioBuffer }
  /-- The rest is pushed before the stateful decoder is finalized. -/
  | pushFinal (hw : r.worker = .waiting) (hset : r.audioUpdated = true) (hopen : r.IsOpen)
    (hfin : r.finalizeRequested = true) (hdecoder : r.streamingDecoder = true)
    (hrest : r.rest ≠ []) :
    WorkerMove env r .workerWake
      { r.awake with
        worker := .pushingFinal r.session.audioBuffer r.rest
        decoderCalls := r.decoderCalls ++ [.pushAudio r.rest] }
  /-- The stateful decoder is finalized at once. -/
  | callFinalize (hw : r.worker = .waiting) (hset : r.audioUpdated = true) (hopen : r.IsOpen)
    (hfin : r.finalizeRequested = true) (hdecoder : r.streamingDecoder = true)
    (hrest : r.rest = []) :
    WorkerMove env r .workerWake (r.awake.callFinalize r.session.audioBuffer)
  /-- The last partial result becomes the final one. -/
  | reuse (hw : r.worker = .waiting) (hset : r.audioUpdated = true) (hopen : r.IsOpen)
    (hfin : r.finalizeRequested = true) (hdecoder : r.streamingDecoder = false)
    {result : Transcript} (hreuse : r.session.reusableLastPartial = some result) :
    WorkerMove env r .workerWake (r.awake.finishFinal r.session.audioBuffer result)
  /-- A partial transcription ends. -/
  | transcribed {snap : Snapshot} (hw : r.worker = .transcribingPartial snap)
    (result : Transcript) :
    WorkerMove env r (.transcribed (.ok result)) (r.afterPartial env snap (some result))
  /-- A partial push ends. -/
  | pushed {snap : Snapshot} (hw : r.worker = .pushingPartial snap) (result : Option Transcript) :
    WorkerMove env r (.pushed (.ok result)) ((r.advance snap.audio).afterPartial env snap result)
  /-- The final transcription ends. -/
  | transcribedFinal {audio : Bytes} (hw : r.worker = .transcribingFinal audio)
    (result : Transcript) :
    WorkerMove env r (.transcribed (.ok result)) (r.finishFinal audio result)
  /-- The rest is pushed, and the stateful decoder is finalized. -/
  | pushedFinal {audio remaining : Bytes} (hw : r.worker = .pushingFinal audio remaining)
    (result : Option Transcript) :
    WorkerMove env r (.pushed (.ok result)) ((r.advance remaining).callFinalize audio)
  /-- The stateful decoder is finalized, and is closed next. -/
  | finalized {audio : Bytes} (hw : r.worker = .finalizingDecoder audio) (result : Transcript) :
    WorkerMove env r (.decoderFinalized (.ok result))
      { r.dropDecoder .close with worker := .closingDecoder audio result }
  /-- The stateful decoder is closed. -/
  | closed {audio : Bytes} {result : Transcript} (hw : r.worker = .closingDecoder audio result) :
    WorkerMove env r (.decoderClosed (.ok ())) (r.finishFinal audio result)
  /-- A call raises. -/
  | raised {a : StreamAct} {e : Exn} (hw : r.worker.inCall = true)
    (ha : a = .transcribed (.error e) ∨ a = .pushed (.error e) ∨
      a = .decoderFinalized (.error e) ∨ a = .decoderClosed (.error e)) :
    WorkerMove env r a (r.workerRaise e)

variable {env : ServerEnv} {r r' : StreamRuntime} {a : StreamAct}

lemma workerWake_move (hw : r.worker = .waiting) (hset : r.audioUpdated = true) :
    WorkerMove env r .workerWake (r.workerWake env) := by
  unfold workerWake
  dsimp only
  split_ifs with hcancel hstop hfin hidle
  · exact .stop hw hset (not_isOpen (Or.inl hcancel))
  · exact .stop hw hset (not_isOpen (Or.inr hstop))
  · have hopen : r.IsOpen := by
      simp only [not_or, Bool.not_eq_true] at hcancel hstop
      exact ⟨hcancel, hstop.1, hstop.2⟩
    unfold startFinal
    dsimp only
    split_ifs with hdecoder hrest
    · exact .callFinalize hw hset hopen hfin hdecoder hrest
    · exact .pushFinal hw hset hopen hfin hdecoder hrest
    · have hrolling : r.streamingDecoder = false := Bool.eq_false_iff.mpr hdecoder
      split
      · next hreuse => exact .reuse hw hset hopen hfin hrolling hreuse
      · exact .transcribeFinal hw hset hopen hfin hrolling
  · simp only [not_or, Bool.not_eq_true] at hcancel hstop hfin
    exact .idle hw hset ⟨hcancel, hstop.1, hstop.2⟩ hfin hidle
  · simp only [not_or, Bool.not_eq_true, Bool.not_eq_false] at hcancel hstop hfin hidle
    have hopen : r.IsOpen := ⟨hcancel, hstop.1, hstop.2⟩
    have hdue : r.Due := ⟨hopen, hfin, hidle.2.1, hidle.2.2⟩
    unfold startPartial
    dsimp only
    split_ifs with hdecoder hrest
    · have hsnap : r.snapshot =
          ⟨r.session.chunksReceived, r.session.audioReceivedMs, r.rest⟩ := by
        rw [snapshot, if_pos hdecoder]
      have hmove : WorkerMove env r .workerWake _ := .nothingToPush hw hset hdue hdecoder hrest
      rw [hsnap] at hmove
      unfold afterPartial
      rw [if_neg (by simp [hcancel, hstop])]
      exact hmove
    · have hmove : WorkerMove env r .workerWake _ := .push hw hset hdue hdecoder hrest
      rw [snapshot, if_pos hdecoder] at hmove
      exact hmove
    · have hrolling : r.streamingDecoder = false := Bool.eq_false_iff.mpr hdecoder
      have hmove : WorkerMove env r .workerWake _ := .transcribe hw hset hdue hrolling
      rw [snapshot, if_neg hdecoder] at hmove
      exact hmove

/-- **A step that is not the sender's is a move of the worker.** -/
theorem step_move (h : r.step env a = some r') (ha : a.isSender = false) :
    WorkerMove env r a r' := by
  cases a with
  | workerWake =>
    simp only [step] at h
    split at h
    · next hw =>
      split_ifs at h with hset
      exact Option.some.inj h ▸ workerWake_move hw hset
    · cases h
  | transcribed result =>
    simp only [step, transcribed] at h
    split at h <;> cases h
    · next hw => exact .transcribed hw _
    · next hw => exact .transcribedFinal hw _
    · next hw => exact .raised (by rw [hw]; rfl) (Or.inl rfl)
    · next hw => exact .raised (by rw [hw]; rfl) (Or.inl rfl)
  | pushed result =>
    simp only [step, pushed] at h
    split at h <;> cases h
    · next hw => exact .pushed hw _
    · next hw => exact .pushedFinal hw _
    · next hw => exact .raised (by rw [hw]; rfl) (Or.inr (Or.inl rfl))
    · next hw => exact .raised (by rw [hw]; rfl) (Or.inr (Or.inl rfl))
  | decoderFinalized result =>
    simp only [step, decoderFinalized] at h
    split at h <;> cases h
    · next hw => exact .finalized hw _
    · next hw => exact .raised (by rw [hw]; rfl) (Or.inr (Or.inr (Or.inl rfl)))
  | decoderClosed result =>
    simp only [step, decoderClosed] at h
    split at h <;> cases h
    · next hw => exact .closed hw
    · next hw => exact .raised (by rw [hw]; rfl) (Or.inr (Or.inr (Or.inr rfl)))
  | senderTake => cases ha
  | senderSent result => cases ha
  | senderExit => cases ha

end StreamRuntime
end RtcAsr
