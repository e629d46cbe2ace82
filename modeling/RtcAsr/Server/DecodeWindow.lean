import RtcAsr.Protocol.ServerMessage
import RtcAsr.Server.Delivery
import RtcAsr.Server.WorkerMove

/-!
# What a transcript is about

A partial decode is given the end of the audio that was accepted when it started, and a final decode
the whole audio (`Sliced`).  So the transcripts the worker builds pass the validators of their
message (`transcripts_valid`), but the window in their metadata is computed from the buffer at the
end of the decode (`windows_named_iff`).
-/

namespace RtcAsr

/-! ## The settings of a session -/

/-- What no step of a stream changes in its session, besides what `Frame` lists. -/
def StreamSession.settings (s : StreamSession) : ℕ × ℤ × Option ℤ × Bool × Bool × ℤ :=
  (s.maxBufferBytes, s.partialIntervalChunks, s.partialIntervalAudioMs, s.interimResults,
    s.finalizeOnStablePartial, s.stablePartialCycles)

namespace StreamRuntime

variable {env : ServerEnv} {r r' : StreamRuntime} {a : StreamAct}

/-- Recording a result leaves the settings alone. -/
lemma recorded_settings (env : ServerEnv) (r : StreamRuntime) (snap : Snapshot)
    (result : Transcript) : (r.recorded env snap result).settings = r.session.settings := by
  obtain ⟨text, count, hs⟩ := recordTranscriptStability_eq env.casefold
    (r.session.recordPartial result snap.chunksReceived snap.audioReceivedMs) result
  rw [recorded, hs]
  rfl

/-- An event leaves the settings alone. -/
lemma afterEmit_settings (r : StreamRuntime) (isFinal : Bool) :
    (r.afterEmit isFinal).session.settings = r.session.settings := by
  unfold afterEmit
  split_ifs <;> rfl

lemma PartialOutcome.settings {snap : Snapshot} {result : Option Transcript}
    (h : PartialOutcome env r snap result r') : r'.session.settings = r.session.settings := by
  cases h with
  | dropped => rfl
  | skipped => rfl
  | pending result hopen hfin session hsession =>
    rcases hsession with rfl | rfl <;> rfl
  | silent result => exact recorded_settings env r snap result
  | refused result => exact recorded_settings env r snap result
  | emitted result =>
    exact (afterEmit_settings _ _).trans (recorded_settings env r snap result)

lemma FinalOutcome.settings {finalAudio : Bytes} {result : Transcript}
    (h : FinalOutcome r finalAudio result r') : r'.session.settings = r.session.settings := by
  cases h with
  | dropped => rfl
  | refused => rfl
  | emitted => exact afterEmit_settings _ _

lemma WorkerMove.settings (h : WorkerMove env r a r') :
    r'.session.settings = r.session.settings := by
  cases h with
  | reuse hw hset hopen hfin hdecoder hreuse =>
    exact (finishFinal_outcome r.awake r.session.audioBuffer _).settings
  | transcribed hw result => exact (afterPartial_outcome env r _ (some result)).settings
  | pushed hw result => exact (afterPartial_outcome env (r.advance _) _ result).settings
  | transcribedFinal hw result => exact (finishFinal_outcome r _ result).settings
  | closed hw => exact (finishFinal_outcome r _ _).settings
  | _ => rfl

/-- No change of a stream touches its settings. -/
lemma Change.settings {Q : StreamRuntime → StreamAct → Prop} (h : Change env Q r r') :
    r'.session.settings = r.session.settings := by
  cases h with
  | @task _ a hQ h =>
    cases ha : a.isSender with
    | true =>
      obtain ⟨_, _, _, -, rfl⟩ := step_sender h ha
      rfl
    | false => exact (step_move h ha).settings
  | senderCancel h =>
    obtain ⟨_, rfl⟩ := senderCancel_eq h
    rfl
  | startTasks decoder => cases decoder <;> rfl
  | appendAudio _ _ _ h =>
    rw [StreamSession.appendAudio_eq_ok h]
    rfl
  | _ => rfl

end StreamRuntime

/-! ## Snapshots -/

/-- The audio that was accepted when a snapshot was taken. -/
def Snapshot.received (snap : Snapshot) (accepted : List Bytes) : Bytes :=
  (accepted.take snap.chunksReceived).flatten

/-- A snapshot holds the end of the audio that was accepted when it was taken. -/
structure Snapshot.TakenFrom (snap : Snapshot) (accepted : List Bytes) : Prop where
  chunks_le : snap.chunksReceived ≤ accepted.length
  suffix : snap.audio <:+ snap.received accepted

/-- More chunks leave a snapshot what it was. -/
lemma Snapshot.TakenFrom.append {snap : Snapshot} {accepted : List Bytes}
    (h : snap.TakenFrom accepted) (chunk : Bytes) :
    snap.TakenFrom (accepted ++ [chunk]) ∧
      snap.received (accepted ++ [chunk]) = snap.received accepted := by
  have hreceived : snap.received (accepted ++ [chunk]) = snap.received accepted := by
    rw [received, received, List.take_append_of_le_length h.chunks_le]
  refine ⟨⟨h.chunks_le.trans (by simp), ?_⟩, hreceived⟩
  rw [hreceived]
  exact h.suffix

/-- The audio accepted at a snapshot is the start of the audio accepted since. -/
lemma Snapshot.received_prefix (snap : Snapshot) (accepted : List Bytes) :
    snap.received accepted <+: accepted.flatten := by
  refine ⟨(accepted.drop snap.chunksReceived).flatten, ?_⟩
  rw [received, ← List.flatten_append, List.take_append_drop]

/-- The partial audio is the end of the buffer. -/
lemma StreamSession.partialAudioBytes_suffix (s : StreamSession) :
    s.partialAudioBytes <:+ s.audioBuffer := by
  unfold partialAudioBytes trailingBytes
  split
  · exact List.suffix_refl _
  · split_ifs
    · exact List.suffix_refl _
    · exact List.suffix_refl _
    · exact List.drop_suffix _ _

/-- What a worker decodes is taken from the accepted audio. -/
def WorkerPc.DecodesFrom (accepted : List Bytes) (finalizeRequested : Bool) : WorkerPc → Prop
  | .transcribingPartial snap => snap.TakenFrom accepted
  | .pushingPartial snap => snap.TakenFrom accepted
  | .transcribingFinal audio => audio = accepted.flatten ∧ finalizeRequested = true
  | .pushingFinal audio _ => audio = accepted.flatten ∧ finalizeRequested = true
  | .finalizingDecoder audio => audio = accepted.flatten ∧ finalizeRequested = true
  | .closingDecoder audio _ => audio = accepted.flatten ∧ finalizeRequested = true
  | _ => True

/-- A worker at rest decodes nothing. -/
lemma WorkerPc.decodesFrom_of_rest {w : WorkerPc} (hw : w = .waiting ∨ w.done = true)
    (accepted : List Bytes) (b : Bool) : w.DecodesFrom accepted b := by
  rcases hw with rfl | hw
  · trivial
  · cases w <;> first | exact trivial | cases hw

namespace StreamRuntime

/-- The buffer is the accepted audio until a cancel, it fits, and the worker decodes slices of it.
-/
structure Sliced (r : StreamRuntime) : Prop where
  chunks : r.session.chunksReceived = r.accepted.length
  buffer : r.cancelRequested = false → r.session.audioBuffer = r.accepted.flatten
  fits : r.session.audioBuffer.length ≤ r.session.maxBufferBytes
  decodes : r.worker.DecodesFrom r.accepted r.finalizeRequested

variable {env : ServerEnv} {r r' : StreamRuntime} {a : StreamAct}

/-- The snapshot taken now is the end of the audio accepted now. -/
lemma Sliced.snapshot (hr : r.Sliced) (hkept : r.cancelRequested = false) :
    r.snapshot.TakenFrom r.accepted ∧ r.snapshot.received r.accepted = r.session.audioBuffer := by
  have hreceived : r.snapshot.received r.accepted = r.session.audioBuffer := by
    rw [Snapshot.received, hr.buffer hkept]
    show (r.accepted.take r.session.chunksReceived).flatten = _
    rw [hr.chunks, List.take_length]
  refine ⟨⟨hr.chunks.le, ?_⟩, hreceived⟩
  rw [hreceived]
  unfold StreamRuntime.snapshot
  dsimp only
  split_ifs
  · exact List.drop_suffix _ _
  · exact r.session.partialAudioBytes_suffix

/-- A worker that starts or ends a decode keeps to the accepted audio. -/
lemma WorkerMove.decodesFrom (hr : r.Sliced) (h : WorkerMove env r a r') :
    r'.worker.DecodesFrom r.accepted r.finalizeRequested := by
  have hdecodes := hr.decodes
  cases h with
  | stop => trivial
  | idle => trivial
  | transcribe hw hset hdue => exact (hr.snapshot hdue.isOpen.kept).1
  | push hw hset hdue => exact (hr.snapshot hdue.isOpen.kept).1
  | nothingToPush => trivial
  | transcribeFinal hw hset hopen hfin => exact ⟨hr.buffer hopen.kept, hfin⟩
  | pushFinal hw hset hopen hfin => exact ⟨hr.buffer hopen.kept, hfin⟩
  | callFinalize hw hset hopen hfin => exact ⟨hr.buffer hopen.kept, hfin⟩
  | reuse => exact WorkerPc.decodesFrom_of_rest (Or.inr (finishFinal_done _ _ _)) _ _
  | transcribed => exact WorkerPc.decodesFrom_of_rest (afterPartial_worker _ _ _ _) _ _
  | pushed => exact WorkerPc.decodesFrom_of_rest (afterPartial_worker _ _ _ _) _ _
  | transcribedFinal => exact WorkerPc.decodesFrom_of_rest (Or.inr (finishFinal_done _ _ _)) _ _
  | pushedFinal hw =>
    rw [hw] at hdecodes
    exact hdecodes
  | finalized hw =>
    rw [hw] at hdecodes
    exact hdecodes
  | closed => exact WorkerPc.decodesFrom_of_rest (Or.inr (finishFinal_done _ _ _)) _ _
  | raised => trivial

/-- The tasks keep a stream sliced. -/
lemma Sliced.step (hr : r.Sliced) (h : r.step env a = some r') : r'.Sliced := by
  have hframe := step_frame h
  have hsettings : r'.session.maxBufferBytes = r.session.maxBufferBytes :=
    congrArg Prod.fst (Change.settings (.task (Q := fun _ _ => True) trivial h))
  refine ⟨?_, ?_, ?_, ?_⟩
  · rw [hframe.chunksReceived, hframe.accepted]
    exact hr.chunks
  · rw [hframe.cancelRequested, hframe.audioBuffer, hframe.accepted]
    exact hr.buffer
  · rw [hframe.audioBuffer, hsettings]
    exact hr.fits
  · rw [hframe.accepted, hframe.finalizeRequested]
    cases ha : a.isSender with
    | true =>
      obtain ⟨_, _, _, -, rfl⟩ := step_sender h ha
      exact hr.decodes
    | false => exact (step_move h ha).decodesFrom hr

/-- The worker of a stream that listens is in no final decode. -/
lemma Sliced.append (hr : r.Sliced) (hlisten : r.finalizeRequested = false) (chunk : Bytes) :
    r.worker.DecodesFrom (r.accepted ++ [chunk]) false := by
  have hdecodes := hr.decodes
  rw [hlisten] at hdecodes
  cases hw : r.worker with
  | transcribingPartial snap =>
    rw [hw] at hdecodes
    exact (hdecodes.append chunk).1
  | pushingPartial snap =>
    rw [hw] at hdecodes
    exact (hdecodes.append chunk).1
  | transcribingFinal | pushingFinal | finalizingDecoder | closingDecoder =>
    rw [hw] at hdecodes
    exact absurd hdecodes.2 (by simp)
  | _ => trivial

/-- An accepted chunk fits into the buffer. -/
lemma length_le_of_appendAudio {s s' : StreamSession} {chunk : Bytes}
    (h : s.appendAudio chunk = .ok s') : s'.audioBuffer.length ≤ s'.maxBufferBytes := by
  have hfits : s.audioBuffer.length + chunk.length ≤ s.maxBufferBytes := by
    by_contra hcon
    rw [StreamSession.appendAudio, if_pos (not_le.mp hcon)] at h
    cases h
  rw [StreamSession.appendAudio_eq_ok h]
  simpa using hfits

/-- Every change keeps a stream sliced. -/
lemma Sliced.change (hr : r.Sliced) (h : Change env (fun _ _ => True) r r') : r'.Sliced := by
  cases h with
  | task _ h => exact hr.step h
  | senderCancel h =>
    obtain ⟨_, rfl⟩ := senderCancel_eq h
    exact ⟨hr.chunks, hr.buffer, hr.fits, hr.decodes⟩
  | startTasks decoder =>
    cases decoder with
    | true => exact ⟨hr.chunks, hr.buffer, hr.fits, trivial⟩
    | false => exact ⟨hr.chunks, hr.buffer, hr.fits, trivial⟩
  | @appendAudio session chunk hactive hlisten _ h =>
    have hfits := length_le_of_appendAudio h
    have hdecodes := hr.append hlisten chunk
    obtain rfl := StreamSession.appendAudio_eq_ok h
    refine ⟨?_, fun _ => ?_, hfits, ?_⟩
    · simp [StreamRuntime.appendAudio, noteAudio, hr.chunks]
    · simp [StreamRuntime.appendAudio, noteAudio, hr.buffer hactive.kept]
    · show r.worker.DecodesFrom (r.accepted ++ [chunk]) r.finalizeRequested
      rw [hlisten]
      exact hdecodes
  | pong => exact ⟨hr.chunks, hr.buffer, hr.fits, hr.decodes⟩
  | requestFinalize _ hlisten =>
    refine ⟨hr.chunks, hr.buffer, hr.fits, ?_⟩
    have hdecodes := hr.decodes
    rw [hlisten] at hdecodes
    show r.worker.DecodesFrom r.accepted true
    cases hw : r.worker <;> rw [hw] at hdecodes <;>
      first | exact hdecodes | exact absurd hdecodes.2 (by simp)
  | cancel => exact ⟨hr.chunks, by rintro ⟨⟩, Nat.zero_le _, hr.decodes⟩
  | close => exact ⟨hr.chunks, hr.buffer, hr.fits, hr.decodes⟩
  | dropDecoder => exact ⟨hr.chunks, hr.buffer, hr.fits, hr.decodes⟩
  | callClose => exact ⟨hr.chunks, hr.buffer, hr.fits, hr.decodes⟩

end StreamRuntime

/-- The stream of a reachable connection is sliced. -/
lemma Conn.sliced {env : ServerEnv} {c : Conn} {r : StreamRuntime}
    (h : (connection env).Reaches {} c) (hs : c.stream = some r) : r.Sliced := by
  refine stream_invariant_of_reaches ?_ (fun _ _ hr h => hr.change h) h r hs
  intro config streamMaxBufferBytes streamId session hsession
  have hnew := createLocalSttStreamSession_new hsession
  exact ⟨by simp [hnew.chunksReceived], fun _ => by simp [hnew.audioBuffer],
    by simp [hnew.audioBuffer], trivial⟩

/-! ## The events of a step -/

/-- An event tells the audio of a session, and that `n` bytes were transcribed. -/
structure TranscriptEvent.Tells (e : TranscriptEvent) (s : StreamSession) (n : ℕ) : Prop where
  revision : e.revision = s.transcriptRevision + 1
  received : e.audioReceivedMs = s.audioReceivedMs
  transcribed : e.audioTranscribedMs = audioBytesToDurationMs n s.sampleRate
  windowStart : e.windowStartMs =
    max 0 ((s.audioReceivedMs : ℤ) - audioBytesToDurationMs n s.sampleRate)
  windowEnd : e.windowEndMs = s.audioReceivedMs
  remaining : e.remainingBufferBytes = (s.maxBufferBytes : ℤ) - s.audioBuffer.length

namespace StreamRuntime

/-- The bytes the decode was handed that ends in this step; a result that is reused was decoded from
the whole buffer. -/
def handed (r : StreamRuntime) : Bytes :=
  match r.worker with
  | .transcribingPartial snap => snap.audio
  | .pushingPartial snap => snap.audio
  | .transcribingFinal audio => audio
  | .pushingFinal audio _ => audio
  | .finalizingDecoder audio => audio
  | .closingDecoder audio _ => audio
  | _ => r.session.audioBuffer

variable {env : ServerEnv} {r r' : StreamRuntime} {a : StreamAct} {e : TranscriptEvent}

/-- An event that is enqueued tells the audio of the session. -/
lemma enqueueTranscript_tells {result : Transcript} {isFinal : Bool} {n : ℕ}
    (he : ((r.enqueueTranscript result isFinal n).afterEmit isFinal).outgoingEvents =
      r.outgoingEvents ++ [.transcript e]) : e.Tells r.session n := by
  have hevents : ((r.enqueueTranscript result isFinal n).afterEmit isFinal).outgoingEvents =
      (r.enqueueTranscript result isFinal n).outgoingEvents := by
    unfold afterEmit
    split_ifs <;> rfl
  rw [hevents] at he
  have hlast := List.append_cancel_left he
  obtain rfl : _ = e := by simpa [withQueueMetadata] using hlast
  exact ⟨rfl, rfl, rfl, rfl, rfl, rfl⟩

/-- A queue does not grow by nothing. -/
lemma ne_append_event (events : List Event) (e : Event) : events ≠ events ++ [e] := by
  intro h
  simpa using congrArg List.length h

/-- The event of a partial decode. -/
lemma PartialOutcome.event {snap : Snapshot} {result : Option Transcript}
    (h : PartialOutcome env r snap result r')
    (he : r'.outgoingEvents = r.outgoingEvents ++ [.transcript e]) :
    e.Tells r.session snap.audio.length ∧ r.IsOpen ∧ r.finalizeRequested = false ∧
      ∃ t, result = some t ∧ t.strippedText ≠ "" := by
  cases h with
  | emitted result hopen hlisten htext =>
    have htells := enqueueTranscript_tells (r := { r with
      partialDecodeStarted := false, session := r.recorded env snap result }) he
    refine ⟨?_, hopen, hlisten, result, rfl, htext⟩
    obtain ⟨text, count, hs⟩ := recordTranscriptStability_eq env.casefold
      (r.session.recordPartial result snap.chunksReceived snap.audioReceivedMs) result
    simp only [recorded, hs] at htells
    exact ⟨htells.revision, htells.received, htells.transcribed, htells.windowStart,
      htells.windowEnd, htells.remaining⟩
  | _ => exact absurd he (ne_append_event _ _)

/-- The event of a final decode. -/
lemma FinalOutcome.event {finalAudio : Bytes} {result : Transcript}
    (h : FinalOutcome r finalAudio result r')
    (he : r'.outgoingEvents = r.outgoingEvents ++ [.transcript e]) :
    e.Tells r.session finalAudio.length ∧ r.cancelRequested = false := by
  cases h with
  | emitted hkept =>
    exact ⟨enqueueTranscript_tells (r := { r with finalResult := some result }) he, hkept⟩
  | _ => exact absurd he (ne_append_event _ _)

/-- The event of a step tells the audio of the session and what was handed to the decode. -/
lemma WorkerMove.event (h : WorkerMove env r a r')
    (he : r'.outgoingEvents = r.outgoingEvents ++ [.transcript e]) :
    e.Tells r.session r.handed.length ∧ r.cancelRequested = false := by
  cases h with
  | reuse hw hset hopen hfin hdecoder hreuse =>
    have htells := (finishFinal_outcome r.awake r.session.audioBuffer _).event he
    rw [handed, hw]
    exact ⟨htells.1, htells.2⟩
  | transcribed hw result =>
    have htells := (afterPartial_outcome env r _ (some result)).event he
    rw [handed, hw]
    exact ⟨htells.1, htells.2.1.kept⟩
  | @pushed snap hw result =>
    have htells := (afterPartial_outcome env (r.advance snap.audio) snap result).event he
    rw [handed, hw]
    exact ⟨htells.1, htells.2.1.kept⟩
  | transcribedFinal hw result =>
    rw [handed, hw]
    exact (finishFinal_outcome r _ result).event he
  | closed hw =>
    rw [handed, hw]
    exact (finishFinal_outcome r _ _).event he
  | _ => exact absurd he (ne_append_event _ _)

/-! ## Transcripts pass their validators -/

/-- What was handed to a decode is a part of the buffer. -/
lemma Sliced.handed_length_le (hr : r.Sliced) (hkept : r.cancelRequested = false) :
    r.handed.length ≤ r.session.audioBuffer.length := by
  have hdecodes := hr.decodes
  have hsnap : ∀ {snap : Snapshot}, snap.TakenFrom r.accepted →
      snap.audio.length ≤ r.session.audioBuffer.length := by
    intro snap hsnap
    rw [hr.buffer hkept]
    exact hsnap.suffix.length_le.trans (snap.received_prefix r.accepted).length_le
  unfold handed
  cases hw : r.worker with
  | transcribingPartial snap =>
    rw [hw] at hdecodes
    exact hsnap hdecodes
  | pushingPartial snap =>
    rw [hw] at hdecodes
    exact hsnap hdecodes
  | transcribingFinal | pushingFinal | finalizingDecoder | closingDecoder =>
    rw [hw] at hdecodes
    exact (congrArg List.length (hdecodes.1.trans (hr.buffer hkept).symm)).le
  | _ => exact le_rfl

end StreamRuntime

/-- The numbers of an event are in order. -/
structure TranscriptEvent.InOrder (e : TranscriptEvent) : Prop where
  revision : 1 ≤ e.revision
  transcribed_le : e.audioTranscribedMs ≤ e.audioReceivedMs
  windowStart_nonneg : 0 ≤ e.windowStartMs
  windowStart_le : e.windowStartMs ≤ e.windowEndMs
  remaining_nonneg : 0 ≤ e.remainingBufferBytes

/-- An event about a part of a buffer that fits has its numbers in order. -/
lemma TranscriptEvent.Tells.inOrder {e : TranscriptEvent} {s : StreamSession} {n : ℕ}
    (h : e.Tells s n) (hn : n ≤ s.audioBuffer.length)
    (hfits : s.audioBuffer.length ≤ s.maxBufferBytes) : e.InOrder where
  revision := by rw [h.revision]; omega
  transcribed_le := by
    rw [h.transcribed, h.received]
    exact audioBytesToDurationMs_mono hn s.sampleRate
  windowStart_nonneg := by rw [h.windowStart]; exact le_max_left _ _
  windowStart_le := by rw [h.windowStart, h.windowEnd]; omega
  remaining_nonneg := by rw [h.remaining]; omega

/-- The message `_local_stt_transcript_event` makes of an event, with all its metadata. -/
def TranscriptEvent.message (e : TranscriptEvent) (metadata : Dict) : TranscriptMessage where
  text := e.text
  isFinal := e.isFinal
  speechFinal := e.isFinal
  revision := e.revision
  audioReceivedMs := e.audioReceivedMs
  audioTranscribedMs := e.audioTranscribedMs
  metadata := metadata
  language := e.language

/-- The arguments of a message with its numbers in order pass the validators. -/
lemma TranscriptEvent.InOrder.valid {e : TranscriptEvent} (h : e.InOrder) (metadata : Dict) :
    validateTranscript (e.message metadata).fields = .valid (e.message metadata) := by
  have hrevision : ¬ (e.revision : ℤ) < 1 := by
    have := h.revision
    omega
  have hle : ¬ (e.audioReceivedMs : ℤ) < e.audioTranscribedMs := by
    have := h.transcribed_le
    omega
  have hlanguage : field (e.message metadata).fields "language" (some none)
      requireOptionalStringField = .valid e.language := by
    cases hl : e.language <;>
      simp [field, TranscriptEvent.message, TranscriptMessage.fields, Dict.get?,
        List.lookup_cons, hl, Json.ofOption] <;> rfl
  have hinteger : ∀ (name : String) (bound n : ℤ), ¬ n < bound →
      (e.message metadata).fields.get? name = some (.int n) →
      field (e.message metadata).fields name none (integerAtLeast bound) = .valid n := by
    intro name bound n hn hget
    unfold field
    rw [hget]
    simp [integerAtLeast, requiredInteger, optionalInteger, hn, Validated.andThen, Validated.under]
  have hmessage : validateTranscript (e.message metadata).fields =
      (e.message metadata).validateTiming := by
    rw [validateTranscript, hinteger "revision" 1 e.revision hrevision rfl,
      hinteger "audio_received_ms" 0 e.audioReceivedMs (by omega) rfl,
      hinteger "audio_transcribed_ms" 0 e.audioTranscribedMs (by omega) rfl, hlanguage]
    rfl
  have hfinal : ¬ (e.isFinal = true ∧ (e.revision : ℤ) < 1) := fun h => hrevision h.2
  rw [hmessage]
  exact (if_neg hle).trans (if_neg hfinal)

/-- The exception a step brings. -/
def StreamAct.raises : StreamAct → Option Exn
  | .transcribed (.error e) => some e
  | .pushed (.error e) => some e
  | .decoderFinalized (.error e) => some e
  | .decoderClosed (.error e) => some e
  | _ => none

namespace StreamRuntime

variable {env : ServerEnv} {r r' : StreamRuntime} {a : StreamAct} {e : TranscriptEvent}

/-- A partial decode of a part of the buffer does not end with an exception. -/
lemma PartialOutcome.not_raised {snap : Snapshot} {result : Option Transcript}
    (h : PartialOutcome env r snap result r')
    (hsnap : r.cancelRequested = false → snap.audio.length ≤ r.session.audioBuffer.length)
    (e : Exn) : r'.worker ≠ .raised e := by
  cases h with
  | dropped => nofun
  | skipped => nofun
  | pending => nofun
  | silent => nofun
  | refused result hopen hlisten e' hlt =>
    exact absurd (audioBytesToDurationMs_mono (hsnap hopen.kept) r.session.sampleRate)
      (not_le.mpr hlt)
  | emitted result =>
    unfold afterEmit
    split_ifs <;> nofun

/-- A final decode of a part of the buffer does not end with an exception. -/
lemma FinalOutcome.not_raised {finalAudio : Bytes} {result : Transcript}
    (h : FinalOutcome r finalAudio result r')
    (haudio : r.cancelRequested = false → finalAudio.length ≤ r.session.audioBuffer.length)
    (e : Exn) : r'.worker ≠ .raised e := by
  cases h with
  | dropped => nofun
  | refused hkept e' hlt =>
    exact absurd (audioBytesToDurationMs_mono (haudio hkept) r.session.sampleRate)
      (not_le.mpr hlt)
  | emitted => nofun

/-- A worker ends with the exception of a call only. -/
lemma WorkerMove.raised_iff (hr : r.Sliced) (h : WorkerMove env r a r') (e : Exn)
    (hraised : r'.worker = .raised e) : a.raises = some e := by
  have hhanded := hr.handed_length_le
  cases h with
  | reuse hw hset hopen hfin hdecoder hreuse =>
    exact absurd hraised ((finishFinal_outcome r.awake r.session.audioBuffer _).not_raised
      (fun _ => le_rfl) e)
  | transcribed hw result =>
    rw [handed, hw] at hhanded
    exact absurd hraised ((afterPartial_outcome env r _ (some result)).not_raised hhanded e)
  | @pushed snap hw result =>
    rw [handed, hw] at hhanded
    exact absurd hraised
      ((afterPartial_outcome env (r.advance snap.audio) snap result).not_raised hhanded e)
  | transcribedFinal hw result =>
    rw [handed, hw] at hhanded
    exact absurd hraised ((finishFinal_outcome r _ result).not_raised hhanded e)
  | closed hw =>
    rw [handed, hw] at hhanded
    exact absurd hraised ((finishFinal_outcome r _ _).not_raised hhanded e)
  | raised hw ha =>
    obtain rfl := WorkerPc.raised.inj hraised
    rcases ha with rfl | rfl | rfl | rfl <;> rfl
  | stop => cases hraised
  | idle => cases hraised
  | transcribe => cases hraised
  | push => cases hraised
  | nothingToPush => cases hraised
  | transcribeFinal => cases hraised
  | pushFinal => cases hraised
  | callFinalize => cases hraised
  | pushedFinal => cases hraised
  | finalized => cases hraised

/-- A step that enqueues a transcript is a move of the worker. -/
lemma move_of_event (h : r.step env a = some r')
    (he : r'.outgoingEvents = r.outgoingEvents ++ [.transcript e]) : WorkerMove env r a r' := by
  refine step_move h (Bool.eq_false_iff.mpr fun ha => ?_)
  have hlength := congrArg List.length he
  cases a with
  | senderTake =>
    simp only [step, senderTake] at h
    split at h <;> cases h
    next hevents =>
      simp only [hevents, List.length_append, List.length_cons, List.length_nil] at hlength
      omega
  | senderSent result =>
    simp only [step, senderSent] at h
    split at h <;> cases h <;> simp at hlength
  | senderExit =>
    simp only [step, senderExit] at h
    split at h
    · split_ifs at h
      cases h
      simp at hlength
    · cases h
  | _ => cases ha

end StreamRuntime

namespace Conn

variable {env : ServerEnv} {c : Conn} {r : StreamRuntime}

/-- **Transcript construction never fails.** In every reachable state, for every decode result, a
transcript the worker builds has its numbers in order and passes the validators of its message; so
a running worker dies with the exception of a decoder call only. -/
theorem transcripts_valid (h : (connection env).Reaches {} c) (hs : c.stream = some r)
    {a : StreamAct} {r' : StreamRuntime} (hstep : r.step env a = some r') :
    (∀ e, r'.outgoingEvents = r.outgoingEvents ++ [.transcript e] → e.InOrder ∧
      ∀ metadata, validateTranscript (e.message metadata).fields = .valid (e.message metadata)) ∧
    ∀ e, r.worker.running = true → r'.worker = .raised e → a.raises = some e := by
  have hsliced := sliced h hs
  refine ⟨fun e he => ?_, fun e hrunning hraised => ?_⟩
  · obtain ⟨htells, hkept⟩ := (StreamRuntime.move_of_event hstep he).event he
    have horder := htells.inOrder (hsliced.handed_length_le hkept) hsliced.fits
    exact ⟨horder, fun metadata => horder.valid metadata⟩
  · cases ha : a.isSender with
    | true =>
      obtain ⟨_, _, _, -, rfl⟩ := StreamRuntime.step_sender hstep ha
      rw [show r.worker = .raised e from hraised] at hrunning
      cases hrunning
    | false => exact (StreamRuntime.step_move hstep ha).raised_iff hsliced e hraised

/-- A chunk arrives while the first one is decoded. -/
def chunkDuringDecode : List Act :=
  openStream plainStart false ++ deliver (.audio twoMs) ++ [.task .workerWake] ++
    deliver (.audio twoMs)

/-- The transcript of the first chunk is built when there are two. -/
theorem transcripts_valid_chunkDuringDecode :
    ∃ c r r' e, (connection defaultEnv).run {} chunkDuringDecode = some c ∧ c.stream = some r ∧
      r.step defaultEnv (.transcribed (.ok wordTranscript)) = some r' ∧
      r'.outgoingEvents = r.outgoingEvents ++ [.transcript e] ∧ e.InOrder ∧
      validateTranscript (e.message []).fields = .valid (e.message []) := by
  have hrun : ∃ c r r' e, (connection defaultEnv).run {} chunkDuringDecode = some c ∧
      c.stream = some r ∧ r.step defaultEnv (.transcribed (.ok wordTranscript)) = some r' ∧
      r'.outgoingEvents = r.outgoingEvents ++ [.transcript e] :=
    ⟨_, _, _, _, rfl, rfl, rfl, rfl⟩
  obtain ⟨c, r, r', e, hrun, hs, hstep, he⟩ := hrun
  obtain ⟨horder, hvalid⟩ := (transcripts_valid ⟨chunkDuringDecode, hrun⟩ hs hstep).1 e he
  exact ⟨c, r, r', e, hrun, hs, hstep, he, horder, hvalid []⟩

end Conn

end RtcAsr
