import RtcAsr.Server.DecodeWindow

/-!
# What a transcript reports

With a deterministic backend every transcript event of a stream is the backend's answer for audio of
that stream (`TranscriptEvent.Reports`): for a part of it, or, when a `finalize` ended the stream,
for all of it.  The audio of a stream only grows, so what was reported stays right (`Reports.grow`).
-/

namespace RtcAsr

/-! ## Speech -/

/-- What of a stream its transcripts are made of. -/
structure Speech where
  streamId : ℕ
  clientStreamId : Option String
  clientMetadata : Dict
  language : Option String
  sampleRate : ℤ
  /-- The stream may end on its own. -/
  autoFinal : Bool
  chunks : List Bytes
  /-- A `finalize` has ended the stream. -/
  finalized : Bool

namespace Speech

/-- The same stream later on: it may have more chunks, unless a `finalize` has ended it. -/
structure Grows (p p' : Speech) : Prop where
  settings : { p' with chunks := p.chunks, finalized := p.finalized } = p
  chunks : p.chunks <+: p'.chunks
  finalized : p.finalized = true → p' = p

/-- The backend recognises a result in a part of the speech. -/
inductive Part (B : DecodeBackend) (p : Speech) : DecoderMode → Transcript → Prop
  /-- The end of the first chunks is transcribed. -/
  | transcribed {n : ℕ} {audio : Bytes} {result : Transcript} (hn : n ≤ p.chunks.length)
    (haudio : audio <:+ (p.chunks.take n).flatten)
    (h : B.transcribe audio p.language p.sampleRate = .ok result) : Part B p .rollingWindow result
  /-- The speech is pushed up to some point. -/
  | pushed {pushes : List Bytes} {result : Transcript}
    (hpushes : pushes.flatten <+: p.chunks.flatten) (h : B.pushAudio pushes = .ok (some result)) :
    Part B p .stateful result

/-- The backend recognises a result in the whole speech. -/
inductive Whole (B : DecodeBackend) (p : Speech) : DecoderMode → Transcript → Prop
  | transcribed {result : Transcript}
    (h : B.transcribe p.chunks.flatten p.language p.sampleRate = .ok result) :
    Whole B p .rollingWindow result
  /-- The whole speech is pushed, and the decoder is finalized. -/
  | finalized {pushes : List Bytes} {result : Transcript}
    (hpushes : pushes.flatten = p.chunks.flatten) (h : B.finalize pushes = .ok result) :
    Whole B p .stateful result

variable {B : DecodeBackend} {p p' p'' : Speech} {mode : DecoderMode} {result : Transcript}

lemma Grows.refl (p : Speech) : p.Grows p := ⟨rfl, List.prefix_refl _, fun _ => rfl⟩

lemma Grows.trans (h : p.Grows p') (h' : p'.Grows p'') : p.Grows p'' := by
  refine ⟨?_, h.chunks.trans h'.chunks, fun hfinalized => ?_⟩
  · have hsettings := h.settings
    rw [← h'.settings] at hsettings
    exact hsettings
  · have hsame : p' = p := h.finalized hfinalized
    rw [← hsame] at hfinalized
    exact (h'.finalized hfinalized).trans hsame

/-- The language and the sample rate stay. -/
lemma Grows.format (h : p.Grows p') : p'.language = p.language ∧ p'.sampleRate = p.sampleRate := by
  have hlanguage := congrArg language h.settings
  have hrate := congrArg sampleRate h.settings
  exact ⟨hlanguage, hrate⟩

/-- The names of the stream stay, and whether it may end on its own. -/
lemma Grows.names (h : p.Grows p') : p'.streamId = p.streamId ∧
    p'.clientStreamId = p.clientStreamId ∧ p'.clientMetadata = p.clientMetadata ∧
    p'.autoFinal = p.autoFinal := by
  have hid := congrArg streamId h.settings
  have hclient := congrArg clientStreamId h.settings
  have hmetadata := congrArg clientMetadata h.settings
  have hauto := congrArg autoFinal h.settings
  exact ⟨hid, hclient, hmetadata, hauto⟩

/-- A part of the speech is a part of what it grows to. -/
lemma Part.grow (h : p.Part B mode result) (hgrows : p.Grows p') : p'.Part B mode result := by
  obtain ⟨hlanguage, hrate⟩ := hgrows.format
  obtain ⟨more, hmore⟩ := hgrows.chunks
  cases h with
  | @transcribed n audio result hn haudio h =>
    have htake : p'.chunks.take n = p.chunks.take n := by
      rw [← hmore, List.take_append_of_le_length hn]
    refine .transcribed (hn.trans hgrows.chunks.length_le) (?_ : audio <:+ _) ?_
    · rw [htake]
      exact haudio
    · rw [hlanguage, hrate]
      exact h
  | @pushed pushes result hpushes h =>
    refine .pushed (hpushes.trans ?_) h
    rw [← hmore, List.flatten_append]
    exact List.prefix_append _ _

end Speech

/-! ## Events -/

/-- The event carries a result of a session. -/
structure TranscriptEvent.Carries (e : TranscriptEvent) (s : StreamSession) (result : Transcript)
    (isFinal : Bool) : Prop where
  streamId : e.streamId = s.streamId
  clientStreamId : e.clientStreamId = s.clientStreamId
  clientMetadata : e.clientMetadata = s.clientMetadata
  decoderMode : e.decoderMode = s.decoderMode
  isFinal : e.isFinal = isFinal
  text : e.text = result.strippedText
  language : e.language = result.language.or s.language

/-- The event reports what the backend recognises in a speech: in a part of it, or in all of it
after a `finalize`.  Only a stream that may end on its own has a final transcript of a part. -/
structure TranscriptEvent.Reports (B : DecodeBackend) (e : TranscriptEvent) (p : Speech) :
    Prop where
  streamId : e.streamId = p.streamId
  clientStreamId : e.clientStreamId = p.clientStreamId
  clientMetadata : e.clientMetadata = p.clientMetadata
  result : ∃ result, e.text = result.strippedText ∧ e.language = result.language.or p.language ∧
    ((p.Part B e.decoderMode result ∧ (e.isFinal = true → p.autoFinal = true)) ∨
      (p.Whole B e.decoderMode result ∧ e.isFinal = true ∧ p.finalized = true))

/-- What was reported of a speech is right about what it grows to. -/
lemma TranscriptEvent.Reports.grow {B : DecodeBackend} {e : TranscriptEvent} {p p' : Speech}
    (h : e.Reports B p) (hgrows : p.Grows p') : e.Reports B p' := by
  obtain ⟨result, htext, hlanguage, hresult⟩ := h.result
  obtain ⟨hid, hclient, hmetadata, hautoFinal⟩ := hgrows.names
  refine ⟨h.streamId.trans hid.symm, h.clientStreamId.trans hclient.symm,
    h.clientMetadata.trans hmetadata.symm, result, htext, ?_, ?_⟩
  · rw [hgrows.format.1]
    exact hlanguage
  · rcases hresult with ⟨hpart, hauto⟩ | ⟨hwhole, hfinal, hfinalized⟩
    · exact Or.inl ⟨hpart.grow hgrows, fun hfinal => hautoFinal.trans (hauto hfinal)⟩
    · rw [hgrows.finalized hfinalized]
      exact Or.inr ⟨hwhole, hfinal, hfinalized⟩

/-! ## The session of a stream -/

/-- A session as it was created: what only the start message decides. -/
def StreamSession.blank (s : StreamSession) : StreamSession :=
  { s with
    decoderMode := .rollingWindow
    audioBuffer := []
    chunksReceived := 0
    lastPartialChunksReceived := 0
    lastPartialAudioReceivedMs := 0
    lastPartialResult := none
    stablePartialText := none
    stablePartialCount := 0
    transcriptRevision := 0 }

namespace StreamRuntime

variable {env : ServerEnv} {B : DecodeBackend} {r r' : StreamRuntime} {a : StreamAct}
  {e : TranscriptEvent}

/-- The speech of a stream. -/
def speech (r : StreamRuntime) : Speech where
  streamId := r.session.streamId
  clientStreamId := r.session.clientStreamId
  clientMetadata := r.session.clientMetadata
  language := r.session.language
  sampleRate := r.session.sampleRate
  autoFinal := r.session.finalizeOnStablePartial
  chunks := r.accepted
  finalized := r.finalizeRequested

/-- The speech of a stream depends on its created session, the chunks and the `finalize`. -/
lemma speech_congr (hblank : r'.session.blank = r.session.blank)
    (haccepted : r'.accepted = r.accepted)
    (hfin : r'.finalizeRequested = r.finalizeRequested) : r'.speech = r.speech := by
  have hid := congrArg StreamSession.streamId hblank
  have hclient := congrArg StreamSession.clientStreamId hblank
  have hmetadata := congrArg StreamSession.clientMetadata hblank
  have hlanguage := congrArg StreamSession.language hblank
  have hrate := congrArg StreamSession.sampleRate hblank
  have hauto := congrArg StreamSession.finalizeOnStablePartial hblank
  dsimp only [StreamSession.blank] at hid hclient hmetadata hlanguage hrate hauto
  simp only [speech, hid, hclient, hmetadata, hlanguage, hrate, hauto, haccepted, hfin]

/-- Recording a result leaves the created session alone. -/
lemma recorded_blank (env : ServerEnv) (r : StreamRuntime) (snap : Snapshot) (result : Transcript) :
    (r.recorded env snap result).blank = r.session.blank := by
  obtain ⟨text, count, hs⟩ := recordTranscriptStability_eq env.casefold
    (r.session.recordPartial result snap.chunksReceived snap.audioReceivedMs) result
  rw [recorded, hs]
  rfl

lemma afterEmit_blank (r : StreamRuntime) (isFinal : Bool) :
    (r.afterEmit isFinal).session.blank = r.session.blank := by
  unfold afterEmit
  split_ifs
  · rfl
  · rfl

lemma PartialOutcome.blank {snap : Snapshot} {result : Option Transcript}
    (h : PartialOutcome env r snap result r') : r'.session.blank = r.session.blank := by
  cases h with
  | dropped => rfl
  | skipped => rfl
  | pending result hopen hfin session hsession =>
    rcases hsession with rfl | rfl
    · rfl
    · rfl
  | silent result => exact recorded_blank env r snap result
  | refused result => exact recorded_blank env r snap result
  | emitted result => exact (afterEmit_blank _ _).trans (recorded_blank env r snap result)

lemma FinalOutcome.blank {finalAudio : Bytes} {result : Transcript}
    (h : FinalOutcome r finalAudio result r') : r'.session.blank = r.session.blank := by
  cases h with
  | dropped => rfl
  | refused => rfl
  | emitted => exact afterEmit_blank _ _

lemma WorkerMove.blank (h : WorkerMove env r a r') : r'.session.blank = r.session.blank := by
  cases h with
  | reuse => exact (finishFinal_outcome r.awake r.session.audioBuffer _).blank
  | transcribed hw result => exact (afterPartial_outcome env r _ (some result)).blank
  | pushed hw result => exact (afterPartial_outcome env (r.advance _) _ result).blank
  | transcribedFinal hw result => exact (finishFinal_outcome r _ result).blank
  | closed => exact (finishFinal_outcome r _ _).blank
  | _ => rfl

/-- No change of a stream touches its created session. -/
lemma Change.blank {Q : StreamRuntime → StreamAct → Prop} (h : Change env Q r r') :
    r'.session.blank = r.session.blank := by
  cases h with
  | @task _ a hQ h =>
    cases ha : a.isSender with
    | true =>
      obtain ⟨_, _, _, -, rfl⟩ := step_sender h ha
      rfl
    | false => exact (step_move h ha).blank
  | senderCancel h =>
    obtain ⟨_, rfl⟩ := senderCancel_eq h
    rfl
  | startTasks decoder =>
    cases decoder with
    | true => rfl
    | false => rfl
  | appendAudio _ _ _ h =>
    rw [StreamSession.appendAudio_eq_ok h]
    rfl
  | _ => rfl

/-- The tasks leave the speech alone. -/
lemma step_speech (h : r.step env a = some r') : r'.speech = r.speech := by
  have hframe := step_frame h
  have hblank := Change.blank (.task (Q := fun _ _ => True) trivial h)
  exact speech_congr hblank hframe.accepted hframe.finalizeRequested

/-- A stream's speech only grows. -/
lemma Change.speech {Q : StreamRuntime → StreamAct → Prop} (h : Change env Q r r') :
    r.speech.Grows r'.speech := by
  have hquiet : r'.accepted = r.accepted → r'.finalizeRequested = r.finalizeRequested →
      r.speech.Grows r'.speech := fun haccepted hfin => by
    rw [speech_congr h.blank haccepted hfin]
    exact .refl _
  cases h with
  | task hQ h =>
    rw [step_speech h]
    exact .refl _
  | senderCancel h =>
    obtain ⟨_, rfl⟩ := senderCancel_eq h
    exact hquiet rfl rfl
  | appendAudio _ hlisten _ h =>
    obtain rfl := StreamSession.appendAudio_eq_ok h
    refine ⟨rfl, List.prefix_append _ _, fun hfinalized => ?_⟩
    exact absurd (hfinalized.symm.trans hlisten) (by simp)
  | requestFinalize _ hlisten =>
    refine ⟨?_, List.prefix_refl _, fun hfinalized => ?_⟩
    · rfl
    · exact absurd (hfinalized.symm.trans hlisten) (by simp)
  | startTasks decoder =>
    cases decoder with
    | true => exact hquiet rfl rfl
    | false => exact hquiet rfl rfl
  | _ => exact hquiet rfl rfl

end StreamRuntime

/-! ## The mode of a stream -/

/-- The worker decodes with the stateful decoder in stateful mode, and without it otherwise. -/
def WorkerPc.Keeps (mode : DecoderMode) (decoder : Bool) : WorkerPc → Prop
  | .absent => mode = .rollingWindow
  | .waiting => decoder = true ↔ mode = .stateful
  | .transcribingPartial _ => mode = .rollingWindow ∧ decoder = false
  | .transcribingFinal _ => mode = .rollingWindow ∧ decoder = false
  | .pushingPartial _ => mode = .stateful ∧ decoder = true
  | .pushingFinal _ _ => mode = .stateful ∧ decoder = true
  | .finalizingDecoder _ => mode = .stateful ∧ decoder = true
  | .closingDecoder _ _ => mode = .stateful
  | _ => True

/-- A worker that is done decodes nothing. -/
lemma WorkerPc.keeps_of_done {w : WorkerPc} (hw : w.done = true) (mode : DecoderMode)
    (decoder : Bool) : w.Keeps mode decoder := by
  cases w with
  | returned => trivial
  | raised e => trivial
  | _ => cases hw

namespace StreamRuntime

variable {env : ServerEnv} {B : DecodeBackend} {r r' : StreamRuntime} {a : StreamAct}
  {e : TranscriptEvent}

/-- The worker keeps to the mode of the stream. -/
def InMode (r : StreamRuntime) : Prop := r.worker.Keeps r.session.decoderMode r.streamingDecoder

/-- A partial decode leaves the worker in its mode. -/
lemma inMode_afterPartial (hmode : r.streamingDecoder = true ↔ r.session.decoderMode = .stateful)
    (snap : Snapshot) (result : Option Transcript) : (r.afterPartial env snap result).InMode := by
  obtain ⟨-, -, -, hdecoder⟩ := given_eq_iff.mp (afterPartial_given env r snap result)
  have hframe := afterPartial_frame env r snap result
  unfold InMode
  rcases afterPartial_worker env r snap result with hw | hw
  · rw [hw, hframe.decoderMode, hdecoder]
    exact hmode
  · exact WorkerPc.keeps_of_done hw _ _

/-- The worker stays in its mode. -/
lemma WorkerMove.inMode (hr : r.InMode) (h : WorkerMove env r a r') : r'.InMode := by
  have hwaiting : r.worker = .waiting →
      (r.streamingDecoder = true ↔ r.session.decoderMode = .stateful) := fun hw => by
    rw [InMode, hw] at hr
    exact hr
  have hrolling : r.worker = .waiting → r.streamingDecoder = false →
      r.session.decoderMode = .rollingWindow := fun hw hdecoder => by
    have hiff := hwaiting hw
    rw [hdecoder] at hiff
    cases hmode : r.session.decoderMode with
    | rollingWindow => rfl
    | stateful => exact absurd (hiff.mpr hmode) (by simp)
  cases h with
  | stop => exact WorkerPc.keeps_of_done rfl _ _
  | idle hw => exact hwaiting hw
  | transcribe hw _ _ hdecoder => exact ⟨hrolling hw hdecoder, hdecoder⟩
  | push hw _ _ hdecoder => exact ⟨(hwaiting hw).mp hdecoder, hdecoder⟩
  | nothingToPush hw => exact hwaiting hw
  | transcribeFinal hw _ _ _ hdecoder => exact ⟨hrolling hw hdecoder, hdecoder⟩
  | pushFinal hw _ _ _ hdecoder => exact ⟨(hwaiting hw).mp hdecoder, hdecoder⟩
  | callFinalize hw _ _ _ hdecoder => exact ⟨(hwaiting hw).mp hdecoder, hdecoder⟩
  | reuse => exact WorkerPc.keeps_of_done (finishFinal_done _ _ _) _ _
  | transcribed hw =>
    rw [InMode, hw] at hr
    exact inMode_afterPartial (by simp [hr.1, hr.2]) _ _
  | pushed hw =>
    rw [InMode, hw] at hr
    exact inMode_afterPartial (by simp [advance, hr.1, hr.2]) _ _
  | transcribedFinal => exact WorkerPc.keeps_of_done (finishFinal_done _ _ _) _ _
  | pushedFinal hw =>
    rw [InMode, hw] at hr
    exact hr
  | finalized hw =>
    rw [InMode, hw] at hr
    exact hr.1
  | closed => exact WorkerPc.keeps_of_done (finishFinal_done _ _ _) _ _
  | raised => exact WorkerPc.keeps_of_done rfl _ _

/-- A stream stays in its mode. -/
lemma InMode.change {Q : StreamRuntime → StreamAct → Prop} (hr : r.InMode)
    (h : Change env Q r r') : r'.InMode := by
  cases h with
  | @task _ a hQ h =>
    cases ha : a.isSender with
    | true =>
      obtain ⟨_, _, _, -, rfl⟩ := step_sender h ha
      exact hr
    | false => exact (step_move h ha).inMode hr
  | senderCancel h =>
    obtain ⟨_, rfl⟩ := senderCancel_eq h
    exact hr
  | startTasks decoder hfresh =>
    have hmode : r.session.decoderMode = .rollingWindow := by
      rw [InMode, show r.worker = .absent by rw [hfresh]] at hr
      exact hr
    cases decoder with
    | true => exact iff_of_true rfl rfl
    | false => exact iff_of_false (by simp [startTasks]) (by simp [startTasks, hmode])
  | appendAudio _ _ _ h =>
    obtain rfl := StreamSession.appendAudio_eq_ok h
    exact hr
  | dropDecoder hcall hw =>
    have hkeeps : ∀ decoder, r.worker.Keeps r.session.decoderMode decoder := by
      intro decoder
      rw [InMode] at hr
      cases hworker : r.worker with
      | absent =>
        rw [hworker] at hr
        exact hr
      | returned => trivial
      | raised => trivial
      | _ =>
        rw [hworker] at hw
        cases hw
    exact hkeeps false
  | _ => exact hr

end StreamRuntime
end RtcAsr
