import RtcAsr.Server.Reports

/-!
# Transcripts are answers of the backend

Along a run whose decodes follow a deterministic backend, every transcript event in the queue of a
stream reports what the backend recognises in the speech of that stream (`Heard.events`,
`Conn.heard`).
-/

namespace RtcAsr

/-- A stateful decoder that is finalized has got all the chunks, and the result of one that is
closed is its answer to them. -/
def WorkerPc.Ends (B : DecodeBackend) (pushed accepted : List Bytes) : WorkerPc → Prop
  | .finalizingDecoder _ => pushed.flatten = accepted.flatten
  | .closingDecoder _ result => pushed.flatten = accepted.flatten ∧ B.finalize pushed = .ok result
  | _ => True

/-- A worker outside the final decodes ends none. -/
lemma WorkerPc.ends_of_rest {w : WorkerPc} (hw : w = .waiting ∨ w.done = true) (B : DecodeBackend)
    (pushed accepted : List Bytes) : w.Ends B pushed accepted := by
  rcases hw with rfl | hw
  · trivial
  · cases w with
    | returned => trivial
    | raised e => trivial
    | _ => cases hw

namespace StreamRuntime

/-- The stream is sliced and in step with its decoder, and its results and its events are answers of
the backend. -/
structure Heard (B : DecodeBackend) (r : StreamRuntime) : Prop where
  sliced : r.Sliced
  decoder : r.DecoderInvariant
  rolling : r.session.decoderMode = .rollingWindow → RollingInvariant B.transcribe r
  mode : r.InMode
  ends : r.worker.Ends B r.pushedAudio r.accepted
  events : ∀ e, .transcript e ∈ r.outgoingEvents → e.Reports B r.speech
  /-- Only a stream that may end on its own ends without a `finalize`. -/
  final : r.finalEmitted = true →
    r.session.finalizeOnStablePartial = true ∨ r.finalizeRequested = true

variable {env : ServerEnv} {B : DecodeBackend} {r r' : StreamRuntime} {a : StreamAct}
  {e : TranscriptEvent}

/-! ## The event of a step -/

/-- An event that is enqueued carries its result. -/
lemma enqueueTranscript_carries {result : Transcript} {isFinal : Bool} {n : ℕ}
    (he : ((r.enqueueTranscript result isFinal n).afterEmit isFinal).outgoingEvents =
      r.outgoingEvents ++ [.transcript e]) : e.Carries r.session result isFinal := by
  have hevents : ((r.enqueueTranscript result isFinal n).afterEmit isFinal).outgoingEvents =
      (r.enqueueTranscript result isFinal n).outgoingEvents := by
    unfold afterEmit
    split_ifs
    · rfl
    · rfl
  rw [hevents] at he
  have hlast := List.append_cancel_left he
  obtain rfl : _ = e := by simpa [withQueueMetadata] using hlast
  refine ⟨rfl, rfl, rfl, rfl, rfl, rfl, ?_⟩
  show (if result.language.isSome then result.language else r.session.language) = _
  cases result.language with
  | none => rfl
  | some language => rfl

/-- The event of a partial decode carries its result, and is final in an auto-final stream only. -/
lemma PartialOutcome.carries {snap : Snapshot} {result : Option Transcript}
    (h : PartialOutcome env r snap result r')
    (he : r'.outgoingEvents = r.outgoingEvents ++ [.transcript e]) :
    r.cancelRequested = false ∧ ∃ t isFinal, result = some t ∧ e.Carries r.session t isFinal ∧
      (isFinal = true → r.session.finalizeOnStablePartial = true) := by
  cases h with
  | emitted result hopen hlisten htext =>
    have hcarries := enqueueTranscript_carries (r := { r with
      partialDecodeStarted := false, session := r.recorded env snap result }) he
    refine ⟨hopen.kept, result, (r.recorded env snap result).shouldFinalizeStablePartial, rfl, ?_,
      fun hfinal => ?_⟩
    · obtain ⟨text, count, hs⟩ := recordTranscriptStability_eq env.casefold
        (r.session.recordPartial result snap.chunksReceived snap.audioReceivedMs) result
      simp only [recorded, hs] at hcarries ⊢
      exact ⟨hcarries.streamId, hcarries.clientStreamId, hcarries.clientMetadata,
        hcarries.decoderMode, hcarries.isFinal, hcarries.text, hcarries.language⟩
    · have hauto : (r.recorded env snap result).finalizeOnStablePartial = true := by
        rw [StreamSession.shouldFinalizeStablePartial, Bool.and_eq_true] at hfinal
        exact hfinal.1
      have hblank := congrArg StreamSession.finalizeOnStablePartial
        (recorded_blank env r snap result)
      exact hblank.symm.trans hauto
  | _ => exact absurd he (ne_append_event _ _)

/-- The event of a final decode carries its result. -/
lemma FinalOutcome.carries {finalAudio : Bytes} {result : Transcript}
    (h : FinalOutcome r finalAudio result r')
    (he : r'.outgoingEvents = r.outgoingEvents ++ [.transcript e]) :
    r.cancelRequested = false ∧ e.Carries r.session result true := by
  cases h with
  | emitted hkept =>
    exact ⟨hkept, enqueueTranscript_carries (r := { r with finalResult := some result }) he⟩
  | _ => exact absurd he (ne_append_event _ _)

/-- An event that carries a result recognised in a part of the speech. -/
lemma reports_of_part {result : Transcript} {isFinal : Bool}
    (h : e.Carries r.session result isFinal)
    (hpart : r.speech.Part B r.session.decoderMode result)
    (hauto : isFinal = true → r.session.finalizeOnStablePartial = true) : e.Reports B r.speech := by
  refine ⟨h.streamId, h.clientStreamId, h.clientMetadata, result, h.text, h.language,
    Or.inl ⟨?_, ?_⟩⟩
  · rw [h.decoderMode]
    exact hpart
  · rw [h.isFinal]
    exact hauto

/-- An event that carries the result of the whole speech. -/
lemma reports_of_whole {result : Transcript} (h : e.Carries r.session result true)
    (hwhole : r.speech.Whole B r.session.decoderMode result) (hfin : r.finalizeRequested = true) :
    e.Reports B r.speech := by
  refine ⟨h.streamId, h.clientStreamId, h.clientMetadata, result, h.text, h.language,
    Or.inr ⟨?_, ?_⟩⟩
  · rw [h.decoderMode]
    exact hwhole
  · exact ⟨h.isFinal, hfin⟩

/-- The transcription of all the chunks is the result of the whole speech. -/
lemma whole_of_decode {result : Transcript} (hmode : r.session.decoderMode = .rollingWindow)
    (h : r.session.decode B.transcribe r.accepted.flatten = .ok result) :
    r.speech.Whole B r.session.decoderMode result := by
  rw [hmode]
  exact .transcribed h

/-- **A transcript is an answer of the backend.** -/
theorem Heard.reports (hr : r.Heard B) (hfollows : r.FollowsBackend B a)
    (h : WorkerMove env r a r') (he : r'.outgoingEvents = r.outgoingEvents ++ [.transcript e]) :
    e.Reports B r.speech := by
  have hdecodes := hr.sliced.decodes
  have hmode := hr.mode
  have hends := hr.ends
  rw [InMode] at hmode
  cases h with
  | reuse hw hset hopen hfin hdecoder hreuse =>
    -- the last interim result is the transcription of the whole buffer
    obtain ⟨-, hcarries⟩ := (finishFinal_outcome r.awake r.session.audioBuffer _).carries he
    rw [hw, hdecoder] at hmode
    have hrolling : r.session.decoderMode = .rollingWindow := by
      cases hdecoderMode : r.session.decoderMode with
      | rollingWindow => rfl
      | stateful => exact absurd (hmode.mpr hdecoderMode) (by simp)
    have hdecoding := (hr.rolling hrolling).decoding hopen.kept
    have hdecode := hdecoding.cached.decode_eq hreuse
    rw [hdecoding.accepted] at hdecode
    exact reports_of_whole ⟨hcarries.streamId, hcarries.clientStreamId, hcarries.clientMetadata,
      hcarries.decoderMode, hcarries.isFinal, hcarries.text, hcarries.language⟩
      (whole_of_decode hrolling hdecode) hfin
  | @transcribed snap hw result =>
    obtain ⟨-, t, isFinal, ht, hcarries, hauto⟩ :=
      (afterPartial_outcome env r snap (some result)).carries he
    obtain rfl := Option.some.inj ht
    rw [hw] at hdecodes hmode
    simp only [FollowsBackend, FollowsTranscriber, hw] at hfollows
    refine reports_of_part hcarries ?_ hauto
    rw [hmode.1]
    exact .transcribed hdecodes.chunks_le hdecodes.suffix hfollows.symm
  | @pushed snap hw result =>
    obtain ⟨hkept, t, isFinal, rfl, hcarries, hauto⟩ :=
      (afterPartial_outcome env (r.advance snap.audio) snap result).carries he
    have hsynced := hr.decoder.synced hkept
    have hholds := hsynced.holds
    rw [hw] at hmode hholds
    simp only [FollowsBackend, hw] at hfollows
    have hpushes := (hsynced.cursor.advance hholds.1).flatten_eq
    rw [hsynced.accepted] at hpushes
    refine reports_of_part ⟨hcarries.streamId, hcarries.clientStreamId, hcarries.clientMetadata,
      hcarries.decoderMode, hcarries.isFinal, hcarries.text, hcarries.language⟩ ?_ hauto
    rw [hmode.1]
    refine .pushed ?_ hfollows.symm
    rw [hpushes]
    exact List.take_prefix _ _
  | transcribedFinal hw result =>
    obtain ⟨-, hcarries⟩ := (finishFinal_outcome r _ result).carries he
    rw [hw] at hdecodes hmode
    simp only [FollowsBackend, FollowsTranscriber, hw] at hfollows
    obtain ⟨haudio, hfin⟩ := hdecodes
    rw [haudio] at hfollows
    exact reports_of_whole hcarries (whole_of_decode hmode.1 hfollows.symm) hfin
  | closed hw =>
    obtain ⟨-, hcarries⟩ := (finishFinal_outcome r _ _).carries he
    rw [hw] at hdecodes hmode hends
    refine reports_of_whole hcarries ?_ hdecodes.2
    rw [show r.session.decoderMode = .stateful from hmode]
    exact .finalized hends.1 hends.2
  | _ => exact absurd he (ne_append_event _ _)

/-! ## The changes of a stream -/

/-- A change whose task step meets a stronger condition. -/
lemma Change.imp {Q Q' : StreamRuntime → StreamAct → Prop} (hQ : ∀ a, Q r a → Q' r a)
    (h : Change env Q r r') : Change env Q' r r' := by
  cases h with
  | @task _ a hmeets h => exact .task (hQ a hmeets) h
  | senderCancel h => exact .senderCancel h
  | startTasks decoder hfresh => exact .startTasks decoder hfresh
  | appendAudio hactive hlisten hw h => exact .appendAudio hactive hlisten hw h
  | pong hactive message => exact .pong hactive message
  | requestFinalize hactive hlisten hw => exact .requestFinalize hactive hlisten hw
  | cancel hactive hlisten hw => exact .cancel hactive hlisten hw
  | close => exact .close
  | dropDecoder hcall hw hclosed => exact .dropDecoder hcall hw hclosed
  | callClose hw hclosed => exact .callClose hw hclosed

/-- A backend is a transcriber. -/
lemma FollowsBackend.followsTranscriber (h : r.FollowsBackend B a) :
    r.FollowsTranscriber B.transcribe a := by
  cases a with
  | transcribed result => exact h
  | _ => trivial

/-- The sender only takes events out of the queue. -/
lemma sender_events (h : r.step env a = some r') (ha : a.isSender = true) {event : Event}
    (hmem : event ∈ r'.outgoingEvents) : event ∈ r.outgoingEvents := by
  cases a with
  | senderTake =>
    simp only [step, senderTake] at h
    split at h <;> cases h
    next hevents =>
      rw [hevents]
      exact List.mem_cons_of_mem _ hmem
  | senderSent result =>
    simp only [step, senderSent] at h
    split at h <;> cases h
    · exact hmem
    · exact hmem
  | senderExit =>
    simp only [step, senderExit] at h
    split at h
    · split_ifs at h
      cases h
      exact hmem
    · cases h
  | _ => cases ha

/-- A transcript gets into the queue by a move of the worker. -/
lemma step_transcript (h : r.step env a = some r') (hmem : .transcript e ∈ r'.outgoingEvents) :
    .transcript e ∈ r.outgoingEvents ∨
      WorkerMove env r a r' ∧ r'.outgoingEvents = r.outgoingEvents ++ [.transcript e] := by
  cases ha : a.isSender with
  | true => exact Or.inl (sender_events h ha hmem)
  | false =>
    cases (step_emits h ha).2 with
    | quiet heq =>
      have hsame : r'.outgoingEvents = r.outgoingEvents := congrArg QueueView.events heq
      rw [hsame] at hmem
      exact Or.inl hmem
    | refused _ heq =>
      have hsame : r'.outgoingEvents = r.outgoingEvents := congrArg QueueView.events heq
      rw [hsame] at hmem
      exact Or.inl hmem
    | emitted event _ _ _ _ heq =>
      have hnext : r'.outgoingEvents = r.outgoingEvents ++ [.transcript event] :=
        congrArg QueueView.events heq
      rw [hnext, List.mem_append, List.mem_singleton] at hmem
      rcases hmem with hmem | hmem
      · exact Or.inl hmem
      · obtain rfl : e = event := Event.transcript.inj hmem
        exact Or.inr ⟨step_move h ha, hnext⟩

/-- A stream ends with a final transcript. -/
lemma step_finalEmitted (h : r.step env a = some r') (hfinal : r'.finalEmitted = true) :
    r.finalEmitted = true ∨ ∃ e, WorkerMove env r a r' ∧
      r'.outgoingEvents = r.outgoingEvents ++ [.transcript e] ∧ e.isFinal = true := by
  cases ha : a.isSender with
  | true =>
    obtain ⟨_, _, _, -, rfl⟩ := step_sender h ha
    exact Or.inl hfinal
  | false =>
    cases (step_emits h ha).2 with
    | quiet heq => exact Or.inl ((congrArg QueueView.finalEmitted heq).symm.trans hfinal)
    | refused _ heq => exact Or.inl ((congrArg QueueView.finalEmitted heq).symm.trans hfinal)
    | emitted event _ _ _ _ heq =>
      have hflag := (congrArg QueueView.finalEmitted heq).symm.trans hfinal
      rcases Bool.or_eq_true_iff.mp hflag with hevent | hfinal
      · exact Or.inr ⟨event, step_move h ha, congrArg QueueView.events heq, hevent⟩
      · exact Or.inl hfinal

/-- The ends of a stream after a move of its worker. -/
lemma Heard.move_ends (hr : r.Heard B) (hfollows : r.FollowsBackend B a)
    (h : WorkerMove env r a r') : r'.worker.Ends B r'.pushedAudio r'.accepted := by
  have hends := hr.ends
  -- a worker in a final decode is not cancelled
  have hkept : r.worker.inFinal = true → r.cancelRequested = false := fun hfinal => by
    refine Bool.eq_false_iff.mpr fun hcanceled => ?_
    exact absurd (hfinal.symm.trans (hr.decoder.canceled hcanceled).2) (by simp)
  cases h with
  | callFinalize hw hset hopen hfin hdecoder hrest =>
    have hsynced := hr.decoder.synced hopen.kept
    show r.pushedAudio.flatten = r.accepted.flatten
    rw [← hsynced.accepted]
    exact hsynced.cursor.complete hrest
  | pushedFinal hw result =>
    have hsynced := hr.decoder.synced (hkept (by rw [hw]; rfl))
    have hholds := hsynced.holds
    rw [hw] at hholds
    obtain ⟨rfl, -⟩ := hholds
    have hcursor := hsynced.cursor.advance (List.prefix_refl r.rest)
    show (r.pushedAudio ++ [r.rest]).flatten = r.accepted.flatten
    rw [← hsynced.accepted]
    exact hcursor.complete hsynced.cursor.drop_advance_rest
  | finalized hw result =>
    rw [hw] at hends
    simp only [FollowsBackend] at hfollows
    exact ⟨hends, hfollows.symm⟩
  | reuse => exact WorkerPc.ends_of_rest (Or.inr (finishFinal_done _ _ _)) _ _ _
  | transcribed => exact WorkerPc.ends_of_rest (afterPartial_worker _ _ _ _) _ _ _
  | pushed => exact WorkerPc.ends_of_rest (afterPartial_worker _ _ _ _) _ _ _
  | transcribedFinal => exact WorkerPc.ends_of_rest (Or.inr (finishFinal_done _ _ _)) _ _ _
  | closed => exact WorkerPc.ends_of_rest (Or.inr (finishFinal_done _ _ _)) _ _ _
  | _ => trivial

/-- The ends of a stream after a change. -/
lemma Heard.change_ends (hr : r.Heard B) (h : Change env (FollowsBackend B) r r') :
    r'.worker.Ends B r'.pushedAudio r'.accepted := by
  have hends := hr.ends
  cases h with
  | @task _ a hfollows h =>
    cases ha : a.isSender with
    | true =>
      obtain ⟨_, _, _, -, rfl⟩ := step_sender h ha
      exact hends
    | false => exact hr.move_ends hfollows (step_move h ha)
  | senderCancel h =>
    obtain ⟨_, rfl⟩ := senderCancel_eq h
    exact hends
  | startTasks decoder => trivial
  | appendAudio hactive hlisten =>
    have hnot := (hr.decoder.synced hactive.kept).not_inFinal hlisten
    show r.worker.Ends B r.pushedAudio _
    cases hw : r.worker with
    | finalizingDecoder audio =>
      rw [hw] at hnot
      cases hnot
    | closingDecoder audio result =>
      rw [hw] at hnot
      cases hnot
    | _ => trivial
  | _ => exact hends

/-- A transcript gets into the queue by a step of a task. -/
lemma Change.transcript {Q : StreamRuntime → StreamAct → Prop} (h : Change env Q r r')
    (hmem : .transcript e ∈ r'.outgoingEvents) :
    .transcript e ∈ r.outgoingEvents ∨ ∃ a, Q r a ∧ WorkerMove env r a r' ∧
      r'.outgoingEvents = r.outgoingEvents ++ [.transcript e] := by
  cases h with
  | @task _ a hQ h =>
    rcases step_transcript h hmem with hmem | ⟨hmove, hevents⟩
    · exact Or.inl hmem
    · exact Or.inr ⟨a, hQ, hmove, hevents⟩
  | senderCancel h =>
    obtain ⟨_, rfl⟩ := senderCancel_eq h
    exact Or.inl hmem
  | pong hactive message =>
    refine Or.inl ?_
    simpa [enqueueEvent, withQueueMetadata] using hmem
  | cancel hactive =>
    refine Or.inl ?_
    simpa [enqueueEvent, withQueueMetadata, requestCancel] using hmem
  | _ => exact Or.inl hmem

/-- A final transcript that is not asked for is one of a stream that may end on its own. -/
lemma Heard.change_final (hr : r.Heard B) (h : Change env (FollowsBackend B) r r')
    (hfinal : r'.finalEmitted = true) :
    r'.session.finalizeOnStablePartial = true ∨ r'.finalizeRequested = true := by
  have hgrows := h.speech
  have hkeeps : r.session.finalizeOnStablePartial = true ∨ r.finalizeRequested = true →
      r'.session.finalizeOnStablePartial = true ∨ r'.finalizeRequested = true := by
    rintro (hauto | hfin)
    · exact Or.inl (hgrows.names.2.2.2.trans hauto)
    · have hsame : r'.speech = r.speech := hgrows.finalized hfin
      exact Or.inr ((congrArg Speech.finalized hsame).trans hfin)
  cases h with
  | task hfollows h =>
    rcases step_finalEmitted h hfinal with hfinal | ⟨e, hmove, hevents, hfinal⟩
    · exact hkeeps (hr.final hfinal)
    · obtain ⟨result, -, -, hresult⟩ := (hr.reports hfollows hmove hevents).result
      rcases hresult with ⟨-, hauto⟩ | ⟨-, -, hfinalized⟩
      · exact hkeeps (Or.inl (hauto hfinal))
      · exact hkeeps (Or.inr hfinalized)
  | senderCancel h =>
    obtain ⟨_, rfl⟩ := senderCancel_eq h
    exact hr.final hfinal
  | _ => exact hkeeps (hr.final hfinal)

/-- **Every change keeps the transcripts answers of the backend.** -/
theorem Heard.change (hr : r.Heard B) (h : Change env (FollowsBackend B) r r') : r'.Heard B where
  sliced := hr.sliced.change (h.imp fun _ _ => trivial)
  decoder := hr.decoder.change (h.imp fun _ _ => trivial)
  rolling := RollingInvariant.change hr.rolling
    (h.imp fun _ hfollows => hfollows.followsTranscriber)
  mode := hr.mode.change h
  ends := hr.change_ends h
  events := by
    intro e hmem
    rcases h.transcript hmem with hmem | ⟨a, hfollows, hmove, hevents⟩
    · exact (hr.events e hmem).grow h.speech
    · exact (hr.reports hfollows hmove hevents).grow h.speech
  final := hr.change_final h

/-- A started stream has reported nothing. -/
lemma heard_start {streamId : ℕ} {session : StreamSession} (h : session.New streamId) :
    Heard B { session := session } where
  sliced := ⟨by simp [h.chunksReceived], fun _ => by simp [h.audioBuffer], by simp [h.audioBuffer],
    trivial⟩
  decoder := decoderInvariant_start h.audioBuffer
  rolling := fun _ => rollingInvariant_start h
  mode := h.decoderMode
  ends := trivial
  events := by simp
  final := by simp

end StreamRuntime

/-- The active stream of a run that follows a backend. -/
lemma Conn.heard {env : ServerEnv} {B : DecodeBackend} {as : List Act} {c : Conn}
    (hfollows : (connection env).Along (TasksMeet (StreamRuntime.FollowsBackend B)) {} as)
    (hrun : (connection env).run {} as = some c) {r : StreamRuntime} (hs : c.stream = some r) :
    r.Heard B := by
  refine stream_invariant ?_ (fun _ _ hr h => hr.change h) hfollows hrun r hs
  intro config streamMaxBufferBytes streamId session hsession
  exact StreamRuntime.heard_start (createLocalSttStreamSession_new hsession)

end RtcAsr
