import RtcAsr.Server.DecodeWindow
import RtcAsr.Server.ReceivedStart

/-!
# No lost wake-up

The worker clears `audio_updated` before it looks at the flags and the cadence.  While it decodes,
the event stays clear only if nothing was requested and no chunk arrived, so that the positions it
records at the end of the decode are current ones (`Wakeful`).  With a positive cadence no partial
decode is then due, and a worker that waits on a cleared event has no work (`no_lost_wakeUp`).
-/

namespace RtcAsr

namespace StreamSession

/-- The cadence of the interim results is positive. -/
structure Cadenced (s : StreamSession) : Prop where
  chunks : 0 < s.partialIntervalChunks
  audio : ∀ ms, s.partialIntervalAudioMs = some ms → 0 < ms

/-- The last partial decode was given all the audio. -/
structure CaughtUp (s : StreamSession) : Prop where
  chunks : s.lastPartialChunksReceived = s.chunksReceived
  audio : s.lastPartialAudioReceivedMs = s.audioReceivedMs

/-- Nothing is due when the last partial decode was given all the audio. -/
lemma Cadenced.not_due {s : StreamSession} (hs : s.Cadenced) (h : s.CaughtUp) :
    s.shouldEmitPartial = false := by
  unfold shouldEmitPartial
  cases hms : s.partialIntervalAudioMs with
  | none =>
    have hpos := hs.chunks
    rw [h.chunks]
    simpa using hpos
  | some ms =>
    have hpos := hs.audio ms hms
    rw [h.audio]
    simpa using hpos

/-- The cadence is a setting. -/
lemma Cadenced.of_settings {s s' : StreamSession} (hs : s.Cadenced)
    (h : s'.settings = s.settings) : s'.Cadenced := by
  obtain ⟨-, hchunks, haudio, -⟩ : s'.maxBufferBytes = s.maxBufferBytes ∧
      s'.partialIntervalChunks = s.partialIntervalChunks ∧
      s'.partialIntervalAudioMs = s.partialIntervalAudioMs ∧ _ := by
    simpa [settings] using h
  exact ⟨by rw [hchunks]; exact hs.chunks, by rw [haudio]; exact hs.audio⟩

end StreamSession

/-- A created session has the cadence of its message, and nothing to catch up with. -/
lemma createLocalSttStreamSession_cadenced {config : LocalSttStartConfig}
    {streamMaxBufferBytes streamId : ℕ} {s : StreamSession} (hconfig : config.Cadenced)
    (h : createLocalSttStreamSession config streamMaxBufferBytes streamId = .ok s) :
    s.Cadenced ∧ s.CaughtUp := by
  obtain ⟨limited, window, -, -, rfl⟩ := createLocalSttStreamSession_eq_ok h
  refine ⟨⟨hconfig.chunks, hconfig.audio⟩, rfl, ?_⟩
  simp [StreamSession.audioReceivedMs, audioBytesToDurationMs, Binary64.divHalfEven]

namespace StreamRuntime

/-- Nothing was requested of the worker. -/
structure Unasked (r : StreamRuntime) : Prop where
  listens : r.finalizeRequested = false
  kept : r.cancelRequested = false
  notClosed : r.closed = false

/-- What the worker knows while the event is clear: at rest there is no work, and during a partial
decode nothing happened since the snapshot. -/
def Undisturbed (r : StreamRuntime) : Prop :=
  match r.worker with
  | .waiting => r.Unasked ∧ (r.session.interimResults = true → r.session.shouldEmitPartial = false)
  | .transcribingPartial snap => r.Unasked ∧ (r.session.skipPartial snap).CaughtUp
  | .pushingPartial snap => r.Unasked ∧ (r.session.skipPartial snap).CaughtUp
  | _ => True

/-- The event is clear only if the worker has nothing to do. -/
structure Wakeful (r : StreamRuntime) : Prop where
  cadenced : r.session.Cadenced
  idle : r.worker = .waiting → r.partialDecodeStarted = false
  fresh : r.worker = .absent → r.session.CaughtUp
  undisturbed : r.audioUpdated = false → r.Undisturbed

variable {env : ServerEnv} {r r' : StreamRuntime} {a : StreamAct}

/-- A worker that is done needs no waking. -/
lemma undisturbed_of_done (hw : r.worker.done = true) : r.Undisturbed := by
  unfold Undisturbed
  cases h : r.worker <;> first | exact trivial | (rw [h] at hw; cases hw)

/-- Recording a partial result catches up as the positions alone do. -/
lemma recorded_caughtUp (env : ServerEnv) {snap : Snapshot} (result : Transcript)
    (h : (r.session.skipPartial snap).CaughtUp) :
    (r.recorded env snap result).CaughtUp := by
  obtain ⟨text, count, hs⟩ := recordTranscriptStability_eq env.casefold
    (r.session.recordPartial result snap.chunksReceived snap.audioReceivedMs) result
  rw [recorded, hs]
  exact ⟨h.chunks, h.audio⟩

/-- A partial decode ends at rest with nothing due, or at the end of the worker. -/
lemma PartialOutcome.wakeful {snap : Snapshot} {result : Option Transcript}
    (h : PartialOutcome env r snap result r') (hcadenced : r.session.Cadenced)
    (hsnap : r.audioUpdated = false → r.Unasked ∧ (r.session.skipPartial snap).CaughtUp) :
    (r'.worker = .waiting → r'.partialDecodeStarted = false) ∧ r'.worker ≠ .absent ∧
      (r'.audioUpdated = false → r'.Undisturbed) := by
  have hcadenced' := hcadenced.of_settings h.settings
  cases h with
  | dropped => exact ⟨nofun, nofun, fun _ => trivial⟩
  | skipped =>
    refine ⟨fun _ => rfl, nofun, fun hclear => ?_⟩
    obtain ⟨hunasked, hcaught⟩ := hsnap (Bool.or_eq_false_iff.mp hclear).1
    exact ⟨⟨hunasked.listens, hunasked.kept, hunasked.notClosed⟩,
      fun _ => hcadenced'.not_due hcaught⟩
  | pending => exact ⟨fun _ => rfl, nofun, nofun⟩
  | silent result =>
    refine ⟨fun _ => rfl, nofun, fun hclear => ?_⟩
    obtain ⟨hunasked, hcaught⟩ := hsnap (Bool.or_eq_false_iff.mp hclear).1
    exact ⟨⟨hunasked.listens, hunasked.kept, hunasked.notClosed⟩,
      fun _ => hcadenced'.not_due (recorded_caughtUp env result hcaught)⟩
  | refused => exact ⟨nofun, nofun, fun _ => trivial⟩
  | emitted result =>
    revert hcadenced'
    unfold afterEmit
    split_ifs
    · exact fun _ => ⟨nofun, nofun, fun _ => trivial⟩
    · intro hcadenced'
      refine ⟨fun _ => rfl, nofun, fun hclear => ?_⟩
      obtain ⟨hunasked, hcaught⟩ := hsnap (Bool.or_eq_false_iff.mp hclear).1
      have hcaught' := recorded_caughtUp env result hcaught
      exact ⟨⟨hunasked.listens, hunasked.kept, hunasked.notClosed⟩,
        fun _ => hcadenced'.not_due ⟨hcaught'.chunks, hcaught'.audio⟩⟩

/-- A snapshot taken now catches up. -/
lemma snapshot_caughtUp (r : StreamRuntime) : (r.session.skipPartial r.snapshot).CaughtUp :=
  ⟨rfl, rfl⟩

/-- A stream whose worker is done is wakeful. -/
lemma wakeful_of_done (hcadenced : r.session.Cadenced) (hw : r.worker.done = true) : r.Wakeful := by
  refine ⟨hcadenced, fun h => ?_, fun h => ?_, fun _ => undisturbed_of_done hw⟩
  · rw [h] at hw
    cases hw
  · rw [h] at hw
    cases hw

/-- The worker keeps a stream wakeful. -/
lemma Wakeful.move (hr : r.Wakeful) (h : WorkerMove env r a r') : r'.Wakeful := by
  have hcadenced := hr.cadenced.of_settings h.settings
  have hclear := hr.undisturbed
  have hpartial : ∀ {s s' : StreamRuntime} {snap : Snapshot} {result : Option Transcript},
      PartialOutcome env s snap result s' → s'.session.Cadenced → s.session.Cadenced →
      (s.audioUpdated = false → s.Unasked ∧ (s.session.skipPartial snap).CaughtUp) →
      s'.Wakeful := by
    intro s s' snap result houtcome hs' hs hsnap
    obtain ⟨hidle, hstarted, hclear⟩ := houtcome.wakeful hs hsnap
    exact ⟨hs', hidle, fun h => absurd h hstarted, hclear⟩
  cases h with
  | stop => exact wakeful_of_done hcadenced rfl
  | idle hw hset hopen hlisten hnot =>
    refine ⟨hcadenced, fun _ => hr.idle hw, nofun, fun _ => ⟨?_, fun hinterim => ?_⟩⟩
    · exact ⟨hlisten, hopen.kept, hopen.notClosed⟩
    · rcases hnot with hstarted | hinterim' | hnot
      · exact absurd (hstarted.symm.trans (hr.idle hw)) (by simp)
      · exact absurd (hinterim.symm.trans hinterim') (by simp)
      · exact hnot
  | transcribe hw hset hdue =>
    exact ⟨hcadenced, nofun, nofun,
      fun _ => ⟨⟨hdue.listens, hdue.isOpen.kept, hdue.isOpen.notClosed⟩, rfl, rfl⟩⟩
  | push hw hset hdue =>
    exact ⟨hcadenced, nofun, nofun,
      fun _ => ⟨⟨hdue.listens, hdue.isOpen.kept, hdue.isOpen.notClosed⟩, rfl, rfl⟩⟩
  | nothingToPush hw hset hdue =>
    refine ⟨hcadenced, fun _ => rfl, nofun, fun _ => ⟨?_, fun _ => ?_⟩⟩
    · exact ⟨hdue.listens, hdue.isOpen.kept, hdue.isOpen.notClosed⟩
    · exact hcadenced.not_due r.snapshot_caughtUp
  | transcribeFinal => exact ⟨hcadenced, nofun, nofun, fun _ => trivial⟩
  | pushFinal => exact ⟨hcadenced, nofun, nofun, fun _ => trivial⟩
  | callFinalize => exact ⟨hcadenced, nofun, nofun, fun _ => trivial⟩
  | reuse => exact wakeful_of_done hcadenced (finishFinal_done _ _ _)
  | transcribed hw result =>
    rw [Undisturbed, hw] at hclear
    exact hpartial (afterPartial_outcome env r _ (some result)) hcadenced hr.cadenced hclear
  | @pushed snap hw result =>
    rw [Undisturbed, hw] at hclear
    refine hpartial (afterPartial_outcome env (r.advance snap.audio) snap result) hcadenced
      hr.cadenced fun h => ?_
    obtain ⟨hunasked, hcaught⟩ := hclear h
    exact ⟨⟨hunasked.listens, hunasked.kept, hunasked.notClosed⟩, hcaught⟩
  | transcribedFinal => exact wakeful_of_done hcadenced (finishFinal_done _ _ _)
  | pushedFinal => exact ⟨hcadenced, nofun, nofun, fun _ => trivial⟩
  | finalized => exact ⟨hcadenced, nofun, nofun, fun _ => trivial⟩
  | closed => exact wakeful_of_done hcadenced (finishFinal_done _ _ _)
  | raised => exact wakeful_of_done hcadenced rfl

/-- What the tasks and the handler leave alone keeps a stream wakeful. -/
lemma Wakeful.of_same (hr : r.Wakeful) (hsession : r'.session = r.session)
    (hworker : r'.worker = r.worker) (hstarted : r'.partialDecodeStarted = r.partialDecodeStarted)
    (hclear : r'.audioUpdated = false → r.audioUpdated = false ∧
      r'.finalizeRequested = r.finalizeRequested ∧ r'.cancelRequested = r.cancelRequested ∧
      r'.closed = r.closed) : r'.Wakeful := by
  refine ⟨by rw [hsession]; exact hr.cadenced, ?_, ?_, fun h => ?_⟩
  · rw [hworker, hstarted]
    exact hr.idle
  · rw [hworker, hsession]
    exact hr.fresh
  · obtain ⟨hset, hfin, hcancel, hclosed⟩ := hclear h
    have hundisturbed := hr.undisturbed hset
    have hunasked : r.Unasked → r'.Unasked := fun hr =>
      ⟨hfin.trans hr.listens, hcancel.trans hr.kept, hclosed.trans hr.notClosed⟩
    unfold Undisturbed at hundisturbed ⊢
    rw [hworker, hsession]
    cases hw : r.worker with
    | waiting | transcribingPartial | pushingPartial =>
      rw [hw] at hundisturbed
      exact ⟨hunasked hundisturbed.1, hundisturbed.2⟩
    | _ => trivial

/-- **Every change keeps a stream wakeful.** -/
theorem Wakeful.change (hr : r.Wakeful) (h : Change env (fun _ _ => True) r r') : r'.Wakeful := by
  have hcadenced := hr.cadenced.of_settings h.settings
  cases h with
  | @task _ a _ h =>
    cases ha : a.isSender with
    | true =>
      obtain ⟨_, _, _, -, rfl⟩ := step_sender h ha
      exact hr.of_same rfl rfl rfl fun h => ⟨h, rfl, rfl, rfl⟩
    | false => exact hr.move (step_move h ha)
  | senderCancel h =>
    obtain ⟨_, rfl⟩ := senderCancel_eq h
    exact hr.of_same rfl rfl rfl fun h => ⟨h, rfl, rfl, rfl⟩
  | startTasks decoder hfresh =>
    have hcaught := hr.fresh (by rw [hfresh])
    have hcaught' : (r.startTasks decoder).session.CaughtUp := by
      cases decoder with
      | true => exact ⟨hcaught.chunks, hcaught.audio⟩
      | false => exact hcaught
    have hunasked : (r.startTasks decoder).Unasked := by
      rw [hfresh]
      exact ⟨rfl, rfl, rfl⟩
    refine ⟨hcadenced, fun _ => ?_, nofun, fun _ => ⟨hunasked, fun _ => hcadenced.not_due hcaught'⟩⟩
    rw [hfresh]
    rfl
  | appendAudio hactive _ _ h =>
    refine ⟨hcadenced, hr.idle, fun hw => absurd hw hactive.started, nofun⟩
  | pong => exact hr.of_same rfl rfl rfl fun h => ⟨h, rfl, rfl, rfl⟩
  | requestFinalize => exact hr.of_same rfl rfl rfl nofun
  | cancel hactive => exact ⟨hcadenced, hr.idle, fun hw => absurd hw hactive.started, nofun⟩
  | close => exact hr.of_same rfl rfl rfl nofun
  | dropDecoder => exact hr.of_same rfl rfl rfl fun h => ⟨h, rfl, rfl, rfl⟩
  | callClose => exact hr.of_same rfl rfl rfl fun h => ⟨h, rfl, rfl, rfl⟩

end StreamRuntime

namespace Conn

variable {env : ServerEnv} {c : Conn} {r : StreamRuntime}

/-- **No lost wake-up.** If the messages taken off the transport are ones the receive functions
deliver, then a worker that waits while `audio_updated` is clear has no work: nothing was requested,
and with interim results enabled no partial decode is due. -/
theorem no_lost_wakeUp (h : (connection env).Reaches {} c)
    (hreceived : ∀ e ∈ c.taken, ∃ loads input, receiveClientInput loads input = .ok e)
    (hs : c.stream = some r) (hw : r.worker = .waiting) (hclear : r.audioUpdated = false) :
    r.finalizeRequested = false ∧ r.cancelRequested = false ∧ r.closed = false ∧
      (r.session.interimResults = true → r.session.shouldEmitPartial = false) := by
  have hwakeful : r.Wakeful := by
    refine stream_invariant_of_received (K := LocalSttStartConfig.Cadenced) ?_
      (fun _ _ hr h => hr.change h) h ?_ r hs
    · intro config streamMaxBufferBytes streamId session hconfig hsession
      obtain ⟨hcadenced, hcaught⟩ := createLocalSttStreamSession_cadenced hconfig hsession
      exact ⟨hcadenced, nofun, fun _ => hcaught, fun _ => trivial⟩
    · intro config hconfig
      obtain ⟨loads, input, hinput⟩ := hreceived _ hconfig
      exact receiveClientInput_cadenced hinput
  have hundisturbed := hwakeful.undisturbed hclear
  rw [StreamRuntime.Undisturbed, hw] at hundisturbed
  obtain ⟨hunasked, hdue⟩ := hundisturbed
  exact ⟨hunasked.listens, hunasked.kept, hunasked.notClosed, hdue⟩

/-- A start message without options. -/
def plainStartMessage : WebSocketMessage :=
  .text (.value (.obj [("type", .str "start"), ("version", .str PROTOCOL_VERSION),
    ("audio", .obj [("sample_rate", .int HOT_PATH_SAMPLE_RATE),
      ("channels", .int HOT_PATH_CHANNELS), ("format", .str HOT_PATH_PCM_FORMAT)])]))

/-- A stream, a chunk, and its interim result. -/
def chunkDecoded : List Act :=
  [.receive (receiveLocalSttEvent plainStartMessage), .wake, .startedDecoder (.ok false),
    .handlerSent (.ok ())] ++ deliver (.audio twoMs) ++
    [.task .workerWake, .task (.transcribed (.ok wordTranscript))]

/-- After the interim result no work is left. -/
theorem no_lost_wakeUp_chunkDecoded :
    ∃ c r, (connection defaultEnv).run {} chunkDecoded = some c ∧ c.stream = some r ∧
      r.worker = .waiting ∧ r.session.shouldEmitPartial = false := by
  have hrun : ∃ c r config, (connection defaultEnv).run {} chunkDecoded = some c ∧
      c.stream = some r ∧ c.taken = [.start config, .audio twoMs] ∧
      receiveLocalSttEvent plainStartMessage = .ok (.start config) ∧ r.worker = .waiting ∧
      r.audioUpdated = false ∧ r.session.interimResults = true :=
    ⟨_, _, _, rfl, rfl, rfl, rfl, rfl, rfl, rfl⟩
  obtain ⟨c, r, config, hrun, hs, htaken, hstart, hw, hclear, hinterim⟩ := hrun
  have hreceived : ∀ e ∈ c.taken, ∃ loads input, receiveClientInput loads input = .ok e := by
    intro e he
    rw [htaken] at he
    simp only [List.mem_cons, List.not_mem_nil, or_false] at he
    rcases he with rfl | rfl
    · exact ⟨fun _ => .malformed, .webSocket plainStartMessage, hstart⟩
    · exact ⟨fun _ => .malformed, .webSocket (.binary twoMs), rfl⟩
  exact ⟨c, r, hrun, hs, hw,
    (no_lost_wakeUp ⟨chunkDecoded, hrun⟩ hreceived hs hw hclear).2.2.2 hinterim⟩

end Conn
end RtcAsr
