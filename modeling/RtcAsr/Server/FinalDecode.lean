import RtcAsr.Foundation.Stamp
import RtcAsr.Server.Legacy
import RtcAsr.Server.StatefulDecoder

/-!
# The final result is a full decode

At the end of a stream the service may reuse the last interim result.  It does so when no chunk
arrived since the snapshot the result was decoded from and the window covers the buffer, and then
the result is the transcription of the whole buffer: the interim result is `Stamped` with the number
of chunks of its snapshot.

`Transcriber` is a deterministic transcriber, which may fail.
-/

namespace RtcAsr

/-- A deterministic transcriber: the result for an audio, a language and a sample rate. -/
abbrev Transcriber := Bytes → Option String → ℤ → Except Exn Transcript

/-- The transcription of an audio with the settings of a session. -/
def StreamSession.decode (s : StreamSession) (T : Transcriber) (audio : Bytes) :
    Except Exn Transcript := T audio s.language s.sampleRate

/-- The last interim result, if it is current and the window covers the buffer, is the
transcription of the buffer. -/
def StreamSession.Cached (T : Transcriber) (s : StreamSession) : Prop :=
  Stamped s.chunksReceived s.lastPartialChunksReceived
    (s.partialCoversFullBuffer = true → ∀ result, s.lastPartialResult = some result →
      s.decode T s.audioBuffer = .ok result)

/-- A result that is reused is the transcription of the buffer. -/
lemma StreamSession.Cached.decode_eq {T : Transcriber} {s : StreamSession} (h : s.Cached T)
    {result : Transcript} (hreuse : s.reusableLastPartial = some result) :
    s.decode T s.audioBuffer = .ok result := by
  unfold reusableLastPartial at hreuse
  split_ifs at hreuse with hcurrent
  exact h.holds hcurrent.1 hcurrent.2 result hreuse

/-- An appended chunk makes the last interim result stale. -/
lemma StreamSession.Cached.appendAudio {T : Transcriber} {s s' : StreamSession} (h : s.Cached T)
    {chunk : Bytes} (happend : s.appendAudio chunk = .ok s') : s'.Cached T := by
  obtain rfl := appendAudio_eq_ok happend
  exact Stamped.tick h

/-- A result decoded from the partial audio is current. -/
lemma StreamSession.cached_recordCurrentPartial {T : Transcriber} {s s' : StreamSession}
    {result : Transcript} (h : s.decode T s.partialAudioBytes = .ok result)
    (hrecord : s.recordCurrentPartial result = .ok s') :
    s'.audioBuffer = s.audioBuffer ∧ s'.Cached T := by
  unfold recordCurrentPartial at hrecord
  cases hrate : intToFloat s.sampleRate with
  | error e =>
    rw [hrate] at hrecord
    cases hrecord
  | ok rate =>
  rw [hrate] at hrecord
  obtain rfl := Except.ok.inj hrecord
  refine ⟨rfl, Stamped.current fun hcovers t ht => ?_⟩
  obtain rfl := Option.some.inj ht
  have haudio : s.partialAudioBytes = s.audioBuffer := partialAudioBytes_of_covers hcovers
  rw [haudio] at h
  exact h

/-! ## The v1 worker -/

namespace StreamRuntime

/-- A completed transcription returns what the transcriber says. -/
def FollowsTranscriber (T : Transcriber) (r : StreamRuntime) : StreamAct → Prop
  | .transcribed result =>
    match r.worker with
    | .transcribingPartial snap => result = r.session.decode T snap.audio
    | .transcribingFinal audio => result = r.session.decode T audio
    | _ => True
  | _ => True

/-- The record of the interim results, the final result, and whether there is a decoder. -/
def cache (r : StreamRuntime) : ℕ × Option Transcript × Option Transcript × Bool :=
  (r.session.lastPartialChunksReceived, r.session.lastPartialResult, r.finalResult,
    r.streamingDecoder)

lemma emitTranscript_cache (r : StreamRuntime) (result : Transcript) (isFinal : Bool) (n : ℕ) :
    (r.emitTranscript result isFinal n).cache = r.cache := by
  obtain ⟨e, h⟩ | h := emitTranscript_cases r result isFinal n
  · rw [h]
    rfl
  · rw [h]
    cases isFinal <;> rfl

/-- The cached interim result and the final result are full decodes. -/
structure Decoded (T : Transcriber) (r : StreamRuntime) : Prop where
  accepted : r.session.audioBuffer = r.accepted.flatten
  cached : r.session.Cached T
  result : ∀ result, r.finalResult = some result →
    r.finalizeRequested = true ∧ r.session.decode T r.session.audioBuffer = .ok result
  rolling : r.streamingDecoder = false

end StreamRuntime

/-- What a worker decodes without a stateful decoder: a snapshot that is the whole buffer if it is
current and the window covers the buffer, or the whole buffer. -/
def WorkerPc.Decodes (s : StreamSession) (finalizeRequested : Bool) : WorkerPc → Prop
  | .transcribingPartial snap =>
    Stamped s.chunksReceived snap.chunksReceived
      (s.partialCoversFullBuffer = true → snap.audio = s.audioBuffer)
  | .transcribingFinal audio => audio = s.audioBuffer ∧ finalizeRequested = true
  | .pushingPartial _ => False
  | .pushingFinal _ _ => False
  | .finalizingDecoder _ => False
  | .closingDecoder _ _ => False
  | _ => True

namespace StreamRuntime

/-- A stream without a stateful decoder decodes the whole buffer in the end, and so does its
worker. -/
structure Decoding (T : Transcriber) (r : StreamRuntime) : Prop extends Decoded T r where
  decodes : r.worker.Decodes r.session r.finalizeRequested

variable {T : Transcriber} {env : ServerEnv} {r r' : StreamRuntime}

/-- The window covers the buffer as before. -/
lemma Frame.covers (h : Frame r r') :
    r'.session.partialCoversFullBuffer = r.session.partialCoversFullBuffer := by
  rw [StreamSession.partialCoversFullBuffer, StreamSession.partialCoversFullBuffer,
    h.partialWindowBytes, h.audioBuffer]

/-- A step that leaves the interim results alone. -/
lemma Decoded.of_frame (hr : Decoded T r) (hframe : Frame r r') (hcache : r'.cache = r.cache) :
    Decoded T r' := by
  obtain ⟨hlast, hresult, hfinal, hdecoder⟩ : r'.session.lastPartialChunksReceived =
      r.session.lastPartialChunksReceived ∧ r'.session.lastPartialResult =
      r.session.lastPartialResult ∧ r'.finalResult = r.finalResult ∧
      r'.streamingDecoder = r.streamingDecoder := by
    simpa [cache] using hcache
  have hdecode : ∀ audio, r'.session.decode T audio = r.session.decode T audio := fun audio => by
    rw [StreamSession.decode, StreamSession.decode, hframe.language, hframe.sampleRate]
  refine ⟨?_, ?_, ?_, hdecoder.trans hr.rolling⟩
  · rw [hframe.audioBuffer, hframe.accepted]
    exact hr.accepted
  · rw [StreamSession.Cached, hframe.chunksReceived, hlast, hframe.covers, hresult,
      hframe.audioBuffer, hdecode]
    exact hr.cached
  · rw [hfinal, hframe.finalizeRequested, hframe.audioBuffer, hdecode]
    exact hr.result

lemma decodes_of_done {w : WorkerPc} (hw : w.done = true) (s : StreamSession) (b : Bool) :
    w.Decodes s b := by
  cases w <;> simp_all [WorkerPc.done, WorkerPc.Decodes]

/-- A worker that is done decodes nothing. -/
lemma Decoded.decoding_of_done (hr : Decoded T r) (hw : r.worker.done = true) : Decoding T r :=
  ⟨hr, decodes_of_done hw _ _⟩

/-- The result of a final decode of the whole buffer. -/
lemma Decoded.finishFinal (hr : Decoded T r) (hfin : r.finalizeRequested = true)
    {result : Transcript} (hresult : r.session.decode T r.session.audioBuffer = .ok result)
    (finalAudio : Bytes) : Decoding T (r.finishFinal finalAudio result) := by
  have hr' : Decoded T { r with finalResult := some result } :=
    ⟨hr.accepted, hr.cached, fun _ h => ⟨hfin, Option.some.inj h ▸ hresult⟩, hr.rolling⟩
  refine Decoded.decoding_of_done ?_ (finishFinal_done r finalAudio result)
  unfold StreamRuntime.finishFinal
  dsimp only
  split_ifs
  · exact hr'.of_frame (by constructor <;> rfl) rfl
  · exact hr'.of_frame (emitTranscript_frame _ _ _ _) (emitTranscript_cache _ _ _ _)

/-- The interim result of a snapshot is recorded. -/
lemma Decoded.record (hr : Decoded T r) {snap : Snapshot} {result : Transcript}
    (hsnap : Stamped r.session.chunksReceived snap.chunksReceived
      (r.session.partialCoversFullBuffer = true → snap.audio = r.session.audioBuffer))
    (hresult : r.session.decode T snap.audio = .ok result) :
    Decoded T { r with
      session := r.session.recordPartial result snap.chunksReceived snap.audioReceivedMs } := by
  refine ⟨hr.accepted, hsnap.imp fun haudio hcovers t ht => ?_, hr.result, hr.rolling⟩
  obtain rfl := Option.some.inj ht
  have hbuffer := haudio hcovers
  rw [hbuffer] at hresult
  exact hresult

lemma Decoded.afterPartial (hr : Decoded T r) {snap : Snapshot} {result : Transcript}
    (hsnap : Stamped r.session.chunksReceived snap.chunksReceived
      (r.session.partialCoversFullBuffer = true → snap.audio = r.session.audioBuffer))
    (hresult : r.session.decode T snap.audio = .ok result) :
    Decoding T (r.afterPartial env snap (some result)) := by
  have hrecord := hr.record hsnap hresult
  refine ⟨?_, ?_⟩
  · unfold StreamRuntime.afterPartial
    dsimp only
    split
    · exact hr.of_frame (by constructor <;> rfl) rfl
    · split
      · split_ifs
        · exact hrecord.of_frame (by constructor <;> rfl) rfl
        · exact hr.of_frame (by constructor <;> rfl) rfl
      · obtain ⟨text, count, hs⟩ := recordTranscriptStability_eq env.casefold
          (r.session.recordPartial result snap.chunksReceived snap.audioReceivedMs) result
        rw [hs]
        split
        · exact hrecord.of_frame (by constructor <;> rfl) rfl
        · refine Decoded.of_frame ?_ (emitTranscript_frame _ _ _ _) (emitTranscript_cache _ _ _ _)
          exact hrecord.of_frame (by constructor <;> rfl) rfl
  · obtain h | h := afterPartial_worker env r snap (some result)
    · rw [h]
      trivial
    · exact decodes_of_done h _ _

lemma Decoded.startFinal (hr : Decoded T r) (hfin : r.finalizeRequested = true) :
    Decoding T r.startFinal := by
  unfold StreamRuntime.startFinal
  dsimp only
  rw [if_neg (by simp [hr.rolling])]
  split
  · next result hreuse => exact hr.finishFinal hfin (hr.cached.decode_eq hreuse) _
  · exact ⟨hr.of_frame (by constructor <;> rfl) rfl, rfl, hfin⟩

lemma Decoded.startPartial (hr : Decoded T r) : Decoding T (r.startPartial env) := by
  unfold StreamRuntime.startPartial
  dsimp only
  rw [if_neg (by simp [hr.rolling]), if_neg (by simp [hr.rolling])]
  exact ⟨hr.of_frame (by constructor <;> rfl) rfl,
    Stamped.current fun hcovers => StreamSession.partialAudioBytes_of_covers hcovers⟩

lemma Decoded.workerWake (hr : Decoded T r) : Decoding T (r.workerWake env) := by
  have hr' : Decoded T { r with audioUpdated := false } := hr.of_frame (by constructor <;> rfl) rfl
  unfold StreamRuntime.workerWake
  dsimp only
  split_ifs with _ _ hfin
  · exact Decoded.decoding_of_done (hr.of_frame (by constructor <;> rfl) rfl) rfl
  · exact Decoded.decoding_of_done (hr.of_frame (by constructor <;> rfl) rfl) rfl
  · exact hr'.startFinal hfin
  · exact ⟨hr.of_frame (by constructor <;> rfl) rfl, trivial⟩
  · exact hr'.startPartial

lemma Decoded.workerRaise (hr : Decoded T r) (e : Exn) : Decoding T (r.workerRaise e) :=
  Decoded.decoding_of_done (hr.of_frame (by constructor <;> rfl) rfl) rfl

/-- The tasks keep the results full decodes. -/
lemma Decoding.step {a : StreamAct} (hr : Decoding T r) (hfollows : FollowsTranscriber T r a)
    (h : r.step env a = some r') : Decoding T r' := by
  have hdecodes := hr.decodes
  cases a with
  | workerWake =>
    simp only [StreamRuntime.step] at h
    split at h
    · split_ifs at h
      exact Option.some.inj h ▸ hr.toDecoded.workerWake
    · cases h
  | transcribed result =>
    simp only [StreamRuntime.step, transcribed] at h
    simp only [FollowsTranscriber] at hfollows
    split at h <;> cases h
    · next hw =>
      rw [hw] at hdecodes hfollows
      exact hr.toDecoded.afterPartial hdecodes hfollows.symm
    · next hw =>
      rw [hw] at hdecodes hfollows
      obtain ⟨rfl, hfin⟩ := hdecodes
      exact hr.toDecoded.finishFinal hfin hfollows.symm _
    · exact hr.toDecoded.workerRaise _
    · exact hr.toDecoded.workerRaise _
  | pushed result =>
    simp only [StreamRuntime.step, pushed] at h
    split at h <;> cases h <;> next hw => rw [hw] at hdecodes; exact absurd hdecodes id
  | decoderFinalized result =>
    simp only [StreamRuntime.step, decoderFinalized] at h
    split at h <;> cases h <;> next hw => rw [hw] at hdecodes; exact absurd hdecodes id
  | decoderClosed result =>
    simp only [StreamRuntime.step, decoderClosed] at h
    split at h <;> cases h <;> next hw => rw [hw] at hdecodes; exact absurd hdecodes id
  | senderTake | senderSent | senderExit =>
    obtain ⟨_, _, _, -, rfl⟩ := step_sender h rfl
    exact ⟨hr.toDecoded.of_frame (by constructor <;> rfl) rfl, hdecodes⟩

/-- What a worker decodes depends on the buffer, the number of chunks and the window. -/
lemma decodes_congr {s s' : StreamSession} (hchunks : s'.chunksReceived = s.chunksReceived)
    (hcovers : s'.partialCoversFullBuffer = s.partialCoversFullBuffer)
    (hbuffer : s'.audioBuffer = s.audioBuffer) (w : WorkerPc) (b : Bool) :
    w.Decodes s' b ↔ w.Decodes s b := by
  cases w <;> simp [WorkerPc.Decodes, hchunks, hcovers, hbuffer]

/-- A step that leaves the interim results and the worker alone. -/
lemma Decoding.of_frame (hr : Decoding T r) (hframe : Frame r r') (hcache : r'.cache = r.cache)
    (hw : r'.worker = r.worker) : Decoding T r' := by
  refine ⟨hr.toDecoded.of_frame hframe hcache, ?_⟩
  rw [hw, hframe.finalizeRequested,
    decodes_congr hframe.chunksReceived hframe.covers hframe.audioBuffer]
  exact hr.decodes

/-- An appended chunk makes the snapshots stale. -/
lemma Decoding.appendAudio (hr : Decoding T r) (hlisten : r.finalizeRequested = false)
    {session : StreamSession} {chunk : Bytes} (h : r.session.appendAudio chunk = .ok session) :
    Decoding T (r.appendAudio session chunk) := by
  have hcached := hr.cached.appendAudio h
  have hdecodes := hr.decodes
  obtain rfl := StreamSession.appendAudio_eq_ok h
  refine ⟨⟨?_, hcached, fun result hresult => ?_, hr.rolling⟩, ?_⟩
  · simp [StreamRuntime.appendAudio, noteAudio, hr.accepted]
  · exact absurd (hlisten.symm.trans (hr.result result hresult).1) (by simp)
  · show r.worker.Decodes _ r.finalizeRequested
    rw [hlisten] at hdecodes ⊢
    cases hw : r.worker <;> rw [hw] at hdecodes <;> simp_all [WorkerPc.Decodes]
    exact Stamped.tick hdecodes

/-- A finalize request leaves the results full decodes. -/
lemma Decoding.requestFinalize (hr : Decoding T r) : Decoding T r.requestFinalize := by
  refine ⟨⟨hr.accepted, hr.cached, fun result h => ⟨rfl, (hr.result result h).2⟩, hr.rolling⟩, ?_⟩
  have hdecodes := hr.decodes
  show r.worker.Decodes r.session true
  cases hw : r.worker <;> rw [hw] at hdecodes <;> simp_all [WorkerPc.Decodes]

/-! ## Over a run -/

/-- The results of a stream are full decodes until it is cancelled, and a cancelled one has no final
result. -/
structure RollingInvariant (T : Transcriber) (r : StreamRuntime) : Prop where
  decoding : r.cancelRequested = false → Decoding T r
  canceled : r.cancelRequested = true → r.finalResult = none ∧ r.worker.inFinal = false

/-- A started stream has no results. -/
lemma rollingInvariant_start {streamId : ℕ} {session : StreamSession} (h : session.New streamId) :
    RollingInvariant T { session := session } where
  decoding := fun _ =>
    { accepted := h.audioBuffer
      cached := ⟨by simp [h.chunksReceived, h.lastPartialChunksReceived],
        fun _ _ result hresult => by simp [h.lastPartialResult] at hresult⟩
      result := nofun
      rolling := rfl
      decodes := trivial }
  canceled := nofun

/-- The worker of a stream that listens is in no final decode. -/
lemma Decoding.not_inFinal (hr : Decoding T r) (hlisten : r.finalizeRequested = false) :
    r.worker.inFinal = false := by
  have hdecodes := hr.decodes
  rw [hlisten] at hdecodes
  cases hw : r.worker <;> simp_all [WorkerPc.Decodes, WorkerPc.inFinal]

/-- Every change of a stream without a stateful decoder keeps its results full decodes. -/
lemma RollingInvariant.change (hr : r.session.decoderMode = .rollingWindow → RollingInvariant T r)
    (h : Change env (FollowsTranscriber T) r r')
    (hmode : r'.session.decoderMode = .rollingWindow) : RollingInvariant T r' := by
  cases h with
  | task hfollows h =>
    have hframe := step_frame h
    have hr := hr (hframe.decoderMode.symm.trans hmode)
    refine ⟨fun hkept => (hr.decoding (hframe.cancelRequested.symm.trans hkept)).step hfollows h,
      fun hcanceled => ?_⟩
    have hcanceled' := hframe.cancelRequested.symm.trans hcanceled
    obtain ⟨hresult, hw⟩ := hr.canceled hcanceled'
    have hstep := step_canceled hcanceled' hw h
    exact ⟨hstep.2.1.trans hresult, hstep.2.2⟩
  | senderCancel h =>
    obtain ⟨_, rfl⟩ := senderCancel_eq h
    have hr := hr hmode
    exact ⟨fun hkept => (hr.decoding hkept).of_frame (by constructor <;> rfl) rfl rfl, hr.canceled⟩
  | startTasks decoder hfresh =>
    cases decoder with
    | true => cases hmode
    | false =>
      have hr := hr hmode
      refine ⟨fun hkept => ?_, fun hcanceled => ?_⟩
      · have hdecoding := hr.decoding hkept
        exact ⟨⟨hdecoding.accepted, hdecoding.cached, hdecoding.result, rfl⟩, trivial⟩
      · exact ⟨(hr.canceled hcanceled).1, rfl⟩
  | appendAudio hactive hlisten _ h =>
    have hmode' : r.session.decoderMode = .rollingWindow := by
      obtain rfl := StreamSession.appendAudio_eq_ok h
      exact hmode
    have hr := hr hmode'
    exact ⟨fun _ => (hr.decoding hactive.kept).appendAudio hlisten h, hr.canceled⟩
  | pong =>
    have hr := hr hmode
    exact ⟨fun hkept => (hr.decoding hkept).of_frame (by constructor <;> rfl) rfl rfl, hr.canceled⟩
  | requestFinalize hactive =>
    have hr := hr hmode
    exact ⟨fun _ => (hr.decoding hactive.kept).requestFinalize, hr.canceled⟩
  | cancel hactive hlisten =>
    have hdecoding := (hr hmode).decoding hactive.kept
    refine ⟨nofun, fun _ => ⟨?_, hdecoding.not_inFinal hlisten⟩⟩
    by_contra hresult
    obtain ⟨result, hresult⟩ := Option.ne_none_iff_exists'.mp hresult
    exact absurd (hlisten.symm.trans (hdecoding.result result hresult).1) (by simp)
  | close =>
    have hr := hr hmode
    exact ⟨fun hkept => (hr.decoding hkept).of_frame (by constructor <;> rfl) rfl rfl, hr.canceled⟩
  | dropDecoder =>
    have hr := hr hmode
    refine ⟨fun hkept => ?_, hr.canceled⟩
    have hdecoding := hr.decoding hkept
    exact ⟨⟨hdecoding.accepted, hdecoding.cached, hdecoding.result, rfl⟩, hdecoding.decodes⟩
  | callClose =>
    have hr := hr hmode
    exact ⟨fun hkept => (hr.decoding hkept).of_frame (by constructor <;> rfl) rfl rfl, hr.canceled⟩

end StreamRuntime

/-! ## The legacy route -/

namespace LegacyConn

/-- The transcriptions of a step are what the transcriber says. -/
def FollowsTranscriber (T : Transcriber) (l : LegacyConn) : LegacyAct → Prop
  | .message _ transcribe => ∀ s, l.session = some s → ∀ audio, transcribe audio = s.decode T audio
  | .written _ => True

/-- The active session of the route has the accepted audio, and its interim result is current or
stale. -/
def Decoded (T : Transcriber) (l : LegacyConn) : Prop :=
  ∀ s, l.session = some s → s.audioBuffer = l.accepted.flatten ∧ s.Cached T

variable {T : Transcriber} {config : LegacyConfig} {l l' : LegacyConn}

lemma Decoded.raise (hl : Decoded T l) (e : Exn) : Decoded T (l.raise e) := by
  unfold LegacyConn.raise
  split <;> exact hl

/-- A chunk is appended, and the interim result decoded at it is recorded. -/
lemma Decoded.audio (hl : Decoded T l) {transcribe : Bytes → Except Exn Transcript}
    {s : StreamSession} (hs : l.session = some s)
    (hfollows : ∀ audio, transcribe audio = s.decode T audio) (chunk : Bytes) :
    Decoded T (l.audio transcribe s chunk) := by
  obtain ⟨haccepted, hcached⟩ := hl s hs
  unfold LegacyConn.audio
  split
  · exact hl.raise _
  · next s' happend =>
    have hcached' := hcached.appendAudio happend
    have hbuffer : s'.audioBuffer = (l.accepted ++ [chunk]).flatten := by
      rw [StreamSession.appendAudio_eq_ok happend]
      simp [haccepted]
    have hfollows' : ∀ audio, transcribe audio = s'.decode T audio := by
      rw [StreamSession.appendAudio_eq_ok happend]
      exact hfollows
    have hl' : ∀ (services : Services) (t : StreamSession), t.audioBuffer = s'.audioBuffer →
        t.Cached T → Decoded T { l with
          services := services, session := some t, accepted := l.accepted ++ [chunk] } := by
      rintro services t ht hcached _ ⟨⟩
      exact ⟨ht.trans hbuffer, hcached⟩
    dsimp only
    split
    · exact hl' l.services _ rfl hcached'
    · split
      · exact (hl' l.services _ rfl hcached').raise _
      · next result hresult =>
        have hdecode := (hfollows' s'.partialAudioBytes).symm.trans hresult
        split
        · exact (hl' { preloadError := none, loaded := true } _ rfl hcached').raise _
        · next t hrecord =>
          obtain ⟨ht, hcached⟩ := StreamSession.cached_recordCurrentPartial hdecode hrecord
          split
          · exact hl' { preloadError := none, loaded := true } _ ht hcached
          · exact hl' { preloadError := none, loaded := true } _ ht hcached

lemma Decoded.stop (hl : Decoded T l) (transcribe : Bytes → Except Exn Transcript)
    (s : StreamSession) : Decoded T (l.stop transcribe s) := by
  unfold LegacyConn.stop
  split
  · exact hl.raise _
  · split
    · exact hl.raise _
    · rintro _ ⟨⟩

lemma Decoded.handle (hl : Decoded T l) {transcribe : Bytes → Except Exn Transcript}
    (hfollows : ∀ s, l.session = some s → ∀ audio, transcribe audio = s.decode T audio)
    (payload : LegacyPayload) : Decoded T (l.handle config transcribe payload) := by
  cases payload with
  | binary chunk =>
    simp only [LegacyConn.handle]
    split
    · exact hl.raise _
    · next s hs => exact hl.audio hs (hfollows s hs) chunk
  | json payload eventType =>
    simp only [LegacyConn.handle]
    split
    · split
      · exact hl.raise _
      · split
        · exact hl.raise _
        · next s hsession =>
          have hnew := createStreamSession_new hsession
          rintro _ ⟨⟩
          refine ⟨hnew.audioBuffer, ?_, fun _ _ result hresult => ?_⟩
          · rw [hnew.chunksReceived, hnew.lastPartialChunksReceived]
          · rw [hnew.lastPartialResult] at hresult
            cases hresult
    · split
      · split
        · exact hl.raise _
        · next s hs =>
          split
          · exact hl.raise _
          · exact hl.audio hs (hfollows s hs) _
      · split
        · split
          · exact hl.raise _
          · exact hl.stop _ _
        · split
          · split
            · exact hl.raise _
            · rintro _ ⟨⟩
          · exact hl.raise _

/-- A step of the route keeps the interim result current or stale. -/
lemma Decoded.step {a : LegacyAct} (hl : Decoded T l) (hfollows : FollowsTranscriber T l a)
    (h : l.step config a = some l') : Decoded T l' := by
  cases a with
  | message m transcribe =>
    simp only [LegacyConn.step] at h
    split at h
    · split at h <;> cases h
      · exact hl.raise _
      · exact hl.handle hfollows _
    · cases h
  | written result =>
    simp only [LegacyConn.step] at h
    split at h <;> cases h
    · exact hl
    · exact hl.raise _
    · exact hl

end LegacyConn

/-! ## The theorem -/

/-- **The final result is a full decode.** On a v1 connection without a stateful decoder, whatever
the order of appends, snapshots, decodes and requests, the final result is the transcription of the
concatenation of the accepted chunks; and so is what a stop on the legacy route resolves to. -/
theorem finalResult_eq_full_decode (T : Transcriber) :
    (∀ env as c r result, (connection env).run {} as = some c →
      (connection env).Along (Conn.TasksMeet (StreamRuntime.FollowsTranscriber T)) {} as →
      c.stream = some r → r.session.decoderMode = .rollingWindow →
      r.finalResult = some result →
        T r.accepted.flatten r.session.language r.session.sampleRate = .ok result) ∧
    (∀ config as l s, (legacyRoute config).run {} as = some l →
      (legacyRoute config).Along (LegacyConn.FollowsTranscriber T) {} as →
      l.session = some s →
        resolveFinalResult (s.decode T) s =
          T l.accepted.flatten s.language s.sampleRate) := by
  constructor
  · intro env as c r result hrun halong hs hmode hresult
    have hinv := Conn.stream_invariant
      (P := fun r => r.session.decoderMode = .rollingWindow → r.RollingInvariant T)
      (fun _ _ _ session h _ =>
        StreamRuntime.rollingInvariant_start (createLocalSttStreamSession_new h))
      (fun r r' hr h hmode => StreamRuntime.RollingInvariant.change hr h hmode)
      halong hrun r hs hmode
    have hkept : r.cancelRequested = false := by
      by_contra hcanceled
      have hnone := (hinv.canceled (Bool.eq_true_of_not_eq_false hcanceled)).1
      exact absurd (hresult.symm.trans hnone) (by simp)
    have hdecoding := hinv.decoding hkept
    rw [← hdecoding.accepted]
    exact (hdecoding.result result hresult).2
  · intro config as l s hrun halong hs
    have hdecoded := StepSystem.invariant_along (I := LegacyConn.Decoded T)
      (fun l a l' hl hfollows hstep => hl.step hfollows hstep) (fun _ h => by cases h) halong hrun
    obtain ⟨haccepted, hcached⟩ := hdecoded s hs
    rw [← haccepted]
    unfold resolveFinalResult
    split
    · next result hreuse => exact (hcached.decode_eq hreuse).symm
    · rfl

/-- A transcriber that tells how many bytes it was given. -/
def countBytes : Transcriber := fun audio _ _ => .ok { text := .other (toString audio.length) }

/-- An interim result is decoded and reused at the finalize request. -/
def reuseAtFinalize : List Act :=
  openStream plainStart false ++ deliver (.audio [1, 0]) ++
    [.task .workerWake, .task (.transcribed (countBytes [1, 0] none 16000))] ++
    deliver .finalize ++ [.task .workerWake]

/-- A start message of the legacy route with interim results after every second chunk, and a binary
frame. -/
def legacyStartAndAudio : List LegacyAct :=
  [.message
      (.text (.value (.obj [("type", .str "start"), ("partial_interval_chunks", .int 2)])))
      fun audio => countBytes audio none 16000,
    .written (.ok ()), .message (.binary [1, 0]) fun audio => countBytes audio (some "en") 16000]

theorem finalResult_eq_full_decode_countBytes :
    (∃ c r result, (connection defaultEnv).run {} reuseAtFinalize = some c ∧ c.stream = some r ∧
      r.finalResult = some result ∧ r.accepted = [[1, 0]] ∧
      countBytes r.accepted.flatten r.session.language r.session.sampleRate = .ok result) ∧
    (∃ l s, (legacyRoute {}).run {} legacyStartAndAudio = some l ∧ l.session = some s ∧
      resolveFinalResult (s.decode countBytes) s =
        countBytes l.accepted.flatten s.language s.sampleRate) := by
  obtain ⟨hv1, hlegacy⟩ := finalResult_eq_full_decode countBytes
  constructor
  · refine ⟨_, _, _, rfl, rfl, rfl, rfl, hv1 defaultEnv reuseAtFinalize _ _ _ rfl ?_ rfl rfl rfl⟩
    refine .cons trivial rfl (.cons trivial rfl (.cons trivial rfl (.cons trivial rfl ?_)))
    refine .cons trivial rfl (.cons trivial rfl (.cons (fun _ _ => trivial) rfl ?_))
    refine .cons ?_ rfl (.cons trivial rfl (.cons trivial rfl ?_))
    · rintro _ ⟨⟩
      rfl
    · exact .cons (fun _ _ => trivial) rfl trivial
  · refine ⟨_, _, rfl, rfl, hlegacy {} legacyStartAndAudio _ _ rfl ?_ rfl⟩
    refine .cons (fun _ h => by cases h) rfl (.cons trivial rfl (.cons ?_ rfl trivial))
    rintro _ ⟨⟩ audio
    rfl

end RtcAsr
