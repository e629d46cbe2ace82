import RtcAsr.Server.ConnReadiness

/-!
# Client input and the readiness of the legacy route

The legacy route takes every `ValueError` for one of the client.  With a model that loads and runs
without failure it records a failure exactly when, as long as the model is not loaded, it gets an
extreme message, or audio on which `load_audio` raises another exception, or a write fails with an
exception it does not expect (`LegacyConn.step_leads`).
-/

namespace RtcAsr

/-! ## The audio that is transcribed -/

/-- `load_audio` raises an exception that is no `ValueError`. -/
def AudioProcessor.Fails (processor : AudioProcessor) (audioData : Bytes) (sampleRate : ℤ) : Prop :=
  ∃ error, processor.loadAudio audioData (some sampleRate) = .error error ∧
    error.isValueError = false

/-- The legacy route expects the `ValueError`s of `load_audio` only. -/
lemma AudioExn.expectedLegacy_exn (error : AudioExn) :
    error.exn.ExpectedLegacy ↔ error.isValueError = true := by
  cases error with
  | builtin error => cases error <;> simp [exn, Exn.ExpectedLegacy, isValueError]
  | _ => simp [exn, Exn.ExpectedLegacy, isValueError]

namespace StreamSession

/-- The audio that a chunk makes the legacy route transcribe. -/
def chunkTranscribes (s : StreamSession) (chunk : Bytes) : Option Bytes :=
  match s.appendAudio chunk with
  | .error _ => none
  | .ok s =>
    if (s.chunksReceived : ℤ) % s.partialIntervalChunks ≠ 0 then none else some s.partialAudioBytes

/-- The audio that the end of a stream makes the legacy route transcribe. -/
def stopTranscribes (s : StreamSession) : Option Bytes :=
  if s.audioBuffer = [] then none
  else
    match s.reusableLastPartial with
    | some _ => none
    | none => some s.audioBuffer

/-- The audio that a payload makes the legacy route transcribe. -/
def transcribes (s : StreamSession) : LegacyPayload → Option Bytes
  | .binary chunk => s.chunkTranscribes chunk
  | .json payload eventType =>
    if eventType = "audio" then
      match decodeWebsocketAudio payload with
      | .error _ => none
      | .ok chunk => s.chunkTranscribes chunk
    else if eventType = "stop" then s.stopTranscribes
    else none

end StreamSession

/-! ## The legacy route -/

namespace LegacyConn

variable {processor : AudioProcessor} {config : LegacyConfig} {l l' : LegacyConn}
  {T : Bytes → Except Exn Transcript}

lemma raise_services (l : LegacyConn) (e : Exn) :
    (l.raise e).services = l.services.afterLegacyRaise e := by
  cases e with
  | builtin error => cases error <;> rfl
  | _ => rfl

/-- The model stays loaded, and the services are ready exactly under the condition. -/
structure Leads (P : Prop) (l l' : LegacyConn) : Prop where
  loaded : l.services.loaded = true → l'.services.loaded = true
  ready : l'.services.preloadError = none ↔ P

/-- The condition is put in other words. -/
lemma Leads.congr {P Q : Prop} (h : l.Leads P l') (hiff : P ↔ Q) : l.Leads Q l' :=
  ⟨h.loaded, h.ready.trans hiff⟩

/-- The model is loaded, or `load_audio` does not fail on the audio that is transcribed, if any. -/
def Readable (processor : AudioProcessor) (l : LegacyConn) (s : StreamSession)
    (transcribes : Option Bytes) : Prop :=
  l.services.loaded = true ∨
    ∀ audio, transcribes = some audio → ¬ processor.Fails audio s.sampleRate

/-- No audio is readable. -/
lemma readable_none (l : LegacyConn) (s : StreamSession) : l.Readable processor s none :=
  Or.inr (by rintro _ ⟨⟩)

/-- A step that leaves the services alone. -/
lemma leads_of_same {P : Prop} (hready : l.services.preloadError = none)
    (h : l'.services = l.services) (hP : P) : l.Leads P l' := by
  refine ⟨?_, ?_⟩
  · rw [h]
    exact id
  · rw [h]
    exact iff_of_true hready hP

/-- A step that raises. -/
lemma raise_leads {P : Prop} {e : Exn} (hready : l.services.preloadError = none)
    (he : ¬ e.IsLoadFailure) (hP : l.services.loaded = true ∨ e.ExpectedLegacy ↔ P) :
    l.Leads P (l.raise e) := by
  refine ⟨?_, ?_⟩
  · rw [raise_services, Services.loaded_afterLegacyRaise]
    exact id
  · rw [raise_services, Services.preloadError_afterLegacyRaise hready he]
    exact hP

/-- An error of the client leaves the services alone. -/
lemma raise_clientError_leads {P : Prop} (hready : l.services.preloadError = none)
    (message : String) (hP : P) : l.Leads P (l.raise (clientError message)) :=
  raise_leads hready (by rintro ⟨_, ⟨⟩⟩) (iff_of_true (Or.inr trivial) hP)

/-- After a transcription nothing but a load failure can harm the services. -/
lemma raise_transcribed_leads {P : Prop} (m : LegacyConn) (error : PyError) (hP : P) :
    l.Leads P (m.transcribed.raise (.builtin error)) := by
  have hleads := raise_leads (l := m.transcribed) (P := P) rfl
    (StreamRuntime.not_isLoadFailure_builtin error) (iff_of_true (Or.inl rfl) hP)
  exact ⟨fun _ => hleads.loaded rfl, hleads.ready⟩

/-- What the session holds does not matter to the services. -/
lemma Leads.of_session {P : Prop} (h : l.Leads P l') (m : LegacyConn)
    (hm : m.services = l'.services) : l.Leads P m := by
  refine ⟨?_, ?_⟩
  · rw [hm]
    exact h.loaded
  · rw [hm]
    exact h.ready

/-- The transcription of a message raises what `load_audio` raises. -/
lemma raise_refused_leads {s : StreamSession} {audio : Bytes} {transcribes : Option Bytes} {e : Exn}
    (hready : l.services.preloadError = none)
    (he : processor.Answers l.services.loaded audio s.language s.sampleRate (.error e))
    (haudio : transcribes = some audio) :
    l.Leads (l.Readable processor s transcribes) (l.raise e) := by
  obtain ⟨error, hload, rfl⟩ := he.of_error
  refine raise_leads hready error.not_isLoadFailure (or_congr_right ?_)
  rw [error.expectedLegacy_exn]
  constructor
  · rintro hvalue audio' haudio' ⟨error', hload', hnot⟩
    obtain rfl := Option.some.inj (haudio.symm.trans haudio')
    obtain rfl := Except.error.inj (hload.symm.trans hload')
    rw [hvalue] at hnot
    cases hnot
  · intro hreadable
    by_contra hnot
    exact hreadable audio haudio ⟨error, hload, Bool.eq_false_iff.mpr hnot⟩

/-- The audio of a transcription that returned is readable. -/
lemma readable_of_ok {s : StreamSession} {audio : Bytes} {transcribes : Option Bytes}
    {result : Transcript}
    (hresult : processor.Answers l.services.loaded audio s.language s.sampleRate (.ok result))
    (haudio : transcribes = some audio) : l.Readable processor s transcribes := by
  obtain ⟨decodedAudio, hload⟩ := hresult.of_ok
  refine Or.inr ?_
  rintro audio' haudio' ⟨error, herror, -⟩
  obtain rfl := Option.some.inj (haudio.symm.trans haudio')
  cases hload.symm.trans herror

/-- A chunk of audio. -/
lemma audio_leads (hready : l.services.preloadError = none) {s : StreamSession}
    (hworks : ∀ audio,
      processor.Answers l.services.loaded audio s.language s.sampleRate (T audio)) (chunk : Bytes) :
    l.Leads (l.Readable processor s (s.chunkTranscribes chunk)) (l.audio T s chunk) := by
  unfold audio StreamSession.chunkTranscribes
  cases happend : s.appendAudio chunk with
  | error e =>
    unfold StreamSession.appendAudio at happend
    split_ifs at happend
    cases happend
    exact raise_leads hready (by rintro ⟨_, ⟨⟩⟩)
      (iff_of_true (Or.inr trivial) (readable_none l s))
  | ok s' =>
    have hsame : s'.language = s.language ∧ s'.sampleRate = s.sampleRate := by
      unfold StreamSession.appendAudio at happend
      split_ifs at happend
      cases happend
      exact ⟨rfl, rfl⟩
    dsimp only
    split_ifs with hdue
    · exact leads_of_same hready rfl (readable_none l s)
    · have hanswers := hworks s'.partialAudioBytes
      cases hresult : T s'.partialAudioBytes with
      | error e =>
        rw [hresult] at hanswers
        dsimp only
        have hleads : l.Leads (l.Readable processor s (some s'.partialAudioBytes)) (l.raise e) :=
          raise_refused_leads hready hanswers rfl
        exact hleads.of_session _ (by simp only [raise_services])
      | ok result =>
        rw [hresult] at hanswers
        have hreadable : l.Readable processor s (some s'.partialAudioBytes) :=
          readable_of_ok hanswers rfl
        dsimp only
        split
        · exact raise_transcribed_leads _ _ hreadable
        · split_ifs
          · exact ⟨fun _ => rfl, iff_of_true rfl hreadable⟩
          · exact ⟨fun _ => rfl, iff_of_true rfl hreadable⟩

/-- The end of a stream. -/
lemma stop_leads (hready : l.services.preloadError = none) {s : StreamSession}
    (hworks : ∀ audio,
      processor.Answers l.services.loaded audio s.language s.sampleRate (T audio)) :
    l.Leads (l.Readable processor s s.stopTranscribes) (l.stop T s) := by
  unfold stop StreamSession.stopTranscribes
  by_cases hempty : s.audioBuffer = []
  · rw [if_pos hempty, if_pos hempty]
    exact raise_clientError_leads hready _ (readable_none l s)
  · rw [if_neg hempty, if_neg hempty]
    cases hreuse : s.reusableLastPartial with
    | some result =>
      simp only [resolveFinalResult, hreuse]
      exact leads_of_same hready rfl (readable_none l s)
    | none =>
      simp only [resolveFinalResult, hreuse]
      have hanswers := hworks s.audioBuffer
      cases hresult : T s.audioBuffer with
      | error e =>
        rw [hresult] at hanswers
        exact raise_refused_leads hready hanswers rfl
      | ok result =>
        rw [hresult] at hanswers
        have hreadable : l.Readable processor s (some s.audioBuffer) :=
          readable_of_ok hanswers rfl
        exact ⟨fun _ => rfl, iff_of_true rfl hreadable⟩

/-- Audio that cannot be decoded is an error of the client. -/
lemma decodeWebsocketAudio_error {p : Dict} {e : Exn} (h : decodeWebsocketAudio p = .error e) :
    ∃ message, e = clientError message := by
  unfold decodeWebsocketAudio at h
  split_ifs at h
  · cases h
    exact ⟨_, rfl⟩
  all_goals
    dsimp only at h
    split at h
    · split_ifs at h
      · cases h
        exact ⟨_, rfl⟩
      · split at h <;> cases h
        exact ⟨_, rfl⟩
    · cases h
      exact ⟨_, rfl⟩

/-- A payload that needs a session, without one. -/
lemma handle_idle_leads {P : Prop} (hready : l.services.preloadError = none)
    (hnone : l.session = none) {payload : LegacyPayload} (hstart : ∀ p, payload ≠ .json p "start")
    (hP : P) : l.Leads P (l.handle config T payload) := by
  cases payload with
  | binary chunk =>
    simp only [handle, hnone]
    exact raise_clientError_leads hready _ hP
  | json p eventType =>
    simp only [handle, hnone]
    split_ifs with h₁ h₂ h₃ h₄
    · exact absurd (by rw [h₁]) (hstart p)
    · exact raise_clientError_leads hready _ hP
    · exact raise_clientError_leads hready _ hP
    · exact raise_clientError_leads hready _ hP
    · exact raise_clientError_leads hready _ hP

/-- A text message with audio. -/
lemma handle_audio_leads (hready : l.services.preloadError = none) {s : StreamSession}
    (hs : l.session = some s)
    (hworks : ∀ audio,
      processor.Answers l.services.loaded audio s.language s.sampleRate (T audio)) (p : Dict) :
    l.Leads (l.Readable processor s (s.transcribes (.json p "audio")))
      (l.handle config T (.json p "audio")) := by
  cases hdecode : decodeWebsocketAudio p with
  | error e =>
    obtain ⟨message, rfl⟩ := decodeWebsocketAudio_error hdecode
    have hhandle : l.handle config T (.json p "audio") = l.raise (clientError message) := by
      rw [handle, if_neg (by decide), if_pos rfl, hs, hdecode]
    have htranscribes : s.transcribes (.json p "audio") = none := by
      rw [StreamSession.transcribes, if_pos rfl, hdecode]
    rw [hhandle, htranscribes]
    exact raise_clientError_leads hready message (readable_none l s)
  | ok chunk =>
    have hhandle : l.handle config T (.json p "audio") = l.audio T s chunk := by
      rw [handle, if_neg (by decide), if_pos rfl, hs, hdecode]
    have htranscribes : s.transcribes (.json p "audio") = s.chunkTranscribes chunk := by
      rw [StreamSession.transcribes, if_pos rfl, hdecode]
    rw [hhandle, htranscribes]
    exact audio_leads hready hworks chunk

/-- A payload for the session. -/
lemma handle_session_leads (hready : l.services.preloadError = none) {s : StreamSession}
    (hs : l.session = some s)
    (hworks : ∀ audio,
      processor.Answers l.services.loaded audio s.language s.sampleRate (T audio))
    (payload : LegacyPayload) :
    l.Leads (l.Readable processor s (s.transcribes payload)) (l.handle config T payload) := by
  cases payload with
  | binary chunk =>
    simp only [handle, hs]
    exact audio_leads hready hworks chunk
  | json p eventType =>
    by_cases haudio : eventType = "audio"
    · subst haudio
      exact handle_audio_leads hready hs hworks p
    by_cases hstop : eventType = "stop"
    · subst hstop
      have hhandle : l.handle config T (.json p "stop") = l.stop T s := by
        rw [handle, if_neg (by decide), if_neg (by decide), if_pos rfl, hs]
      have htranscribes : s.transcribes (.json p "stop") = s.stopTranscribes := by
        rw [StreamSession.transcribes, if_neg (by decide), if_pos rfl]
      rw [hhandle, htranscribes]
      exact stop_leads hready hworks
    · have htranscribes : s.transcribes (.json p eventType) = none := by
        rw [StreamSession.transcribes, if_neg haudio, if_neg hstop]
      have hreadable : l.Readable processor s none := readable_none l s
      rw [htranscribes]
      rw [handle, if_neg haudio, if_neg hstop, hs]
      split_ifs
      · exact raise_leads hready (StreamRuntime.not_isLoadFailure_builtin _)
          (iff_of_true (Or.inr trivial) hreadable)
      · exact leads_of_same hready rfl hreadable
      · exact raise_clientError_leads hready _ hreadable

/-- A start without a session: only an extreme one harms the services. -/
lemma start_leads (hready : l.services.preloadError = none) (hnone : l.session = none) (p : Dict) :
    l.Leads (l.services.loaded = true ∨ ¬ ExtremeSession config p)
      (l.handle config T (.json p "start")) := by
  simp only [handle, hnone, if_true]
  split
  · next e he =>
    by_cases hextreme : ExtremeSession config p
    · obtain ⟨message, hmessage⟩ := createStreamSession_of_extreme l.nextStreamId hextreme
      cases he.symm.trans hmessage
      exact raise_leads hready (StreamRuntime.not_isLoadFailure_builtin _)
        (or_congr_right (iff_of_false id (not_not_intro hextreme)))
    · have hexpected := createStreamSession_expected hextreme he
      refine raise_leads hready ?_ (iff_of_true (Or.inr hexpected) (Or.inr hextreme))
      rintro ⟨message, rfl⟩
      exact hexpected
  · next s hs =>
    refine leads_of_same hready rfl (Or.inr fun hextreme => ?_)
    obtain ⟨message, hmessage⟩ := createStreamSession_of_extreme l.nextStreamId hextreme
    cases hs.symm.trans hmessage

/-- The audio that a message makes the route transcribe. -/
def transcribes (l : LegacyConn) (m : WebSocketMessage) : Option Bytes :=
  match l.session, receiveStreamEvent l.session m with
  | some s, .ok payload => s.transcribes payload
  | _, _ => none

/-- As long as the model is not loaded, the route gets no extreme message and no audio on which
`load_audio` fails, and a write that fails does so with an expected exception. -/
def KeepsReady (processor : AudioProcessor) (config : LegacyConfig) (l : LegacyConn) :
    LegacyAct → Prop
  | .message m _ => l.services.loaded = true ∨ ¬ ExtremeMessage config l.session m ∧
    ∀ s audio, l.session = some s → l.transcribes m = some audio →
      ¬ processor.Fails audio s.sampleRate
  | .written result => l.services.loaded = true ∨ l.pc = .sendingError ∨
    ∀ e, result = .error e → e.ExpectedLegacy

/-- The transcriptions of the route end as with a model that works, and no write says that the model
cannot be loaded. -/
def BackendWorks (processor : AudioProcessor) (l : LegacyConn) : LegacyAct → Prop
  | .message _ transcription => ∀ s, l.session = some s → ∀ audio,
    processor.Answers l.services.loaded audio s.language s.sampleRate (transcription audio)
  | .written result => NoLoadFailure result

/-- A message that is refused. -/
lemma refused_leads {m : WebSocketMessage} {e : Exn} (hready : l.services.preloadError = none)
    (h : receiveStreamEvent l.session m = .error e) :
    l.Leads (l.KeepsReady processor config (.message m T)) (l.raise e) := by
  have hsilent : l.transcribes m = none := by
    simp only [transcribes, h]
    split
    · next hpayload => cases hpayload
    · rfl
  have hiff : (l.services.loaded = true ∨ ¬ ExtremeMessage config l.session m) ↔
      l.KeepsReady processor config (.message m T) :=
    or_congr_right ⟨fun hm => ⟨hm, by simp [hsilent]⟩, And.left⟩
  refine Leads.congr ?_ hiff
  have hclient : ∀ message, e = clientError message → ¬ ExtremeMessage config l.session m →
      l.Leads (l.services.loaded = true ∨ ¬ ExtremeMessage config l.session m) (l.raise e) := by
    rintro message rfl hextreme
    exact raise_clientError_leads hready message (Or.inr hextreme)
  cases m with
  | disconnect =>
    cases h
    exact raise_leads hready (by rintro ⟨_, ⟨⟩⟩) (iff_of_true (Or.inr trivial) (Or.inr id))
  | binary chunk =>
    simp only [receiveStreamEvent] at h
    split at h <;> cases h
    exact hclient _ rfl id
  | empty =>
    cases h
    exact hclient _ rfl id
  | text json =>
    cases json with
    | malformed =>
      cases h
      exact hclient _ rfl id
    | raised error =>
      cases h
      refine raise_leads hready (StreamRuntime.not_isLoadFailure_builtin error) (or_congr_right ?_)
      cases error with
      | valueError message => exact iff_of_true trivial fun h => h message rfl
      | _ => exact iff_of_false id (not_not_intro fun message => by simp)
    | value v =>
      cases v with
      | obj p => cases h
      | _ =>
        cases h
        exact hclient _ rfl id

/-- A message for an idle route. -/
lemma received_idle_leads {m : WebSocketMessage} {payload : LegacyPayload}
    (hready : l.services.preloadError = none) (hnone : l.session = none)
    (h : receiveStreamEvent l.session m = .ok payload) :
    l.Leads (l.services.loaded = true ∨ ¬ ExtremeMessage config l.session m)
      (l.handle config T payload) := by
  cases m with
  | text json =>
    cases json with
    | value v =>
      cases v with
      | obj p =>
        cases h
        have hextreme : ExtremeMessage config l.session (.text (.value (.obj p))) ↔
            eventWord p = "start" ∧ ExtremeSession config p :=
          ⟨fun h => ⟨h.1, h.2.2⟩, fun h => ⟨h.1, hnone, h.2⟩⟩
        rw [hextreme]
        by_cases hstart : eventWord p = "start"
        · rw [hstart]
          simpa using start_leads hready hnone p
        · refine handle_idle_leads hready hnone ?_ (Or.inr fun h => hstart h.1)
          intro p' hp'
          injection hp' with hp hword
          exact hstart hword
      | _ => cases h
    | malformed => cases h
    | raised error => cases h
  | binary chunk =>
    simp only [receiveStreamEvent, hnone] at h
    cases h
  | disconnect => cases h
  | empty => cases h

/-- A message for a session is not extreme. -/
lemma not_extremeMessage {m : WebSocketMessage} {payload : LegacyPayload} {s : StreamSession}
    (hs : l.session = some s) (h : receiveStreamEvent l.session m = .ok payload) :
    ¬ ExtremeMessage config l.session m := by
  cases m with
  | text json =>
    cases json with
    | value v =>
      cases v with
      | obj p =>
        rintro ⟨-, hnone, -⟩
        cases hs.symm.trans hnone
      | _ => cases h
    | malformed => cases h
    | raised error => cases h
  | _ => exact id

/-- A message that is acted on. -/
lemma received_leads {m : WebSocketMessage} {payload : LegacyPayload}
    (hready : l.services.preloadError = none)
    (hworks : l.BackendWorks processor (.message m T))
    (h : receiveStreamEvent l.session m = .ok payload) :
    l.Leads (l.KeepsReady processor config (.message m T)) (l.handle config T payload) := by
  cases hs : l.session with
  | none =>
    have hiff : (l.services.loaded = true ∨ ¬ ExtremeMessage config l.session m) ↔
        l.KeepsReady processor config (.message m T) :=
      or_congr_right ⟨fun hm => ⟨hm, by simp [hs]⟩, And.left⟩
    exact (received_idle_leads hready hs h).congr hiff
  | some s =>
    have htranscribes : l.transcribes m = s.transcribes payload := by
      simp only [transcribes, h]
      rw [hs]
    refine (handle_session_leads hready hs (hworks s hs) payload).congr (or_congr_right ?_)
    rw [← htranscribes]
    refine ⟨fun hread => ⟨not_extremeMessage hs h, fun s' audio hs' haudio => ?_⟩, fun hkeeps => ?_⟩
    · obtain rfl := Option.some.inj (hs.symm.trans hs')
      exact hread audio haudio
    · exact fun audio haudio => hkeeps.2 s audio hs haudio

/-- **One step of the legacy route.** -/
theorem step_leads {a : LegacyAct} (hready : l.services.preloadError = none)
    (hworks : l.BackendWorks processor a) (h : l.step config a = some l') :
    l.Leads (l.KeepsReady processor config a) l' := by
  cases a with
  | message m T =>
    simp only [step] at h
    split at h
    · split at h
      · next e he =>
        cases h
        exact refused_leads hready he
      · next payload hpayload =>
        cases h
        exact received_leads hready hworks hpayload
    · cases h
  | written result =>
    simp only [step] at h
    split at h <;> cases h
    · exact leads_of_same hready rfl (Or.inr (Or.inr (by rintro _ ⟨⟩)))
    · next e hpc =>
      refine raise_leads hready (hworks e rfl) (or_congr_right ?_)
      refine ⟨fun he => Or.inr fun _ h => Except.error.inj h ▸ he, fun h => ?_⟩
      exact (h.resolve_left (by simp [hpc])) e rfl
    · next hpc => exact leads_of_same hready rfl (Or.inr (Or.inl hpc))

end LegacyConn

end RtcAsr
