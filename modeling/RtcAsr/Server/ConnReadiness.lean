import Mathlib.Logic.Function.Basic
import RtcAsr.Backend.Adapter
import RtcAsr.Server.ClientInput
import RtcAsr.Server.WorkerMove

/-!
# Client input and the readiness of a v1 handler

A handler records an exception as a failure of the service when it is none of the expected ones and
the model is not loaded.  With a model that loads and runs without failure such an exception comes
from extreme input, from audio that `load_audio` refuses, or from a write (`Conn.Backed.step`).
-/

namespace RtcAsr

/-! ## Exceptions and the services -/

/-- The exception says that the model cannot be loaded. -/
def Exn.IsLoadFailure (e : Exn) : Prop := ∃ message, e = .asrUnavailable message

/-- What the `except` clauses of a v1 handler leave of the services. -/
def Services.afterRaise (s : Services) : Exn → Services
  | .disconnect => s
  | .asrUnavailable message => { s with preloadError := some message }
  | .protocol _ => s
  | e => Conn.recordLazyLoadFailure s e

/-- What the `except` clauses of the legacy route leave of the services. -/
def Services.afterLegacyRaise (s : Services) : Exn → Services
  | .asrUnavailable message => { s with preloadError := some message }
  | .builtin (.valueError _) => s
  | .builtin e => Conn.recordLazyLoadFailure s (.builtin e)
  | _ => s

/-- A recorded failure is seen unless the model is loaded. -/
lemma preloadError_record {s : Services} (h : s.preloadError = none) (e : Exn) :
    (Conn.recordLazyLoadFailure s e).preloadError = none ↔ s.loaded = true := by
  unfold Conn.recordLazyLoadFailure
  split_ifs with hloaded
  · exact iff_of_true h hloaded
  · exact iff_of_false (by simp) hloaded

lemma loaded_record (s : Services) (e : Exn) :
    (Conn.recordLazyLoadFailure s e).loaded = s.loaded := by
  unfold Conn.recordLazyLoadFailure
  split_ifs <;> rfl

namespace Services

@[simp] lemma loaded_afterRaise (s : Services) (e : Exn) : (s.afterRaise e).loaded = s.loaded := by
  unfold afterRaise
  split
  · rfl
  · rfl
  · rfl
  · exact loaded_record s _

@[simp] lemma loaded_afterLegacyRaise (s : Services) (e : Exn) :
    (s.afterLegacyRaise e).loaded = s.loaded := by
  unfold afterLegacyRaise
  split
  · rfl
  · rfl
  · exact loaded_record s _
  · rfl

/-- An exception of a v1 handler is harmless when it is expected or the model is loaded. -/
lemma preloadError_afterRaise {s : Services} (h : s.preloadError = none) {e : Exn}
    (he : ¬ e.IsLoadFailure) :
    (s.afterRaise e).preloadError = none ↔ s.loaded = true ∨ e.Expected := by
  cases e with
  | disconnect => exact iff_of_true h (Or.inr trivial)
  | asrUnavailable message => exact absurd ⟨message, rfl⟩ he
  | protocol error => exact iff_of_true h (Or.inr trivial)
  | streamClient message code =>
    exact (preloadError_record h _).trans ⟨Or.inl, fun h => h.resolve_right id⟩
  | builtin error =>
    exact (preloadError_record h _).trans ⟨Or.inl, fun h => h.resolve_right id⟩

/-- An exception of the legacy route is harmless when it is expected or the model is loaded. -/
lemma preloadError_afterLegacyRaise {s : Services} (h : s.preloadError = none) {e : Exn}
    (he : ¬ e.IsLoadFailure) :
    (s.afterLegacyRaise e).preloadError = none ↔ s.loaded = true ∨ e.ExpectedLegacy := by
  cases e with
  | asrUnavailable message => exact absurd ⟨message, rfl⟩ he
  | builtin error =>
    cases error with
    | valueError message => exact iff_of_true h (Or.inr trivial)
    | _ => exact (preloadError_record h _).trans ⟨Or.inl, fun h => h.resolve_right id⟩
  | _ => exact iff_of_true h (Or.inr trivial)

end Services

/-! ## A backend that never fails -/

/-- The result is no failure to load the model. -/
def NoLoadFailure {α : Type} (result : Except Exn α) : Prop :=
  ∀ e, result = .error e → ¬ e.IsLoadFailure

/-- The exception is one of `load_audio`. -/
def AudioProcessor.Raises (processor : AudioProcessor) (e : Exn) : Prop :=
  ∃ audioData sampleRate error,
    processor.loadAudio audioData sampleRate = .error error ∧ e = error.exn

/-- The v1 handlers expect no exception of `load_audio`. -/
lemma AudioProcessor.Raises.not_expected {processor : AudioProcessor} {e : Exn}
    (h : processor.Raises e) : ¬ e.Expected := by
  obtain ⟨audioData, sampleRate, error, -, rfl⟩ := h
  cases error <;> exact id

/-- No exception of `load_audio` says that the model cannot be loaded. -/
lemma AudioExn.not_isLoadFailure (error : AudioExn) : ¬ error.exn.IsLoadFailure := by
  rintro ⟨message, h⟩
  cases error <;> cases h

/-- The audio the worker has handed to `transcribe`. -/
def WorkerPc.transcribing : WorkerPc → Option Bytes
  | .transcribingPartial snap => some snap.audio
  | .transcribingFinal audio => some audio
  | _ => none

/-- A transcription ends as with a model that works, the calls of a stateful decoder return, and no
write says that the model cannot be loaded. -/
def StreamAct.BackendWorks (processor : AudioProcessor) (loaded : Bool) (r : StreamRuntime) :
    StreamAct → Prop
  | .transcribed result => ∀ audio, r.worker.transcribing = some audio →
    processor.Answers loaded audio r.session.language r.session.sampleRate result
  | .pushed result => result.isOk = true
  | .decoderFinalized result => result.isOk = true
  | .decoderClosed result => result.isOk = true
  | .senderSent result => NoLoadFailure result
  | _ => True

/-- The same for the steps of a connection. -/
def Act.BackendWorks (processor : AudioProcessor) (c : Conn) : Act → Prop
  | .startedDecoder result => result.isOk = true
  | .handlerDecoderCanceled result => result.isOk = true
  | .handlerDecoderClosed result => result.isOk = true
  | .handlerSent result => NoLoadFailure result
  | .task a => ∀ r, c.stream = some r → a.BackendWorks processor c.services.loaded r
  | _ => True

/-! ## Streams -/

namespace StreamRuntime

/-- What a stream got from the decoder, it got from a loaded model; an exception of its worker comes
after that, or from `load_audio`. -/
structure Backed (processor : AudioProcessor) (loaded : Bool) (r : StreamRuntime) : Prop where
  reusable : ∀ t, r.session.lastPartialResult = some t → loaded = true
  closing : ∀ audio t, r.worker = .closingDecoder audio t → loaded = true
  raised : ∀ e, r.worker = .raised e →
    (loaded = true ∨ processor.Raises e) ∧ ¬ e.IsLoadFailure
  sender : ∀ e, r.sender = .raised e → ¬ e.IsLoadFailure

variable {env : ServerEnv} {processor : AudioProcessor} {r r' : StreamRuntime} {a : StreamAct}
  {s : Services} {loaded : Bool}

/-- The model stays loaded. -/
lemma Backed.mono {loaded' : Bool} (h : r.Backed processor loaded)
    (hle : loaded = true → loaded' = true) : r.Backed processor loaded' where
  reusable t ht := hle (h.reusable t ht)
  closing audio t ht := hle (h.closing audio t ht)
  raised e he := ⟨(h.raised e he).1.imp_left hle, (h.raised e he).2⟩
  sender := h.sender

/-- With a loaded model only load failures matter. -/
lemma backed_of_loaded (hraised : ∀ e, r.worker = .raised e → ¬ e.IsLoadFailure)
    (hsender : ∀ e, r.sender = .raised e → ¬ e.IsLoadFailure) : r.Backed processor true where
  reusable _ _ := rfl
  closing _ _ _ := rfl
  raised e he := ⟨Or.inl rfl, hraised e he⟩
  sender := hsender

/-- The worker moves on with what the stream had. -/
lemma Backed.of_worker (h : r.Backed processor loaded)
    (hsession : r'.session.lastPartialResult = r.session.lastPartialResult)
    (hsender : r'.sender = r.sender) (hclosing : ∀ audio t, r'.worker ≠ .closingDecoder audio t)
    (hraised : ∀ e, r'.worker ≠ .raised e) : r'.Backed processor loaded where
  reusable t ht := h.reusable t (hsession.symm.trans ht)
  closing audio t ht := absurd ht (hclosing audio t)
  raised e he := absurd he (hraised e)
  sender e he := h.sender e (hsender.symm.trans he)

/-- No exception of the language is a load failure. -/
lemma not_isLoadFailure_builtin (error : PyError) : ¬ (Exn.builtin error).IsLoadFailure := by
  rintro ⟨_, ⟨⟩⟩

/-- The end of a partial decode raises no load failure. -/
lemma afterPartial_raised (snap : Snapshot) (result : Option Transcript) :
    ∀ e, (r.afterPartial env snap result).worker = .raised e → ¬ e.IsLoadFailure := by
  have houtcome := afterPartial_outcome env r snap result
  generalize r.afterPartial env snap result = r' at houtcome
  intro e he
  cases houtcome with
  | refused result hopen hlisten error hlt =>
    cases he
    exact not_isLoadFailure_builtin error
  | emitted result hopen hlisten htext =>
    unfold afterEmit at he
    split_ifs at he
    cases he
  | _ => cases he

/-- The end of a final decode raises no load failure. -/
lemma finishFinal_raised (finalAudio : Bytes) (result : Transcript) :
    ∀ e, (r.finishFinal finalAudio result).worker = .raised e → ¬ e.IsLoadFailure := by
  have houtcome := finishFinal_outcome r finalAudio result
  generalize r.finishFinal finalAudio result = r' at houtcome
  intro e he
  cases houtcome with
  | refused hkept error hlt =>
    cases he
    exact not_isLoadFailure_builtin error
  | _ => cases he

/-- The model stays loaded in the steps of the tasks. -/
lemma afterDecode_loaded (s : Services) (a : StreamAct) :
    s.loaded = true → (Conn.afterDecode s a).loaded = true := by
  intro h
  unfold Conn.afterDecode
  split
  · rfl
  · rfl
  · rfl
  · exact h

/-- A write of the sender fails as the transport does. -/
lemma sender_raised (hr : r.Backed processor loaded)
    (hworks : a.BackendWorks processor loaded r) (h : r.step env a = some r') :
    ∀ e, r'.sender = .raised e → ¬ e.IsLoadFailure := by
  cases ha : a.isSender with
  | false =>
    rw [(step_emits h ha).2.sender]
    exact hr.sender
  | true =>
    intro e he
    cases a with
    | senderTake =>
      simp only [StreamRuntime.step, senderTake] at h
      split at h <;> cases h
      cases he
    | senderSent result =>
      simp only [StreamRuntime.step, senderSent] at h
      split at h <;> cases h
      · dsimp only at he
        split_ifs at he
      · cases he
        exact hworks e rfl
    | senderExit =>
      simp only [StreamRuntime.step, senderExit] at h
      split at h
      · split_ifs at h
        cases h
        cases he
      · cases h
    | _ => cases ha

/-- A transcription that ends was given some audio. -/
lemma exists_transcribing {result : Except Exn Transcript}
    (h : r.step env (.transcribed result) = some r') :
    ∃ audio, r.worker.transcribing = some audio := by
  simp only [StreamRuntime.step, transcribed] at h
  split at h
  · next snap t hw => exact ⟨snap.audio, by rw [hw]; rfl⟩
  · next audio t hw => exact ⟨audio, by rw [hw]; rfl⟩
  · next snap e hw => exact ⟨snap.audio, by rw [hw]; rfl⟩
  · next audio e hw => exact ⟨audio, by rw [hw]; rfl⟩
  · cases h

/-- A transcription that raises raises an exception of `load_audio`. -/
lemma Backed.workerRaise (hr : r.Backed processor loaded) {e : Exn}
    (hworks : (StreamAct.transcribed (.error e)).BackendWorks processor loaded r)
    (h : r.step env (.transcribed (.error e)) = some r') :
    (r.workerRaise e).Backed processor loaded := by
  obtain ⟨audio, haudio⟩ := exists_transcribing h
  obtain ⟨error, hload, rfl⟩ := (hworks audio haudio).of_error
  refine ⟨hr.reusable, nofun, ?_, hr.sender⟩
  rintro _ ⟨⟩
  exact ⟨Or.inr ⟨audio, _, error, hload, rfl⟩, error.not_isLoadFailure⟩

/-- A step of a task of a stream whose backend works. -/
lemma Backed.step (hr : r.Backed processor s.loaded)
    (hworks : a.BackendWorks processor s.loaded r) (h : r.step env a = some r') :
    r'.Backed processor (Conn.afterDecode s a).loaded := by
  have hsender := sender_raised hr hworks h
  cases ha : a.isSender with
  | true =>
    obtain ⟨events, unfinished, sender, -, rfl⟩ := step_sender h ha
    exact { (hr.mono (afterDecode_loaded s a)) with sender := hsender }
  | false =>
    have hmove := step_move h ha
    have hsame : r'.sender = r.sender := (step_emits h ha).2.sender
    cases hmove with
    | stop => exact hr.of_worker rfl hsame nofun nofun
    | idle => exact hr.of_worker rfl hsame nofun nofun
    | transcribe => exact hr.of_worker rfl hsame nofun nofun
    | push => exact hr.of_worker rfl hsame nofun nofun
    | nothingToPush => exact hr.of_worker rfl hsame nofun nofun
    | transcribeFinal => exact hr.of_worker rfl hsame nofun nofun
    | pushFinal => exact hr.of_worker rfl hsame nofun nofun
    | callFinalize => exact hr.of_worker rfl hsame nofun nofun
    | reuse hw hset hopen hfin hdecoder hreuse =>
      have hloaded : s.loaded = true := by
        unfold StreamSession.reusableLastPartial at hreuse
        split_ifs at hreuse
        exact hr.reusable _ hreuse
      have hloaded' : (Conn.afterDecode s .workerWake).loaded = true := hloaded
      rw [hloaded']
      exact backed_of_loaded (finishFinal_raised _ _) hsender
    | transcribed hw result => exact backed_of_loaded (afterPartial_raised _ _) hsender
    | pushed hw result => exact backed_of_loaded (afterPartial_raised _ _) hsender
    | transcribedFinal hw result => exact backed_of_loaded (finishFinal_raised _ _) hsender
    | pushedFinal hw result => exact backed_of_loaded nofun hsender
    | finalized hw result => exact backed_of_loaded nofun hsender
    | closed hw =>
      have hloaded : (Conn.afterDecode s (.decoderClosed (.ok ()))).loaded = true :=
        hr.closing _ _ hw
      rw [hloaded]
      exact backed_of_loaded (finishFinal_raised _ _) hsender
    | raised hw hcall =>
      obtain rfl | rfl | rfl | rfl := hcall
      · exact hr.workerRaise hworks h
      · cases hworks
      · cases hworks
      · cases hworks

/-- The other changes of a stream. -/
lemma Backed.change (hr : r.Backed processor loaded) (h : Change env (fun _ _ => False) r r') :
    r'.Backed processor loaded := by
  cases h with
  | task hQ => exact absurd hQ id
  | senderCancel h =>
    obtain ⟨unfinished, rfl⟩ := senderCancel_eq h
    exact { hr with sender := nofun }
  | startTasks decoder hfresh =>
    refine ⟨?_, nofun, nofun, nofun⟩
    unfold startTasks
    dsimp only
    split_ifs <;> exact hr.reusable
  | appendAudio hactive hlisten hw h =>
    unfold StreamSession.appendAudio at h
    split_ifs at h
    cases h
    exact { hr with }
  | cancel hactive hlisten hw => exact { hr with reusable := nofun }
  | _ => exact { hr with }

end StreamRuntime

/-! ## Connections -/

/-- The exception of `decoder.cancel` that waits for `decoder.close`. -/
def HandlerPc.pendingExn : HandlerPc → Option Exn
  | .closingDecoder _ pending => pending
  | _ => none

namespace Conn

/-- The handler went on with these services: no exception waits for `decoder.close`, and a received
message is the one before. -/
structure Settles (s : Services) (t : ReceiveTask) (c : Conn) : Prop where
  services : c.services = s
  pending : c.pc.pendingExn = none
  receive : ∀ result, c.receive = .done result → t = .done result

variable {env : ServerEnv} {processor : AudioProcessor} {c c' : Conn} {loads : Bytes → JsonText}

lemma listen_settles {s : Services} {t : ReceiveTask} (h : c.services = s) :
    c.listen.Settles s t :=
  ⟨h, rfl, fun _ h => by simp [listen] at h⟩

lemma afterStop_settles (c : Conn) (k : AfterStop) :
    (c.afterStop k).Settles c.services c.receive := by
  cases k with
  | continueLoop => exact listen_settles rfl
  | _ => exact ⟨rfl, rfl, fun _ h => h⟩

lemma beginStop_settles (c : Conn) (k : AfterStop) :
    (c.beginStop k).Settles c.services c.receive := by
  unfold beginStop
  split
  · exact afterStop_settles c k
  · exact ⟨rfl, rfl, fun _ h => h⟩

/-- An exception reaches the `except` clauses. -/
lemma raise_settles (c : Conn) (e : Exn) :
    (c.raise e).Settles (c.services.afterRaise e) c.receive := by
  cases e with
  | disconnect => exact beginStop_settles c _
  | protocol error => exact beginStop_settles c _
  | asrUnavailable message => exact beginStop_settles { c with services := _ } _
  | streamClient message code => exact beginStop_settles { c with services := _ } _
  | builtin error => exact beginStop_settles { c with services := _ } _

/-- A protocol error leaves the services alone. -/
lemma raise_protocol_settles (c : Conn) (e : LocalSttProtocolError) :
    (c.raise (.protocol e)).Settles c.services c.receive := raise_settles c (.protocol e)

/-- The handler acts on a message other than a start without a stream. -/
lemma handle_settles (env : ServerEnv) {e : ClientEvent}
    (he : ∀ start, e = .start start → c.stream ≠ none) :
    (c.handle env e).Settles c.services c.receive := by
  cases e with
  | start config =>
    simp only [handle]
    split
    · exact raise_protocol_settles c _
    · next hnone => exact absurd hnone (he config rfl)
  | audio chunk =>
    simp only [handle]
    split
    · exact raise_protocol_settles c _
    · split
      · exact raise_protocol_settles c _
      · exact listen_settles rfl
  | finalize =>
    simp only [handle]
    split
    · exact raise_protocol_settles c _
    · split_ifs
      · exact raise_protocol_settles c _
      · exact ⟨rfl, rfl, fun _ h => h⟩
  | cancel =>
    simp only [handle]
    split
    · exact raise_protocol_settles c _
    · exact ⟨rfl, rfl, fun _ h => h⟩
  | ping message =>
    simp only [handle]
    split
    · split
      · exact ⟨rfl, rfl, fun _ h => h⟩
      · exact listen_settles rfl
    · exact ⟨rfl, rfl, fun _ h => h⟩
  | pong message => exact listen_settles rfl
  | close => exact beginStop_settles c _

/-- The handler acts on a start without a stream: only an extreme configuration raises. -/
lemma handle_start (env : ServerEnv) (hs : c.stream = none) (config : LocalSttStartConfig) :
    (¬ ExtremeConfig config ∧ (c.handle env (.start config)).Settles c.services c.receive) ∨
      ∃ error, ExtremeConfig config ∧
        (c.handle env (.start config)).Settles
          (c.services.afterRaise (.builtin error)) c.receive := by
  simp only [handle, hs]
  cases hsession : createLocalSttStreamSession config env.streamMaxBufferBytes c.nextStreamId with
  | ok session =>
    refine Or.inl ⟨?_, rfl, rfl, fun _ h => h⟩
    exact (createLocalSttStreamSession_isOk_iff config _ _).mp ⟨session, hsession⟩
  | error error =>
    refine Or.inr ⟨error, ?_, raise_settles c _⟩
    by_contra hfits
    obtain ⟨session, h⟩ :=
      (createLocalSttStreamSession_isOk_iff config env.streamMaxBufferBytes c.nextStreamId).mpr
        hfits
    rw [hsession] at h
    cases h

/-- The handler can act on the input: it is not extreme, and no start with an extreme configuration
that finds no stream. -/
def Harmless (loads : Bytes → JsonText) (c : Conn) (input : ClientInput) : Prop :=
  ¬ ExtremeInput loads input ∧
    ∀ config, receiveClientInput loads input = .ok (.start config) → c.stream = none →
      ¬ ExtremeConfig config

/-- The worker of the stream has ended with an exception of `load_audio`. -/
def Refused (processor : AudioProcessor) (c : Conn) : Prop :=
  ∃ r e, c.stream = some r ∧ r.worker = .raised e ∧ processor.Raises e

/-- As long as the model is not loaded, the handler wakes up for harmless input, it awaits no worker
whose audio `load_audio` refused, and a write that fails does so with an expected exception. -/
def KeepsReady (processor : AudioProcessor) (loads : Bytes → JsonText)
    (input : Option ClientInput) (c : Conn) : Act → Prop
  | .wake => c.services.loaded = true ∨
    (∀ result x, c.receive = .done result → input = some x → c.Harmless loads x) ∧
      (c.Refused processor → ∃ e, c.receive = .done (.error e))
  | .handlerSent result => c.services.loaded = true ∨ c.pc = .sendingError ∨
    ∀ e, result = .error e → e.Expected
  | .proceed => c.services.loaded = true ∨
    (c.pc = .finalizeAwaitingWorker → ¬ c.Refused processor) ∧
      ∀ r e, c.stream = some r → c.pc = .finalizeAwaitingSender → r.sender = .raised e → e.Expected
  | _ => True

/-- The invariant of a connection with the last input of its client. -/
structure Backed (processor : AudioProcessor) (loads : Bytes → JsonText)
    (input : Option ClientInput) (c : Conn) : Prop where
  phase : c.Phase
  stream : ∀ r, c.stream = some r → r.Backed processor c.services.loaded
  pending : c.pc.pendingExn = none
  received : ∀ result, c.receive = .done result →
    ∃ x, input = some x ∧ result = receiveClientInput loads x

/-- The services a step of the handler leaves, and when they are ready. -/
def Leaves (P : Prop) (c c' : Conn) : Prop :=
  ∃ s, c'.Settles s c.receive ∧ (c.services.loaded = true → s.loaded = true) ∧
    (s.preloadError = none ↔ P)

/-- A step that leaves the services alone. -/
lemma Settles.leaves {P : Prop} (h : c'.Settles c.services c.receive)
    (hready : c.services.preloadError = none) (hP : P) : c.Leaves P c' :=
  ⟨c.services, h, id, iff_of_true hready hP⟩

/-- A step that raises. -/
lemma Settles.leaves_raise {P : Prop} {e : Exn}
    (h : c'.Settles (c.services.afterRaise e) c.receive) (hready : c.services.preloadError = none)
    (he : ¬ e.IsLoadFailure) (hP : c.services.loaded = true ∨ e.Expected ↔ P) : c.Leaves P c' :=
  ⟨_, h, by simp, (Services.preloadError_afterRaise hready he).trans hP⟩

/-- A new receive task holds no message. -/
lemma Settles.of_absent {s : Services} (h : c'.Settles s .absent) (t : ReceiveTask) :
    c'.Settles s t :=
  ⟨h.services, h.pending, fun result hresult => by cases h.receive result hresult⟩

/-- Input whose translation raises is harmless when the exception is expected. -/
lemma harmless_iff_of_error {x : ClientInput} {e : Exn}
    (h : receiveClientInput loads x = .error e) : c.Harmless loads x ↔ e.Expected := by
  constructor
  · intro hx
    exact receiveClientInput_expected hx.1 h
  · refine fun hexpected => ⟨fun hextreme => ?_, fun config hconfig => ?_⟩
    · obtain ⟨error, herror⟩ := receiveClientInput_of_extreme hextreme
      cases h.symm.trans herror
      exact hexpected
    · cases h.symm.trans hconfig

/-- Input that is translated is harmless unless it is a start with an extreme configuration that
finds no stream. -/
lemma harmless_iff_of_ok {x : ClientInput} {e : ClientEvent}
    (h : receiveClientInput loads x = .ok e) :
    c.Harmless loads x ↔
      ∀ config, e = .start config → c.stream = none → ¬ ExtremeConfig config := by
  have hextreme : ¬ ExtremeInput loads x := by
    intro hextreme
    obtain ⟨error, herror⟩ := receiveClientInput_of_extreme hextreme
    cases h.symm.trans herror
  constructor
  · rintro hx config rfl
    exact hx.2 config h
  · refine fun hconfig => ⟨hextreme, fun config hstart => hconfig config ?_⟩
    exact Except.ok.inj (h.symm.trans hstart)

/-- Input raises no load failure. -/
lemma not_isLoadFailure_of_input {x : ClientInput} {e : Exn}
    (h : receiveClientInput loads x = .error e) : ¬ e.IsLoadFailure := by
  rintro ⟨message, rfl⟩
  by_cases hextreme : ExtremeInput loads x
  · obtain ⟨error, herror⟩ := receiveClientInput_of_extreme hextreme
    cases h.symm.trans herror
  · exact receiveClientInput_expected hextreme h

/-- The worker of the stream has not raised. -/
lemma not_refused {worker : WorkerPc} (h : c.stream.map StreamRuntime.worker = some worker)
    (hworker : ∀ e, worker ≠ .raised e) : ¬ c.Refused processor := by
  rintro ⟨r, e, hs, hraised, -⟩
  rw [hs, Option.map_some, hraised] at h
  exact hworker e (Option.some.inj h).symm

/-- A worker that raised has got its audio refused, unless the model is loaded. -/
lemma Backed.refused {input : Option ClientInput} (hc : c.Backed processor loads input)
    {r : StreamRuntime} {e : Exn} (hs : c.stream = some r) (hraised : r.worker = .raised e) :
    c.services.loaded = true ∨ c.Refused processor ∧ ¬ e.Expected := by
  obtain hloaded | hrefuses := ((hc.stream r hs).raised e hraised).1
  · exact Or.inl hloaded
  · exact Or.inr ⟨⟨r, e, hs, hraised, hrefuses⟩, hrefuses.not_expected⟩

/-- The handler wakes up with an exception of the receive task. -/
lemma wake_raises {input : Option ClientInput} (hc : c.Backed processor loads input)
    (hready : c.services.preloadError = none) {e : Exn} (he : c.receive = .done (.error e)) :
    c.Leaves (c.KeepsReady processor loads input .wake)
      (({ c with receive := .absent } : Conn).raise e) := by
  obtain ⟨x, hx, hres⟩ := hc.received _ he
  have hsettles := raise_settles { c with receive := .absent } e
  refine (hsettles.of_absent c.receive).leaves_raise hready
    (not_isLoadFailure_of_input hres.symm) (or_congr_right ?_)
  rw [← harmless_iff_of_error (c := c) hres.symm]
  constructor
  · refine fun hharmless => ⟨fun result x' _ hx' => ?_, fun _ => ⟨e, he⟩⟩
    obtain rfl := Option.some.inj (hx.symm.trans hx')
    exact hharmless
  · exact fun h => h.1 _ x he hx

/-- The handler wakes up with a message. -/
lemma keepsReady_wake_iff {input : Option ClientInput} (hc : c.Backed processor loads input)
    {e : ClientEvent} (he : c.receive = .done (.ok e)) (hrefused : ¬ c.Refused processor) :
    c.KeepsReady processor loads input .wake ↔ c.services.loaded = true ∨
      ∀ config, e = .start config → c.stream = none → ¬ ExtremeConfig config := by
  obtain ⟨x, hx, hres⟩ := hc.received _ he
  refine or_congr_right ?_
  rw [← harmless_iff_of_ok hres.symm]
  refine ⟨fun h => h.1 _ x he hx, fun hharmless => ⟨fun result x' _ hx' => ?_, ?_⟩⟩
  · obtain rfl := Option.some.inj (hx.symm.trans hx')
    exact hharmless
  · exact fun h => absurd h hrefused

/-- The handler wakes up. -/
lemma wake_leaves {input : Option ClientInput} (hc : c.Backed processor loads input)
    (hready : c.services.preloadError = none) (h : c.wake env = some c') :
    c.Leaves (c.KeepsReady processor loads input .wake) c' := by
  unfold wake at h
  dsimp only at h
  split at h
  · -- the worker has returned
    next hworker =>
    have hrefused : ¬ c.Refused processor := not_refused hworker nofun
    split at h <;> cases h
    · exact wake_raises hc hready ‹_›
    · next hnot =>
      refine Settles.leaves ⟨rfl, rfl, fun _ h => by cases h⟩ hready ?_
      cases hreceive : c.receive with
      | done result =>
        cases result with
        | error e => exact absurd hreceive (hnot e)
        | ok e =>
          refine (keepsReady_wake_iff hc hreceive hrefused).mpr (Or.inr fun config _ hnone => ?_)
          rw [hnone] at hworker
          cases hworker
      | absent => exact Or.inr ⟨by simp [hreceive], fun h => absurd h hrefused⟩
      | pending => exact Or.inr ⟨by simp [hreceive], fun h => absurd h hrefused⟩
  · -- the worker has raised
    next workerError hworker =>
    split at h <;> cases h
    · exact wake_raises hc hready ‹_›
    · next hnot =>
      obtain ⟨r, hr, hraised⟩ := Option.map_eq_some_iff.mp hworker
      have hfailure := ((hc.stream r hr).raised workerError hraised).2
      have hsettles := raise_settles { c with receive := .absent } workerError
      refine (hsettles.of_absent c.receive).leaves_raise hready hfailure ?_
      rcases hc.refused hr hraised with hloaded | ⟨hrefused, hexpected⟩
      · exact iff_of_true (Or.inl hloaded) (Or.inl hloaded)
      · refine or_congr_right (iff_of_false hexpected fun hkeeps => ?_)
        obtain ⟨e, he⟩ := hkeeps.2 hrefused
        exact hnot e he
  · -- the worker runs, or there is none
    next hreturned hnotRaised =>
    have hrefused : ¬ c.Refused processor := by
      rintro ⟨r, e, hs, hraised, -⟩
      exact hnotRaised e (by rw [hs, Option.map_some, hraised])
    split at h <;> cases h
    · next e hreceive =>
      have hiff := keepsReady_wake_iff hc hreceive hrefused
      by_cases hstart : ∃ config, e = .start config ∧ c.stream = none
      · obtain ⟨config, rfl, hnone⟩ := hstart
        obtain ⟨hfits, hsettles⟩ | ⟨error, hextreme, hsettles⟩ := handle_start env
          (c := { c with receive := .absent, handled := c.handled ++ [.start config] }) hnone config
        · refine (hsettles.of_absent c.receive).leaves hready (hiff.mpr (Or.inr ?_))
          rintro _ ⟨⟩ -
          exact hfits
        · refine (hsettles.of_absent c.receive).leaves_raise hready
            (StreamRuntime.not_isLoadFailure_builtin error) (Iff.trans ?_ hiff.symm)
          exact or_congr_right (iff_of_false id fun h => h config rfl hnone hextreme)
      · have hsettles := handle_settles env (e := e)
          (c := { c with receive := .absent, handled := c.handled ++ [e] })
          fun config he hnone => hstart ⟨config, he, hnone⟩
        refine (hsettles.of_absent c.receive).leaves hready (hiff.mpr (Or.inr ?_))
        exact fun config he hnone => absurd ⟨config, he, hnone⟩ hstart
    · exact wake_raises hc hready ‹_›

/-- A write of the handler ends. -/
lemma handlerSent_leaves {input : Option ClientInput} {result : Except Exn Unit}
    (hready : c.services.preloadError = none) (hworks : NoLoadFailure result)
    (h : c.handlerSent result = some c') :
    c.Leaves (c.KeepsReady processor loads input (.handlerSent result)) c' := by
  have hraise : ∀ e, result = .error e → c.pc ≠ .sendingError →
      c.Leaves (c.KeepsReady processor loads input (.handlerSent result)) (c.raise e) := by
    rintro e rfl hpc
    refine (raise_settles c e).leaves_raise hready (hworks e rfl) (or_congr_right ?_)
    exact ⟨fun he => Or.inr fun _ h => Except.error.inj h ▸ he,
      fun h => (h.resolve_left hpc) e rfl⟩
  have hok : ∀ u : Unit, result = .ok u →
      c.KeepsReady processor loads input (.handlerSent result) := by
    rintro u rfl
    exact Or.inr (Or.inr nofun)
  unfold handlerSent at h
  split at h <;> cases h
  · exact (listen_settles rfl).leaves hready (hok _ rfl)
  · exact (listen_settles rfl).leaves hready (hok _ rfl)
  · exact Settles.leaves ⟨rfl, rfl, fun _ h => h⟩ hready (hok _ rfl)
  · next hpc => exact hraise _ rfl (by simp [hpc])
  · next hpc => exact hraise _ rfl (by simp [hpc])
  · next hpc => exact hraise _ rfl (by simp [hpc])
  · next hpc => exact Settles.leaves ⟨rfl, rfl, fun _ h => h⟩ hready (Or.inr (Or.inl hpc))

/-- The decoder is closed on the way of a stop. -/
lemma closeDecoder_settles (r : StreamRuntime) (k : AfterStop) :
    (c.closeDecoder r k).Settles c.services c.receive := by
  unfold closeDecoder
  split_ifs
  · exact ⟨rfl, rfl, fun _ h => h⟩
  · exact ⟨rfl, rfl, fun _ h => h⟩
  · exact ⟨rfl, rfl, fun _ h => h⟩

/-- The handler's wait ends. -/
lemma proceed_leaves {input : Option ClientInput} {r : StreamRuntime}
    (hc : c.Backed processor loads input) (hready : c.services.preloadError = none)
    (hs : c.stream = some r) (h : c.proceed r = some c') :
    c.Leaves (c.KeepsReady processor loads input .proceed) c' := by
  have hbacked := hc.stream r hs
  have hother : c.pc ≠ .finalizeAwaitingWorker → c.pc ≠ .finalizeAwaitingSender →
      c.KeepsReady processor loads input .proceed :=
    fun hworker hsender => Or.inr ⟨fun h => absurd h hworker, fun _ _ _ h => absurd h hsender⟩
  have hlisten : ({ c with stream := none } : Conn).listen.Settles c.services c.receive :=
    listen_settles rfl
  unfold proceed at h
  split at h
  · next hpc =>
    split at h <;> cases h
    · next hworker =>
      refine Settles.leaves ⟨rfl, rfl, fun _ h => h⟩ hready (Or.inr ⟨fun _ => ?_, ?_⟩)
      · have hreturned : c.stream.map StreamRuntime.worker = some .returned := by
          rw [hs, Option.map_some, hworker]
        exact not_refused hreturned nofun
      · simp [hpc]
    · next e hworker =>
      have hfailure := (hbacked.raised e hworker).2
      refine (raise_settles c e).leaves_raise hready hfailure ?_
      rcases hc.refused hs hworker with hloaded | ⟨hrefused, hexpected⟩
      · exact iff_of_true (Or.inl hloaded) (Or.inl hloaded)
      · exact or_congr_right (iff_of_false hexpected fun hkeeps => hkeeps.1 hpc hrefused)
  · next hpc =>
    split_ifs at h
    cases h
    exact Settles.leaves ⟨rfl, rfl, fun _ h => h⟩ hready (hother (by simp [hpc]) (by simp [hpc]))
  · next hpc =>
    split at h <;> cases h
    · next e hsender =>
      refine (raise_settles c e).leaves_raise hready (hbacked.sender e hsender) (or_congr_right ?_)
      refine ⟨fun he => ⟨by simp [hpc], fun r' e' hr' _ he' => ?_⟩, fun h => h.2 r e hs hpc hsender⟩
      obtain rfl := Option.some.inj (hs.symm.trans hr')
      cases hsender.symm.trans he'
      exact he
    · next hsender =>
      refine hlisten.leaves hready (Or.inr ⟨by simp [hpc], fun r' e' hr' _ he' => ?_⟩)
      obtain rfl := Option.some.inj (hs.symm.trans hr')
      cases hsender.symm.trans he'
    · next hsender =>
      refine hlisten.leaves hready (Or.inr ⟨by simp [hpc], fun r' e' hr' _ he' => ?_⟩)
      obtain rfl := Option.some.inj (hs.symm.trans hr')
      cases hsender.symm.trans he'
  · next hpc =>
    split_ifs at h
    cases h
    exact (beginStop_settles c _).leaves hready (hother (by simp [hpc]) (by simp [hpc]))
  · next hpc =>
    split_ifs at h
    cases h
    exact (beginStop_settles c _).leaves hready (hother (by simp [hpc]) (by simp [hpc]))
  · next hpc =>
    split at h <;> cases h <;>
      exact (closeDecoder_settles r _).leaves hready (hother (by simp [hpc]) (by simp [hpc]))
  · next hpc =>
    split at h <;> cases h
    exact (afterStop_settles c _).leaves hready (hother (by simp [hpc]) (by simp [hpc]))
  · cases h

/-- A step that is neither a receipt nor a step of a task. -/
lemma step_leaves {input : Option ClientInput} {a : Act} (hc : c.Backed processor loads input)
    (hready : c.services.preloadError = none) (hworks : a.BackendWorks processor c)
    (hreceive : ∀ result, a ≠ .receive result) (htask : ∀ b, a ≠ .task b)
    (h : c.step env a = some c') : c.Leaves (c.KeepsReady processor loads input a) c' := by
  cases a with
  | receive result => exact absurd rfl (hreceive result)
  | task b => exact absurd rfl (htask b)
  | wake =>
    simp only [step] at h
    split at h
    · exact wake_leaves hc hready h
    · cases h
  | startedDecoder result =>
    simp only [step] at h
    split at h <;> cases h
    cases result with
    | error e => cases hworks
    | ok decoder =>
      refine ⟨{ c.services with loaded := c.services.loaded || decoder },
        ⟨rfl, rfl, fun _ h => h⟩, fun hloaded => ?_, iff_of_true hready trivial⟩
      simp [hloaded]
  | handlerSent result => exact handlerSent_leaves hready hworks h
  | proceed =>
    obtain ⟨r, hs, h⟩ := Option.bind_eq_some_iff.mp h
    exact proceed_leaves hc hready hs h
  | handlerDecoderCanceled result =>
    obtain ⟨r, hs, h⟩ := Option.bind_eq_some_iff.mp h
    unfold handlerDecoderCanceled at h
    split at h <;> cases h
    cases result with
    | error e => cases hworks
    | ok u => exact Settles.leaves ⟨rfl, rfl, fun _ h => h⟩ hready trivial
  | handlerDecoderClosed result =>
    simp only [step, handlerDecoderClosed] at h
    split at h <;> cases h
    · exact Settles.leaves ⟨rfl, rfl, fun _ h => h⟩ hready trivial
    · next k e hpc =>
      have hpending := hc.pending
      rw [hpc] at hpending
      cases hpending
    · cases hworks
  | senderCancel =>
    simp only [step] at h
    split_ifs at h
    obtain ⟨r, hs, h⟩ := Option.bind_eq_some_iff.mp h
    obtain ⟨r', hr', rfl⟩ := Option.map_eq_some_iff.mp h
    exact Settles.leaves ⟨rfl, hc.pending, fun _ h => h⟩ hready trivial
  | modelLoaded =>
    cases h
    exact ⟨{ c.services with loaded := true }, ⟨rfl, hc.pending, fun _ h => h⟩, fun _ => rfl,
      iff_of_true hready trivial⟩

/-- **One step of a connection.** -/
theorem Backed.step {input : Option ClientInput} {a : Act} (hc : c.Backed processor loads input)
    (hready : c.services.preloadError = none) (hworks : a.BackendWorks processor c)
    (hreceive : ∀ result, a ≠ .receive result) (h : c.step env a = some c') :
    c'.Backed processor loads input ∧ (c.services.loaded = true → c'.services.loaded = true) ∧
      (c'.services.preloadError = none ↔ c.KeepsReady processor loads input a) := by
  by_cases htask : ∃ b, a = .task b
  · obtain ⟨b, rfl⟩ := htask
    have hphase := (step_moves hc.phase (tasksMeet_true c _) h).phase
    obtain ⟨r, hs, h⟩ := Option.bind_eq_some_iff.mp h
    obtain ⟨r', hr', rfl⟩ := Option.map_eq_some_iff.mp h
    have hnone : (afterDecode c.services b).preloadError = none := by
      unfold afterDecode
      split
      · rfl
      · exact hready
      · exact hready
      · exact hready
    refine ⟨⟨hphase, ?_, hc.pending, hc.received⟩, StreamRuntime.afterDecode_loaded c.services b,
      iff_of_true hnone trivial⟩
    rintro _ ⟨⟩
    exact (hc.stream r hs).step (hworks r hs) hr'
  · have hno : ∀ b, a ≠ .task b := fun b hb => htask ⟨b, hb⟩
    obtain ⟨s, hsettles, hmono, hiff⟩ := step_leaves hc hready hworks hreceive hno h
    have hQ : c.TasksMeet (fun _ _ => False) a := by
      cases a with
      | task b => exact absurd rfl (hno b)
      | _ => trivial
    have hmoves := step_moves hc.phase hQ h
    rw [hsettles.services]
    refine ⟨⟨hmoves.phase, fun r hr => ?_, hsettles.pending, fun result hresult =>
      hc.received result (hsettles.receive result hresult)⟩, hmono, hiff⟩
    have hbacked := evolves_keeps (P := fun r => r.Backed processor c.services.loaded) ?_
      (fun _ _ hr h => hr.change h) hmoves.evolves hc.stream r hr
    · rw [hsettles.services]
      exact hbacked.mono hmono
    · intro config limit streamId session hsession
      have hnone := (createLocalSttStreamSession_new hsession).lastPartialResult
      exact ⟨fun t ht => by simp [hnone] at ht, by simp, by simp, by simp⟩

/-- A receipt of what a client sent. -/
lemma Backed.receive {input : Option ClientInput} {x : ClientInput}
    (hc : c.Backed processor loads input)
    (h : c.step env (.receive (receiveClientInput loads x)) = some c') :
    c'.Backed processor loads (some x) ∧ c'.services = c.services := by
  have hphase := (step_moves hc.phase (tasksMeet_true c _) h).phase
  simp only [Conn.step] at h
  split at h <;> cases h
  refine ⟨⟨hphase, hc.stream, hc.pending, ?_⟩, rfl⟩
  rintro result hresult
  cases hresult
  exact ⟨x, rfl, rfl⟩

end Conn

end RtcAsr
