import RtcAsr.Foundation.LogSections
import RtcAsr.Server.BackendAnswers

/-!
# What is said is what is heard

The messages of a client are a log in sections: a start opens an utterance, audio is an item of it,
and a `finalize` or a cancel closes it (`utterances`).  In every run that follows a deterministic
backend, every transcript the server writes reports the utterance whose number is its stream
identifier, as the handler got it (`transcripts_report`).
-/

namespace RtcAsr

/-! ## Utterances -/

/-- How a client ends a stream. -/
inductive StreamEnd
  | finalize
  | cancel
  deriving DecidableEq

/-- What a client says in a stream. -/
abbrev Utterance := LogSection LocalSttStartConfig Bytes StreamEnd

/-- What a message adds to the utterances. -/
def ClientEvent.mark : ClientEvent → Mark LocalSttStartConfig Bytes StreamEnd
  | .start config => .opens config
  | .audio chunk => .item chunk
  | .finalize => .closes .finalize
  | .cancel => .closes .cancel
  | .close => .silent
  | .ping _ => .silent
  | .pong _ => .silent

/-- The utterances in a list of messages. -/
def utterances (es : List ClientEvent) : Sections LocalSttStartConfig Bytes StreamEnd :=
  Sections.record ClientEvent.mark es

/-- The speech of an utterance, as the stream of an identifier. -/
def Utterance.speech (u : Utterance) (streamId : ℕ) : Speech where
  streamId := streamId
  clientStreamId := u.head.clientStreamId
  clientMetadata := u.head.clientMetadata
  language := u.head.start.language
  sampleRate := u.head.start.audio.sampleRate
  autoFinal := u.head.finalizeOnStablePartial
  chunks := u.items
  finalized := decide (u.closing = some .finalize)

/-- The speech of an utterance grows with it. -/
lemma Utterance.speech_grows {u u' : Utterance} (h : u.Extends u') (streamId : ℕ) :
    (Utterance.speech u streamId).Grows (Utterance.speech u' streamId) := by
  refine ⟨?_, h.items, fun hfinalized => ?_⟩
  · simp only [Utterance.speech, h.head]
  · have hclosing : u.closing = some .finalize := of_decide_eq_true hfinalized
    rw [h.closed (by simp [hclosing])]

/-- The event reports one of the utterances, the one of its stream identifier. -/
def TranscriptEvent.ReportsOneOf (B : DecodeBackend) (e : TranscriptEvent)
    (es : List ClientEvent) : Prop :=
  ∃ k u, (utterances es).get? k = some u ∧ e.Reports B (Utterance.speech u (k + 1))

/-- More messages leave a report right. -/
lemma TranscriptEvent.ReportsOneOf.mono {B : DecodeBackend} {e : TranscriptEvent}
    {es es' : List ClientEvent} (h : e.ReportsOneOf B es) (hfirst : es <+: es') :
    e.ReportsOneOf B es' := by
  obtain ⟨k, u, hu, hreports⟩ := h
  obtain ⟨u', hu', hextends⟩ := Sections.get?_record hfirst hu
  exact ⟨k, u', hu', hreports.grow (Utterance.speech_grows hextends _)⟩

/-! ## Steps that handle no message -/

/-- What the handler was asked of a stream. -/
def StreamRuntime.asked (r : StreamRuntime) : Speech × Bool := (r.speech, r.cancelRequested)

namespace Conn

/-- A step that handles no message: the stream, if it is kept, was asked nothing more, and a
transcript that is written comes from its queue. -/
structure Quiet (c c' : Conn) : Prop where
  handled : c'.handled = c.handled
  nextStreamId : c'.nextStreamId = c.nextStreamId
  sent : ∀ e, .transcript e ∈ c'.sent →
    .transcript e ∈ c.sent ∨ ∃ r, c.stream = some r ∧ .transcript e ∈ r.outgoingEvents
  stream : ∀ r', c'.stream = some r' → ∃ r, c.stream = some r ∧ r'.asked = r.asked

variable {env : ServerEnv} {B : DecodeBackend} {c c' : Conn} {r : StreamRuntime} {a : Act}

/-- A step that leaves the messages and the stream alone and writes no transcript. -/
lemma quiet_of_same (hhandled : c'.handled = c.handled) (hid : c'.nextStreamId = c.nextStreamId)
    (hsent : ∀ e, .transcript e ∈ c'.sent → .transcript e ∈ c.sent)
    (hstream : c'.stream = c.stream) : Quiet c c' :=
  ⟨hhandled, hid, fun e he => Or.inl (hsent e he), fun r' hr' => ⟨r', hstream ▸ hr', rfl⟩⟩

/-- A step that changes a stream without asking it anything, and writes no transcript. -/
lemma quiet_of_asked {r' : StreamRuntime} (hs : c.stream = some r)
    (hhandled : c'.handled = c.handled) (hid : c'.nextStreamId = c.nextStreamId)
    (hsent : ∀ e, .transcript e ∈ c'.sent → .transcript e ∈ c.sent) (hs' : c'.stream = some r')
    (hasked : r'.asked = r.asked) : Quiet c c' :=
  ⟨hhandled, hid, fun e he => Or.inl (hsent e he), fun _ h => ⟨r, hs, by
    rw [← hasked, Option.some.inj (hs'.symm.trans h)]⟩⟩

/-- A step that ends the stream, and writes no transcript. -/
lemma quiet_of_drop (hhandled : c'.handled = c.handled) (hid : c'.nextStreamId = c.nextStreamId)
    (hsent : ∀ e, .transcript e ∈ c'.sent → .transcript e ∈ c.sent)
    (hstream : c'.stream = none) : Quiet c c' :=
  ⟨hhandled, hid, fun e he => Or.inl (hsent e he), fun r' hr' => by
    rw [hstream] at hr'
    cases hr'⟩

/-- An event of the handler is no transcript. -/
lemma transcript_mem_concat {sent : List Event} {event : Event} {e : TranscriptEvent}
    (hevent : ∀ e, event ≠ .transcript e) (h : .transcript e ∈ sent ++ [event]) :
    .transcript e ∈ sent := by
  rw [List.mem_append, List.mem_singleton] at h
  exact h.resolve_right fun heq => hevent e heq.symm

lemma quiet_afterStop (c : Conn) (k : AfterStop) : Quiet c (c.afterStop k) := by
  cases k with
  | continueLoop => exact quiet_of_drop rfl rfl (fun _ h => h) rfl
  | sendClosed =>
    exact quiet_of_drop rfl rfl (fun _ h => transcript_mem_concat (by simp) h) rfl
  | exit => exact quiet_of_drop rfl rfl (fun _ h => h) rfl
  | sendError message =>
    exact quiet_of_drop rfl rfl (fun _ h => transcript_mem_concat (by simp) h) rfl

lemma quiet_beginStop (c : Conn) (k : AfterStop) : Quiet c (c.beginStop k) := by
  unfold beginStop
  split
  · exact quiet_afterStop c k
  · next r hs => exact quiet_of_asked hs rfl rfl (fun _ h => h) rfl rfl

lemma quiet_raise (c : Conn) (e : Exn) : Quiet c (c.raise e) := by
  have hservices : ∀ services k, Quiet c (beginStop { c with services := services } k) := by
    intro services k
    obtain ⟨hhandled, hid, hsent, hstream⟩ := quiet_beginStop { c with services := services } k
    exact ⟨hhandled, hid, hsent, hstream⟩
  unfold raise
  split
  · exact quiet_beginStop c _
  · exact hservices _ _
  · exact quiet_beginStop c _
  · exact hservices _ _

lemma quiet_startedDecoder (hs : c.stream = some r) (result : Except Exn Bool) :
    Quiet c (c.startedDecoder r result) := by
  cases result with
  | error e => exact quiet_raise c e
  | ok decoder =>
    refine quiet_of_asked hs rfl rfl (fun _ h => transcript_mem_concat (by simp) h) rfl ?_
    cases decoder with
    | true => rfl
    | false => rfl

lemma quiet_handlerSent {result : Except Exn Unit} (h : c.handlerSent result = some c') :
    Quiet c c' := by
  unfold handlerSent at h
  split at h <;> cases h
  · exact quiet_of_same rfl rfl (fun _ h => h) rfl
  · exact quiet_of_same rfl rfl (fun _ h => h) rfl
  · exact quiet_of_same rfl rfl (fun _ h => h) rfl
  · exact quiet_raise c _
  · exact quiet_raise c _
  · exact quiet_raise c _
  · exact quiet_of_same rfl rfl (fun _ h => h) rfl

lemma quiet_closeDecoder (hs : c.stream = some r) (k : AfterStop) :
    Quiet c (c.closeDecoder r k) := by
  unfold closeDecoder
  split_ifs
  · exact quiet_of_same rfl rfl (fun _ h => h) rfl
  · exact quiet_of_asked hs rfl rfl (fun _ h => h) rfl rfl
  · exact quiet_of_asked hs rfl rfl (fun _ h => h) rfl rfl

lemma quiet_proceed (hs : c.stream = some r) (h : c.proceed r = some c') : Quiet c c' := by
  unfold proceed at h
  split at h
  · split at h <;> cases h
    · exact quiet_of_same rfl rfl (fun _ h => h) rfl
    · exact quiet_raise c _
  · split_ifs at h
    cases h
    exact quiet_of_same rfl rfl (fun _ h => h) rfl
  · split at h <;> cases h
    · exact quiet_raise c _
    · exact quiet_of_drop rfl rfl (fun _ h => h) rfl
    · exact quiet_of_drop rfl rfl (fun _ h => h) rfl
  · split_ifs at h
    cases h
    exact quiet_beginStop c _
  · split_ifs at h
    cases h
    exact quiet_beginStop c _
  · split at h <;> cases h
    · exact quiet_closeDecoder hs _
    · exact quiet_closeDecoder hs _
    · exact quiet_closeDecoder hs _
  · split at h <;> cases h
    exact quiet_afterStop c _
  · cases h

lemma quiet_raiseInStop (c : Conn) (k : AfterStop) (e : Exn) : Quiet c (c.raiseInStop k e) := by
  unfold raiseInStop
  split_ifs
  · exact quiet_raise c e
  · exact quiet_of_same rfl rfl (fun _ h => h) rfl

lemma quiet_handlerDecoderClosed {result : Except Exn Unit}
    (h : c.handlerDecoderClosed result = some c') : Quiet c c' := by
  unfold handlerDecoderClosed at h
  split at h <;> cases h
  · exact quiet_of_same rfl rfl (fun _ h => h) rfl
  · exact quiet_raiseInStop c _ _
  · exact quiet_raiseInStop c _ _

/-- A transcript the sender starts to write comes from the queue. -/
lemma quiet_task {r' : StreamRuntime} {a : StreamAct} (hs : c.stream = some r)
    (h : r.step env a = some r') :
    Quiet c { c with
      stream := some r'
      services := afterDecode c.services a
      sent := c.sent ++ r.writes a } := by
  refine ⟨rfl, rfl, fun e he => ?_, fun r'' hr'' => ⟨r, hs, ?_⟩⟩
  · rcases List.mem_append.mp he with he | he
    · exact Or.inl he
    · refine Or.inr ⟨r, hs, ?_⟩
      cases a with
      | senderTake => exact List.mem_of_mem_take he
      | _ => cases he
  · obtain rfl := Option.some.inj hr''
    have hframe := StreamRuntime.step_frame h
    rw [StreamRuntime.asked, StreamRuntime.step_speech h, hframe.cancelRequested]
    rfl

/-- **Only a wake-up handles a message.** -/
theorem step_quiet (ha : a ≠ .wake) (h : c.step env a = some c') : Quiet c c' := by
  cases a with
  | wake => exact absurd rfl ha
  | receive result =>
    simp only [step] at h
    split at h <;> cases h
    exact quiet_of_same rfl rfl (fun _ h => h) rfl
  | startedDecoder result =>
    simp only [step] at h
    split at h <;> cases h
    next _ hs => exact quiet_startedDecoder hs result
  | handlerSent result => exact quiet_handlerSent h
  | proceed =>
    obtain ⟨r, hs, h⟩ := Option.bind_eq_some_iff.mp h
    exact quiet_proceed hs h
  | handlerDecoderCanceled result =>
    obtain ⟨r, hs, h⟩ := Option.bind_eq_some_iff.mp h
    unfold handlerDecoderCanceled at h
    split at h <;> cases h
    exact quiet_of_asked hs rfl rfl (fun _ h => h) rfl rfl
  | handlerDecoderClosed result => exact quiet_handlerDecoderClosed h
  | senderCancel =>
    simp only [step] at h
    split_ifs at h
    obtain ⟨r, hs, h⟩ := Option.bind_eq_some_iff.mp h
    obtain ⟨r', hr', rfl⟩ := Option.map_eq_some_iff.mp h
    obtain ⟨_, rfl⟩ := StreamRuntime.senderCancel_eq hr'
    exact quiet_of_asked hs rfl rfl (fun _ h => h) rfl rfl
  | task a =>
    obtain ⟨r, hs, h⟩ := Option.bind_eq_some_iff.mp h
    obtain ⟨r', hr', rfl⟩ := Option.map_eq_some_iff.mp h
    exact quiet_task hs hr'
  | modelLoaded =>
    cases h
    exact quiet_of_same rfl rfl (fun _ h => h) rfl

/-! ## The invariant -/

/-- The transcripts written report utterances, and the active stream is one. -/
structure Reported (B : DecodeBackend) (c : Conn) : Prop where
  sent : ∀ e, .transcript e ∈ c.sent → e.ReportsOneOf B c.handled
  stream : ∀ r, c.stream = some r → ∃ k u, (utterances c.handled).get? k = some u ∧
    r.speech.Grows (Utterance.speech u (k + 1))

/-- The streams created are the utterances begun, and the active stream is the last utterance. -/
structure UpToDate (c : Conn) : Prop where
  nextStreamId : c.nextStreamId = (utterances c.handled).count + 1
  stream : ∀ r, c.stream = some r → ∃ u, (utterances c.handled).last = some u ∧
    Utterance.speech u (utterances c.handled).count = r.speech ∧
    (r.finalizeRequested = false → r.cancelRequested = false → u.closing = none)

/-- A step that handles no message keeps the reports. -/
lemma Reported.quiet (hc : c.Reported B) (hheard : ∀ r, c.stream = some r → r.Heard B)
    (h : Quiet c c') : c'.Reported B := by
  refine ⟨fun e he => ?_, fun r' hr' => ?_⟩
  · rw [h.handled]
    rcases h.sent e he with he | ⟨r, hs, hmem⟩
    · exact hc.sent e he
    · obtain ⟨k, u, hu, hgrows⟩ := hc.stream r hs
      exact ⟨k, u, hu, ((hheard r hs).events e hmem).grow hgrows⟩
  · rw [h.handled]
    obtain ⟨r, hs, hasked⟩ := h.stream r' hr'
    obtain ⟨k, u, hu, hgrows⟩ := hc.stream r hs
    have hspeech : r'.speech = r.speech := congrArg Prod.fst hasked
    rw [hspeech]
    exact ⟨k, u, hu, hgrows⟩

/-- A step that handles no message keeps the stream up to date. -/
lemma UpToDate.quiet (hc : c.UpToDate) (h : Quiet c c') : c'.UpToDate := by
  refine ⟨?_, fun r' hr' => ?_⟩
  · rw [h.handled, h.nextStreamId]
    exact hc.nextStreamId
  · rw [h.handled]
    obtain ⟨r, hs, hasked⟩ := h.stream r' hr'
    obtain ⟨u, hu, hspeech, hopen⟩ := hc.stream r hs
    have hsame : r'.speech = r.speech := congrArg Prod.fst hasked
    have hfin : r'.finalizeRequested = r.finalizeRequested := congrArg Speech.finalized hsame
    have hcancel : r'.cancelRequested = r.cancelRequested := congrArg Prod.snd hasked
    refine ⟨u, hu, hspeech.trans hsame.symm, ?_⟩
    rw [hfin, hcancel]
    exact hopen

/-- The connection with one more message handled. -/
def noting (c : Conn) (e : ClientEvent) : Conn :=
  { c with receive := .absent, handled := c.handled ++ [e] }

/-- One more message leaves the reports right. -/
lemma Reported.noting (hc : c.Reported B) (e : ClientEvent) : (c.noting e).Reported B := by
  have hfirst : c.handled <+: (c.noting e).handled := List.prefix_append _ _
  refine ⟨fun event hevent => (hc.sent event hevent).mono hfirst, fun r hs => ?_⟩
  obtain ⟨k, u, hu, hgrows⟩ := hc.stream r hs
  obtain ⟨u', hu', hextends⟩ := Sections.get?_record hfirst hu
  exact ⟨k, u', hu', hgrows.trans (Utterance.speech_grows hextends _)⟩

lemma utterances_noting (c : Conn) (e : ClientEvent) :
    utterances (c.noting e).handled = (utterances c.handled).note e.mark :=
  Sections.record_concat _ _

/-- The stream of a connection that is up to date is an utterance. -/
lemma UpToDate.reported (hup : c'.UpToDate)
    (hsent : ∀ e, .transcript e ∈ c'.sent → e.ReportsOneOf B c'.handled) : c'.Reported B := by
  refine ⟨hsent, fun r hs => ?_⟩
  obtain ⟨u, hu, hspeech, -⟩ := hup.stream r hs
  obtain ⟨k, hcount, hget⟩ := Sections.get?_of_last hu
  refine ⟨k, u, hget, ?_⟩
  rw [← hcount, hspeech]
  exact .refl _

/-- The handler takes a message into the last utterance. -/
lemma UpToDate.asked {e : ClientEvent} {r' : StreamRuntime} (hup : c.UpToDate)
    (hs : c.stream = some r) (hs' : c'.stream = some r')
    (hhandled : c'.handled = c.handled ++ [e]) (hid : c'.nextStreamId = c.nextStreamId)
    (hcount : ((utterances c.handled).note e.mark).count = (utterances c.handled).count)
    (hnote : ∀ u, (utterances c.handled).last = some u → u.closing = none →
      Utterance.speech u (utterances c.handled).count = r.speech →
      ∃ u', ((utterances c.handled).note e.mark).last = some u' ∧
        Utterance.speech u' (utterances c.handled).count = r'.speech ∧
        (r'.finalizeRequested = false → r'.cancelRequested = false → u'.closing = none))
    (hlisten : r.finalizeRequested = false) (hkept : r.cancelRequested = false) :
    c'.UpToDate := by
  have hutterances : utterances c'.handled = (utterances c.handled).note e.mark := by
    rw [hhandled]
    exact Sections.record_concat _ _
  obtain ⟨u, hu, hspeech, hopen⟩ := hup.stream r hs
  obtain ⟨u', hu', hspeech', hopen'⟩ := hnote u hu (hopen hlisten hkept) hspeech
  refine ⟨?_, fun r'' hr'' => ?_⟩
  · rw [hutterances, hid, hcount]
    exact hup.nextStreamId
  · obtain rfl := Option.some.inj (hs'.symm.trans hr'')
    rw [hutterances, hcount]
    exact ⟨u', hu', hspeech', hopen'⟩

/-! ## The handler acts on a message -/

/-- A message that says nothing about the utterances. -/
lemma UpToDate.noting (hup : c.UpToDate) {e : ClientEvent} (he : e.mark = .silent) :
    (c.noting e).UpToDate := by
  have hutterances : utterances (c.noting e).handled = utterances c.handled := by
    rw [utterances_noting, he]
    rfl
  refine ⟨?_, fun r hs => ?_⟩
  · rw [hutterances]
    exact hup.nextStreamId
  · rw [hutterances]
    exact hup.stream r hs

/-- A start opens an utterance. -/
lemma UpToDate.start (hup : c.UpToDate) {config : LocalSttStartConfig} {limit : ℕ}
    {session : StreamSession}
    (h : createLocalSttStreamSession config limit c.nextStreamId = .ok session) :
    UpToDate { c.noting (.start config) with
      nextStreamId := c.nextStreamId + 1
      stream := some { session := session }
      pc := .startingDecoder } := by
  have hutterances := utterances_noting c (.start config)
  have hcount : ((utterances c.handled).note (ClientEvent.start config).mark).count =
      (utterances c.handled).count + 1 := Sections.count_note _
  refine ⟨?_, fun r hr => ⟨{ head := config }, ?_, ?_, fun _ _ => rfl⟩⟩
  · rw [hutterances, hcount, ← hup.nextStreamId]
  · rw [hutterances]
    rfl
  · rw [hutterances, hcount]
    obtain rfl := Option.some.inj hr
    obtain ⟨limited, window, -, -, rfl⟩ := createLocalSttStreamSession_eq_ok h
    rw [← hup.nextStreamId]
    rfl

/-- Audio is an item of the last utterance. -/
lemma UpToDate.audio (hup : c.UpToDate) (hs : c.stream = some r) (hactive : r.Active)
    (hlisten : r.finalizeRequested = false) {chunk : Bytes} {session : StreamSession}
    (h : r.session.appendAudio chunk = .ok session) :
    UpToDate { c.noting (.audio chunk) with stream := some (r.appendAudio session chunk) } := by
  refine hup.asked (r := r) hs rfl rfl rfl ?_ ?_ hlisten hactive.kept
  · exact Sections.count_note _
  · intro u hu hopen hspeech
    refine ⟨u.add chunk, by simp [ClientEvent.mark, Sections.note, hu], ?_, ?_⟩
    · have hadd : u.add chunk = { u with items := u.items ++ [chunk] } := by
        rw [LogSection.add, hopen]
      obtain rfl := StreamSession.appendAudio_eq_ok h
      have hmore := congrArg (fun p : Speech => { p with chunks := p.chunks ++ [chunk] }) hspeech
      rw [hadd]
      exact hmore
    · intro _ _
      rw [LogSection.add, hopen]

/-- A `finalize` closes the last utterance. -/
lemma UpToDate.finalize (hup : c.UpToDate) (hs : c.stream = some r) (hactive : r.Active)
    (hlisten : r.finalizeRequested = false) :
    UpToDate { c.noting .finalize with
      stream := some r.requestFinalize
      pc := .finalizeAwaitingWorker } := by
  refine hup.asked (r := r) hs rfl rfl rfl ?_ ?_ hlisten hactive.kept
  · exact Sections.count_note _
  · intro u hu hopen hspeech
    refine ⟨u.close .finalize, by simp [ClientEvent.mark, Sections.note, hu], ?_, ?_⟩
    · have hclose : u.close .finalize = { u with closing := some .finalize } := by
        rw [LogSection.close, hopen]
      have hmore := congrArg (fun p : Speech => { p with finalized := true }) hspeech
      rw [hclose]
      exact hmore
    · intro hnot
      cases hnot

/-- A cancel closes the last utterance. -/
lemma UpToDate.cancel (hup : c.UpToDate) (hs : c.stream = some r) (hactive : r.Active)
    (hlisten : r.finalizeRequested = false) (event : Event) :
    UpToDate { c.noting .cancel with
      stream := some (r.requestCancel.enqueueEvent event)
      pc := .cancelJoining } := by
  refine hup.asked (r := r) hs rfl rfl rfl ?_ ?_ hlisten hactive.kept
  · exact Sections.count_note _
  · intro u hu hopen hspeech
    refine ⟨u.close .cancel, by simp [ClientEvent.mark, Sections.note, hu], ?_, ?_⟩
    · have hclose : u.close .cancel = { u with closing := some .cancel } := by
        rw [LogSection.close, hopen]
      have hmore := congrArg (fun p : Speech => { p with finalized := false }) hspeech
      have hspoken : (r.requestCancel.enqueueEvent event).speech =
          { r.speech with finalized := false } := by
        rw [← hlisten]
        rfl
      rw [hclose, hspoken]
      exact hmore
    · intro _ hnot
      cases hnot

/-- How the handler acts on a message: it raises, it goes on without a word about the utterances, or
it brings the utterances up to date. -/
inductive Acts (env : ServerEnv) (c : Conn) (e : ClientEvent) : Prop
  | raises (x : Exn) (h : (c.noting e).handle env e = (c.noting e).raise x)
  | silent (hmark : e.mark = .silent) (h : Quiet (c.noting e) ((c.noting e).handle env e))
  | notes (hup : ((c.noting e).handle env e).UpToDate)
      (hsent : ((c.noting e).handle env e).sent = c.sent)
      (hhandled : ((c.noting e).handle env e).handled = (c.noting e).handled)

/-- The handler acts on a message. -/
lemma handle_acts (hphase : c.Phase) (hpc : c.pc = .waiting) (hup : c.UpToDate) (e : ClientEvent) :
    Acts env c e := by
  have hactive : ∀ r, c.stream = some r → r.Active ∧ r.finalizeRequested = false := by
    intro r hs
    simpa [Phase, hs, hpc, HandlerPc.Fits] using hphase
  have hstream : (c.noting e).stream = c.stream := rfl
  cases e with
  | start config =>
    cases hs : c.stream with
    | some r =>
      apply Acts.raises
      simp only [handle, hstream, hs]
      rfl
    | none =>
      cases hsession : createLocalSttStreamSession config env.streamMaxBufferBytes
        c.nextStreamId with
      | error error =>
        refine .raises (.builtin error) ?_
        have hcreate : createLocalSttStreamSession config env.streamMaxBufferBytes
            (c.noting (.start config)).nextStreamId = .error error := hsession
        simp only [handle, hstream, hs, hcreate]
      | ok session =>
        have hcreate : createLocalSttStreamSession config env.streamMaxBufferBytes
            (c.noting (.start config)).nextStreamId = .ok session := hsession
        refine .notes ?_ ?_ ?_
        · simp only [handle, hstream, hs, hcreate]
          exact hup.start hsession
        · simp only [handle, hstream, hs, hcreate]
          rfl
        · simp only [handle, hstream, hs, hcreate]
  | audio chunk =>
    cases hs : c.stream with
    | none =>
      apply Acts.raises
      simp only [handle, hstream, hs]
      rfl
    | some r =>
      obtain ⟨hr, hlisten⟩ := hactive r hs
      cases happend : r.session.appendAudio chunk with
      | error error =>
        apply Acts.raises
        simp only [handle, hstream, hs, happend]
        rfl
      | ok session =>
        have hmore := hup.audio hs hr hlisten happend
        refine .notes ?_ ?_ ?_
        · simp only [handle, hstream, hs, happend]
          exact ⟨hmore.nextStreamId, hmore.stream⟩
        · simp only [handle, hstream, hs, happend]
          rfl
        · simp only [handle, hstream, hs, happend]
          rfl
  | finalize =>
    cases hs : c.stream with
    | none =>
      apply Acts.raises
      simp only [handle, hstream, hs]
      rfl
    | some r =>
      obtain ⟨hr, hlisten⟩ := hactive r hs
      by_cases hempty : r.session.audioBuffer = []
      · apply Acts.raises
        simp only [handle, hstream, hs, if_pos hempty]
        rfl
      · refine .notes ?_ ?_ ?_
        · simp only [handle, hstream, hs, if_neg hempty]
          exact hup.finalize hs hr hlisten
        · simp only [handle, hstream, hs, if_neg hempty]
          rfl
        · simp only [handle, hstream, hs, if_neg hempty]
  | cancel =>
    cases hs : c.stream with
    | none =>
      apply Acts.raises
      simp only [handle, hstream, hs]
      rfl
    | some r =>
      obtain ⟨hr, hlisten⟩ := hactive r hs
      refine .notes ?_ ?_ ?_
      · simp only [handle, hstream, hs]
        exact hup.cancel hs hr hlisten _
      · simp only [handle, hstream, hs]
        rfl
      · simp only [handle, hstream, hs]
  | ping message =>
    have hwrites : ∀ e', Event.transcript e' ∈ c.sent ++ [.pong message] →
        Event.transcript e' ∈ c.sent := fun e' h => transcript_mem_concat (by simp) h
    refine .silent rfl ?_
    simp only [handle]
    split
    · next r hs =>
      split
      · exact quiet_of_same rfl rfl hwrites rfl
      · exact quiet_of_asked hs rfl rfl (fun _ h => h) rfl rfl
    · exact quiet_of_same rfl rfl hwrites rfl
  | pong message => exact .silent rfl (quiet_of_same rfl rfl (fun _ h => h) rfl)
  | close => exact .silent rfl (quiet_beginStop _ _)

/-- A step is quiet, or the handler acts on a message. -/
lemma step_acts (h : c.step env a = some c') :
    Quiet c c' ∨ c.pc = .waiting ∧ ∃ e, c' = (c.noting e).handle env e := by
  by_cases ha : a = .wake
  · subst ha
    have hraise : ∀ e, Quiet c (raise { c with receive := .absent } e) := fun e => by
      obtain ⟨hhandled, hid, hsent, hstream⟩ := quiet_raise { c with receive := .absent } e
      exact ⟨hhandled, hid, hsent, hstream⟩
    simp only [step] at h
    split at h
    · next hpc =>
      unfold wake at h
      dsimp only at h
      split at h
      · split at h <;> cases h
        · exact .inl (hraise _)
        · exact .inl (quiet_of_same rfl rfl (fun _ h => h) rfl)
      · split at h <;> cases h
        · exact .inl (hraise _)
        · exact .inl (hraise _)
      · split at h <;> cases h
        · next e hreceive => exact .inr ⟨hpc, e, rfl⟩
        · exact .inl (hraise _)
    · cases h
  · exact .inl (step_quiet ha h)

/-- What is open now was open before the step. -/
lemma isOpen_of_step (h : c.step env a = some c') (hopen' : c'.pc.isOpen = true) :
    c.pc.isOpen = true := by
  by_contra hclosed
  have hclosed' := step_isOpen (Bool.eq_false_iff.mpr hclosed) h
  exact absurd (hopen'.symm.trans hclosed') (by simp)

/-- One step keeps the utterances up to date. -/
lemma step_upToDate (hphase : c.Phase) (hup : c.pc.isOpen = true → c.UpToDate)
    (h : c.step env a = some c') (hopen' : c'.pc.isOpen = true) : c'.UpToDate := by
  rcases step_acts h with hquiet | ⟨hpc, e, rfl⟩
  · exact (hup (isOpen_of_step h hopen')).quiet hquiet
  · have hup : c.UpToDate := hup (by rw [hpc]; rfl)
    cases handle_acts hphase hpc hup e with
    | raises x hraise =>
      rw [hraise] at hopen'
      exact absurd (hopen'.symm.trans (raise_isOpen _ x)) (by simp)
    | silent hmark hquiet => exact (hup.noting hmark).quiet hquiet
    | notes hup' => exact hup'

/-- **The step lemma.** -/
theorem step_reported (hphase : c.Phase) (hc : c.Reported B) (hup : c.pc.isOpen = true → c.UpToDate)
    (hheard : ∀ r, c.stream = some r → r.Heard B) (h : c.step env a = some c') :
    c'.Reported B := by
  rcases step_acts h with hquiet | ⟨hpc, e, rfl⟩
  · exact hc.quiet hheard hquiet
  · have hnoting := hc.noting e
    cases handle_acts hphase hpc (hup (by rw [hpc]; rfl)) e with
    | raises x hraise =>
      rw [hraise]
      exact hnoting.quiet hheard (quiet_raise _ x)
    | silent hmark hquiet => exact hnoting.quiet hheard hquiet
    | notes hup' hsent hhandled =>
      refine hup'.reported fun event hevent => ?_
      rw [hhandled]
      rw [hsent] at hevent
      exact hnoting.sent event hevent

/-- The utterances of a run are up to date. -/
lemma upToDate_of_reaches (h : (connection env).Reaches {} c) (hopen : c.pc.isOpen = true) :
    c.UpToDate := by
  have hinv := StepSystem.invariant (M := connection env)
    (I := fun c => c.Phase ∧ (c.pc.isOpen = true → c.UpToDate))
    (fun s a s' hs hstep => ⟨(step_moves hs.1 (tasksMeet_true s a) hstep).phase,
      step_upToDate hs.1 hs.2 hstep⟩)
    ⟨phase_init, fun _ => ⟨rfl, by simp⟩⟩ h
  exact hinv.2 hopen

/-- A handler that acts on a message does not find the worker returned. -/
lemma not_returned_of_handled {e : ClientEvent} (h : c.step env .wake = some c')
    (hhandled : c'.handled = c.handled ++ [e]) (hs : c.stream = some r) :
    c.pc = .waiting ∧ r.worker ≠ .returned := by
  simp only [step] at h
  split at h
  · next hpc =>
    refine ⟨hpc, fun hworker => ?_⟩
    have hreturned : c.stream.map StreamRuntime.worker = some .returned := by
      rw [hs, Option.map_some, hworker]
    have hsame : c'.handled = c.handled := by
      simp only [wake, hreturned] at h
      split at h <;> cases h
      · exact (quiet_raise { c with receive := .absent } _).handled
      · rfl
    simpa using congrArg List.length (hsame.symm.trans hhandled)
  · cases h

/-- **When a start is refused.** A handler that acts on a start has no stream, or it has handled
neither a `finalize` nor a cancel since the last start and emitted no final transcript. -/
theorem start_refused (h : (connection env).Reaches {} c) {start : LocalSttStartConfig}
    (hstep : c.step env .wake = some c') (hhandled : c'.handled = c.handled ++ [.start start]) :
    c.stream = none ∨ ∃ r, c.stream = some r ∧ r.finalEmitted = false ∧
      ∃ before config since, c.handled = before ++ .start config :: since ∧
        .finalize ∉ since ∧ .cancel ∉ since := by
  cases hs : c.stream with
  | none => exact Or.inl rfl
  | some r =>
    obtain ⟨hpc, hworker⟩ := not_returned_of_handled hstep hhandled hs
    have hfits : r.Active ∧ r.finalizeRequested = false := by
      simpa [Phase, hs, hpc, HandlerPc.Fits] using phase_of_reaches h
    obtain ⟨u, hu, -, hopen⟩ := (upToDate_of_reaches h (by rw [hpc]; rfl)).stream r hs
    obtain ⟨before, e, since, hsplit, he, hsince⟩ :=
      Sections.exists_opens_of_last hu (hopen hfits.2 hfits.1.kept)
    refine Or.inr ⟨r, rfl, hfits.1.notFinal hworker, ?_⟩
    cases e with
    | start config =>
      refine ⟨before, config, since, hsplit, fun hmem => ?_, fun hmem => ?_⟩
      · exact (hsince _ hmem).2 .finalize rfl
      · exact (hsince _ hmem).2 .cancel rfl
    | _ => cases he

/-- The reports of a run. -/
lemma reported_of_run {as : List Act}
    (hfollows : (connection env).Along (TasksMeet (StreamRuntime.FollowsBackend B)) {} as)
    (hrun : (connection env).run {} as = some c) : c.Reported B := by
  have hinv := StepSystem.invariant_along (M := connection env)
    (C := TasksMeet (StreamRuntime.FollowsBackend B))
    (I := fun c => c.Phase ∧ (∀ r, c.stream = some r → r.Heard B) ∧ c.Reported B ∧
      (c.pc.isOpen = true → c.UpToDate))
    (fun s a s' hs hmeets hstep => by
      obtain ⟨hphase, hheard, hc, hup⟩ := hs
      have hmoves := step_moves hphase hmeets hstep
      refine ⟨hmoves.phase, ?_, step_reported hphase hc hup hheard hstep,
        step_upToDate hphase hup hstep⟩
      refine evolves_keeps ?_ (fun _ _ hr h => hr.change h) hmoves.evolves hheard
      intro config streamMaxBufferBytes streamId session hsession
      exact StreamRuntime.heard_start (createLocalSttStreamSession_new hsession))
    ⟨phase_init, by simp, ⟨by simp, by simp⟩, fun _ => ⟨rfl, by simp⟩⟩ hfollows hrun
  exact hinv.2.2.1

/-- **What is said is what is heard.** In every run that follows a deterministic backend, every
transcript the server writes reports the utterance of its stream identifier among the messages the
handler acted on: what the backend recognises in a part of its audio, or, after a `finalize`, in all
of it. -/
theorem transcripts_report {as : List Act}
    (hfollows : (connection env).Along (TasksMeet (StreamRuntime.FollowsBackend B)) {} as)
    (hrun : (connection env).run {} as = some c) (e : TranscriptEvent)
    (he : .transcript e ∈ c.sent) : e.ReportsOneOf B c.handled :=
  (reported_of_run hfollows hrun).sent e he

/-- One chunk and a `finalize`, and the final transcript is written. -/
def oneChunkFinalized : List Act :=
  openStream plainStart false ++ deliver (.audio twoMs) ++ deliver .finalize ++
    [.task .workerWake, .task (.transcribed (.ok { text := .str "turn" })), .task .senderTake]

theorem transcripts_report_oneChunkFinalized :
    ∃ c e, (connection defaultEnv).run {} oneChunkFinalized = some c ∧ .transcript e ∈ c.sent ∧
      e.text = "turn" ∧ e.ReportsOneOf wordBackend c.handled := by
  have hfollows : (connection defaultEnv).Along
      (TasksMeet (StreamRuntime.FollowsBackend wordBackend)) {} oneChunkFinalized := by
    refine .cons trivial rfl (.cons trivial rfl (.cons trivial rfl (.cons trivial rfl ?_)))
    refine .cons trivial rfl (.cons trivial rfl (.cons trivial rfl (.cons trivial rfl ?_)))
    refine .cons (fun _ _ => trivial) rfl (.cons ?_ rfl (.cons (fun _ _ => trivial) rfl trivial))
    rintro _ ⟨⟩
    rfl
  have hrun : ∃ c e, (connection defaultEnv).run {} oneChunkFinalized = some c ∧
      .transcript e ∈ c.sent ∧ e.text = "turn" := by
    refine ⟨_, _, rfl, .tail _ (.head _), ?_⟩
    decide +kernel
  obtain ⟨c, e, hrun, he, htext⟩ := hrun
  exact ⟨c, e, hrun, he, htext, transcripts_report hfollows hrun e he⟩

end Conn
end RtcAsr
