import RtcAsr.Client.StreamingClient

/-!
# What the server makes of a stream

A client that transcribes once sends a start message, the chunks, and a stop message (`script`).
The server takes the messages in one after the other, and the events it writes are a function of
them: `served_audio` and `served_script` say which.  The interim events are those of `interims`, one
for each chunk at which a transcription is due and has a text; after a failure the server writes one
error event at most and listens no more.
-/

namespace RtcAsr.Streaming

open LegacyConn

/-! ## A server whose writes end at once -/

/-- The server with its write at an end. -/
def settled (l : LegacyConn) : LegacyConn :=
  match l.pc with
  | .sending => { l with pc := .receiving }
  | .sendingError => { l with pc := .finished }
  | _ => l

/-- The server takes a message in, if it listens, and its write ends. -/
def Service.take (service : Service) (l : LegacyConn) (message : WebSocketMessage) : LegacyConn :=
  match service.receive l message with
  | none => l
  | some l' => settled l'

/-- The server takes messages in one after the other. -/
def Service.takeAll (service : Service) (l : LegacyConn) (messages : List WebSocketMessage) :
    LegacyConn := messages.foldl service.take l

/-- One message more. -/
lemma takeAll_concat (service : Service) (l : LegacyConn) (messages : List WebSocketMessage)
    (message : WebSocketMessage) : service.takeAll l (messages ++ [message]) =
      service.take (service.takeAll l messages) message := by
  rw [Service.takeAll, List.foldl_append]
  rfl

/-- A write that ends adds no event. -/
@[simp] lemma sent_settled (l : LegacyConn) : (settled l).sent = l.sent := by
  unfold settled
  split <;> rfl

/-- A server that listens has no write to end. -/
lemma settled_of_receiving {l : LegacyConn} (h : l.pc = .receiving) : settled l = l := by
  unfold settled
  rw [h]

/-- A server that listens receives a message. -/
lemma receive_of_receiving {service : Service} {l : LegacyConn} (h : l.pc = .receiving)
    (message : WebSocketMessage) : service.receive l message = some
      (match receiveStreamEvent l.session message with
        | .error e => l.raise e
        | .ok payload => l.handle service.config (service.transcribe l) payload) := by
  simp only [Service.receive, LegacyConn.step, h]
  cases receiveStreamEvent l.session message <;> rfl

/-- A server that does not listen receives no message. -/
lemma receive_of_not_receiving {service : Service} {l : LegacyConn} (h : l.pc ≠ .receiving)
    (message : WebSocketMessage) : service.receive l message = none := by
  simp only [Service.receive, LegacyConn.step]

/-! ## The messages -/

/-- The messages of `transcribe_once`. -/
def startMessage (config : StreamConfig) : WebSocketMessage :=
  .text (.value (.obj config.asPayload))

/-- The message of `stop_stream`. -/
def stopMessage : WebSocketMessage := .text (.value (.obj [("type", .str "stop")]))

/-- The start message and the messages of some chunks. -/
def opening (config : StreamConfig) (chunks : List Bytes) : List WebSocketMessage :=
  startMessage config :: chunks.map (audioMessage config.sendBinaryFrames)

/-- All the messages of `transcribe_once`. -/
def script (config : StreamConfig) (chunks : List Bytes) : List WebSocketMessage :=
  opening config chunks ++ [stopMessage]

/-- One chunk more. -/
lemma opening_concat (config : StreamConfig) (chunks : List Bytes) (chunk : Bytes) :
    opening config (chunks ++ [chunk]) =
      opening config chunks ++ [audioMessage config.sendBinaryFrames chunk] := by
  simp [opening]

/-- The word of a start message. -/
lemma eventWord_asPayload (config : StreamConfig) : eventWord config.asPayload = "start" := by
  have hword : asciiLower (pyStrip "start") = "start" := by decide +kernel
  exact hword

/-- The word of an audio message. -/
lemma eventWord_audio (chunk : Bytes) : eventWord (audioPayload chunk) = "audio" := by
  have hword : asciiLower (pyStrip "audio") = "audio" := by decide +kernel
  exact hword

/-- The word of a stop message. -/
lemma eventWord_stop : eventWord [("type", .str "stop")] = "stop" := by decide +kernel

/-! ## The session of a configuration -/

/-- The window of a start message. -/
lemma getD_partialWindowSeconds (config : StreamConfig) :
    config.asPayload.getD "partial_window_seconds" .null =
      Json.ofOption PyNumber.toJson config.partialWindowSeconds := by
  obtain ⟨_, _, _, window, buffer, stable, cycles, _⟩ := config
  cases window <;> cases buffer <;> cases stable <;> cases cycles <;> rfl

/-- The buffer limit of a start message. -/
lemma getD_maxBufferSeconds (config : StreamConfig) :
    config.asPayload.getD "max_buffer_seconds" .null =
      Json.ofOption PyNumber.toJson config.maxBufferSeconds := by
  obtain ⟨_, _, _, window, buffer, stable, cycles, _⟩ := config
  cases window <;> cases buffer <;> cases stable <;> cases cycles <;> rfl

/-- A number of seconds that was checked is accepted. -/
lemma positiveSeconds_toJson {seconds : Option PyNumber}
    (h : ∀ n ∈ seconds, n.PositiveFinite) (name : String) :
    positiveSeconds name (Json.ofOption PyNumber.toJson seconds) =
      .ok (seconds.map PyNumber.toFloat) := by
  cases seconds with
  | none => rfl
  | some n =>
    have hn := h n rfl
    cases n with
    | int n =>
      obtain ⟨hpos, hfits⟩ := hn
      simp only [Json.ofOption, PyNumber.toJson, positiveSeconds, intToFloat, if_neg hfits,
        if_neg (not_le.mpr hpos)]
      rfl
    | float x =>
      simp only [Json.ofOption, PyNumber.toJson, positiveSeconds, hn.1]
      rfl
/-- **The session of a start message** has the values of the configuration; the server checks only
whether its limits in bytes can be computed. -/
lemma createStreamSession_asPayload (legacy : LegacyConfig) (config : StreamConfig) (streamId : ℕ) :
    createStreamSession legacy config.asPayload streamId = do
      let limited ← liftError .builtin (bytesWithin legacy.streamMaxBufferBytes
        (config.maxBufferSeconds.map PyNumber.toFloat) config.sampleRate)
      let maxBufferBytes := limited.getD legacy.streamMaxBufferBytes
      let window ← liftError .builtin (bytesWithin maxBufferBytes
        (config.partialWindowSeconds.map PyNumber.toFloat) config.sampleRate)
      return {
          streamId := streamId
          language := config.language
          sampleRate := config.sampleRate
          maxBufferBytes := maxBufferBytes
          partialIntervalChunks := config.partialIntervalChunks
          partialWindowSeconds := config.partialWindowSeconds.map PyNumber.toFloat
          maxBufferSeconds := config.maxBufferSeconds.map PyNumber.toFloat
          partialWindowBytes := window } := by
  unfold createStreamSession
  rw [getD_partialWindowSeconds, getD_maxBufferSeconds,
    positiveSeconds_toJson config.partialWindowSeconds_pos,
    positiveSeconds_toJson config.maxBufferSeconds_pos,
    show config.asPayload.getD "sample_rate" (.int legacy.sampleRate) =
      .int config.sampleRate from rfl,
    show config.asPayload.getD "partial_interval_chunks" (.int 1) =
      .int config.partialIntervalChunks from rfl]
  have hlanguage : startLanguage config.asPayload = some config.language := by
    unfold startLanguage
    rw [show config.asPayload.getD "language" (.str "en") =
      Json.ofOption .str config.language from rfl]
    cases config.language <;> rfl
  simp only [isPositiveInteger, if_pos config.sampleRate_pos,
    if_pos config.partialIntervalChunks_pos, hlanguage]
  rfl
/-- What a session has of its configuration. -/
lemma created_settings {legacy : LegacyConfig} {config : StreamConfig} {streamId : ℕ}
    {session : StreamSession}
    (h : createStreamSession legacy config.asPayload streamId = .ok session) :
    session.streamId = streamId ∧ session.language = config.language ∧
      session.sampleRate = config.sampleRate := by
  rw [createStreamSession_asPayload] at h
  simp only [Bind.bind, Except.bind] at h
  split at h
  · cases h
  · split at h
    · cases h
    · obtain rfl := Except.ok.inj h
      exact ⟨rfl, rfl, rfl⟩

/-! ## Sessions and events -/

/-- A session after some chunks. -/
def afterChunks (session : StreamSession) (chunks : List Bytes) : StreamSession :=
  { session with audioBuffer := chunks.flatten, chunksReceived := chunks.length }

/-- A session with another record of its last interim result. -/
def withRecord (session : StreamSession) (result : Option Transcript) (chunks ms : ℕ) :
    StreamSession :=
  { session with
    lastPartialResult := result
    lastPartialChunksReceived := chunks
    lastPartialAudioReceivedMs := ms }

/-- The interim event for some chunks, if one is due. -/
def interim (service : Service) (session : StreamSession) (chunks : List Bytes) :
    Option LegacyEvent :=
  let s := afterChunks session chunks
  if (chunks.length : ℤ) % session.partialIntervalChunks ≠ 0 then none
  else
    match s.decode service.transcriber s.partialAudioBytes with
    | .error _ => none
    | .ok result =>
      if result.strippedText = "" then none
      else some (.transcript "partial"
        (s.recordPartial result chunks.length s.audioReceivedMs) result)

/-- The interim events for some chunks, in order. -/
def interims (service : Service) (session : StreamSession) (chunks : List Bytes) :
    List LegacyEvent :=
  (List.range chunks.length).filterMap fun k => interim service session (chunks.take (k + 1))

/-- One chunk more. -/
lemma interims_concat (service : Service) (session : StreamSession) (chunks : List Bytes)
    (chunk : Bytes) :
    interims service session (chunks ++ [chunk]) =
      interims service session chunks ++ (interim service session (chunks ++ [chunk])).toList := by
  unfold interims
  rw [List.length_append, List.length_singleton, List.range_succ, List.filterMap_append]
  congr 1
  · refine List.filterMap_congr fun k hk => ?_
    rw [List.take_append_of_le_length (List.mem_range.mp hk)]
  · have htake : (chunks ++ [chunk]).take (chunks.length + 1) = chunks ++ [chunk] :=
      List.take_of_length_le (by simp)
    rw [List.filterMap_cons, List.filterMap_nil, htake]
    cases interim service session (chunks ++ [chunk]) <;> rfl

/-- The interim events for the first chunks come first. -/
lemma interims_append (service : Service) (session : StreamSession) (past rest : List Bytes) :
    interims service session past <+: interims service session (past ++ rest) := by
  induction rest using List.reverseRecOn with
  | nil => rw [List.append_nil]
  | append_singleton rest chunk ih =>
    rw [← List.append_assoc, interims_concat]
    exact ih.trans (List.prefix_append _ _)

/-- An interim event is one. -/
lemma eq_of_mem_interims {service : Service} {session : StreamSession} {chunks : List Bytes}
    {event : LegacyEvent} (h : event ∈ interims service session chunks) :
    ∃ s result, event = .transcript "partial" s result := by
  obtain ⟨k, -, hk⟩ := List.mem_filterMap.mp h
  simp only [interim] at hk
  split_ifs at hk
  split at hk
  · cases hk
  · split_ifs at hk
    exact ⟨_, _, (Option.some.inj hk).symm⟩

/-! ## The server on a stream -/

variable {service : Service} {config : StreamConfig} {base l : LegacyConn} {session : StreamSession}
  {binary : Bool} {chunks : List Bytes}

/-- One error event, or none. -/
def AtMostAnError (events : List LegacyEvent) : Prop :=
  events = [] ∨ ∃ message code, events = [.error message code]

/-- After an exception the server is finished, and has written an error event at most. -/
lemma settled_raise (l : LegacyConn) (e : Exn) :
    (settled (l.raise e)).pc = .finished ∧
      ∃ events, AtMostAnError events ∧ (settled (l.raise e)).sent = l.sent ++ events := by
  cases e with
  | disconnect => exact ⟨rfl, [], .inl rfl, (List.append_nil _).symm⟩
  | builtin error =>
    cases error with
    | valueError message => exact ⟨rfl, _, .inr ⟨message, 1003, rfl⟩, rfl⟩
    | _ => exact ⟨rfl, _, .inr ⟨"Unexpected streaming error", 1011, rfl⟩, rfl⟩
  | asrUnavailable message => exact ⟨rfl, _, .inr ⟨message, 1011, rfl⟩, rfl⟩
  | streamClient message code => exact ⟨rfl, _, .inr ⟨message, code, rfl⟩, rfl⟩
  | protocol error => exact ⟨rfl, _, .inr ⟨error.message, 1003, rfl⟩, rfl⟩

/-- Nothing is wrong with the chunks: they fit into the buffer, and without binary frames none of
them is empty. -/
structure Taken (session : StreamSession) (binary : Bool) (chunks : List Bytes) : Prop where
  nonempty : ∀ chunk ∈ chunks, binary = true ∨ chunk ≠ []
  fits : chunks.flatten.length ≤ session.maxBufferBytes

/-- The server streams: it listens, and has written the ready event and the interim events. -/
structure Streams (service : Service) (base : LegacyConn) (session : StreamSession) (binary : Bool)
    (chunks : List Bytes) (l : LegacyConn) : Prop where
  taken : Taken session binary chunks
  listens : l.pc = .receiving
  nextStreamId : l.nextStreamId = base.nextStreamId + 1
  active : ∃ result count ms,
    l.session = some (withRecord (afterChunks session chunks) result count ms) ∧
      (withRecord (afterChunks session chunks) result count ms).Cached service.transcriber
  sent : l.sent = base.sent ++ .ready session :: interims service session chunks

/-- The server failed after some of the interim events. -/
structure Failed (service : Service) (base : LegacyConn) (session : StreamSession)
    (chunks : List Bytes) (l : LegacyConn) : Prop where
  finished : l.pc = .finished
  sent : ∃ partials events, partials <+: interims service session chunks ∧ AtMostAnError events ∧
    l.sent = base.sent ++ .ready session :: partials ++ events

/-- The server has written the final event and listens for the next stream. -/
structure Ended (service : Service) (base : LegacyConn) (session : StreamSession) (binary : Bool)
    (chunks : List Bytes) (l : LegacyConn) : Prop where
  taken : Taken session binary chunks
  audio : chunks.flatten ≠ []
  listens : l.pc = .receiving
  nextStreamId : l.nextStreamId = base.nextStreamId + 1
  idle : l.session = none
  sent : ∃ s result last count ms, s = withRecord (afterChunks session chunks) last count ms ∧
    session.decode service.transcriber chunks.flatten = .ok result ∧
    l.sent = base.sent ++ .ready session :: interims service session chunks ++
      [.transcript "final" s result]

/-- Nothing is wrong with the chunks, and every transcription succeeds. -/
structure Accepts (service : Service) (session : StreamSession) (binary : Bool)
    (chunks : List Bytes) : Prop extends Taken session binary chunks where
  transcribes : ∀ audio, ∃ result, session.decode service.transcriber audio = .ok result
  rate : ∃ rate, intToFloat session.sampleRate = .ok rate

/-- Fewer chunks are accepted as well. -/
lemma Accepts.of_concat {chunk : Bytes}
    (h : Accepts service session binary (chunks ++ [chunk])) :
    Accepts service session binary chunks := by
  refine ⟨⟨fun c hc => h.nonempty c (List.mem_append_left _ hc), ?_⟩, h.transcribes, h.rate⟩
  have hfits := h.fits
  rw [List.flatten_append, List.length_append] at hfits
  omega

/-- A server that raised when it had written the events of some of the chunks. -/
lemma failed_of_raise {partials : List LegacyEvent}
    (hpartials : partials <+: interims service session chunks)
    (hsent : l.sent = base.sent ++ .ready session :: partials) (e : Exn) :
    Failed service base session chunks (settled (l.raise e)) := by
  obtain ⟨hpc, events, hevents, hraise⟩ := settled_raise l e
  exact ⟨hpc, partials, events, hpartials, hevents, by rw [hraise, hsent]⟩

/-- A server that failed takes no message in. -/
lemma Failed.take (h : Failed service base session chunks l) (message : WebSocketMessage) :
    service.take l message = l := by
  have hpc : l.pc ≠ .receiving := by
    rw [h.finished]
    decide
  rw [Service.take, receive_of_not_receiving hpc]

/-- The interim events of fewer chunks come first. -/
lemma Failed.concat (h : Failed service base session chunks l) (chunk : Bytes) :
    Failed service base session (chunks ++ [chunk]) l := by
  obtain ⟨partials, events, hpartials, hevents, hsent⟩ := h.sent
  exact ⟨h.finished, partials, events, hpartials.trans (interims_append ..), hevents, hsent⟩

/-- **The start message.**  The server refuses it, or it streams. -/
lemma take_start (hlistens : base.pc = .receiving) (hnone : base.session = none) :
    service.take base (startMessage config) =
      match createStreamSession service.config config.asPayload base.nextStreamId with
      | .error e => settled (base.raise e)
      | .ok s => { base with
          nextStreamId := base.nextStreamId + 1
          session := some s
          accepted := []
          sent := base.sent ++ [.ready s] } := by
  rw [Service.take, receive_of_receiving hlistens, startMessage]
  simp only [receiveStreamEvent, handle, eventWord_asPayload, if_true, hnone]
  cases createStreamSession service.config config.asPayload base.nextStreamId with
  | error e => rfl
  | ok s =>
    simp only [LegacyConn.write, settled]
    rw [hlistens]

/-- A chunk that is appended. -/
lemma appendAudio_afterChunks (session : StreamSession) (chunks : List Bytes) (chunk : Bytes)
    (result : Option Transcript) (count ms : ℕ) :
    (withRecord (afterChunks session chunks) result count ms).appendAudio chunk =
      if session.maxBufferBytes < (chunks ++ [chunk]).flatten.length then
        .error (.streamClient ("Stream buffer exceeded " ++ toString session.maxBufferBytes ++
          " bytes; send stop and start a new stream") 1009)
      else .ok (withRecord (afterChunks session (chunks ++ [chunk])) result count ms) := by
  simp [StreamSession.appendAudio, withRecord, afterChunks]

/-- An event is due, or not. -/
lemma interim_of_not_due
    (h : ((chunks.length : ℤ)) % session.partialIntervalChunks ≠ 0) :
    interim service session chunks = none := if_pos h

/-- The event that is due. -/
lemma interim_of_due (h : (chunks.length : ℤ) % session.partialIntervalChunks = 0)
    {result : Transcript}
    (hresult : session.decode service.transcriber (afterChunks session chunks).partialAudioBytes =
      .ok result) :
    interim service session chunks =
      if result.strippedText = "" then none
      else some (.transcript "partial" ((afterChunks session chunks).recordPartial result
        chunks.length (afterChunks session chunks).audioReceivedMs) result) := by
  unfold interim
  rw [if_neg (not_not.mpr h)]
  rw [show (afterChunks session chunks).decode service.transcriber
    (afterChunks session chunks).partialAudioBytes = _ from hresult]

/-- A server whose write ends goes on as it was. -/
lemma settled_of_writing (h : l.pc = .receiving ∨ l.pc = .sending) :
    settled l = { l with pc := .receiving } := by
  rcases h with h | h
  · rw [settled_of_receiving h, ← h]
  · unfold settled
    rw [h]

/-- The server streams on with one chunk more. -/
lemma Streams.concat (h : Streams service base session binary chunks l) {l' : LegacyConn}
    {chunk : Bytes}
    (htaken : Taken session binary (chunks ++ [chunk]))
    (hpc : l'.pc = .receiving ∨ l'.pc = .sending) (hid : l'.nextStreamId = l.nextStreamId)
    (hactive : ∃ result count ms,
      l'.session = some (withRecord (afterChunks session (chunks ++ [chunk])) result count ms) ∧
        (withRecord (afterChunks session (chunks ++ [chunk])) result count ms).Cached
          service.transcriber)
    (hsent : l'.sent = l.sent ++ (interim service session (chunks ++ [chunk])).toList) :
    Streams service base session binary (chunks ++ [chunk]) (settled l') := by
  rw [settled_of_writing hpc]
  refine ⟨htaken, rfl, hid.trans h.nextStreamId, hactive, ?_⟩
  rw [interims_concat]
  simpa [h.sent] using hsent

/-- A recorded interim result is the transcription of the audio it was decoded from. -/
lemma recordCurrentPartial_withRecord (session : StreamSession) (chunks : List Bytes)
    (last : Option Transcript) (count ms : ℕ) (result : Transcript) :
    (withRecord (afterChunks session chunks) last count ms).recordCurrentPartial result =
      (intToFloat session.sampleRate).map fun _ =>
        withRecord (afterChunks session chunks) (some result) chunks.length
          (afterChunks session chunks).audioReceivedMs := rfl

/-- **A chunk.**  The server that streams goes on with one chunk more, unless something is wrong. -/
lemma settled_audio (h : Streams service base session binary chunks l) {chunk : Bytes}
    (hchunk : binary = true ∨ chunk ≠ []) {s : StreamSession} (hs : l.session = some s) :
    Streams service base session binary (chunks ++ [chunk])
        (settled (l.audio (service.transcribe l) s chunk)) ∨
      Failed service base session (chunks ++ [chunk])
          (settled (l.audio (service.transcribe l) s chunk)) ∧
        ¬ Accepts service session binary (chunks ++ [chunk]) := by
  obtain ⟨last, count, ms, hactive, hcached⟩ := h.active
  obtain rfl := Option.some.inj (hs.symm.trans hactive)
  have htranscribe : ∀ audio, service.transcribe l audio =
      session.decode service.transcriber audio := by
    intro audio
    rw [Service.transcribe, hs]
    rfl
  have hfirst := interims_append service session chunks [chunk]
  have happend := appendAudio_afterChunks session chunks chunk last count ms
  unfold LegacyConn.audio
  split_ifs at happend with hover
  · rw [happend]
    exact .inr ⟨failed_of_raise hfirst h.sent _, fun haccepts =>
      absurd haccepts.fits (by omega)⟩
  have htaken : Taken session binary (chunks ++ [chunk]) := by
    refine ⟨fun c hc => ?_, not_lt.mp hover⟩
    rcases List.mem_append.mp hc with hc | hc
    · exact h.taken.nonempty c hc
    · rwa [List.mem_singleton.mp hc]
  have hcached' := hcached.appendAudio happend
  rw [happend]
  dsimp only
  split_ifs with hdue
  · -- no transcription is due
    refine .inl (h.concat htaken (.inl h.listens) rfl ⟨last, count, ms, rfl, hcached'⟩ ?_)
    have hdue' : ((chunks ++ [chunk]).length : ℤ) % session.partialIntervalChunks ≠ 0 := hdue
    rw [interim_of_not_due hdue']
    exact (List.append_nil _).symm
  have hdue' : ((chunks ++ [chunk]).length : ℤ) % session.partialIntervalChunks = 0 :=
    not_not.mp hdue
  rw [htranscribe]
  cases hresult : session.decode service.transcriber (withRecord (afterChunks session
      (chunks ++ [chunk])) last count ms).partialAudioBytes with
  | error e =>
    refine .inr ⟨failed_of_raise hfirst ?_ e, fun haccepts => ?_⟩
    · exact h.sent
    obtain ⟨result, hok⟩ := haccepts.transcribes (withRecord (afterChunks session
      (chunks ++ [chunk])) last count ms).partialAudioBytes
    rw [hresult] at hok
    cases hok
  | ok result =>
    have hinterim := interim_of_due hdue' hresult
    dsimp only
    cases hrecord : (withRecord (afterChunks session (chunks ++ [chunk])) last count
        ms).recordCurrentPartial result with
    | error e =>
      refine .inr ⟨failed_of_raise hfirst ?_ _, fun haccepts => ?_⟩
      · exact h.sent
      obtain ⟨rate, hrate⟩ := haccepts.rate
      rw [recordCurrentPartial_withRecord, hrate] at hrecord
      cases hrecord
    | ok s =>
      have hcurrent := (StreamSession.cached_recordCurrentPartial hresult hrecord).2
      obtain rfl : s = withRecord (afterChunks session (chunks ++ [chunk])) (some result)
          (chunks ++ [chunk]).length (afterChunks session (chunks ++ [chunk])).audioReceivedMs := by
        rw [recordCurrentPartial_withRecord] at hrecord
        cases hrate : intToFloat session.sampleRate with
        | error e =>
          rw [hrate] at hrecord
          cases hrecord
        | ok rate =>
          rw [hrate] at hrecord
          exact (Except.ok.inj hrecord).symm
      dsimp only
      split_ifs with htext
      · refine .inl (h.concat htaken (.inl h.listens) rfl ⟨_, _, _, rfl, hcurrent⟩ ?_)
        rw [hinterim, if_pos htext]
        exact (List.append_nil _).symm
      · refine .inl (h.concat htaken (.inr rfl) rfl ⟨_, _, _, rfl, hcurrent⟩ ?_)
        rw [hinterim, if_neg htext]
        rfl

/-- The message of a chunk. -/
lemma take_audio (h : Streams service base session binary chunks l) (chunk : Bytes) :
    Streams service base session binary (chunks ++ [chunk])
        (service.take l (audioMessage binary chunk)) ∨
      Failed service base session (chunks ++ [chunk])
          (service.take l (audioMessage binary chunk)) ∧
        ¬ Accepts service session binary (chunks ++ [chunk]) := by
  obtain ⟨last, count, ms, hs, -⟩ := h.active
  rw [Service.take, receive_of_receiving h.listens]
  cases binary with
  | true =>
    simp only [audioMessage, if_true, receiveStreamEvent, hs, handle]
    exact settled_audio h (.inl rfl) hs
  | false =>
    have hword : ("audio" : String) ≠ "start" := by decide
    simp only [audioMessage, Bool.false_eq_true, if_false, receiveStreamEvent, handle,
      eventWord_audio, hword, if_true, hs, decodeWebsocketAudio_audio]
    split_ifs with hempty
    · refine .inr ⟨failed_of_raise (interims_append ..) h.sent _, fun haccepts => ?_⟩
      have hnonempty := haccepts.nonempty chunk (by simp)
      simp [hempty] at hnonempty
    · exact settled_audio h (.inr hempty) hs

/-- **The stop message.**  The server writes the final event, the transcription of all the chunks.
-/
lemma take_stop (h : Streams service base session binary chunks l) :
    Ended service base session binary chunks (service.take l stopMessage) ∨
      Failed service base session chunks (service.take l stopMessage) ∧
        ¬ (Accepts service session binary chunks ∧ chunks.flatten ≠ []) := by
  obtain ⟨last, count, ms, hs, hcached⟩ := h.active
  have hstart : ("stop" : String) ≠ "start" := by decide
  have haudio : ("stop" : String) ≠ "audio" := by decide
  rw [Service.take, receive_of_receiving h.listens, stopMessage]
  simp only [receiveStreamEvent, handle, eventWord_stop, hstart, haudio, if_false, if_true, hs,
    LegacyConn.stop]
  by_cases hempty : (withRecord (afterChunks session chunks) last count ms).audioBuffer = []
  · rw [if_pos hempty]
    refine .inr ⟨failed_of_raise (List.prefix_refl _) h.sent _, fun hall => hall.2 hempty⟩
  · rw [if_neg hempty]
    have htranscribe : service.transcribe l =
        session.decode service.transcriber := by
      funext audio
      rw [Service.transcribe, hs]
      rfl
    have hresolve : ∀ result, resolveFinalResult (service.transcribe l)
        (withRecord (afterChunks session chunks) last count ms) = .ok result →
        session.decode service.transcriber chunks.flatten = .ok result := by
      intro result hresult
      unfold resolveFinalResult at hresult
      split at hresult
      · next reused hreuse =>
        obtain rfl := Except.ok.inj hresult
        exact hcached.decode_eq hreuse
      · rw [htranscribe] at hresult
        exact hresult
    cases hresult : resolveFinalResult (service.transcribe l)
        (withRecord (afterChunks session chunks) last count ms) with
    | error e =>
      refine .inr ⟨failed_of_raise (List.prefix_refl _) h.sent e, fun hall => ?_⟩
      obtain ⟨result, hok⟩ := hall.1.transcribes chunks.flatten
      unfold resolveFinalResult at hresult
      split at hresult
      · cases hresult
      · rw [htranscribe] at hresult
        cases hresult.symm.trans hok
    | ok result =>
      left
      dsimp only
      rw [settled_of_writing (.inr rfl)]
      refine ⟨h.taken, hempty, rfl, ?_, rfl, _, result, last, count, ms, rfl,
        hresolve result hresult, ?_⟩
      · split_ifs <;> exact h.nextStreamId
      · split_ifs
        · simp [LegacyConn.write, h.sent]
        · simp [LegacyConn.write, LegacyConn.transcribed, h.sent]

/-- **The opening.**  The server streams after the start message and the chunks, or it failed. -/
lemma takeAll_opening (hlistens : base.pc = .receiving) (hnone : base.session = none)
    (hcreated : createStreamSession service.config config.asPayload base.nextStreamId =
      .ok session) (chunks : List Bytes) :
    Streams service base session config.sendBinaryFrames chunks
        (service.takeAll base (opening config chunks)) ∨
      Failed service base session chunks (service.takeAll base (opening config chunks)) ∧
        ¬ Accepts service session config.sendBinaryFrames chunks := by
  induction chunks using List.reverseRecOn with
  | nil =>
    have hnew : session = withRecord (afterChunks session []) none 0
        session.lastPartialAudioReceivedMs := by
      obtain ⟨_, _, _, _, _, _, _, -, -, rfl⟩ := createStreamSession_eq_ok hcreated
      rfl
    left
    rw [opening, List.map_nil, Service.takeAll, List.foldl_cons, List.foldl_nil,
      take_start hlistens hnone, hcreated]
    refine ⟨⟨by simp, by simp⟩, hlistens, rfl,
      ⟨none, 0, session.lastPartialAudioReceivedMs, ?_, ?_⟩, rfl⟩
    · exact congrArg some hnew
    · exact ⟨le_rfl, fun _ _ result hresult => by cases hresult⟩
  | append_singleton chunks chunk ih =>
    rw [opening_concat, takeAll_concat]
    rcases ih with hstreams | ⟨hfailed, hrefused⟩
    · exact take_audio hstreams chunk
    · refine .inr ⟨?_, fun haccepts => hrefused haccepts.of_concat⟩
      rw [hfailed.take]
      exact hfailed.concat chunk

/-- **The script.**  After the stop message the server has written the final event, or it failed. -/
lemma takeAll_script (hlistens : base.pc = .receiving) (hnone : base.session = none)
    (hcreated : createStreamSession service.config config.asPayload base.nextStreamId =
      .ok session) (chunks : List Bytes) :
    Ended service base session config.sendBinaryFrames chunks
        (service.takeAll base (script config chunks)) ∨
      Failed service base session chunks (service.takeAll base (script config chunks)) ∧
        ¬ (Accepts service session config.sendBinaryFrames chunks ∧ chunks.flatten ≠ []) := by
  rw [script, takeAll_concat]
  rcases takeAll_opening hlistens hnone hcreated chunks with hstreams | ⟨hfailed, hrefused⟩
  · exact take_stop hstreams
  · refine .inr ⟨?_, fun hall => hrefused hall.1⟩
    rw [hfailed.take]
    exact hfailed

end RtcAsr.Streaming
