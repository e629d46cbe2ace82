import RtcAsr.Client.StreamingProgress

/-!
# The HTTP routes

`/api/transcribe` and `/api/stream` of `src/main.py` transcribe what a request carries as base64
text. `http_stream_agrees` compares `/api/stream` with a stream on `/ws/stream`: the response to the
chunks of a request is the final event a client gets for the same chunks, field by field.
-/

namespace RtcAsr.Streaming

/-! ## Requests and responses -/

/-- `HTTPException`. -/
structure HttpError where
  statusCode : ℕ
  detail : String

/-- `not value` on an optional string. -/
def missing (value : Option String) : Bool := value.getD "" == ""

/-- `StreamTranscribeRequest`, with the check of its validator and the bound of its sample rate. -/
structure StreamTranscribeRequest where
  audioChunks : List String := []
  audioData : Option String := none
  audio : Option String := none
  language : Option String := some "en"
  sampleRate : Option ℤ := some 16000
  sampleRate_pos : ∀ rate ∈ sampleRate, 1 ≤ rate := by decide
  hasAudio : audioChunks = [] → missing audioData = true → missing audio = false

/-- `self.audio_data or self.audio or ""`. -/
def encodedAudio (audioData audio : Option String) : String :=
  if missing audioData then audio.getD "" else audioData.getD ""

/-- A service with its transcriber, which takes the sample rate as the request has it. -/
structure HttpService where
  config : LegacyConfig := {}
  names : BackendNames
  transcribe : Bytes → Option String → Option ℤ → Except Exn Transcript

/-- The service as the streams use it. -/
def HttpService.streaming (http : HttpService) : Service where
  config := http.config
  names := http.names
  transcriber := fun audio language sampleRate => http.transcribe audio language (some sampleRate)

/-! ## The routes -/

/-- `_decode_base64_audio`. -/
def decodeBase64Audio (encoded : String) : Except HttpError Bytes :=
  match b64decode encoded with
  | none => .error ⟨400, "audio_data must be valid base64-encoded audio bytes"⟩
  | some audio => .ok audio

/-- The error about the chunk with an index. -/
def chunkError (index : ℕ) (requirement : String) : HttpError :=
  ⟨400, "audio_chunks[" ++ toString index ++ "] " ++ requirement⟩

/-- A chunk of `_decode_http_stream_chunks`, with its index. -/
def decodeHttpChunk (index : ℕ) (encoded : String) : Except HttpError Bytes :=
  if encoded = "" then .error (chunkError index "must be a non-empty base64 string")
  else
    match b64decode encoded with
    | none => .error (chunkError index "must be valid base64-encoded audio bytes")
    | some [] => .error (chunkError index "must decode to non-empty audio bytes")
    | some chunk => .ok chunk

/-- The loop of `_decode_http_stream_chunks`, from the chunk with the given index on. -/
def decodeHttpChunks : ℕ → List String → Except HttpError (List Bytes)
  | _, [] => .ok []
  | index, encoded :: rest => do
    let chunk ← decodeHttpChunk index encoded
    let chunks ← decodeHttpChunks (index + 1) rest
    return chunk :: chunks

/-- `_decode_http_stream_chunks`. -/
def decodeHttpStreamChunks (request : StreamTranscribeRequest) : Except HttpError (List Bytes) :=
  decodeHttpChunks 0 (if request.audioChunks = [] then
    [encodedAudio request.audioData request.audio] else request.audioChunks)

/-- `_transcribe_bytes`, with what it makes of the services. -/
def transcribeBytes (http : HttpService) (services : Services) (audio : Bytes)
    (language : Option String) (sampleRate : Option ℤ) : Services × Except HttpError Transcript :=
  match http.transcribe audio language sampleRate with
  | .ok result => ({ preloadError := none, loaded := true }, .ok result)
  | .error (.asrUnavailable message) =>
    ({ services with preloadError := some message }, .error ⟨503, message⟩)
  | .error (.streamClient message _) => (services, .error ⟨400, message⟩)
  | .error (.protocol error) => (services, .error ⟨400, error.message⟩)
  | .error (.builtin (.valueError message)) => (services, .error ⟨400, message⟩)
  | .error e => (Conn.recordLazyLoadFailure services e, .error ⟨500, Conn.exnText e⟩)

/-- `transcribe_audio`. -/
def transcribeAudio (http : HttpService) (services : Services) (audioData audio : Option String)
    (language : Option String) (sampleRate : Option ℤ) : Services × Except HttpError Dict :=
  match decodeBase64Audio (encodedAudio audioData audio) with
  | .error e => (services, .error e)
  | .ok bytes =>
    let (services, result) := transcribeBytes http services bytes language sampleRate
    (services, result.map Transcript.entries)

/-- `stream_transcribe`. -/
def streamTranscribe (http : HttpService) (services : Services)
    (request : StreamTranscribeRequest) :
    Services × Except HttpError Dict :=
  match decodeHttpStreamChunks request with
  | .error e => (services, .error e)
  | .ok chunks =>
    let bufferedBytes := (chunks.map List.length).sum
    if http.config.streamMaxBufferBytes < bufferedBytes then
      (services, .error ⟨413, "Stream buffer exceeded " ++
        toString http.config.streamMaxBufferBytes ++
        " bytes; send a smaller request or use /ws/stream"⟩)
    else
      let (services, result) :=
        transcribeBytes http services chunks.flatten request.language request.sampleRate
      (services, result.map fun transcript =>
        mergeDict
          [("type", .str "final"), ("stream_id", .int 1), ("is_final", .bool true),
            ("chunks_received", .int chunks.length), ("buffered_bytes", .int bufferedBytes),
            ("remaining_buffer_bytes",
              .int ((http.config.streamMaxBufferBytes : ℤ) - bufferedBytes))]
          (Transcript.entries transcript))

/-! ## The chunks of a request -/

/-- The text of a chunk is decoded, unless it is empty. -/
lemma decodeHttpChunk_b64encode (index : ℕ) (chunk : Bytes) :
    decodeHttpChunk index (b64encode chunk) =
      if chunk = [] then .error (chunkError index "must be a non-empty base64 string")
      else .ok chunk := by
  unfold decodeHttpChunk
  by_cases hempty : chunk = []
  · rw [if_pos (b64encode_eq_empty.mpr hempty), if_pos hempty]
  · rw [if_neg fun h => hempty (b64encode_eq_empty.mp h), if_neg hempty, b64decode_b64encode]
    obtain ⟨byte, bytes, rfl⟩ := List.exists_cons_of_ne_nil hempty
    rfl

/-- The texts of some chunks are decoded, if none of them is empty; else the first empty one is
reported. -/
lemma decodeHttpChunks_b64encode (index : ℕ) (chunks : List Bytes) :
    decodeHttpChunks index (chunks.map b64encode) =
      match chunks.findIdx? (· = []) with
      | none => .ok chunks
      | some i => .error (chunkError (index + i) "must be a non-empty base64 string") := by
  induction chunks generalizing index with
  | nil => rfl
  | cons chunk chunks ih =>
    rw [List.map_cons, decodeHttpChunks, decodeHttpChunk_b64encode, List.findIdx?_cons, ih]
    by_cases hempty : chunk = []
    · rw [if_pos hempty]
      simp only [hempty, decide_true, if_true]
      rfl
    · rw [if_neg hempty]
      simp only [hempty, decide_false, Bool.false_eq_true, if_false]
      cases hfind : chunks.findIdx? (· = []) with
      | none => rfl
      | some i =>
        rw [Option.map_some]
        dsimp only
        rw [show index + (i + 1) = index + 1 + i by omega]
        rfl

/-- The buffered bytes are those of the chunks. -/
lemma sum_length (chunks : List Bytes) : (chunks.map List.length).sum = chunks.flatten.length :=
  List.length_flatten.symm

/-! ## The same chunks on a stream -/

/-- The request with the chunks and the settings of a stream. -/
def requestFor (config : StreamConfig) (chunks : List Bytes) (h : chunks ≠ []) :
    StreamTranscribeRequest where
  audioChunks := chunks.map b64encode
  language := config.language
  sampleRate := some config.sampleRate
  sampleRate_pos := by
    rintro rate ⟨⟩
    exact config.sampleRate_pos
  hasAudio := fun hnone => absurd (List.map_eq_nil_iff.mp hnone) h

variable {http : HttpService} {config : StreamConfig} {chunks : List Bytes}

/-- The session of a stream without a limit of its own. -/
lemma maxBufferBytes_of_created {session : StreamSession} {streamId : ℕ}
    (h : createStreamSession http.config config.asPayload streamId = .ok session)
    (hlimit : config.maxBufferSeconds = none) :
    session.maxBufferBytes = http.config.streamMaxBufferBytes := by
  rw [createStreamSession_asPayload, hlimit] at h
  simp only [Option.map_none, bytesWithin, liftError, Bind.bind, Except.bind, Option.getD_none] at h
  split at h
  · cases h
  · obtain rfl := Except.ok.inj h
    rfl

/-- **What the route answers** to the chunks of a stream: an error about the first empty chunk, an
error about their size, or what the transcription of all of them gives. -/
lemma streamTranscribe_requestFor (services : Services) (hne : chunks ≠ []) :
    streamTranscribe http services (requestFor config chunks hne) =
      match chunks.findIdx? (· = []) with
      | some i => (services, .error (chunkError i "must be a non-empty base64 string"))
      | none =>
        if http.config.streamMaxBufferBytes < chunks.flatten.length then
          (services, .error ⟨413, "Stream buffer exceeded " ++
            toString http.config.streamMaxBufferBytes ++
            " bytes; send a smaller request or use /ws/stream"⟩)
        else
          let (services, result) :=
            transcribeBytes http services chunks.flatten config.language (some config.sampleRate)
          (services, result.map fun transcript =>
            mergeDict
              [("type", .str "final"), ("stream_id", .int 1), ("is_final", .bool true),
                ("chunks_received", .int chunks.length),
                ("buffered_bytes", .int chunks.flatten.length),
                ("remaining_buffer_bytes",
                  .int ((http.config.streamMaxBufferBytes : ℤ) - chunks.flatten.length))]
              (Transcript.entries transcript)) := by
  have hmap : chunks.map b64encode ≠ [] := fun h => hne (List.map_eq_nil_iff.mp h)
  unfold streamTranscribe decodeHttpStreamChunks
  rw [show (requestFor config chunks hne).audioChunks = chunks.map b64encode from rfl,
    if_neg hmap, decodeHttpChunks_b64encode]
  cases hfind : chunks.findIdx? (· = []) with
  | some i => simp only [Nat.zero_add]
  | none =>
    simp only [sum_length]
    rfl

/-- The final event is the answer of the route. -/
lemma raw_of_final {results : List TranscriptEvent}
    (h : Transcribed http.streaming 1 config chunks results)
    (hbinary : config.sendBinaryFrames = false) (hlimit : config.maxBufferSeconds = none)
    (hne : chunks ≠ []) (hfinal : ∃ event ∈ results, event.isFinal = true) (services : Services) :
    ∃ last, results.getLast? = some last ∧ last.isFinal = true ∧
      (streamTranscribe http services (requestFor config chunks hne)).2 = .ok last.raw := by
  obtain ⟨session, partials, last, hcreated, rfl, hpartials, hlast⟩ := h.events
  refine ⟨last, List.getLast?_concat .., ?_⟩
  rcases hlast with ⟨-, hnot⟩ | ⟨result, htaken, -, hresult, rfl⟩
  · -- no event is final
    obtain ⟨event, hevent, hfinal⟩ := hfinal
    rcases List.mem_append.mp hevent with hfirst | hevent
    · rcases List.mem_cons.mp hfirst with rfl | hpartial
      · rw [isFinal_ready] at hfinal
        cases hfinal
      · rw [isFinal_interim (hpartials.mem hpartial)] at hfinal
        cases hfinal
    · rw [List.mem_singleton.mp hevent, hnot] at hfinal
      cases hfinal
  · have hmax := maxBufferBytes_of_created hcreated hlimit
    have hfits := htaken.fits
    have hnone : chunks.findIdx? (· = []) = none := by
      rw [List.findIdx?_eq_none_iff]
      intro chunk hchunk
      have hchunk' := (htaken.nonempty chunk hchunk).resolve_left (by rw [hbinary]; decide)
      exact decide_eq_false hchunk'
    obtain ⟨hid, -, -⟩ := created_settings hcreated
    refine ⟨isFinal_finalEvent .., ?_⟩
    rw [streamTranscribe_requestFor, hnone]
    dsimp only
    rw [if_neg (by omega), transcribeBytes, show http.transcribe chunks.flatten config.language
      (some config.sampleRate) = .ok result from hresult]
    simp only [Except.map, finalEvent, TranscriptEvent.fromPayload, streamEvent, positionEntries,
      afterChunks, hid, hmax]
    rfl

/-- What is right with the chunks when the route answers. -/
lemma taken_of_response {services : Services} {hne : chunks ≠ []} {response : Dict}
    (h : (streamTranscribe http services (requestFor config chunks hne)).2 = .ok response) :
    (∀ chunk ∈ chunks, chunk ≠ []) ∧
      chunks.flatten.length ≤ http.config.streamMaxBufferBytes := by
  rw [streamTranscribe_requestFor] at h
  cases hfind : chunks.findIdx? (· = []) with
  | some i =>
    rw [hfind] at h
    cases h
  | none =>
    rw [hfind] at h
    dsimp only at h
    split_ifs at h with hover
    refine ⟨fun chunk hchunk => ?_, not_lt.mp hover⟩
    exact of_decide_eq_false (List.findIdx?_eq_none_iff.mp hfind chunk hchunk)

/-- **A request and a stream agree.**  If a stream without binary frames and without a limit of its
own ends with a final event, the route answers to the same chunks with what this event carries.  And
if the route answers, and no transcription fails, the stream ends with this answer on every fair
schedule without a loss of the connection. -/
theorem http_stream_agrees (http : HttpService) (services : Services) {config : StreamConfig}
    (hbinary : config.sendBinaryFrames = false) (hlimit : config.maxBufferSeconds = none)
    {chunks : List Bytes} (hne : chunks ≠ []) :
    (∀ turns rest results t,
      transcribeOnce http.streaming config chunks {} turns = .done results t rest →
      (∃ event ∈ results, event.isFinal = true) →
        ∃ last, results.getLast? = some last ∧
          (streamTranscribe http services (requestFor config chunks hne)).2 = .ok last.raw) ∧
    ((∀ audio, ∃ result,
        http.transcribe audio config.language (some config.sampleRate) = .ok result) →
      (∃ rate, intToFloat config.sampleRate = .ok rate) →
      (∃ session, createStreamSession http.config config.asPayload 1 = .ok session) →
      ∀ response,
        (streamTranscribe http services (requestFor config chunks hne)).2 = .ok response →
        ∀ schedule, Routine.Fair Turn.Regular Turn.Regular schedule →
          ∃ n results t last, transcribeOnce http.streaming config chunks {}
              (Routine.firstTurns schedule n) = .done results t [] ∧
            results.getLast? = some last ∧ last.isFinal = true ∧ last.raw = response) := by
  have hfresh : ({} : Link).Fresh {} := ⟨rfl, rfl, rfl, rfl, rfl⟩
  constructor
  · intro turns rest results t hrun hfinal
    have hends : Routine.Meets _ (transcribeOnce http.streaming config chunks {} turns) :=
      ensures_transcribed hfresh config chunks turns
    rw [hrun] at hends
    obtain ⟨last, hlast, -, hraw⟩ := raw_of_final hends.1 hbinary hlimit hne hfinal services
    exact ⟨last, hlast, hraw⟩
  · rintro htranscribes ⟨rate, hrate⟩ ⟨session, hcreated⟩ response hresponse schedule hfair
    have hmax := maxBufferBytes_of_created hcreated hlimit
    obtain ⟨-, hlanguage, hsampleRate⟩ := created_settings hcreated
    obtain ⟨hnonempty, hfits⟩ := taken_of_response hresponse
    have hwell : GoesWell http.streaming {} session config chunks := by
      refine ⟨rfl, rfl, hcreated, ⟨⟨fun chunk hchunk => .inr (hnonempty chunk hchunk), ?_⟩, ?_, ?_⟩,
        ?_⟩
      · rw [hmax]
        exact hfits
      · intro audio
        rw [StreamSession.decode, hlanguage, hsampleRate]
        exact htranscribes audio
      · rw [hsampleRate]
        exact ⟨rate, hrate⟩
      · obtain ⟨chunk, rest, rfl⟩ := List.exists_cons_of_ne_nil hne
        rw [List.flatten_cons]
        exact List.append_ne_nil_of_left_ne_nil (hnonempty chunk (List.mem_cons_self ..)) _
    obtain ⟨n, results, t, hafter, hfinal, hresults⟩ :=
      ((returns_transcribeOnce hwell hfresh.at).ensures
        (ensures_transcribed hfresh config chunks)) schedule hfair
    obtain ⟨last, hlast, hlastFinal, hraw⟩ :=
      raw_of_final hresults.1 hbinary hlimit hne hfinal services
    have hrun := hafter []
    rw [List.append_nil] at hrun
    exact ⟨n, results, t, last, hrun, hlast, hlastFinal, Except.ok.inj (hraw.symm.trans hresponse)⟩

/-- A service that tells how many bytes it was given. -/
def exampleHttp : HttpService :=
  { names := { backendName := "count", modelName := "bytes" }
    transcribe := fun audio _ _ => countBytes audio none 16000 }

/-- Two chunks in a request and on a stream. -/
theorem http_stream_agrees_twoChunks : ∃ response n results t last,
    (streamTranscribe exampleHttp {} (requestFor {} [[1, 0], [2, 0]] (by decide))).2 =
      .ok response ∧
    transcribeOnce exampleHttp.streaming {} [[1, 0], [2, 0]] {}
      (Routine.firstTurns roundRobin n) = .done results t [] ∧
    results.getLast? = some last ∧ last.isFinal = true ∧ last.raw = response := by
  have hrate : ∃ rate, intToFloat 16000 = .ok rate := ⟨16000, by decide +kernel⟩
  have hcreated : ∃ session, createStreamSession exampleHttp.config
      ({} : StreamConfig).asPayload 1 = .ok session := by
    rw [createStreamSession_asPayload]
    exact ⟨_, rfl⟩
  have hanswers : (streamTranscribe exampleHttp {}
      (requestFor {} [[1, 0], [2, 0]] (by decide))).2.toBool = true := by
    decide +kernel
  cases hresponse : (streamTranscribe exampleHttp {}
      (requestFor {} [[1, 0], [2, 0]] (by decide))).2 with
  | error e =>
    rw [hresponse] at hanswers
    cases hanswers
  | ok response =>
    have hne : ([[1, 0], [2, 0]] : List Bytes) ≠ [] := by decide
    have htranscribes : ∀ audio, ∃ result,
        exampleHttp.transcribe audio (some "en") (some 16000) = .ok result :=
      fun audio => ⟨{ text := .other (toString audio.length) }, rfl⟩
    have hagrees := @http_stream_agrees exampleHttp {} {} rfl rfl _ hne
    obtain ⟨n, results, t, last, hrun⟩ :=
      hagrees.2 htranscribes hrate hcreated response hresponse roundRobin fair_roundRobin
    exact ⟨response, n, results, t, last, rfl, hrun⟩

end RtcAsr.Streaming
