import RtcAsr.Server.Start

/-!
# Stream sessions

`StreamSession` of `src/main.py` and the functions that read and write it: the audio buffer with
its limit, the record of the last interim result, the trailing window, the stability count and the
transcript event.
-/

namespace RtcAsr

/-! ## Transcripts -/

/-- The `text` entry of a transcript dictionary; a value that is no string is kept as its
rendering. -/
inductive TextField
  | missing
  | str (s : String)
  | other (rendered : String)
  deriving DecidableEq, Repr

/-- `str(transcript.get("text", ""))`. -/
def TextField.pyStr : TextField → String
  | .missing => ""
  | .str s => s
  | .other rendered => rendered

/-- The dictionary a decoder returns: the entries the service reads, those it tests to be strings
being present only when they are. -/
structure Transcript where
  text : TextField
  language : Option String := none
  backend : Option String := none
  model : Option String := none
  deriving DecidableEq, Repr

/-- `str(transcript.get("text", "")).strip()`. -/
def Transcript.strippedText (t : Transcript) : String := pyStrip t.text.pyStr

/-! ## The session -/

/-- `StreamSession.decoder_mode`. -/
inductive DecoderMode
  | rollingWindow
  | stateful
  deriving DecidableEq, Repr

/-- `StreamSession`. -/
structure StreamSession where
  streamId : ℕ
  language : Option String
  sampleRate : ℤ
  maxBufferBytes : ℕ
  partialIntervalChunks : ℤ := 1
  partialIntervalAudioMs : Option ℤ := none
  partialWindowSeconds : Option PyFloat := none
  maxBufferSeconds : Option PyFloat := none
  partialWindowBytes : Option ℕ := none
  interimResults : Bool := true
  finalizeOnStablePartial : Bool := false
  stablePartialCycles : ℤ := DEFAULT_STABLE_PARTIAL_CYCLES
  clientStreamId : Option String := none
  clientMetadata : Dict := []
  decoderMode : DecoderMode := .rollingWindow
  audioBuffer : Bytes := []
  chunksReceived : ℕ := 0
  lastPartialChunksReceived : ℕ := 0
  lastPartialAudioReceivedMs : ℕ := 0
  lastPartialResult : Option Transcript := none
  stablePartialText : Option String := none
  stablePartialCount : ℕ := 0
  transcriptRevision : ℕ := 0

/-- `_audio_bytes_to_duration_ms`.  The quotient is a multiple of 1/32 at the hot-path sample rate,
so the float arithmetic is exact there. -/
def audioBytesToDurationMs (byteCount : ℕ) (sampleRate : ℤ) : ℕ :=
  if sampleRate < 1 then 0 else Binary64.divHalfEven (byteCount * 500) sampleRate.toNat

/-- `_seconds_to_buffer_bytes`. -/
def secondsToBufferBytes (seconds : PyFloat) (sampleRate : ℤ) : Except PyError ℕ := do
  let rate ← intToFloat sampleRate
  let samples ← (seconds.mulPos rate).toIntRound
  return (max 1 samples).toNat * 2

/-- `audio_buffer[-window:]`; the slice from `-0` is the whole buffer. -/
def trailingBytes (window : ℕ) (buffer : Bytes) : Bytes :=
  if window = 0 then buffer else buffer.drop (buffer.length - window)

namespace StreamSession

/-- `StreamSession.append_audio`. -/
def appendAudio (s : StreamSession) (chunk : Bytes) : Except Exn StreamSession :=
  if s.maxBufferBytes < s.audioBuffer.length + chunk.length then
    .error (.streamClient ("Stream buffer exceeded " ++ toString s.maxBufferBytes ++
      " bytes; send stop and start a new stream") 1009)
  else
    .ok { s with audioBuffer := s.audioBuffer ++ chunk, chunksReceived := s.chunksReceived + 1 }

/-- `StreamSession.record_partial` with both positions given. -/
def recordPartial (s : StreamSession) (transcript : Transcript)
    (chunksReceived audioReceivedMs : ℕ) : StreamSession :=
  { s with
    lastPartialResult := some transcript
    lastPartialChunksReceived := chunksReceived
    lastPartialAudioReceivedMs := audioReceivedMs }

/-- `StreamSession.audio_received_ms`. -/
def audioReceivedMs (s : StreamSession) : ℕ :=
  audioBytesToDurationMs s.audioBuffer.length s.sampleRate

/-- `StreamSession.should_emit_partial`. -/
def shouldEmitPartial (s : StreamSession) : Bool :=
  match s.partialIntervalAudioMs with
  | none => decide ((s.partialIntervalChunks : ℤ) ≤ s.chunksReceived - s.lastPartialChunksReceived)
  | some ms => decide (ms ≤ (s.audioReceivedMs : ℤ) - s.lastPartialAudioReceivedMs)

/-- `StreamSession.partial_audio_bytes`. -/
def partialAudioBytes (s : StreamSession) : Bytes :=
  match s.partialWindowBytes with
  | none => s.audioBuffer
  | some window =>
    if s.audioBuffer.length ≤ window then s.audioBuffer else trailingBytes window s.audioBuffer

/-- `_partial_covers_full_buffer`. -/
def partialCoversFullBuffer (s : StreamSession) : Bool :=
  match s.partialWindowBytes with
  | none => true
  | some window => decide (s.audioBuffer.length ≤ window)

/-- `_can_reuse_last_partial`, with the result that is reused. -/
def reusableLastPartial (s : StreamSession) : Option Transcript :=
  if s.lastPartialChunksReceived = s.chunksReceived ∧ s.partialCoversFullBuffer = true then
    s.lastPartialResult
  else none

/-- `_normalize_stability_text`, with `casefold` for `str.casefold`. -/
def normalizeStabilityText (casefold : String → String) : TextField → Option String
  | .str s =>
    let normalized := pyJoinWords (casefold s)
    if normalized = "" then none else some normalized
  | _ => none

/-- `StreamSession.record_transcript_stability`. -/
def recordTranscriptStability (casefold : String → String) (s : StreamSession)
    (transcript : Transcript) : StreamSession :=
  match normalizeStabilityText casefold transcript.text with
  | none => { s with stablePartialText := none, stablePartialCount := 0 }
  | some normalized =>
    if some normalized = s.stablePartialText then
      { s with stablePartialCount := s.stablePartialCount + 1 }
    else { s with stablePartialText := some normalized, stablePartialCount := 1 }

/-- `StreamSession.should_finalize_stable_partial`. -/
def shouldFinalizeStablePartial (s : StreamSession) : Bool :=
  s.finalizeOnStablePartial && decide (s.stablePartialCycles ≤ (s.stablePartialCount : ℤ))

/-- `StreamSession.next_transcript_revision`. -/
def nextTranscriptRevision (s : StreamSession) : StreamSession :=
  { s with transcriptRevision := s.transcriptRevision + 1 }

end StreamSession

/-- A number of seconds as a number of bytes within a limit. -/
def bytesWithin (limit : ℕ) (seconds : Option PyFloat) (sampleRate : ℤ) :
    Except PyError (Option ℕ) :=
  match seconds with
  | none => .ok none
  | some seconds => (secondsToBufferBytes seconds sampleRate).map fun n => some (min limit n)

/-- `_create_local_stt_stream_session`. -/
def createLocalSttStreamSession (payload : LocalSttStartConfig)
    (streamMaxBufferBytes streamId : ℕ) :
    Except PyError StreamSession := do
  let sampleRate := payload.start.audio.sampleRate
  let limited ← bytesWithin streamMaxBufferBytes payload.maxBufferSeconds sampleRate
  let maxBufferBytes := limited.getD streamMaxBufferBytes
  let partialWindowBytes ← bytesWithin maxBufferBytes payload.partialWindowSeconds sampleRate
  return {
    streamId := streamId
    language := payload.start.language
    sampleRate := sampleRate
    maxBufferBytes := maxBufferBytes
    partialIntervalChunks := payload.partialIntervalChunks
    partialIntervalAudioMs := payload.partialIntervalAudioMs
    partialWindowSeconds := payload.partialWindowSeconds
    maxBufferSeconds := payload.maxBufferSeconds
    partialWindowBytes := partialWindowBytes
    interimResults := payload.start.interimResults
    finalizeOnStablePartial := payload.finalizeOnStablePartial
    stablePartialCycles := payload.stablePartialCycles
    clientStreamId := payload.clientStreamId
    clientMetadata := payload.clientMetadata }

/-- A session that has received nothing yet. -/
structure StreamSession.New (streamId : ℕ) (s : StreamSession) : Prop where
  streamId_eq : s.streamId = streamId
  audioBuffer : s.audioBuffer = []
  chunksReceived : s.chunksReceived = 0
  lastPartialChunksReceived : s.lastPartialChunksReceived = 0
  lastPartialResult : s.lastPartialResult = none
  decoderMode : s.decoderMode = .rollingWindow
  transcriptRevision : s.transcriptRevision = 0

/-- **What a created session is**: the values of the start message and its limits in bytes. -/
lemma createLocalSttStreamSession_eq_ok {payload : LocalSttStartConfig}
    {streamMaxBufferBytes streamId : ℕ} {s : StreamSession}
    (h : createLocalSttStreamSession payload streamMaxBufferBytes streamId = .ok s) :
    ∃ limited window,
      bytesWithin streamMaxBufferBytes payload.maxBufferSeconds payload.start.audio.sampleRate =
        .ok limited ∧
      bytesWithin (limited.getD streamMaxBufferBytes) payload.partialWindowSeconds
        payload.start.audio.sampleRate = .ok window ∧
      s = {
        streamId := streamId
        language := payload.start.language
        sampleRate := payload.start.audio.sampleRate
        maxBufferBytes := limited.getD streamMaxBufferBytes
        partialIntervalChunks := payload.partialIntervalChunks
        partialIntervalAudioMs := payload.partialIntervalAudioMs
        partialWindowSeconds := payload.partialWindowSeconds
        maxBufferSeconds := payload.maxBufferSeconds
        partialWindowBytes := window
        interimResults := payload.start.interimResults
        finalizeOnStablePartial := payload.finalizeOnStablePartial
        stablePartialCycles := payload.stablePartialCycles
        clientStreamId := payload.clientStreamId
        clientMetadata := payload.clientMetadata } := by
  unfold createLocalSttStreamSession at h
  simp only [bind, Except.bind, pure, Except.pure] at h
  split at h
  · cases h
  · rename_i limited hlimited
    split at h
    · cases h
    · rename_i window hwindow
      exact ⟨limited, window, hlimited, hwindow, (Except.ok.inj h).symm⟩

/-- A created session has received nothing. -/
lemma createLocalSttStreamSession_new {payload : LocalSttStartConfig}
    {streamMaxBufferBytes streamId : ℕ} {s : StreamSession}
    (h : createLocalSttStreamSession payload streamMaxBufferBytes streamId = .ok s) :
    s.New streamId := by
  obtain ⟨limited, window, -, -, rfl⟩ := createLocalSttStreamSession_eq_ok h
  exact ⟨rfl, rfl, rfl, rfl, rfl, rfl, rfl⟩

/-! ## Events -/

/-- The `ready` event. -/
structure ReadyEvent where
  streamId : ℕ
  interimResults : Bool
  maxBufferBytes : ℕ
  partialIntervalChunks : ℤ
  partialIntervalMs : ℤ
  decoderMode : DecoderMode
  clientStreamId : Option String
  clientMetadata : Dict
  partialWindowSeconds : Option PyFloat
  maxBufferSeconds : Option PyFloat
  /-- The cycles, when auto-finalization is on. -/
  stablePartialCycles : Option ℤ

/-- A transcript event; the timing metrics of its metadata are left out. -/
structure TranscriptEvent where
  streamId : ℕ
  text : String
  isFinal : Bool
  revision : ℕ
  audioReceivedMs : ℕ
  audioTranscribedMs : ℕ
  chunksReceived : ℕ
  bufferedBytes : ℕ
  remainingBufferBytes : ℤ
  decoderMode : DecoderMode
  segmentId : String
  windowStartMs : ℤ
  windowEndMs : ℤ
  stabilityCount : ℕ
  language : Option String
  backend : Option String
  model : Option String
  clientStreamId : Option String
  clientMetadata : Dict
  /-- `send_queue_depth` and `send_queue_high_water`, set when the event is enqueued. -/
  sendQueue : Option (ℕ × ℕ) := none

/-- The `stream_canceled` warning. -/
structure CancelWarningEvent where
  streamId : ℕ
  chunksReceived : ℕ
  bufferedBytes : ℕ
  remainingBufferBytes : ℤ
  clientStreamId : Option String
  clientMetadata : Dict
  sendQueue : Option (ℕ × ℕ) := none

/-- An event the server writes on a v1 connection. -/
inductive Event
  | ready (event : ReadyEvent)
  | transcript (event : TranscriptEvent)
  | canceled (event : CancelWarningEvent)
  | pong (event : Heartbeat)
  | closed
  | error (event : ErrorMessage)

/-- `_local_stt_ready_event`. -/
def localSttReadyEvent (s : StreamSession) : ReadyEvent where
  streamId := s.streamId
  interimResults := s.interimResults
  maxBufferBytes := s.maxBufferBytes
  partialIntervalChunks := s.partialIntervalChunks
  partialIntervalMs := s.partialIntervalAudioMs.getD (s.partialIntervalChunks * HOT_PATH_FRAME_MS)
  decoderMode := s.decoderMode
  clientStreamId := s.clientStreamId
  clientMetadata := s.clientMetadata
  partialWindowSeconds := s.partialWindowSeconds
  maxBufferSeconds := s.maxBufferSeconds
  stablePartialCycles := if s.finalizeOnStablePartial then some s.stablePartialCycles else none

/-- The event `_local_stt_transcript_event` builds with a revision already drawn. -/
def transcriptEventOf (s : StreamSession) (transcript : Transcript) (isFinal : Bool)
    (transcribedAudioBytes : ℕ) : TranscriptEvent where
  streamId := s.streamId
  text := transcript.strippedText
  isFinal := isFinal
  revision := s.transcriptRevision
  audioReceivedMs := s.audioReceivedMs
  audioTranscribedMs := audioBytesToDurationMs transcribedAudioBytes s.sampleRate
  chunksReceived := s.chunksReceived
  bufferedBytes := s.audioBuffer.length
  remainingBufferBytes := (s.maxBufferBytes : ℤ) - s.audioBuffer.length
  decoderMode := s.decoderMode
  segmentId :=
    if s.clientStreamId.getD "" = "" then toString s.streamId else s.clientStreamId.getD ""
  windowStartMs :=
    max 0 ((s.audioReceivedMs : ℤ) - audioBytesToDurationMs transcribedAudioBytes s.sampleRate)
  windowEndMs := s.audioReceivedMs
  stabilityCount := s.stablePartialCount
  language := if transcript.language.isSome then transcript.language else s.language
  backend := transcript.backend
  model := transcript.model
  clientStreamId := s.clientStreamId
  clientMetadata := s.clientMetadata

/-- `_local_stt_transcript_event`: a revision is drawn, and the message's own validators may
refuse the event (`ValidationError` is a `ValueError`). -/
def localSttTranscriptEvent (s : StreamSession) (transcript : Transcript) (isFinal : Bool)
    (transcribedAudioBytes : ℕ) : StreamSession × Except PyError TranscriptEvent :=
  let s := s.nextTranscriptRevision
  let event := transcriptEventOf s transcript isFinal transcribedAudioBytes
  (s,
    if event.audioReceivedMs < event.audioTranscribedMs then
      .error (.valueError "audio_transcribed_ms must be less than or equal to audio_received_ms")
    else .ok event)

/-- `_local_stt_cancel_warning_event`. -/
def localSttCancelWarningEvent (s : StreamSession) : CancelWarningEvent where
  streamId := s.streamId
  chunksReceived := s.chunksReceived
  bufferedBytes := s.audioBuffer.length
  remainingBufferBytes := (s.maxBufferBytes : ℤ) - s.audioBuffer.length
  clientStreamId := s.clientStreamId
  clientMetadata := s.clientMetadata

/-! ## What an append and a window do -/

namespace StreamSession

variable {s s' : StreamSession} {chunk : Bytes}

/-- An accepted chunk is appended and counted, and nothing else changes. -/
lemma appendAudio_eq_ok (h : s.appendAudio chunk = .ok s') :
    s' = { s with
      audioBuffer := s.audioBuffer ++ chunk
      chunksReceived := s.chunksReceived + 1 } := by
  unfold appendAudio at h
  split_ifs at h
  exact (Except.ok.inj h).symm

/-- The partial audio is the whole buffer when the window covers it. -/
lemma partialAudioBytes_of_covers (h : s.partialCoversFullBuffer = true) :
    s.partialAudioBytes = s.audioBuffer := by
  unfold partialCoversFullBuffer at h
  unfold partialAudioBytes
  cases hw : s.partialWindowBytes with
  | none => rfl
  | some window =>
    rw [hw] at h
    exact if_pos (by simpa using h)

end StreamSession

/-- More bytes last longer. -/
lemma audioBytesToDurationMs_mono {m n : ℕ} (h : m ≤ n) (sampleRate : ℤ) :
    audioBytesToDurationMs m sampleRate ≤ audioBytesToDurationMs n sampleRate := by
  unfold audioBytesToDurationMs
  split_ifs
  · exact le_rfl
  · exact Binary64.divHalfEven_mono (Nat.mul_le_mul_right 500 h)

/-- An event about no more audio than the buffer holds passes its validators. -/
lemma localSttTranscriptEvent_eq (s : StreamSession) (transcript : Transcript) (isFinal : Bool)
    {transcribedAudioBytes : ℕ} (h : transcribedAudioBytes ≤ s.audioBuffer.length) :
    localSttTranscriptEvent s transcript isFinal transcribedAudioBytes =
      (s.nextTranscriptRevision,
        .ok (transcriptEventOf s.nextTranscriptRevision transcript isFinal
          transcribedAudioBytes)) := by
  have hle := audioBytesToDurationMs_mono h s.sampleRate
  rw [localSttTranscriptEvent, if_neg]
  exact not_lt.mpr hle

end RtcAsr
