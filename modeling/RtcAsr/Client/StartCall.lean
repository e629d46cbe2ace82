import RtcAsr.Server.Transports

/-!
# The start message of the Local STT clients

`start` of `AsyncLocalSttClient` and of `AsyncRawUdsLocalSttClient` in `src/rtc_client.py`: both
check the same arguments and write the same message.  What a v1 handler reads off it is the
configuration of the stream, on either transport.
-/

namespace RtcAsr

/-- `_validate_positive_number` accepts the value. -/
def PositiveNumber : Json → Prop
  | .int n => 0 < n ∧ ¬ Binary64.Overflows (n : ℚ)
  | .float (.finite q) => 0 < q
  | _ => False

/-- The arguments of `start` that its checks accept. -/
structure StartArguments where
  language : Option String := some "en"
  interimResults : Bool := true
  partialIntervalMs : ℤ := HOT_PATH_FRAME_MS
  partialWindowSeconds : Option Json := none
  maxBufferSeconds : Option Json := none
  finalizeOnStablePartial : Bool := false
  stablePartialCycles : Option ℤ := none
  clientStreamId : Option String := none
  metadata : Dict := []
  interval_pos : 0 < partialIntervalMs := by decide
  window_pos : ∀ seconds, partialWindowSeconds = some seconds → PositiveNumber seconds := by
    rintro _ ⟨⟩
  buffer_pos : ∀ seconds, maxBufferSeconds = some seconds → PositiveNumber seconds := by
    rintro _ ⟨⟩
  cycles_pos : ∀ cycles, stablePartialCycles = some cycles → 0 < cycles := by
    rintro _ ⟨⟩

namespace StartArguments

/-- The fields of the message that are always there. -/
def base (arguments : StartArguments) : Dict :=
  [("type", .str "start"), ("version", .str PROTOCOL_VERSION),
    ("audio", .obj
      [("sample_rate", .int HOT_PATH_SAMPLE_RATE), ("channels", .int HOT_PATH_CHANNELS),
        ("format", .str HOT_PATH_PCM_FORMAT), ("frame_ms", .int HOT_PATH_FRAME_MS),
        ("bytes_per_frame", .int HOT_PATH_BYTES_PER_FRAME)]),
    ("language", .ofOption .str arguments.language),
    ("interim_results", .bool arguments.interimResults),
    ("partial_interval_ms", .int arguments.partialIntervalMs)]

/-- The fields that are there when their argument is given. -/
def options (arguments : StartArguments) : Dict :=
  (arguments.partialWindowSeconds.map fun seconds => ("partial_window_seconds", seconds)).toList ++
  (arguments.maxBufferSeconds.map fun seconds => ("max_buffer_seconds", seconds)).toList ++
  (if arguments.finalizeOnStablePartial = true then
    [("finalize_on_stable_partial", .bool true)] else []) ++
  (arguments.stablePartialCycles.map fun cycles => ("stable_partial_cycles", .int cycles)).toList ++
  (arguments.clientStreamId.map fun id => ("client_stream_id", .str id)).toList ++
  (if arguments.metadata = [] then [] else [("metadata", .obj arguments.metadata)])

/-- The message that `start` writes. -/
def payload (arguments : StartArguments) : Dict := arguments.base ++ arguments.options

end StartArguments

/-- A start that the server can read, with the configuration it reads. -/
structure ClientStart where
  arguments : StartArguments
  config : LocalSttStartConfig
  sent : parseLocalSttStartMessage arguments.payload = .ok config

namespace ClientStart

/-- The message describes its audio in an object of its own. -/
lemma contains_audio (arguments : StartArguments) :
    arguments.payload.contains "audio" = true := rfl

/-- So it is no flat start. -/
lemma not_flat (arguments : StartArguments) : isFlatStart arguments.payload = false := rfl

/-- It is spelled as the handlers expect it. -/
lemma spelledStart (arguments : StartArguments) : SpelledStart arguments.payload := rfl

/-- The message of a start gives the configuration. -/
lemma outcome_eq (start : ClientStart) :
    startOutcome start.arguments.payload .null = .event (.start start.config) := by
  rw [← parseLocalSttStartMessage_not_flat (not_flat _) (spelledStart _), start.sent]
  rfl

/-- A websocket handler receives the start. -/
lemma receive_webSocket (start : ClientStart) :
    receiveLocalSttEvent (.text (.value (.obj start.arguments.payload))) =
      .ok (.start start.config) := by
  have hword : eventWord start.arguments.payload = "start" :=
    eventWord_of_spelledStart (spelledStart_iff.mp (spelledStart _))
  refine outcome_eq_start.mp ?_
  show outcome (parseLocalSttClientEvent start.arguments.payload) = _
  rw [outcome_start hword, start.sent]
  rfl

/-- A raw-UDS handler receives the start. -/
lemma receive_rawUds (start : ClientStart) {loads : Bytes → JsonText} {bytes : Bytes}
    (h : loads bytes = .value (.obj start.arguments.payload)) :
    receiveRawUdsFrame loads ⟨.jsonControl, bytes⟩ = .ok (.start start.config) := by
  refine outcome_eq_start.mp ?_
  rw [outcome_control h, normalize_of_not_flat (.inr (contains_audio _))]
  dsimp only
  rw [outcome_controlEvent_start (spelledStart _), start.outcome_eq]

/-- What the server reads off a start whose caller gives no arguments: an interval of one frame. -/
def defaultConfig : LocalSttStartConfig :=
  { start :=
      { audio :=
          { sampleRate := HOT_PATH_SAMPLE_RATE
            channels := HOT_PATH_CHANNELS
            format := HOT_PATH_PCM_FORMAT
            bytesPerFrame := some HOT_PATH_BYTES_PER_FRAME }
        language := some "en"
        partialIntervalMs := some HOT_PATH_FRAME_MS }
    partialIntervalAudioMs := some HOT_PATH_FRAME_MS }

/-- The server reads the default configuration off the default arguments. -/
lemma sent_default :
    parseLocalSttStartMessage ({} : StartArguments).payload = .ok defaultConfig := by
  have hparse : parseClientMessage ({} : StartArguments).payload =
      .ok (.start defaultConfig.start) := rfl
  have hchunks : partialIntervalChunks HOT_PATH_FRAME_MS HOT_PATH_FRAME_MS = .ok 1 := by
    decide +kernel
  simp only [parseLocalSttStartMessage, not_flat, Bool.false_eq_true, false_and, if_false, hparse,
    startConfig, partialInterval, defaultConfig, hchunks]
  rfl

/-- A start without arguments. -/
def plain : ClientStart := ⟨{}, defaultConfig, sent_default⟩

end ClientStart

end RtcAsr
