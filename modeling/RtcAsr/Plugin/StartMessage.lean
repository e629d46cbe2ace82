import RtcAsr.Plugin.Config
import RtcAsr.Server.PartialInterval
import RtcAsr.Server.Transports

/-!
# The plugin's start message at the server

`build_start_message` and the plugin's raw-UDS encoder, and what the server makes of the message on
both transports.  A constructed configuration can still be refused: the server takes 20 ms frames
only, no infinite or undefined number of seconds, and a partial interval whose quotient by 20
survives a binary64 division; a raw-UDS frame must also fit the payload limit.

`dumps` stands for `json.dumps(payload).encode("utf-8")`, and `loads` for
`json.loads(payload.decode("utf-8"))`.
-/

namespace RtcAsr.Plugin

open Validated Binary64

def PROTOCOL_NAME : String := "local-stt-v1"

/-- A dictionary entry that is added when there is a value. -/
def entry (key : String) : Option Json → Dict
  | some v => [(key, v)]
  | none => []

/-- `_copy_metadata`, and the omission of an empty dictionary. -/
def metadataEntry : Option Dict → Option Json
  | none => none
  | some [] => none
  | some d => some (.obj d)

/-- `build_start_message`. -/
def buildStartMessage (c : LocalSTTConfig) (clientStreamId : Option String)
    (metadata : Option Dict) : Dict :=
  [("type", .str "start"), ("protocol", .str PROTOCOL_NAME),
    ("language", .ofOption .str c.language), ("sample_rate", .int c.sampleRate),
    ("channels", .int c.channels), ("format", .str c.format), ("frame_ms", .int c.frameMs),
    ("interim_results", .bool c.interimResults),
    ("partial_interval_ms", .int c.partialIntervalMs),
    ("partial_window_seconds", .float c.partialWindowSeconds),
    ("max_buffer_seconds", .float c.maxBufferSeconds)] ++
  entry "client_stream_id" (clientStreamId.map .str) ++ entry "metadata" (metadataEntry metadata)

/-- `_compact_raw_uds_message_payload`. -/
def compactRawUdsMessagePayload (payload : Dict) : Dict :=
  match payload.get? "metadata" with
  | some (.obj []) => payload.filter (·.1 != "metadata")
  | _ => payload

/-- `_CLIENT_MESSAGE_TYPES`. -/
def CLIENT_MESSAGE_TYPES : List String := ["start", "finalize", "cancel", "close", "ping", "pong"]

/-- `_require_message_type`. -/
def requireMessageType (payload : Dict) : Except Exn String :=
  match payload.get? "type" with
  | some (.str type) =>
    if type = "" then
      .error (.protocol { message := "Local STT v1 client message is missing type" })
    else if type ∈ CLIENT_MESSAGE_TYPES then .ok type
    else
      .error (.protocol
        { message := "Unsupported Local STT v1 client message type: " ++ type,
          code := "unsupported_message_type" })
  | _ => .error (.protocol { message := "Local STT v1 client message is missing type" })

/-- The frame type of a client message of the plugin. -/
def clientFrameType : String → RawUdsFrameType
  | "ping" => .ping
  | "pong" => .pong
  | _ => .jsonControl

/-- `encode_raw_uds_client_message` of the plugin: a bare heartbeat has an empty payload. -/
def encodeRawUdsClientMessage (dumps : Dict → Except PyError Bytes) (payload : Dict) :
    Except Exn Bytes :=
  let compacted := compactRawUdsMessagePayload payload
  match requireMessageType compacted with
  | .error e => .error e
  | .ok type =>
    let frameType := clientFrameType type
    if frameType ≠ .jsonControl ∧ compacted.all (·.1 == "type") = true then
      encodeRawUdsFrame frameType []
    else
      match dumps compacted with
      | .error e => .error (.builtin e)
      | .ok bytes => encodeRawUdsFrame frameType bytes

/-! ## What a stream is started with -/

/-- The server's configuration of a stream carries what the plugin was configured with. -/
structure Carries (config : LocalSttStartConfig) (c : LocalSTTConfig)
    (clientStreamId : Option String) (metadata : Option Dict) : Prop where
  language : config.start.language = c.language
  interimResults : config.start.interimResults = c.interimResults
  /-- The interval, rounded up to a multiple of the frame. -/
  partialIntervalAudioMs :
    config.partialIntervalAudioMs = some (c.partialIntervalMs.toNat ⌈/⌉ 20 * 20 : ℕ)
  partialIntervalChunks : config.partialIntervalChunks = (c.partialIntervalMs.toNat ⌈/⌉ 20 : ℕ)
  partialWindowSeconds : config.partialWindowSeconds = some c.partialWindowSeconds
  maxBufferSeconds : config.maxBufferSeconds = some c.maxBufferSeconds
  clientStreamId : config.clientStreamId = clientStreamId
  clientMetadata : config.clientMetadata = metadata.getD []

/-- The server starts a stream on the payload as a websocket text frame. -/
def StartsOnWebSocket (c : LocalSTTConfig) (clientStreamId : Option String)
    (metadata : Option Dict) : Prop :=
  ∃ config, parseLocalSttClientEvent (buildStartMessage c clientStreamId metadata) =
    .ok (.start config) ∧ Carries config c clientStreamId metadata

/-- The server starts a stream on the payload as a raw-UDS frame of the plugin. -/
def StartsOnRawUds (dumps : Dict → Except PyError Bytes) (loads : Bytes → JsonText)
    (c : LocalSTTConfig) (clientStreamId : Option String) (metadata : Option Dict) : Prop :=
  ∃ bytes frame config,
    encodeRawUdsClientMessage dumps (buildStartMessage c clientStreamId metadata) = .ok bytes ∧
    decodeRawUdsFrame bytes = .ok frame ∧
    receiveRawUdsFrame loads frame = .ok (.start config) ∧ Carries config c clientStreamId metadata

/-- The configurations the server accepts. -/
structure Acceptable (c : LocalSTTConfig) : Prop where
  frameMs : c.frameMs = 20
  partialWindowSeconds : c.partialWindowSeconds.isFinite = true
  maxBufferSeconds : c.maxBufferSeconds.isFinite = true
  /-- The quotient by 20 rounds up to the number of frames that cover the interval. -/
  partialIntervalMs : CeilExact c.partialIntervalMs.toNat 20

/-! ## The translated message -/

section

variable {c : LocalSTTConfig} {clientStreamId : Option String} {metadata : Option Dict}

/-- The start message the server validates. -/
def startMessage (c : LocalSTTConfig) (clientStreamId : Option String) (metadata : Option Dict) :
    StartMessage :=
  { audio := ⟨c.sampleRate, c.channels, c.format, c.frameMs, none⟩
    language := c.language
    interimResults := c.interimResults
    partialIntervalMs := some c.partialIntervalMs
    partialWindowSeconds := some c.partialWindowSeconds
    maxBufferSeconds := some c.maxBufferSeconds
    clientStreamId := clientStreamId
    metadata := metadata.getD [] }

/-- The message the server translates the plugin's message into. -/
lemma translateFlatStart_build :
    translateFlatStart (buildStartMessage c clientStreamId metadata) =
      [("type", .str "start"), ("version", .str PROTOCOL_VERSION),
        ("audio", .obj
          [("sample_rate", .int c.sampleRate), ("channels", .int c.channels),
            ("format", .str c.format), ("frame_ms", .int c.frameMs), ("bytes_per_frame", .null)]),
        ("language", .ofOption .str c.language), ("interim_results", .bool c.interimResults),
        ("partial_interval_ms", .int c.partialIntervalMs),
        ("partial_window_seconds", .float c.partialWindowSeconds),
        ("max_buffer_seconds", .float c.maxBufferSeconds),
        ("finalize_on_stable_partial", .bool false), ("stable_partial_cycles", .null),
        ("client_stream_id", .ofOption .str clientStreamId),
        ("metadata", .obj (metadata.getD []))] := by
  cases clientStreamId <;> rcases metadata with _ | _ | ⟨e, es⟩ <;> rfl

/-- The audio format of the translated message passes the hot-path check when its frame does. -/
lemma validateAudioFormat_build (hc : c.Checked) :
    validateAudioFormat (.obj
        [("sample_rate", .int c.sampleRate), ("channels", .int c.channels),
          ("format", .str c.format), ("frame_ms", .int c.frameMs), ("bytes_per_frame", .null)]) =
      if c.frameMs = 20 then valid ⟨c.sampleRate, c.channels, c.format, c.frameMs, none⟩
      else fail "unsupported_audio_format" "audio.frame_ms must be 20" := by
  have hint : ∀ n, requiredInteger (.int n) = valid n := fun _ => rfl
  have hnull : optionalInteger .null = valid none := rfl
  simp [validateAudioFormat, field, Dict.get?, List.lookup_cons, hint, hnull, requireStringField,
    andThen, under, next, AudioFormat.validateHotPath, hc.sampleRate, hc.channels, hc.format,
    HOT_PATH_SAMPLE_RATE, HOT_PATH_CHANNELS, HOT_PATH_PCM_FORMAT, HOT_PATH_FRAME_MS]

/-- A positive number of seconds is validated by its finiteness. -/
lemma positiveNumber_of_pos {x : PyFloat} (hx : x.nonpos = false) :
    positiveNumber (.float x) =
      if x.isFinite = true then valid (some x)
        else fail "invalid_numeric_field" "must be finite" := by
  split_ifs with h
  · exact positiveNumber_float h hx
  · simp [positiveNumber, optionalNumber, h, andThen, fail]

/-- The partial interval of a constructed configuration validates. -/
lemma positiveInteger_of_pos {n : ℤ} (hn : 0 < n) : positiveInteger (.int n) = valid (some n) := by
  simp [positiveInteger, optionalInteger, andThen, requirePositiveIntegerField,
    show ¬ n < 1 by omega]

/-- The translated message of an acceptable frame and finite numbers of seconds validates. -/
lemma validateStart_build (hc : c.Checked) (hframe : c.frameMs = 20)
    (hwindow : c.partialWindowSeconds.isFinite = true)
    (hbuffer : c.maxBufferSeconds.isFinite = true) :
    validateStart (translateFlatStart (buildStartMessage c clientStreamId metadata)) =
      valid (startMessage c clientStreamId metadata) := by
  have haudio := validateAudioFormat_build hc
  rw [if_pos hframe] at haudio
  have hlanguage := redumps_requireOptionalStringField (.ofOption .str c.language) c.language
    (by cases c.language <;> rfl)
  have hclient := redumps_requireOptionalStringField (.ofOption .str clientStreamId) clientStreamId
    (by cases clientStreamId <;> rfl)
  have hw := positiveNumber_of_pos hc.partialWindowSeconds
  rw [if_pos hwindow] at hw
  have hb := positiveNumber_of_pos hc.maxBufferSeconds
  rw [if_pos hbuffer] at hb
  have hcycles : positiveInteger .null = valid none := rfl
  simp [translateFlatStart_build, validateStart, field, Dict.get?, List.lookup_cons,
    haudio, hlanguage, hw, hb, hcycles, hclient, positiveInteger_of_pos hc.partialIntervalMs,
      requireVersion,
    Json.isStr, requireBooleanField, requireMetadataObject, under, next, startMessage]

/-- The translated message validates only for an acceptable frame and finite numbers of
seconds. -/
lemma of_validateStart_build (hc : c.Checked) {m : StartMessage}
    (h : validateStart (translateFlatStart (buildStartMessage c clientStreamId metadata)) =
      valid m) :
    c.frameMs = 20 ∧ c.partialWindowSeconds.isFinite = true ∧
      c.maxBufferSeconds.isFinite = true := by
  rw [translateFlatStart_build] at h
  obtain ⟨haudio, -, -, -, hwindow, hbuffer, -⟩ := validateStart_eq_valid h
  have haudio := under_eq_valid.mp haudio
  have hwindow := under_eq_valid.mp hwindow
  have hbuffer := under_eq_valid.mp hbuffer
  rw [validateAudioFormat_build hc] at haudio
  rw [positiveNumber_of_pos hc.partialWindowSeconds] at hwindow
  rw [positiveNumber_of_pos hc.maxBufferSeconds] at hbuffer
  refine ⟨?_, ?_, ?_⟩
  · by_contra hne
    rw [if_neg hne] at haudio
    exact fail_ne_valid _ _ _ haudio
  · by_contra hne
    rw [if_neg hne] at hwindow
    exact fail_ne_valid _ _ _ hwindow
  · by_contra hne
    rw [if_neg hne] at hbuffer
    exact fail_ne_valid _ _ _ hbuffer

/-- The configuration step on the translated message carries the plugin's values exactly when the
interval rounds up exactly. -/
lemma startConfig_carries_iff (hc : c.Checked) (hframe : c.frameMs = 20) :
    (∃ config, startConfig (startMessage c clientStreamId metadata) .null = .ok config ∧
        Carries config c clientStreamId metadata) ↔ CeilExact c.partialIntervalMs.toNat 20 := by
  have hpos := hc.partialIntervalMs
  have hn : ((c.partialIntervalMs.toNat : ℕ) : ℤ) = c.partialIntervalMs :=
    Int.toNat_of_nonneg hpos.le
  have hchunks := partialIntervalChunks_eq_ok_iff (n := c.partialIntervalMs.toNat) (by omega)
  rw [hn] at hchunks
  rw [← hchunks]
  have hm : (startMessage c clientStreamId metadata).partialIntervalMs =
      some c.partialIntervalMs := rfl
  have hf : (startMessage c clientStreamId metadata).audio.frameMs = HOT_PATH_FRAME_MS := hframe
  simp only [startConfig, partialInterval, hm, hf]
  cases hp : partialIntervalChunks c.partialIntervalMs HOT_PATH_FRAME_MS with
  | error e => simp
  | ok chunks =>
    simp only [Except.ok.injEq, exists_eq_left']
    constructor
    · exact fun h => h.partialIntervalChunks
    · rintro rfl
      refine ⟨rfl, rfl, ?_, rfl, rfl, rfl, rfl, rfl⟩
      simp [HOT_PATH_FRAME_MS]

/-- The server's start event carries the plugin's values exactly for acceptable configurations. -/
lemma starts_iff_acceptable (hc : c.Checked) (clientStreamId : Option String)
    (metadata : Option Dict) :
    (∃ config, startOutcome (translateFlatStart (buildStartMessage c clientStreamId metadata))
        .null = .event (.start config) ∧ Carries config c clientStreamId metadata) ↔
      Acceptable c := by
  simp only [startOutcome_eq_start]
  constructor
  · rintro ⟨config, ⟨m, hm, hconfig⟩, hcarries⟩
    obtain ⟨hframe, hwindow, hbuffer⟩ := of_validateStart_build hc hm
    rw [validateStart_build hc hframe hwindow hbuffer] at hm
    obtain rfl := Validated.valid.inj hm
    exact ⟨hframe, hwindow, hbuffer,
      (startConfig_carries_iff hc hframe).mp ⟨config, hconfig, hcarries⟩⟩
  · rintro ⟨hframe, hwindow, hbuffer, hinterval⟩
    obtain ⟨config, hconfig, hcarries⟩ := (startConfig_carries_iff hc hframe).mpr hinterval
    exact ⟨config, ⟨_, validateStart_build hc hframe hwindow hbuffer, hconfig⟩, hcarries⟩

/-! ## The two transports -/

lemma spelledStart_build : SpelledStart (buildStartMessage c clientStreamId metadata) := rfl

lemma flatV1_build : FlatV1 (buildStartMessage c clientStreamId metadata) := by
  cases clientStreamId <;> rcases metadata with _ | _ | ⟨e, es⟩ <;> exact ⟨rfl, rfl⟩

lemma contains_audio_build :
    ¬ (buildStartMessage c clientStreamId metadata).contains "audio" = true := by
  cases clientStreamId <;> rcases metadata with _ | _ | ⟨e, es⟩ <;> exact Bool.false_ne_true

lemma legacyChunks_build :
    legacyChunks (buildStartMessage c clientStreamId metadata) = .null := by
  cases clientStreamId <;> rcases metadata with _ | _ | ⟨e, es⟩ <;> rfl

/-- The websocket starts a stream exactly for acceptable configurations. -/
lemma startsOnWebSocket_iff (hc : c.Checked) :
    StartsOnWebSocket c clientStreamId metadata ↔ Acceptable c := by
  rw [← starts_iff_acceptable hc clientStreamId metadata,
    StartsOnWebSocket]
  refine exists_congr fun config => and_congr_left fun _ => ?_
  rw [← outcome_eq_start, outcome_flatV1 spelledStart_build flatV1_build, legacyChunks_build]

/-- The plugin's encoder leaves its own start message as it is. -/
lemma encode_build (dumps : Dict → Except PyError Bytes) :
    encodeRawUdsClientMessage dumps (buildStartMessage c clientStreamId metadata) =
      match dumps (buildStartMessage c clientStreamId metadata) with
      | .error e => .error (.builtin e)
      | .ok bytes => encodeRawUdsFrame .jsonControl bytes := by
  have hcompact : compactRawUdsMessagePayload (buildStartMessage c clientStreamId metadata) =
      buildStartMessage c clientStreamId metadata := by
    cases clientStreamId <;> rcases metadata with _ | _ | ⟨e, es⟩ <;> rfl
  have htype : requireMessageType (buildStartMessage c clientStreamId metadata) = .ok "start" := rfl
  simp only [encodeRawUdsClientMessage, hcompact, htype]
  rfl

variable {dumps : Dict → Except PyError Bytes} {loads : Bytes → JsonText}

/-- A start event from the bytes of a control frame of the plugin's start message. -/
lemma receive_build {bytes : Bytes} {config : LocalSttStartConfig}
    (h : loads bytes = .value (.obj (buildStartMessage c clientStreamId metadata))) :
    receiveRawUdsFrame loads ⟨.jsonControl, bytes⟩ = .ok (.start config) ↔
      startOutcome (translateFlatStart (buildStartMessage c clientStreamId metadata)) .null =
        .event (.start config) := by
  have hprotocol : protocolField (buildStartMessage c clientStreamId metadata) =
      .str PROTOCOL_NAME := rfl
  rw [← outcome_eq_start, outcome_control_translated spelledStart_build contains_audio_build
    (by rw [hprotocol]; rfl) (knownProtocol_of_flatV1 flatV1_build) h]

/-- The raw-UDS transport starts a stream exactly for acceptable configurations whose start message
has a JSON text within the payload limit. -/
lemma startsOnRawUds_iff (hc : c.Checked)
    (hjson : ∀ bytes, dumps (buildStartMessage c clientStreamId metadata) = .ok bytes →
      loads bytes = .value (.obj (buildStartMessage c clientStreamId metadata))) :
    StartsOnRawUds dumps loads c clientStreamId metadata ↔
      Acceptable c ∧ ∃ bytes, dumps (buildStartMessage c clientStreamId metadata) = .ok bytes ∧
        bytes.length ≤ RAW_UDS_MAX_PAYLOAD_BYTES := by
  rw [← starts_iff_acceptable hc clientStreamId metadata]
  constructor
  · rintro ⟨encoded, frame, config, hencode, hdecode, hreceive, hcarries⟩
    rw [encode_build] at hencode
    cases hdumps : dumps (buildStartMessage c clientStreamId metadata) with
    | error e => rw [hdumps] at hencode; cases hencode
    | ok bytes =>
      rw [hdumps] at hencode
      change encodeRawUdsFrame .jsonControl bytes = .ok encoded at hencode
      have hlen : bytes.length ≤ RAW_UDS_MAX_PAYLOAD_BYTES := by
        by_contra hlt
        rw [encodeRawUdsFrame, if_pos (not_le.mp hlt)] at hencode
        cases hencode
      have hvalid : RawUdsFrame.Valid ⟨.jsonControl, bytes⟩ := hlen
      obtain rfl : frameBytes ⟨.jsonControl, bytes⟩ = encoded :=
        Except.ok.inj (hvalid.encode.symm.trans hencode)
      obtain rfl : ⟨.jsonControl, bytes⟩ = frame :=
        Except.ok.inj ((decodeRawUdsFrame_frameBytes hvalid).symm.trans hdecode)
      exact ⟨⟨config, (receive_build (hjson bytes hdumps)).mp hreceive, hcarries⟩,
        bytes, rfl, hlen⟩
  · rintro ⟨⟨config, hstart, hcarries⟩, bytes, hdumps, hlen⟩
    have hvalid : RawUdsFrame.Valid ⟨.jsonControl, bytes⟩ := hlen
    refine ⟨frameBytes ⟨.jsonControl, bytes⟩, ⟨.jsonControl, bytes⟩, config, ?_,
      decodeRawUdsFrame_frameBytes hvalid, (receive_build (hjson bytes hdumps)).mpr hstart,
      hcarries⟩
    rw [encode_build, hdumps]
    exact hvalid.encode

end

/-- **Which constructed configurations can start a stream.** The server starts a stream with the
configured values on both transports exactly for acceptable configurations whose start message has
a JSON text within the payload limit. -/
theorem starts_iff {c : LocalSTTConfig} {clientStreamId : Option String} {metadata : Option Dict}
    {dumps : Dict → Except PyError Bytes} {loads : Bytes → JsonText} (hc : c.postInit = .ok ())
    (hjson : ∀ bytes, dumps (buildStartMessage c clientStreamId metadata) = .ok bytes →
      loads bytes = .value (.obj (buildStartMessage c clientStreamId metadata))) :
    StartsOnWebSocket c clientStreamId metadata ∧
        StartsOnRawUds dumps loads c clientStreamId metadata ↔
      Acceptable c ∧ ∃ bytes, dumps (buildStartMessage c clientStreamId metadata) = .ok bytes ∧
        bytes.length ≤ RAW_UDS_MAX_PAYLOAD_BYTES := by
  have hchecked := LocalSTTConfig.checked_of_postInit hc
  rw [startsOnWebSocket_iff hchecked, startsOnRawUds_iff hchecked hjson]
  exact and_iff_right_of_imp fun h => h.1

/-- The metadata of a call. -/
def roomMetadata : Dict := [("room", .str "blue")]

/-- The JSON text of the start message of the default configuration for a call. -/
def callStartText : String :=
  "\x7b\"type\":\"start\",\"protocol\":\"local-stt-v1\",\"language\":\"en\"," ++
  "\"sample_rate\":16000,\"channels\":1,\"format\":\"pcm_s16le\",\"frame_ms\":20," ++
  "\"interim_results\":true,\"partial_interval_ms\":100,\"partial_window_seconds\":1.0," ++
  "\"max_buffer_seconds\":10.0,\"client_stream_id\":\"call-7\"," ++
  "\"metadata\":\x7b\"room\":\"blue\"\x7d\x7d"

/-- The server starts a stream with a stream id and metadata for the default configuration, on both
transports. -/
theorem starts_iff_default :
    StartsOnWebSocket {} (some "call-7") (some roomMetadata) ∧
      StartsOnRawUds (fun _ => .ok callStartText.toUTF8.toList)
        (fun _ => .value (.obj (buildStartMessage {} (some "call-7") (some roomMetadata)))) {}
        (some "call-7") (some roomMetadata) := by
  have hchecked : LocalSTTConfig.postInit {} = .ok () := by decide +kernel
  have hacceptable : Acceptable {} := ⟨rfl, rfl, rfl, by decide +kernel⟩
  have hlength : callStartText.toUTF8.toList.length ≤ RAW_UDS_MAX_PAYLOAD_BYTES := by
    decide +kernel
  exact (starts_iff hchecked fun _ _ => rfl).mpr ⟨hacceptable, _, rfl, hlength⟩

/-- A configuration with 10 ms frames is constructed and starts no stream. -/
theorem not_startsOnWebSocket_frameMs :
    LocalSTTConfig.postInit { frameMs := 10 } = .ok () ∧
      ¬ StartsOnWebSocket { frameMs := 10 } none none := by
  have h : LocalSTTConfig.postInit { frameMs := 10 } = .ok () := by decide +kernel
  refine ⟨h, fun hstart => ?_⟩
  have hframe := ((startsOnWebSocket_iff (LocalSTTConfig.checked_of_postInit h)).mp hstart).frameMs
  exact absurd hframe (by decide)

end RtcAsr.Plugin
