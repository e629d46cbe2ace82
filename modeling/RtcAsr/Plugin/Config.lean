import RtcAsr.Python.Value

/-!
# The plugin configuration

`LocalSTTConfig` of `src/pipecat-local-stt`, with the declared types of its fields: the transport
and the drop policy have the values of their `Literal`s, on which `_normalize_transport` is the
identity, and the checks for booleans in place of numbers have nothing to reject.
-/

namespace RtcAsr.Plugin

/-- `Transport`. -/
inductive Transport
  | tcpWs
  | udsWs
  | rawUds
  deriving DecidableEq, Repr

/-- The literal of a transport. -/
def Transport.name : Transport → String
  | .tcpWs => "tcp_ws"
  | .udsWs => "uds_ws"
  | .rawUds => "raw_uds"

/-- `DropPolicy`. -/
inductive DropPolicy
  | dropOldest
  | block
  | raise
  deriving DecidableEq, Repr

/-- `LocalSTTConfig`. -/
structure LocalSTTConfig where
  transport : Transport := .tcpWs
  url : String := "ws://rtc-asr:8080/v1/stt/stream"
  udsPath : Option String := none
  language : Option String := some "en"
  sampleRate : ℤ := 16000
  channels : ℤ := 1
  format : String := "pcm_s16le"
  frameMs : ℤ := 20
  aggregationMs : ℤ := 100
  preRollMs : ℤ := 200
  interimResults : Bool := true
  partialIntervalMs : ℤ := 100
  partialWindowSeconds : PyFloat := .finite 1
  maxBufferSeconds : PyFloat := .finite 10
  finalTimeoutS : PyFloat := .finite 1
  connectTimeoutS : PyFloat := .finite 3
  reconnectOnError : Bool := true
  maxSendQueueMs : ℤ := 500
  dropPolicy : DropPolicy := .dropOldest
  emitInterimFrames : Bool := true
  emitFinalFrames : Bool := true
  passAudioDownstream : Bool := true
  enableTimingMetadata : Bool := true

/-- The comparison `value < 0` on floats. -/
def negative : PyFloat → Bool
  | .finite q => decide (q < 0)
  | .negInf => true
  | .inf => false
  | .nan => false

/-- `not value or not value.strip()`. -/
def blank (s : String) : Bool := pyStrip s == ""

/-- The checks of `LocalSTTConfig.__post_init__` in their order: what fails, and the message. -/
def LocalSTTConfig.checks (c : LocalSTTConfig) : List (Bool × String) :=
  [(blank c.url, "url must not be empty"),
    (c.transport != .tcpWs && blank (c.udsPath.getD ""),
      "uds_path is required when transport is " ++ c.transport.name),
    (c.transport == .tcpWs && c.udsPath.isSome,
      "uds_path is only valid when transport is uds_ws or raw_uds"),
    (c.sampleRate != 16000, "sample_rate must be 16000 for Local STT v1 PCM16"),
    (c.channels != 1, "channels must be 1 for Local STT v1 mono PCM16"),
    (c.format != "pcm_s16le", "format must be pcm_s16le"),
    (decide (c.frameMs ≤ 0), "frame_ms must be positive"),
    (decide (c.aggregationMs ≤ 0), "aggregation_ms must be positive"),
    (decide (c.preRollMs < 0), "pre_roll_ms must be non-negative"),
    (decide (c.partialIntervalMs ≤ 0), "partial_interval_ms must be positive"),
    (c.partialWindowSeconds.nonpos, "partial_window_seconds must be positive"),
    (c.maxBufferSeconds.nonpos, "max_buffer_seconds must be positive"),
    (negative c.finalTimeoutS, "final_timeout_s must be non-negative"),
    (c.connectTimeoutS.nonpos, "connect_timeout_s must be positive"),
    (decide (c.maxSendQueueMs ≤ 0), "max_send_queue_ms must be positive")]

/-- `LocalSTTConfig.__post_init__`: the first failing check raises `ValueError`. -/
def LocalSTTConfig.postInit (c : LocalSTTConfig) : Except String Unit :=
  match c.checks.find? (·.1) with
  | some (_, message) => .error message
  | none => .ok ()

/-- A configuration is constructed when no check fails. -/
lemma LocalSTTConfig.postInit_eq_ok {c : LocalSTTConfig} :
    c.postInit = .ok () ↔ ∀ check ∈ c.checks, check.1 = false := by
  unfold LocalSTTConfig.postInit
  cases hf : c.checks.find? (·.1) with
  | none =>
    rw [List.find?_eq_none] at hf
    simpa using hf
  | some check =>
    simp only [reduceCtorEq, false_iff, not_forall]
    exact ⟨check, List.mem_of_find?_eq_some hf, by simpa using List.find?_some hf⟩

/-- What the start message needs of a configuration that was constructed. -/
structure LocalSTTConfig.Checked (c : LocalSTTConfig) : Prop where
  sampleRate : c.sampleRate = 16000
  channels : c.channels = 1
  format : c.format = "pcm_s16le"
  partialIntervalMs : 0 < c.partialIntervalMs
  partialWindowSeconds : c.partialWindowSeconds.nonpos = false
  maxBufferSeconds : c.maxBufferSeconds.nonpos = false

/-- A configuration that was constructed passed its checks. -/
lemma LocalSTTConfig.checked_of_postInit {c : LocalSTTConfig} (h : c.postInit = .ok ()) :
    c.Checked := by
  have hchecks := LocalSTTConfig.postInit_eq_ok.mp h
  simp only [LocalSTTConfig.checks, List.forall_mem_cons, bne_eq_false_iff_eq,
    decide_eq_false_iff_not, not_le] at hchecks
  obtain ⟨-, -, -, hrate, hchannels, hformat, -, -, -, hinterval, hwindow, hbuffer, -⟩ := hchecks
  exact ⟨hrate, hchannels, hformat, hinterval, hwindow, hbuffer⟩

/-- A configuration that was constructed has room in its send queue. -/
lemma LocalSTTConfig.maxSendQueueMs_pos {c : LocalSTTConfig} (h : c.postInit = .ok ()) :
    0 < c.maxSendQueueMs := by
  have hcheck := LocalSTTConfig.postInit_eq_ok.mp h
    (decide (c.maxSendQueueMs ≤ 0), "max_send_queue_ms must be positive") (by
      simp [LocalSTTConfig.checks])
  simpa using hcheck

end RtcAsr.Plugin
