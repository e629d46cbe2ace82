import RtcAsr.Protocol.Message

/-!
# Raw UDS frames

The raw Unix-socket framing of `src/protocols/local_stt_v1.py`: a frame is a type byte, the
payload length as an unsigned 32-bit little-endian integer, and the payload.  The second half is
what the server makes of a client frame: the normalization of flat start messages and
`parseRawUdsClientFrame`.

`json.loads` is a parameter (`JsonText` lists the ways it can end), so nothing here depends on the
JSON grammar.
-/

namespace RtcAsr

/-! ## Constants and frame types -/

def RAW_UDS_HEADER_BYTES : ℕ := 5
def RAW_UDS_MAX_PAYLOAD_BYTES : ℕ := 8 * 1024 * 1024

/-- `RawUdsFrameType`. -/
inductive RawUdsFrameType
  | jsonControl
  | audioPcm16
  | jsonEvent
  | error
  | ping
  | pong
  deriving DecidableEq, Repr

namespace RawUdsFrameType

/-- The byte a frame type is sent as. -/
def value : RawUdsFrameType → UInt8
  | jsonControl => 1
  | audioPcm16 => 2
  | jsonEvent => 3
  | error => 4
  | ping => 5
  | pong => 6

/-- The name of the enumeration member. -/
def name : RawUdsFrameType → String
  | jsonControl => "JSON_CONTROL"
  | audioPcm16 => "AUDIO_PCM16"
  | jsonEvent => "JSON_EVENT"
  | error => "ERROR"
  | ping => "PING"
  | pong => "PONG"

/-- `RawUdsFrameType(byte)`, `none` where the enumeration raises `ValueError`. -/
def ofByte? (b : UInt8) : Option RawUdsFrameType :=
  if b = 1 then some jsonControl
  else if b = 2 then some audioPcm16
  else if b = 3 then some jsonEvent
  else if b = 4 then some error
  else if b = 5 then some ping
  else if b = 6 then some pong
  else none

@[simp] lemma ofByte?_value (t : RawUdsFrameType) : ofByte? t.value = some t := by
  cases t <;> rfl

end RawUdsFrameType

/-- `RAW_UDS_SERVER_FRAME_TYPES`. -/
def RAW_UDS_SERVER_FRAME_TYPES : List RawUdsFrameType := [.jsonEvent, .error, .ping, .pong]

/-- `RawUdsFrame`. -/
structure RawUdsFrame where
  frameType : RawUdsFrameType
  payload : Bytes
  deriving DecidableEq, Repr

/-! ## Little-endian integers -/

/-- `int.from_bytes(bytes, "little")`. -/
def intFromBytesLittle : Bytes → ℕ
  | [] => 0
  | b :: bs => b.toNat + 256 * intFromBytesLittle bs

/-- The `k` low bytes of a number, the lowest first. -/
def bytesLittle : ℕ → ℕ → Bytes
  | 0, _ => []
  | k + 1, n => UInt8.ofNat (n % 256) :: bytesLittle k (n / 256)

@[simp] lemma length_bytesLittle (k n : ℕ) : (bytesLittle k n).length = k := by
  induction k generalizing n with
  | zero => rfl
  | succ k ih => simp [bytesLittle, ih]

/-- Reading back the low bytes of a number that fits in them. -/
lemma intFromBytesLittle_bytesLittle {k n : ℕ} (h : n < 256 ^ k) :
    intFromBytesLittle (bytesLittle k n) = n := by
  induction k generalizing n with
  | zero =>
    have hn : n = 0 := by simpa using h
    simp [bytesLittle, intFromBytesLittle, hn]
  | succ k ih =>
    have hq : n / 256 < 256 ^ k := by
      rw [Nat.div_lt_iff_lt_mul (by norm_num)]
      rwa [pow_succ] at h
    have hb : (UInt8.ofNat (n % 256)).toNat = n % 256 := by
      rw [UInt8.toNat_ofNat']
      omega
    rw [bytesLittle, intFromBytesLittle, ih hq, hb]
    omega

/-! ## Encoding and decoding one frame -/

/-- The protocol error of a payload above the limit. -/
def payloadTooLarge : LocalSttProtocolError :=
  { message := "Raw UDS frame payload exceeds 8388608 bytes", code := "raw_uds_payload_too_large" }

/-- The protocol error of an unknown frame type. -/
def unsupportedFrameType (b : UInt8) : LocalSttProtocolError :=
  { message := "Unsupported Raw UDS frame type: " ++ toString b,
    code := "raw_uds_unsupported_frame_type" }

/-- The five header bytes: `struct.pack("<BI", type, length)`. -/
def frameHeader (frame : RawUdsFrame) : Bytes :=
  frame.frameType.value :: bytesLittle 4 frame.payload.length

/-- The bytes of a frame. -/
def frameBytes (frame : RawUdsFrame) : Bytes := frameHeader frame ++ frame.payload

/-- `encode_raw_uds_frame`. -/
def encodeRawUdsFrame (frameType : RawUdsFrameType) (payload : Bytes) : Except Exn Bytes :=
  if RAW_UDS_MAX_PAYLOAD_BYTES < payload.length then .error (.protocol payloadTooLarge)
  else .ok (frameBytes ⟨frameType, payload⟩)

/-- `decode_raw_uds_frame`. -/
def decodeRawUdsFrame (data : Bytes) : Except Exn RawUdsFrame :=
  match data with
  | type :: l₀ :: l₁ :: l₂ :: l₃ :: payload =>
    match RawUdsFrameType.ofByte? type with
    | none => .error (.protocol (unsupportedFrameType type))
    | some frameType =>
      let payloadLength := intFromBytesLittle [l₀, l₁, l₂, l₃]
      if RAW_UDS_MAX_PAYLOAD_BYTES < payloadLength then .error (.protocol payloadTooLarge)
      else if payload.length ≠ payloadLength then
        .error (.protocol
          { message := "Raw UDS frame length mismatch: header declares " ++
              toString payloadLength ++ " payload bytes but received " ++ toString payload.length,
            code := "raw_uds_frame_length_mismatch" })
      else .ok ⟨frameType, payload⟩
  | _ =>
    .error (.protocol
      { message := "Raw UDS frames must include a 5 byte header",
        code := "raw_uds_incomplete_frame" })

/-- A frame the peer may send: the payload is within the limit. -/
def RawUdsFrame.Valid (frame : RawUdsFrame) : Prop :=
  frame.payload.length ≤ RAW_UDS_MAX_PAYLOAD_BYTES

instance (frame : RawUdsFrame) : Decidable frame.Valid :=
  inferInstanceAs (Decidable (_ ≤ _))

@[simp] lemma length_frameHeader (frame : RawUdsFrame) :
    (frameHeader frame).length = RAW_UDS_HEADER_BYTES := by
  simp [frameHeader, RAW_UDS_HEADER_BYTES]

/-- The length field of a valid frame's header is the length of its payload. -/
lemma RawUdsFrame.Valid.length_field {frame : RawUdsFrame} (h : frame.Valid) :
    intFromBytesLittle (bytesLittle 4 frame.payload.length) = frame.payload.length := by
  refine intFromBytesLittle_bytesLittle (lt_of_le_of_lt h ?_)
  norm_num [RAW_UDS_MAX_PAYLOAD_BYTES]

/-- A frame within the limit is encoded as its bytes. -/
lemma RawUdsFrame.Valid.encode {frame : RawUdsFrame} (h : frame.Valid) :
    encodeRawUdsFrame frame.frameType frame.payload = .ok (frameBytes frame) :=
  if_neg (not_lt.mpr h)

/-- Decoding the bytes of a valid frame gives the frame. -/
theorem decodeRawUdsFrame_frameBytes {frame : RawUdsFrame} (h : frame.Valid) :
    decodeRawUdsFrame (frameBytes frame) = .ok frame := by
  have hlength := h.length_field
  simp only [bytesLittle] at hlength
  simp only [frameBytes, frameHeader, bytesLittle, List.cons_append, List.nil_append,
    decodeRawUdsFrame, RawUdsFrameType.ofByte?_value, hlength]
  rw [if_neg (not_lt.mpr h), if_neg (by simp)]

/-! ## JSON payloads -/

/-- What becomes of a text given to `json.loads`: a value, a decode error (a text that is not
UTF-8 counts as one where the code catches it beside `JSONDecodeError`), or another exception
(`ValueError` on an integer of too many digits, `RecursionError` on deep nesting). -/
inductive JsonText
  | value (v : Json)
  | malformed
  | raised (error : PyError)

/-- `decode_raw_uds_json_payload`, `loads` being `json.loads(payload.decode("utf-8"))`. -/
def decodeRawUdsJsonPayload (loads : Bytes → JsonText) (frame : RawUdsFrame) : Except Exn Dict :=
  if frame.frameType = .audioPcm16 then
    .error (.protocol
      { message := "Raw UDS audio frames do not carry JSON payloads",
        code := "raw_uds_invalid_json_frame_type" })
  else
    match loads frame.payload with
    | .value (.obj d) => .ok d
    | .value _ =>
      .error (.protocol
        { message := "Raw UDS JSON frame payload must be a JSON object",
          code := "raw_uds_invalid_json" })
    | .malformed =>
      .error (.protocol
        { message := "Raw UDS JSON frame payload must be valid UTF-8 JSON",
          code := "raw_uds_invalid_json" })
    | .raised e => .error (.builtin e)

/-- The nested start message both transports translate a flat one into; the absent keys take the
defaults of `payload.get`. -/
def translateFlatStart (payload : Dict) : Dict :=
  [("type", .str "start"), ("version", .str PROTOCOL_VERSION),
    ("audio", .obj
      [("sample_rate", payload.getD "sample_rate" .null),
        ("channels", payload.getD "channels" .null),
        ("format", payload.getD "format" .null),
        ("frame_ms", payload.getD "frame_ms" (.int HOT_PATH_FRAME_MS)),
        ("bytes_per_frame", payload.getD "bytes_per_frame" .null)]),
    ("language", payload.getD "language" .null),
    ("interim_results", payload.getD "interim_results" (.bool true)),
    ("partial_interval_ms", payload.getD "partial_interval_ms" .null),
    ("partial_window_seconds", payload.getD "partial_window_seconds" .null),
    ("max_buffer_seconds", payload.getD "max_buffer_seconds" .null),
    ("finalize_on_stable_partial", payload.getD "finalize_on_stable_partial" (.bool false)),
    ("stable_partial_cycles", payload.getD "stable_partial_cycles" .null),
    ("client_stream_id", payload.getD "client_stream_id" .null),
    ("metadata", payload.getD "metadata" (.obj []))]

/-- `_normalize_raw_uds_control_payload`.  The membership test hashes the protocol, which raises
`TypeError` for a list or a dictionary. -/
def normalizeRawUdsControlPayload (payload : Dict) : Except Exn Dict :=
  if (payload.getD "type" .null).isStr "start" = false ∨ payload.contains "audio" = true then
    .ok payload
  else
    let protocol := payload.getD "protocol" (payload.getD "version" .null)
    match protocol.unhashableType with
    | some type => .error (.builtin (.typeError ("unhashable type: '" ++ type ++ "'")))
    | none =>
      if protocol.isStr "local-stt-v1" || protocol.isStr PROTOCOL_VERSION then
        .ok (translateFlatStart payload)
      else .ok payload

/-- `_apply_raw_uds_envelope_type`: the payload takes the type of its frame. -/
def applyRawUdsEnvelopeType (payload : Dict) (expectedType : String) : Except Exn Dict :=
  let payloadType := payload.getD "type" .null
  if payloadType.isNull || payloadType.isStr expectedType then
    .ok (("type", .str expectedType) :: payload)
  else
    .error (.protocol
      { message := "Raw UDS " ++ expectedType ++ " frame payload type must be " ++ expectedType ++
          ", not " ++ payloadType.pyStr,
        code := "raw_uds_frame_type_mismatch",
        metadata := [("frame_message_type", .str expectedType),
          ("payload_message_type", .str payloadType.pyStr)] })

/-- The rewrapping of a protocol error under another code, the first code kept in the metadata. -/
def recode (code : String) {α : Type} : Except Exn α → Except Exn α
  | .error (.protocol e) =>
    .error (.protocol
      { e with code := code, metadata := ("original_code", .str e.code) :: e.metadata })
  | r => r

/-- What `parse_raw_uds_client_frame` returns. -/
inductive RawUdsClientPayload
  | message (message : ClientMessage)
  | audio (chunk : Bytes)

/-- `parse_raw_uds_client_frame`. -/
def parseRawUdsClientFrame (loads : Bytes → JsonText) (frame : RawUdsFrame) :
    Except Exn RawUdsClientPayload :=
  match frame.frameType with
  | .audioPcm16 => do return .audio (← validateAudioChunk frame.payload)
  | .jsonControl => do
    let payload ← recode "raw_uds_malformed_json_control" do
      normalizeRawUdsControlPayload (← decodeRawUdsJsonPayload loads frame)
    let message ← recode "raw_uds_malformed_json_control" (parseClientMessage payload)
    return .message message
  | .ping => do
    let message ← recode "raw_uds_malformed_json_control" do
      let payload ← if frame.payload = [] then .ok [] else decodeRawUdsJsonPayload loads frame
      parseClientMessage (← applyRawUdsEnvelopeType payload "ping")
    return .message message
  | .pong => do
    let message ← recode "raw_uds_malformed_json_control" do
      let payload ← if frame.payload = [] then .ok [] else decodeRawUdsJsonPayload loads frame
      parseClientMessage (← applyRawUdsEnvelopeType payload "pong")
    return .message message
  | type =>
    .error (.protocol
      { message := "Raw UDS frame type " ++ type.name ++ " is not a client frame",
        code := "raw_uds_invalid_client_frame_type" })

end RtcAsr
