import RtcAsr.Plugin.Config

/-!
# The events the plugin receives

`parse_server_message` and `parse_transcript_event` of the plugin's `protocol.py`, the generation a
payload carries (`_coerce_generation`, `_metadata_generation`), and the event that
`_handle_server_payload` makes of a payload.
-/

namespace RtcAsr.Plugin

/-- The exceptions of the service, by their class. -/
inductive PluginExn
  /-- `asyncio.TimeoutError`. -/
  | timeoutError
  /-- `asyncio.QueueFull`. -/
  | queueFull (message : String)
  | valueError (message : String)
  | runtimeError (message : String)
  /-- `LocalSTTProtocolError`. -/
  | protocolError (message code : String)
  /-- What a connection raises. -/
  | connection (name message : String)
  deriving DecidableEq, Repr

/-- `LocalSTTProtocolError` with its default code. -/
def invalidMessage (message : String) : PluginExn := .protocolError message "invalid_message"

/-! ## Messages -/

/-- `_SERVER_MESSAGE_TYPES`. -/
def SERVER_MESSAGE_TYPES : List String :=
  ["ready", "transcript", "warning", "error", "ping", "pong", "closed"]

/-- `parse_server_message`. -/
def parseServerMessage : Json → Except PluginExn Dict
  | .obj payload =>
    match Dict.get? payload "type" with
    | some (.str type) =>
      if type = "" then .error (invalidMessage "Local STT v1 server message is missing type")
      else if type ∈ SERVER_MESSAGE_TYPES then .ok payload
      else
        .error (.protocolError ("Unsupported Local STT v1 server message type: " ++ type)
          "unsupported_message_type")
    | _ => .error (invalidMessage "Local STT v1 server message is missing type")
  | _ => .error (invalidMessage "Local STT v1 server messages must be JSON objects")

/-- `LocalSTTTranscriptEvent`, without the copy of the payload. -/
structure TranscriptEvent where
  text : String
  isFinal : Bool
  speechFinal : Bool
  revision : ℤ
  audioReceivedMs : ℤ
  audioTranscribedMs : ℤ
  metadata : Dict
  language : Option String

/-- `payload[key]`, with the error that `parse_transcript_event` makes of a `KeyError`. -/
def requiredField (payload : Dict) (key : String) : Except PluginExn Json :=
  match payload.get? key with
  | some value => .ok value
  | none => .error (invalidMessage ("Transcript event missing required field: " ++ key))

/-- `_parse_bool_field`. -/
def parseBoolField (name : String) : Json → Except PluginExn Bool
  | .bool b => .ok b
  | _ => .error (invalidMessage ("Transcript event " ++ name ++ " must be a boolean"))

/-- `_parse_str_field`. -/
def parseStrField (name : String) : Json → Except PluginExn String
  | .str s => .ok s
  | _ => .error (invalidMessage ("Transcript event " ++ name ++ " must be a string"))

/-- `_parse_int_field`. -/
def parseIntField (name : String) : Json → Except PluginExn ℤ
  | .bool _ =>
    .error (invalidMessage ("Transcript event " ++ name ++ " must be an integer, not a boolean"))
  | .int n => .ok n
  | _ => .error (invalidMessage ("Transcript event " ++ name ++ " must be an integer"))

/-- `_copy_metadata` on the metadata of a transcript. -/
def copyMetadata : Option Json → Except PluginExn Dict
  | none => .ok []
  | some .null => .ok []
  | some (.obj d) => .ok d
  | some _ =>
    .error (.protocolError "Transcript event metadata must be a JSON object"
      "invalid_metadata_field")

/-- `parse_transcript_event` on a payload of type `transcript`. -/
def parseTranscriptEvent (payload : Dict) : Except PluginExn TranscriptEvent := do
  let metadata ← copyMetadata (payload.get? "metadata")
  let text ← requiredField payload "text" >>= parseStrField "text"
  let isFinalValue ← requiredField payload "is_final"
  let isFinal ← parseBoolField "is_final" isFinalValue
  let speechFinal ← parseBoolField "speech_final" (payload.getD "speech_final" isFinalValue)
  let revision ← requiredField payload "revision" >>= parseIntField "revision"
  let received ← requiredField payload "audio_received_ms" >>= parseIntField "audio_received_ms"
  let transcribed ←
    requiredField payload "audio_transcribed_ms" >>= parseIntField "audio_transcribed_ms"
  let language := match payload.get? "language" with
    | some (.str s) => some s
    | _ => none
  if revision < 1 then
    throw (invalidMessage "Transcript event revision must be positive")
  if received < 0 ∨ transcribed < 0 then
    throw (invalidMessage "Transcript event timing metadata must be non-negative")
  if received < transcribed then
    throw (invalidMessage "audio_transcribed_ms must be <= audio_received_ms")
  return ⟨text, isFinal, speechFinal, revision, received, transcribed, metadata, language⟩

/-! ## Generations -/

/-- What `_coerce_generation` returns: `None`, `_INVALID_GENERATION` or an integer. -/
inductive Generation
  | absent
  | invalid
  | known (n : ℤ)
  deriving DecidableEq, Repr

/-- The zeros of the runs of ten decimal digits of Unicode. -/
def DECIMAL_ZEROS : List ℕ :=
  [0x30, 0x660, 0x6f0, 0x7c0, 0x966, 0x9e6, 0xa66, 0xae6, 0xb66, 0xbe6, 0xc66, 0xce6, 0xd66, 0xde6,
    0xe50, 0xed0, 0xf20, 0x1040, 0x1090, 0x17e0, 0x1810, 0x1946, 0x19d0, 0x1a80, 0x1a90, 0x1b50,
    0x1bb0, 0x1c40, 0x1c50, 0xa620, 0xa8d0, 0xa900, 0xa9d0, 0xa9f0, 0xaa50, 0xabf0, 0xff10, 0x104a0,
    0x10d30, 0x11066, 0x110f0, 0x11136, 0x111d0, 0x112f0, 0x11450, 0x114d0, 0x11650, 0x116c0,
    0x11730, 0x118e0, 0x11950, 0x11c50, 0x11d50, 0x11da0, 0x16a60, 0x16ac0, 0x16b50, 0x1d7ce,
    0x1d7d8, 0x1d7e2, 0x1d7ec, 0x1d7f6, 0x1e140, 0x1e2f0, 0x1e950, 0x1fbf0]

/-- The value of a decimal digit. -/
def decimalDigit? (c : Char) : Option ℕ :=
  (DECIMAL_ZEROS.find? fun z => z ≤ c.toNat && c.toNat < z + 10).map (c.toNat - ·)

/-- The digits of a string for which `str.isdecimal` holds. -/
def decimalDigits? (s : String) : Option (List ℕ) :=
  if s = "" then none else s.toList.mapM decimalDigit?

/-- The number of digits `int(s)` converts at most. -/
def INT_MAX_STR_DIGITS : ℕ := 4300

/-- `int(s)` on the digits of a decimal string. -/
def intOfDigits (digits : List ℕ) : Except PluginExn ℤ :=
  if INT_MAX_STR_DIGITS < digits.length then
    .error (.valueError ("Exceeds the limit (4300 digits) for integer string conversion: value has "
      ++ toString digits.length
      ++ " digits; use sys.set_int_max_str_digits() to increase the limit"))
  else .ok (digits.foldl (fun n d => 10 * n + d) 0 : ℕ)

/-- `_coerce_generation`. -/
def coerceGeneration : Option Json → Except PluginExn Generation
  | none => .ok .absent
  | some .null => .ok .absent
  | some (.int n) => .ok (.known n)
  | some (.str s) =>
    match decimalDigits? (pyStrip s) with
    | none => .ok .invalid
    | some digits => (intOfDigits digits).map .known
  | some _ => .ok .invalid

/-- `_metadata_generation`: the generation of the metadata, else that of its `client_metadata`. -/
def metadataGeneration (metadata : Dict) : Except PluginExn Generation :=
  match coerceGeneration (metadata.get? "local_stt_generation") with
  | .ok .absent =>
    match metadata.get? "client_metadata" with
    | some (.obj client) => coerceGeneration (Dict.get? client "local_stt_generation")
    | _ => .ok .absent
  | generation => generation

/-- `_payload_generation`. -/
def payloadGeneration (payload : Dict) : Except PluginExn Generation :=
  match payload.get? "metadata" with
  | some (.obj metadata) => metadataGeneration metadata
  | _ => .ok .absent

/-- The check of `ready` events and of `_is_stale_transcript`: an invalid generation, or another
one than the current. -/
def Generation.stale (current : ℕ) : Generation → Bool
  | .absent => false
  | .invalid => true
  | .known n => n != current

/-! ## Events -/

/-- `_pong_payload`. -/
def pongPayload (payload : Dict) : Dict :=
  let carried (key : String) : Dict := match payload.get? key with
    | none => []
    | some .null => []
    | some value => [(key, value)]
  let metadata : Json := match payload.get? "metadata" with
    | some (.obj d) => .obj d
    | _ => .obj []
  [("type", .str "pong"), ("metadata", metadata)] ++ carried "ping_id" ++ carried "timestamp_ms"

/-- What `_handle_server_payload` distinguishes, with the generation it reads. -/
inductive ServerEvent
  | ping (reply : Dict)
  | pong
  | ready (generation : Generation)
  | transcript (event : TranscriptEvent) (generation : Generation)
  | warning
  | closed
  | error

/-- The event of a payload that passed `parse_server_message`. -/
def serverEvent (payload : Dict) : Except PluginExn ServerEvent :=
  match payload.get? "type" with
  | some (.str "ping") => .ok (.ping (pongPayload payload))
  | some (.str "pong") => .ok .pong
  | some (.str "ready") => (payloadGeneration payload).map .ready
  | some (.str "transcript") => do
    let event ← parseTranscriptEvent payload
    let generation ← metadataGeneration event.metadata
    return .transcript event generation
  | some (.str "warning") => .ok .warning
  | some (.str "closed") => .ok .closed
  | _ => .ok .error

/-- The event of a received JSON value, or what the receive loop gets instead. -/
def receivedEvent (value : Json) : Except PluginExn ServerEvent :=
  parseServerMessage value >>= serverEvent

end RtcAsr.Plugin
