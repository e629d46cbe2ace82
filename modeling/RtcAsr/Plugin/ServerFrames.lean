import RtcAsr.Plugin.FrameCodec
import RtcAsr.Protocol.RawUdsRoundTrip

/-!
# Server events at the plugin

`RawUdsConnectionAdapter.recv` of the plugin's `service.py` with `parse_raw_uds_server_frame` of its
`protocol.py`: a frame is read from the stream, decoded, and given as a JSON text, which the receive
loop loads and parses again.  What the server encodes arrives as the fields of its message, and a
transcript as a transcript event with the same contents (`serverMessages_reach_plugin`).

`loads` stands for `json.loads` on the UTF-8 text, and `dumps` for `json.dumps` to it.
-/

namespace RtcAsr.Plugin.RawUds

/-- An exception of `json` that the adapter does not catch. -/
def jsonExn : PyError → PluginExn
  | .overflowError message => .connection "OverflowError" message
  | .valueError message => .valueError message
  | .typeError message => .connection "TypeError" message
  | .other name message => .connection name message

/-- `repr` of a JSON value in the text of an error: a string without quotes in it. -/
def jsonRepr : Json → String
  | .str s => "'" ++ s ++ "'"
  | value => value.pyStr

/-- `decode_raw_uds_json_payload`. -/
def decodeRawUdsJsonPayload (loads : Bytes → JsonText) (frame : RawUdsFrame) :
    Except PluginExn Dict :=
  if frame.frameType = .audioPcm16 then
    .error (.protocolError ("Raw UDS frame type " ++ frame.frameType.name ++
      " does not carry a JSON payload") "raw_uds_invalid_json_frame_type")
  else
    match loads frame.payload with
    | .value (.obj payload) => .ok payload
    | .value _ =>
      .error (.protocolError "Raw UDS JSON payload must be an object" "raw_uds_invalid_json")
    | .malformed =>
      .error (.protocolError "Raw UDS JSON payload must be valid UTF-8 JSON"
        "raw_uds_invalid_json")
    | .raised e => .error (jsonExn e)

/-- `payload.setdefault("type", expected)` and the comparison of the type with that of the frame,
which `event` calls an event. -/
def applyEnvelopeType (frameName expected : String) (payload : Dict) : Except PluginExn Dict :=
  let payload := if payload.contains "type" then payload else payload ++ [("type", .str expected)]
  let eventType := payload.getD "type" .null
  if eventType.isStr expected then .ok payload
  else
    .error (.protocolError ("Raw UDS " ++ frameName ++ " frame cannot carry a " ++
      jsonRepr eventType ++ " event") "raw_uds_frame_type_mismatch")

/-- `parse_raw_uds_server_frame`. -/
def parseRawUdsServerFrame (loads : Bytes → JsonText) (frame : RawUdsFrame) :
    Except PluginExn Dict :=
  match frame.frameType with
  | .jsonEvent => do parseServerMessage (.obj (← decodeRawUdsJsonPayload loads frame))
  | .error => do
    let payload ← decodeRawUdsJsonPayload loads frame
    parseServerMessage (.obj (← applyEnvelopeType "ERROR" "error" payload))
  | .ping =>
    if frame.payload = [] then .ok [("type", .str "ping")]
    else do
      let payload ← decodeRawUdsJsonPayload loads frame
      parseServerMessage (.obj (← applyEnvelopeType "PING" "ping" payload))
  | .pong =>
    if frame.payload = [] then .ok [("type", .str "pong")]
    else do
      let payload ← decodeRawUdsJsonPayload loads frame
      parseServerMessage (.obj (← applyEnvelopeType "PONG" "pong" payload))
  | type =>
    .error (.protocolError ("Raw UDS frame type " ++ type.name ++ " is not a server frame")
      "raw_uds_invalid_server_frame_type")

/-- The error of a stream that ends inside a frame. -/
def streamEnded (received : ℕ) : PluginExn :=
  .protocolError ("Raw UDS stream ended with " ++ toString received ++ " buffered frame bytes")
    "raw_uds_incomplete_frame"

/-- `RawUdsConnectionAdapter.recv` on what is left of a stream: the text, and what is left then. -/
def recv (loads : Bytes → JsonText) (dumps : Json → Except PyError Bytes) (stream : Bytes) :
    Except PluginExn (Bytes × Bytes) :=
  match stream with
  | type :: l₀ :: l₁ :: l₂ :: l₃ :: rest =>
    match RawUdsFrameType.ofByte? type with
    | none => .error (unsupportedFrameType type)
    | some frameType =>
      if frameType = .jsonControl ∨ frameType = .audioPcm16 then
        .error (.protocolError ("Raw UDS frame type " ++ frameType.name ++ " is not a server frame")
          "raw_uds_invalid_server_frame_type")
      else
        let payloadLength := intFromBytesLittle [l₀, l₁, l₂, l₃]
        if RAW_UDS_MAX_PAYLOAD_BYTES < payloadLength then .error payloadTooLarge
        else if rest.length < payloadLength then
          .error (streamEnded (RAW_UDS_HEADER_BYTES + rest.length))
        else do
          let frame ← decodeRawUdsFrame (type :: l₀ :: l₁ :: l₂ :: l₃ :: rest.take payloadLength)
          let payload ← parseRawUdsServerFrame loads frame
          let text ← liftError jsonExn (dumps (.obj payload))
          return (text, rest.drop payloadLength)
  | partialHeader => .error (streamEnded partialHeader.length)

/-! ## Receiving a frame -/

/-- A valid server frame is received: the parser decides what becomes of it. -/
lemma recv_frameBytes (loads : Bytes → JsonText) (dumps : Json → Except PyError Bytes)
    {frame : RawUdsFrame} (h : frame.Valid) (htype : frame.frameType ∈ RAW_UDS_SERVER_FRAME_TYPES)
    {payload : Dict} {text : Bytes} (hparse : parseRawUdsServerFrame loads frame = .ok payload)
    (hdumps : dumps (.obj payload) = .ok text) (rest : Bytes) :
    recv loads dumps (frameBytes frame ++ rest) = .ok (text, rest) := by
  have hlength := h.length_field
  have hdecode := decodeRawUdsFrame_frameBytes h
  have hserver : ¬ (frame.frameType = .jsonControl ∨ frame.frameType = .audioPcm16) := by
    rintro (hf | hf) <;> rw [hf] at htype <;> simp [RAW_UDS_SERVER_FRAME_TYPES] at htype
  simp only [frameBytes, frameHeader, bytesLittle, List.cons_append, List.nil_append]
    at hlength hdecode ⊢
  simp only [recv, RawUdsFrameType.ofByte?_value, hlength]
  rw [if_neg hserver, if_neg (not_lt.mpr h), if_neg (by simp)]
  simp only [List.take_left', List.drop_left', hdecode, hparse, hdumps, liftError, Bind.bind,
    Except.bind, Pure.pure, Except.pure]

/-- A server message that was validated is parsed as it is. -/
lemma parseServerMessage_of_type {payload : Dict} {m : ServerMessage}
    (htype : payload.get? "type" = some (.str m.tag)) :
    parseServerMessage (.obj payload) = .ok payload := by
  simp only [parseServerMessage, htype]
  cases m <;> simp [ServerMessage.tag, SERVER_MESSAGE_TYPES]

/-- The envelope leaves a payload with the type of its frame as it is. -/
lemma applyEnvelopeType_of_type (frameName : String) {payload : Dict} {expected : String}
    (htype : payload.get? "type" = some (.str expected)) :
    applyEnvelopeType frameName expected payload = .ok payload := by
  have hcontains : payload.contains "type" = true := by
    simp only [Dict.get?] at htype
    simp [Dict.contains, htype]
  simp only [Dict.get?] at htype
  simp [applyEnvelopeType, hcontains, Dict.getD, htype, Json.isStr]

/-- The fields of a server message that were encoded are what the plugin parses. -/
lemma parseRawUdsServerFrame_of_payload {loads : Bytes → JsonText} {m : ServerMessage}
    {payload : Dict} (htype : payload.get? "type" = some (.str m.tag)) {text : Bytes}
    (hne : text ≠ []) (hloads : loads text = .value (.obj payload)) :
    parseRawUdsServerFrame loads ⟨m.frameType, text⟩ = .ok payload := by
  have hdecode : ∀ type, type ≠ RawUdsFrameType.audioPcm16 →
      decodeRawUdsJsonPayload loads ⟨type, text⟩ = .ok payload := by
    intro type htype
    simp [decodeRawUdsJsonPayload, htype, hloads]
  have hmessage := parseServerMessage_of_type htype
  cases m with
  | error m =>
    have happly := applyEnvelopeType_of_type "ERROR" htype
    simp only [ServerMessage.tag] at happly
    simp [parseRawUdsServerFrame, ServerMessage.frameType, hdecode, happly, hmessage, Bind.bind,
      Except.bind]
  | ping m =>
    have happly := applyEnvelopeType_of_type "PING" htype
    simp only [ServerMessage.tag] at happly
    simp [parseRawUdsServerFrame, ServerMessage.frameType, hne, hdecode, happly,
      hmessage, Bind.bind, Except.bind]
  | pong m =>
    have happly := applyEnvelopeType_of_type "PONG" htype
    simp only [ServerMessage.tag] at happly
    simp [parseRawUdsServerFrame, ServerMessage.frameType, hne, hdecode, happly,
      hmessage, Bind.bind, Except.bind]
  | _ =>
    simp [parseRawUdsServerFrame, ServerMessage.frameType, hdecode, hmessage,
      Bind.bind, Except.bind]

/-! ## Transcripts -/

/-- The event of a transcript message. -/
def transcriptEvent (m : TranscriptMessage) : TranscriptEvent :=
  ⟨m.text, m.isFinal, m.speechFinal, m.revision, m.audioReceivedMs, m.audioTranscribedMs,
    m.metadata, m.language⟩

/-- An integer with a lower bound is not below it. -/
lemma le_of_field_integerAtLeast {d : Dict} {name : String} {bound n : ℤ}
    (h : field d name none (integerAtLeast bound) = Validated.valid n) : bound ≤ n := by
  obtain ⟨j, -, hj⟩ := field_required_eq_valid h
  obtain ⟨n', -, hbound⟩ := Validated.andThen_eq_valid.mp hj
  split_ifs at hbound with hlt
  · simp at hbound
  · obtain rfl := Validated.valid.inj hbound
    exact not_lt.mp hlt

/-- A valid transcript has a positive revision, and has not transcribed more than it received. -/
lemma timing_of_validateTranscript {d : Dict} {m : TranscriptMessage}
    (h : validateTranscript d = Validated.valid m) :
    1 ≤ m.revision ∧ 0 ≤ m.audioReceivedMs ∧ 0 ≤ m.audioTranscribedMs ∧
      m.audioTranscribedMs ≤ m.audioReceivedMs := by
  obtain ⟨m', hfields, htiming⟩ := Validated.andThen_eq_valid.mp h
  unfold TranscriptMessage.validateTiming at htiming
  split_ifs at htiming with htranscribed hfinal
  · simp at htiming
  · simp at htiming
  obtain rfl := Validated.valid.inj htiming
  simp only [Validated.next_eq_valid, Validated.valid.injEq] at hfields
  obtain ⟨_, language, ⟨_, metadata, ⟨_, transcribed, ⟨_, received, ⟨_, revision, ⟨_, speechFinal,
    ⟨_, isFinal, ⟨_, text, rfl, -, rfl⟩, -, rfl⟩, -, rfl⟩, hrevision, rfl⟩, hreceived, rfl⟩,
    htranscribed', rfl⟩, -, rfl⟩, -, rfl⟩ := hfields
  exact ⟨le_of_field_integerAtLeast hrevision, le_of_field_integerAtLeast hreceived,
    le_of_field_integerAtLeast htranscribed', not_lt.mp htranscribed⟩

/-- What the encoder keeps of a transcript is parsed as its event. -/
lemma parseTranscriptEvent_fields {m : TranscriptMessage} (hrevision : 1 ≤ m.revision)
    (hreceived : 0 ≤ m.audioReceivedMs) (htranscribed : 0 ≤ m.audioTranscribedMs)
    (hle : m.audioTranscribedMs ≤ m.audioReceivedMs) :
    parseTranscriptEvent (m.fields.filter fun b => !isPopped b && !b.2.isNull) =
      .ok (transcriptEvent m) := by
  obtain ⟨text, isFinal, speechFinal, revision, received, transcribed, metadata, language⟩ := m
  simp only at hrevision hreceived htranscribed hle
  have hvalues : parseTranscriptEvent
      ((TranscriptMessage.fields ⟨text, isFinal, speechFinal, revision, received, transcribed,
        metadata, language⟩).filter fun b => !isPopped b && !b.2.isNull) =
      if revision < 1 then
        .error (invalidMessage "Transcript event revision must be positive")
      else if received < 0 ∨ transcribed < 0 then
        .error (invalidMessage "Transcript event timing metadata must be non-negative")
      else if received < transcribed then
        .error (invalidMessage "audio_transcribed_ms must be <= audio_received_ms")
      else
        .ok ⟨text, isFinal, speechFinal, revision, received, transcribed, metadata, language⟩ := by
    cases metadata with
    | nil =>
      cases language with
      | none => rfl
      | some language => rfl
    | cons binding metadata =>
      cases language with
      | none => rfl
      | some language => rfl
  rw [hvalues, if_neg (not_lt.mpr hrevision), if_neg, if_neg (not_lt.mpr hle)]
  · rfl
  · rintro (h | h)
    · exact absurd hreceived (not_le.mpr h)
    · exact absurd htranscribed (not_le.mpr h)

/-! ## Every event reaches the plugin -/

/-- The JSON functions of the two sides: both sides' texts load as what they were made of, and the
plugin writes again what the server could write, and a plain heartbeat. -/
structure JsonCodecs (dumps redumps : Json → Except PyError Bytes) (loads : Bytes → JsonText) :
    Prop where
  server : JsonInverse dumps loads
  plugin : JsonInverse redumps loads
  redumps_of_dumps : ∀ {v : Json} {text : Bytes}, dumps v = .ok text →
    ∃ text', redumps v = .ok text'
  redumps_heartbeat : ∀ type ∈ ["ping", "pong"],
    ∃ text, redumps (.obj [("type", .str type)]) = .ok text

/-- What an encoder keeps of a server message: no `None` and no empty metadata. -/
def kept (m : ServerMessage) : Dict := m.fields.filter fun b => !isPopped b && !b.2.isNull

/-- What is kept of a message has its type. -/
lemma kept_type (m : ServerMessage) : (kept m).get? "type" = some (.str m.tag) :=
  get?_filter_kept dropsDefaults_compact m.fields_spec.1 m.fields_spec.2 (by simp) (by simp)

/-- What is kept of a NaN-free message is NaN-free. -/
lemma nanFree_kept {m : ServerMessage} (h : (Json.obj m.metadata).NaNFree) :
    (Json.obj (kept m)).NaNFree :=
  (ServerMessage.nanFree h).filter _

/-- A server message is sent with a frame type of the server. -/
lemma frameType_mem (m : ServerMessage) : m.frameType ∈ RAW_UDS_SERVER_FRAME_TYPES := by
  cases m <;> simp [ServerMessage.frameType, RAW_UDS_SERVER_FRAME_TYPES]

/-- The encoder makes a valid frame that the plugin's frame parser reads as the message. -/
lemma encode_parsed {dumps redumps : Json → Except PyError Bytes} {loads : Bytes → JsonText}
    (hjson : JsonCodecs dumps redumps loads) {m : ServerMessage} (hm : m.Valid)
    (hnan : (Json.obj m.metadata).NaNFree) (hfits : m.EncodingFits dumps) :
    ∃ text,
      encodeRawUdsServerMessage dumps m.rawUdsMessagePayload =
        .ok (frameBytes ⟨m.frameType, text⟩) ∧
      text.length ≤ RAW_UDS_MAX_PAYLOAD_BYTES ∧
      parseRawUdsServerFrame loads ⟨m.frameType, text⟩ = .ok (kept m) ∧
      ∃ text', redumps (.obj (kept m)) = .ok text' := by
  have hparse : RtcAsr.parseServerMessage m.rawUdsMessagePayload = .ok m := by
    rw [RtcAsr.parseServerMessage, ServerMessage.rawUdsMessagePayload, excludeNone,
      validateServerMessage_filter dropsDefaults_excludeNone hm, validateMessage]
  simp only [encodeRawUdsServerMessage, hparse, Bind.bind, Except.bind]
  by_cases hplain : m.isPlainHeartbeat = true
  · have hvalid : (⟨m.frameType, []⟩ : RawUdsFrame).Valid := Nat.zero_le _
    refine ⟨[], by rw [if_pos hplain, hvalid.encode], Nat.zero_le _, ?_⟩
    cases m with
    | ping m =>
      obtain rfl := Heartbeat.eq_default_of_isPlain hplain
      exact ⟨rfl, hjson.redumps_heartbeat "ping" (by simp)⟩
    | pong m =>
      obtain rfl := Heartbeat.eq_default_of_isPlain hplain
      exact ⟨rfl, hjson.redumps_heartbeat "pong" (by simp)⟩
    | _ => simp [ServerMessage.isPlainHeartbeat] at hplain
  · obtain ⟨text, htext, hlength⟩ := hfits.resolve_left hplain
    have hvalid : (⟨m.frameType, text⟩ : RawUdsFrame).Valid := hlength
    have htype : m.frameType ≠ .audioPcm16 := by cases m <;> simp [ServerMessage.frameType]
    have hloads : loads text = .value (.obj (kept m)) := by
      rw [compactRawUdsMessagePayload_eq] at htext
      exact hjson.server.loads_dumps (nanFree_kept hnan) htext
    have hne : text ≠ [] := by
      rintro rfl
      rw [hjson.server.loads_nil] at hloads
      cases hloads
    refine ⟨text, ?_, hlength, parseRawUdsServerFrame_of_payload (kept_type m) hne hloads, ?_⟩
    · rw [if_neg hplain, encodeRawUdsJsonFrame, if_neg htype, htext]
      exact hvalid.encode
    · rw [compactRawUdsMessagePayload_eq] at htext
      exact hjson.redumps_of_dumps htext

/-- **Every server event reaches the plugin intact.** The frame of a valid server message whose
metadata hold no NaN and whose text fits is received, whatever follows it in the stream, as a text
that loads and parses as the message without its `None` fields and without empty metadata; a
transcript is parsed as an event with its contents. -/
theorem serverMessages_reach_plugin {dumps redumps : Json → Except PyError Bytes}
    {loads : Bytes → JsonText} (hjson : JsonCodecs dumps redumps loads) (m : ServerMessage)
    (hm : m.Valid) (hnan : (Json.obj m.metadata).NaNFree) (hfits : m.EncodingFits dumps) :
    ∃ data, encodeRawUdsServerMessage dumps m.rawUdsMessagePayload = .ok data ∧
      (∀ rest, ∃ text value, recv loads redumps (data ++ rest) = .ok (text, rest) ∧
        loads text = .value value ∧ Plugin.parseServerMessage value = .ok (kept m)) ∧
      ∀ t, m = .transcript t → parseTranscriptEvent (kept m) = .ok (transcriptEvent t) := by
  obtain ⟨text, hencode, hlength, hparse, text', htext'⟩ := encode_parsed hjson hm hnan hfits
  have hvalid : (⟨m.frameType, text⟩ : RawUdsFrame).Valid := hlength
  refine ⟨_, hencode, ?_, ?_⟩
  · intro rest
    exact ⟨text', _, recv_frameBytes loads redumps hvalid (frameType_mem m) hparse htext' rest,
      hjson.plugin.loads_dumps (nanFree_kept hnan) htext', parseServerMessage_of_type (kept_type m)⟩
  · rintro t rfl
    obtain ⟨d, hd⟩ := hm.cases
    obtain ⟨hrevision, hreceived, htranscribed, hle⟩ := timing_of_validateTranscript hd
    exact parseTranscriptEvent_fields hrevision hreceived htranscribed hle

/-! ## A transcript -/

/-- The text the adapter makes of the short transcript. -/
def spacedTranscriptText : Bytes :=
  asciiBytes ("\x7b\"type\": \"transcript\", \"text\": \"hi\", \"is_final\": true, " ++
    "\"speech_final\": true, \"revision\": 1, \"audio_received_ms\": 20, " ++
    "\"audio_transcribed_ms\": 20\x7d")

/-- The text the adapter makes of a plain heartbeat. -/
def heartbeatText (type : String) : Bytes := asciiBytes ("\x7b\"type\": \"" ++ type ++ "\"\x7d")

/-- The server's `json.dumps` on the short transcript. -/
def compactDumps : Json → Except PyError Bytes
  | .obj [("type", .str "transcript"), ("text", .str "hi"), ("is_final", .bool true),
      ("speech_final", .bool true), ("revision", .int 1), ("audio_received_ms", .int 20),
      ("audio_transcribed_ms", .int 20)] => .ok transcriptText
  | _ => .error (.valueError "")

/-- The plugin's `json.dumps` on the short transcript and on plain heartbeats. -/
def spacedDumps : Json → Except PyError Bytes
  | .obj [("type", .str "transcript"), ("text", .str "hi"), ("is_final", .bool true),
      ("speech_final", .bool true), ("revision", .int 1), ("audio_received_ms", .int 20),
      ("audio_transcribed_ms", .int 20)] => .ok spacedTranscriptText
  | .obj [("type", .str "ping")] => .ok (heartbeatText "ping")
  | .obj [("type", .str "pong")] => .ok (heartbeatText "pong")
  | _ => .error (.valueError "")

/-- `json.loads` on the texts of both. -/
def loadsBoth (text : Bytes) : JsonText :=
  if text = transcriptText ∨ text = spacedTranscriptText then
    .value (.obj [("type", .str "transcript"), ("text", .str "hi"), ("is_final", .bool true),
      ("speech_final", .bool true), ("revision", .int 1), ("audio_received_ms", .int 20),
      ("audio_transcribed_ms", .int 20)])
  else if text = heartbeatText "ping" then .value (.obj [("type", .str "ping")])
  else if text = heartbeatText "pong" then .value (.obj [("type", .str "pong")])
  else .malformed

/-- The empty text is refused. -/
lemma loadsBoth_nil : loadsBoth [] = .malformed := by
  rw [loadsBoth, if_neg (by decide +kernel), if_neg (by decide +kernel),
    if_neg (by decide +kernel)]

/-- The three functions fit each other. -/
lemma jsonCodecs_transcript : JsonCodecs compactDumps spacedDumps loadsBoth where
  server := by
    refine ⟨?_, loadsBoth_nil⟩
    intro v text _ h
    unfold compactDumps at h
    split at h
    · obtain rfl := Except.ok.inj h
      rw [loadsBoth, if_pos (.inl rfl)]
    · cases h
  plugin := by
    refine ⟨?_, loadsBoth_nil⟩
    intro v text _ h
    unfold spacedDumps at h
    split at h
    · obtain rfl := Except.ok.inj h
      rw [loadsBoth, if_pos (.inr rfl)]
    · obtain rfl := Except.ok.inj h
      rw [loadsBoth, if_neg (by decide +kernel), if_pos rfl]
    · obtain rfl := Except.ok.inj h
      rw [loadsBoth, if_neg (by decide +kernel), if_neg (by decide +kernel), if_pos rfl]
    · cases h
  redumps_of_dumps := by
    intro v text h
    unfold compactDumps at h
    split at h
    · exact ⟨_, rfl⟩
    · cases h
  redumps_heartbeat := by
    intro type htype
    simp only [List.mem_cons, List.not_mem_nil, or_false] at htype
    rcases htype with rfl | rfl
    · exact ⟨_, rfl⟩
    · exact ⟨_, rfl⟩

/-- The short transcript reaches the plugin. -/
theorem serverMessages_reach_plugin_transcript :
    ∃ data, encodeRawUdsServerMessage compactDumps shortTranscript.rawUdsMessagePayload = .ok data ∧
      (∀ rest, ∃ text value, recv loadsBoth spacedDumps (data ++ rest) = .ok (text, rest) ∧
        loadsBoth text = .value value ∧
        Plugin.parseServerMessage value = .ok (kept shortTranscript)) ∧
      ∀ t, shortTranscript = .transcript t →
        parseTranscriptEvent (kept shortTranscript) = .ok (transcriptEvent t) :=
  serverMessages_reach_plugin jsonCodecs_transcript shortTranscript ⟨shortTranscript.fields, rfl⟩
    .nil (.inr ⟨transcriptText, rfl, by decide +kernel⟩)

end RtcAsr.Plugin.RawUds
