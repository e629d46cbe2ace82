import RtcAsr.Protocol.Redump

/-!
# Raw UDS messages round-trip

An encoder validates the dump of its message, drops the fields that are `None`, an empty
`metadata` and a `finalize_on_stable_partial` that is `False`, and frames the text of the rest; a
ping or a pong without a field has no text.  The parser of the other side decodes the frame, gives
the payload of a ping, a pong or an error the type of its frame, and validates it.
-/

namespace RtcAsr

open Validated

/-! ## JSON texts -/

/-- A JSON value without a NaN. -/
inductive Json.NaNFree : Json → Prop
  | null : NaNFree .null
  | bool (b : Bool) : NaNFree (.bool b)
  | int (n : ℤ) : NaNFree (.int n)
  | float {x : PyFloat} (h : x ≠ .nan) : NaNFree (.float x)
  | str (s : String) : NaNFree (.str s)
  | arr {items : List Json} (h : ∀ v ∈ items, NaNFree v) : NaNFree (.arr items)
  | obj {fields : List (String × Json)} (h : ∀ b ∈ fields, NaNFree b.2) : NaNFree (.obj fields)

/-- `json.loads` inverts `json.dumps` where a text is produced, NaN apart, and refuses the empty
text. -/
structure JsonInverse (dumps : Json → Except PyError Bytes) (loads : Bytes → JsonText) :
    Prop where
  loads_dumps : ∀ {v : Json} {text : Bytes}, v.NaNFree → dumps v = .ok text → loads text = .value v
  loads_nil : loads [] = .malformed

/-- An optional field is NaN-free when its values are. -/
lemma Json.NaNFree.ofOption {α : Type} {f : α → Json} {x : Option α}
    (h : ∀ a, x = some a → (f a).NaNFree) : (Json.ofOption f x).NaNFree := by
  cases x with
  | none => exact .null
  | some a => exact h a rfl

/-- Bindings may be dropped from a NaN-free object. -/
lemma Json.NaNFree.filter {d : Dict} (h : (Json.obj d).NaNFree) (p : String × Json → Bool) :
    (Json.obj (d.filter p)).NaNFree := by
  cases h with
  | obj h => exact .obj fun b hb => h b (List.mem_of_mem_filter hb)

/-! ## Metadata and texts -/

/-- The metadata of a client message. -/
def ClientMessage.metadata : ClientMessage → Dict
  | .start m => m.metadata
  | .ping m => m.metadata
  | .pong m => m.metadata
  | _ => []

/-- The metadata of a server message. -/
def ServerMessage.metadata : ServerMessage → Dict
  | .ready m => m.metadata
  | .transcript m => m.metadata
  | .warning m => m.metadata
  | .error m => m.metadata
  | .ping m => m.metadata
  | .pong m => m.metadata
  | .closed m => m.metadata

/-- One more NaN-free binding. -/
lemma Json.NaNFree.cons {key : String} {j : Json} {d : Dict} (hj : j.NaNFree)
    (hd : (Json.obj d).NaNFree) : (Json.obj ((key, j) :: d)).NaNFree := by
  cases hd with
  | obj hd =>
    refine .obj fun b hb => ?_
    rcases List.mem_cons.mp hb with rfl | hb
    · exact hj
    · exact hd b hb

/-- The object without bindings. -/
lemma Json.NaNFree.nil : (Json.obj []).NaNFree := .obj fun b hb => by simp at hb

/-- The dump of an audio format is NaN-free. -/
lemma AudioFormat.nanFree (a : AudioFormat) : (Json.obj (excludeNone a.modelDump)).NaNFree := by
  refine Json.NaNFree.filter ?_ _
  exact .cons (.int _) (.cons (.int _) (.cons (.str _) (.cons (.int _)
    (.cons (.ofOption fun n _ => .int n) .nil))))

/-- A number field of a valid start message is no NaN. -/
lemma nanFree_number {x : Option PyFloat} {d : Dict} {name : String}
    (h : field d name (some none) positiveNumber = valid x) :
    (Json.ofOption .float x).NaNFree := by
  refine .ofOption fun a ha => .float ?_
  have hfin := (positiveNumber_eq_some (ha ▸ redumps_positiveNumber.field rfl h)).1
  rintro rfl
  simp [PyFloat.isFinite] at hfin

/-- The fields of a heartbeat are NaN-free when its metadata are. -/
lemma Heartbeat.nanFree {m : Heartbeat} (type : String) (h : (Json.obj m.metadata).NaNFree) :
    (Json.obj (m.fields type)).NaNFree :=
  .cons (.str _) (.cons (.ofOption fun s _ => .str s) (.cons (.ofOption fun n _ => .int n)
    (.cons h .nil)))

/-- The fields of a valid client message are NaN-free when its metadata are. -/
lemma ClientMessage.Valid.nanFree {m : ClientMessage} (hm : m.Valid)
    (h : (Json.obj m.metadata).NaNFree) : (Json.obj m.fields).NaNFree := by
  have hcases := hm.cases
  cases m with
  | start m =>
    obtain ⟨d, hd⟩ := hcases
    obtain ⟨-, -, -, -, hwindow, hbuffer, -⟩ := validateStart_eq_valid hd
    exact .cons (.str _) (.cons (.str _) (.cons m.audio.nanFree (.cons (.ofOption fun s _ => .str s)
      (.cons (.bool _) (.cons (.ofOption fun n _ => .int n) (.cons (nanFree_number hwindow)
      (.cons (nanFree_number hbuffer) (.cons (.bool _) (.cons (.ofOption fun n _ => .int n)
      (.cons (.ofOption fun s _ => .str s) (.cons h .nil)))))))))))
  | ping m => exact Heartbeat.nanFree "ping" h
  | pong m => exact Heartbeat.nanFree "pong" h
  | _ => exact .cons (.str _) .nil

/-- The fields of a server message are NaN-free when its metadata are. -/
lemma ServerMessage.nanFree {m : ServerMessage} (h : (Json.obj m.metadata).NaNFree) :
    (Json.obj m.fields).NaNFree := by
  cases m with
  | ready m =>
    exact .cons (.str _) (.cons (.str _) (.cons m.audio.nanFree (.cons (.bool _) (.cons h .nil))))
  | transcript m =>
    exact .cons (.str _) (.cons (.str _) (.cons (.bool _) (.cons (.bool _) (.cons (.int _)
      (.cons (.int _) (.cons (.int _) (.cons h (.cons (.ofOption fun s _ => .str s) .nil))))))))
  | warning m =>
    exact .cons (.str _) (.cons (.str _) (.cons (.str _) (.cons h (.cons (.bool _) .nil))))
  | error m =>
    exact .cons (.str _) (.cons (.str _) (.cons (.str _) (.cons h (.cons (.bool _)
      (.cons (.bool _) .nil)))))
  | ping m => exact Heartbeat.nanFree "ping" h
  | pong m => exact Heartbeat.nanFree "pong" h
  | closed m => exact .cons (.str _) (.cons (.str _) (.cons h .nil))

/-! ## The round trip -/

/-- The text the encoder frames for a client message exists and is within the limit; a plain
heartbeat has none. -/
def ClientMessage.EncodingFits (dumps : Json → Except PyError Bytes) (m : ClientMessage) : Prop :=
  m.isPlainHeartbeat = true ∨
    ∃ text, dumps (.obj (compactRawUdsMessagePayload (excludeNone m.fields))) = .ok text ∧
      text.length ≤ RAW_UDS_MAX_PAYLOAD_BYTES

/-- The text the encoder frames for a server message exists and is within the limit; a plain
heartbeat has none. -/
def ServerMessage.EncodingFits (dumps : Json → Except PyError Bytes) (m : ServerMessage) : Prop :=
  m.isPlainHeartbeat = true ∨
    ∃ text, dumps (.obj (compactRawUdsMessagePayload (excludeNone m.fields))) = .ok text ∧
      text.length ≤ RAW_UDS_MAX_PAYLOAD_BYTES

/-- A heartbeat without a field is the default one. -/
lemma Heartbeat.eq_default_of_isPlain {m : Heartbeat} (h : m.isPlain = true) : m = {} := by
  obtain ⟨pingId, timestamp, metadata⟩ := m
  simp only [Heartbeat.isPlain, Bool.and_eq_true, Option.isNone_iff_eq_none,
    List.isEmpty_iff] at h
  obtain ⟨⟨rfl, rfl⟩, rfl⟩ := h
  rfl

/-- A frame with a text carries the object the text was made of. -/
lemma decodeRawUdsJsonPayload_of_dumps {dumps : Json → Except PyError Bytes}
    {loads : Bytes → JsonText} (hjson : JsonInverse dumps loads) {d : Dict} {text : Bytes}
    (hd : (Json.obj d).NaNFree) (htext : dumps (.obj d) = .ok text) {type : RawUdsFrameType}
    (htype : type ≠ .audioPcm16) :
    text ≠ [] ∧ decodeRawUdsJsonPayload loads ⟨type, text⟩ = .ok d := by
  have hloads := hjson.loads_dumps hd htext
  refine ⟨?_, by simp [decodeRawUdsJsonPayload, htype, hloads]⟩
  rintro rfl
  rw [hjson.loads_nil] at hloads
  cases hloads

/-- The encoder of a JSON frame makes a frame that decodes to the text. -/
lemma encodeRawUdsJsonFrame_of_dumps {dumps : Json → Except PyError Bytes} {d : Dict}
    {text : Bytes} (htext : dumps (.obj d) = .ok text)
    (hlength : text.length ≤ RAW_UDS_MAX_PAYLOAD_BYTES) {type : RawUdsFrameType}
    (htype : type ≠ .audioPcm16) :
    ∃ data, encodeRawUdsJsonFrame dumps type d = .ok data ∧
      decodeRawUdsFrame data = .ok ⟨type, text⟩ := by
  have hvalid : (⟨type, text⟩ : RawUdsFrame).Valid := hlength
  refine ⟨frameBytes ⟨type, text⟩, ?_, decodeRawUdsFrame_frameBytes hvalid⟩
  rw [encodeRawUdsJsonFrame, if_neg htype, htext]
  exact hvalid.encode

/-- The encoder of a plain heartbeat makes a frame without a payload. -/
lemma encodeRawUdsFrame_nil (type : RawUdsFrameType) :
    ∃ data, encodeRawUdsFrame type [] = .ok data ∧ decodeRawUdsFrame data = .ok ⟨type, []⟩ := by
  have hvalid : (⟨type, []⟩ : RawUdsFrame).Valid := Nat.zero_le _
  exact ⟨_, hvalid.encode, decodeRawUdsFrame_frameBytes hvalid⟩

/-- The normalization leaves the dump of a client message as it is. -/
lemma normalize_fields {m : ClientMessage} {p : String × Json → Bool} (hp : DropsDefaults p) :
    normalizeRawUdsControlPayload (m.fields.filter p) = .ok (m.fields.filter p) := by
  rw [normalizeRawUdsControlPayload, if_pos]
  have htype := get?_filter_kept hp m.fields_spec.1 m.fields_spec.2 (by simp) (by simp)
  have hnodup := m.fields_spec.1
  simp only [Dict.getD, Dict.get?] at htype ⊢
  rw [htype]
  cases m with
  | start m =>
    right
    have haudio : Dict.get? ((ClientMessage.start m).fields.filter p) "audio" =
        some (.obj (excludeNone m.audio.modelDump)) :=
      get?_filter_kept hp hnodup
        (by simp [ClientMessage.fields, StartMessage.fields, Dict.get?, List.lookup_cons]) (by simp)
        (by simp)
    simp only [Dict.get?] at haudio
    simp [Dict.contains, haudio]
  | _ =>
    left
    simp [ClientMessage.tag, Json.isStr]

/-- Parsing a client frame with a text: the frame type decides how the message is read. -/
lemma parseRawUdsClientFrame_of_payload {loads : Bytes → JsonText} {m : ClientMessage}
    (hm : m.Valid) {p : String × Json → Bool} (hp : DropsDefaults p) {text : Bytes}
    (hne : text ≠ [])
    (hdecode : ∀ type, type ≠ RawUdsFrameType.audioPcm16 →
      decodeRawUdsJsonPayload loads ⟨type, text⟩ = .ok (m.fields.filter p)) :
    parseRawUdsClientFrame loads ⟨m.frameType, text⟩ = .ok (.message m) := by
  have hparse : parseClientMessage (m.fields.filter p) = .ok m := by
    rw [parseClientMessage, validateClientMessage_filter hp hm, validateMessage]
  have htype := get?_filter_kept hp m.fields_spec.1 m.fields_spec.2 (by simp) (by simp)
  have henvelope : parseClientMessage (("type", .str m.tag) :: m.fields.filter p) = .ok m := by
    rw [← hparse, parseClientMessage, parseClientMessage,
      validateClientMessage_congr (get?_envelope htype)]
  have happly : applyRawUdsEnvelopeType (m.fields.filter p) m.tag =
      .ok (("type", .str m.tag) :: m.fields.filter p) := by
    simp only [Dict.get?] at htype
    simp [applyRawUdsEnvelopeType, Dict.getD, htype, Json.isStr]
  cases m with
  | ping m =>
    simp only [ClientMessage.tag] at happly henvelope
    simp [parseRawUdsClientFrame, ClientMessage.frameType, hne, hdecode, happly, henvelope, recode,
      Bind.bind, Except.bind, Pure.pure, Except.pure]
  | pong m =>
    simp only [ClientMessage.tag] at happly henvelope
    simp [parseRawUdsClientFrame, ClientMessage.frameType, hne, hdecode, happly, henvelope, recode,
      Bind.bind, Except.bind, Pure.pure, Except.pure]
  | _ =>
    simp [parseRawUdsClientFrame, ClientMessage.frameType, hdecode, normalize_fields hp, hparse,
      recode, Bind.bind, Except.bind, Pure.pure, Except.pure]

/-- A client message round-trips. -/
lemma parse_encode_clientMessage {dumps : Json → Except PyError Bytes} {loads : Bytes → JsonText}
    (hjson : JsonInverse dumps loads) {m : ClientMessage} (hm : m.Valid)
    (hnan : (Json.obj m.metadata).NaNFree) (hfits : m.EncodingFits dumps) :
    ∃ data, encodeRawUdsClientMessage dumps m.rawUdsMessagePayload = .ok data ∧
      ((decodeRawUdsFrame data).bind fun frame => parseRawUdsClientFrame loads frame) =
        .ok (.message m) := by
  have hnormal : normalizeRawUdsControlPayload m.rawUdsMessagePayload =
      .ok m.rawUdsMessagePayload := normalize_fields dropsDefaults_excludeNone
  have hparse : parseClientMessage m.rawUdsMessagePayload = .ok m := by
    rw [parseClientMessage, ClientMessage.rawUdsMessagePayload, excludeNone,
      validateClientMessage_filter dropsDefaults_excludeNone hm, validateMessage]
  simp only [encodeRawUdsClientMessage, hnormal, hparse, Bind.bind, Except.bind]
  by_cases hplain : m.isPlainHeartbeat = true
  · obtain ⟨data, hdata, hdecoded⟩ := encodeRawUdsFrame_nil m.frameType
    refine ⟨data, by rw [if_pos hplain, hdata], ?_⟩
    rw [hdecoded]
    cases m with
    | ping m =>
      obtain rfl := Heartbeat.eq_default_of_isPlain hplain
      rfl
    | pong m =>
      obtain rfl := Heartbeat.eq_default_of_isPlain hplain
      rfl
    | _ => simp [ClientMessage.isPlainHeartbeat] at hplain
  · obtain ⟨text, htext, hlength⟩ := hfits.resolve_left hplain
    have hfree := (hm.nanFree hnan).filter fun b => !isPopped b && !b.2.isNull
    rw [compactRawUdsMessagePayload_eq] at htext
    have htype : m.frameType ≠ .audioPcm16 := by cases m <;> simp [ClientMessage.frameType]
    obtain ⟨data, hdata, hdecoded⟩ := encodeRawUdsJsonFrame_of_dumps htext hlength htype
    refine ⟨data, by rw [if_neg hplain, compactRawUdsMessagePayload_eq, hdata], ?_⟩
    rw [hdecoded]
    exact parseRawUdsClientFrame_of_payload hm dropsDefaults_compact
      (decodeRawUdsJsonPayload_of_dumps hjson hfree htext htype).1
      fun type htype => (decodeRawUdsJsonPayload_of_dumps hjson hfree htext htype).2

/-- Parsing a server frame with a text: the frame type decides how the message is read. -/
lemma parseRawUdsServerFrame_of_payload {loads : Bytes → JsonText} {m : ServerMessage}
    (hm : m.Valid) {p : String × Json → Bool} (hp : DropsDefaults p) {text : Bytes}
    (hne : text ≠ [])
    (hdecode : ∀ type, type ≠ RawUdsFrameType.audioPcm16 →
      decodeRawUdsJsonPayload loads ⟨type, text⟩ = .ok (m.fields.filter p)) :
    parseRawUdsServerFrame loads ⟨m.frameType, text⟩ = .ok m := by
  have hparse : parseServerMessage (m.fields.filter p) = .ok m := by
    rw [parseServerMessage, validateServerMessage_filter hp hm, validateMessage]
  have htype := get?_filter_kept hp m.fields_spec.1 m.fields_spec.2 (by simp) (by simp)
  have henvelope : parseServerMessage (("type", .str m.tag) :: m.fields.filter p) = .ok m := by
    rw [← hparse, parseServerMessage, parseServerMessage,
      validateServerMessage_congr (get?_envelope htype)]
  have happly : applyRawUdsEnvelopeType (m.fields.filter p) m.tag =
      .ok (("type", .str m.tag) :: m.fields.filter p) := by
    simp only [Dict.get?] at htype
    simp [applyRawUdsEnvelopeType, Dict.getD, htype, Json.isStr]
  cases m with
  | ping m =>
    simp only [ServerMessage.tag] at happly henvelope
    simp [parseRawUdsServerFrame, ServerMessage.frameType, hne, hdecode, happly, henvelope,
      recodeUnlessMismatch, Bind.bind, Except.bind]
  | pong m =>
    simp only [ServerMessage.tag] at happly henvelope
    simp [parseRawUdsServerFrame, ServerMessage.frameType, hne, hdecode, happly, henvelope,
      recodeUnlessMismatch, Bind.bind, Except.bind]
  | error m =>
    simp only [ServerMessage.tag] at happly henvelope
    simp [parseRawUdsServerFrame, ServerMessage.frameType, hdecode, happly, henvelope,
      recodeUnlessMismatch, Bind.bind, Except.bind]
  | _ =>
    simp [parseRawUdsServerFrame, ServerMessage.frameType, hdecode, hparse, recode, Bind.bind,
      Except.bind]

/-- A server message round-trips. -/
lemma parse_encode_serverMessage {dumps : Json → Except PyError Bytes} {loads : Bytes → JsonText}
    (hjson : JsonInverse dumps loads) {m : ServerMessage} (hm : m.Valid)
    (hnan : (Json.obj m.metadata).NaNFree) (hfits : m.EncodingFits dumps) :
    ∃ data, encodeRawUdsServerMessage dumps m.rawUdsMessagePayload = .ok data ∧
      ((decodeRawUdsFrame data).bind fun frame => parseRawUdsServerFrame loads frame) = .ok m := by
  have hparse : parseServerMessage m.rawUdsMessagePayload = .ok m := by
    rw [parseServerMessage, ServerMessage.rawUdsMessagePayload, excludeNone,
      validateServerMessage_filter dropsDefaults_excludeNone hm, validateMessage]
  simp only [encodeRawUdsServerMessage, hparse, Bind.bind, Except.bind]
  by_cases hplain : m.isPlainHeartbeat = true
  · obtain ⟨data, hdata, hdecoded⟩ := encodeRawUdsFrame_nil m.frameType
    refine ⟨data, by rw [if_pos hplain, hdata], ?_⟩
    rw [hdecoded]
    cases m with
    | ping m =>
      obtain rfl := Heartbeat.eq_default_of_isPlain hplain
      rfl
    | pong m =>
      obtain rfl := Heartbeat.eq_default_of_isPlain hplain
      rfl
    | _ => simp [ServerMessage.isPlainHeartbeat] at hplain
  · obtain ⟨text, htext, hlength⟩ := hfits.resolve_left hplain
    have hfree := (ServerMessage.nanFree hnan).filter fun b => !isPopped b && !b.2.isNull
    rw [compactRawUdsMessagePayload_eq] at htext
    have htype : m.frameType ≠ .audioPcm16 := by cases m <;> simp [ServerMessage.frameType]
    obtain ⟨data, hdata, hdecoded⟩ := encodeRawUdsJsonFrame_of_dumps htext hlength htype
    refine ⟨data, by rw [if_neg hplain, compactRawUdsMessagePayload_eq, hdata], ?_⟩
    rw [hdecoded]
    exact parseRawUdsServerFrame_of_payload hm dropsDefaults_compact
      (decodeRawUdsJsonPayload_of_dumps hjson hfree htext htype).1
      fun type htype => (decodeRawUdsJsonPayload_of_dumps hjson hfree htext htype).2

/-- **Raw UDS messages round-trip.** A valid message whose metadata hold no NaN and whose text fits
a frame is what the other side parses from its encoding. -/
theorem rawUdsMessages_roundTrip {dumps : Json → Except PyError Bytes} {loads : Bytes → JsonText}
    (hjson : JsonInverse dumps loads) :
    (∀ m : ClientMessage, m.Valid → (Json.obj m.metadata).NaNFree → m.EncodingFits dumps →
      ∃ data, encodeRawUdsClientMessage dumps m.rawUdsMessagePayload = .ok data ∧
        ((decodeRawUdsFrame data).bind fun frame => parseRawUdsClientFrame loads frame) =
          .ok (.message m)) ∧
    (∀ m : ServerMessage, m.Valid → (Json.obj m.metadata).NaNFree → m.EncodingFits dumps →
      ∃ data, encodeRawUdsServerMessage dumps m.rawUdsMessagePayload = .ok data ∧
        ((decodeRawUdsFrame data).bind fun frame => parseRawUdsServerFrame loads frame) = .ok m) :=
  ⟨fun _ => parse_encode_clientMessage hjson, fun _ => parse_encode_serverMessage hjson⟩

/-! ## A ping and a transcript -/

/-- The bytes of an ASCII text. -/
def asciiBytes (s : String) : Bytes := s.toList.map fun c => UInt8.ofNat c.toNat

/-- The text of a ping with an identifier and a `None` in its metadata. -/
def pingText : Bytes :=
  asciiBytes "\x7b\"type\":\"ping\",\"ping_id\":\"a\",\"metadata\":\x7b\"k\":null\x7d\x7d"

/-- The text of a final transcript without metadata and language. -/
def transcriptText : Bytes :=
  asciiBytes ("\x7b\"type\":\"transcript\",\"text\":\"hi\",\"is_final\":true," ++
    "\"speech_final\":true,\"revision\":1,\"audio_received_ms\":20,\"audio_transcribed_ms\":20\x7d")

/-- `json.dumps` on the two payloads. -/
def dumpsTwo : Json → Except PyError Bytes
  | .obj [("type", .str "ping"), ("ping_id", .str "a"), ("metadata", .obj [("k", .null)])] =>
    .ok pingText
  | .obj [("type", .str "transcript"), ("text", .str "hi"), ("is_final", .bool true),
      ("speech_final", .bool true), ("revision", .int 1), ("audio_received_ms", .int 20),
      ("audio_transcribed_ms", .int 20)] => .ok transcriptText
  | _ => .error (.valueError "")

/-- `json.loads` on the two texts. -/
def loadsTwo (text : Bytes) : JsonText :=
  if text = pingText then
    .value (.obj [("type", .str "ping"), ("ping_id", .str "a"), ("metadata", .obj [("k", .null)])])
  else if text = transcriptText then
    .value (.obj [("type", .str "transcript"), ("text", .str "hi"), ("is_final", .bool true),
      ("speech_final", .bool true), ("revision", .int 1), ("audio_received_ms", .int 20),
      ("audio_transcribed_ms", .int 20)])
  else .malformed

/-- The two functions invert each other. -/
lemma jsonInverse_two : JsonInverse dumpsTwo loadsTwo where
  loads_dumps := by
    intro v text _ h
    unfold dumpsTwo at h
    split at h
    · obtain rfl := Except.ok.inj h
      rw [loadsTwo, if_pos rfl]
    · obtain rfl := Except.ok.inj h
      rw [loadsTwo, if_neg (by decide +kernel), if_pos rfl]
    · cases h
  loads_nil := by rw [loadsTwo, if_neg (by decide +kernel), if_neg (by decide +kernel)]

/-- A ping with an identifier and a `None` in its metadata. -/
def taggedPing : ClientMessage := .ping { pingId := some "a", metadata := [("k", .null)] }

/-- A final transcript without metadata and language. -/
def shortTranscript : ServerMessage := .transcript ⟨"hi", true, true, 1, 20, 20, [], none⟩

/-- The ping and the transcript round-trip. -/
theorem rawUdsMessages_roundTrip_two :
    (∃ data, encodeRawUdsClientMessage dumpsTwo taggedPing.rawUdsMessagePayload = .ok data ∧
      ((decodeRawUdsFrame data).bind fun frame => parseRawUdsClientFrame loadsTwo frame) =
        .ok (.message taggedPing)) ∧
    (∃ data, encodeRawUdsServerMessage dumpsTwo shortTranscript.rawUdsMessagePayload = .ok data ∧
      ((decodeRawUdsFrame data).bind fun frame => parseRawUdsServerFrame loadsTwo frame) =
        .ok shortTranscript) := by
  have hround := rawUdsMessages_roundTrip jsonInverse_two
  exact ⟨hround.1 taggedPing ⟨taggedPing.fields, rfl⟩ (.cons .null .nil)
      (.inr ⟨pingText, rfl, by decide +kernel⟩),
    hround.2 shortTranscript ⟨shortTranscript.fields, rfl⟩ .nil
      (.inr ⟨transcriptText, rfl, by decide +kernel⟩)⟩

end RtcAsr
