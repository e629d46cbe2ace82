import RtcAsr.Protocol.RawUdsRead
import RtcAsr.Server.Legacy
import RtcAsr.Server.Transports

/-!
# What client input makes a handler raise

Everything a client can send on a v1 connection, and the loss of the connection, is turned into an
event, a disconnect, a protocol error, or another exception.  `ExtremeInput` lists the inputs of the
last kind by their fields, and `ExtremeMessage` does so for the legacy route, where only exceptions
that are no `ValueError` count.
-/

namespace RtcAsr

open Validated

/-! ## One receive -/

/-- `_receive_raw_uds_event` up to the frame, on the bytes the client sends before it closes the
stream. -/
def readRawUdsFrame (data : Bytes) : Except Exn RawUdsFrame :=
  if data.length < RAW_UDS_HEADER_BYTES then
    .error (RawUdsReader.server.incompleteHeader data.length)
  else
    let header := data.take RAW_UDS_HEADER_BYTES
    let payload := data.drop RAW_UDS_HEADER_BYTES
    match checkHeader .server header with
    | .error e => .error e
    | .ok length =>
      if payload.length < length then .error (incompletePayload payload.length length)
      else decodeRawUdsFrame (header ++ payload.take length)

/-- What a client sends to a v1 connection for one receive. -/
inductive ClientInput
  | webSocket (message : WebSocketMessage)
  | rawUds (data : Bytes)
  /-- The connection of a raw-UDS client is lost with an exception that is no end of the stream,
  such as `ConnectionResetError`; `readexactly` raises it. -/
  | rawUdsLost (name message : String)

/-- What the receive task makes of it. -/
def receiveClientInput (loads : Bytes → JsonText) : ClientInput → Except Exn ClientEvent
  | .webSocket message => receiveLocalSttEvent message
  | .rawUds data =>
    match readRawUdsFrame data with
    | .ok frame => receiveRawUdsFrame loads frame
    | .error e => .error e
  | .rawUdsLost name message => .error (.builtin (.other name message))

/-- An exception of a receive that the handlers expect. -/
def Exn.Expected : Exn → Prop
  | .disconnect => True
  | .protocol _ => True
  | _ => False

/-- Reading a frame raises expected exceptions only. -/
lemma readRawUdsFrame_expected {data : Bytes} {e : Exn} (h : readRawUdsFrame data = .error e) :
    e.Expected := by
  have hheader : ∀ bytes e, checkHeader .server bytes = .error e → e.Expected := by
    intro bytes e h
    unfold checkHeader at h
    split at h
    · cases h
    · split at h
      · cases h
        trivial
      · split_ifs at h with h₁ h₂
        · cases h
          trivial
        · cases h
          trivial
  have hdecode : ∀ bytes e, decodeRawUdsFrame bytes = .error e → e.Expected := by
    intro bytes e h
    unfold decodeRawUdsFrame at h
    split at h
    · split at h
      · cases h
        trivial
      · dsimp only at h
        split_ifs at h <;> cases h <;> trivial
    · cases h
      trivial
  unfold readRawUdsFrame at h
  split_ifs at h
  · cases h
    unfold RawUdsReader.incompleteHeader
    split_ifs <;> trivial
  · dsimp only at h
    split at h
    · next herror =>
      cases h
      exact hheader _ _ herror
    · split_ifs at h
      · cases h
        trivial
      · exact hdecode _ _ h

/-! ## Extreme start messages -/

/-- A start payload in the nested shape with a number beyond the float range: a number field, or
the quotient of a valid interval. -/
def ExtremeStart (d : Dict) : Prop :=
  HugeNumberField d ∨ ∃ m, validateStart d = valid m ∧ ¬ IntervalFits m

/-- Extreme start payloads are those on which the start parser fails. -/
lemma startOutcome_eq_failed {d : Dict} {legacy : Json} :
    startOutcome d legacy = .failed ↔ ExtremeStart d := by
  have hnull : startOutcome d .null = .failed ↔ ExtremeStart d := by
    rw [← not_iff_not, ← ne_eq, startOutcome_null_ne_failed, ExtremeStart, not_or]
    simp only [not_exists, not_and, not_not]
  rw [← hnull]
  rcases accepts_or_rejects_or_raises (validateStart d) with ⟨m, h⟩ | h | h
  · rw [startOutcome_of_valid h, startOutcome_of_valid h]
    cases hm : m.partialIntervalMs with
    | some ms => rw [startConfig_of_interval hm]
    | none =>
      obtain ⟨config, hconfig, -⟩ := startConfig_plain hm
      rw [startConfig_of_legacy hm, hconfig]
      cases legacy.isNull with
      | true => rfl
      | false => cases isPositiveInteger legacy <;> simp [configOutcome, Except.map]
  · rw [startOutcome_of_rejects h, startOutcome_of_rejects h]
  · rw [startOutcome_of_raises h, startOutcome_of_raises h]

/-- A websocket object that is an extreme start message. -/
def ExtremeObject (p : Dict) : Prop :=
  eventWord p = "start" ∧
    (FlatV1 p ∧ ExtremeStart (translateFlatStart p) ∨
      isFlatStart p = false ∧ SpelledStart p ∧ ExtremeStart p)

/-- A raw-UDS control object that is an extreme start message, or whose protocol cannot be
hashed. -/
def ExtremeControl (p : Dict) : Prop :=
  SpelledStart p ∧
    (p.contains "audio" = true ∧ ExtremeStart p ∨
      p.contains "audio" = false ∧
        ((protocolField p).unhashableType.isSome = true ∨
          (protocolField p).unhashableType = none ∧
            (KnownProtocol p ∧ ExtremeStart (translateFlatStart p) ∨
              ¬ KnownProtocol p ∧ ExtremeStart p)))

/-- The parser fails on start messages only. -/
lemma outcome_parse_ne_failed {p : Dict} (hs : ¬ SpelledStart p) :
    outcome (match parseClientMessage p with
      | .ok message => message.event
      | .error e => .error e) ≠ .failed := by
  cases hp : parseClientMessage p with
  | ok m =>
    cases m with
    | start m => exact absurd (spelledStart_iff.mpr (get?_type_of_parse hp)) hs
    | _ => simp [ClientMessage.event, outcome]
  | error e =>
    obtain ⟨error, rfl⟩ := parse_error_of_not_start hs hp
    simp [outcome]

/-- Extreme objects are those on which the websocket translator fails. -/
theorem outcome_object_eq_failed {p : Dict} :
    outcome (parseLocalSttClientEvent p) = .failed ↔ ExtremeObject p := by
  unfold ExtremeObject
  by_cases hword : eventWord p = "start"
  · rw [outcome_start hword]
    by_cases hv : FlatV1 p
    · rw [parseLocalSttStartMessage_flat hv, startOutcome_eq_failed]
      simp [hword, hv, hv.1]
    · cases hf : isFlatStart p with
      | true =>
        rw [parseLocalSttStartMessage_protocol hf hv]
        simp [hv]
      | false =>
        by_cases hs : SpelledStart p
        · rw [parseLocalSttStartMessage_not_flat hf hs, startOutcome_eq_failed]
          simp [hword, hv, hs]
        · rw [parseLocalSttStartMessage_misspelled hf hs]
          simp [hv, hs]
  · have hs : ¬ SpelledStart p :=
      fun hs => hword (eventWord_of_spelledStart (spelledStart_iff.mp hs))
    by_cases hstop : eventWord p = "stop"
    · rw [parseLocalSttClientEvent, if_neg hword, if_pos hstop]
      simp [hword, outcome]
    · rw [parseLocalSttClientEvent_other hword hstop]
      exact iff_of_false (outcome_parse_ne_failed hs) fun h => hword h.1

variable {loads : Bytes → JsonText}

/-- Extreme controls are the objects on which the raw-UDS translator fails. -/
theorem outcome_control_eq_failed {p : Dict} {bytes : Bytes} (h : loads bytes = .value (.obj p)) :
    outcome (receiveRawUdsFrame loads ⟨.jsonControl, bytes⟩) = .failed ↔ ExtremeControl p := by
  unfold ExtremeControl
  rw [outcome_control h]
  by_cases hs : SpelledStart p
  · by_cases ha : p.contains "audio" = true
    · rw [normalize_of_not_flat (.inr ha)]
      dsimp only
      rw [outcome_controlEvent_start hs, startOutcome_eq_failed]
      simp [hs, ha]
    · cases hu : (protocolField p).unhashableType with
      | some type =>
        rw [normalize_start hs ha, hu]
        simp [hs, ha, outcome]
      | none =>
        by_cases hk : KnownProtocol p
        · have hnorm : normalizeRawUdsControlPayload p = .ok (translateFlatStart p) := by
            rw [normalize_start hs ha, hu]
            exact if_pos (by rwa [Bool.or_eq_true])
          rw [hnorm]
          dsimp only
          rw [outcome_controlEvent_start (spelledStart_iff.mpr (get?_type_translateFlatStart p)),
            startOutcome_eq_failed]
          simp [hs, ha, hk]
        · have hnorm : normalizeRawUdsControlPayload p = .ok p := by
            rw [normalize_start hs ha, hu]
            exact if_neg (by rwa [Bool.or_eq_true])
          rw [hnorm]
          dsimp only
          rw [outcome_controlEvent_start hs, startOutcome_eq_failed]
          simp [hs, ha, hk]
  · rw [normalize_of_not_flat (.inl hs)]
    dsimp only
    rw [outcome_controlEvent_misspelled hs]
    exact iff_of_false (outcome_parse_ne_failed hs) fun h => hs h.1

/-- A heartbeat is refused with a protocol error, unless its payload is not even read. -/
lemma outcome_heartbeat {type : String} (htype : type ≠ "start") (payload : Except Exn Dict) :
    outcome (controlEvent (recode "raw_uds_malformed_json_control"
      (payload.bind fun p => (applyRawUdsEnvelopeType p type).bind parseClientMessage))) =
        .failed ↔ ∃ e, payload = .error e ∧ ∀ error, e ≠ .protocol error := by
  cases payload with
  | error e => cases e <;> simp [Except.bind, recode, controlEvent, outcome]
  | ok p =>
    refine iff_of_false ?_ (by simp)
    unfold applyRawUdsEnvelopeType
    dsimp only [Except.bind]
    split_ifs
    · have hs : ¬ SpelledStart (("type", .str type) :: p) := by
        rw [spelledStart_iff]
        simp [Dict.get?, htype]
      dsimp only
      cases hp : parseClientMessage (("type", .str type) :: p) with
      | ok m =>
        cases m with
        | start m => exact absurd (spelledStart_iff.mpr (get?_type_of_parse hp)) hs
        | _ => simp [recode, controlEvent, rawUdsEvent, ClientMessage.event, outcome]
      | error e =>
        obtain ⟨error, rfl⟩ := parse_error_of_not_start hs hp
        simp [recode, controlEvent, outcome]
    · simp [recode, controlEvent, outcome]

/-- Reading a JSON payload fails exactly when `json.loads` raises an unusual exception. -/
lemma decodeRawUdsJsonPayload_fails {frame : RawUdsFrame} (hframe : frame.frameType ≠ .audioPcm16) :
    (∃ e, decodeRawUdsJsonPayload loads frame = .error e ∧ ∀ error, e ≠ .protocol error) ↔
      ∃ e, loads frame.payload = .raised e := by
  unfold decodeRawUdsJsonPayload
  rw [if_neg hframe]
  cases loads frame.payload with
  | value v => cases v <;> simp
  | malformed => simp
  | raised e => simp

/-! ## Extreme input -/

/-- A frame with a JSON text `json.loads` raises an unusual exception on, or an extreme control
object. -/
def ExtremeFrame (loads : Bytes → JsonText) (frame : RawUdsFrame) : Prop :=
  match frame.frameType with
  | .jsonControl =>
    match loads frame.payload with
    | .raised _ => True
    | .value (.obj p) => ExtremeControl p
    | _ => False
  | .ping => frame.payload ≠ [] ∧ ∃ e, loads frame.payload = .raised e
  | .pong => frame.payload ≠ [] ∧ ∃ e, loads frame.payload = .raised e
  | _ => False

/-- Input on which a v1 handler raises neither a disconnect nor a protocol error. -/
def ExtremeInput (loads : Bytes → JsonText) : ClientInput → Prop
  | .webSocket (.text (.raised _)) => True
  | .webSocket (.text (.value (.obj p))) => ExtremeObject p
  | .webSocket _ => False
  | .rawUds data => ∃ frame, readRawUdsFrame data = .ok frame ∧ ExtremeFrame loads frame
  | .rawUdsLost _ _ => True

/-- The payload of a heartbeat frame; an empty one needs no JSON text. -/
lemma heartbeat_payload (frame : RawUdsFrame) (hframe : frame.frameType ≠ .audioPcm16) :
    (∃ e, (if frame.payload = [] then .ok [] else decodeRawUdsJsonPayload loads frame) = .error e ∧
      ∀ error, e ≠ .protocol error) ↔
        frame.payload ≠ [] ∧ ∃ e, loads frame.payload = .raised e := by
  split_ifs with hempty
  · simp [hempty]
  · rw [decodeRawUdsJsonPayload_fails hframe]
    simp [hempty]

/-- The dispatch on a parsed message. -/
lemma rawUdsEvent_message (message : Except Exn ClientMessage) :
    (match message.bind fun m => pure (RawUdsClientPayload.message m) with
      | .ok payload => rawUdsEvent payload
      | .error e => .error e) = controlEvent message := by
  cases message <;> rfl

/-- The dispatch on a heartbeat frame. -/
lemma receiveRawUdsFrame_ping (bytes : Bytes) :
    receiveRawUdsFrame loads ⟨.ping, bytes⟩ =
      controlEvent (recode "raw_uds_malformed_json_control"
        ((if bytes = [] then .ok [] else decodeRawUdsJsonPayload loads ⟨.ping, bytes⟩).bind
          fun p => (applyRawUdsEnvelopeType p "ping").bind parseClientMessage)) := by
  rw [← rawUdsEvent_message]
  split_ifs with hempty
  · simp only [receiveRawUdsFrame, parseRawUdsClientFrame, hempty, if_true]
    rfl
  · simp only [receiveRawUdsFrame, parseRawUdsClientFrame, hempty, if_false]
    rfl

lemma receiveRawUdsFrame_pong (bytes : Bytes) :
    receiveRawUdsFrame loads ⟨.pong, bytes⟩ =
      controlEvent (recode "raw_uds_malformed_json_control"
        ((if bytes = [] then .ok [] else decodeRawUdsJsonPayload loads ⟨.pong, bytes⟩).bind
          fun p => (applyRawUdsEnvelopeType p "pong").bind parseClientMessage)) := by
  rw [← rawUdsEvent_message]
  split_ifs with hempty
  · simp only [receiveRawUdsFrame, parseRawUdsClientFrame, hempty, if_true]
    rfl
  · simp only [receiveRawUdsFrame, parseRawUdsClientFrame, hempty, if_false]
    rfl

/-- Extreme frames are those on which the raw-UDS handler fails. -/
theorem outcome_frame_eq_failed (frame : RawUdsFrame) :
    outcome (receiveRawUdsFrame loads frame) = .failed ↔ ExtremeFrame loads frame := by
  obtain ⟨type, bytes⟩ := frame
  unfold ExtremeFrame
  cases type with
  | jsonControl =>
    dsimp only
    cases hloads : loads bytes with
    | value v =>
      cases v with
      | obj p => exact outcome_control_eq_failed hloads
      | _ =>
        simp [receiveRawUdsFrame, parseRawUdsClientFrame, decodeRawUdsJsonPayload, hloads, bind,
          Except.bind, recode, outcome]
    | malformed =>
      simp [receiveRawUdsFrame, parseRawUdsClientFrame, decodeRawUdsJsonPayload, hloads, bind,
        Except.bind, recode, outcome]
    | raised e =>
      simp [receiveRawUdsFrame, parseRawUdsClientFrame, decodeRawUdsJsonPayload, hloads, bind,
        Except.bind, recode, outcome]
  | ping =>
    rw [receiveRawUdsFrame_ping, outcome_heartbeat (by decide)]
    exact heartbeat_payload ⟨.ping, bytes⟩ (by simp)
  | pong =>
    rw [receiveRawUdsFrame_pong, outcome_heartbeat (by decide)]
    exact heartbeat_payload ⟨.pong, bytes⟩ (by simp)
  | audioPcm16 =>
    simp only [receiveRawUdsFrame, parseRawUdsClientFrame, validateAudioChunk]
    split_ifs <;> simp [bind, Except.bind, pure, Except.pure, rawUdsEvent, outcome]
  | _ => simp [receiveRawUdsFrame, parseRawUdsClientFrame, outcome]

/-- **Extreme input.** On a v1 connection, input that is not extreme raises expected exceptions
only. -/
theorem receiveClientInput_expected {input : ClientInput} (h : ¬ ExtremeInput loads input)
    {e : Exn} (he : receiveClientInput loads input = .error e) : e.Expected := by
  have hprotocol : ∀ {x : Except Exn ClientEvent}, outcome x ≠ .failed → x = .error e →
      e.Expected := by
    rintro x hx rfl
    cases e with
    | protocol error => trivial
    | _ => exact absurd rfl hx
  cases input with
  | rawUds data =>
    simp only [receiveClientInput] at he
    cases hframe : readRawUdsFrame data with
    | error e' =>
      rw [hframe] at he
      cases he
      exact readRawUdsFrame_expected hframe
    | ok frame =>
      rw [hframe] at he
      refine hprotocol (fun hfailed => h ⟨frame, hframe, ?_⟩) he
      exact (outcome_frame_eq_failed frame).mp hfailed
  | rawUdsLost name message => exact absurd trivial h
  | webSocket message =>
    simp only [receiveClientInput] at he
    cases message with
    | disconnect =>
      cases he
      trivial
    | empty =>
      cases he
      trivial
    | binary chunk =>
      simp only [receiveLocalSttEvent, validateAudioChunk] at he
      split_ifs at he
      all_goals
        simp only [Except.error.injEq] at he
      all_goals
        subst he
        trivial
    | text json =>
      cases json with
      | raised error => exact absurd trivial h
      | malformed =>
        cases he
        trivial
      | value v =>
        cases v with
        | obj p => exact hprotocol (fun hfailed => h (outcome_object_eq_failed.mp hfailed)) he
        | _ =>
          cases he
          trivial

/-! ## Unexpected exceptions -/

/-- The exception is raised by a translator: a protocol error or one of the language. -/
def Exn.OfTranslator : Exn → Prop
  | .protocol _ => True
  | .builtin _ => True
  | _ => False

/-- A result whose exception, if any, is raised by a translator. -/
def OfTranslator {α : Type} (x : Except Exn α) : Prop := ∀ e, x = .error e → e.OfTranslator

/-- The exceptions of two computations in sequence. -/
lemma OfTranslator.bind {α β : Type} {x : Except Exn α} {f : α → Except Exn β}
    (hx : OfTranslator x) (hf : ∀ a, OfTranslator (f a)) : OfTranslator (x >>= f) := by
  intro e he
  cases x with
  | error e' =>
    cases he
    exact hx _ rfl
  | ok a => exact hf a e he

lemma ofTranslator_ok {α : Type} (a : α) : OfTranslator (.ok a : Except Exn α) := nofun

lemma ofTranslator_protocol {α : Type} (e : LocalSttProtocolError) :
    OfTranslator (.error (.protocol e) : Except Exn α) := by
  rintro _ ⟨⟩
  trivial

lemma ofTranslator_builtin {α : Type} (e : PyError) :
    OfTranslator (.error (.builtin e) : Except Exn α) := by
  rintro _ ⟨⟩
  trivial

/-- A recoded protocol error is a protocol error. -/
lemma OfTranslator.recode {α : Type} {x : Except Exn α} (hx : OfTranslator x) (code : String) :
    OfTranslator (recode code x) := by
  intro e he
  cases x with
  | ok a => cases he
  | error e' =>
    cases e' with
    | protocol error =>
      cases he
      trivial
    | _ => exact hx e he

/-- The parser of client messages. -/
lemma parseClientMessage_ofTranslator (p : Dict) : OfTranslator (parseClientMessage p) := by
  unfold parseClientMessage validateMessage
  split
  · exact ofTranslator_ok _
  · exact ofTranslator_protocol _
  · exact ofTranslator_builtin _

/-- The parser of start messages. -/
lemma parseLocalSttStartMessage_ofTranslator (p : Dict) :
    OfTranslator (parseLocalSttStartMessage p) := by
  have hinterval : ∀ start chunks, OfTranslator (partialInterval start chunks) := by
    intro start chunks
    unfold partialInterval
    split
    · split
      · exact ofTranslator_ok _
      · exact ofTranslator_builtin _
    · split_ifs
      · exact ofTranslator_ok _
      · split
        · exact ofTranslator_ok _
        · exact ofTranslator_protocol _
  have hconfig : ∀ start chunks, OfTranslator (startConfig start chunks) := by
    intro start chunks e he
    unfold startConfig at he
    split at he
    · cases he
    · next herror =>
      cases he
      exact hinterval _ _ _ herror
  unfold parseLocalSttStartMessage
  dsimp only
  split_ifs
  · exact ofTranslator_protocol _
  all_goals
    split
    · exact hconfig _ _
    · exact ofTranslator_protocol _
    · next herror =>
      rintro _ ⟨⟩
      exact parseClientMessage_ofTranslator _ _ herror

/-- A start event is refused as its configuration is. -/
lemma startEvent_ofTranslator (p : Dict) :
    OfTranslator (startEvent (parseLocalSttStartMessage p)) := by
  intro e he
  cases hconfig : parseLocalSttStartMessage p with
  | ok config =>
    rw [hconfig] at he
    cases he
  | error e' =>
    rw [hconfig] at he
    cases he
    exact parseLocalSttStartMessage_ofTranslator p e hconfig

lemma event_ofTranslator (m : ClientMessage) : OfTranslator m.event := by
  cases m with
  | start start => exact ofTranslator_builtin _
  | _ => exact ofTranslator_ok _

/-- The websocket translator. -/
lemma parseLocalSttClientEvent_ofTranslator (p : Dict) :
    OfTranslator (parseLocalSttClientEvent p) := by
  unfold parseLocalSttClientEvent
  split_ifs
  · exact startEvent_ofTranslator p
  · exact ofTranslator_ok _
  · split
    · exact event_ofTranslator _
    · next herror =>
      rintro _ ⟨⟩
      exact parseClientMessage_ofTranslator _ _ herror

/-- The raw-UDS translator. -/
lemma receiveRawUdsFrame_ofTranslator (frame : RawUdsFrame) :
    OfTranslator (receiveRawUdsFrame loads frame) := by
  have hpayload : OfTranslator (decodeRawUdsJsonPayload loads frame) := by
    unfold decodeRawUdsJsonPayload
    split_ifs
    · exact ofTranslator_protocol _
    · split
      · exact ofTranslator_ok _
      · exact ofTranslator_protocol _
      · exact ofTranslator_protocol _
      · exact ofTranslator_builtin _
  have hnormalize : ∀ p, OfTranslator (normalizeRawUdsControlPayload p) := by
    intro p
    unfold normalizeRawUdsControlPayload
    split_ifs
    · exact ofTranslator_ok _
    · dsimp only
      split
      · exact ofTranslator_builtin _
      · split_ifs <;> exact ofTranslator_ok _
  have henvelope : ∀ p type, OfTranslator (applyRawUdsEnvelopeType p type) := by
    intro p type
    unfold applyRawUdsEnvelopeType
    dsimp only
    split_ifs
    · exact ofTranslator_ok _
    · exact ofTranslator_protocol _
  have hheartbeat : ∀ type, OfTranslator (do
      let payload ← if frame.payload = [] then .ok [] else decodeRawUdsJsonPayload loads frame
      parseClientMessage (← applyRawUdsEnvelopeType payload type)) := by
    intro type
    dsimp only
    split_ifs
    · exact (henvelope [] type).bind parseClientMessage_ofTranslator
    · exact hpayload.bind fun p => (henvelope p type).bind parseClientMessage_ofTranslator
  have hparse : OfTranslator (parseRawUdsClientFrame loads frame) := by
    unfold parseRawUdsClientFrame
    split
    · refine OfTranslator.bind ?_ fun _ => ofTranslator_ok _
      unfold validateAudioChunk
      split_ifs
      · exact ofTranslator_protocol _
      · exact ofTranslator_protocol _
      · exact ofTranslator_ok _
    · refine ((hpayload.bind hnormalize).recode _).bind fun p => ?_
      exact ((parseClientMessage_ofTranslator p).recode _).bind fun _ => ofTranslator_ok _
    · exact ((hheartbeat _).recode _).bind fun _ => ofTranslator_ok _
    · exact ((hheartbeat _).recode _).bind fun _ => ofTranslator_ok _
    · exact ofTranslator_protocol _
  unfold receiveRawUdsFrame
  split
  · next payload _ =>
    cases payload with
    | audio chunk => exact ofTranslator_ok _
    | message m =>
      cases m with
      | start m => exact startEvent_ofTranslator _
      | _ => exact ofTranslator_ok _
  · next herror =>
    rintro _ ⟨⟩
    exact hparse _ herror

/-- A translator that fails raises an exception of the language. -/
lemma exists_builtin_of_failed {x : Except Exn ClientEvent} (hx : OfTranslator x)
    (h : outcome x = .failed) : ∃ error, x = .error (.builtin error) := by
  cases x with
  | ok e => cases h
  | error e =>
    cases e with
    | builtin error => exact ⟨error, rfl⟩
    | protocol error => cases h
    | _ => exact absurd (hx _ rfl) id

/-- **Extreme input fails.** On a v1 connection, extreme input raises an exception of the
language. -/
theorem receiveClientInput_of_extreme {input : ClientInput} (h : ExtremeInput loads input) :
    ∃ error, receiveClientInput loads input = .error (.builtin error) := by
  cases input with
  | rawUds data =>
    obtain ⟨frame, hframe, hextreme⟩ := h
    obtain ⟨error, herror⟩ := exists_builtin_of_failed (receiveRawUdsFrame_ofTranslator frame)
      ((outcome_frame_eq_failed frame).mpr hextreme)
    exact ⟨error, by rw [receiveClientInput, hframe]; exact herror⟩
  | rawUdsLost name message => exact ⟨_, rfl⟩
  | webSocket message =>
    cases message with
    | text json =>
      cases json with
      | raised error => exact ⟨error, rfl⟩
      | malformed => exact absurd h id
      | value v =>
        cases v with
        | obj p =>
          exact exists_builtin_of_failed (parseLocalSttClientEvent_ofTranslator p)
            (outcome_object_eq_failed.mpr h)
        | _ => exact absurd h id
    | _ => exact absurd h id

/-! ## Sessions -/

/-- `round(seconds * sample_rate)` raises `OverflowError`. -/
def SecondsOverflow (seconds : PyFloat) (sampleRate : ℤ) : Prop :=
  Binary64.Overflows sampleRate ∨
    match seconds with
    | .finite q => Binary64.Overflows (q * Binary64.round sampleRate)
    | .nan => False
    | _ => True

/-- A product is rounded to an integer, overflows, or is not a number. -/
lemma secondsToBufferBytes_cases (seconds : PyFloat) (sampleRate : ℤ) :
    (∃ n, secondsToBufferBytes seconds sampleRate = .ok n ∧
      ¬ SecondsOverflow seconds sampleRate ∧ seconds ≠ .nan) ∨
    (∃ message, secondsToBufferBytes seconds sampleRate = .error (.overflowError message) ∧
      SecondsOverflow seconds sampleRate) ∨
    (∃ message, secondsToBufferBytes seconds sampleRate = .error (.valueError message) ∧
      ¬ SecondsOverflow seconds sampleRate ∧ seconds = .nan) := by
  unfold secondsToBufferBytes SecondsOverflow
  by_cases hrate : Binary64.Overflows (sampleRate : ℚ)
  · exact Or.inr (Or.inl ⟨_, by rw [intToFloat, if_pos hrate]; rfl, Or.inl hrate⟩)
  · rw [show intToFloat sampleRate = .ok (Binary64.round sampleRate) from if_neg hrate]
    cases seconds with
    | finite q =>
      by_cases hq : Binary64.Overflows (q * Binary64.round sampleRate)
      · refine Or.inr (Or.inl ⟨"cannot convert float infinity to integer", ?_, Or.inr hq⟩)
        by_cases hpos : 0 < q * Binary64.round sampleRate <;>
          simp [PyFloat.mulPos, PyFloat.ofRat, hq, hpos, PyFloat.toIntRound, bind, Except.bind]
      · obtain ⟨samples, hsamples⟩ : ∃ samples,
            ((PyFloat.finite q).mulPos (Binary64.round sampleRate)).toIntRound = .ok samples := by
          rw [PyFloat.mulPos, PyFloat.ofRat, if_neg hq]
          exact ⟨_, rfl⟩
        refine Or.inl ⟨(max 1 samples).toNat * 2, ?_, by simp [hrate, hq], by simp⟩
        simp only [bind, Except.bind, hsamples]
        rfl
    | inf => exact Or.inr (Or.inl ⟨_, rfl, Or.inr trivial⟩)
    | negInf => exact Or.inr (Or.inl ⟨_, rfl, Or.inr trivial⟩)
    | nan => exact Or.inr (Or.inr ⟨_, rfl, by simp [hrate], rfl⟩)

/-- A number of seconds no session can be made with. -/
def ExtremeSeconds (seconds : Option PyFloat) (sampleRate : ℤ) : Prop :=
  ∃ x, seconds = some x ∧ (SecondsOverflow x sampleRate ∨ x = .nan)

/-- A configuration whose buffer or window cannot be computed. -/
def ExtremeConfig (config : LocalSttStartConfig) : Prop :=
  ExtremeSeconds config.maxBufferSeconds config.start.audio.sampleRate ∨
    ExtremeSeconds config.partialWindowSeconds config.start.audio.sampleRate

/-- A limit can be computed unless the number of seconds is extreme. -/
lemma bytesWithin_isOk_iff (limit : ℕ) (seconds : Option PyFloat) (sampleRate : ℤ) :
    (∃ n, bytesWithin limit seconds sampleRate = .ok n) ↔ ¬ ExtremeSeconds seconds sampleRate := by
  cases seconds with
  | none => simp [bytesWithin, ExtremeSeconds]
  | some x =>
    obtain ⟨n, h, hfits, hnan⟩ | ⟨message, h, hoverflow⟩ | ⟨message, h, -, hnan⟩ :=
      secondsToBufferBytes_cases x sampleRate
    · simp [bytesWithin, h, Except.map, ExtremeSeconds, hfits, hnan]
    · simp [bytesWithin, h, Except.map, ExtremeSeconds, hoverflow]
    · subst hnan
      simp [bytesWithin, h, Except.map, ExtremeSeconds]

/-- **Extreme configurations** are those from which no v1 session can be created. -/
theorem createLocalSttStreamSession_isOk_iff (config : LocalSttStartConfig)
    (streamMaxBufferBytes streamId : ℕ) :
    (∃ session, createLocalSttStreamSession config streamMaxBufferBytes streamId = .ok session) ↔
      ¬ ExtremeConfig config := by
  unfold createLocalSttStreamSession ExtremeConfig
  rw [not_or, ← bytesWithin_isOk_iff streamMaxBufferBytes]
  simp only [bind, Except.bind, pure, Except.pure]
  cases hlimit : bytesWithin streamMaxBufferBytes config.maxBufferSeconds
      config.start.audio.sampleRate with
  | error e => simp
  | ok limit =>
    rw [← bytesWithin_isOk_iff (limit.getD streamMaxBufferBytes)]
    cases hwindow : bytesWithin (limit.getD streamMaxBufferBytes) config.partialWindowSeconds
        config.start.audio.sampleRate with
    | error e => simp [hwindow]
    | ok window => simp [hwindow]

/-! ## The legacy route -/

/-- An exception the legacy route expects: every `ValueError` is the client's. -/
def Exn.ExpectedLegacy : Exn → Prop
  | .disconnect => True
  | .protocol _ => True
  | .streamClient _ _ => True
  | .builtin (.valueError _) => True
  | _ => False

/-- A positive JSON integer without a float. -/
def Json.HugeSeconds (j : Json) : Prop := ∃ n : ℤ, j = .int n ∧ 0 < n ∧ Binary64.Overflows n

/-- A start message of the legacy route that makes `_create_stream_session` raise
`OverflowError`, in the order of its checks. -/
def ExtremeSession (config : LegacyConfig) (p : Dict) : Prop :=
  (p.getD "partial_window_seconds" .null).HugeSeconds ∨
  ∃ window, positiveSeconds "partial_window_seconds" (p.getD "partial_window_seconds" .null) =
      .ok window ∧
    ((p.getD "max_buffer_seconds" .null).HugeSeconds ∨
    ∃ buffer rate, positiveSeconds "max_buffer_seconds" (p.getD "max_buffer_seconds" .null) =
        .ok buffer ∧
      isPositiveInteger (p.getD "sample_rate" (.int config.sampleRate)) = some rate ∧
      (isPositiveInteger (p.getD "partial_interval_chunks" (.int 1))).isSome = true ∧
      (startLanguage p).isSome = true ∧
      ((∃ x, buffer = some x ∧ SecondsOverflow x rate) ∨
        ¬ ExtremeSeconds buffer rate ∧ ∃ x, window = some x ∧ SecondsOverflow x rate))

/-- A message of the legacy route that makes it raise an exception it does not expect: the JSON text
does so, or the start of a session. -/
def ExtremeMessage (config : LegacyConfig) (session : Option StreamSession) :
    WebSocketMessage → Prop
  | .text (.raised e) => ∀ message, e ≠ .valueError message
  | .text (.value (.obj p)) =>
    eventWord p = "start" ∧ session = none ∧ ExtremeSession config p
  | _ => False

/-- A number of seconds is read, is the client's error, or has no float. -/
lemma positiveSeconds_expected {fieldName : String} {j : Json} (h : ¬ j.HugeSeconds) {e : Exn}
    (he : positiveSeconds fieldName j = .error e) : e.ExpectedLegacy := by
  cases j with
  | int n =>
    simp only [positiveSeconds] at he
    split_ifs at he with hn
    · cases he
      trivial
    · by_cases hover : Binary64.Overflows (n : ℚ)
      · exact absurd ⟨n, rfl, not_le.mp hn, hover⟩ h
      · simp [intToFloat, hover, Except.map, liftError] at he
  | float x =>
    simp only [positiveSeconds] at he
    split_ifs at he
    cases he
    trivial
  | null => cases he
  | bool b =>
    cases he
    trivial
  | str s =>
    cases he
    trivial
  | arr items =>
    cases he
    trivial
  | obj fields =>
    cases he
    trivial

/-- A limit the legacy route computes, unless it overflows. -/
lemma bytesWithin_expected {limit : ℕ} {seconds : Option PyFloat} {sampleRate : ℤ}
    (h : ¬ ∃ x, seconds = some x ∧ SecondsOverflow x sampleRate) {e : Exn}
    (he : liftError .builtin (bytesWithin limit seconds sampleRate) = .error e) :
    e.ExpectedLegacy := by
  cases seconds with
  | none => cases he
  | some x =>
    obtain ⟨n, hn, -⟩ | ⟨message, -, hoverflow⟩ | ⟨message, hmessage, -⟩ :=
      secondsToBufferBytes_cases x sampleRate
    · simp [bytesWithin, hn, Except.map, liftError] at he
    · exact absurd ⟨x, rfl, hoverflow⟩ h
    · simp only [bytesWithin, hmessage, Except.map, liftError] at he
      cases he
      trivial

/-- **Extreme sessions.** A start message of the legacy route that is not extreme raises expected
exceptions only. -/
theorem createStreamSession_expected {config : LegacyConfig} {p : Dict} {streamId : ℕ}
    (h : ¬ ExtremeSession config p) {e : Exn}
    (he : createStreamSession config p streamId = .error e) : e.ExpectedLegacy := by
  unfold ExtremeSession at h
  rw [not_or] at h
  obtain ⟨hwindow, h⟩ := h
  unfold createStreamSession at he
  simp only [bind, Except.bind] at he
  split at he
  · next herror =>
    cases he
    exact positiveSeconds_expected hwindow herror
  · next window hok =>
    obtain ⟨hbuffer, h⟩ := not_or.mp fun hextreme => h ⟨window, hok, hextreme⟩
    split at he
    · next herror =>
      cases he
      exact positiveSeconds_expected hbuffer herror
    · next buffer hok' =>
      split at he
      · cases he
        trivial
      · next rate hrate =>
        split at he
        · cases he
          trivial
        · next chunks hchunks =>
          split at he
          · cases he
            trivial
          · next language hlanguage =>
            obtain ⟨hlimit, h⟩ := not_or.mp fun hextreme => h ⟨buffer, rate, hok', hrate,
              by rw [hchunks]; rfl, by rw [hlanguage]; rfl, hextreme⟩
            split at he
            · next herror =>
              cases he
              exact bytesWithin_expected hlimit herror
            · next limit hlimit' =>
              have hfits : ¬ ExtremeSeconds buffer rate := by
                rw [← bytesWithin_isOk_iff config.streamMaxBufferBytes]
                cases hbytes : bytesWithin config.streamMaxBufferBytes buffer rate with
                | ok n => exact ⟨n, rfl⟩
                | error e' =>
                  rw [hbytes] at hlimit'
                  cases hlimit'
              split at he
              · next herror =>
                cases he
                exact bytesWithin_expected (fun hx => h ⟨hfits, hx⟩) herror
              · cases he

/-- The result is an `OverflowError`. -/
def RaisesOverflow {α : Type} (x : Except Exn α) : Prop :=
  ∃ message, x = .error (.builtin (.overflowError message))

/-- A number of seconds without a float raises `OverflowError`. -/
lemma positiveSeconds_overflow (fieldName : String) {j : Json} (h : j.HugeSeconds) :
    RaisesOverflow (positiveSeconds fieldName j) := by
  obtain ⟨n, rfl, hn, hover⟩ := h
  refine ⟨"int too large to convert to float", ?_⟩
  simp [positiveSeconds, not_le.mpr hn, intToFloat, hover, Except.map, liftError]

/-- A limit that overflows raises `OverflowError`. -/
lemma bytesWithin_overflow (limit : ℕ) {seconds : Option PyFloat} {sampleRate : ℤ}
    (h : ∃ x, seconds = some x ∧ SecondsOverflow x sampleRate) :
    RaisesOverflow (liftError Exn.builtin (bytesWithin limit seconds sampleRate)) := by
  obtain ⟨x, rfl, hover⟩ := h
  obtain ⟨n, -, hfits, -⟩ | ⟨message, hmessage, -⟩ | ⟨message, -, hfits, -⟩ :=
    secondsToBufferBytes_cases x sampleRate
  · exact absurd hover hfits
  · exact ⟨message, by simp [bytesWithin, hmessage, Except.map, liftError]⟩
  · exact absurd hover hfits

/-- **Extreme sessions overflow.** -/
theorem createStreamSession_of_extreme {config : LegacyConfig} {p : Dict} (streamId : ℕ)
    (h : ExtremeSession config p) : RaisesOverflow (createStreamSession config p streamId) := by
  unfold createStreamSession
  obtain hwindow | ⟨window, hwindow, h⟩ := h
  · obtain ⟨message, hmessage⟩ := positiveSeconds_overflow "partial_window_seconds" hwindow
    rw [hmessage]
    exact ⟨message, rfl⟩
  rw [hwindow]
  obtain hbuffer | ⟨buffer, rate, hbuffer, hrate, hchunks, hlanguage, h⟩ := h
  · obtain ⟨message, hmessage⟩ := positiveSeconds_overflow "max_buffer_seconds" hbuffer
    refine ⟨message, ?_⟩
    simp only [bind, Except.bind]
    rw [hmessage]
  obtain ⟨chunks, hchunks⟩ := Option.isSome_iff_exists.mp hchunks
  obtain ⟨language, hlanguage⟩ := Option.isSome_iff_exists.mp hlanguage
  simp only [bind, Except.bind, hbuffer, hrate, hchunks, hlanguage]
  obtain hlimit | ⟨hfits, hover⟩ := h
  · obtain ⟨message, hmessage⟩ := bytesWithin_overflow config.streamMaxBufferBytes hlimit
    exact ⟨message, by rw [hmessage]⟩
  · obtain ⟨limit, hlimit⟩ := (bytesWithin_isOk_iff config.streamMaxBufferBytes _ _).mpr hfits
    have hlifted : liftError Exn.builtin
        (bytesWithin config.streamMaxBufferBytes buffer rate) = .ok limit := by
      rw [hlimit]
      rfl
    obtain ⟨message, hmessage⟩ :=
      bytesWithin_overflow (limit.getD config.streamMaxBufferBytes) hover
    refine ⟨message, ?_⟩
    simp only [hlifted]
    rw [hmessage]

end RtcAsr
