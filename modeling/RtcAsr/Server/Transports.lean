import RtcAsr.Server.Start

/-!
# One control message on two transports

A JSON object can reach a v1 handler as a websocket text frame or as a raw-UDS control frame.  The
two translators agree on most objects; `TransportsAgree` lists, by the fields of the object, when
they do, and `transports_agree_iff` proves the list exact.
-/

namespace RtcAsr

open Validated

/-! ## Outcomes -/

/-- What the handler learns from a control message: the kind of the event, and for a start event
its configuration. -/
inductive EventKind
  | start (config : LocalSttStartConfig)
  | audio
  | finalize
  | cancel
  | close
  | ping
  | pong

/-- The kind of an event. -/
def ClientEvent.kind : ClientEvent → EventKind
  | .start config => .start config
  | .audio _ => .audio
  | .finalize => .finalize
  | .cancel => .cancel
  | .close => .close
  | .ping _ => .ping
  | .pong _ => .pong

/-- The outcome of translating a control message. -/
inductive Outcome
  | event (kind : EventKind)
  /-- A protocol error. -/
  | rejected
  /-- Any other exception. -/
  | failed

/-- The outcome of a translator's result. -/
def outcome : Except Exn ClientEvent → Outcome
  | .ok e => .event e.kind
  | .error (.protocol _) => .rejected
  | .error _ => .failed

/-- Both translators reject with a protocol error, or both give the same kind of event, with equal
configurations for a start event. -/
def SameOutcome (x y : Except Exn ClientEvent) : Prop :=
  outcome x = outcome y ∧ outcome x ≠ .failed

/-! ## When the transports agree -/

/-- The interval of an accepted start message divides into frames within the float range. -/
def IntervalFits (m : StartMessage) : Prop :=
  ∀ ms, m.partialIntervalMs = some ms → ¬ Binary64.Overflows ((ms : ℚ) / m.audio.frameMs)

/-- The type of the message is spelled `"start"`. -/
def SpelledStart (p : Dict) : Prop := (p.getD "type" .null).isStr "start" = true

/-- A flat start message of protocol `"local-stt-v1"`. -/
def FlatV1 (p : Dict) : Prop :=
  isFlatStart p = true ∧ (p.getD "protocol" .null).isStr "local-stt-v1" = true

/-- The protocol the raw-UDS normalization looks at. -/
def protocolField (p : Dict) : Json := p.getD "protocol" (p.getD "version" .null)

/-- The protocol is one the raw-UDS normalization translates. -/
def KnownProtocol (p : Dict) : Prop :=
  (protocolField p).isStr "local-stt-v1" = true ∨ (protocolField p).isStr PROTOCOL_VERSION = true

/-- The legacy cadence of a flat start message, `partial_interval_chunks`. -/
def legacyChunks (p : Dict) : Json := p.getD "partial_interval_chunks" .null

/-- The legacy cadence is in use and not a positive integer. -/
def BadLegacyChunks (p : Dict) (m : StartMessage) : Prop :=
  m.partialIntervalMs = none ∧ (legacyChunks p).isNull = false ∧
    isPositiveInteger (legacyChunks p) = none

/-- The legacy cadence is unused, absent, or one chunk. -/
def PlainLegacyChunks (p : Dict) (m : StartMessage) : Prop :=
  m.partialIntervalMs = none →
    (legacyChunks p).isNull = true ∨ isPositiveInteger (legacyChunks p) = some 1

open Classical in
/-- The control messages on which the two transports agree. -/
def TransportsAgree (p : Dict) : Prop :=
  if eventWord p = "stop" then False
  else if eventWord p = "start" then
    if SpelledStart p then
      if p.contains "audio" = true then
        ¬ HugeNumberField p ∧ ∀ m, validateStart p = valid m → IntervalFits m
      else if (protocolField p).unhashableType.isSome then False
      else if KnownProtocol p then
        if FlatV1 p then
          (validateStart (translateFlatStart p)).Rejects ∨
            ∃ m, validateStart (translateFlatStart p) = valid m ∧ IntervalFits m ∧
              PlainLegacyChunks p m
        else (validateStart (translateFlatStart p)).Rejects
      else ¬ HugeNumberField p
    else
      -- only the websocket reads the type up to case and white space
      FlatV1 p → (validateStart (translateFlatStart p)).Rejects ∨
        ∃ m, validateStart (translateFlatStart p) = valid m ∧ BadLegacyChunks p m
  else True

/-! ## The outcome of a start message -/

/-- The outcome of the configuration step. -/
def configOutcome : Except Exn LocalSttStartConfig → Outcome
  | .ok config => .event (.start config)
  | .error (.protocol _) => .rejected
  | .error _ => .failed

/-- A start event comes out as its configuration does. -/
lemma outcome_startEvent (r : Except Exn LocalSttStartConfig) :
    outcome (startEvent r) = configOutcome r := by
  cases r with
  | ok config => rfl
  | error e => cases e <;> rfl

/-- The outcome of a start message in its nested shape. -/
def startOutcome (d : Dict) (legacy : Json) : Outcome :=
  match validateStart d with
  | valid m => configOutcome (startConfig m legacy)
  | invalid _ _ => .rejected
  | raised _ => .failed

section

variable {d p : Dict} {m : StartMessage} {legacy : Json}

lemma startOutcome_of_valid (h : validateStart d = valid m) :
    startOutcome d legacy = configOutcome (startConfig m legacy) := by
  rw [startOutcome, h]

lemma startOutcome_of_rejects (h : (validateStart d).Rejects) :
    startOutcome d legacy = .rejected := by
  obtain ⟨e, es, h⟩ := h
  rw [startOutcome, h]

lemma startOutcome_of_raises (h : (validateStart d).Raises) : startOutcome d legacy = .failed := by
  obtain ⟨e, h⟩ := h
  rw [startOutcome, h]

/-- The parser on a message of type `"start"`. -/
lemma parseClientMessage_start (ht : d.get? "type" = some (.str "start")) :
    parseClientMessage d =
      match validateStart d with
      | valid m => .ok (.start m)
      | invalid e _ => .error (.protocol (protocolErrorFromValidation
          { e with loc := "start" :: e.loc }))
      | raised e => .error (.builtin e) := by
  cases h : validateStart d <;>
    simp [parseClientMessage, validateClientMessage, ht, validateTagged, h, under, andThen,
      validateMessage]

/-- The tag of a parsed message. -/
def ClientMessage.type : ClientMessage → String
  | .start _ => "start"
  | .finalize => "finalize"
  | .cancel => "cancel"
  | .close => "close"
  | .ping _ => "ping"
  | .pong _ => "pong"

/-- A parsed message has the type its payload names. -/
lemma get?_type_of_parse {msg : ClientMessage} (h : parseClientMessage d = .ok msg) :
    d.get? "type" = some (.str msg.type) := by
  unfold parseClientMessage at h
  have hv : validateClientMessage d = valid msg := by
    cases hd : validateClientMessage d <;> rw [hd] at h <;> simp [validateMessage] at h
    rw [h]
  unfold validateClientMessage at hv
  split at hv
  · exact absurd hv (fail_ne_valid _ _ _)
  · rename_i tag htag
    rw [htag]
    split at hv
    · rename_i v hv'
      unfold validateTagged at hv'
      split at hv' <;> cases hv'
      · obtain ⟨m, -, hm⟩ := andThen_eq_valid.mp hv
        rw [← Validated.valid.inj hm, ClientMessage.type]
      · rw [← Validated.valid.inj hv, ClientMessage.type]
      · rw [← Validated.valid.inj hv, ClientMessage.type]
      · rw [← Validated.valid.inj hv, ClientMessage.type]
      · obtain ⟨m, -, hm⟩ := andThen_eq_valid.mp hv
        rw [← Validated.valid.inj hm, ClientMessage.type]
      · obtain ⟨m, -, hm⟩ := andThen_eq_valid.mp hv
        rw [← Validated.valid.inj hm, ClientMessage.type]
    · exact absurd hv (fail_ne_valid _ _ _)
  · exact absurd hv (fail_ne_valid _ _ _)

/-- The words of the protocol have no upper case letter and no white space at their ends. -/
lemma asciiLower_pyStrip_type : ∀ word ∈ ["start", "finalize", "cancel", "close", "ping", "pong"],
    asciiLower (pyStrip word) = word := by
  decide +kernel

/-- The websocket's event word of a parsed message is its type. -/
lemma eventWord_of_parse {msg : ClientMessage} (h : parseClientMessage d = .ok msg) :
    eventWord d = msg.type := by
  rw [eventWord, get?_type_of_parse h]
  cases msg <;> exact asciiLower_pyStrip_type _ (by simp [ClientMessage.type])

lemma eventWord_of_spelledStart (h : d.get? "type" = some (.str "start")) :
    eventWord d = "start" := by
  rw [eventWord, h]
  exact asciiLower_pyStrip_type _ (by decide)

/-- The spelling check looks at the type alone. -/
lemma spelledStart_iff : SpelledStart d ↔ d.get? "type" = some (.str "start") := by
  unfold SpelledStart Dict.getD Dict.get?
  cases d.lookup "type" with
  | none => simp [Json.isStr]
  | some j => cases j <;> simp [Json.isStr]

/-- A message of another type than `"start"` makes the parser raise protocol errors only. -/
lemma parse_error_of_not_start (ht : ¬ SpelledStart d) {e : Exn}
    (h : parseClientMessage d = .error e) : ∃ error, e = .protocol error := by
  unfold parseClientMessage at h
  cases hd : validateClientMessage d with
  | valid msg => rw [hd] at h; cases h
  | invalid le les =>
    rw [hd] at h
    exact ⟨_, (Except.error.inj h).symm⟩
  | raised pe => exact absurd (raises_validateClientMessage ⟨pe, hd⟩).1 (mt spelledStart_iff.mpr ht)

/-- A start event is told by its outcome. -/
lemma outcome_eq_start {x : Except Exn ClientEvent} {config : LocalSttStartConfig} :
    outcome x = .event (.start config) ↔ x = .ok (.start config) := by
  cases x with
  | error e => cases e <;> simp [outcome]
  | ok e => cases e <;> simp [outcome, ClientEvent.kind]

/-- A start message gives a configuration when it validates and its interval does. -/
lemma startOutcome_eq_start {config : LocalSttStartConfig} :
    startOutcome d legacy = .event (.start config) ↔
      ∃ m, validateStart d = valid m ∧ startConfig m legacy = .ok config := by
  unfold startOutcome
  cases validateStart d with
  | invalid e es => simp
  | raised e => simp
  | valid m =>
    simp only [Validated.valid.injEq, exists_eq_left']
    cases startConfig m legacy with
    | ok c => simp [configOutcome]
    | error e => cases e <;> simp [configOutcome]

/-! ## The websocket side -/

/-- The websocket on a message of another word than `start` and `stop`. -/
lemma parseLocalSttClientEvent_other (h1 : eventWord p ≠ "start") (h2 : eventWord p ≠ "stop") :
    parseLocalSttClientEvent p =
      match parseClientMessage p with
      | .ok message => message.event
      | .error e => .error e := by
  cases hp : parseClientMessage p <;> simp [parseLocalSttClientEvent, h1, h2, hp]

/-- The outcome of the websocket's start branch. -/
lemma outcome_start (h : eventWord p = "start") :
    outcome (parseLocalSttClientEvent p) = configOutcome (parseLocalSttStartMessage p) := by
  rw [parseLocalSttClientEvent, if_pos h, outcome_startEvent]

/-- The start parser on a message that is not flat. -/
lemma parseLocalSttStartMessage_not_flat (hf : isFlatStart p = false) (hs : SpelledStart p) :
    configOutcome (parseLocalSttStartMessage p) = startOutcome p .null := by
  rw [parseLocalSttStartMessage]
  simp only [hf, Bool.false_eq_true, false_and, if_false,
    parseClientMessage_start (spelledStart_iff.mp hs), startOutcome]
  cases validateStart p <;> rfl

/-- The start parser on a message that is not flat and whose type is spelled otherwise. -/
lemma parseLocalSttStartMessage_misspelled (hf : isFlatStart p = false) (hs : ¬ SpelledStart p) :
    configOutcome (parseLocalSttStartMessage p) = .rejected := by
  rw [parseLocalSttStartMessage]
  simp only [hf, Bool.false_eq_true, false_and, if_false]
  cases h : parseClientMessage p with
  | ok msg =>
    cases msg with
    | start m => exact absurd (spelledStart_iff.mpr (get?_type_of_parse h)) hs
    | _ => rfl
  | error e =>
    obtain ⟨error, rfl⟩ := parse_error_of_not_start hs h
    rfl

/-- The start parser on a flat message of another protocol. -/
lemma parseLocalSttStartMessage_protocol (hf : isFlatStart p = true) (hv : ¬ FlatV1 p) :
    configOutcome (parseLocalSttStartMessage p) = .rejected := by
  have hp : (p.getD "protocol" .null).isStr "local-stt-v1" = false :=
    Bool.eq_false_iff.mpr fun h => hv ⟨hf, h⟩
  rw [parseLocalSttStartMessage]
  simp only [hf, hp, and_self, if_true]
  rfl

/-- The start parser on a flat message of protocol `"local-stt-v1"`. -/
lemma parseLocalSttStartMessage_flat (hv : FlatV1 p) :
    configOutcome (parseLocalSttStartMessage p) =
      startOutcome (translateFlatStart p) (legacyChunks p) := by
  rw [parseLocalSttStartMessage]
  simp only [hv.1, hv.2, Bool.true_eq_false, and_false, if_false, if_true,
    parseClientMessage_start (get?_type_translateFlatStart p), startOutcome]
  cases validateStart (translateFlatStart p) <;> rfl

/-! ## The raw-UDS side -/

/-- The dispatch on a parsed control message. -/
def controlEvent : Except Exn ClientMessage → Except Exn ClientEvent
  | .ok m => rawUdsEvent (.message m)
  | .error e => .error e

variable {loads : Bytes → JsonText} {bytes : Bytes}

/-- The outcome of a control frame is that of its normalized payload. -/
lemma outcome_control (h : loads bytes = .value (.obj p)) :
    outcome (receiveRawUdsFrame loads ⟨.jsonControl, bytes⟩) =
      match normalizeRawUdsControlPayload p with
      | .ok d => outcome (controlEvent (parseClientMessage d))
      | .error e => outcome (.error e) := by
  simp only [receiveRawUdsFrame, parseRawUdsClientFrame, decodeRawUdsJsonPayload, h, reduceCtorEq,
    if_false, bind, Except.bind]
  cases normalizeRawUdsControlPayload p with
  | error e => cases e <;> rfl
  | ok d =>
    simp only [recode]
    cases parseClientMessage d with
    | ok m => rfl
    | error e => cases e <;> rfl

/-- The outcome of the dispatch on a start message. -/
lemma outcome_controlEvent_start (hs : SpelledStart d) :
    outcome (controlEvent (parseClientMessage d)) = startOutcome d .null := by
  rw [parseClientMessage_start (spelledStart_iff.mp hs), startOutcome]
  cases hd : validateStart d with
  | invalid e es => rfl
  | raised e => rfl
  | valid m =>
    have hdump := parseLocalSttStartMessage_not_flat (isFlatStart_modelDump m)
      (spelledStart_iff.mpr (get?_type_modelDump m))
    rw [startOutcome_of_valid (validateStart_modelDump hd)] at hdump
    change outcome (controlEvent (.ok (.start m))) = configOutcome (startConfig m .null)
    rw [← hdump, controlEvent, rawUdsEvent, outcome_startEvent]

/-- The dispatch on a message of another type. -/
lemma outcome_controlEvent_misspelled (hs : ¬ SpelledStart d) :
    outcome (controlEvent (parseClientMessage d)) =
      outcome (match parseClientMessage d with
        | .ok message => message.event
        | .error e => .error e) := by
  cases h : parseClientMessage d with
  | error e => rfl
  | ok m =>
    cases m with
    | start m => exact absurd (spelledStart_iff.mpr (get?_type_of_parse h)) hs
    | _ => rfl

/-- The normalization leaves alone what is not a start message or has the nested shape. -/
lemma normalize_of_not_flat (h : ¬ SpelledStart p ∨ p.contains "audio" = true) :
    normalizeRawUdsControlPayload p = .ok p := by
  rw [normalizeRawUdsControlPayload, if_pos]
  rwa [SpelledStart, Bool.not_eq_true] at h

/-- The normalization of a start message without an `audio` field. -/
lemma normalize_start (hs : SpelledStart p) (ha : ¬ p.contains "audio" = true) :
    normalizeRawUdsControlPayload p =
      match (protocolField p).unhashableType with
      | some type => .error (.builtin (.typeError ("unhashable type: '" ++ type ++ "'")))
      | none =>
        if (protocolField p).isStr "local-stt-v1" || (protocolField p).isStr PROTOCOL_VERSION then
          .ok (translateFlatStart p)
        else .ok p := by
  rw [SpelledStart] at hs
  rw [normalizeRawUdsControlPayload, if_neg (by simp [hs, ha])]
  rfl

/-! ## Comparing the two sides -/

/-- With an interval given, the legacy cadence is not looked at. -/
lemma startConfig_of_interval {ms : ℤ} (h : m.partialIntervalMs = some ms) :
    startConfig m legacy = startConfig m .null := by
  simp [startConfig, partialInterval, h]

/-- With an interval given, the configuration step raises exactly when the quotient overflows. -/
lemma configOutcome_of_interval (legacy : Json) {ms : ℤ} (h : m.partialIntervalMs = some ms) :
    if Binary64.Overflows ((ms : ℚ) / m.audio.frameMs) then
      configOutcome (startConfig m legacy) = .failed
    else ∃ config, configOutcome (startConfig m legacy) = .event (.start config) := by
  split_ifs with ho <;>
    simp [startConfig, partialInterval, h, partialIntervalChunks, intTrueDiv, ho, configOutcome,
      Except.map]

/-- Without an interval, the configuration step follows the legacy cadence. -/
lemma startConfig_of_legacy (h : m.partialIntervalMs = none) :
    startConfig m legacy =
      if legacy.isNull then startConfig m .null
      else
        match isPositiveInteger legacy with
        | some chunks =>
          (startConfig m .null).map fun config => { config with partialIntervalChunks := chunks }
        | none =>
          .error (.protocol
            { message := "partial_interval_chunks must be a positive integer" }) := by
  have hnull : Json.isNull .null = true := rfl
  simp only [startConfig, partialInterval, h, hnull, if_true]
  split_ifs with hl
  · rfl
  · cases isPositiveInteger legacy <;> rfl

/-- Without an interval and a legacy cadence there is a configuration of one chunk. -/
lemma startConfig_plain (h : m.partialIntervalMs = none) :
    ∃ config, startConfig m .null = .ok config ∧ config.partialIntervalChunks = 1 :=
  ⟨_, by simp only [startConfig, partialInterval, h]; rfl, rfl⟩

/-- The configuration step rejects exactly a bad legacy cadence. -/
lemma configOutcome_eq_rejected :
    configOutcome (startConfig m (legacyChunks p)) = .rejected ↔ BadLegacyChunks p m := by
  unfold BadLegacyChunks
  cases hm : m.partialIntervalMs with
  | some ms =>
    have h := configOutcome_of_interval (legacyChunks p) hm
    split_ifs at h
    · simp [h]
    · obtain ⟨config, h⟩ := h
      simp [h]
  | none =>
    obtain ⟨config, hc, -⟩ := startConfig_plain hm
    rw [startConfig_of_legacy hm, hc]
    cases (legacyChunks p).isNull with
    | true => simp [configOutcome]
    | false =>
      cases isPositiveInteger (legacyChunks p) <;> simp [configOutcome, Except.map]

/-- With and without the legacy cadence, the configuration step gives the same configuration. -/
lemma configOutcome_legacy_iff :
    configOutcome (startConfig m (legacyChunks p)) = configOutcome (startConfig m .null) ∧
      configOutcome (startConfig m (legacyChunks p)) ≠ .failed ↔
    IntervalFits m ∧ PlainLegacyChunks p m := by
  unfold IntervalFits PlainLegacyChunks
  cases hm : m.partialIntervalMs with
  | some ms =>
    have h := configOutcome_of_interval .null hm
    rw [startConfig_of_interval hm]
    split_ifs at h with ho
    · simp [h, ho]
    · obtain ⟨config, h⟩ := h
      simp [h, ho]
  | none =>
    obtain ⟨config, hc, hone⟩ := startConfig_plain hm
    rw [startConfig_of_legacy hm, hc]
    cases (legacyChunks p).isNull with
    | true => simp [configOutcome]
    | false =>
      cases hi : isPositiveInteger (legacyChunks p) with
      | none => simp [configOutcome]
      | some chunks =>
        have hne : ({ config with partialIntervalChunks := chunks } : LocalSttStartConfig) =
            config ↔
            chunks = 1 := by
          rw [← hone]
          constructor
          · intro h
            exact congrArg LocalSttStartConfig.partialIntervalChunks h
          · rintro rfl
            rfl
        simp [configOutcome, Except.map, hne]

/-- The start parser accepts, rejects or raises as the validation of the message does, but for the
interval and the legacy cadence. -/
lemma startOutcome_eq_rejected :
    startOutcome d (legacyChunks p) = .rejected ↔
      (validateStart d).Rejects ∨ ∃ m, validateStart d = valid m ∧ BadLegacyChunks p m := by
  rcases accepts_or_rejects_or_raises (validateStart d) with ⟨m, h⟩ | h | h
  · rw [startOutcome_of_valid h, configOutcome_eq_rejected]
    simp [h, Rejects]
  · simp [startOutcome_of_rejects h, h]
  · rw [startOutcome_of_raises h]
    obtain ⟨e, h⟩ := h
    simp [h, Rejects]

/-- Without a legacy cadence a start message is rejected by its validation only. -/
lemma startOutcome_null_eq_rejected :
    startOutcome d .null = .rejected ↔ (validateStart d).Rejects := by
  have h := startOutcome_eq_rejected (d := d) (p := [])
  simpa [legacyChunks, Dict.getD, BadLegacyChunks, Json.isNull] using h

/-- A start message raises when its validation does or its interval overflows. -/
lemma startOutcome_null_ne_failed :
    startOutcome d .null ≠ .failed ↔
      ¬ HugeNumberField d ∧ ∀ m, validateStart d = valid m → IntervalFits m := by
  rw [← raises_validateStart]
  rcases accepts_or_rejects_or_raises (validateStart d) with ⟨m, h⟩ | h | h
  · have hi := configOutcome_legacy_iff (p := []) (m := m)
    simp only [legacyChunks, Dict.getD, List.lookup_nil, Option.getD_none, true_and,
      PlainLegacyChunks, Json.isNull, true_or, implies_true, and_true] at hi
    rw [startOutcome_of_valid h, hi]
    simp [h]
  · rw [startOutcome_of_rejects h]
    obtain ⟨e, es, h⟩ := h
    simp [h]
  · rw [startOutcome_of_raises h]
    simp [h]

/-- A message without an `audio` field does not validate. -/
lemma validateStart_of_no_audio (ha : ¬ p.contains "audio" = true) (m : StartMessage) :
    validateStart p ≠ valid m := by
  intro h
  have haudio := (validateStart_eq_valid h).1
  have hnone : p.get? "audio" = none := Option.not_isSome_iff_eq_none.mp ha
  simp [field, hnone] at haudio

/-- A message without an `audio` field is rejected unless its validation raises. -/
lemma startOutcome_of_no_audio (ha : ¬ p.contains "audio" = true) :
    (HugeNumberField p → startOutcome p .null = .failed) ∧
      (¬ HugeNumberField p → startOutcome p .null = .rejected) := by
  rw [← raises_validateStart]
  rcases accepts_or_rejects_or_raises (validateStart p) with ⟨m, h⟩ | h | h
  · exact absurd h (validateStart_of_no_audio ha m)
  · refine ⟨fun hr => ?_, fun _ => startOutcome_of_rejects h⟩
    obtain ⟨e, es, h⟩ := h
    simp [h] at hr
  · exact ⟨fun _ => startOutcome_of_raises h, fun hr => absurd h hr⟩

end

/-! ## Agreement -/

section Agreement

variable {p : Dict} {loads : Bytes → JsonText} {bytes : Bytes}

/-- A message the websocket reads as `stop` is no message for the raw-UDS parser. -/
lemma not_sameOutcome_stop (hw : eventWord p = "stop") (h : loads bytes = .value (.obj p)) :
    ¬ SameOutcome (parseLocalSttClientEvent p)
      (receiveRawUdsFrame loads ⟨.jsonControl, bytes⟩) := by
  have hs : ¬ SpelledStart p := fun hs => by
    rw [eventWord_of_spelledStart (spelledStart_iff.mp hs)] at hw
    exact absurd hw (by decide)
  have hws : parseLocalSttClientEvent p = .ok .finalize := by
    rw [parseLocalSttClientEvent, if_neg (by rw [hw]; decide), if_pos hw]
  rintro ⟨heq, -⟩
  rw [outcome_control h, normalize_of_not_flat (.inl hs), hws] at heq
  cases hp : parseClientMessage p with
  | ok m =>
    have htype := (eventWord_of_parse hp).symm.trans hw
    cases m <;> exact absurd htype (by simp [ClientMessage.type])
  | error e =>
    obtain ⟨error, rfl⟩ := parse_error_of_not_start hs hp
    simp only [hp] at heq
    cases heq

/-- The transports agree on messages of other words than `start` and `stop`. -/
lemma sameOutcome_other (h1 : eventWord p ≠ "start") (h2 : eventWord p ≠ "stop")
    (h : loads bytes = .value (.obj p)) :
    SameOutcome (parseLocalSttClientEvent p)
      (receiveRawUdsFrame loads ⟨.jsonControl, bytes⟩) := by
  have hs : ¬ SpelledStart p := fun hs =>
    h1 (eventWord_of_spelledStart (spelledStart_iff.mp hs))
  rw [SameOutcome, outcome_control h, normalize_of_not_flat (.inl hs),
    parseLocalSttClientEvent_other h1 h2]
  dsimp only
  rw [outcome_controlEvent_misspelled hs]
  refine ⟨rfl, ?_⟩
  cases hp : parseClientMessage p with
  | ok m =>
    have htype := eventWord_of_parse hp
    cases m <;> simp_all [ClientMessage.type, ClientMessage.event, outcome]
  | error e =>
    obtain ⟨error, rfl⟩ := parse_error_of_not_start hs hp
    simp [outcome]

/-- A start message spelled in another way is rejected by the raw-UDS parser. -/
lemma sameOutcome_misspelled (hw : eventWord p = "start") (hs : ¬ SpelledStart p)
    (h : loads bytes = .value (.obj p)) :
    SameOutcome (parseLocalSttClientEvent p) (receiveRawUdsFrame loads ⟨.jsonControl, bytes⟩) ↔
      (FlatV1 p → (validateStart (translateFlatStart p)).Rejects ∨
        ∃ m, validateStart (translateFlatStart p) = valid m ∧ BadLegacyChunks p m) := by
  have hraw : outcome (receiveRawUdsFrame loads ⟨.jsonControl, bytes⟩) = .rejected := by
    rw [outcome_control h, normalize_of_not_flat (.inl hs)]
    dsimp only
    cases hp : parseClientMessage p with
    | ok m =>
      have htype := (eventWord_of_parse hp).symm.trans hw
      cases m with
      | start m => exact absurd (spelledStart_iff.mpr (get?_type_of_parse hp)) hs
      | _ => exact absurd htype (by simp [ClientMessage.type])
    | error e =>
      obtain ⟨error, rfl⟩ := parse_error_of_not_start hs hp
      rfl
  rw [SameOutcome, hraw, outcome_start hw]
  by_cases hv : FlatV1 p
  · rw [parseLocalSttStartMessage_flat hv, ← startOutcome_eq_rejected]
    constructor
    · exact fun hr _ => hr.1
    · intro hr
      rw [hr hv]
      exact ⟨rfl, nofun⟩
  · have hrejected : configOutcome (parseLocalSttStartMessage p) = .rejected := by
      cases hf : isFlatStart p with
      | true => exact parseLocalSttStartMessage_protocol hf hv
      | false => exact parseLocalSttStartMessage_misspelled hf hs
    rw [hrejected]
    exact ⟨fun _ hv' => absurd hv' hv, fun _ => ⟨rfl, nofun⟩⟩

/-- A message with a nested audio format is validated as it is by both. -/
lemma sameOutcome_nested (hs : SpelledStart p) (ha : p.contains "audio" = true)
    (h : loads bytes = .value (.obj p)) :
    SameOutcome (parseLocalSttClientEvent p) (receiveRawUdsFrame loads ⟨.jsonControl, bytes⟩) ↔
      ¬ HugeNumberField p ∧ ∀ m, validateStart p = valid m → IntervalFits m := by
  have hf : isFlatStart p = false := by simp [isFlatStart, ha]
  rw [SameOutcome, outcome_control h, normalize_of_not_flat (.inr ha),
    outcome_start (eventWord_of_spelledStart (spelledStart_iff.mp hs)),
    parseLocalSttStartMessage_not_flat hf hs]
  dsimp only
  rw [outcome_controlEvent_start hs, startOutcome_null_ne_failed]
  exact and_iff_right rfl

/-- The raw-UDS parser cannot look up a list or a dictionary. -/
lemma not_sameOutcome_unhashable (hs : SpelledStart p) (ha : ¬ p.contains "audio" = true)
    (hu : (protocolField p).unhashableType.isSome) (h : loads bytes = .value (.obj p)) :
    ¬ SameOutcome (parseLocalSttClientEvent p)
      (receiveRawUdsFrame loads ⟨.jsonControl, bytes⟩) := by
  obtain ⟨type, ht⟩ := Option.isSome_iff_exists.mp hu
  rintro ⟨heq, hne⟩
  rw [outcome_control h, normalize_start hs ha, ht] at heq
  exact hne heq

/-- The flat protocol is one the raw-UDS normalization knows. -/
lemma knownProtocol_of_flatV1 (hv : FlatV1 p) : KnownProtocol p := by
  have hp := hv.2
  refine .inl ?_
  unfold protocolField Dict.getD at *
  cases hl : p.lookup "protocol" with
  | none => simp [hl, Json.isStr] at hp
  | some j => simpa [hl] using hp

/-- The websocket on a start message that is not of the flat protocol. -/
lemma outcome_not_flatV1 (hs : SpelledStart p) (hv : ¬ FlatV1 p) :
    outcome (parseLocalSttClientEvent p) =
      if isFlatStart p then .rejected else startOutcome p .null := by
  rw [outcome_start (eventWord_of_spelledStart (spelledStart_iff.mp hs))]
  cases hf : isFlatStart p with
  | true => exact parseLocalSttStartMessage_protocol hf hv
  | false => exact parseLocalSttStartMessage_not_flat hf hs

/-- A start message of an unknown protocol is rejected by both unless its validation raises. -/
lemma sameOutcome_unknown (hs : SpelledStart p) (ha : ¬ p.contains "audio" = true)
    (hu : (protocolField p).unhashableType = none) (hk : ¬ KnownProtocol p)
    (h : loads bytes = .value (.obj p)) :
    SameOutcome (parseLocalSttClientEvent p) (receiveRawUdsFrame loads ⟨.jsonControl, bytes⟩) ↔
      ¬ HugeNumberField p := by
  have hv : ¬ FlatV1 p := fun hv => hk (knownProtocol_of_flatV1 hv)
  have hnorm : normalizeRawUdsControlPayload p = .ok p := by
    rw [normalize_start hs ha, hu]
    exact if_neg (by rwa [Bool.or_eq_true])
  rw [SameOutcome, outcome_control h, hnorm, outcome_not_flatV1 hs hv]
  dsimp only
  rw [outcome_controlEvent_start hs]
  obtain ⟨hraise, hreject⟩ := startOutcome_of_no_audio ha
  by_cases hh : HugeNumberField p
  · rw [hraise hh]
    cases isFlatStart p <;> simp [hh]
  · rw [hreject hh]
    cases isFlatStart p <;> simp [hh]

/-- The websocket translates a flat start message. -/
lemma outcome_flatV1 (hs : SpelledStart p) (hv : FlatV1 p) :
    outcome (parseLocalSttClientEvent p) =
      startOutcome (translateFlatStart p) (legacyChunks p) := by
  rw [outcome_start (eventWord_of_spelledStart (spelledStart_iff.mp hs)),
    parseLocalSttStartMessage_flat hv]

/-- The raw-UDS parser translates a start message of a known protocol. -/
lemma outcome_control_translated (hs : SpelledStart p) (ha : ¬ p.contains "audio" = true)
    (hu : (protocolField p).unhashableType = none) (hk : KnownProtocol p)
    (h : loads bytes = .value (.obj p)) :
    outcome (receiveRawUdsFrame loads ⟨.jsonControl, bytes⟩) =
      startOutcome (translateFlatStart p) .null := by
  have hnorm : normalizeRawUdsControlPayload p = .ok (translateFlatStart p) := by
    rw [normalize_start hs ha, hu]
    exact if_pos (by rwa [Bool.or_eq_true])
  have hstart : SpelledStart (translateFlatStart p) :=
    spelledStart_iff.mpr (get?_type_translateFlatStart p)
  rw [outcome_control h, hnorm]
  exact outcome_controlEvent_start hstart

/-- A flat start message is translated by both; the websocket alone reads the legacy cadence. -/
lemma sameOutcome_flatV1 (hs : SpelledStart p) (ha : ¬ p.contains "audio" = true)
    (hu : (protocolField p).unhashableType = none) (hv : FlatV1 p)
    (h : loads bytes = .value (.obj p)) :
    SameOutcome (parseLocalSttClientEvent p) (receiveRawUdsFrame loads ⟨.jsonControl, bytes⟩) ↔
      (validateStart (translateFlatStart p)).Rejects ∨
        ∃ m, validateStart (translateFlatStart p) = valid m ∧ IntervalFits m ∧
          PlainLegacyChunks p m := by
  rw [SameOutcome, outcome_flatV1 hs hv,
    outcome_control_translated hs ha hu (knownProtocol_of_flatV1 hv) h]
  rcases accepts_or_rejects_or_raises (validateStart (translateFlatStart p)) with ⟨m, hm⟩ | hm | hm
  · rw [startOutcome_of_valid hm, startOutcome_of_valid hm, configOutcome_legacy_iff]
    simp [hm, Rejects]
  · rw [startOutcome_of_rejects hm, startOutcome_of_rejects hm]
    simp [hm]
  · rw [startOutcome_of_raises hm, startOutcome_of_raises hm]
    obtain ⟨e, hm⟩ := hm
    simp [hm, Rejects]

/-- Where the raw-UDS parser translates and the websocket does not, they agree on rejecting. -/
lemma sameOutcome_translated (hs : SpelledStart p) (ha : ¬ p.contains "audio" = true)
    (hu : (protocolField p).unhashableType = none) (hk : KnownProtocol p) (hv : ¬ FlatV1 p)
    (h : loads bytes = .value (.obj p)) :
    SameOutcome (parseLocalSttClientEvent p) (receiveRawUdsFrame loads ⟨.jsonControl, bytes⟩) ↔
      (validateStart (translateFlatStart p)).Rejects := by
  rw [SameOutcome, outcome_not_flatV1 hs hv, outcome_control_translated hs ha hu hk h,
    ← startOutcome_null_eq_rejected]
  obtain ⟨hraise, hreject⟩ := startOutcome_of_no_audio ha
  by_cases hh : HugeNumberField p
  · have hfailed : startOutcome (translateFlatStart p) .null = .failed := by
      refine startOutcome_of_raises ((raises_validateStart _).mpr ?_)
      rwa [hugeNumberField_translateFlatStart]
    rw [hraise hh, hfailed]
    cases isFlatStart p <;> simp
  · rw [hreject hh, ite_self]
    exact ⟨fun heq => heq.1.symm, fun heq => ⟨heq.symm, nofun⟩⟩

/-- **One message, two transports.** The websocket and the raw-UDS translator give the same outcome
for a JSON object exactly when `TransportsAgree` holds of it. -/
theorem transports_agree_iff (h : loads bytes = .value (.obj p)) :
    SameOutcome (parseLocalSttClientEvent p) (receiveRawUdsFrame loads ⟨.jsonControl, bytes⟩) ↔
      TransportsAgree p := by
  unfold TransportsAgree
  split_ifs with hstop hword hs ha hu hk hv
  · exact iff_false_intro (not_sameOutcome_stop hstop h)
  · exact sameOutcome_nested hs ha h
  · exact iff_false_intro (not_sameOutcome_unhashable hs ha hu h)
  · exact sameOutcome_flatV1 hs ha (Option.not_isSome_iff_eq_none.mp hu) hv h
  · exact sameOutcome_translated hs ha (Option.not_isSome_iff_eq_none.mp hu) hk hv h
  · exact sameOutcome_unknown hs ha (Option.not_isSome_iff_eq_none.mp hu) hk h
  · exact sameOutcome_misspelled hword hs h
  · exact iff_true_intro (sameOutcome_other hword hstop h)

end Agreement

/-- The object `{"type": "stop"}` is a finalize on the websocket and an error on raw UDS. -/
theorem transports_disagree_stop :
    ¬ SameOutcome (parseLocalSttClientEvent [("type", .str "stop")])
      (receiveRawUdsFrame (fun _ => .value (.obj [("type", .str "stop")])) ⟨.jsonControl, []⟩) :=
  not_sameOutcome_stop (by decide +kernel) rfl

/-- A flat start message with a stream id. -/
def flatStart : Dict :=
  [("type", .str "start"), ("protocol", .str "local-stt-v1"),
    ("sample_rate", .int HOT_PATH_SAMPLE_RATE), ("channels", .int HOT_PATH_CHANNELS),
    ("format", .str HOT_PATH_PCM_FORMAT), ("partial_interval_chunks", .int 1),
    ("client_stream_id", .str "call-7")]

/-- Both transports start a stream for the flat start message, and the list says so. -/
theorem transports_agree_iff_flatStart :
    TransportsAgree flatStart ∧
      ∃ config, parseLocalSttClientEvent flatStart = .ok (.start config) ∧
        receiveRawUdsFrame (fun _ => .value (.obj flatStart)) ⟨.jsonControl, []⟩ =
          .ok (.start config) ∧
        config.clientStreamId = some "call-7" := by
  have hstarts : ∃ config, parseLocalSttClientEvent flatStart = .ok (.start config) ∧
      receiveRawUdsFrame (fun _ => .value (.obj flatStart)) ⟨.jsonControl, []⟩ =
        .ok (.start config) ∧
      config.clientStreamId = some "call-7" := ⟨_, rfl, rfl, rfl⟩
  have hagree := @transports_agree_iff flatStart (fun _ => .value (.obj flatStart)) [] rfl
  refine ⟨hagree.mp ?_, hstarts⟩
  obtain ⟨config, hwebSocket, hrawUds, -⟩ := hstarts
  rw [hwebSocket, hrawUds]
  exact ⟨rfl, by simp [outcome]⟩

end RtcAsr
