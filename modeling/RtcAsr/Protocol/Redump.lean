import RtcAsr.Protocol.ServerMessage
import RtcAsr.Protocol.Validation

/-!
# Messages without their defaults

A dump without `None` fields and the compact dump of the raw-UDS encoders are the fields of a
message without some bindings (`m.fields.filter p`).  Every dropped binding holds the default of
its field (`DropsDefaults`), so validating what is left gives the message back.
-/

namespace RtcAsr

open Validated

/-! ## Dropped bindings -/

/-- The bindings `p` drops are `None`, an empty `metadata`, or a `finalize_on_stable_partial` that
is `False`. -/
def DropsDefaults (p : String × Json → Bool) : Prop :=
  ∀ name j, p (name, j) = false →
    j = .null ∨ name = "metadata" ∧ j = .obj [] ∨
      name = "finalize_on_stable_partial" ∧ j = .bool false

/-- Only `null` is `None`. -/
lemma Json.isNull_iff {j : Json} : j.isNull = true ↔ j = .null := by
  cases j <;> simp [Json.isNull]

/-- `exclude_none` drops defaults only. -/
lemma dropsDefaults_excludeNone : DropsDefaults fun b => !b.2.isNull := by
  intro name j h
  left
  simpa [Json.isNull_iff] using h

/-- The popped bindings are the two the compaction names. -/
lemma isPopped_iff {name : String} {j : Json} :
    isPopped (name, j) = true ↔
      name = "metadata" ∧ j = .obj [] ∨ name = "finalize_on_stable_partial" ∧ j = .bool false := by
  unfold isPopped
  split <;> simp_all

/-- A compact dump is the fields without some defaults. -/
lemma compactRawUdsMessagePayload_eq (d : Dict) :
    compactRawUdsMessagePayload (excludeNone d) =
      d.filter fun b => !isPopped b && !b.2.isNull := by
  rw [compactRawUdsMessagePayload, excludeNone, List.filter_filter]

/-- The compaction drops defaults only. -/
lemma dropsDefaults_compact : DropsDefaults fun b => !isPopped b && !b.2.isNull := by
  intro name j h
  rcases Bool.and_eq_false_iff.mp h with h | h
  · exact .inr (isPopped_iff.mp (by simpa using h))
  · exact .inl (Json.isNull_iff.mp (by simpa using h))

/-- Looking a key up after bindings were dropped, in a dictionary without repeated keys. -/
lemma get?_filter {d : Dict} (hd : (d.map Prod.fst).Nodup) (p : String × Json → Bool)
    (name : String) :
    Dict.get? (d.filter p) name = (d.get? name).filter fun j => p (name, j) := by
  induction d with
  | nil => rfl
  | cons b d ih =>
    obtain ⟨key, j⟩ := b
    obtain ⟨hkey, hd⟩ := List.nodup_cons.mp hd
    have ih := ih hd
    simp only [Dict.get?] at ih ⊢
    by_cases hname : name = key
    · subst hname
      have habsent : List.lookup name d = none := by
        rw [List.lookup_eq_none_iff]
        rintro ⟨key', j'⟩ hmem
        simp only [List.mem_map, not_exists, not_and] at hkey
        simpa using fun h => hkey _ hmem h.symm
      rw [habsent] at ih
      by_cases hp : p (name, j) = true
      · simp [hp, Option.filter]
      · rw [List.filter_cons_of_neg hp, ih]
        simp [Option.filter, hp]
    · have hbeq : (name == key) = false := by simpa using hname
      by_cases hp : p (key, j) = true
      · simpa [List.filter_cons, hp, List.lookup_cons, hbeq] using ih
      · simpa [List.filter_cons, hp, List.lookup_cons, hbeq] using ih

/-- A required field that validates is present. -/
lemma field_required_eq_valid {α : Type} {d : Dict} {name : String} {v : Json → Validated α}
    {x : α} (h : field d name none v = valid x) : ∃ j, d.get? name = some j ∧ v j = valid x := by
  unfold field at h
  cases hj : d.get? name with
  | none => rw [hj] at h; cases h
  | some j =>
    rw [hj] at h
    exact ⟨j, rfl, under_eq_valid.mp h⟩

section Fields

variable {α : Type} {d : Dict} {p : String × Json → Bool} (name : String) {j : Json}
  (default : Option α) {v : Json → Validated α} {x : α}

/-- A field is read back when its value is accepted and is the default wherever it is dropped. -/
lemma field_filter (hd : (d.map Prod.fst).Nodup) (hj : d.get? name = some j) (hv : v j = valid x)
    (hdrop : p (name, j) = false → default = some x) :
    field (d.filter p) name default v = valid x := by
  unfold field
  rw [get?_filter hd, hj]
  by_cases hp : p (name, j) = true
  · simp [Option.filter, hp, hv, under]
  · have hp : p (name, j) = false := by simpa using hp
    simp [Option.filter, hp, hdrop hp]

/-- An optional field is read back: it is dropped only where it is `None`. -/
lemma field_filter_option {f : α → Json} {v : Json → Validated (Option α)} {x : Option α}
    (hp : DropsDefaults p) (hname : name ≠ "metadata" ∧ name ≠ "finalize_on_stable_partial")
    (hd : (d.map Prod.fst).Nodup) (hj : d.get? name = some (.ofOption f x))
    (hv : v (.ofOption f x) = valid x) (hf : ∀ a, f a ≠ .null) :
    field (d.filter p) name (some none) v = valid x := by
  refine field_filter name _ hd hj hv fun hdrop => ?_
  rcases hp _ _ hdrop with h | ⟨h, -⟩ | ⟨h, -⟩
  · cases x with
    | none => rfl
    | some a => exact absurd h (hf a)
  · exact absurd h hname.1
  · exact absurd h hname.2

/-- A field that is neither `None` nor one of the two popped ones is read back. -/
lemma field_filter_kept (hp : DropsDefaults p)
    (hname : name ≠ "metadata" ∧ name ≠ "finalize_on_stable_partial")
    (hd : (d.map Prod.fst).Nodup) (hj : d.get? name = some j) (hnull : j ≠ .null)
    (hv : v j = valid x) : field (d.filter p) name default v = valid x := by
  refine field_filter name _ hd hj hv fun hdrop => ?_
  rcases hp _ _ hdrop with h | ⟨h, -⟩ | ⟨h, -⟩
  · exact absurd h hnull
  · exact absurd h hname.1
  · exact absurd h hname.2

/-- The metadata are read back: they are dropped only when they are empty. -/
lemma field_filter_metadata (metadata : Dict) (hp : DropsDefaults p)
    (hd : (d.map Prod.fst).Nodup) (hj : d.get? "metadata" = some (.obj metadata)) :
    field (d.filter p) "metadata" (some []) requireMetadataObject = valid metadata := by
  refine field_filter _ _ hd hj rfl fun hdrop => ?_
  rcases hp _ _ hdrop with h | ⟨-, h⟩ | ⟨h, -⟩
  · cases h
  · cases h
    rfl
  · simp at h

end Fields

/-! ## Validating what is left of the fields -/

/-- A number at or above a bound is accepted again. -/
lemma redumps_integerAtLeast (bound : ℤ) : Redumps (integerAtLeast bound) .int := by
  intro j n h
  obtain ⟨m, -, hm⟩ := andThen_eq_valid.mp h
  split_ifs at hm with hlt
  · simp at hm
  obtain rfl := Validated.valid.inj hm
  simp [integerAtLeast, requiredInteger, optionalInteger, andThen, hlt]

/-- A timestamp is accepted again. -/
lemma redumps_nonnegativeInteger : Redumps nonnegativeInteger (Json.ofOption .int) := by
  rintro j (_ | n) h
  · rfl
  obtain ⟨m, -, hm⟩ := andThen_eq_valid.mp h
  cases m with
  | none => simp at hm
  | some m =>
    dsimp only at hm
    split_ifs at hm with hlt
    · simp at hm
    obtain rfl : m = n := by simpa using hm
    simp [nonnegativeInteger, Json.ofOption, optionalInteger, andThen, hlt]

/-- An accepted audio format is accepted again without its `None` fields. -/
lemma validateAudioFormat_excludeNone {j : Json} {a : AudioFormat}
    (h : validateAudioFormat j = valid a) :
    validateAudioFormat (.obj (excludeNone a.modelDump)) = valid a := by
  have hnodup : (a.modelDump.map Prod.fst).Nodup := by simp [AudioFormat.modelDump]
  have hp := dropsDefaults_excludeNone
  cases j with
  | obj d =>
    obtain ⟨b, -, hb⟩ := andThen_eq_valid.mp h
    obtain rfl := validateHotPath_eq_valid hb
    have hrate : field (excludeNone b.modelDump) "sample_rate" none requiredInteger =
        valid b.sampleRate :=
      field_filter_kept _ _ hp (by simp) hnodup (j := .int b.sampleRate)
        (by simp [AudioFormat.modelDump, Dict.get?]) (by simp) rfl
    have hchannels : field (excludeNone b.modelDump) "channels" none requiredInteger =
        valid b.channels :=
      field_filter_kept _ _ hp (by simp) hnodup (j := .int b.channels)
        (by simp [AudioFormat.modelDump, Dict.get?, List.lookup_cons]) (by simp) rfl
    have hformat : field (excludeNone b.modelDump) "format" none requireStringField =
        valid b.format :=
      field_filter_kept _ _ hp (by simp) hnodup (j := .str b.format)
        (by simp [AudioFormat.modelDump, Dict.get?, List.lookup_cons]) (by simp) rfl
    have hframe : field (excludeNone b.modelDump) "frame_ms" (some HOT_PATH_FRAME_MS)
        requiredInteger = valid b.frameMs :=
      field_filter_kept _ _ hp (by simp) hnodup (j := .int b.frameMs)
        (by simp [AudioFormat.modelDump, Dict.get?, List.lookup_cons]) (by simp) rfl
    have hbytes : field (excludeNone b.modelDump) "bytes_per_frame" (some none) optionalInteger =
        valid b.bytesPerFrame :=
      field_filter_option _ hp (by simp) hnodup (f := .int)
        (by simp [AudioFormat.modelDump, Dict.get?, List.lookup_cons])
        (by cases b.bytesPerFrame <;> rfl) (by simp)
    rw [validateAudioFormat, hrate, hchannels, hformat, hframe, hbytes]
    exact hb
  | _ => simp [validateAudioFormat] at h

/-- A start message is read back from its fields without some defaults. -/
lemma validateStart_filter {d : Dict} {m : StartMessage} {p : String × Json → Bool}
    (hp : DropsDefaults p) (h : validateStart d = valid m) :
    validateStart (m.fields.filter p) = valid m := by
  obtain ⟨haudio, hlanguage, hinterim, hinterval, hwindow, hbuffer, hfinalize, hcycles, hclient,
    -, -⟩ := validateStart_eq_valid h
  have hnodup : (m.fields.map Prod.fst).Nodup := by simp [StartMessage.fields]
  have hversion : field (m.fields.filter p) "version" none requireVersion = valid () :=
    field_filter_kept _ _ hp (by simp) hnodup (j := .str PROTOCOL_VERSION)
      (by simp [StartMessage.fields, Dict.get?, List.lookup_cons]) (by simp)
      (by simp [requireVersion, Json.isStr])
  have haudio : field (m.fields.filter p) "audio" none validateAudioFormat = valid m.audio := by
    obtain ⟨j, -, hj⟩ := field_required_eq_valid haudio
    exact field_filter_kept _ _ hp (by simp) hnodup
      (by simp [StartMessage.fields, Dict.get?, List.lookup_cons]) (by simp)
      (validateAudioFormat_excludeNone hj)
  have hlanguage : field (m.fields.filter p) "language" (some none) requireOptionalStringField =
      valid m.language :=
    field_filter_option _ hp (by simp) hnodup (f := .str)
      (by simp [StartMessage.fields, Dict.get?, List.lookup_cons])
      (redumps_requireOptionalStringField.field rfl hlanguage) (by simp)
  have hinterim : field (m.fields.filter p) "interim_results" (some true) requireBooleanField =
      valid m.interimResults :=
    field_filter_kept _ _ hp (by simp) hnodup (j := .bool m.interimResults)
      (by simp [StartMessage.fields, Dict.get?, List.lookup_cons]) (by simp) rfl
  have hinterval : field (m.fields.filter p) "partial_interval_ms" (some none) positiveInteger =
      valid m.partialIntervalMs :=
    field_filter_option _ hp (by simp) hnodup (f := .int)
      (by simp [StartMessage.fields, Dict.get?, List.lookup_cons])
      (redumps_positiveInteger.field rfl hinterval) (by simp)
  have hwindow : field (m.fields.filter p) "partial_window_seconds" (some none) positiveNumber =
      valid m.partialWindowSeconds :=
    field_filter_option _ hp (by simp) hnodup (f := .float)
      (by simp [StartMessage.fields, Dict.get?, List.lookup_cons])
      (redumps_positiveNumber.field rfl hwindow) (by simp)
  have hbuffer : field (m.fields.filter p) "max_buffer_seconds" (some none) positiveNumber =
      valid m.maxBufferSeconds :=
    field_filter_option _ hp (by simp) hnodup (f := .float)
      (by simp [StartMessage.fields, Dict.get?, List.lookup_cons])
      (redumps_positiveNumber.field rfl hbuffer) (by simp)
  have hfinalize : field (m.fields.filter p) "finalize_on_stable_partial" (some false)
      requireBooleanField = valid m.finalizeOnStablePartial := by
    refine field_filter _ _ hnodup (j := .bool m.finalizeOnStablePartial)
      (by simp [StartMessage.fields, Dict.get?, List.lookup_cons]) rfl fun hdrop => ?_
    rcases hp _ _ hdrop with h | ⟨h, -⟩ | ⟨-, h⟩
    · cases h
    · simp at h
    · exact congrArg some (Json.bool.inj h).symm
  have hcycles : field (m.fields.filter p) "stable_partial_cycles" (some none) positiveInteger =
      valid m.stablePartialCycles :=
    field_filter_option _ hp (by simp) hnodup (f := .int)
      (by simp [StartMessage.fields, Dict.get?, List.lookup_cons])
      (redumps_positiveInteger.field rfl hcycles) (by simp)
  have hclient : field (m.fields.filter p) "client_stream_id" (some none)
      requireOptionalStringField = valid m.clientStreamId :=
    field_filter_option _ hp (by simp) hnodup (f := .str)
      (by simp [StartMessage.fields, Dict.get?, List.lookup_cons])
      (redumps_requireOptionalStringField.field rfl hclient) (by simp)
  have hmetadata : field (m.fields.filter p) "metadata" (some []) requireMetadataObject =
      valid m.metadata :=
    field_filter_metadata _ hp hnodup (by simp [StartMessage.fields, Dict.get?, List.lookup_cons])
  rw [validateStart, hversion, haudio, hlanguage, hinterim, hinterval, hwindow, hbuffer,
    hfinalize, hcycles, hclient, hmetadata]
  rfl

/-- A heartbeat is read back, also from under the envelope type of its frame. -/
lemma validateHeartbeat_filter {d : Dict} {m : Heartbeat} {p : String × Json → Bool}
    (hp : DropsDefaults p) (type : String) (h : validateHeartbeat d = valid m) :
    validateHeartbeat ((m.fields type).filter p) = valid m := by
  simp only [validateHeartbeat, next_eq_valid, Validated.valid.injEq] at h
  obtain ⟨_, metadata, ⟨_, timestamp, ⟨_, pingId, rfl, hping, rfl⟩, htimestamp, rfl⟩, -, rfl⟩ := h
  have hnodup : ((Heartbeat.fields type ⟨pingId, timestamp, metadata⟩).map Prod.fst).Nodup := by
    simp [Heartbeat.fields]
  have hping := field_filter_option (p := p) "ping_id" hp (by simp) hnodup (f := .str)
    (by simp [Heartbeat.fields, Dict.get?, List.lookup_cons])
    (redumps_requireOptionalStringField.field rfl hping) (by simp)
  have htimestamp := field_filter_option (p := p) "timestamp_ms" hp (by simp) hnodup
    (f := .int) (by simp [Heartbeat.fields, Dict.get?, List.lookup_cons])
    (redumps_nonnegativeInteger.field rfl htimestamp) (by simp)
  have hmetadata := field_filter_metadata (p := p) metadata hp hnodup
    (by simp [Heartbeat.fields, Dict.get?, List.lookup_cons])
  rw [validateHeartbeat, hping, htimestamp, hmetadata]
  rfl

/-- A ready message is read back from its fields without some defaults. -/
lemma validateReady_filter {d : Dict} {m : ReadyMessage} {p : String × Json → Bool}
    (hp : DropsDefaults p) (h : validateReady d = valid m) :
    validateReady (m.fields.filter p) = valid m := by
  simp only [validateReady, next_eq_valid, Validated.valid.injEq] at h
  obtain ⟨_, metadata, ⟨_, interim, ⟨_, audio, ⟨_, version, rfl, -, rfl⟩, haudio, rfl⟩, -, rfl⟩, -,
    rfl⟩ := h
  obtain ⟨j, -, haudio⟩ := field_required_eq_valid haudio
  have hnodup : ((ReadyMessage.fields ⟨audio, interim, metadata⟩).map Prod.fst).Nodup := by
    simp [ReadyMessage.fields]
  have hversion : field ((ReadyMessage.fields ⟨audio, interim, metadata⟩).filter p) "version" none
      requireVersion = valid () :=
    field_filter_kept _ _ hp (by simp) hnodup (j := .str PROTOCOL_VERSION)
      (by simp [ReadyMessage.fields, Dict.get?, List.lookup_cons]) (by simp)
      (by simp [requireVersion, Json.isStr])
  have haudio := field_filter_kept (p := p) "audio" none hp (by simp) hnodup
    (by simp [ReadyMessage.fields, Dict.get?, List.lookup_cons]) (by simp)
    (validateAudioFormat_excludeNone haudio)
  have hinterim := field_filter_kept (p := p) "interim_results" (some true) hp
    (v := requireBooleanField) (by simp) hnodup (j := .bool interim)
    (by simp [ReadyMessage.fields, Dict.get?, List.lookup_cons]) (by simp) rfl
  have hmetadata := field_filter_metadata (p := p) metadata hp hnodup
    (by simp [ReadyMessage.fields, Dict.get?, List.lookup_cons])
  rw [validateReady, hversion, haudio, hinterim, hmetadata]
  rfl

/-- A transcript message is read back from its fields without some defaults. -/
lemma validateTranscript_filter {d : Dict} {m : TranscriptMessage} {p : String × Json → Bool}
    (hp : DropsDefaults p) (h : validateTranscript d = valid m) :
    validateTranscript (m.fields.filter p) = valid m := by
  obtain ⟨m', hfields, htiming⟩ := andThen_eq_valid.mp h
  have hm : m' = m := by
    unfold TranscriptMessage.validateTiming at htiming
    split_ifs at htiming
    · simp at htiming
    · simp at htiming
    · exact Validated.valid.inj htiming
  subst hm
  simp only [next_eq_valid, Validated.valid.injEq] at hfields
  obtain ⟨_, language, ⟨_, metadata, ⟨_, transcribed, ⟨_, received, ⟨_, revision, ⟨_, speechFinal,
    ⟨_, isFinal, ⟨_, text, rfl, -, rfl⟩, -, rfl⟩, -, rfl⟩, hrevision, rfl⟩, hreceived, rfl⟩,
    htranscribed, rfl⟩, -, rfl⟩, hlanguage, rfl⟩ := hfields
  have hnodup : ((TranscriptMessage.fields ⟨text, isFinal, speechFinal, revision, received,
      transcribed, metadata, language⟩).map Prod.fst).Nodup := by
    simp [TranscriptMessage.fields]
  have htext := field_filter_kept (p := p) "text" none hp
    (v := requireStringField) (by simp) hnodup (j := .str text)
    (by simp [TranscriptMessage.fields, Dict.get?, List.lookup_cons]) (by simp) rfl
  have hfinal := field_filter_kept (p := p) "is_final" none hp
    (v := requireBooleanField) (by simp) hnodup (j := .bool isFinal)
    (by simp [TranscriptMessage.fields, Dict.get?, List.lookup_cons]) (by simp) rfl
  have hspeech := field_filter_kept (p := p) "speech_final" none hp
    (v := requireBooleanField) (by simp) hnodup (j := .bool speechFinal)
    (by simp [TranscriptMessage.fields, Dict.get?, List.lookup_cons]) (by simp) rfl
  have hrevision := field_filter_kept (p := p) "revision" none hp
    (by simp) hnodup (j := .int revision)
    (by simp [TranscriptMessage.fields, Dict.get?, List.lookup_cons]) (by simp)
    ((redumps_integerAtLeast 1).required hrevision)
  have hreceived := field_filter_kept (p := p) "audio_received_ms" none hp
    (by simp) hnodup (j := .int received)
    (by simp [TranscriptMessage.fields, Dict.get?, List.lookup_cons]) (by simp)
    ((redumps_integerAtLeast 0).required hreceived)
  have htranscribed := field_filter_kept (p := p) "audio_transcribed_ms" none hp (by simp) hnodup
    (j := .int transcribed)
    (by simp [TranscriptMessage.fields, Dict.get?, List.lookup_cons]) (by simp)
    ((redumps_integerAtLeast 0).required htranscribed)
  have hmetadata := field_filter_metadata (p := p) metadata hp hnodup
    (by simp [TranscriptMessage.fields, Dict.get?, List.lookup_cons])
  have hlanguage := field_filter_option (p := p) "language" hp (by simp) hnodup
    (f := .str) (by simp [TranscriptMessage.fields, Dict.get?, List.lookup_cons])
    (redumps_requireOptionalStringField.field rfl hlanguage) (by simp)
  rw [validateTranscript, htext, hfinal, hspeech, hrevision, hreceived, htranscribed, hmetadata,
    hlanguage]
  exact htiming

/-- A warning message is read back from its fields without some defaults. -/
lemma validateWarning_filter {p : String × Json → Bool} (hp : DropsDefaults p)
    (m : WarningMessage) : validateWarning (m.fields.filter p) = valid m := by
  have hnodup : (m.fields.map Prod.fst).Nodup := by simp [WarningMessage.fields]
  have hcode := field_filter_kept (p := p) "code" none hp
    (v := requireStringField) (by simp) hnodup (j := .str m.code)
    (by simp [WarningMessage.fields, Dict.get?, List.lookup_cons]) (by simp) rfl
  have hmessage := field_filter_kept (p := p) "message" none hp
    (v := requireStringField) (by simp) hnodup (j := .str m.message)
    (by simp [WarningMessage.fields, Dict.get?, List.lookup_cons]) (by simp) rfl
  have hmetadata := field_filter_metadata (p := p) m.metadata hp hnodup
    (by simp [WarningMessage.fields, Dict.get?, List.lookup_cons])
  have hretryable := field_filter_kept (p := p) "retryable" (some false) hp
    (v := requireBooleanField) (by simp) hnodup (j := .bool m.retryable)
    (by simp [WarningMessage.fields, Dict.get?, List.lookup_cons]) (by simp) rfl
  rw [validateWarning, hcode, hmessage, hmetadata, hretryable]
  rfl

/-- An error message is read back from its fields without some defaults. -/
lemma validateError_filter {p : String × Json → Bool} (hp : DropsDefaults p)
    (m : ErrorMessage) : validateError (m.fields.filter p) = valid m := by
  have hnodup : (m.fields.map Prod.fst).Nodup := by simp [ErrorMessage.fields]
  have hcode := field_filter_kept (p := p) "code" none hp
    (v := requireStringField) (by simp) hnodup (j := .str m.code)
    (by simp [ErrorMessage.fields, Dict.get?, List.lookup_cons]) (by simp) rfl
  have hmessage := field_filter_kept (p := p) "message" none hp
    (v := requireStringField) (by simp) hnodup (j := .str m.message)
    (by simp [ErrorMessage.fields, Dict.get?, List.lookup_cons]) (by simp) rfl
  have hmetadata := field_filter_metadata (p := p) m.metadata hp hnodup
    (by simp [ErrorMessage.fields, Dict.get?, List.lookup_cons])
  have hretryable := field_filter_kept (p := p) "retryable" (some false) hp
    (v := requireBooleanField) (by simp) hnodup (j := .bool m.retryable)
    (by simp [ErrorMessage.fields, Dict.get?, List.lookup_cons]) (by simp) rfl
  have hfatal := field_filter_kept (p := p) "fatal" (some true) hp
    (v := requireBooleanField) (by simp) hnodup (j := .bool m.fatal)
    (by simp [ErrorMessage.fields, Dict.get?, List.lookup_cons]) (by simp) rfl
  rw [validateError, hcode, hmessage, hmetadata, hretryable, hfatal]
  rfl

/-- A closed message is read back from its fields without some defaults. -/
lemma validateClosed_filter {p : String × Json → Bool} (hp : DropsDefaults p)
    (m : ClosedMessage) : validateClosed (m.fields.filter p) = valid m := by
  have hnodup : (m.fields.map Prod.fst).Nodup := by simp [ClosedMessage.fields]
  have hreason := field_filter_kept (p := p) "reason" none hp
    (v := requireStringField) (by simp) hnodup (j := .str m.reason)
    (by simp [ClosedMessage.fields, Dict.get?, List.lookup_cons]) (by simp) rfl
  have hmetadata := field_filter_metadata (p := p) m.metadata hp hnodup
    (by simp [ClosedMessage.fields, Dict.get?, List.lookup_cons])
  rw [validateClosed, hreason, hmetadata]
  rfl

/-! ## Valid messages -/

/-- The message is an instance of its model: the result of a validation. -/
def ClientMessage.Valid (m : ClientMessage) : Prop := ∃ d, validateClientMessage d = valid m

/-- The message is an instance of its model: the result of a validation. -/
def ServerMessage.Valid (m : ServerMessage) : Prop := ∃ d, validateServerMessage d = valid m

/-- What the tag selects validates to a message of that kind. -/
lemma under_andThen_eq_valid {α β : Type} {x : Validated α} {part : String} {f : α → β} {b : β}
    (h : ((x.under part).andThen fun a => valid (f a)) = valid b) : ∃ a, x = valid a ∧ f a = b := by
  obtain ⟨a, ha, hb⟩ := andThen_eq_valid.mp h
  exact ⟨a, under_eq_valid.mp ha, Validated.valid.inj hb⟩

/-- The fields of a valid client message passed the validators of its model. -/
lemma ClientMessage.Valid.cases {m : ClientMessage} (h : m.Valid) :
    match m with
    | .start m => ∃ d, validateStart d = valid m
    | .ping m => ∃ d, validateHeartbeat d = valid m
    | .pong m => ∃ d, validateHeartbeat d = valid m
    | _ => True := by
  obtain ⟨d, h⟩ := h
  unfold validateClientMessage at h
  split at h
  · simp at h
  · split at h
    · rename_i v hv
      subst h
      unfold validateTagged at hv
      split at hv <;> simp only [Option.some.injEq, reduceCtorEq] at hv
      · obtain ⟨a, ha, rfl⟩ := under_andThen_eq_valid hv
        exact ⟨d, ha⟩
      · obtain rfl := Validated.valid.inj hv
        trivial
      · obtain rfl := Validated.valid.inj hv
        trivial
      · obtain rfl := Validated.valid.inj hv
        trivial
      · obtain ⟨a, ha, rfl⟩ := under_andThen_eq_valid hv
        exact ⟨d, ha⟩
      · obtain ⟨a, ha, rfl⟩ := under_andThen_eq_valid hv
        exact ⟨d, ha⟩
    · simp at h
  · simp at h

/-- The fields of a valid server message passed the validators of its model. -/
lemma ServerMessage.Valid.cases {m : ServerMessage} (h : m.Valid) :
    match m with
    | .ready m => ∃ d, validateReady d = valid m
    | .transcript m => ∃ d, validateTranscript d = valid m
    | .ping m => ∃ d, validateHeartbeat d = valid m
    | .pong m => ∃ d, validateHeartbeat d = valid m
    | _ => True := by
  obtain ⟨d, h⟩ := h
  unfold validateServerMessage at h
  split at h
  · simp at h
  · split at h
    · rename_i v hv
      subst h
      unfold validateServerTagged at hv
      split at hv <;> simp only [Option.some.injEq, reduceCtorEq] at hv
      all_goals
        obtain ⟨a, ha, rfl⟩ := under_andThen_eq_valid hv
        first
          | trivial
          | exact ⟨d, ha⟩
    · simp at h
  · simp at h

/-- Dictionaries with the same bindings have the same fields. -/
lemma field_congr {d d' : Dict} (h : ∀ key, d.get? key = d'.get? key) {α : Type} (name : String)
    (default : Option α) (v : Json → Validated α) :
    field d name default v = field d' name default v := by
  unfold field
  rw [h]

/-- Client messages are validated by their bindings. -/
lemma validateClientMessage_congr {d d' : Dict} (h : ∀ key, d.get? key = d'.get? key) :
    validateClientMessage d = validateClientMessage d' := by
  have htagged : validateTagged d = validateTagged d' := by
    funext tag
    simp only [validateTagged, validateStart, validateHeartbeat, field_congr h]
  unfold validateClientMessage
  rw [h, htagged]

/-- Server messages are validated by their bindings. -/
lemma validateServerMessage_congr {d d' : Dict} (h : ∀ key, d.get? key = d'.get? key) :
    validateServerMessage d = validateServerMessage d' := by
  have htagged : validateServerTagged d = validateServerTagged d' := by
    funext tag
    simp only [validateServerTagged, validateReady, validateTranscript, validateWarning,
      validateError, validateHeartbeat, validateClosed, field_congr h]
  unfold validateServerMessage
  rw [h, htagged]

/-- A binding that is neither `None` nor one of the two popped ones is in what is left. -/
lemma get?_filter_kept {d : Dict} {p : String × Json → Bool} {name : String} {j : Json}
    (hp : DropsDefaults p) (hd : (d.map Prod.fst).Nodup) (h : d.get? name = some j)
    (hnull : j ≠ .null) (hname : name ≠ "metadata" ∧ name ≠ "finalize_on_stable_partial") :
    Dict.get? (d.filter p) name = some j := by
  rw [get?_filter hd, h]
  by_cases hkept : p (name, j) = true
  · simp [Option.filter, hkept]
  · rcases hp _ _ (by simpa using hkept) with h | ⟨h, -⟩ | ⟨h, -⟩
    · exact absurd h hnull
    · exact absurd h hname.1
    · exact absurd h hname.2

/-- The envelope type of a frame that repeats the type of its payload changes nothing. -/
lemma get?_envelope {d : Dict} {type : String} (h : d.get? "type" = some (.str type))
    (key : String) : Dict.get? (("type", .str type) :: d) key = d.get? key := by
  by_cases hkey : key = "type"
  · subst hkey
    rw [h]
    simp [Dict.get?]
  · have hbeq : (key == "type") = false := by simpa using hkey
    simp [Dict.get?, List.lookup_cons, hbeq]

/-- The tag of a client message. -/
def ClientMessage.tag : ClientMessage → String
  | .start _ => "start"
  | .finalize => "finalize"
  | .cancel => "cancel"
  | .close => "close"
  | .ping _ => "ping"
  | .pong _ => "pong"

/-- The tag of a server message. -/
def ServerMessage.tag : ServerMessage → String
  | .ready _ => "ready"
  | .transcript _ => "transcript"
  | .warning _ => "warning"
  | .error _ => "error"
  | .ping _ => "ping"
  | .pong _ => "pong"
  | .closed _ => "closed"

/-- The fields of a client message have distinct names, its tag first. -/
lemma ClientMessage.fields_spec (m : ClientMessage) :
    (m.fields.map Prod.fst).Nodup ∧ m.fields.get? "type" = some (.str m.tag) := by
  cases m <;>
    simp [ClientMessage.fields, StartMessage.fields, Heartbeat.fields, ClientMessage.tag,
      Dict.get?]

/-- The fields of a server message have distinct names, its tag first. -/
lemma ServerMessage.fields_spec (m : ServerMessage) :
    (m.fields.map Prod.fst).Nodup ∧ m.fields.get? "type" = some (.str m.tag) := by
  cases m <;>
    simp [ServerMessage.fields, ReadyMessage.fields, TranscriptMessage.fields,
      WarningMessage.fields, ErrorMessage.fields, ClosedMessage.fields, Heartbeat.fields,
      ServerMessage.tag, Dict.get?]

/-- A valid client message is read back from its fields without some defaults. -/
theorem validateClientMessage_filter {m : ClientMessage} {p : String × Json → Bool}
    (hp : DropsDefaults p) (hm : m.Valid) :
    validateClientMessage (m.fields.filter p) = valid m := by
  have htype := get?_filter_kept hp m.fields_spec.1 m.fields_spec.2 (by simp) (by simp)
  have hcases := hm.cases
  unfold validateClientMessage
  rw [htype]
  cases m with
  | start m =>
    obtain ⟨d, hd⟩ := hcases
    simp [ClientMessage.tag, validateTagged, ClientMessage.fields, validateStart_filter hp hd,
      under, andThen]
  | ping m =>
    obtain ⟨d, hd⟩ := hcases
    simp [ClientMessage.tag, validateTagged, ClientMessage.fields, validateHeartbeat_filter hp _ hd,
      under, andThen]
  | pong m =>
    obtain ⟨d, hd⟩ := hcases
    simp [ClientMessage.tag, validateTagged, ClientMessage.fields, validateHeartbeat_filter hp _ hd,
      under, andThen]
  | _ => simp [ClientMessage.tag, validateTagged]

/-- A valid server message is read back from its fields without some defaults. -/
theorem validateServerMessage_filter {m : ServerMessage} {p : String × Json → Bool}
    (hp : DropsDefaults p) (hm : m.Valid) :
    validateServerMessage (m.fields.filter p) = valid m := by
  have htype := get?_filter_kept hp m.fields_spec.1 m.fields_spec.2 (by simp) (by simp)
  have hcases := hm.cases
  unfold validateServerMessage
  rw [htype]
  cases m with
  | ready m =>
    obtain ⟨d, hd⟩ := hcases
    simp [ServerMessage.tag, validateServerTagged, ServerMessage.fields,
      validateReady_filter hp hd, under, andThen]
  | transcript m =>
    obtain ⟨d, hd⟩ := hcases
    simp [ServerMessage.tag, validateServerTagged, ServerMessage.fields,
      validateTranscript_filter hp hd, under, andThen]
  | warning m =>
    simp [ServerMessage.tag, validateServerTagged, ServerMessage.fields,
      validateWarning_filter hp m, under, andThen]
  | error m =>
    simp [ServerMessage.tag, validateServerTagged, ServerMessage.fields,
      validateError_filter hp m, under, andThen]
  | ping m =>
    obtain ⟨d, hd⟩ := hcases
    simp [ServerMessage.tag, validateServerTagged, ServerMessage.fields,
      validateHeartbeat_filter hp _ hd, under, andThen]
  | pong m =>
    obtain ⟨d, hd⟩ := hcases
    simp [ServerMessage.tag, validateServerTagged, ServerMessage.fields,
      validateHeartbeat_filter hp _ hd, under, andThen]
  | closed m =>
    simp [ServerMessage.tag, validateServerTagged, ServerMessage.fields,
      validateClosed_filter hp m, under, andThen]

end RtcAsr
