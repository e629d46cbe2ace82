import RtcAsr.Protocol.RawUds

/-!
# What the validators accept

Facts about the validators of `RtcAsr.Protocol.Message` that both transports rest on: when a
validation raises, and that validating the dump of a validated message gives the message again
(`validateStart_modelDump`).
-/

namespace RtcAsr

open Validated

namespace Validated

variable {α β : Type}

/-- The validation ended with an exception that is not a validation error. -/
def Raises (x : Validated α) : Prop := ∃ e, x = raised e

/-- The validation collected line errors. -/
def Rejects (x : Validated α) : Prop := ∃ e es, x = invalid e es

/-- The validation gave a value. -/
def Accepts (x : Validated α) : Prop := ∃ a, x = valid a

/-- A validation accepts, rejects or raises. -/
lemma accepts_or_rejects_or_raises (x : Validated α) : x.Accepts ∨ x.Rejects ∨ x.Raises := by
  cases x with
  | valid a => exact .inl ⟨a, rfl⟩
  | invalid e es => exact .inr (.inl ⟨e, es, rfl⟩)
  | raised e => exact .inr (.inr ⟨e, rfl⟩)

@[simp] lemma raises_valid (a : α) : ¬ (valid a).Raises := by simp [Raises]

@[simp] lemma raises_invalid (e : LineError) (es : List LineError) :
    ¬ (invalid e es : Validated α).Raises := by simp [Raises]

@[simp] lemma raises_fail (type msg : String) : ¬ (fail type msg : Validated α).Raises := by
  simp [Raises, fail]

@[simp] lemma fail_ne_valid (type msg : String) (a : α) : fail type msg ≠ valid a := by
  simp [fail]

@[simp] lemma raises_raised (e : PyError) : (raised e : Validated α).Raises := ⟨e, rfl⟩

@[simp] lemma under_eq_valid {part : String} {x : Validated α} {a : α} :
    x.under part = valid a ↔ x = valid a := by
  cases x <;> simp [under]

@[simp] lemma raises_under {part : String} {x : Validated α} :
    (x.under part).Raises ↔ x.Raises := by
  cases x <;> simp [under]

/-- The next field of a model gives a value when all fields up to it do. -/
lemma next_eq_valid {f : Validated (α → β)} {x : Validated α} {b : β} :
    f.next x = valid b ↔ ∃ g a, f = valid g ∧ x = valid a ∧ g a = b := by
  cases f <;> cases x <;> simp [next]

/-- Validating the fields of a model raises when one of them does. -/
@[simp] lemma raises_next {f : Validated (α → β)} {x : Validated α} :
    (f.next x).Raises ↔ f.Raises ∨ x.Raises := by
  cases f <;> cases x <;> simp [next]

lemma andThen_eq_valid {x : Validated α} {f : α → Validated β} {b : β} :
    x.andThen f = valid b ↔ ∃ a, x = valid a ∧ f a = valid b := by
  cases x <;> simp [andThen]

lemma raises_andThen {x : Validated α} {f : α → Validated β} :
    (x.andThen f).Raises ↔ x.Raises ∨ ∃ a, x = valid a ∧ (f a).Raises := by
  cases x <;> simp [andThen]

/-- A further validation that never raises adds no exception. -/
lemma raises_andThen_of_not {x : Validated α} {f : α → Validated β} (h : ∀ a, ¬ (f a).Raises) :
    (x.andThen f).Raises ↔ x.Raises := by
  rw [raises_andThen]
  exact ⟨fun hx => hx.elim id fun ⟨a, _, ha⟩ => absurd ha (h a), .inl⟩

end Validated

/-! ## Exceptions -/

/-- A field raises when it is present and its validator raises. -/
lemma raises_field {α : Type} {d : Dict} {name : String} {default : Option α}
    {v : Json → Validated α} :
    (field d name default v).Raises ↔ ∃ j, d.get? name = some j ∧ (v j).Raises := by
  unfold field
  cases d.get? name with
  | some j => simp
  | none => cases default <;> simp

/-- A field whose validator never raises does not raise. -/
lemma not_raises_field {α : Type} {d : Dict} {name : String} {default : Option α}
    {v : Json → Validated α} (h : ∀ j, ¬ (v j).Raises) : ¬ (field d name default v).Raises := by
  rw [raises_field]
  rintro ⟨j, -, hj⟩
  exact h j hj

lemma not_raises_optionalInteger (j : Json) : ¬ (optionalInteger j).Raises := by
  cases j <;> simp [optionalInteger]

lemma not_raises_requiredInteger (j : Json) : ¬ (requiredInteger j).Raises := by
  rw [requiredInteger, raises_andThen_of_not]
  · exact not_raises_optionalInteger j
  · rintro (_ | n) <;> simp

lemma not_raises_positiveInteger (j : Json) : ¬ (positiveInteger j).Raises := by
  rw [positiveInteger, raises_andThen_of_not]
  · exact not_raises_optionalInteger j
  · rintro (_ | n)
    · simp [requirePositiveIntegerField]
    · simp only [requirePositiveIntegerField]
      split_ifs <;> simp

lemma not_raises_nonnegativeInteger (j : Json) : ¬ (nonnegativeInteger j).Raises := by
  rw [nonnegativeInteger, raises_andThen_of_not]
  · exact not_raises_optionalInteger j
  · rintro (_ | n)
    · simp
    · dsimp only
      split_ifs <;> simp

lemma not_raises_requireStringField (j : Json) : ¬ (requireStringField j).Raises := by
  cases j <;> simp [requireStringField]

lemma not_raises_requireOptionalStringField (j : Json) :
    ¬ (requireOptionalStringField j).Raises := by
  cases j <;> simp [requireOptionalStringField]

lemma not_raises_requireBooleanField (j : Json) : ¬ (requireBooleanField j).Raises := by
  cases j <;> simp [requireBooleanField]

lemma not_raises_requireMetadataObject (j : Json) : ¬ (requireMetadataObject j).Raises := by
  cases j <;> simp [requireMetadataObject]

lemma not_raises_requireVersion (j : Json) : ¬ (requireVersion j).Raises := by
  unfold requireVersion
  split <;> simp

lemma not_raises_validateHotPath (a : AudioFormat) : ¬ a.validateHotPath.Raises := by
  unfold AudioFormat.validateHotPath
  split_ifs <;> simp

lemma not_raises_validateAudioFormat (j : Json) : ¬ (validateAudioFormat j).Raises := by
  cases j with
  | obj d =>
    rw [validateAudioFormat, raises_andThen_of_not not_raises_validateHotPath]
    simp only [raises_next, raises_valid, false_or, not_or]
    exact ⟨⟨⟨⟨not_raises_field not_raises_requiredInteger,
      not_raises_field not_raises_requiredInteger⟩, not_raises_field not_raises_requireStringField⟩,
      not_raises_field not_raises_requiredInteger⟩, not_raises_field not_raises_optionalInteger⟩
  | _ => simp [validateAudioFormat]

/-- A JSON integer without a float: `math.isfinite` raises on it. -/
def Json.HugeInteger (j : Json) : Prop := ∃ n : ℤ, j = .int n ∧ Binary64.Overflows n

/-- A number field raises exactly on the integers without a float. -/
lemma raises_positiveNumber (j : Json) : (positiveNumber j).Raises ↔ j.HugeInteger := by
  have h1 : ∀ x, ¬ (requireFiniteNumericField x).Raises := by
    rintro (_ | x)
    · simp [requireFiniteNumericField]
    · simp only [requireFiniteNumericField]
      split_ifs <;> simp
  have h2 : ∀ x, ¬ (requirePositiveNumericField x).Raises := by
    rintro (_ | x)
    · simp [requirePositiveNumericField]
    · simp only [requirePositiveNumericField]
      split_ifs <;> simp
  rw [positiveNumber, raises_andThen_of_not h2, raises_andThen_of_not h1]
  cases j with
  | int n =>
    by_cases hn : Binary64.Overflows (n : ℚ) <;>
      simp [optionalNumber, intToFloat, hn, Json.HugeInteger]
  | float x =>
    by_cases hx : x.isFinite <;> simp [optionalNumber, hx, Json.HugeInteger]
  | _ => simp [optionalNumber, Json.HugeInteger]

/-- The start payload has a number field `math.isfinite` raises on. -/
def HugeNumberField (d : Dict) : Prop :=
  (d.getD "partial_window_seconds" .null).HugeInteger ∨
    (d.getD "max_buffer_seconds" .null).HugeInteger

lemma raises_numberField {d : Dict} {name : String} :
    (field d name (some none) positiveNumber).Raises ↔ (d.getD name .null).HugeInteger := by
  rw [raises_field]
  simp only [raises_positiveNumber, Dict.getD, Dict.get?]
  cases d.lookup name <;> simp [Json.HugeInteger]

/-- Validating a start message raises exactly on a number field without a float. -/
theorem raises_validateStart (d : Dict) : (validateStart d).Raises ↔ HugeNumberField d := by
  have h : ∀ {α : Type} {name : String} {default : Option α} {v : Json → Validated α},
      (∀ j, ¬ (v j).Raises) → ((field d name default v).Raises ↔ False) :=
    fun hv => iff_false_intro (not_raises_field hv)
  simp only [validateStart, raises_next, raises_valid, h not_raises_requireVersion,
    h not_raises_validateAudioFormat, h not_raises_requireOptionalStringField,
    h not_raises_requireBooleanField, h not_raises_positiveInteger,
    h not_raises_requireMetadataObject, raises_numberField, false_or, or_false, HugeNumberField]

lemma not_raises_validateHeartbeat (d : Dict) : ¬ (validateHeartbeat d).Raises := by
  simp only [validateHeartbeat, raises_next, raises_valid, false_or, not_or]
  exact ⟨⟨not_raises_field not_raises_requireOptionalStringField,
    not_raises_field not_raises_nonnegativeInteger⟩,
    not_raises_field not_raises_requireMetadataObject⟩

/-- Only start messages can raise. -/
lemma raises_validateClientMessage {d : Dict} (h : (validateClientMessage d).Raises) :
    d.get? "type" = some (.str "start") ∧ HugeNumberField d := by
  unfold validateClientMessage at h
  split at h
  · simp at h
  · rename_i tag htag
    have hthen : ∀ {α : Type} (x : Validated α) (f : α → ClientMessage),
        (x.andThen fun m => valid (f m)).Raises ↔ x.Raises :=
      fun x f => raises_andThen_of_not fun a => raises_valid _
    unfold validateTagged at h
    split at h
    · rename_i v hv
      split at hv <;> cases hv
      · rw [hthen, raises_under, raises_validateStart] at h
        exact ⟨htag, h⟩
      · simp at h
      · simp at h
      · simp at h
      · rw [hthen, raises_under] at h
        exact absurd h (not_raises_validateHeartbeat d)
      · rw [hthen, raises_under] at h
        exact absurd h (not_raises_validateHeartbeat d)
    · simp at h
  · simp at h

/-! ## Validated messages dump to themselves -/

/-- Validating the dump of a value the validator returned gives the value again. -/
def Redumps {α : Type} (v : Json → Validated α) (dump : α → Json) : Prop :=
  ∀ j a, v j = valid a → v (dump a) = valid a

section Redumps

variable {α : Type} {v : Json → Validated α} {dump : α → Json}

/-- The dump of an optional field's value is accepted again. -/
lemma Redumps.field (h : Redumps v dump) {d : Dict} {name : String} {default x : α}
    (hd : v (dump default) = valid default) (hx : field d name (some default) v = valid x) :
    v (dump x) = valid x := by
  unfold RtcAsr.field at hx
  cases hj : d.get? name with
  | none =>
    rw [hj] at hx
    obtain rfl := Validated.valid.inj hx
    exact hd
  | some j =>
    rw [hj] at hx
    exact h j x (under_eq_valid.mp hx)

/-- The dump of a required field's value is accepted again. -/
lemma Redumps.required (h : Redumps v dump) {d : Dict} {name : String} {x : α}
    (hx : RtcAsr.field d name none v = valid x) : v (dump x) = valid x := by
  unfold RtcAsr.field at hx
  cases hj : d.get? name with
  | none => rw [hj] at hx; cases hx
  | some j =>
    rw [hj] at hx
    exact h j x (under_eq_valid.mp hx)

lemma redumps_optionalInteger : Redumps optionalInteger (Json.ofOption .int) := by
  rintro j (_ | n) - <;> rfl

lemma redumps_requireOptionalStringField :
    Redumps requireOptionalStringField (Json.ofOption .str) := by
  rintro j (_ | s) - <;> rfl

lemma redumps_positiveInteger : Redumps positiveInteger (Json.ofOption .int) := by
  rintro j (_ | n) h
  · rfl
  · obtain ⟨m, -, hm⟩ := andThen_eq_valid.mp h
    cases m with
    | none => simp [requirePositiveIntegerField] at hm
    | some m =>
      simp only [requirePositiveIntegerField] at hm
      split_ifs at hm with hlt
      · simp at hm
      obtain rfl : m = n := by simpa using hm
      simp [positiveInteger, Json.ofOption, optionalInteger, andThen, requirePositiveIntegerField,
        hlt]

/-- A number a field accepts is finite and positive. -/
lemma positiveNumber_eq_some {j : Json} {x : PyFloat} (h : positiveNumber j = valid (some x)) :
    x.isFinite = true ∧ x.nonpos = false := by
  obtain ⟨y, hy, hx⟩ := andThen_eq_valid.mp h
  obtain ⟨z, -, hz⟩ := andThen_eq_valid.mp hy
  cases y with
  | none => simp [requirePositiveNumericField] at hx
  | some y =>
    cases z with
    | none => simp [requireFiniteNumericField] at hz
    | some z =>
      simp only [requireFiniteNumericField] at hz
      simp only [requirePositiveNumericField] at hx
      split_ifs at hz hx with hfin hpos
      · simp at hx
      · obtain rfl : z = y := by simpa using hz
        obtain rfl : z = x := by simpa using hx
        exact ⟨hfin, by simpa using hpos⟩
      all_goals simp at hz

/-- A finite positive number is accepted as it is. -/
lemma positiveNumber_float {x : PyFloat} (hfin : x.isFinite = true) (hpos : x.nonpos = false) :
    positiveNumber (.float x) = valid (some x) := by
  simp [positiveNumber, optionalNumber, hfin, andThen, requireFiniteNumericField,
    requirePositiveNumericField, hpos]

lemma redumps_positiveNumber : Redumps positiveNumber (Json.ofOption .float) := by
  rintro j (_ | x) h
  · rfl
  · obtain ⟨hfin, hpos⟩ := positiveNumber_eq_some h
    exact positiveNumber_float hfin hpos

/-- An audio format passes the hot-path check unchanged. -/
lemma validateHotPath_eq_valid {a b : AudioFormat} (h : a.validateHotPath = valid b) : a = b := by
  unfold AudioFormat.validateHotPath at h
  split_ifs at h
  iterate 5 exact absurd h (fail_ne_valid _ _ _)
  exact Validated.valid.inj h

lemma redumps_validateAudioFormat :
    Redumps validateAudioFormat (fun a : AudioFormat => .obj a.modelDump) := by
  intro j a h
  cases j with
  | obj d =>
    obtain ⟨b, -, hb⟩ := andThen_eq_valid.mp h
    obtain rfl := validateHotPath_eq_valid hb
    have hbytes := redumps_optionalInteger (.ofOption .int b.bytesPerFrame) b.bytesPerFrame
      (by cases b.bytesPerFrame <;> rfl)
    have hint : ∀ n, requiredInteger (.int n) = valid n := fun _ => rfl
    simpa [validateAudioFormat, AudioFormat.modelDump, field, Dict.get?, List.lookup_cons, hint,
      requireStringField, andThen, under, next, hbytes] using hb
  | _ => simp [validateAudioFormat] at h

end Redumps

/-- The fields of a validated start message. -/
lemma validateStart_eq_valid {d : Dict} {m : StartMessage} (h : validateStart d = valid m) :
    field d "audio" none validateAudioFormat = valid m.audio ∧
      field d "language" (some none) requireOptionalStringField = valid m.language ∧
      field d "interim_results" (some true) requireBooleanField = valid m.interimResults ∧
      field d "partial_interval_ms" (some none) positiveInteger = valid m.partialIntervalMs ∧
      field d "partial_window_seconds" (some none) positiveNumber = valid m.partialWindowSeconds ∧
      field d "max_buffer_seconds" (some none) positiveNumber = valid m.maxBufferSeconds ∧
      field d "finalize_on_stable_partial" (some false) requireBooleanField =
        valid m.finalizeOnStablePartial ∧
      field d "stable_partial_cycles" (some none) positiveInteger = valid m.stablePartialCycles ∧
      field d "client_stream_id" (some none) requireOptionalStringField = valid m.clientStreamId ∧
      field d "metadata" (some []) requireMetadataObject = valid m.metadata ∧
      field d "version" none requireVersion = valid () := by
  simp only [validateStart, next_eq_valid, Validated.valid.injEq] at h
  obtain ⟨_, metadata, ⟨_, clientStreamId, ⟨_, cycles, ⟨_, finalize, ⟨_, buffer, ⟨_, window,
    ⟨_, interval, ⟨_, interim, ⟨_, language, ⟨_, audio, ⟨_, version, rfl, hversion, rfl⟩, haudio,
    rfl⟩, hlanguage, rfl⟩, hinterim, rfl⟩, hinterval, rfl⟩, hwindow, rfl⟩, hbuffer, rfl⟩,
    hfinalize, rfl⟩, hcycles, rfl⟩, hclient, rfl⟩, hmetadata, rfl⟩ := h
  exact ⟨haudio, hlanguage, hinterim, hinterval, hwindow, hbuffer, hfinalize, hcycles, hclient,
    hmetadata, hversion⟩

/-- **Dumping and validating again.** A validated start message is the validation of its dump. -/
theorem validateStart_modelDump {d : Dict} {m : StartMessage} (h : validateStart d = valid m) :
    validateStart m.modelDump = valid m := by
  obtain ⟨haudio, hlanguage, hinterim, hinterval, hwindow, hbuffer, hfinalize, hcycles, hclient,
    hmetadata, -⟩ := validateStart_eq_valid h
  have haudio := redumps_validateAudioFormat.required haudio
  have hlanguage := redumps_requireOptionalStringField.field rfl hlanguage
  have hinterval := redumps_positiveInteger.field rfl hinterval
  have hwindow := redumps_positiveNumber.field rfl hwindow
  have hbuffer := redumps_positiveNumber.field rfl hbuffer
  have hcycles := redumps_positiveInteger.field rfl hcycles
  have hclient := redumps_requireOptionalStringField.field rfl hclient
  simp [validateStart, StartMessage.modelDump, field, Dict.get?, List.lookup_cons,
    haudio, hlanguage, hinterval, hwindow, hbuffer, hcycles, hclient, requireVersion, Json.isStr,
      requireBooleanField,
    requireMetadataObject, under, next]

end RtcAsr
