import Mathlib.Order.Bounds.Basic
import RtcAsr.Server.PartialInterval
import RtcAsr.Server.ReceivedStart

/-!
# The interval of a start message

The parser of start messages rounds `partial_interval_ms` up to whole frames, through a binary64
division.  A start message that is valid otherwise gets the least multiple of the frame that covers
its interval exactly when the quotient rounds up exactly (`roundsUp_iff`): an interval just above a
large multiple is rounded down (`not_roundsUp_large`), and one beyond the range of binary64 raises.
-/

namespace RtcAsr

open Validated Binary64

/-- The payload with this value as its `partial_interval_ms`. -/
def Dict.withInterval (payload : Dict) (value : Json) : Dict :=
  ("partial_interval_ms", value) :: payload

/-- The cadence is the least multiple of the frame that covers the interval, in milliseconds and in
frames. -/
def LocalSttStartConfig.RoundsUp (config : LocalSttStartConfig) (n : ℕ) : Prop :=
  ∃ ms : ℕ, config.partialIntervalAudioMs = some (ms : ℤ) ∧ IsLeast {m : ℕ | 20 ∣ m ∧ n ≤ m} ms ∧
    config.partialIntervalChunks = (ms / 20 : ℕ)

/-! ## Other fields -/

section

variable {payload : Dict} {value value' : Json} {name : String}

lemma get?_withInterval (h : name ≠ "partial_interval_ms") :
    (payload.withInterval value).get? name = payload.get? name := by
  simp [Dict.withInterval, Dict.get?, List.lookup_cons, beq_eq_false_iff_ne.mpr h]

lemma getD_withInterval {default : Json} (h : name ≠ "partial_interval_ms") :
    (payload.withInterval value).getD name default = payload.getD name default :=
  congrArg (·.getD default) (get?_withInterval h)

lemma contains_withInterval (h : name ≠ "partial_interval_ms") :
    (payload.withInterval value).contains name = payload.contains name :=
  congrArg Option.isSome (get?_withInterval h)

/-- The shape of a start message does not depend on its interval. -/
lemma isFlatStart_withInterval :
    isFlatStart (payload.withInterval value) = isFlatStart payload := by
  simp [isFlatStart, contains_withInterval]

lemma flatV1_withInterval : FlatV1 (payload.withInterval value) ↔ FlatV1 payload := by
  simp [FlatV1, isFlatStart_withInterval, getD_withInterval]

lemma spelledStart_withInterval :
    SpelledStart (payload.withInterval value) ↔ SpelledStart payload := by
  simp [SpelledStart, getD_withInterval]

/-- The translation of a flat message passes its interval on. -/
lemma get?_translateFlatStart_interval :
    (translateFlatStart (payload.withInterval value)).get? "partial_interval_ms" = some value := by
  simp [translateFlatStart, Dict.get?, List.lookup_cons, Dict.withInterval, Dict.getD]

lemma get?_translateFlatStart_withInterval (h : name ≠ "partial_interval_ms") :
    (translateFlatStart (payload.withInterval value)).get? name =
      (translateFlatStart (payload.withInterval value')).get? name := by
  simp [translateFlatStart, Dict.get?, List.lookup_cons, beq_eq_false_iff_ne.mpr h,
    getD_withInterval]

/-- A start payload that validates does so with any positive interval. -/
lemma validateStart_congr {d : Dict} (d' : Dict) {m : StartMessage} {n : ℤ}
    (h : validateStart d = valid m)
    (hother : ∀ name, name ≠ "partial_interval_ms" → d'.get? name = d.get? name)
    (hinterval : d'.get? "partial_interval_ms" = some (.int n)) (hn : 0 < n) :
    validateStart d' = valid { m with partialIntervalMs := some n } := by
  have hfield : ∀ {α : Type} {name : String} {default : Option α} {validate : Json → Validated α}
      {a : α}, name ≠ "partial_interval_ms" → field d name default validate = valid a →
        field d' name default validate = valid a := by
    intro α name default validate a hname ha
    unfold field at ha ⊢
    rw [hother name hname]
    exact ha
  obtain ⟨haudio, hlanguage, hinterim, -, hwindow, hbuffer, hfinalize, hcycles, hclient,
    hmetadata, hversion⟩ := validateStart_eq_valid h
  have hpositive : field d' "partial_interval_ms" (some none) positiveInteger = valid (some n) := by
    simp [field, hinterval, positiveInteger, optionalInteger, andThen, requirePositiveIntegerField,
      not_lt.mpr (show 1 ≤ n from hn)]
  simp [validateStart, hfield (by decide) haudio, hfield (by decide) hlanguage,
    hfield (by decide) hinterim, hpositive, hfield (by decide) hwindow, hfield (by decide) hbuffer,
    hfield (by decide) hfinalize, hfield (by decide) hcycles, hfield (by decide) hclient,
    hfield (by decide) hmetadata, hfield (by decide) hversion, next]

end

/-! ## Start messages -/

section

variable {p : Dict} {config : LocalSttStartConfig}

lemma configOutcome_eq_start {x : Except Exn LocalSttStartConfig} :
    configOutcome x = .event (.start config) ↔ x = .ok config := by
  cases x with
  | error e => cases e <;> simp [configOutcome]
  | ok c => simp [configOutcome]

/-- The start messages that parse: those of the nested and of the flat shape that validate. -/
lemma parseLocalSttStartMessage_eq_ok :
    parseLocalSttStartMessage p = .ok config ↔
      (isFlatStart p = false ∧ SpelledStart p ∧
        ∃ m, validateStart p = valid m ∧ startConfig m .null = .ok config) ∨
      (FlatV1 p ∧ ∃ m, validateStart (translateFlatStart p) = valid m ∧
        startConfig m (legacyChunks p) = .ok config) := by
  rw [← configOutcome_eq_start]
  cases hflat : isFlatStart p with
  | false =>
    have hv : ¬ FlatV1 p := fun h => Bool.false_ne_true (hflat.symm.trans h.1)
    by_cases hs : SpelledStart p
    · rw [parseLocalSttStartMessage_not_flat hflat hs, startOutcome_eq_start]
      simp [hs, hv]
    · rw [parseLocalSttStartMessage_misspelled hflat hs]
      simp [hs, hv]
  | true =>
    by_cases hv : FlatV1 p
    · rw [parseLocalSttStartMessage_flat hv, startOutcome_eq_start]
      simp [hv]
    · rw [parseLocalSttStartMessage_protocol hflat hv]
      simp [hv]

/-- The configuration of a start message with an interval. -/
lemma startConfig_interval {m : StartMessage} {n : ℕ} (legacy : Json)
    (hframe : m.audio.frameMs = HOT_PATH_FRAME_MS) (hinterval : m.partialIntervalMs = some (n : ℤ))
    (hn : 0 < n) :
    (∃ config, startConfig m legacy = .ok config ∧ config.RoundsUp n) ↔ CeilExact n 20 := by
  have hleast : IsLeast {k : ℕ | 20 ∣ k ∧ n ≤ k} (20 * (n ⌈/⌉ 20)) := by
    refine ⟨⟨dvd_mul_right .., (ceilDiv_le_iff_le_mul (by norm_num)).mp le_rfl⟩, ?_⟩
    rintro k ⟨⟨q, rfl⟩, hle⟩
    exact Nat.mul_le_mul_left 20 ((ceilDiv_le_iff_le_mul (by norm_num)).mpr hle)
  rw [← partialIntervalChunks_eq_ok_iff hn]
  unfold startConfig partialInterval
  rw [hinterval, hframe]
  dsimp only
  constructor
  · rintro ⟨config, hconfig, ms, hms, hmsLeast, hchunks⟩
    obtain rfl := hmsLeast.unique hleast
    cases hquot : partialIntervalChunks (n : ℤ) HOT_PATH_FRAME_MS with
    | error e =>
      rw [hquot] at hconfig
      cases hconfig
    | ok chunks =>
      rw [hquot] at hconfig
      obtain rfl := Except.ok.inj hconfig
      rw [Nat.mul_div_cancel_left _ (by norm_num)] at hchunks
      exact congrArg Except.ok hchunks
  · intro hquot
    rw [hquot]
    refine ⟨_, rfl, 20 * (n ⌈/⌉ 20), ?_, hleast, ?_⟩
    · simp only [Option.some.injEq, HOT_PATH_FRAME_MS]
      push_cast
      ring
    · rw [Nat.mul_div_cancel_left _ (by norm_num)]

end

/-- **The interval is rounded up exactly when the quotient is.** For every start message that is
valid with some interval and every positive integer in its place. -/
theorem roundsUp_iff {payload : Dict} (hvalid : ∃ value config,
    parseLocalSttStartMessage (payload.withInterval value) = .ok config) {n : ℕ} (hn : 0 < n) :
    (∃ config, parseLocalSttStartMessage (payload.withInterval (.int n)) = .ok config ∧
      config.RoundsUp n) ↔ CeilExact n 20 := by
  have hframe : ∀ {d m}, validateStart d = valid m → m.audio.frameMs = HOT_PATH_FRAME_MS := by
    intro d m h
    obtain ⟨j, -, hj⟩ := field_required_eq_valid (validateStart_eq_valid h).1
    exact frameMs_of_validateAudioFormat hj
  have hn' : (0 : ℤ) < n := by exact_mod_cast hn
  obtain ⟨value, config, hparse⟩ := hvalid
  rcases parseLocalSttStartMessage_eq_ok.mp hparse with
    ⟨hflat, hspelled, m, hm, -⟩ | ⟨hv, m, hm, -⟩
  · rw [isFlatStart_withInterval] at hflat
    rw [spelledStart_withInterval] at hspelled
    have hm' := validateStart_congr (payload.withInterval (.int n)) hm
      (fun name h => by rw [get?_withInterval h, get?_withInterval h]) rfl hn'
    have hv : ¬ FlatV1 payload := fun h => Bool.false_ne_true (hflat.symm.trans h.1)
    rw [← startConfig_interval .null (hframe hm') rfl hn]
    simp [parseLocalSttStartMessage_eq_ok, isFlatStart_withInterval, flatV1_withInterval, hflat,
      spelledStart_withInterval, hspelled, hv, hm']
  · rw [flatV1_withInterval] at hv
    have hm' := validateStart_congr (translateFlatStart (payload.withInterval (.int n))) hm
      (fun name h => get?_translateFlatStart_withInterval h) get?_translateFlatStart_interval hn'
    rw [← startConfig_interval (legacyChunks (payload.withInterval (.int n))) (hframe hm') rfl hn]
    simp [parseLocalSttStartMessage_eq_ok, isFlatStart_withInterval, flatV1_withInterval, hv.1,
      hv, hm']

/-- A start message with the audio format of the hot path. -/
def nestedStart : Dict :=
  [("type", .str "start"), ("version", .str PROTOCOL_VERSION),
    ("audio", .obj
      [("sample_rate", .int HOT_PATH_SAMPLE_RATE), ("channels", .int HOT_PATH_CHANNELS),
        ("format", .str HOT_PATH_PCM_FORMAT)])]

/-- It parses without an interval. -/
lemma nestedStart_parses :
    ∃ value config, parseLocalSttStartMessage (nestedStart.withInterval value) = .ok config := by
  have hok : (parseLocalSttStartMessage (nestedStart.withInterval .null)).toOption.isSome =
      true := by
    decide +kernel
  obtain ⟨config, hconfig⟩ := Option.isSome_iff_exists.mp hok
  refine ⟨.null, config, ?_⟩
  cases h : parseLocalSttStartMessage (nestedStart.withInterval .null) with
  | error e => rw [h] at hconfig; cases hconfig
  | ok c => rw [h] at hconfig; exact congrArg Except.ok (Option.some.inj hconfig)

/-- The condition at an interval of 21 milliseconds. -/
theorem roundsUp_twentyOne :
    ∃ config, parseLocalSttStartMessage (nestedStart.withInterval (.int (21 : ℕ))) = .ok config ∧
      config.RoundsUp 21 :=
  (roundsUp_iff nestedStart_parses (n := 21) (by decide)).mpr (by decide)

/-- An interval of one millisecond more than `2 ^ 49` frames is rounded down. -/
theorem not_roundsUp_large :
    (∃ value config,
      parseLocalSttStartMessage (nestedStart.withInterval value) = .ok config) ∧
    ¬ ∃ config,
      parseLocalSttStartMessage (nestedStart.withInterval (.int (11258999068426241 : ℕ))) =
        .ok config ∧ config.RoundsUp 11258999068426241 := by
  refine ⟨nestedStart_parses, ?_⟩
  rintro ⟨config, hconfig, ms, hms, hleast, -⟩
  have hdown : (parseLocalSttStartMessage
      (nestedStart.withInterval (.int (11258999068426241 : ℕ)))).toOption.bind
        (·.partialIntervalAudioMs) = some 11258999068426240 := by
    decide +kernel
  rw [hconfig] at hdown
  have hvalue : (ms : ℤ) = 11258999068426240 := Option.some.inj (hms.symm.trans hdown)
  have hcovers : 11258999068426241 ≤ ms := hleast.1.2
  omega

end RtcAsr
