import Mathlib.Tactic.IntervalCases
import RtcAsr.Audio.Processor

/-!
# Raw PCM16 audio

A v1 stream hands raw PCM16 audio to the model, but `load_audio` takes the fast path only if the
audio does not begin like a container.  Audio that does is decoded exactly when the container
readers refuse it with the exceptions `load_audio` expects (`load_audio_exact_iff`).
-/

namespace RtcAsr

/-! ## The audio of raw PCM16 bytes -/

/-- The samples of raw PCM16 audio. -/
def rawSamples (audioData : Bytes) : List PyFloat := scaledWords 2 32768 audioData

/-- The audio was decoded exactly: half as many samples as bytes, at the rate given, the `i`-th one
the signed little-endian number of the bytes `2 i` and `2 i + 1` over 32768. -/
def DecodesExactly (audioData : Bytes) (rate : ℤ) (result : Except AudioExn DecodedAudio) : Prop :=
  ∃ samples, result = .ok ⟨samples, rate⟩ ∧ samples.length = audioData.length / 2 ∧
    ∀ i lo hi, audioData[2 * i]? = some lo → audioData[2 * i + 1]? = some hi →
      samples[i]? = some (.finite (SampleWords.signed [lo, hi] / 32768))

/-- The `i`-th raw sample. -/
lemma getElem?_rawSamples {audioData : Bytes} {i : ℕ} {lo hi : UInt8}
    (hlo : audioData[2 * i]? = some lo) (hhi : audioData[2 * i + 1]? = some hi) :
    (rawSamples audioData)[i]? = some (.finite (SampleWords.signed [lo, hi] / 32768)) := by
  rw [rawSamples, scaledWords, List.getElem?_map, SampleWords.getElem?_words_two hlo hhi]
  rfl

/-- Audio of complete samples is decoded exactly when the raw samples are returned. -/
lemma decodesExactly_iff {audioData : Bytes} {rate : ℤ} {result : Except AudioExn DecodedAudio} :
    DecodesExactly audioData rate result ↔ result = .ok ⟨rawSamples audioData, rate⟩ := by
  have hlength : (rawSamples audioData).length = audioData.length / 2 := by
    simp [rawSamples, scaledWords]
  constructor
  · rintro ⟨samples, rfl, hsamples, hall⟩
    have heq : samples = rawSamples audioData := by
      refine List.ext_getElem? fun i => ?_
      rcases lt_or_ge i (audioData.length / 2) with hi | hi
      · have hlo : 2 * i < audioData.length := by omega
        have hhi : 2 * i + 1 < audioData.length := by omega
        rw [hall i _ _ (List.getElem?_eq_getElem hlo) (List.getElem?_eq_getElem hhi)]
        exact (getElem?_rawSamples (List.getElem?_eq_getElem hlo)
          (List.getElem?_eq_getElem hhi)).symm
      · rw [List.getElem?_eq_none (by omega), List.getElem?_eq_none (by omega)]
    rw [heq]
  · rintro rfl
    exact ⟨_, rfl, hlength, fun i lo hi hlo hhi => getElem?_rawSamples hlo hhi⟩

/-! ## What the container readers refuse -/

/-- `_decode_wav` can read the layout of the file: whole samples of one to four bytes, and whole
frames. -/
structure WavFile.Readable (file : WavFile) : Prop where
  width : 1 ≤ file.sampleWidth ∧ file.sampleWidth ≤ 4
  samples : file.frames.length % file.sampleWidth = 0
  frames : 1 < file.channels → file.frames.length / file.sampleWidth % file.channels = 0

/-- `wave` refuses the audio with `wave.Error` or `ValueError`, or finds a layout that `_decode_wav`
does not read. -/
def AudioLibraries.WaveRefuses (lib : AudioLibraries) (audioData : Bytes) : Prop :=
  match lib.waveOpen audioData with
  | .error e => e.isWaveOrValueError = true
  | .ok file => ¬ file.Readable

/-- `soundfile` is missing, or refuses the audio with `RuntimeError` or `ValueError`. -/
def AudioLibraries.SoundfileRefuses (lib : AudioLibraries) (audioData : Bytes) : Prop :=
  match lib.soundfileRead with
  | none => True
  | some read =>
    match read audioData with
    | .error e => e.isRuntimeError = true ∨ e.isValueError = true
    | .ok _ => False

/-- A container reader accepts the audio, and what it reads are, at the target rate, the raw samples
of its own bytes. -/
def AudioLibraries.ReadsRaw (lib : AudioLibraries) (audioData : Bytes) (rate : ℤ) : Prop :=
  ∃ samples detectedRate,
    (decodeWav lib audioData = .ok (samples, detectedRate) ∨
      lib.WaveRefuses audioData ∧ decodeWithSoundfile lib audioData = .ok (samples, detectedRate)) ∧
    (detectedRate = rate ∧ samples = rawSamples audioData ∨
      detectedRate ≠ rate ∧ resample lib samples detectedRate rate = .ok (rawSamples audioData))

variable {lib : AudioLibraries} {audioData : Bytes} {file : WavFile}

/-- The samples of a file are read, or its width or length is refused with a `ValueError`. -/
lemma WavFile.pcm_cases (lib : AudioLibraries) (file : WavFile) :
    (∃ pcm, file.pcm lib = .ok pcm ∧ pcm.length = file.frames.length / file.sampleWidth ∧
      (1 ≤ file.sampleWidth ∧ file.sampleWidth ≤ 4) ∧
      file.frames.length % file.sampleWidth = 0) ∨
    (∃ e, file.pcm lib = .error e ∧ e.isValueError = true ∧ ¬ file.Readable) := by
  obtain ⟨frameRate, channels, sampleWidth, frames⟩ := file
  have hrefused : ∀ {k : ℕ}, frames.length % k ≠ 0 →
      ¬ WavFile.Readable ⟨frameRate, channels, k, frames⟩ := fun h hreadable => h hreadable.samples
  unfold WavFile.pcm
  dsimp only
  split
  · exact Or.inl ⟨_, rfl, by simp, by simp, Nat.mod_one _⟩
  · split_ifs with h
    · exact Or.inr ⟨_, rfl, rfl, hrefused h⟩
    · exact Or.inl ⟨_, rfl, by simp [scaledWords], by simp, not_not.mp h⟩
  · unfold decodePcm24
    split_ifs with h
    · exact Or.inr ⟨_, rfl, rfl, hrefused h⟩
    · exact Or.inl ⟨_, rfl, by simp [scaledWords], by simp, not_not.mp h⟩
  · split_ifs with h
    · exact Or.inr ⟨_, rfl, rfl, hrefused h⟩
    · exact Or.inl ⟨_, rfl, by simp, by simp, not_not.mp h⟩
  · next h1 h2 h3 h4 =>
    refine Or.inr ⟨_, rfl, rfl, fun hreadable => ?_⟩
    obtain ⟨hlow, hhigh⟩ : 1 ≤ sampleWidth ∧ sampleWidth ≤ 4 := hreadable.width
    interval_cases sampleWidth
    · exact h1 rfl
    · exact h2 rfl
    · exact h3 rfl
    · exact h4 rfl

/-- `_decode_wav` ends with an exception `load_audio` expects exactly when `wave` refuses the
audio. -/
lemma waveRefuses_iff :
    lib.WaveRefuses audioData ↔
      ∃ e, decodeWav lib audioData = .error e ∧ e.isWaveOrValueError = true := by
  have hvalue : ∀ {e : AudioExn}, e.isValueError = true → e.isWaveOrValueError = true := by
    intro e he
    cases e with
    | waveError => rfl
    | _ => exact he
  unfold AudioLibraries.WaveRefuses decodeWav
  cases lib.waveOpen audioData with
  | error e => simp
  | ok file =>
    dsimp only
    rcases file.pcm_cases lib with ⟨pcm, hpcm, hlength, hwidth, hsamples⟩ | ⟨e, hpcm, he, hnot⟩
    · rw [hpcm]
      dsimp only
      split_ifs with hmono hframes
      · refine ⟨fun hnot => absurd ⟨hwidth, hsamples, fun h => ?_⟩ hnot, nofun⟩
        exact absurd hmono (not_le.mpr h)
      · refine ⟨fun _ => ⟨_, rfl, rfl⟩, fun _ hreadable => hframes ?_⟩
        rw [hlength]
        exact hreadable.frames (not_le.mp hmono)
      · refine ⟨fun hnot => absurd ⟨hwidth, hsamples, fun _ => ?_⟩ hnot, nofun⟩
        rw [← hlength]
        exact not_not.mp hframes
    · rw [hpcm]
      exact ⟨fun _ => ⟨e, rfl, hvalue he⟩, fun _ => hnot⟩

/-- `_decode_with_soundfile` ends with a `ValueError` exactly when `soundfile` is missing or refuses
the audio. -/
lemma soundfileRefuses_iff :
    lib.SoundfileRefuses audioData ↔
      ∃ e, decodeWithSoundfile lib audioData = .error e ∧ e.isValueError = true := by
  unfold AudioLibraries.SoundfileRefuses decodeWithSoundfile
  cases lib.soundfileRead with
  | none => exact ⟨fun _ => ⟨_, rfl, rfl⟩, fun _ => trivial⟩
  | some read =>
    dsimp only
    cases read audioData with
    | error e =>
      dsimp only
      split_ifs with he
      · exact ⟨fun _ => ⟨_, rfl, rfl⟩, fun _ => Or.inl he⟩
      · constructor
        · rintro (h | h)
          · exact absurd h he
          · exact ⟨e, rfl, h⟩
        · rintro ⟨_, ⟨⟩, h⟩
          exact Or.inr h
    | ok decoded =>
      obtain ⟨samples, rate⟩ := decoded
      cases samples <;> exact ⟨False.elim, nofun⟩

/-! ## When raw audio is decoded exactly -/

/-- Raw audio of complete samples. -/
lemma decodePcm16_eq (heven : audioData.length % 2 = 0) :
    decodePcm16 audioData = .ok (rawSamples audioData) := by
  rw [decodePcm16, if_neg (not_not.mpr heven)]
  rfl

/-- Off the fast path raw audio is returned exactly when both readers refuse it, or one reads the
raw samples. -/
lemma decodeGeneric_exact_iff (heven : audioData.length % 2 = 0) (rate : ℤ) :
    (∃ samples detectedRate, decodeGeneric lib audioData (some rate) = .ok (samples, detectedRate) ∧
      (detectedRate = rate ∧ samples = rawSamples audioData ∨
        detectedRate ≠ rate ∧
          resample lib samples detectedRate rate = .ok (rawSamples audioData))) ↔
      lib.WaveRefuses audioData ∧ lib.SoundfileRefuses audioData ∨ lib.ReadsRaw audioData rate := by
  unfold AudioLibraries.ReadsRaw
  rw [soundfileRefuses_iff]
  unfold decodeGeneric
  cases hwav : decodeWav lib audioData with
  | ok decoded =>
    have hnot : ¬ lib.WaveRefuses audioData := by
      rw [waveRefuses_iff, hwav]
      exact nofun
    simp [hnot]
  | error e =>
    dsimp only
    split_ifs with he
    · have hrefuses : lib.WaveRefuses audioData := waveRefuses_iff.mpr ⟨e, hwav, he⟩
      cases hsoundfile : decodeWithSoundfile lib audioData with
      | ok decoded => simp [hrefuses]
      | error e' =>
        dsimp only
        split_ifs with he'
        · simp [hrefuses, he', decodePcm16_eq heven, Except.map]
        · simp [hrefuses, he']
    · have hnot : ¬ lib.WaveRefuses audioData := by
        rw [waveRefuses_iff, hwav]
        rintro ⟨_, ⟨⟩, h⟩
        exact he h
      simp [hnot]

/-! ## A WAV file and its own bytes -/

/-- The first two bytes of a container are no 8 bit sample: their number is no multiple of 256. -/
lemma first_rawSample (hmagic : hasContainerMagic audioData = true) :
    ∃ z : ℤ, z % 256 ≠ 0 ∧ (rawSamples audioData)[0]? = some (.finite (z / 32768)) := by
  rw [hasContainerMagic, Bool.or_eq_true, List.isPrefixOf_iff_prefix,
    List.isPrefixOf_iff_prefix] at hmagic
  obtain ⟨rest, rfl⟩ | ⟨rest, rfl⟩ := hmagic
  · exact ⟨SampleWords.signed [0x52, 0x49], by decide, getElem?_rawSamples (i := 0) rfl rfl⟩
  · exact ⟨SampleWords.signed [0x46, 0x4F], by decide, getElem?_rawSamples (i := 0) rfl rfl⟩

/-- A WAV file whose frames are a proper part of its bytes is not read as their raw samples: at two
bytes or more for a sample there are too few of them, and 8 bit samples have other values. -/
lemma decodeWav_ne_rawSamples (hmagic : hasContainerMagic audioData = true)
    (heven : audioData.length % 2 = 0)
    (hframes : ∀ file, lib.waveOpen audioData = .ok file →
      file.frames.length < audioData.length) (detectedRate : ℤ) :
    decodeWav lib audioData ≠ .ok (rawSamples audioData, detectedRate) := by
  have hraw : (rawSamples audioData).length = audioData.length / 2 := by
    simp [rawSamples, scaledWords]
  intro h
  unfold decodeWav at h
  cases hopen : lib.waveOpen audioData with
  | error e =>
    rw [hopen] at h
    cases h
  | ok file =>
    have hlt := hframes file hopen
    rw [hopen] at h
    dsimp only at h
    rcases file.pcm_cases lib with ⟨pcm, hpcm, hlength, hwidth, -⟩ | ⟨e, hpcm, -, -⟩
    · rw [hpcm] at h
      dsimp only at h
      have hle : pcm.length ≤ file.frames.length := hlength ▸ Nat.div_le_self _ _
      split_ifs at h with hmono hwhole
      · obtain ⟨rfl, -⟩ := Prod.mk.inj (Except.ok.inj h)
        rw [hraw] at hlength
        by_cases hone : file.sampleWidth = 1
        · -- 8 bit samples
          obtain ⟨z, hz, hfirst⟩ := first_rawSample hmagic
          obtain ⟨frameRate, channels, sampleWidth, frames⟩ := file
          obtain rfl : sampleWidth = 1 := hone
          have hbytes : frames.map (fun b : UInt8 =>
              PyFloat.finite (((b.toNat : ℚ) - 128) / 128)) = rawSamples audioData :=
            Except.ok.inj hpcm
          rw [← hbytes, List.getElem?_map] at hfirst
          obtain ⟨b, -, hb⟩ := Option.map_eq_some_iff.mp hfirst
          have hvalue : ((b.toNat : ℚ) - 128) / 128 = z / 32768 := PyFloat.finite.inj hb
          have hmul : ((b.toNat : ℚ) - 128) * 256 = z := by linarith
          have hint : ((b.toNat : ℤ) - 128) * 256 = z := by exact_mod_cast hmul
          omega
        · have hhalf : file.frames.length / file.sampleWidth ≤ file.frames.length / 2 :=
            Nat.div_le_div_left (by omega) (by decide)
          omega
      · obtain ⟨hmean, -⟩ := Prod.mk.inj (Except.ok.inj h)
        have hcount := congrArg List.length hmean
        rw [List.length_map, SampleWords.length_words, hraw] at hcount
        have hhalf : pcm.length / file.channels ≤ pcm.length / 2 :=
          Nat.div_le_div_left (by omega) (by decide)
        omega
    · rw [hpcm] at h
      cases h

/-- Where `wave` accepts audio and its raw samples come out, they come out of the resampling. -/
theorem readsRaw_cases {rate : ℤ} (h : lib.ReadsRaw audioData rate)
    (hmagic : hasContainerMagic audioData = true) (heven : audioData.length % 2 = 0)
    (hframes : ∀ file, lib.waveOpen audioData = .ok file →
      file.frames.length < audioData.length) :
    (∃ samples detectedRate, decodeWav lib audioData = .ok (samples, detectedRate) ∧
      detectedRate ≠ rate ∧
      resample lib samples detectedRate rate = .ok (rawSamples audioData)) ∨
    lib.WaveRefuses audioData ∧ ¬ lib.SoundfileRefuses audioData := by
  obtain ⟨samples, detectedRate, hread | ⟨hrefuses, hread⟩, hraw⟩ := h
  · rcases hraw with ⟨-, rfl⟩ | ⟨hne, hresample⟩
    · exact absurd hread (decodeWav_ne_rawSamples hmagic heven hframes detectedRate)
    · exact Or.inl ⟨samples, detectedRate, hread, hne, hresample⟩
  · refine Or.inr ⟨hrefuses, fun hsoundfile => ?_⟩
    obtain ⟨e, he, -⟩ := soundfileRefuses_iff.mp hsoundfile
    cases he.symm.trans hread

/-- **When raw PCM16 audio decodes exactly.** Non-empty audio of complete samples at the target rate
is decoded exactly, under the default fast-path settings, if and only if it does not begin like a
container, or both container readers refuse it with the exceptions `load_audio` expects, or the
reader that accepts it reads its raw samples. -/
theorem load_audio_exact_iff (lib : AudioLibraries) {audioData : Bytes} {rate : ℤ}
    (hne : audioData ≠ []) (heven : audioData.length % 2 = 0) (hrate : 0 < rate) :
    DecodesExactly audioData rate (loadAudio lib { sampleRate := rate } audioData (some rate)) ↔
      hasContainerMagic audioData = false ∨
        lib.WaveRefuses audioData ∧ lib.SoundfileRefuses audioData ∨
        lib.ReadsRaw audioData rate := by
  have hpositive : ¬ (some rate).any (· ≤ 0) = true := by simpa using hrate
  rw [decodesExactly_iff, loadAudio, if_neg hne, if_neg hpositive]
  have hpath : shouldUsePcm16FastPath { sampleRate := rate } audioData (some rate) =
      .ok (!hasContainerMagic audioData) := by
    unfold shouldUsePcm16FastPath
    cases hasContainerMagic audioData <;> simp
  rw [hpath]
  cases hasContainerMagic audioData with
  | false => simp [decodePcm16_eq heven, bind, Except.bind, pure, Except.pure]
  | true =>
    rw [← decodeGeneric_exact_iff heven rate]
    simp only [Bool.not_true, bind, Except.bind, pure, Except.pure]
    cases decodeGeneric lib audioData (some rate) with
    | error e => simp
    | ok decoded =>
      obtain ⟨samples, detectedRate⟩ := decoded
      by_cases hsame : detectedRate = rate
      · simp [hsame]
      · cases hresample : resample lib samples detectedRate rate with
        | error e => simp [hsame, hresample]
        | ok resampled => simp [hsame, hresample]

/-- An installation without `soundfile`, for audio that is no WAV file: `wave.open` raises
`EOFError` within the first chunk header, and `wave.Error` after it. -/
def withoutSoundfile : AudioLibraries where
  waveOpen := fun audioData =>
    if audioData.length < 8 then .error .eofError else .error (.waveError "not a WAVE file")
  soundfileRead := none
  int32ToFloat32 := fun z => .finite (z / 2147483648)
  mean := fun row => row.head?.getD .nan
  interp := fun samples _ _ => samples

/-- Samples that spell `RIFF`, and two of silence, are decoded exactly: `wave` refuses them. -/
theorem load_audio_exact_riffSilence :
    DecodesExactly (RIFF ++ [0, 0, 0, 0]) 16000
      (loadAudio withoutSoundfile { sampleRate := 16000 } (RIFF ++ [0, 0, 0, 0]) (some 16000)) :=
  (load_audio_exact_iff withoutSoundfile (by decide) (by decide) (by decide)).mpr
    (Or.inr (Or.inl ⟨rfl, trivial⟩))

/-- Two samples that spell `RIFF` raise the `EOFError` of `wave.open`. -/
theorem not_load_audio_exact_riff :
    ¬ ∀ (lib : AudioLibraries) (audioData : Bytes) (rate : ℤ), audioData ≠ [] →
      audioData.length % 2 = 0 → 0 < rate →
      DecodesExactly audioData rate
        (loadAudio lib { sampleRate := rate } audioData (some rate)) := by
  intro h
  obtain ⟨samples, hsamples, -⟩ :=
    h withoutSoundfile RIFF 16000 (by decide) (by decide) (by decide)
  have hraised : loadAudio withoutSoundfile { sampleRate := 16000 } RIFF (some 16000) =
      .error .eofError := rfl
  rw [hraised] at hsamples
  cases hsamples

end RtcAsr
