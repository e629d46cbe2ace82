import RtcAsr.Foundation.SampleWords
import RtcAsr.Python.Value

/-!
# Audio decoding

`AudioProcessor.load_audio` of `src/audio_processor.py`: raw PCM16 audio on the fast path, else a
WAV file, else what `soundfile` reads, else raw PCM16 audio.  `wave`, `soundfile` and the float32
arithmetic of numpy are parameters (`AudioLibraries`); the conversions of 8, 16 and 24 bit integers
are exact in float32.
-/

namespace RtcAsr

/-! ## Data -/

/-- `AudioConfig`. -/
structure AudioConfig where
  sampleRate : ℤ := 16000
  enablePcm16FastPath : Bool := true
  requireTargetSampleRate : Bool := true

/-- `DecodedAudio`. -/
structure DecodedAudio where
  samples : List PyFloat
  sampleRate : ℤ
  deriving DecidableEq

/-- The exceptions of the decoders. -/
inductive AudioExn
  | builtin (error : PyError)
  /-- `wave.Error`. -/
  | waveError (message : String)
  | eofError
  | runtimeError (message : String)
  deriving DecidableEq

namespace AudioExn

/-- A `ValueError`. -/
def valueError (message : String) : AudioExn := .builtin (.valueError message)

/-- `except ValueError`. -/
def isValueError : AudioExn → Bool
  | .builtin (.valueError _) => true
  | _ => false

/-- `except (wave.Error, ValueError)`. -/
def isWaveOrValueError : AudioExn → Bool
  | .waveError _ => true
  | e => e.isValueError

/-- `except RuntimeError`. -/
def isRuntimeError : AudioExn → Bool
  | .runtimeError _ => true
  | _ => false

end AudioExn

/-- What `_decode_wav` reads off an opened WAV file. -/
structure WavFile where
  frameRate : ℤ
  channels : ℕ
  sampleWidth : ℕ
  frames : Bytes

/-- The array `soundfile.read` returns, of one or of two dimensions. -/
inductive SoundfileSamples
  | flat (samples : List PyFloat)
  | rows (rows : List (List PyFloat))

/-- The packages `load_audio` calls. -/
structure AudioLibraries where
  /-- `wave.open` and the reads that follow. -/
  waveOpen : Bytes → Except AudioExn WavFile
  /-- `soundfile.read`, `none` when the package is not installed. -/
  soundfileRead : Option (Bytes → Except AudioExn (SoundfileSamples × ℤ))
  /-- `astype(np.float32) / 2147483648.0` on a 32 bit integer. -/
  int32ToFloat32 : ℤ → PyFloat
  /-- `mean(axis=1)` on a row. -/
  mean : List PyFloat → PyFloat
  /-- `np.interp` of samples over a duration at a number of evenly spaced positions. -/
  interp : List PyFloat → ℚ → ℤ → List PyFloat

/-! ## The decoders -/

/-- The numbers of the words of `k` bytes, over a power of two. -/
def scaledWords (k : ℕ) (scale : ℚ) (audioData : Bytes) : List PyFloat :=
  (SampleWords.words k audioData).map fun w => .finite (SampleWords.signed w / scale)

/-- `_decode_pcm16`. -/
def decodePcm16 (audioData : Bytes) : Except AudioExn (List PyFloat) :=
  if audioData.length % 2 ≠ 0 then
    .error (.valueError "Raw PCM16 audio must contain an even number of bytes")
  else .ok (scaledWords 2 32768 audioData)

/-- `_decode_pcm24`. -/
def decodePcm24 (audioData : Bytes) : Except AudioExn (List PyFloat) :=
  if audioData.length % 3 ≠ 0 then
    .error (.valueError "PCM24 audio must contain complete 3 byte samples")
  else .ok (scaledWords 3 8388608 audioData)

/-- `np.frombuffer` refuses a buffer with an incomplete element. -/
def frombufferError : AudioExn := .valueError "buffer size must be a multiple of element size"

/-- The samples of the frames of a WAV file, by sample width. -/
def WavFile.pcm (lib : AudioLibraries) (file : WavFile) : Except AudioExn (List PyFloat) :=
  match file.sampleWidth with
  | 1 => .ok (file.frames.map fun b => .finite (((b.toNat : ℚ) - 128) / 128))
  | 2 =>
    if file.frames.length % 2 ≠ 0 then .error frombufferError
    else .ok (scaledWords 2 32768 file.frames)
  | 3 => decodePcm24 file.frames
  | 4 =>
    if file.frames.length % 4 ≠ 0 then .error frombufferError
    else .ok ((SampleWords.words 4 file.frames).map fun w =>
      lib.int32ToFloat32 (SampleWords.signed w))
  | width => .error (.valueError s!"Unsupported WAV sample width: {width}")

/-- `_decode_wav`. -/
def decodeWav (lib : AudioLibraries) (audioData : Bytes) : Except AudioExn (List PyFloat × ℤ) :=
  match lib.waveOpen audioData with
  | .error e => .error e
  | .ok file =>
    match file.pcm lib with
    | .error e => .error e
    | .ok pcm =>
      if file.channels ≤ 1 then .ok (pcm, file.frameRate)
      else if pcm.length % file.channels ≠ 0 then
        .error (.valueError
          s!"cannot reshape array of size {pcm.length} into shape ({file.channels})")
      else .ok ((SampleWords.words file.channels pcm).map lib.mean, file.frameRate)

/-- `_decode_with_soundfile`. -/
def decodeWithSoundfile (lib : AudioLibraries) (audioData : Bytes) :
    Except AudioExn (List PyFloat × ℤ) :=
  match lib.soundfileRead with
  | none => .error (.valueError "soundfile is not installed")
  | some read =>
    match read audioData with
    | .error e =>
      if e.isRuntimeError = true then .error (.valueError "soundfile could not decode audio")
      else .error e
    | .ok (.flat samples, sampleRate) => .ok (samples, sampleRate)
    | .ok (.rows rows, sampleRate) => .ok (rows.map lib.mean, sampleRate)

/-- `_resample`. -/
def resample (lib : AudioLibraries) (samples : List PyFloat) (sourceRate targetRate : ℤ) :
    Except AudioExn (List PyFloat) :=
  if sourceRate ≤ 0 ∨ targetRate ≤ 0 then
    .error (.valueError "Audio sample rates must be positive integers")
  else if samples = [] then .ok samples
  else do
    let durationSeconds ← liftError .builtin (intTrueDiv samples.length sourceRate)
    let target ← liftError .builtin (intToFloat targetRate)
    let rounded ← liftError .builtin ((PyFloat.finite durationSeconds).mulPos target).toIntRound
    return lib.interp samples durationSeconds (max rounded 1)

/-! ## `load_audio` -/

/-- `b"RIFF"`. -/
def RIFF : Bytes := [0x52, 0x49, 0x46, 0x46]

/-- `b"FORM"`. -/
def FORM : Bytes := [0x46, 0x4F, 0x52, 0x4D]

/-- The audio begins like a RIFF or an AIFF file. -/
def hasContainerMagic (audioData : Bytes) : Bool :=
  RIFF.isPrefixOf audioData || FORM.isPrefixOf audioData

/-- `_should_use_pcm16_fast_path`. -/
def shouldUsePcm16FastPath (config : AudioConfig) (audioData : Bytes) (sampleRate : Option ℤ) :
    Except AudioExn Bool :=
  match sampleRate with
  | none => .ok false
  | some rate =>
    if config.enablePcm16FastPath = false then .ok false
    else if hasContainerMagic audioData = true then .ok false
    else if config.requireTargetSampleRate = true ∧ rate ≠ config.sampleRate then
      .error (.valueError s!"Raw PCM16 audio sample_rate must be {config.sampleRate}")
    else .ok true

/-- The decoders of `load_audio` off the fast path, in the order they are tried. -/
def decodeGeneric (lib : AudioLibraries) (audioData : Bytes) (sampleRate : Option ℤ) :
    Except AudioExn (List PyFloat × ℤ) :=
  match decodeWav lib audioData with
  | .ok decoded => .ok decoded
  | .error e =>
    if e.isWaveOrValueError = true then
      match decodeWithSoundfile lib audioData with
      | .ok decoded => .ok decoded
      | .error e =>
        if e.isValueError = true then
          match sampleRate with
          | none =>
            .error (.valueError ("Unsupported audio format; provide WAV data or specify " ++
              "sample_rate for raw PCM16 audio"))
          | some rate => (decodePcm16 audioData).map fun samples => (samples, rate)
        else .error e
    else .error e

/-- `AudioProcessor.load_audio`. -/
def loadAudio (lib : AudioLibraries) (config : AudioConfig) (audioData : Bytes)
    (sampleRate : Option ℤ) : Except AudioExn DecodedAudio :=
  if audioData = [] then .error (.valueError "No audio data provided")
  else if sampleRate.any (· ≤ 0) = true then
    .error (.valueError "sample_rate must be a positive integer")
  else do
    if ← shouldUsePcm16FastPath config audioData sampleRate then
      let samples ← decodePcm16 audioData
      return ⟨samples, sampleRate.getD config.sampleRate⟩
    else
      let (samples, detectedRate) ← decodeGeneric lib audioData sampleRate
      if detectedRate ≠ config.sampleRate then
        let resampled ← resample lib samples detectedRate config.sampleRate
        return ⟨resampled, config.sampleRate⟩
      else return ⟨samples, detectedRate⟩

end RtcAsr
