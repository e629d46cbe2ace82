import RtcAsr.Audio.Processor
import RtcAsr.Server.Session

/-!
# The adapters of the models

`transcribe` of the adapters in `src/model_loader.py` decodes the audio first, loads the model if
that was not done, and then runs it.  So audio that `load_audio` refuses raises before the model is
loaded, also with a model that loads and runs without failure (`transcribe_cases`).
-/

namespace RtcAsr

/-- An exception of the decoders, as the callers of `transcribe` see it. -/
def AudioExn.exn : AudioExn → Exn
  | .builtin error => .builtin error
  | .waveError message => .builtin (.other "Error" message)
  | .eofError => .builtin (.other "EOFError" "")
  | .runtimeError message => .builtin (.other "RuntimeError" message)

/-- `AudioProcessor`, with the packages it calls. -/
structure AudioProcessor where
  lib : AudioLibraries
  config : AudioConfig := {}

/-- `AudioProcessor.load_audio`. -/
def AudioProcessor.loadAudio (processor : AudioProcessor) (audioData : Bytes)
    (sampleRate : Option ℤ) : Except AudioExn DecodedAudio :=
  RtcAsr.loadAudio processor.lib processor.config audioData sampleRate

/-- On the fast path, at the target rate, only incomplete samples and audio that begins like a
container can be refused. -/
lemma AudioProcessor.exists_loadAudio {processor : AudioProcessor} {audioData : Bytes} {rate : ℤ}
    (hfast : processor.config.enablePcm16FastPath = true)
    (htarget : processor.config.sampleRate = rate)
    (hrate : 0 < rate) (hne : audioData ≠ []) (heven : audioData.length % 2 = 0)
    (hmagic : hasContainerMagic audioData = false) :
    ∃ decodedAudio, processor.loadAudio audioData (some rate) = .ok decodedAudio := by
  have hpositive : ¬ (some rate).any (· ≤ 0) = true := by simpa using hrate
  have hpath : shouldUsePcm16FastPath processor.config audioData (some rate) = .ok true := by
    simp [shouldUsePcm16FastPath, hfast, hmagic, htarget]
  refine ⟨⟨scaledWords 2 32768 audioData, rate⟩, ?_⟩
  rw [loadAudio, RtcAsr.loadAudio, if_neg hne, if_neg hpositive, hpath]
  simp [decodePcm16, heven, bind, Except.bind, pure, Except.pure]

/-- The model behind an adapter. -/
structure AsrModel where
  /-- `_load_model`, when the model is not loaded. -/
  loadModel : Except Exn Unit
  /-- The inference on the samples, and the dictionary that is made of its result. -/
  infer : DecodedAudio → Option String → Except Exn Transcript

namespace AsrModel

/-- `transcribe` of an adapter, and whether the model is loaded afterwards. -/
def transcribe (model : AsrModel) (processor : AudioProcessor) (loaded : Bool) (audioData : Bytes)
    (language : Option String) (sampleRate : Option ℤ) : Except Exn Transcript × Bool :=
  match processor.loadAudio audioData sampleRate with
  | .error e => (.error e.exn, loaded)
  | .ok decodedAudio =>
    match if loaded = true then .ok () else model.loadModel with
    | .error e => (.error e, false)
    | .ok () => (model.infer decodedAudio language, true)

/-- The model loads, and its inference returns. -/
structure Works (model : AsrModel) : Prop where
  loads : model.loadModel = .ok ()
  infers : ∀ decodedAudio language, (model.infer decodedAudio language).isOk = true

/-- **Audio comes first.** With a model that works, `transcribe` raises what `load_audio` raises and
leaves the model as it was, or returns with the model loaded. -/
lemma transcribe_cases {model : AsrModel} (hmodel : model.Works) (processor : AudioProcessor)
    (loaded : Bool) (audioData : Bytes) (language : Option String) (sampleRate : Option ℤ) :
    (∃ e, processor.loadAudio audioData sampleRate = .error e ∧
      model.transcribe processor loaded audioData language sampleRate = (.error e.exn, loaded)) ∨
    (∃ decodedAudio result, processor.loadAudio audioData sampleRate = .ok decodedAudio ∧
      model.transcribe processor loaded audioData language sampleRate = (.ok result, true)) := by
  unfold transcribe
  cases hload : processor.loadAudio audioData sampleRate with
  | error e => exact Or.inl ⟨e, rfl, rfl⟩
  | ok decodedAudio =>
    have hmodelLoads : (if loaded = true then .ok () else model.loadModel) = .ok () := by
      rw [hmodel.loads, ite_self]
    have hinfers := hmodel.infers decodedAudio language
    dsimp only
    rw [hmodelLoads]
    cases hresult : model.infer decodedAudio language with
    | error e => simp [hresult, Except.isOk, Except.toBool] at hinfers
    | ok result => exact Or.inr ⟨decodedAudio, result, rfl, rfl⟩

end AsrModel

/-- A call of `transcribe` with a model that works ends like this. -/
def AudioProcessor.Answers (processor : AudioProcessor) (loaded : Bool) (audioData : Bytes)
    (language : Option String) (sampleRate : ℤ) (result : Except Exn Transcript) : Prop :=
  ∃ model : AsrModel, model.Works ∧
    result = (model.transcribe processor loaded audioData language (some sampleRate)).1

/-- A call that raises raises what `load_audio` does. -/
lemma AudioProcessor.Answers.of_error {processor : AudioProcessor} {loaded : Bool}
    {audioData : Bytes} {language : Option String} {sampleRate : ℤ} {e : Exn}
    (h : processor.Answers loaded audioData language sampleRate (.error e)) :
    ∃ error, processor.loadAudio audioData (some sampleRate) = .error error ∧ e = error.exn := by
  obtain ⟨model, hmodel, hresult⟩ := h
  obtain ⟨error, hload, hcall⟩ | ⟨decodedAudio, result, -, hcall⟩ :=
    AsrModel.transcribe_cases hmodel processor loaded audioData language (some sampleRate)
  · rw [hcall] at hresult
    exact ⟨error, hload, Except.error.inj hresult⟩
  · rw [hcall] at hresult
    cases hresult

/-- A call that returns was given audio that `load_audio` decodes. -/
lemma AudioProcessor.Answers.of_ok {processor : AudioProcessor} {loaded : Bool}
    {audioData : Bytes} {language : Option String} {sampleRate : ℤ} {result : Transcript}
    (h : processor.Answers loaded audioData language sampleRate (.ok result)) :
    ∃ decodedAudio, processor.loadAudio audioData (some sampleRate) = .ok decodedAudio := by
  obtain ⟨model, hmodel, hresult⟩ := h
  obtain ⟨error, -, hcall⟩ | ⟨decodedAudio, result', hload, -⟩ :=
    AsrModel.transcribe_cases hmodel processor loaded audioData language (some sampleRate)
  · rw [hcall] at hresult
    cases hresult
  · exact ⟨decodedAudio, hload⟩

end RtcAsr
