import RtcAsr.Foundation.Cursor
import RtcAsr.Server.StreamRule

/-!
# The stateful decoder sees the exact stream

The worker pushes the audio buffer into the streaming decoder from `streaming_decode_offset` on,
while the handler appends to the buffer.  The pushed byte strings and the offset form a `Cursor`
over the buffer until the stream is cancelled, and `decoder.finalize` is called with the cursor at
the end.
-/

namespace RtcAsr

namespace StreamRuntime

/-! ## What leaves the decoder alone -/

/-- What the streaming decoder was given so far, and whether it is there. -/
def given (r : StreamRuntime) : ℕ × List Bytes × List DecoderCall × Bool :=
  (r.streamingDecodeOffset, r.pushedAudio, r.decoderCalls, r.streamingDecoder)

/-- The audio that was not pushed yet. -/
def rest (r : StreamRuntime) : Bytes := r.session.audioBuffer.drop r.streamingDecodeOffset

lemma emitTranscript_given (r : StreamRuntime) (result : Transcript) (isFinal : Bool) (n : ℕ) :
    (r.emitTranscript result isFinal n).given = r.given := by
  obtain ⟨e, h⟩ | h := emitTranscript_cases r result isFinal n
  · rw [h]
    rfl
  · rw [h]
    cases isFinal <;> rfl

/-- After the event of a transcript the worker waits again or is done. -/
lemma emitTranscript_worker (r : StreamRuntime) (result : Transcript) (isFinal : Bool) (n : ℕ) :
    (r.emitTranscript result isFinal n).worker = .waiting ∨
      (r.emitTranscript result isFinal n).worker.done = true := by
  obtain ⟨e, h⟩ | h := emitTranscript_cases r result isFinal n
  · rw [h]
    exact Or.inr rfl
  · rw [h]
    cases isFinal with
    | true => exact Or.inr rfl
    | false => exact Or.inl rfl

lemma finishFinal_given (r : StreamRuntime) (finalAudio : Bytes) (result : Transcript) :
    (r.finishFinal finalAudio result).given = r.given := by
  unfold finishFinal
  dsimp only
  split_ifs
  · rfl
  · exact emitTranscript_given _ _ _ _

/-- A final decode ends the worker. -/
lemma finishFinal_done (r : StreamRuntime) (finalAudio : Bytes) (result : Transcript) :
    (r.finishFinal finalAudio result).worker.done = true := by
  unfold finishFinal
  dsimp only
  split_ifs
  · rfl
  · obtain ⟨e, h⟩ | h := emitTranscript_cases { r with finalResult := some result } result true
      finalAudio.length
    · rw [h]
      rfl
    · rw [h]
      rfl

lemma afterPartial_given (env : ServerEnv) (r : StreamRuntime) (snap : Snapshot)
    (partialResult : Option Transcript) :
    (r.afterPartial env snap partialResult).given = r.given := by
  unfold afterPartial
  dsimp only
  split
  · rfl
  · cases partialResult with
    | none => rfl
    | some result =>
      dsimp only
      split
      · rfl
      · split
        · rfl
        · exact emitTranscript_given _ _ _ _

/-- After a partial decode the worker waits again or is done. -/
lemma afterPartial_worker (env : ServerEnv) (r : StreamRuntime) (snap : Snapshot)
    (partialResult : Option Transcript) :
    (r.afterPartial env snap partialResult).worker = .waiting ∨
      (r.afterPartial env snap partialResult).worker.done = true := by
  unfold afterPartial
  dsimp only
  split
  · exact Or.inr rfl
  · cases partialResult with
    | none => exact Or.inl rfl
    | some result =>
      dsimp only
      split
      · exact Or.inl rfl
      · split
        · exact Or.inl rfl
        · exact emitTranscript_worker _ _ _ _

/-! ## The invariant -/

/-- The accepted audio is in the buffer, the decoder has seen it up to the offset, and all of it
once `decoder.finalize` was called. -/
structure InStep (r : StreamRuntime) : Prop where
  accepted : r.session.audioBuffer = r.accepted.flatten
  cursor : Cursor r.session.audioBuffer r.streamingDecodeOffset r.pushedAudio
  finalized : .finalize ∈ r.decoderCalls → r.rest = [] ∧ r.finalizeRequested = true

end StreamRuntime

namespace WorkerPc

/-- A worker pushes only if there is a decoder, and what it pushes is what the decoder has not
seen. -/
def Holds (rest : Bytes) (finalizeRequested streamingDecoder : Bool) : WorkerPc → Prop
  | .transcribingPartial _ => streamingDecoder = false
  | .pushingPartial snap => snap.audio <+: rest ∧ streamingDecoder = true
  | .pushingFinal _ remaining => remaining = rest ∧ finalizeRequested = true
  | .transcribingFinal _ => finalizeRequested = true
  | .finalizingDecoder _ => finalizeRequested = true
  | .closingDecoder _ _ => finalizeRequested = true
  | _ => True

/-- The positions at and after the call of `decoder.finalize`. -/
def pastFinalize : WorkerPc → Bool
  | .finalizingDecoder _ => true
  | .closingDecoder _ _ => true
  | w => w.done

/-- The positions in a final decode. -/
def inFinal : WorkerPc → Bool
  | .transcribingFinal _ => true
  | .pushingFinal _ _ => true
  | .finalizingDecoder _ => true
  | .closingDecoder _ _ => true
  | _ => false

lemma holds_of_not_running {w : WorkerPc} (hw : w.running = false) (rest : Bytes) (b d : Bool) :
    w.Holds rest b d := by
  cases w <;> simp_all [WorkerPc.running, Holds]

lemma running_of_done {w : WorkerPc} (hw : w.done = true) : w.running = false := by
  cases w <;> simp_all [WorkerPc.done, WorkerPc.running]

lemma pastFinalize_of_done {w : WorkerPc} (hw : w.done = true) : w.pastFinalize = true := by
  cases w <;> simp_all [WorkerPc.done, pastFinalize]

end WorkerPc

namespace StreamRuntime

/-- The stream is in step with its decoder, also in what the worker holds. -/
structure Synced (r : StreamRuntime) : Prop extends InStep r where
  holds : r.worker.Holds r.rest r.finalizeRequested r.streamingDecoder
  past : .finalize ∈ r.decoderCalls → r.worker.pastFinalize = true

variable {env : ServerEnv} {r r' : StreamRuntime}

lemma given_eq_iff : r'.given = r.given ↔ r'.streamingDecodeOffset = r.streamingDecodeOffset ∧
    r'.pushedAudio = r.pushedAudio ∧ r'.decoderCalls = r.decoderCalls ∧
    r'.streamingDecoder = r.streamingDecoder := by
  simp [given]

/-- A step that gives the decoder nothing keeps the decoder in step. -/
lemma InStep.of_frame (hr : InStep r) (hframe : Frame r r') (hgiven : r'.given = r.given) :
    InStep r' := by
  obtain ⟨hoffset, hpushed, hcalls, -⟩ := given_eq_iff.mp hgiven
  refine ⟨?_, ?_, ?_⟩
  · rw [hframe.audioBuffer, hframe.accepted]
    exact hr.accepted
  · rw [hframe.audioBuffer, hoffset, hpushed]
    exact hr.cursor
  · rw [hcalls, rest, hframe.audioBuffer, hoffset, hframe.finalizeRequested]
    exact hr.finalized

/-- A step that gives the decoder nothing and leaves the worker alone keeps everything in step. -/
lemma Synced.of_frame (hr : Synced r) (hframe : Frame r r') (hgiven : r'.given = r.given)
    (hw : r'.worker = r.worker) : Synced r' := by
  obtain ⟨hoffset, -, hcalls, hdecoder⟩ := given_eq_iff.mp hgiven
  refine ⟨hr.toInStep.of_frame hframe hgiven, ?_, ?_⟩
  · rw [hw, rest, hframe.audioBuffer, hoffset, hframe.finalizeRequested, hdecoder]
    exact hr.holds
  · rw [hcalls, hw]
    exact hr.past

/-- A worker that is done holds nothing. -/
lemma InStep.synced_of_done (hr : InStep r) (hw : r.worker.done = true) : Synced r :=
  ⟨hr, WorkerPc.holds_of_not_running (WorkerPc.running_of_done hw) _ _ _,
    fun _ => WorkerPc.pastFinalize_of_done hw⟩

lemma InStep.finishFinal (hr : InStep r) (finalAudio : Bytes) (result : Transcript) :
    Synced (r.finishFinal finalAudio result) :=
  (hr.of_frame (finishFinal_frame r _ _) (finishFinal_given r _ _)).synced_of_done
    (finishFinal_done r _ _)

lemma InStep.afterPartial (hr : InStep r) (hcalls : .finalize ∉ r.decoderCalls) (snap : Snapshot)
    (partialResult : Option Transcript) : Synced (r.afterPartial env snap partialResult) := by
  have hgiven := afterPartial_given env r snap partialResult
  have hstep := hr.of_frame (afterPartial_frame env r snap partialResult) hgiven
  obtain h | h := afterPartial_worker env r snap partialResult
  · refine ⟨hstep, by rw [h]; trivial, fun hmem => ?_⟩
    rw [(given_eq_iff.mp hgiven).2.2.1] at hmem
    exact absurd hmem hcalls
  · exact hstep.synced_of_done h

/-- A completed push moves the cursor past the piece. -/
lemma InStep.advance (hr : InStep r) (hcalls : .finalize ∉ r.decoderCalls) {audio : Bytes}
    (haudio : audio <+: r.rest) : InStep (r.advance audio) :=
  ⟨hr.accepted, hr.cursor.advance haudio, fun hmem => absurd hmem hcalls⟩

/-- A push is started with a piece that starts at the cursor. -/
lemma InStep.startPush (hr : InStep r) (hcalls : .finalize ∉ r.decoderCalls) {w : WorkerPc}
    (hholds : w.Holds r.rest r.finalizeRequested r.streamingDecoder) (audio : Bytes) :
    Synced { r with worker := w, decoderCalls := r.decoderCalls ++ [.pushAudio audio] } := by
  have hcalls' : .finalize ∉ r.decoderCalls ++ [DecoderCall.pushAudio audio] := by
    simpa using hcalls
  exact ⟨⟨hr.accepted, hr.cursor, fun hmem => absurd hmem hcalls'⟩, hholds,
    fun hmem => absurd hmem hcalls'⟩

/-- `decoder.finalize` is called with nothing left to push. -/
lemma InStep.callFinalize (hr : InStep r) (hrest : r.rest = []) (hfin : r.finalizeRequested = true)
    (finalAudio : Bytes) : Synced (r.callFinalize finalAudio) :=
  ⟨⟨hr.accepted, hr.cursor, fun _ => ⟨hrest, hfin⟩⟩, hfin, fun _ => rfl⟩

lemma InStep.startFinal (hr : InStep r) (hcalls : .finalize ∉ r.decoderCalls)
    (hfin : r.finalizeRequested = true) : Synced r.startFinal := by
  unfold StreamRuntime.startFinal
  dsimp only
  split_ifs with _ hrest
  · exact hr.callFinalize hrest hfin _
  · refine hr.startPush hcalls ?_ _
    exact ⟨rfl, hfin⟩
  · split
    · exact hr.finishFinal _ _
    · exact ⟨⟨hr.accepted, hr.cursor, hr.finalized⟩, hfin, fun hmem => absurd hmem hcalls⟩

lemma InStep.startPartial (hr : InStep r) (hcalls : .finalize ∉ r.decoderCalls) :
    Synced (r.startPartial env) := by
  have hr' : InStep { r with dirty := false, partialDecodeStarted := true } :=
    ⟨hr.accepted, hr.cursor, hr.finalized⟩
  unfold StreamRuntime.startPartial
  dsimp only
  split_ifs with hdecoder
  · exact hr'.afterPartial hcalls _ _
  · refine hr'.startPush hcalls ?_ _
    exact ⟨List.prefix_refl _, hdecoder⟩
  · exact ⟨⟨hr.accepted, hr.cursor, hr.finalized⟩, Bool.eq_false_iff.mpr hdecoder,
      fun hmem => absurd hmem hcalls⟩

lemma InStep.workerWake (hr : InStep r) (hcalls : .finalize ∉ r.decoderCalls) :
    Synced (r.workerWake env) := by
  have hr' : InStep { r with audioUpdated := false } := ⟨hr.accepted, hr.cursor, hr.finalized⟩
  unfold StreamRuntime.workerWake
  dsimp only
  split_ifs with _ _ hfin
  · exact InStep.synced_of_done ⟨hr.accepted, hr.cursor, hr.finalized⟩ rfl
  · exact InStep.synced_of_done ⟨hr.accepted, hr.cursor, hr.finalized⟩ rfl
  · exact hr'.startFinal hcalls hfin
  · exact ⟨⟨hr.accepted, hr.cursor, hr.finalized⟩, trivial, fun hmem => absurd hmem hcalls⟩
  · exact hr'.startPartial hcalls

lemma InStep.workerRaise (hr : InStep r) (e : Exn) : Synced (r.workerRaise e) :=
  InStep.synced_of_done ⟨hr.accepted, hr.cursor, hr.finalized⟩ rfl

/-- Before the call of `decoder.finalize` the decoder was not told to finalize. -/
lemma Synced.not_finalized (hr : Synced r) (hw : r.worker.pastFinalize = false) :
    .finalize ∉ r.decoderCalls :=
  fun hmem => absurd ((hr.past hmem).symm.trans hw) (by simp)

/-- The tasks keep the decoder in step with the buffer. -/
lemma Synced.step {a : StreamAct} (hr : Synced r) (h : r.step env a = some r') : Synced r' := by
  have hholds := hr.holds
  cases a with
  | workerWake =>
    simp only [StreamRuntime.step] at h
    split at h
    · next hw =>
      split_ifs at h
      exact Option.some.inj h ▸ hr.toInStep.workerWake (hr.not_finalized (by rw [hw]; rfl))
    · cases h
  | transcribed result =>
    simp only [StreamRuntime.step, transcribed] at h
    split at h <;> cases h
    · next hw => exact hr.toInStep.afterPartial (hr.not_finalized (by rw [hw]; rfl)) _ _
    · exact hr.toInStep.finishFinal _ _
    · exact hr.toInStep.workerRaise _
    · exact hr.toInStep.workerRaise _
  | pushed result =>
    simp only [StreamRuntime.step, pushed] at h
    split at h <;> cases h
    · next snap t hw =>
      rw [hw] at hholds
      have hcalls := hr.not_finalized (by rw [hw]; rfl)
      exact (hr.toInStep.advance hcalls hholds.1).afterPartial hcalls _ _
    · next audio remaining _ hw =>
      rw [hw] at hholds
      obtain ⟨rfl, hfin⟩ := hholds
      have hcalls := hr.not_finalized (by rw [hw]; rfl)
      exact (hr.toInStep.advance hcalls (List.prefix_refl _)).callFinalize
        hr.cursor.drop_advance_rest hfin _
    · exact hr.toInStep.workerRaise _
    · exact hr.toInStep.workerRaise _
  | decoderFinalized result =>
    simp only [StreamRuntime.step, decoderFinalized] at h
    split at h <;> cases h
    · next hw =>
      rw [hw] at hholds
      exact ⟨⟨hr.accepted, hr.cursor, fun hmem => hr.finalized (by simpa [dropDecoder] using hmem)⟩,
        hholds, fun _ => rfl⟩
    · exact hr.toInStep.workerRaise _
  | decoderClosed result =>
    simp only [StreamRuntime.step, decoderClosed] at h
    split at h <;> cases h
    · exact hr.toInStep.finishFinal _ _
    · exact hr.toInStep.workerRaise _
  | senderTake | senderSent | senderExit =>
    obtain ⟨_, _, _, -, rfl⟩ := step_sender h rfl
    exact hr.of_frame (by constructor <;> rfl) rfl rfl

/-! ## Over a run -/

/-- A stream is in step with its decoder until it is cancelled, and a cancelled one never tells its
decoder to finalize. -/
structure DecoderInvariant (r : StreamRuntime) : Prop where
  synced : r.cancelRequested = false → Synced r
  canceled : r.cancelRequested = true → .finalize ∉ r.decoderCalls ∧ r.worker.inFinal = false

/-- A started stream is in step with its decoder. -/
lemma decoderInvariant_start {session : StreamSession} (h : session.audioBuffer = []) :
    DecoderInvariant { session := session } where
  synced := fun _ => ⟨⟨h, h ▸ Cursor.init [], by simp⟩, trivial, by simp⟩
  canceled := fun hcanceled => by cases hcanceled

/-- A call that is no `finalize` is added to the calls. -/
lemma finalize_mem_of_append {calls : List DecoderCall} {call : DecoderCall}
    (hcall : call = .cancel ∨ call = .close) (h : .finalize ∈ calls ++ [call]) :
    .finalize ∈ calls := by
  obtain rfl | rfl := hcall
  · simpa using h
  · simpa using h

/-- An appended chunk leaves the decoder in step. -/
lemma Synced.appendAudio (hr : Synced r) (hlisten : r.finalizeRequested = false)
    {session : StreamSession} {chunk : Bytes} (h : r.session.appendAudio chunk = .ok session) :
    Synced (r.appendAudio session chunk) := by
  have hcalls : .finalize ∉ r.decoderCalls := fun hmem =>
    absurd (hlisten.symm.trans (hr.finalized hmem).2) (by simp)
  obtain rfl := StreamSession.appendAudio_eq_ok h
  refine ⟨⟨?_, hr.cursor.grow _, fun hmem => absurd hmem hcalls⟩, ?_, hr.past⟩
  · simp [StreamRuntime.appendAudio, noteAudio, hr.accepted]
  · have hholds := hr.holds
    show r.worker.Holds _ r.finalizeRequested r.streamingDecoder
    -- only the slice of a partial push can be in the hands of the worker
    cases hw : r.worker with
    | pushingPartial snap =>
      rw [hw] at hholds
      exact ⟨hr.cursor.prefix_grow hholds.1 _, hholds.2⟩
    | transcribingPartial => exact (hw ▸ hholds :)
    | pushingFinal audio remaining =>
      rw [hw] at hholds
      exact absurd (hlisten.symm.trans hholds.2) (by simp)
    | transcribingFinal => exact (hw ▸ hholds :)
    | finalizingDecoder => exact (hw ▸ hholds :)
    | closingDecoder => exact (hw ▸ hholds :)
    | _ => trivial

/-- A finalize request leaves the decoder in step. -/
lemma Synced.requestFinalize (hr : Synced r) : Synced r.requestFinalize := by
  refine ⟨⟨hr.accepted, hr.cursor, fun hmem => ⟨(hr.finalized hmem).1, rfl⟩⟩, ?_, hr.past⟩
  have hholds := hr.holds
  show r.worker.Holds r.rest true r.streamingDecoder
  cases hw : r.worker <;> simp_all [WorkerPc.Holds]

/-- After a cancel a partial decode ends the worker. -/
lemma afterPartial_canceled {s : StreamRuntime} (hcanceled : s.cancelRequested = true)
    (snap : Snapshot) (partialResult : Option Transcript) :
    s.afterPartial env snap partialResult =
      { s with partialDecodeStarted := false, worker := .returned } := by
  unfold StreamRuntime.afterPartial
  exact if_pos (Or.inl hcanceled)

/-- The worker of a cancelled stream does not begin a final decode. -/
lemma step_canceled {a : StreamAct} (hcanceled : r.cancelRequested = true)
    (hw : r.worker.inFinal = false) (h : r.step env a = some r') :
    r'.decoderCalls = r.decoderCalls ∧ r'.finalResult = r.finalResult ∧
      r'.worker.inFinal = false := by
  cases a with
  | workerWake =>
    simp only [StreamRuntime.step] at h
    split at h
    · split_ifs at h
      cases h
      rw [StreamRuntime.workerWake, if_pos hcanceled]
      exact ⟨rfl, rfl, rfl⟩
    · cases h
  | transcribed result =>
    simp only [StreamRuntime.step, transcribed] at h
    split at h <;> cases h
    · rw [afterPartial_canceled hcanceled]
      exact ⟨rfl, rfl, rfl⟩
    · next hw' => rw [hw'] at hw; cases hw
    · exact ⟨rfl, rfl, rfl⟩
    · exact ⟨rfl, rfl, rfl⟩
  | pushed result =>
    simp only [StreamRuntime.step, pushed] at h
    split at h <;> cases h
    · rw [afterPartial_canceled (s := r.advance _) hcanceled]
      exact ⟨rfl, rfl, rfl⟩
    · next hw' => rw [hw'] at hw; cases hw
    · exact ⟨rfl, rfl, rfl⟩
    · exact ⟨rfl, rfl, rfl⟩
  | decoderFinalized result =>
    simp only [StreamRuntime.step, decoderFinalized] at h
    split at h <;> cases h <;> next hw' => rw [hw'] at hw; cases hw
  | decoderClosed result =>
    simp only [StreamRuntime.step, decoderClosed] at h
    split at h <;> cases h <;> next hw' => rw [hw'] at hw; cases hw
  | senderTake | senderSent | senderExit =>
    obtain ⟨_, _, _, -, rfl⟩ := step_sender h rfl
    exact ⟨rfl, rfl, hw⟩

/-- A worker that listens is in no final decode. -/
lemma Synced.not_inFinal (hr : Synced r) (hlisten : r.finalizeRequested = false) :
    r.worker.inFinal = false := by
  have hholds := hr.holds
  rw [hlisten] at hholds
  cases hw : r.worker <;> simp_all [WorkerPc.Holds, WorkerPc.inFinal]

/-- Every change of a stream keeps it in step with its decoder. -/
lemma DecoderInvariant.change (hr : DecoderInvariant r)
    (h : Change env (fun _ _ => True) r r') : DecoderInvariant r' := by
  cases h with
  | task _ h =>
    have hframe := step_frame h
    refine ⟨fun hkept => (hr.synced (hframe.cancelRequested.symm.trans hkept)).step h,
      fun hcanceled => ?_⟩
    have hcanceled' := hframe.cancelRequested.symm.trans hcanceled
    obtain ⟨hcalls, hw⟩ := hr.canceled hcanceled'
    have hstep := step_canceled hcanceled' hw h
    rw [hstep.1]
    exact ⟨hcalls, hstep.2.2⟩
  | senderCancel h =>
    obtain ⟨_, rfl⟩ := senderCancel_eq h
    exact ⟨fun hkept => (hr.synced hkept).of_frame (by constructor <;> rfl) rfl rfl, hr.canceled⟩
  | startTasks decoder hfresh =>
    have hkept : r.cancelRequested = false := by rw [hfresh]
    have hcalls : .finalize ∉ r.decoderCalls := by rw [hfresh]; simp
    have hsynced := hr.synced hkept
    refine ⟨fun _ => ?_, fun hcanceled => absurd (hcanceled.symm.trans hkept) (by simp)⟩
    cases decoder with
    | true =>
      exact ⟨⟨hsynced.accepted, hsynced.cursor, hsynced.finalized⟩, trivial,
        fun hmem => absurd hmem hcalls⟩
    | false =>
      exact ⟨⟨hsynced.accepted, hsynced.cursor, hsynced.finalized⟩, trivial,
        fun hmem => absurd hmem hcalls⟩
  | appendAudio hactive hlisten _ h =>
    exact ⟨fun _ => (hr.synced hactive.kept).appendAudio hlisten h, hr.canceled⟩
  | pong =>
    exact ⟨fun hkept => (hr.synced hkept).of_frame (by constructor <;> rfl) rfl rfl, hr.canceled⟩
  | requestFinalize hactive =>
    exact ⟨fun _ => (hr.synced hactive.kept).requestFinalize, hr.canceled⟩
  | cancel hactive hlisten =>
    have hsynced := hr.synced hactive.kept
    refine ⟨nofun, fun _ => ⟨fun hmem => ?_, hsynced.not_inFinal hlisten⟩⟩
    exact absurd (hlisten.symm.trans (hsynced.finalized hmem).2) (by simp)
  | close =>
    exact ⟨fun hkept => (hr.synced hkept).of_frame (by constructor <;> rfl) rfl rfl, hr.canceled⟩
  | dropDecoder hcall hw =>
    refine ⟨fun hkept => ?_, fun hcanceled => ?_⟩
    · have hsynced := hr.synced hkept
      exact ⟨⟨hsynced.accepted, hsynced.cursor,
        fun hmem => hsynced.finalized (finalize_mem_of_append hcall hmem)⟩,
        WorkerPc.holds_of_not_running hw _ _ _,
        fun hmem => hsynced.past (finalize_mem_of_append hcall hmem)⟩
    · exact ⟨fun hmem => (hr.canceled hcanceled).1 (finalize_mem_of_append hcall hmem),
        (hr.canceled hcanceled).2⟩
  | callClose =>
    refine ⟨fun hkept => ?_, fun hcanceled => ?_⟩
    · have hsynced := hr.synced hkept
      exact ⟨⟨hsynced.accepted, hsynced.cursor,
        fun hmem => hsynced.finalized (finalize_mem_of_append (Or.inr rfl) hmem)⟩, hsynced.holds,
        fun hmem => hsynced.past (finalize_mem_of_append (Or.inr rfl) hmem)⟩
    · exact ⟨fun hmem => (hr.canceled hcanceled).1 (finalize_mem_of_append (Or.inr rfl) hmem),
        (hr.canceled hcanceled).2⟩

end StreamRuntime

namespace Conn

variable {env : ServerEnv} {c : Conn} {r : StreamRuntime}

/-- The stream of a reachable connection satisfies the invariant. -/
lemma decoderInvariant (h : (connection env).Reaches {} c) (hs : c.stream = some r) :
    r.DecoderInvariant := by
  refine stream_invariant_of_reaches ?_ (fun _ _ hr h => hr.change h) h r hs
  intro config streamMaxBufferBytes streamId session hsession
  exact StreamRuntime.decoderInvariant_start (createLocalSttStreamSession_new hsession).audioBuffer

/-- **The decoder sees the exact stream.** Until a stream is cancelled, the completed pushes are the
first `streaming_decode_offset` bytes of the buffer, which is the concatenation of the accepted
chunks; and from the call of `decoder.finalize` on they are the whole buffer. -/
theorem pushedAudio_eq (h : (connection env).Reaches {} c) (hs : c.stream = some r) :
    (r.cancelRequested = false →
      r.pushedAudio.flatten = r.session.audioBuffer.take r.streamingDecodeOffset ∧
        r.streamingDecodeOffset ≤ r.session.audioBuffer.length ∧
        r.session.audioBuffer = r.accepted.flatten) ∧
      (.finalize ∈ r.decoderCalls →
        r.pushedAudio.flatten = r.session.audioBuffer ∧
          r.session.audioBuffer = r.accepted.flatten) := by
  have hinv := decoderInvariant h hs
  refine ⟨fun hkept => ?_, fun hmem => ?_⟩
  · have hsynced := hinv.synced hkept
    exact ⟨hsynced.cursor.flatten_eq, hsynced.cursor.offset_le, hsynced.accepted⟩
  · have hkept : r.cancelRequested = false :=
      Bool.eq_false_iff.mpr fun hcanceled => (hinv.canceled hcanceled).1 hmem
    have hsynced := hinv.synced hkept
    exact ⟨hsynced.cursor.complete (hsynced.finalized hmem).1, hsynced.accepted⟩

/-- A stream of two chunks: the first is pushed, the second arrives during the push and is pushed
at the finalize request. -/
def pushTwice : List Act :=
  openStream plainStart true ++ deliver (.audio [1, 0]) ++ [.task .workerWake] ++
    deliver (.audio [2, 0]) ++ [.task (.pushed (.ok none))] ++ deliver .finalize ++
    [.task .workerWake, .task (.pushed (.ok none))]

theorem pushedAudio_eq_pushTwice :
    ∃ c r, (connection defaultEnv).run {} pushTwice = some c ∧ c.stream = some r ∧
      r.accepted = [[1, 0], [2, 0]] ∧ r.streamingDecodeOffset = 4 ∧
      r.pushedAudio.flatten = r.session.audioBuffer.take r.streamingDecodeOffset ∧
      r.pushedAudio.flatten = r.session.audioBuffer := by
  have hrun : ∃ c r, (connection defaultEnv).run {} pushTwice = some c ∧ c.stream = some r ∧
      r.accepted = [[1, 0], [2, 0]] ∧ r.streamingDecodeOffset = 4 ∧ r.cancelRequested = false ∧
      r.decoderCalls = [.pushAudio [1, 0], .pushAudio [2, 0], .finalize] :=
    ⟨_, _, rfl, rfl, rfl, rfl, rfl, rfl⟩
  obtain ⟨c, r, hrun, hs, haccepted, hoffset, hkept, hcalls⟩ := hrun
  obtain ⟨hpushed, hfinalized⟩ := pushedAudio_eq ⟨pushTwice, hrun⟩ hs
  exact ⟨c, r, hrun, hs, haccepted, hoffset, (hpushed hkept).1, (hfinalized (by simp [hcalls])).1⟩

end Conn

end RtcAsr
