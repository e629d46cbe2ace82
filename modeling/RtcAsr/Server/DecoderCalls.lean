import RtcAsr.Server.DecodeWindow

/-!
# The calls of a streaming decoder

The worker pushes into the decoder of its stream and finalizes it, and whoever takes it out of the
runtime closes it: the worker after `decoder.finalize`, else the handler in `stop_runtime`, there
after `decoder.cancel` if the stream was cancelled.  So one owner calls at a time (`Serves`), the
calls come in order, and a decoder is closed once when its runtime is dropped (`decoder_calls`).
-/

namespace RtcAsr

/-! ## Orders of calls -/

/-- How far the calls of a decoder have come. -/
inductive CallStage
  | pushing
  | ended
  | closed
  deriving DecidableEq

/-- The calls of a decoder: pushes, then an end or none, then a close. -/
inductive CallHistory : CallStage → List DecoderCall → Prop
  | start : CallHistory .pushing []
  | push {calls : List DecoderCall} (audio : Bytes) (h : CallHistory .pushing calls) :
    CallHistory .pushing (calls ++ [.pushAudio audio])
  | finalize {calls : List DecoderCall} (h : CallHistory .pushing calls) :
    CallHistory .ended (calls ++ [.finalize])
  | cancel {calls : List DecoderCall} (h : CallHistory .pushing calls) :
    CallHistory .ended (calls ++ [.cancel])
  | close {s : CallStage} {calls : List DecoderCall} (hs : s ≠ .closed)
    (h : CallHistory s calls) : CallHistory .closed (calls ++ [.close])

/-- The calls are pushes, then at most one `finalize` or `cancel`, then the calls `closing`. -/
def CallsInOrder (calls closing : List DecoderCall) : Prop :=
  ∃ pushes ending, calls = pushes ++ ending ++ closing ∧
    (∀ call ∈ pushes, ∃ audio, call = .pushAudio audio) ∧
    (ending = [] ∨ ending = [.finalize] ∨ ending = [.cancel])

/-- Before the close the calls are pushes. -/
lemma CallHistory.pushes {calls : List DecoderCall} (h : CallHistory .pushing calls) :
    ∀ call ∈ calls, ∃ audio, call = .pushAudio audio := by
  generalize hs : CallStage.pushing = s at h
  induction h with
  | start => simp
  | @push calls audio h ih =>
    intro call hcall
    rcases List.mem_append.mp hcall with hcall | hcall
    · exact ih hs call hcall
    · exact ⟨audio, List.mem_singleton.mp hcall⟩
  | finalize => cases hs
  | cancel => cases hs
  | close => cases hs

/-- A history before the close is in order. -/
lemma CallHistory.open_inOrder {s : CallStage} {calls : List DecoderCall} (h : CallHistory s calls)
    (hs : s ≠ .closed) : CallsInOrder calls [] := by
  cases h with
  | start => exact ⟨[], [], rfl, by simp, Or.inl rfl⟩
  | push audio h => exact ⟨_, [], by simp, (CallHistory.push audio h).pushes, Or.inl rfl⟩
  | finalize h => exact ⟨_, [.finalize], by simp, h.pushes, Or.inr (Or.inl rfl)⟩
  | cancel h => exact ⟨_, [.cancel], by simp, h.pushes, Or.inr (Or.inr rfl)⟩
  | close => exact absurd rfl hs

/-- A history after the close is in order, with one close at its end. -/
lemma CallHistory.closed_inOrder {calls : List DecoderCall} (h : CallHistory .closed calls) :
    CallsInOrder calls [.close] := by
  cases h with
  | close hs h =>
    obtain ⟨pushes, ending, rfl, hpushes, hending⟩ := h.open_inOrder hs
    exact ⟨pushes, ending, by simp, hpushes, hending⟩

/-! ## Who calls -/

/-- The decoder call the worker waits for. -/
def WorkerPc.call : WorkerPc → List DecoderCall
  | .pushingPartial snap => [.pushAudio snap.audio]
  | .pushingFinal _ remaining => [.pushAudio remaining]
  | .finalizingDecoder _ => [.finalize]
  | .closingDecoder _ _ => [.close]
  | _ => []

/-- The decoder call the handler waits for. -/
def HandlerPc.call : HandlerPc → List DecoderCall
  | .cancellingDecoder _ => [.cancel]
  | .closingDecoder _ _ => [.close]
  | _ => []

/-- The worker decodes without the decoder, or has taken it out of the runtime. -/
def WorkerPc.withoutDecoder : WorkerPc → Bool
  | .transcribingPartial _ => true
  | .transcribingFinal _ => true
  | .closingDecoder _ _ => true
  | _ => false

/-- The worker waits for a call of the decoder in the runtime. -/
def WorkerPc.withDecoder : WorkerPc → Bool
  | .pushingPartial _ => true
  | .pushingFinal _ _ => true
  | .finalizingDecoder _ => true
  | _ => false

/-- A worker that uses the decoder waits for a call. -/
lemma WorkerPc.call_ne_nil {w : WorkerPc} (h : w.withDecoder = true) : w.call ≠ [] := by
  cases w with
  | pushingPartial | pushingFinal | finalizingDecoder => exact List.cons_ne_nil _ _
  | _ => cases h

/-- A worker that is not running waits for no call. -/
lemma WorkerPc.call_of_not_running {w : WorkerPc} (h : w.running = false) : w.call = [] := by
  cases w with
  | absent | returned | raised => rfl
  | _ => cases h

/-- How far the calls have come when the decoder was taken out of the runtime. -/
def HandlerPc.releasedStage : HandlerPc → CallStage
  | .cancellingDecoder _ => .ended
  | _ => .closed

/-- The positions of the handler after it took the decoder out of the runtime. -/
def HandlerPc.hasReleased : HandlerPc → Bool
  | .cancellingDecoder _ => true
  | .closingDecoder _ _ => true
  | .stoppingSender _ => true
  | .finished => true
  | _ => false

/-- The positions of the handler that acts on a finalize. -/
def HandlerPc.finalizes : HandlerPc → Bool
  | .finalizeAwaitingWorker => true
  | .finalizeJoining => true
  | .finalizeAwaitingSender => true
  | _ => false

namespace StreamRuntime

/-- The decoder in the runtime was pushed into only. -/
structure Pushing (r : StreamRuntime) : Prop where
  calls : CallHistory .pushing r.decoderCalls
  worker : ∀ audio, r.worker ≠ .finalizingDecoder audio

/-- The decoder in the runtime is being finalized, or its finalization raised. -/
structure Finalizing (r : StreamRuntime) : Prop where
  calls : CallHistory .ended r.decoderCalls
  requested : r.finalizeRequested = true
  worker : (∃ audio, r.worker = .finalizingDecoder audio) ∨ ∃ e, r.worker = .raised e

/-- The calls of the decoder of a stream fit the positions of the worker and of the handler. -/
structure Serves (r : StreamRuntime) (pc : HandlerPc) : Prop where
  rolling : r.session.decoderMode = .rollingWindow →
    r.streamingDecoder = false ∧ r.decoderCalls = []
  owned : r.streamingDecoder = true → r.Pushing ∨ r.Finalizing
  released : r.streamingDecoder = false → r.session.decoderMode = .stateful →
    CallHistory pc.releasedStage r.decoderCalls
  exclusive : r.finalizeRequested = true → r.cancelRequested = false
  without : r.worker.withoutDecoder = true → r.streamingDecoder = false
  uses : r.worker.withDecoder = true → r.streamingDecoder = true
  position : pc.hasReleased = true → r.streamingDecoder = false
  finalized : pc.finalizes = true → r.worker = .returned → r.streamingDecoder = false
  workerCall : r.worker.call <:+ r.decoderCalls
  handlerCall : pc.call <:+ r.decoderCalls

variable {env : ServerEnv} {r r' : StreamRuntime} {a : StreamAct} {pc pc' : HandlerPc}

/-! ## The worker -/

/-- A decoder with a worker that waits was pushed into only. -/
lemma Serves.pushing (hr : r.Serves pc) (hdecoder : r.streamingDecoder = true)
    (hw : ∀ audio, r.worker ≠ .finalizingDecoder audio) (hraised : ∀ e, r.worker ≠ .raised e) :
    r.Pushing := by
  refine (hr.owned hdecoder).resolve_right ?_
  rintro ⟨-, -, ⟨audio, h⟩ | ⟨e, h⟩⟩
  · exact hw audio h
  · exact hraised e h

/-- A final transcript that was asked for is emitted without the decoder. -/
lemma WorkerMove.final_without (hr : r.Serves pc) (h : WorkerMove env r a r')
    (hfin : r.finalizeRequested = true) (hnot : r.finalEmitted = false)
    (hemitted : r'.finalEmitted = true) : r.streamingDecoder = false := by
  have hquiet : ∀ {P : Prop}, r'.finalEmitted = r.finalEmitted → P := by
    intro P hsame
    exact absurd (hemitted.symm.trans (hsame.trans hnot)) (by simp)
  have hpartial : ∀ {s : StreamRuntime} {snap : Snapshot} {result : Option Transcript},
      s.finalizeRequested = true → s.finalEmitted = r.finalEmitted →
      PartialOutcome env s snap result r' → r.streamingDecoder = false := by
    intro s snap result hs hsame houtcome
    cases houtcome with
    | dropped => exact hquiet hsame
    | skipped => exact hquiet hsame
    | pending => exact hquiet hsame
    | silent _ _ hlisten => exact absurd (hs.symm.trans hlisten) (by simp)
    | refused _ _ hlisten => exact absurd (hs.symm.trans hlisten) (by simp)
    | emitted _ _ hlisten => exact absurd (hs.symm.trans hlisten) (by simp)
  cases h with
  | reuse _ _ _ _ hdecoder => exact hdecoder
  | transcribed hw result => exact hpartial hfin rfl (afterPartial_outcome env r _ (some result))
  | @pushed snap hw result =>
    exact hpartial (s := r.advance snap.audio) hfin rfl (afterPartial_outcome env _ snap result)
  | transcribedFinal hw => exact hr.without (by rw [hw]; rfl)
  | closed hw => exact hr.without (by rw [hw]; rfl)
  | _ => exact hquiet rfl

/-- A worker that returns while the handler acts on a finalize has no decoder. -/
lemma Serves.returned (hr : r.Serves pc) (hfit : pc.Fits r) (hpc : pc.finalizes = true)
    (h : r.step env a = some r') (ha : a.isSender = false) (hw : r'.worker = .returned) :
    r.streamingDecoder = false := by
  have hrunning := (step_emits h ha).1
  have hactive : r.Active ∧ r.finalizeRequested = true := by
    cases pc with
    | finalizeAwaitingWorker => exact hfit
    | finalizeJoining => exact ⟨hfit.1, hfit.2.1⟩
    | finalizeAwaitingSender => exact ⟨hfit.1, hfit.2.1⟩
    | _ => cases hpc
  have hnot : r.finalEmitted = false := by
    refine hactive.1.notFinal fun hw => ?_
    rw [hw] at hrunning
    cases hrunning
  exact (step_move h ha).final_without hr hactive.2 hnot ((hactive.1.step h).returned_iff.mp hw)

/-- A step of the worker without a decoder call. -/
lemma Serves.quiet (hr : r.Serves pc) (hframe : Frame r r')
    (hcalls : r'.decoderCalls = r.decoderCalls)
    (hdecoder : r'.streamingDecoder = r.streamingDecoder)
    (hcall : r'.worker.call = [])
    (hwithout : r'.worker.withoutDecoder = true → r.streamingDecoder = false)
    (hraised : r.Finalizing → ∃ e, r'.worker = .raised e)
    (hreturned : pc.finalizes = true → r'.worker = .returned → r.streamingDecoder = false) :
    r'.Serves pc := by
  refine ⟨?_, ?_, ?_, ?_, ?_, fun huses => ?_, ?_, ?_, ?_, ?_⟩
  · rw [hframe.decoderMode, hdecoder, hcalls]
    exact hr.rolling
  · rw [hdecoder]
    intro howned
    rcases hr.owned howned with hpushing | hfinalizing
    · refine Or.inl ⟨by rw [hcalls]; exact hpushing.calls, fun audio hw => ?_⟩
      rw [hw] at hcall
      cases hcall
    · refine Or.inr ⟨by rw [hcalls]; exact hfinalizing.calls, ?_, Or.inr (hraised hfinalizing)⟩
      rw [hframe.finalizeRequested]
      exact hfinalizing.requested
  · rw [hframe.decoderMode, hdecoder, hcalls]
    exact hr.released
  · rw [hframe.finalizeRequested, hframe.cancelRequested]
    exact hr.exclusive
  · rw [hdecoder]
    exact hwithout
  · exact absurd hcall (WorkerPc.call_ne_nil huses)
  · rw [hdecoder]
    exact hr.position
  · rw [hdecoder]
    exact hreturned
  · rw [hcall]
    exact List.nil_suffix
  · rw [hcalls]
    exact hr.handlerCall

/-- A call that the worker begins, the decoder staying in the runtime. -/
lemma Serves.begin (hr : r.Serves pc) (hpc : pc.call = []) (hframe : Frame r r')
    {call : DecoderCall} (hcalls : r'.decoderCalls = r.decoderCalls ++ [call])
    (hdecoder : r.streamingDecoder = true) (hdecoder' : r'.streamingDecoder = true)
    (hcall : r'.worker.call = [call]) (hwithout : r'.worker.withoutDecoder = false)
    (hrunning : r'.worker ≠ .returned) (howned : r'.Pushing ∨ r'.Finalizing) :
    r'.Serves pc := by
  refine ⟨fun hrolling => ?_, fun _ => howned, fun hnone => ?_, ?_, fun hnone => ?_,
    fun _ => hdecoder', fun hpos => ?_, fun _ hw => absurd hw hrunning, ?_, ?_⟩
  · rw [hframe.decoderMode] at hrolling
    exact absurd ((hr.rolling hrolling).1.symm.trans hdecoder) (by simp)
  · exact absurd (hnone.symm.trans hdecoder') (by simp)
  · rw [hframe.finalizeRequested, hframe.cancelRequested]
    exact hr.exclusive
  · exact absurd (hnone.symm.trans hwithout) (by simp)
  · exact absurd ((hr.position hpos).symm.trans hdecoder) (by simp)
  · rw [hcall, hcalls]
    exact List.suffix_append _ _
  · rw [hpc]
    exact List.nil_suffix

/-- The handler waits for a decoder call only when the worker is done. -/
lemma call_of_running (hfit : pc.Fits r) (hrunning : r.worker.running = true) : pc.call = [] := by
  cases pc with
  | cancellingDecoder => exact absurd (hrunning.symm.trans hfit.2) (by simp)
  | closingDecoder => exact absurd (hrunning.symm.trans hfit.2) (by simp)
  | _ => rfl

/-- The position of the handler while the worker is not done. -/
lemma releasedStage_of_running (hfit : pc.Fits r) (hrunning : r.worker.running = true) :
    pc.releasedStage = .closed ∧ pc.hasReleased = false := by
  cases pc with
  | cancellingDecoder => exact absurd (hrunning.symm.trans hfit.2) (by simp)
  | closingDecoder => exact absurd (hrunning.symm.trans hfit.2) (by simp)
  | stoppingSender => exact absurd (hrunning.symm.trans hfit.2) (by simp)
  | finished => exact absurd (hrunning.symm.trans hfit.2) (by simp)
  | _ => exact ⟨rfl, rfl⟩

/-- **The worker calls the decoder in order.** -/
lemma Serves.move (hr : r.Serves pc) (hfit : pc.Fits r) (hsliced : r.Sliced)
    (h : r.step env a = some r') (ha : a.isSender = false) : r'.Serves pc := by
  have hframe := step_frame h
  have hrunning := (step_emits h ha).1
  have hcall := call_of_running hfit hrunning
  have hmove := step_move h ha
  have hreturned : pc.finalizes = true → r'.worker = .returned → r.streamingDecoder = false :=
    fun hpc hw => hr.returned hfit hpc h ha hw
  have hnotFinal : (∀ audio, r.worker ≠ .finalizingDecoder audio) → r.Finalizing →
      ∃ e, r'.worker = .raised e := by
    rintro hw ⟨-, -, ⟨audio, hfinal⟩ | ⟨e, hraised⟩⟩
    · exact absurd hfinal (hw audio)
    · rw [hraised] at hrunning
      cases hrunning
  have hdone : ∀ {s : StreamRuntime}, s.worker.done = true → s.worker.call = [] ∧
      (s.worker.withoutDecoder = true → r.streamingDecoder = false) := by
    intro s hw
    cases hs : s.worker with
    | returned | raised => exact ⟨rfl, by rintro ⟨⟩⟩
    | _ =>
      rw [hs] at hw
      cases hw
  cases hmove with
  | stop hw =>
    exact hr.quiet hframe rfl rfl rfl (by rintro ⟨⟩) (hnotFinal (by simp [hw])) hreturned
  | idle hw =>
    exact hr.quiet hframe rfl rfl rfl (by rintro ⟨⟩) (hnotFinal (by simp [hw])) hreturned
  | transcribe hw _ _ hdecoder =>
    exact hr.quiet hframe rfl rfl rfl (fun _ => hdecoder) (hnotFinal (by simp [hw])) hreturned
  | push hw _ _ hdecoder =>
    have hpushing := hr.pushing hdecoder (by simp [hw]) (by simp [hw])
    have hsnap : r.snapshot.audio = r.rest := by rw [snapshot, if_pos hdecoder]
    exact hr.begin hcall hframe rfl hdecoder hdecoder (by rw [← hsnap]; rfl) rfl (by rintro ⟨⟩)
      (Or.inl ⟨.push _ hpushing.calls, by rintro _ ⟨⟩⟩)
  | nothingToPush hw =>
    exact hr.quiet hframe rfl rfl rfl (by rintro ⟨⟩) (hnotFinal (by simp [hw])) hreturned
  | transcribeFinal hw _ _ _ hdecoder =>
    exact hr.quiet hframe rfl rfl rfl (fun _ => hdecoder) (hnotFinal (by simp [hw])) hreturned
  | pushFinal hw _ _ _ hdecoder =>
    have hpushing := hr.pushing hdecoder (by simp [hw]) (by simp [hw])
    exact hr.begin hcall hframe rfl hdecoder hdecoder rfl rfl (by rintro ⟨⟩)
      (Or.inl ⟨.push _ hpushing.calls, by rintro _ ⟨⟩⟩)
  | callFinalize hw _ _ hfin hdecoder =>
    have hpushing := hr.pushing hdecoder (by simp [hw]) (by simp [hw])
    exact hr.begin hcall hframe rfl hdecoder hdecoder rfl rfl (by rintro ⟨⟩)
      (Or.inr ⟨.finalize hpushing.calls, hfin, Or.inl ⟨_, rfl⟩⟩)
  | @reuse hw _ _ _ _ result =>
    have hgiven := finishFinal_given r.awake r.session.audioBuffer result
    obtain ⟨-, -, hcalls, hdecoder⟩ := given_eq_iff.mp hgiven
    obtain ⟨hnone, hwithout⟩ := hdone (finishFinal_done r.awake r.session.audioBuffer result)
    exact hr.quiet hframe hcalls hdecoder hnone hwithout (hnotFinal (by simp [hw])) hreturned
  | @transcribed snap hw result =>
    obtain ⟨-, -, hcalls, hdecoder⟩ := given_eq_iff.mp (afterPartial_given env r snap (some result))
    rcases afterPartial_worker env r snap (some result) with hw' | hw'
    · exact hr.quiet hframe hcalls hdecoder (by rw [hw']; rfl) (by rw [hw']; rintro ⟨⟩)
        (hnotFinal (by simp [hw])) hreturned
    · obtain ⟨hnone, hwithout⟩ := hdone hw'
      exact hr.quiet hframe hcalls hdecoder hnone hwithout (hnotFinal (by simp [hw])) hreturned
  | @pushed snap hw result =>
    obtain ⟨-, -, hcalls, hdecoder⟩ :=
      given_eq_iff.mp (afterPartial_given env (r.advance snap.audio) snap result)
    rcases afterPartial_worker env (r.advance snap.audio) snap result with hw' | hw'
    · exact hr.quiet hframe hcalls hdecoder (by rw [hw']; rfl) (by rw [hw']; rintro ⟨⟩)
        (hnotFinal (by simp [hw])) hreturned
    · obtain ⟨hnone, hwithout⟩ := hdone hw'
      exact hr.quiet hframe hcalls hdecoder hnone hwithout (hnotFinal (by simp [hw])) hreturned
  | @transcribedFinal audio hw result =>
    obtain ⟨-, -, hcalls, hdecoder⟩ := given_eq_iff.mp (finishFinal_given r audio result)
    obtain ⟨hnone, hwithout⟩ := hdone (finishFinal_done r audio result)
    exact hr.quiet hframe hcalls hdecoder hnone hwithout (hnotFinal (by simp [hw])) hreturned
  | @pushedFinal audio remaining hw result =>
    have hdecodes := hsliced.decodes
    rw [hw] at hdecodes
    have hdecoder := hr.uses (by rw [hw]; rfl)
    have hpushing := hr.pushing hdecoder (by simp [hw]) (by simp [hw])
    exact hr.begin hcall hframe rfl hdecoder hdecoder rfl rfl (by rintro ⟨⟩)
      (Or.inr ⟨.finalize hpushing.calls, hdecodes.2, Or.inl ⟨_, rfl⟩⟩)
  | @finalized audio hw result =>
    have hdecoder := hr.uses (by rw [hw]; rfl)
    have hcalls : CallHistory .ended r.decoderCalls := by
      rcases hr.owned hdecoder with hpushing | hfinalizing
      · exact absurd hw (hpushing.worker audio)
      · exact hfinalizing.calls
    refine ⟨fun hrolling => ?_, by rintro ⟨⟩, fun _ _ => ?_, hr.exclusive,
      fun _ => rfl, by rintro ⟨⟩, fun _ => rfl, fun _ _ => rfl, List.suffix_append _ _, ?_⟩
    · exact absurd ((hr.rolling hrolling).1.symm.trans hdecoder) (by simp)
    · rw [(releasedStage_of_running hfit hrunning).1]
      exact .close (by simp) hcalls
    · rw [hcall]
      exact List.nil_suffix
  | @closed audio result hw =>
    obtain ⟨-, -, hcalls, hdecoder⟩ := given_eq_iff.mp (finishFinal_given r audio result)
    obtain ⟨hnone, hwithout⟩ := hdone (finishFinal_done r audio result)
    exact hr.quiet hframe hcalls hdecoder hnone hwithout (hnotFinal (by simp [hw])) hreturned
  | raised =>
    exact hr.quiet hframe rfl rfl rfl (by rintro ⟨⟩) (fun _ => ⟨_, rfl⟩) hreturned

/-! ## The handler -/

/-- What touches neither the worker nor the decoder. -/
lemma Serves.of_same (hr : r.Serves pc) (hmode : r'.session.decoderMode = r.session.decoderMode)
    (hdecoder : r'.streamingDecoder = r.streamingDecoder)
    (hcalls : r'.decoderCalls = r.decoderCalls) (hworker : r'.worker = r.worker)
    (hfin : r.finalizeRequested = true → r'.finalizeRequested = true)
    (hexclusive : r'.finalizeRequested = true → r'.cancelRequested = false) : r'.Serves pc := by
  refine ⟨?_, ?_, ?_, hexclusive, ?_, ?_, ?_, ?_, ?_, ?_⟩
  · rw [hmode, hdecoder, hcalls]
    exact hr.rolling
  · rw [hdecoder]
    intro howned
    rcases hr.owned howned with ⟨hpushing, hw⟩ | ⟨hended, hrequested, hw⟩
    · exact Or.inl ⟨by rw [hcalls]; exact hpushing, by rw [hworker]; exact hw⟩
    · exact Or.inr ⟨by rw [hcalls]; exact hended, hfin hrequested, by rw [hworker]; exact hw⟩
  · rw [hdecoder, hmode, hcalls]
    exact hr.released
  · rw [hworker, hdecoder]
    exact hr.without
  · rw [hworker, hdecoder]
    exact hr.uses
  · rw [hdecoder]
    exact hr.position
  · rw [hworker, hdecoder]
    exact hr.finalized
  · rw [hworker, hcalls]
    exact hr.workerCall
  · rw [hcalls]
    exact hr.handlerCall

/-- The handler moves to a position without a decoder call. -/
lemma Serves.goto (hr : r.Serves pc) (hstage : pc.releasedStage = .closed)
    (hstage' : pc'.releasedStage = .closed) (hcall : pc'.call = [])
    (hposition : pc'.hasReleased = true → r.streamingDecoder = false)
    (hfinalized : pc'.finalizes = true → r.worker = .returned → r.streamingDecoder = false) :
    r.Serves pc' := by
  refine ⟨hr.rolling, hr.owned, ?_, hr.exclusive, hr.without, hr.uses, hposition, hfinalized,
    hr.workerCall, ?_⟩
  · rw [hstage', ← hstage]
    exact hr.released
  · rw [hcall]
    exact List.nil_suffix

/-- A created stream has no decoder. -/
lemma serves_of_fresh (hr : r.Fresh) (hmode : r.session.decoderMode = .rollingWindow)
    (hcall : pc.call = []) : r.Serves pc := by
  have hdecoder : r.streamingDecoder = false := by rw [hr]
  have hcalls : r.decoderCalls = [] := by rw [hr]
  have hworker : r.worker = .absent := by rw [hr]
  refine ⟨fun _ => ⟨hdecoder, hcalls⟩, fun h => ?_, fun _ h => ?_, fun h => ?_, fun _ => hdecoder,
    fun h => ?_, fun _ => hdecoder, fun _ _ => hdecoder, ?_, ?_⟩
  · exact absurd (h.symm.trans hdecoder) (by simp)
  · exact absurd (h.symm.trans hmode) (by simp)
  · rw [hr] at h
    cases h
  · rw [hworker] at h
    cases h
  · rw [hworker]
    exact List.nil_suffix
  · rw [hcall]
    exact List.nil_suffix

/-- A stream whose tasks were not started has no decoder yet. -/
lemma Serves.rolling_of_fresh (hr : r.Serves pc) (hfresh : r.Fresh)
    (hstage : pc.releasedStage = .closed) : r.session.decoderMode = .rollingWindow := by
  have hdecoder : r.streamingDecoder = false := by rw [hfresh]
  have hcalls : r.decoderCalls = [] := by rw [hfresh]
  cases hmode : r.session.decoderMode with
  | rollingWindow => rfl
  | stateful =>
    obtain ⟨pushes, ending, h, -⟩ := (hstage ▸ hr.released hdecoder hmode).closed_inOrder
    rw [hcalls] at h
    exact absurd h.symm (by simp)

/-- A started stream has the decoder that `start_stream` returned. -/
lemma serves_startTasks (hr : r.Fresh) (hmode : r.session.decoderMode = .rollingWindow)
    (decoder : Bool) : (r.startTasks decoder).Serves .sendingReady := by
  have hcalls : r.decoderCalls = [] := by rw [hr]
  have hfin : r.finalizeRequested = false := by rw [hr]
  have hpushing : (r.startTasks decoder).Pushing := by
    refine ⟨?_, nofun⟩
    show CallHistory .pushing r.decoderCalls
    rw [hcalls]
    exact .start
  refine ⟨fun hrolling => ?_, fun _ => Or.inl hpushing, fun hnone hstateful => ?_,
    fun h => ?_, nofun, nofun, nofun, nofun, List.nil_suffix, List.nil_suffix⟩
  · cases decoder with
    | true => cases hrolling
    | false => exact ⟨rfl, hcalls⟩
  · obtain rfl : decoder = false := hnone
    exact absurd (hstateful.symm.trans hmode) (by simp)
  · exact absurd (h.symm.trans hfin) (by simp)

/-- The handler takes the decoder out of the runtime. -/
lemma Serves.drop (hr : r.Serves pc) (hdecoder : r.streamingDecoder = true)
    (hrunning : r.worker.running = false) {call : DecoderCall}
    (hcalls : CallHistory pc'.releasedStage (r.decoderCalls ++ [call]))
    (hcall : pc'.call = [call]) : (r.dropDecoder call).Serves pc' := by
  have hnone := WorkerPc.call_of_not_running hrunning
  refine ⟨fun hrolling => ?_, nofun, fun _ _ => hcalls, hr.exclusive, fun _ => rfl,
    fun huses => ?_, fun _ => rfl, fun _ _ => rfl, ?_, ?_⟩
  · exact absurd ((hr.rolling hrolling).1.symm.trans hdecoder) (by simp)
  · exact absurd hnone (WorkerPc.call_ne_nil huses)
  · show r.worker.call <:+ _
    rw [hnone]
    exact List.nil_suffix
  · rw [hcall]
    exact List.suffix_append _ _

end StreamRuntime

namespace Conn

open StreamRuntime

variable {env : ServerEnv} {c c' : Conn} {r : StreamRuntime} {a : Act}

/-- The calls of the active decoder fit the positions of its callers. -/
def Served (c : Conn) : Prop := ∀ r, c.stream = some r → r.Serves c.pc

/-- The end of `stop_runtime` leaves no stream. -/
lemma afterStop_served (c : Conn) (k : AfterStop) : (c.afterStop k).Served := by
  intro r hr
  cases k <;> cases hr

/-- `stop_runtime` begins without a decoder call. -/
lemma beginStop_served (hs : c.Served) (hstage : c.pc.releasedStage = .closed) (k : AfterStop) :
    (c.beginStop k).Served := by
  unfold beginStop
  split
  · exact afterStop_served c k
  · next r hr =>
    rintro _ ⟨⟩
    have hmoved : r.Serves (.stoppingWorker k) := (hs r hr).goto hstage rfl rfl nofun nofun
    exact hmoved.of_same rfl rfl rfl rfl id (hs r hr).exclusive

/-- An exception begins `stop_runtime`. -/
lemma raise_served (hs : c.Served) (hstage : c.pc.releasedStage = .closed) (e : Exn) :
    (c.raise e).Served := by
  unfold raise
  split
  · exact beginStop_served hs hstage _
  · refine beginStop_served ?_ ?_ _
    · exact hs
    · exact hstage
  · exact beginStop_served hs hstage _
  · refine beginStop_served ?_ ?_ _
    · exact hs
    · exact hstage

/-- The handler goes back to its loop. -/
lemma listen_served (hs : ∀ r, c.stream = some r → r.Serves .waiting) : c.listen.Served := hs

/-- The handler acts on a message. -/
lemma handle_served (hs : c.Served) (hphase : c.Phase) (hpc : c.pc = .waiting)
    (hw : ∀ r, c.stream = some r → r.worker ≠ .returned) (e : ClientEvent) :
    (c.handle env e).Served := by
  have hstage : c.pc.releasedStage = .closed := by rw [hpc]; rfl
  have hserves : ∀ r, c.stream = some r → r.Serves .waiting := by
    intro r hr
    rw [← hpc]
    exact hs r hr
  have hfit : ∀ r, c.stream = some r → r.Active ∧ r.finalizeRequested = false := by
    intro r hr
    simpa [Phase, hr, hpc, HandlerPc.Fits] using hphase
  cases e with
  | start config =>
    simp only [handle]
    split
    · exact raise_served hs hstage _
    · split
      · exact raise_served hs hstage _
      · next session hsession =>
        rintro _ ⟨⟩
        exact serves_of_fresh rfl (createLocalSttStreamSession_new hsession).decoderMode rfl
  | audio chunk =>
    simp only [handle]
    split
    · exact raise_served hs hstage _
    · next r hr =>
      split
      · exact raise_served hs hstage _
      · next session hsession =>
        obtain rfl := StreamSession.appendAudio_eq_ok hsession
        refine listen_served ?_
        rintro _ ⟨⟩
        exact (hserves r hr).of_same rfl rfl rfl rfl id (hserves r hr).exclusive
  | finalize =>
    simp only [handle]
    split
    · exact raise_served hs hstage _
    · next r hr =>
      split_ifs
      · exact raise_served hs hstage _
      · rintro _ ⟨⟩
        have hmoved : r.Serves .finalizeAwaitingWorker :=
          (hserves r hr).goto rfl rfl rfl (by rintro ⟨⟩) fun _ hreturned =>
            absurd hreturned (hw r hr)
        exact hmoved.of_same rfl rfl rfl rfl (fun _ => rfl) fun _ => (hfit r hr).1.kept
  | cancel =>
    simp only [handle]
    split
    · exact raise_served hs hstage _
    · next r hr =>
      rintro _ ⟨⟩
      have hmoved : r.Serves .cancelJoining :=
        (hserves r hr).goto rfl rfl rfl (by rintro ⟨⟩) (by rintro ⟨⟩)
      refine hmoved.of_same rfl rfl rfl rfl id fun hfin => ?_
      exact absurd (hfin.symm.trans (hfit r hr).2) (by simp)
  | ping message =>
    simp only [handle]
    split
    · next r hr =>
      split
      · next hsender => exact absurd hsender (hfit r hr).1.senderStarted
      · refine listen_served ?_
        rintro _ ⟨⟩
        exact (hserves r hr).of_same rfl rfl rfl rfl id (hserves r hr).exclusive
    · next hnone =>
      intro r hr
      rw [show _ = none from hnone] at hr
      cases hr
  | pong message => exact listen_served hserves
  | close => exact beginStop_served hs hstage _

/-- The handler wakes up. -/
lemma wake_served (hs : c.Served) (hphase : c.Phase) (hpc : c.pc = .waiting)
    (h : c.wake env = some c') : c'.Served := by
  have hstage : c.pc.releasedStage = .closed := by rw [hpc]; rfl
  unfold wake at h
  dsimp only at h
  split at h
  · split at h <;> cases h
    · refine raise_served ?_ ?_ _
      · exact hs
      · exact hstage
    · intro r hr
      exact (hs r hr).goto hstage rfl rfl nofun nofun
  · split at h <;> cases h
    · refine raise_served ?_ ?_ _
      · exact hs
      · exact hstage
    · refine raise_served ?_ ?_ _
      · exact hs
      · exact hstage
  · next hreturned _ =>
    split at h <;> cases h
    · refine handle_served (c := { c with receive := .absent, handled := _ }) hs hphase hpc ?_ _
      intro r hr hw
      exact hreturned (by rw [show c.stream = some r from hr]; exact congrArg some hw)
    · refine raise_served ?_ ?_ _
      · exact hs
      · exact hstage

/-- A write of the handler ends. -/
lemma handlerSent_served (hs : c.Served) (hphase : c.Phase) {result : Except Exn Unit}
    (h : c.handlerSent result = some c') : c'.Served := by
  unfold handlerSent at h
  split at h <;> cases h
  · next hpc =>
      exact listen_served fun r hr => (hs r hr).goto (by rw [hpc]; rfl) rfl rfl nofun nofun
  · next hpc =>
      exact listen_served fun r hr => (hs r hr).goto (by rw [hpc]; rfl) rfl rfl nofun nofun
  · next hpc =>
    intro r hr
    simp [Phase, show c.stream = some r from hr, hpc, HandlerPc.Fits] at hphase
  · next hpc => exact raise_served hs (by rw [hpc]; rfl) _
  · next hpc => exact raise_served hs (by rw [hpc]; rfl) _
  · next hpc => exact raise_served hs (by rw [hpc]; rfl) _
  · next hpc =>
    intro r hr
    simp [Phase, show c.stream = some r from hr, hpc, HandlerPc.Fits] at hphase

/-- The handler takes the decoder out of a runtime whose worker is done. -/
lemma closeDecoder_served (hr : r.Serves c.pc) (hs : c.stream = some r)
    (hstage : c.pc.releasedStage = .closed) (hrunning : r.worker.running = false) (k : AfterStop) :
    (c.closeDecoder r k).Served := by
  unfold closeDecoder
  split_ifs with hnone hcanceled
  · intro r' hr'
    obtain rfl : r = r' := Option.some.inj (hs.symm.trans hr')
    exact hr.goto hstage rfl rfl (fun _ => hnone) nofun
  · rintro _ ⟨⟩
    have hdecoder : r.streamingDecoder = true := by simpa using hnone
    rcases hr.owned hdecoder with hpushing | hfinalizing
    · exact hr.drop hdecoder hrunning (.cancel hpushing.calls) rfl
    · exact absurd (hcanceled.symm.trans (hr.exclusive hfinalizing.requested)) (by simp)
  · rintro _ ⟨⟩
    have hdecoder : r.streamingDecoder = true := by simpa using hnone
    rcases hr.owned hdecoder with hpushing | hfinalizing
    · exact hr.drop hdecoder hrunning (.close (by simp) hpushing.calls) rfl
    · exact hr.drop hdecoder hrunning (.close (by simp) hfinalizing.calls) rfl

/-- The handler's wait ends. -/
lemma proceed_served (hs : c.Served) (hphase : c.Phase) (hr : c.stream = some r)
    (h : c.proceed r = some c') : c'.Served := by
  have hserves := hs r hr
  have hfit : c.pc.Fits r := by simpa [Phase, hr] using hphase
  have hmoved : ∀ {pc : HandlerPc}, r.Serves pc → ({ c with pc := pc } : Conn).Served := by
    intro pc hpc r' hr'
    obtain rfl : r = r' := Option.some.inj (hr.symm.trans hr')
    exact hpc
  unfold proceed at h
  split at h
  · next hpc =>
    split at h <;> cases h
    · next hw =>
      refine hmoved (hserves.goto (by rw [hpc]; rfl) rfl rfl (by rintro ⟨⟩) ?_)
      exact fun _ => hserves.finalized (by rw [hpc]; rfl)
    · exact raise_served hs (by rw [hpc]; rfl) _
  · next hpc =>
    split_ifs at h
    cases h
    refine hmoved (hserves.goto (by rw [hpc]; rfl) rfl rfl (by rintro ⟨⟩) ?_)
    exact fun _ => hserves.finalized (by rw [hpc]; rfl)
  · next hpc =>
    split at h <;> cases h
    · exact raise_served hs (by rw [hpc]; rfl) _
    · exact listen_served (by simp)
    · exact listen_served (by simp)
  · next hpc =>
    split_ifs at h
    cases h
    exact beginStop_served hs (by rw [hpc]; rfl) _
  · next hpc =>
    split_ifs at h
    cases h
    exact beginStop_served hs (by rw [hpc]; rfl) _
  · next hpc =>
    split at h <;> cases h <;> next hw =>
      exact closeDecoder_served hserves hr (by rw [hpc]; rfl) (by rw [hw]; rfl) _
  · split at h <;> cases h
    exact afterStop_served c _
  · cases h

/-- `decoder.cancel` ends, and `decoder.close` is called. -/
lemma handlerDecoderCanceled_served (hs : c.Served) (hphase : c.Phase) (hr : c.stream = some r)
    {result : Except Exn Unit} (h : c.handlerDecoderCanceled r result = some c') : c'.Served := by
  have hserves := hs r hr
  have hfit : c.pc.Fits r := by simpa [Phase, hr] using hphase
  unfold handlerDecoderCanceled at h
  split at h <;> cases h
  next hpc =>
  rw [hpc] at hserves hfit
  have hdecoder := hserves.position rfl
  have hnone := WorkerPc.call_of_not_running hfit.2
  rintro _ ⟨⟩
  refine ⟨fun hrolling => ?_, fun h => ?_, fun _ hstateful => ?_, hserves.exclusive,
    fun _ => hdecoder, hserves.uses, fun _ => hdecoder, fun _ _ => hdecoder, ?_,
      List.suffix_append _ _⟩
  · have hsuffix := hserves.handlerCall
    rw [(hserves.rolling hrolling).2] at hsuffix
    exact absurd (List.suffix_nil.mp hsuffix) (by simp [HandlerPc.call])
  · exact absurd (h.symm.trans hdecoder) (by simp)
  · exact .close (by simp [HandlerPc.releasedStage]) (hserves.released hdecoder hstateful)
  · show r.worker.call <:+ _
    rw [hnone]
    exact List.nil_suffix

/-- `decoder.close` ends in the handler. -/
lemma handlerDecoderClosed_served (hs : c.Served) {result : Except Exn Unit}
    (h : c.handlerDecoderClosed result = some c') : c'.Served := by
  have hraise : c.pc.releasedStage = .closed → c.pc.hasReleased = true → ∀ k e,
      (c.raiseInStop k e).Served := by
    intro hstage hreleased k e
    unfold raiseInStop
    split_ifs
    · exact raise_served hs hstage e
    · intro r hr
      exact (hs r hr).goto hstage rfl rfl (fun _ => (hs r hr).position hreleased) nofun
  unfold handlerDecoderClosed at h
  split at h <;> cases h
  · next hpc =>
    intro r hr
    have hstage : c.pc.releasedStage = .closed := by rw [hpc]; rfl
    exact (hs r hr).goto hstage rfl rfl (fun _ => (hs r hr).position (by rw [hpc]; rfl)) nofun
  · next hpc => exact hraise (by rw [hpc]; rfl) (by rw [hpc]; rfl) _ _
  · next hpc => exact hraise (by rw [hpc]; rfl) (by rw [hpc]; rfl) _ _

/-- **Every step keeps the calls of the active decoder in order.** -/
lemma step_served (hs : c.Served) (hreach : (connection env).Reaches {} c)
    (h : c.step env a = some c') : c'.Served := by
  have hphase := phase_of_reaches hreach
  cases a with
  | receive result =>
    simp only [step] at h
    split at h <;> cases h
    exact hs
  | wake =>
    simp only [step] at h
    split at h
    · next hpc => exact wake_served hs hphase hpc h
    · cases h
  | startedDecoder result =>
    simp only [step] at h
    split at h <;> cases h
    next r hpc hr =>
    have hfresh : r.Fresh := by simpa [Phase, hr, hpc, HandlerPc.Fits] using hphase
    cases result with
    | error e => exact raise_served hs (by rw [hpc]; rfl) e
    | ok decoder =>
      rintro _ ⟨⟩
      have hserves := hs r hr
      rw [hpc] at hserves
      exact serves_startTasks hfresh (hserves.rolling_of_fresh hfresh rfl) decoder
  | handlerSent result => exact handlerSent_served hs hphase h
  | proceed =>
    obtain ⟨r, hr, h⟩ := Option.bind_eq_some_iff.mp h
    exact proceed_served hs hphase hr h
  | handlerDecoderCanceled result =>
    obtain ⟨r, hr, h⟩ := Option.bind_eq_some_iff.mp h
    exact handlerDecoderCanceled_served hs hphase hr h
  | handlerDecoderClosed result => exact handlerDecoderClosed_served hs h
  | senderCancel =>
    simp only [step] at h
    split_ifs at h
    obtain ⟨r, hr, h⟩ := Option.bind_eq_some_iff.mp h
    obtain ⟨r', hr', rfl⟩ := Option.map_eq_some_iff.mp h
    obtain ⟨_, rfl⟩ := senderCancel_eq hr'
    rintro _ ⟨⟩
    exact (hs r hr).of_same rfl rfl rfl rfl id (hs r hr).exclusive
  | task a =>
    obtain ⟨r, hr, h⟩ := Option.bind_eq_some_iff.mp h
    obtain ⟨r', hr', rfl⟩ := Option.map_eq_some_iff.mp h
    rintro _ ⟨⟩
    cases ha : a.isSender with
    | true =>
      obtain ⟨_, _, _, -, rfl⟩ := step_sender hr' ha
      exact (hs r hr).of_same rfl rfl rfl rfl id (hs r hr).exclusive
    | false =>
      have hfit : c.pc.Fits r := by simpa [Phase, hr] using hphase
      exact (hs r hr).move hfit (sliced hreach hr) hr' ha
  | modelLoaded =>
    cases h
    exact hs

/-- The calls of the active decoder are in order in every reachable state. -/
lemma served_of_reaches (h : (connection env).Reaches {} c) : c.Served := by
  have hinv := StepSystem.invariant (M := connection env)
    (I := fun c => (connection env).Reaches {} c ∧ c.Served)
    (fun s a s' hs hstep => ⟨hs.1.tail hstep, step_served hs.2 hs.1 hstep⟩)
    ⟨StepSystem.Reaches.refl _, by simp [Served]⟩ h
  exact hinv.2

/-! ## The end of a runtime -/

/-- The decoder calls that are in flight: the one of the worker and the one of the handler. -/
def callsInFlight (c : Conn) : List DecoderCall :=
  match c.stream with
  | none => []
  | some r => r.worker.call ++ c.pc.call

/-- An exception keeps the runtime. -/
lemma raise_ne_none (h : c.stream = some r) (e : Exn) : (c.raise e).stream ≠ none := by
  have hbegin : ∀ s k, ({ c with services := s }.beginStop k).stream ≠ none := by
    intro s k
    simp [beginStop, h]
  unfold raise
  split
  · exact hbegin c.services _
  · exact hbegin _ _
  · exact hbegin c.services _
  · exact hbegin _ _

/-- A message keeps the runtime. -/
lemma handle_ne_none (h : c.stream = some r) (e : ClientEvent) :
    (c.handle env e).stream ≠ none := by
  cases e with
  | start config =>
    simp only [handle, h]
    exact raise_ne_none h _
  | audio chunk =>
    simp only [handle, h]
    split
    · exact raise_ne_none h _
    · simp [listen]
  | finalize =>
    simp only [handle, h]
    split_ifs
    · exact raise_ne_none h _
    · simp
  | cancel => simp [handle, h]
  | ping message =>
    simp only [handle, h]
    split
    · simp
    · simp [listen]
  | pong message => simp [handle, listen, h]
  | close => simp [handle, beginStop, h]

/-- The handler drops the runtime after a finalize, and at the end of `stop_runtime`. -/
lemma pc_of_drop (hr : c.stream = some r) (h : c.step env a = some c') (hdrop : c'.stream = none) :
    c.pc = .finalizeAwaitingSender ∨ ∃ k, c.pc = .stoppingSender k := by
  cases a with
  | receive result =>
    simp only [step] at h
    split at h <;> cases h
    exact absurd (hr.symm.trans hdrop) (by simp)
  | wake =>
    exfalso
    simp only [step] at h
    split at h
    · unfold wake at h
      dsimp only at h
      split at h
      · split at h <;> cases h
        · exact absurd hdrop (raise_ne_none (by exact hr) _)
        · exact absurd (hr.symm.trans hdrop) (by simp)
      · split at h <;> cases h
        · exact absurd hdrop (raise_ne_none (by exact hr) _)
        · exact absurd hdrop (raise_ne_none (by exact hr) _)
      · split at h <;> cases h
        · exact absurd hdrop (handle_ne_none (by exact hr) _)
        · exact absurd hdrop (raise_ne_none (by exact hr) _)
    · cases h
  | startedDecoder result =>
    exfalso
    simp only [step] at h
    split at h <;> cases h
    cases result with
    | error e => exact raise_ne_none hr e hdrop
    | ok decoder => cases hdrop
  | handlerSent result =>
    exfalso
    simp only [step, handlerSent] at h
    split at h <;> cases h
    · exact absurd (hr.symm.trans hdrop) (by simp)
    · exact absurd (hr.symm.trans hdrop) (by simp)
    · exact absurd (hr.symm.trans hdrop) (by simp)
    · exact raise_ne_none hr _ hdrop
    · exact raise_ne_none hr _ hdrop
    · exact raise_ne_none hr _ hdrop
    · exact absurd (hr.symm.trans hdrop) (by simp)
  | proceed =>
    obtain ⟨r', hr', h⟩ := Option.bind_eq_some_iff.mp h
    obtain rfl := Option.some.inj (hr.symm.trans hr')
    unfold proceed at h
    split at h
    · split at h <;> cases h
      · exact absurd (hr.symm.trans hdrop) (by simp)
      · exact absurd hdrop (raise_ne_none hr _)
    · split_ifs at h
      cases h
      exact absurd (hr.symm.trans hdrop) (by simp)
    · next hpc => exact Or.inl hpc
    · split_ifs at h
      cases h
      simp [beginStop, hr] at hdrop
    · split_ifs at h
      cases h
      simp [beginStop, hr] at hdrop
    · have hclose : ∀ k, (c.closeDecoder r k).stream ≠ none := by
        intro k
        unfold closeDecoder
        split_ifs <;> simp [hr]
      split at h <;> cases h <;> exact absurd hdrop (hclose _)
    · next k hpc => exact Or.inr ⟨k, hpc⟩
    · cases h
  | handlerDecoderCanceled result =>
    obtain ⟨r', hr', h⟩ := Option.bind_eq_some_iff.mp h
    unfold handlerDecoderCanceled at h
    split at h <;> cases h
    cases hdrop
  | handlerDecoderClosed result =>
    exfalso
    simp only [step, handlerDecoderClosed] at h
    have hraise : ∀ k e, (c.raiseInStop k e).stream ≠ none := by
      intro k e
      unfold raiseInStop
      split_ifs
      · exact raise_ne_none hr e
      · simp [hr]
    split at h <;> cases h
    · exact absurd (hr.symm.trans hdrop) (by simp)
    · exact hraise _ _ hdrop
    · exact hraise _ _ hdrop
  | senderCancel =>
    simp only [step] at h
    split_ifs at h
    obtain ⟨r', hr', h⟩ := Option.bind_eq_some_iff.mp h
    obtain ⟨r'', hr'', rfl⟩ := Option.map_eq_some_iff.mp h
    cases hdrop
  | task a =>
    obtain ⟨r', hr', h⟩ := Option.bind_eq_some_iff.mp h
    obtain ⟨r'', hr'', rfl⟩ := Option.map_eq_some_iff.mp h
    cases hdrop
  | modelLoaded =>
    cases h
    exact absurd (hr.symm.trans hdrop) (by simp)

/-- At most one decoder call is in flight, and it is the last one begun. -/
lemma callsInFlight_of_served (hphase : c.Phase) (hs : c.Served) (hr : c.stream = some r) :
    c.callsInFlight.length ≤ 1 ∧ c.callsInFlight <:+ r.decoderCalls := by
  have hfit : c.pc.Fits r := by simpa [Phase, hr] using hphase
  have hserves := hs r hr
  unfold callsInFlight
  rw [hr]
  dsimp only
  cases hrunning : r.worker.running with
  | true =>
    rw [call_of_running hfit hrunning, List.append_nil]
    refine ⟨?_, hserves.workerCall⟩
    cases r.worker <;> simp [WorkerPc.call]
  | false =>
    rw [WorkerPc.call_of_not_running hrunning, List.nil_append]
    refine ⟨?_, hserves.handlerCall⟩
    cases c.pc <;> simp [HandlerPc.call]

/-- **The calls of a streaming decoder.** The calls begun on the decoder of a stream are pushes,
then at most one `finalize` or `cancel`, then at most one `close`; at most one of them is in flight,
the last one.  A stream without a decoder gets no calls.  When the handler drops the runtime of a
stream with a decoder, or has ended, then the decoder was closed, and no call is in flight. -/
theorem decoder_calls (h : (connection env).Reaches {} c) (hr : c.stream = some r) :
    (CallsInOrder r.decoderCalls [] ∨ CallsInOrder r.decoderCalls [.close]) ∧
      c.callsInFlight.length ≤ 1 ∧ c.callsInFlight <:+ r.decoderCalls ∧
      (r.session.decoderMode = .rollingWindow → r.decoderCalls = []) ∧
      ((c.pc = .finished ∨ ∃ a c', c.step env a = some c' ∧ c'.stream = none) →
        r.session.decoderMode = .stateful →
          CallsInOrder r.decoderCalls [.close] ∧ c.callsInFlight = []) := by
  have hphase := phase_of_reaches h
  have hserved := served_of_reaches h
  have hserves := hserved r hr
  have hfit : c.pc.Fits r := by simpa [Phase, hr] using hphase
  obtain ⟨hone, hlast⟩ := callsInFlight_of_served hphase hserved hr
  refine ⟨?_, hone, hlast, fun hrolling => (hserves.rolling hrolling).2, fun hend hstateful => ?_⟩
  · cases hdecoder : r.streamingDecoder with
    | true =>
      rcases hserves.owned hdecoder with hpushing | hfinalizing
      · exact Or.inl (hpushing.calls.open_inOrder (by simp))
      · exact Or.inl (hfinalizing.calls.open_inOrder (by simp))
    | false =>
      cases hmode : r.session.decoderMode with
      | rollingWindow =>
        rw [(hserves.rolling hmode).2]
        exact Or.inl (CallHistory.start.open_inOrder (by simp))
      | stateful =>
        have hhistory := hserves.released hdecoder hmode
        cases hstage : c.pc.releasedStage with
        | closed => exact Or.inr (hstage ▸ hhistory).closed_inOrder
        | pushing | ended => exact Or.inl ((hstage ▸ hhistory).open_inOrder (by simp))
  · have hreleased : r.streamingDecoder = false ∧ c.pc.releasedStage = .closed ∧ c.pc.call = [] ∧
        r.worker.running = false := by
      have hpc : c.pc = .finished ∨ c.pc = .finalizeAwaitingSender ∨
          ∃ k, c.pc = .stoppingSender k := by
        rcases hend with hpc | ⟨a, c', hstep, hdrop⟩
        · exact Or.inl hpc
        · exact Or.inr (pc_of_drop hr hstep hdrop)
      rcases hpc with hpc | hpc | ⟨k, hpc⟩
      · rw [hpc] at hfit hserves ⊢
        exact ⟨hserves.position rfl, rfl, rfl, hfit.2⟩
      · rw [hpc] at hfit hserves ⊢
        exact ⟨hserves.finalized rfl hfit.2.2, rfl, rfl, by rw [hfit.2.2]; rfl⟩
      · rw [hpc] at hfit hserves ⊢
        exact ⟨hserves.position rfl, rfl, rfl, hfit.2⟩
    obtain ⟨hdecoder, hstage, hcall, hrunning⟩ := hreleased
    refine ⟨(hstage ▸ hserves.released hdecoder hstateful).closed_inOrder, ?_⟩
    rw [callsInFlight, hr]
    show r.worker.call ++ c.pc.call = []
    rw [hcall, WorkerPc.call_of_not_running hrunning, List.nil_append]

/-- A stream with a decoder, a chunk and its interim result, and a close up to the end of
`stop_runtime`. -/
def closeWithDecoder : List Act :=
  openStream plainStart true ++ deliver (.audio twoMs) ++
    [.task .workerWake, .task (.pushed (.ok (some wordTranscript)))] ++ deliver .close ++
    [.task .workerWake, .proceed, .handlerDecoderClosed (.ok ()), .senderCancel]

/-- The decoder was pushed into and closed when the runtime is dropped. -/
theorem decoder_calls_closeWithDecoder :
    ∃ c r, (connection defaultEnv).run {} closeWithDecoder = some c ∧ c.stream = some r ∧
      r.decoderCalls = [.pushAudio twoMs, .close] ∧ CallsInOrder r.decoderCalls [.close] ∧
      c.callsInFlight = [] := by
  have hrun : ∃ c r c', (connection defaultEnv).run {} closeWithDecoder = some c ∧
      c.stream = some r ∧ r.decoderCalls = [.pushAudio twoMs, .close] ∧
      r.session.decoderMode = .stateful ∧ c.step defaultEnv .proceed = some c' ∧
      c'.stream = none :=
    ⟨_, _, _, rfl, rfl, rfl, rfl, rfl, rfl⟩
  obtain ⟨c, r, c', hrun, hr, hcalls, hstateful, hstep, hdrop⟩ := hrun
  have hend := (decoder_calls ⟨closeWithDecoder, hrun⟩ hr).2.2.2.2
    (Or.inr ⟨.proceed, c', hstep, hdrop⟩) hstateful
  exact ⟨c, r, hrun, hr, hcalls, hend⟩

end Conn
end RtcAsr
