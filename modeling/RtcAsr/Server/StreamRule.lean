import RtcAsr.Server.Connection

/-!
# The stream of a connection over a run

A property of every stream follows from two facts: a started stream has it, and no change of a
stream loses it (`Conn.stream_invariant`).  `StreamRuntime.Change` lists the changes: the steps of
the worker and of the sender, and what the handler does to a stream, under the conditions the
handler's position implies.  Those conditions are the invariant `Conn.Phase`.

`StreamRuntime.Frame` collects what the tasks of a stream never touch.
-/

namespace RtcAsr

/-! ## What the tasks leave alone -/

namespace StreamRuntime

/-- What no step of the worker or of the sender changes. -/
structure Frame (r r' : StreamRuntime) : Prop where
  finalizeRequested : r'.finalizeRequested = r.finalizeRequested
  cancelRequested : r'.cancelRequested = r.cancelRequested
  accepted : r'.accepted = r.accepted
  audioBuffer : r'.session.audioBuffer = r.session.audioBuffer
  chunksReceived : r'.session.chunksReceived = r.session.chunksReceived
  streamId : r'.session.streamId = r.session.streamId
  language : r'.session.language = r.session.language
  sampleRate : r'.session.sampleRate = r.session.sampleRate
  partialWindowBytes : r'.session.partialWindowBytes = r.session.partialWindowBytes
  decoderMode : r'.session.decoderMode = r.session.decoderMode

/-- What two steps in a row leave alone. -/
lemma Frame.trans {r s t : StreamRuntime} (h : Frame r s) (h' : Frame s t) : Frame r t where
  finalizeRequested := h'.finalizeRequested.trans h.finalizeRequested
  cancelRequested := h'.cancelRequested.trans h.cancelRequested
  accepted := h'.accepted.trans h.accepted
  audioBuffer := h'.audioBuffer.trans h.audioBuffer
  chunksReceived := h'.chunksReceived.trans h.chunksReceived
  streamId := h'.streamId.trans h.streamId
  language := h'.language.trans h.language
  sampleRate := h'.sampleRate.trans h.sampleRate
  partialWindowBytes := h'.partialWindowBytes.trans h.partialWindowBytes
  decoderMode := h'.decoderMode.trans h.decoderMode

/-- The event of a transcript: either its validators refuse it and the worker ends, or it is
enqueued. -/
lemma emitTranscript_cases (r : StreamRuntime) (result : Transcript) (isFinal : Bool) (n : ℕ) :
    (∃ e, r.emitTranscript result isFinal n =
      { r with session := r.session.nextTranscriptRevision, worker := .raised (.builtin e) }) ∨
    r.emitTranscript result isFinal n =
      (enqueueEvent { r with session := r.session.nextTranscriptRevision }
        (.transcript (transcriptEventOf r.session.nextTranscriptRevision result isFinal
          n))).afterEmit isFinal := by
  unfold emitTranscript localSttTranscriptEvent
  dsimp only
  split_ifs
  · exact Or.inl ⟨_, rfl⟩
  · exact Or.inr rfl

/-- The event is enqueued when it is about no more audio than the buffer holds. -/
lemma emitTranscript_eq (r : StreamRuntime) (result : Transcript) (isFinal : Bool) {n : ℕ}
    (h : n ≤ r.session.audioBuffer.length) :
    r.emitTranscript result isFinal n =
      (enqueueEvent { r with session := r.session.nextTranscriptRevision }
        (.transcript (transcriptEventOf r.session.nextTranscriptRevision result isFinal
          n))).afterEmit isFinal := by
  rw [emitTranscript, localSttTranscriptEvent_eq r.session result isFinal h]

/-- The stability count changes two fields of the session. -/
lemma recordTranscriptStability_eq (casefold : String → String) (s : StreamSession)
    (transcript : Transcript) :
    ∃ text count, s.recordTranscriptStability casefold transcript =
      { s with stablePartialText := text, stablePartialCount := count } := by
  unfold StreamSession.recordTranscriptStability
  split
  · exact ⟨_, _, rfl⟩
  · split_ifs
    · exact ⟨_, _, rfl⟩
    · exact ⟨_, _, rfl⟩

lemma emitTranscript_frame (r : StreamRuntime) (result : Transcript) (isFinal : Bool) (n : ℕ) :
    Frame r (r.emitTranscript result isFinal n) := by
  obtain ⟨e, h⟩ | h := emitTranscript_cases r result isFinal n
  · rw [h]
    constructor <;> rfl
  · rw [h, afterEmit]
    split_ifs <;> constructor <;> rfl

lemma finishFinal_frame (r : StreamRuntime) (finalAudio : Bytes) (result : Transcript) :
    Frame r (r.finishFinal finalAudio result) := by
  unfold finishFinal
  dsimp only
  split_ifs
  · constructor <;> rfl
  · exact Frame.trans (by constructor <;> rfl) (emitTranscript_frame _ _ _ _)

lemma startFinal_frame (r : StreamRuntime) : Frame r r.startFinal := by
  unfold startFinal
  dsimp only
  split_ifs
  · constructor <;> rfl
  · constructor <;> rfl
  · split
    · exact finishFinal_frame r _ _
    · constructor <;> rfl

lemma afterPartial_frame (env : ServerEnv) (r : StreamRuntime) (snap : Snapshot)
    (partialResult : Option Transcript) : Frame r (r.afterPartial env snap partialResult) := by
  unfold afterPartial
  dsimp only
  split
  · constructor <;> rfl
  · cases partialResult with
    | none => constructor <;> rfl
    | some result =>
      dsimp only
      split
      · split_ifs <;> constructor <;> rfl
      · obtain ⟨text, count, hs⟩ := recordTranscriptStability_eq env.casefold
          (r.session.recordPartial result snap.chunksReceived snap.audioReceivedMs) result
        rw [hs]
        split
        · constructor <;> rfl
        · exact Frame.trans (by constructor <;> rfl) (emitTranscript_frame _ _ _ _)

lemma startPartial_frame (env : ServerEnv) (r : StreamRuntime) :
    Frame r (r.startPartial env) := by
  unfold startPartial
  dsimp only
  split_ifs
  · exact Frame.trans (by constructor <;> rfl) (afterPartial_frame env _ _ _)
  · constructor <;> rfl
  · constructor <;> rfl

lemma workerWake_frame (env : ServerEnv) (r : StreamRuntime) : Frame r (r.workerWake env) := by
  unfold workerWake
  dsimp only
  split_ifs
  · constructor <;> rfl
  · constructor <;> rfl
  · exact Frame.trans (by constructor <;> rfl) (startFinal_frame _)
  · constructor <;> rfl
  · exact Frame.trans (by constructor <;> rfl) (startPartial_frame env _)

/-- No task changes what `Frame` lists. -/
theorem step_frame {env : ServerEnv} {r r' : StreamRuntime} {a : StreamAct}
    (h : r.step env a = some r') : Frame r r' := by
  cases a with
  | workerWake =>
    simp only [step] at h
    split at h
    · split_ifs at h
      exact Option.some.inj h ▸ workerWake_frame env r
    · cases h
  | transcribed result =>
    simp only [step, transcribed] at h
    split at h <;> cases h
    · exact afterPartial_frame env r _ _
    · exact finishFinal_frame r _ _
    · constructor <;> rfl
    · constructor <;> rfl
  | pushed result =>
    simp only [step, pushed] at h
    split at h <;> cases h
    · exact Frame.trans (by constructor <;> rfl) (afterPartial_frame env _ _ _)
    · constructor <;> rfl
    · constructor <;> rfl
    · constructor <;> rfl
  | decoderFinalized result =>
    simp only [step, decoderFinalized] at h
    split at h <;> cases h <;> constructor <;> rfl
  | decoderClosed result =>
    simp only [step, decoderClosed] at h
    split at h <;> cases h
    · exact finishFinal_frame r _ _
    · constructor <;> rfl
  | senderTake =>
    simp only [step, senderTake] at h
    split at h <;> cases h
    constructor <;> rfl
  | senderSent result =>
    simp only [step, senderSent] at h
    split at h <;> cases h <;> constructor <;> rfl
  | senderExit =>
    simp only [step, senderExit] at h
    split at h
    · split_ifs at h
      cases h
      constructor <;> rfl
    · cases h

end StreamRuntime

/-! ## What a worker step does to the queue -/

/-- The part of a runtime that decides what is written: the queue with its count, the sender, the
flags and the revisions. -/
structure QueueView where
  events : List Event
  unfinished : ℕ
  sender : SenderPc
  finalEmitted : Bool
  closed : Bool
  canceled : Bool
  streamId : ℕ
  revision : ℕ

/-- The queue of a runtime. -/
def StreamRuntime.queue (r : StreamRuntime) : QueueView where
  events := r.outgoingEvents
  unfinished := r.unfinishedEvents
  sender := r.sender
  finalEmitted := r.finalEmitted
  closed := r.closed
  canceled := r.cancelRequested
  streamId := r.session.streamId
  revision := r.session.transcriptRevision

/-- The queue after a transcript event was enqueued. -/
def QueueView.emit (q : QueueView) (event : TranscriptEvent) : QueueView :=
  { q with
    events := q.events ++ [.transcript event]
    unfinished := q.unfinished + 1
    finalEmitted := event.isFinal || q.finalEmitted
    closed := event.isFinal || q.closed
    revision := q.revision + 1 }

/-- A worker step that starts with the queue `q` ends with `q'` and the worker at `w`. -/
inductive Emission (q q' : QueueView) (w : WorkerPc) : Prop
  /-- Nothing is emitted; the worker returns only when it was told to stop. -/
  | quiet (heq : q' = q) (hw : w ≠ .absent)
      (hstop : w = .returned → q.canceled = true ∨ q.finalEmitted = true ∨ q.closed = true)
  /-- The event is refused by its own validators. -/
  | refused (e : PyError) (heq : q' = { q with revision := q.revision + 1 })
      (hw : w = .raised (.builtin e))
  /-- The next transcript of the stream. -/
  | emitted (event : TranscriptEvent) (hcanceled : q.canceled = false) (hclosed : q.closed = false)
      (hid : event.streamId = q.streamId) (hrevision : event.revision = q.revision + 1)
      (heq : q' = q.emit event) (hw : w = if event.isFinal = true then .returned else .waiting)

namespace StreamRuntime

/-- The emission of a runtime that becomes `r'`. -/
def Emits (r r' : StreamRuntime) : Prop := Emission r.queue r'.queue r'.worker

lemma emitTranscript_emits {r : StreamRuntime} {q : QueueView} (hq : r.queue = q)
    (result : Transcript) (isFinal : Bool) (n : ℕ)
    (hcanceled : q.canceled = false) (hclosed : q.closed = false) :
    Emission q (r.emitTranscript result isFinal n).queue
      (r.emitTranscript result isFinal n).worker := by
  subst hq
  obtain ⟨e, h⟩ | h := emitTranscript_cases r result isFinal n
  · rw [h]
    exact .refused e rfl rfl
  · rw [h]
    cases isFinal with
    | true => exact .emitted _ hcanceled hclosed rfl rfl rfl rfl
    | false => exact .emitted _ hcanceled hclosed rfl rfl rfl rfl

lemma finishFinal_emits (r : StreamRuntime) (finalAudio : Bytes) (result : Transcript) :
    Emits r (r.finishFinal finalAudio result) := by
  unfold finishFinal
  dsimp only
  split_ifs with hstop
  · exact .quiet rfl (by simp) fun _ => hstop.imp_right Or.inr
  · rw [not_or, Bool.not_eq_true, Bool.not_eq_true] at hstop
    refine emitTranscript_emits ?_ _ _ _ hstop.1 hstop.2
    rfl

lemma startFinal_emits (r : StreamRuntime) : Emits r r.startFinal := by
  unfold startFinal
  dsimp only
  split_ifs
  · exact .quiet rfl (by simp [callFinalize]) (by simp [callFinalize])
  · exact .quiet rfl (by simp) (by simp)
  · split
    · exact finishFinal_emits r _ _
    · exact .quiet rfl (by simp) (by simp)

lemma afterPartial_emits (env : ServerEnv) (r : StreamRuntime) (snap : Snapshot)
    (partialResult : Option Transcript) : Emits r (r.afterPartial env snap partialResult) := by
  unfold afterPartial
  dsimp only
  split
  · next hstop => exact .quiet rfl (by simp) fun _ => hstop
  · next hstop =>
    simp only [not_or, Bool.not_eq_true] at hstop
    cases partialResult with
    | none => exact .quiet rfl (by simp [waitAgain]) (by simp [waitAgain])
    | some result =>
      dsimp only
      split
      · split_ifs
        · exact .quiet rfl (by simp) (by simp)
        · exact .quiet rfl (by simp) (by simp)
      · obtain ⟨text, count, hs⟩ := recordTranscriptStability_eq env.casefold
          (r.session.recordPartial result snap.chunksReceived snap.audioReceivedMs) result
        rw [hs]
        split
        · exact .quiet rfl (by simp [waitAgain]) (by simp [waitAgain])
        · refine emitTranscript_emits ?_ _ _ _ hstop.1 hstop.2.2
          rfl

lemma startPartial_emits (env : ServerEnv) (r : StreamRuntime) : Emits r (r.startPartial env) := by
  unfold startPartial
  dsimp only
  split_ifs
  · exact afterPartial_emits env { r with dirty := false, partialDecodeStarted := true } _ _
  · exact .quiet rfl (by simp) (by simp)
  · exact .quiet rfl (by simp) (by simp)

lemma workerWake_emits (env : ServerEnv) (r : StreamRuntime) : Emits r (r.workerWake env) := by
  unfold workerWake
  dsimp only
  split_ifs with hcancel hstop
  · exact .quiet rfl (by simp) fun _ => Or.inl hcancel
  · exact .quiet rfl (by simp) fun _ => Or.inr hstop
  · exact startFinal_emits { r with audioUpdated := false }
  · exact .quiet rfl (by simp) (by simp)
  · exact startPartial_emits env { r with audioUpdated := false }

lemma workerRaise_emits (r : StreamRuntime) (e : Exn) : Emits r (r.workerRaise e) :=
  .quiet rfl (by simp [workerRaise]) (by simp [workerRaise])

end StreamRuntime

/-- The steps of the sender. -/
def StreamAct.isSender : StreamAct → Bool
  | .senderTake => true
  | .senderSent _ => true
  | .senderExit => true
  | _ => false

/-- The worker task exists and is not done. -/
def WorkerPc.running : WorkerPc → Bool
  | .absent => false
  | .returned => false
  | .raised _ => false
  | _ => true

namespace StreamRuntime

/-- A step that is not the sender's is one of a running worker, and an emission. -/
theorem step_emits {env : ServerEnv} {r r' : StreamRuntime} {a : StreamAct}
    (h : r.step env a = some r') (ha : a.isSender = false) :
    r.worker.running = true ∧ Emits r r' := by
  cases a with
  | workerWake =>
    simp only [step] at h
    split at h
    · next hw =>
      split_ifs at h
      exact ⟨by rw [hw]; rfl, Option.some.inj h ▸ workerWake_emits env r⟩
    · cases h
  | transcribed result =>
    simp only [step, transcribed] at h
    split at h <;> cases h
    · next hw => exact ⟨by rw [hw]; rfl, afterPartial_emits env r _ _⟩
    · next hw => exact ⟨by rw [hw]; rfl, finishFinal_emits r _ _⟩
    · next hw => exact ⟨by rw [hw]; rfl, workerRaise_emits r _⟩
    · next hw => exact ⟨by rw [hw]; rfl, workerRaise_emits r _⟩
  | pushed result =>
    simp only [step, pushed] at h
    split at h <;> cases h
    · next hw => exact ⟨by rw [hw]; rfl, afterPartial_emits env (r.advance _) _ _⟩
    · next hw =>
      exact ⟨by rw [hw]; rfl, .quiet rfl (by simp [callFinalize]) (by simp [callFinalize])⟩
    · next hw => exact ⟨by rw [hw]; rfl, workerRaise_emits r _⟩
    · next hw => exact ⟨by rw [hw]; rfl, workerRaise_emits r _⟩
  | decoderFinalized result =>
    simp only [step, decoderFinalized] at h
    split at h <;> cases h
    · next hw => exact ⟨by rw [hw]; rfl, .quiet rfl (by simp) (by simp)⟩
    · next hw => exact ⟨by rw [hw]; rfl, workerRaise_emits r _⟩
  | decoderClosed result =>
    simp only [step, decoderClosed] at h
    split at h <;> cases h
    · next hw => exact ⟨by rw [hw]; rfl, finishFinal_emits r _ _⟩
    · next hw => exact ⟨by rw [hw]; rfl, workerRaise_emits r _⟩
  | senderTake => cases ha
  | senderSent result => cases ha
  | senderExit => cases ha

/-- A step of the sender touches the queue, its count and the sender only. -/
lemma step_sender {env : ServerEnv} {r r' : StreamRuntime} {a : StreamAct}
    (h : r.step env a = some r') (ha : a.isSender = true) :
    ∃ events unfinished sender, sender ≠ .absent ∧ r' =
      { r with outgoingEvents := events, unfinishedEvents := unfinished, sender := sender } := by
  cases a with
  | senderTake =>
    simp only [step, senderTake] at h
    split at h <;> cases h
    exact ⟨_, _, _, by simp, rfl⟩
  | senderSent result =>
    simp only [step, senderSent] at h
    split at h <;> cases h
    · exact ⟨_, _, _, by split_ifs <;> simp, rfl⟩
    · exact ⟨_, _, _, by simp, rfl⟩
  | senderExit =>
    simp only [step, senderExit] at h
    split at h
    · split_ifs at h
      cases h
      exact ⟨_, _, _, by simp, rfl⟩
    · cases h
  | _ => cases ha

/-- The cancellation of the sender touches the sender and the count only. -/
lemma senderCancel_eq {r r' : StreamRuntime} (h : r.senderCancel = some r') :
    ∃ unfinished, r' = { r with sender := .cancelled, unfinishedEvents := unfinished } := by
  unfold senderCancel at h
  split at h <;> cases h
  · exact ⟨_, rfl⟩
  · exact ⟨_, rfl⟩

/-! ## Streams in use -/

/-- A stream whose tasks were not started. -/
def Fresh (r : StreamRuntime) : Prop := r = { session := r.session }

/-- A started stream the handler has neither cancelled nor closed: only its final transcript has
ended it. -/
structure Active (r : StreamRuntime) : Prop where
  started : r.worker ≠ .absent
  senderStarted : r.sender ≠ .absent
  kept : r.cancelRequested = false
  closed_eq : r.closed = r.finalEmitted
  returned_iff : r.worker = .returned ↔ r.finalEmitted = true

/-- A cancelled stream that is still open. -/
structure Canceling (r : StreamRuntime) : Prop where
  started : r.worker ≠ .absent
  canceled : r.cancelRequested = true
  notFinal : r.finalEmitted = false
  notClosed : r.closed = false

variable {env : ServerEnv} {r r' : StreamRuntime} {a : StreamAct}

lemma Active.notFinal (hr : Active r) (h : r.worker ≠ .returned) : r.finalEmitted = false :=
  Bool.eq_false_iff.mpr fun hf => h (hr.returned_iff.mpr hf)

lemma Active.notClosed (hr : Active r) (h : r.worker ≠ .returned) : r.closed = false :=
  hr.closed_eq.trans (hr.notFinal h)

/-- A worker step leaves the sender alone. -/
lemma Emits.sender (h : Emits r r') : r'.sender = r.sender := by
  cases h with
  | quiet heq => exact congrArg QueueView.sender heq
  | refused _ heq => exact congrArg QueueView.sender heq
  | emitted _ _ _ _ _ heq => exact congrArg QueueView.sender heq

/-- The tasks keep a stream active. -/
theorem Active.step (hr : Active r) (h : r.step env a = some r') : Active r' := by
  cases ha : a.isSender with
  | true =>
    obtain ⟨_, _, _, hsender, rfl⟩ := step_sender h ha
    exact ⟨hr.started, hsender, hr.kept, hr.closed_eq, hr.returned_iff⟩
  | false =>
    obtain ⟨hrun, hemits⟩ := step_emits h ha
    have hw : r.worker ≠ .returned := fun hw => by rw [hw] at hrun; cases hrun
    have hkept : r'.cancelRequested = false := (step_frame h).cancelRequested.trans hr.kept
    have hfinal := hr.notFinal hw
    have hclosed := hr.notClosed hw
    have hsender : r'.sender ≠ .absent := (hemits.sender).symm ▸ hr.senderStarted
    cases hemits with
    | quiet heq hw' hstop =>
      have hfinal' : r'.finalEmitted = false := (congrArg QueueView.finalEmitted heq).trans hfinal
      have hclosed' : r'.closed = false := (congrArg QueueView.closed heq).trans hclosed
      refine ⟨hw', hsender, hkept, by rw [hclosed', hfinal'], ?_⟩
      rw [hfinal']
      refine ⟨fun hret => ?_, by simp⟩
      simpa [StreamRuntime.queue, hr.kept, hfinal, hclosed] using hstop hret
    | refused e heq hw' =>
      have hfinal' : r'.finalEmitted = false := (congrArg QueueView.finalEmitted heq).trans hfinal
      have hclosed' : r'.closed = false := (congrArg QueueView.closed heq).trans hclosed
      refine ⟨by simp [hw'], hsender, hkept, by rw [hclosed', hfinal'], by simp [hw', hfinal']⟩
    | emitted event _ _ _ _ heq hw' =>
      have hfinal' : r'.finalEmitted = (event.isFinal || r.finalEmitted) :=
        congrArg QueueView.finalEmitted heq
      have hclosed' : r'.closed = (event.isFinal || r.closed) := congrArg QueueView.closed heq
      refine ⟨?_, hsender, hkept, by rw [hclosed', hfinal', hclosed, hfinal], ?_⟩
      · rw [hw']
        split_ifs <;> simp
      · rw [hw', hfinal', hfinal]
        cases event.isFinal <;> simp

/-- The tasks leave a cancelled stream open. -/
theorem Canceling.step (hr : Canceling r) (h : r.step env a = some r') : Canceling r' := by
  cases ha : a.isSender with
  | true =>
    obtain ⟨_, _, _, -, rfl⟩ := step_sender h ha
    exact ⟨hr.started, hr.canceled, hr.notFinal, hr.notClosed⟩
  | false =>
    obtain ⟨-, hemits⟩ := step_emits h ha
    have hcanceled : r'.cancelRequested = true :=
      (step_frame h).cancelRequested.trans hr.canceled
    cases hemits with
    | quiet heq hw' _ =>
      exact ⟨hw', hcanceled, (congrArg QueueView.finalEmitted heq).trans hr.notFinal,
        (congrArg QueueView.closed heq).trans hr.notClosed⟩
    | refused e heq hw' =>
      exact ⟨by simp [hw'], hcanceled, (congrArg QueueView.finalEmitted heq).trans hr.notFinal,
        (congrArg QueueView.closed heq).trans hr.notClosed⟩
    | emitted event hkept => exact absurd (hr.canceled.symm.trans hkept) (by simp)

/-! ## The changes of a stream -/

/-- What can happen to a stream in one step of its connection: a step of a task that meets `Q`, the
cancellation of the sender, and the acts of the handler. -/
inductive Change (env : ServerEnv) (Q : StreamRuntime → StreamAct → Prop) :
    StreamRuntime → StreamRuntime → Prop
  | task {r r' : StreamRuntime} {a : StreamAct} (hQ : Q r a) (h : r.step env a = some r') :
    Change env Q r r'
  | senderCancel {r r' : StreamRuntime} (h : r.senderCancel = some r') : Change env Q r r'
  | startTasks {r : StreamRuntime} (decoder : Bool) (hr : Fresh r) :
    Change env Q r (r.startTasks decoder)
  | appendAudio {r : StreamRuntime} {session : StreamSession} {chunk : Bytes} (hr : Active r)
    (hlisten : r.finalizeRequested = false) (hw : r.worker ≠ .returned)
    (h : r.session.appendAudio chunk = .ok session) :
    Change env Q r (r.appendAudio session chunk)
  | pong {r : StreamRuntime} (hr : Active r) (message : Heartbeat) :
    Change env Q r (r.enqueueEvent (.pong message))
  | requestFinalize {r : StreamRuntime} (hr : Active r) (hlisten : r.finalizeRequested = false)
    (hw : r.worker ≠ .returned) : Change env Q r r.requestFinalize
  | cancel {r : StreamRuntime} (hr : Active r) (hlisten : r.finalizeRequested = false)
    (hw : r.worker ≠ .returned) :
    Change env Q r
      (r.requestCancel.enqueueEvent
        (.canceled (localSttCancelWarningEvent r.requestCancel.session)))
  | close {r : StreamRuntime} : Change env Q r r.close
  | dropDecoder {r : StreamRuntime} {call : DecoderCall} (hcall : call = .cancel ∨ call = .close)
    (hw : r.worker.running = false) (hclosed : r.closed = true) :
    Change env Q r (r.dropDecoder call)
  | callClose {r : StreamRuntime} (hw : r.worker.running = false) (hclosed : r.closed = true) :
    Change env Q r r.callClose

/-- What can happen to the stream of a connection in one step: nothing, its end, its start, or a
change. -/
inductive Evolves (env : ServerEnv) (Q : StreamRuntime → StreamAct → Prop) :
    Option StreamRuntime → Option StreamRuntime → Prop
  | same (s : Option StreamRuntime) : Evolves env Q s s
  | drop (s : Option StreamRuntime) : Evolves env Q s none
  | start {config : LocalSttStartConfig} {streamMaxBufferBytes streamId : ℕ}
    {session : StreamSession}
    (h : createLocalSttStreamSession config streamMaxBufferBytes streamId = .ok session) :
    Evolves env Q none (some { session := session })
  | change {r r' : StreamRuntime} (h : Change env Q r r') : Evolves env Q (some r) (some r')

end StreamRuntime

/-! ## The position of the handler -/

/-- What the position of the handler says about the active stream. -/
def HandlerPc.Fits : HandlerPc → StreamRuntime → Prop
  | .waiting, r => r.Active ∧ r.finalizeRequested = false
  | .startingDecoder, r => r.Fresh
  | .sendingReady, r => r.Active ∧ r.finalizeRequested = false
  | .finalizeAwaitingWorker, r => r.Active ∧ r.finalizeRequested = true
  | .finalizeJoining, r => r.Active ∧ r.finalizeRequested = true ∧ r.worker = .returned
  | .finalizeAwaitingSender, r => r.Active ∧ r.finalizeRequested = true ∧ r.worker = .returned
  | .autoFinalJoining, r => r.Active ∧ r.finalizeRequested = false ∧ r.worker = .returned
  | .cancelJoining, r => r.Canceling ∧ r.finalizeRequested = false
  | .stoppingWorker _, r => r.closed = true
  | .cancellingDecoder _, r => r.closed = true ∧ r.worker.running = false
  | .closingDecoder _ _, r => r.closed = true ∧ r.worker.running = false
  | .stoppingSender _, r => r.closed = true ∧ r.worker.running = false
  | .sendingPong, _ => False
  | .sendingClosed, _ => False
  | .sendingError, _ => False
  | .finished, r => r.closed = true ∧ r.worker.running = false

/-- The positions of the handler without an active stream. -/
def HandlerPc.Idle : HandlerPc → Prop
  | .waiting => True
  | .sendingPong => True
  | .sendingClosed => True
  | .sendingError => True
  | .finished => True
  | _ => False

namespace Conn

/-- The position of the handler fits the stream. -/
def Phase (c : Conn) : Prop :=
  match c.stream with
  | none => c.pc.Idle
  | some r => c.pc.Fits r

/-- A step of the connection that keeps the handler in place and makes its stream evolve. -/
structure Moves (env : ServerEnv) (Q : StreamRuntime → StreamAct → Prop)
    (s : Option StreamRuntime) (c' : Conn) : Prop where
  phase : c'.Phase
  evolves : StreamRuntime.Evolves env Q s c'.stream

variable {env : ServerEnv} {Q : StreamRuntime → StreamAct → Prop} {c : Conn}
  {s : Option StreamRuntime}

lemma afterStop_moves (c : Conn) (k : AfterStop) (s : Option StreamRuntime) :
    Moves env Q s (c.afterStop k) := by
  cases k <;> exact ⟨trivial, .drop s⟩

lemma beginStop_moves (hs : c.stream = s) (k : AfterStop) : Moves env Q s (c.beginStop k) := by
  unfold beginStop
  subst hs
  split
  · exact afterStop_moves c k _
  · next r hr => exact ⟨rfl, hr ▸ .change .close⟩

lemma raise_moves (hs : c.stream = s) (e : Exn) : Moves env Q s (c.raise e) := by
  unfold raise
  split
  · exact beginStop_moves hs _
  · refine beginStop_moves ?_ _
    exact hs
  · exact beginStop_moves hs _
  · refine beginStop_moves ?_ _
    exact hs

lemma listen_moves (hr : ∀ r, c.stream = some r → r.Active ∧ r.finalizeRequested = false)
    (hevolves : StreamRuntime.Evolves env Q s c.stream) : Moves env Q s c.listen := by
  refine ⟨?_, hevolves⟩
  cases hs : c.stream with
  | none => simp [Phase, listen, hs, HandlerPc.Idle]
  | some r => simpa [Phase, listen, hs, HandlerPc.Fits] using hr r hs

/-- The handler acts on a message while the worker is not done. -/
lemma handle_moves (hphase : c.Phase) (hpc : c.pc = .waiting)
    (hw : ∀ r, c.stream = some r → r.worker ≠ .returned) (e : ClientEvent) :
    Moves env Q c.stream (c.handle env e) := by
  have hfit : ∀ r, c.stream = some r → r.Active ∧ r.finalizeRequested = false := by
    intro r hr
    simpa [Phase, hr, hpc, HandlerPc.Fits] using hphase
  cases e with
  | start config =>
    simp only [handle]
    split
    · exact raise_moves rfl _
    · next hnone =>
      split
      · exact raise_moves rfl _
      · next session hsession => exact ⟨rfl, hnone ▸ .start hsession⟩
  | audio chunk =>
    simp only [handle]
    split
    · exact raise_moves rfl _
    · next r hr =>
      obtain ⟨hactive, hlisten⟩ := hfit r hr
      split
      · exact raise_moves rfl _
      · next session hsession =>
        refine listen_moves ?_ (hr ▸ .change (.appendAudio hactive hlisten (hw r hr) hsession))
        rintro _ ⟨⟩
        exact ⟨⟨hactive.started, hactive.senderStarted, hactive.kept, hactive.closed_eq,
          hactive.returned_iff⟩, hlisten⟩
  | finalize =>
    simp only [handle]
    split
    · exact raise_moves rfl _
    · next r hr =>
      obtain ⟨hactive, hlisten⟩ := hfit r hr
      split_ifs
      · exact raise_moves rfl _
      · exact ⟨⟨⟨hactive.started, hactive.senderStarted, hactive.kept, hactive.closed_eq,
          hactive.returned_iff⟩, rfl⟩, hr ▸ .change (.requestFinalize hactive hlisten (hw r hr))⟩
  | cancel =>
    simp only [handle]
    split
    · exact raise_moves rfl _
    · next r hr =>
      obtain ⟨hactive, hlisten⟩ := hfit r hr
      exact ⟨⟨⟨hactive.started, rfl, hactive.notFinal (hw r hr), hactive.notClosed (hw r hr)⟩,
        hlisten⟩, hr ▸ .change (.cancel hactive hlisten (hw r hr))⟩
  | ping message =>
    simp only [handle]
    split
    · next r hr =>
      obtain ⟨hactive, hlisten⟩ := hfit r hr
      split
      · next hsender => exact absurd hsender hactive.senderStarted
      · refine listen_moves ?_ (hr ▸ .change (.pong hactive message))
        rintro _ ⟨⟩
        exact ⟨⟨hactive.started, hactive.senderStarted, hactive.kept, hactive.closed_eq,
          hactive.returned_iff⟩, hlisten⟩
    · next hnone =>
      refine ⟨?_, hnone ▸ .same none⟩
      simp [Phase, hnone, HandlerPc.Idle]
  | pong message => exact listen_moves hfit (.same _)
  | close => exact beginStop_moves rfl _

lemma wake_moves {c' : Conn} (hphase : c.Phase) (hpc : c.pc = .waiting)
    (h : c.wake env = some c') : Moves env Q c.stream c' := by
  unfold wake at h
  dsimp only at h
  have hdone : ∀ w, c.stream.map StreamRuntime.worker = some w →
      ∃ r, c.stream = some r ∧ r.worker = w := by
    intro w hw
    cases hs : c.stream with
    | none => simp [hs] at hw
    | some r => exact ⟨r, rfl, by simpa [hs] using hw⟩
  split at h
  · next hw =>
    obtain ⟨r, hr, hreturned⟩ := hdone _ hw
    split at h <;> cases h
    · refine raise_moves ?_ _
      rfl
    · have hfit : r.Active ∧ r.finalizeRequested = false := by
        simpa [Phase, hr, hpc, HandlerPc.Fits] using hphase
      refine ⟨?_, .same _⟩
      simpa [Phase, hr, HandlerPc.Fits] using ⟨hfit.1, hfit.2, hreturned⟩
  · split at h <;> cases h
    · refine raise_moves ?_ _
      rfl
    · refine raise_moves ?_ _
      rfl
  · next hreturned _ =>
    split at h <;> cases h
    · refine handle_moves (c := { c with receive := .absent, handled := _ }) hphase hpc ?_ _
      intro r hr hw
      exact hreturned (by rw [show c.stream = some r from hr]; exact congrArg some hw)
    · refine raise_moves ?_ _
      rfl

lemma startedDecoder_moves {r : StreamRuntime} (hr : r.Fresh) (hs : c.stream = some r)
    (result : Except Exn Bool) : Moves env Q c.stream (c.startedDecoder r result) := by
  cases result with
  | error e => exact raise_moves rfl e
  | ok decoder =>
    refine ⟨?_, hs ▸ .change (.startTasks decoder hr)⟩
    refine ⟨⟨by simp [StreamRuntime.startTasks], by simp [StreamRuntime.startTasks],
      ?_, ?_, ?_⟩, ?_⟩
    · rw [hr]; rfl
    · rw [hr]; rfl
    · rw [hr]; simp [StreamRuntime.startTasks]
    · rw [hr]; rfl

lemma handlerSent_moves {c' : Conn} (hphase : c.Phase) {result : Except Exn Unit}
    (h : c.handlerSent result = some c') : Moves env Q c.stream c' := by
  unfold handlerSent at h
  split at h <;> cases h
  · next hpc =>
    refine listen_moves (fun r hr => ?_) (.same _)
    simpa [Phase, hr, hpc, HandlerPc.Fits] using hphase
  · next hpc =>
    refine listen_moves (fun r hr => ?_) (.same _)
    simp [Phase, hr, hpc, HandlerPc.Fits] at hphase
  · next hpc =>
    cases hs : c.stream with
    | none => exact ⟨by simp [Phase, HandlerPc.Idle], by simpa [hs] using .same _⟩
    | some r => simp [Phase, hs, hpc, HandlerPc.Fits] at hphase
  · exact raise_moves rfl _
  · exact raise_moves rfl _
  · exact raise_moves rfl _
  · next hpc =>
    cases hs : c.stream with
    | none => exact ⟨by simp [Phase, HandlerPc.Idle], by simpa [hs] using .same _⟩
    | some r => simp [Phase, hs, hpc, HandlerPc.Fits] at hphase

lemma closeDecoder_moves {r : StreamRuntime} (hs : c.stream = some r) (hclosed : r.closed = true)
    (hw : r.worker.running = false) (k : AfterStop) :
    Moves env Q c.stream (c.closeDecoder r k) := by
  unfold closeDecoder
  split_ifs
  · exact ⟨by simpa [Phase, hs, HandlerPc.Fits] using ⟨hclosed, hw⟩, .same _⟩
  · exact ⟨⟨hclosed, hw⟩, hs ▸ .change (.dropDecoder (Or.inl rfl) hw hclosed)⟩
  · exact ⟨⟨hclosed, hw⟩, hs ▸ .change (.dropDecoder (Or.inr rfl) hw hclosed)⟩

lemma proceed_moves {c' : Conn} {r : StreamRuntime} (hphase : c.Phase) (hs : c.stream = some r)
    (h : c.proceed r = some c') : Moves env Q c.stream c' := by
  have hfit : c.pc.Fits r := by simpa [Phase, hs] using hphase
  unfold proceed at h
  split at h
  · next hpc =>
    rw [hpc] at hfit
    split at h <;> cases h
    · next hw =>
      exact ⟨by simpa [Phase, hs, HandlerPc.Fits] using ⟨hfit.1, hfit.2, hw⟩, .same _⟩
    · exact raise_moves rfl _
  · next hpc =>
    rw [hpc] at hfit
    split_ifs at h
    cases h
    exact ⟨by simpa [Phase, hs, HandlerPc.Fits] using hfit, .same _⟩
  · split at h <;> cases h
    · exact raise_moves rfl _
    · exact listen_moves (by simp) (.drop _)
    · exact listen_moves (by simp) (.drop _)
  · split_ifs at h
    cases h
    exact beginStop_moves rfl _
  · split_ifs at h
    cases h
    exact beginStop_moves rfl _
  · next hpc =>
    rw [hpc] at hfit
    split at h <;> cases h <;> next hw => exact closeDecoder_moves hs hfit (by rw [hw]; rfl) _
  · split at h <;> cases h
    exact afterStop_moves c _ _
  · cases h

lemma raiseInStop_moves {r : StreamRuntime} (hs : c.stream = some r)
    (hr : r.closed = true ∧ r.worker.running = false) (k : AfterStop) (e : Exn) :
    Moves env Q c.stream (c.raiseInStop k e) := by
  unfold raiseInStop
  split_ifs
  · exact raise_moves rfl e
  · exact ⟨by simpa [Phase, hs, HandlerPc.Fits] using hr, .same _⟩

lemma handlerDecoderCanceled_moves {c' : Conn} {r : StreamRuntime} (hphase : c.Phase)
    (hs : c.stream = some r) {result : Except Exn Unit}
    (h : c.handlerDecoderCanceled r result = some c') : Moves env Q c.stream c' := by
  have hfit : c.pc.Fits r := by simpa [Phase, hs] using hphase
  unfold handlerDecoderCanceled at h
  split at h <;> cases h
  next hpc =>
  rw [hpc] at hfit
  exact ⟨hfit, hs ▸ .change (.callClose hfit.2 hfit.1)⟩

lemma handlerDecoderClosed_moves {c' : Conn} (hphase : c.Phase) {result : Except Exn Unit}
    (h : c.handlerDecoderClosed result = some c') : Moves env Q c.stream c' := by
  cases hs : c.stream with
  | none =>
    unfold handlerDecoderClosed at h
    split at h <;> cases h <;> next hpc => simp [Phase, hs, hpc, HandlerPc.Idle] at hphase
  | some r =>
    have hfit : c.pc.Fits r := by simpa [Phase, hs] using hphase
    rw [← hs]
    unfold handlerDecoderClosed at h
    split at h <;> cases h <;> next hpc =>
      rw [hpc] at hfit
      first
        | exact ⟨by simpa [Phase, hs, HandlerPc.Fits] using hfit, .same _⟩
        | exact raiseInStop_moves hs hfit _ _

/-- The tasks of a stream leave it in place for the handler. -/
lemma fits_step {pc : HandlerPc} {r r' : StreamRuntime} {a : StreamAct} (hfit : pc.Fits r)
    (h : r.step env a = some r') : pc.Fits r' := by
  have hframe := StreamRuntime.step_frame h
  -- with the worker not running, only the sender can step
  have hstill : r.worker.running = false → r'.worker = r.worker ∧ r'.closed = r.closed := by
    intro hw
    cases ha : a.isSender with
    | true =>
      obtain ⟨_, _, _, -, rfl⟩ := StreamRuntime.step_sender h ha
      exact ⟨rfl, rfl⟩
    | false => exact absurd ((StreamRuntime.step_emits h ha).1.symm.trans hw) (by simp)
  have hclosed : r.closed = true → r'.closed = true := by
    intro hclosed
    cases ha : a.isSender with
    | true =>
      obtain ⟨_, _, _, -, rfl⟩ := StreamRuntime.step_sender h ha
      exact hclosed
    | false =>
      cases (StreamRuntime.step_emits h ha).2 with
      | quiet heq => exact (congrArg QueueView.closed heq).trans hclosed
      | refused _ heq => exact (congrArg QueueView.closed heq).trans hclosed
      | emitted _ _ hopen => exact absurd (hclosed.symm.trans hopen) (by simp)
  have hstopped : r.closed = true ∧ r.worker.running = false →
      r'.closed = true ∧ r'.worker.running = false := by
    rintro ⟨hr, hw⟩
    exact ⟨hclosed hr, by rw [(hstill hw).1]; exact hw⟩
  have hreturned : ∀ b, r.Active ∧ r.finalizeRequested = b ∧ r.worker = .returned →
      r'.Active ∧ r'.finalizeRequested = b ∧ r'.worker = .returned := by
    rintro b ⟨hr, hb, hw⟩
    exact ⟨hr.step h, hframe.finalizeRequested.trans hb,
      (hstill (by rw [hw]; rfl)).1.trans hw⟩
  cases pc with
  | waiting => exact ⟨hfit.1.step h, hframe.finalizeRequested.trans hfit.2⟩
  | startingDecoder =>
    cases ha : a.isSender with
    | true =>
      rw [hfit] at h
      cases a <;> simp [StreamRuntime.step, StreamRuntime.senderTake, StreamRuntime.senderSent,
        StreamRuntime.senderExit, StreamAct.isSender] at h ha
    | false =>
      have hrun := (StreamRuntime.step_emits h ha).1
      rw [hfit] at hrun
      cases hrun
  | sendingReady => exact ⟨hfit.1.step h, hframe.finalizeRequested.trans hfit.2⟩
  | finalizeAwaitingWorker => exact ⟨hfit.1.step h, hframe.finalizeRequested.trans hfit.2⟩
  | finalizeJoining => exact hreturned true hfit
  | finalizeAwaitingSender => exact hreturned true hfit
  | autoFinalJoining => exact hreturned false hfit
  | cancelJoining => exact ⟨hfit.1.step h, hframe.finalizeRequested.trans hfit.2⟩
  | stoppingWorker k => exact hclosed hfit
  | cancellingDecoder k => exact hstopped hfit
  | closingDecoder k pending => exact hstopped hfit
  | stoppingSender k => exact hstopped hfit
  | sendingPong => exact hfit
  | sendingClosed => exact hfit
  | sendingError => exact hfit
  | finished => exact hstopped hfit

lemma task_moves {a : StreamAct} {r r' : StreamRuntime} (hphase : c.Phase)
    (hs : c.stream = some r) (hQ : Q r a) (h : r.step env a = some r') :
    Moves env Q c.stream { c with
      stream := some r'
      services := afterDecode c.services a
      sent := c.sent ++ r.writes a } := by
  refine ⟨?_, hs ▸ .change (.task hQ h)⟩
  exact fits_step (by simpa [Phase, hs] using hphase) h

lemma senderCancel_moves {r r' : StreamRuntime} (hphase : c.Phase) (hs : c.stream = some r)
    (hpc : cancelsSender c.pc = true) (h : r.senderCancel = some r') :
    Moves env Q c.stream { c with stream := some r' } := by
  refine ⟨?_, hs ▸ .change (.senderCancel h)⟩
  have hfit : c.pc.Fits r := by simpa [Phase, hs] using hphase
  obtain ⟨unfinished, rfl⟩ := StreamRuntime.senderCancel_eq h
  show c.pc.Fits _
  revert hpc
  cases hpc : c.pc with
  | finalizeAwaitingSender =>
    rw [hpc] at hfit
    exact fun _ => ⟨⟨hfit.1.started, by simp, hfit.1.kept, hfit.1.closed_eq,
      hfit.1.returned_iff⟩, hfit.2⟩
  | stoppingSender k =>
    rw [hpc] at hfit
    exact fun _ => hfit
  | _ => simp [cancelsSender]

/-- The steps of the tasks of the stream meet `Q`. -/
def TasksMeet (Q : StreamRuntime → StreamAct → Prop) (c : Conn) : Act → Prop
  | .task a => ∀ r, c.stream = some r → Q r a
  | _ => True

lemma tasksMeet_true (c : Conn) (a : Act) : c.TasksMeet (fun _ _ => True) a := by
  cases a <;> simp [TasksMeet]

/-- **The step lemma.** A step keeps the handler in place and makes the stream evolve. -/
theorem step_moves {c' : Conn} {a : Act} (hphase : c.Phase) (hQ : c.TasksMeet Q a)
    (h : c.step env a = some c') : Moves env Q c.stream c' := by
  cases a with
  | receive result =>
    simp only [step] at h
    split at h <;> cases h
    exact ⟨hphase, .same _⟩
  | wake =>
    simp only [step] at h
    split at h
    · next hpc => exact wake_moves hphase hpc h
    · cases h
  | startedDecoder result =>
    simp only [step] at h
    split at h <;> cases h
    next hpc hs =>
    exact startedDecoder_moves (by simpa [Phase, hs, hpc, HandlerPc.Fits] using hphase) hs result
  | handlerSent result => exact handlerSent_moves hphase h
  | proceed =>
    obtain ⟨r, hs, h⟩ := Option.bind_eq_some_iff.mp h
    exact proceed_moves hphase hs h
  | handlerDecoderCanceled result =>
    obtain ⟨r, hs, h⟩ := Option.bind_eq_some_iff.mp h
    exact handlerDecoderCanceled_moves hphase hs h
  | handlerDecoderClosed result => exact handlerDecoderClosed_moves hphase h
  | senderCancel =>
    simp only [step] at h
    split_ifs at h with hpc
    obtain ⟨r, hs, h⟩ := Option.bind_eq_some_iff.mp h
    obtain ⟨r', hr', rfl⟩ := Option.map_eq_some_iff.mp h
    exact senderCancel_moves hphase hs hpc hr'
  | task a =>
    obtain ⟨r, hs, h⟩ := Option.bind_eq_some_iff.mp h
    obtain ⟨r', hr', rfl⟩ := Option.map_eq_some_iff.mp h
    exact task_moves hphase hs (hQ r hs) hr'
  | modelLoaded =>
    cases h
    exact ⟨hphase, .same _⟩

/-! ## The rule -/

lemma phase_init : Phase {} := trivial

/-- The position of the handler fits the stream in every reachable state. -/
theorem phase_of_reaches {c : Conn} (h : (connection env).Reaches {} c) : c.Phase :=
  StepSystem.invariant (M := connection env) (I := Phase)
    (fun s a _ hs hstep => (step_moves hs (tasksMeet_true s a) hstep).phase) phase_init h

/-- The evolution of a stream keeps a property that started streams have and changes keep. -/
lemma evolves_keeps {P : StreamRuntime → Prop}
    (hstart : ∀ config streamMaxBufferBytes streamId session,
      createLocalSttStreamSession config streamMaxBufferBytes streamId = .ok session →
        P { session := session })
    (hchange : ∀ r r', P r → StreamRuntime.Change env Q r r' → P r')
    {s s' : Option StreamRuntime} (h : StreamRuntime.Evolves env Q s s')
    (hs : ∀ r, s = some r → P r) : ∀ r, s' = some r → P r := by
  cases h with
  | same => exact hs
  | drop => simp
  | start h => exact fun r hr => Option.some.inj hr ▸ hstart _ _ _ _ h
  | change h => exact fun r hr => Option.some.inj hr ▸ hchange _ _ (hs _ rfl) h

/-- **The rule for streams.** Along a run whose task steps meet `Q`, the active stream has every
property that started streams have and changes keep. -/
theorem stream_invariant {P : StreamRuntime → Prop}
    (hstart : ∀ config streamMaxBufferBytes streamId session,
      createLocalSttStreamSession config streamMaxBufferBytes streamId = .ok session →
        P { session := session })
    (hchange : ∀ r r', P r → StreamRuntime.Change env Q r r' → P r')
    {as : List Act} {c : Conn} (hQ : (connection env).Along (TasksMeet Q) {} as)
    (hrun : (connection env).run {} as = some c) : ∀ r, c.stream = some r → P r := by
  have hinv := StepSystem.invariant_along (M := connection env) (C := TasksMeet Q)
    (I := fun c => c.Phase ∧ ∀ r, c.stream = some r → P r)
    (fun s a s' hs hQ hstep =>
      have hmoves := step_moves hs.1 hQ hstep
      ⟨hmoves.phase, evolves_keeps hstart hchange hmoves.evolves hs.2⟩)
    ⟨phase_init, by simp⟩ hQ hrun
  exact hinv.2

/-- The rule for streams in every reachable state. -/
theorem stream_invariant_of_reaches {P : StreamRuntime → Prop}
    (hstart : ∀ config streamMaxBufferBytes streamId session,
      createLocalSttStreamSession config streamMaxBufferBytes streamId = .ok session →
        P { session := session })
    (hchange : ∀ r r', P r → StreamRuntime.Change env (fun _ _ => True) r r' → P r')
    {c : Conn} (h : (connection env).Reaches {} c) : ∀ r, c.stream = some r → P r := by
  obtain ⟨as, hrun⟩ := h
  exact stream_invariant hstart hchange (StepSystem.along_of_forall tasksMeet_true) hrun

end Conn
end RtcAsr
