import RtcAsr.Server.DecodeWindow

/-!
# The window of a transcript

`window_start_ms` and `window_end_ms` of a transcript are computed from the buffer when the event is
built, while the bytes handed to the decoder were cut when the decode started.  They name those
bytes when the rounded length of the buffer is still the one at the start of the decode, and when
the rounded lengths before and within the slice add up (`windows_named_iff`).
-/

namespace RtcAsr

namespace StreamRuntime

/-- The byte range of the buffer that was handed to the decode that ends in this step: the end of
the audio accepted at the snapshot, or the whole buffer. -/
def decodedRange (r : StreamRuntime) : ℕ × ℕ :=
  match r.worker with
  | .transcribingPartial snap =>
    ((snap.received r.accepted).length - snap.audio.length, (snap.received r.accepted).length)
  | .pushingPartial snap =>
    ((snap.received r.accepted).length - snap.audio.length, (snap.received r.accepted).length)
  | _ => (0, r.handed.length)

/-- A number of bytes of the utterance in rounded milliseconds. -/
def offsetMs (r : StreamRuntime) (bytes : ℕ) : ℤ :=
  audioBytesToDurationMs bytes r.session.sampleRate

/-- The transcript of a step names the range that was decoded. -/
def NamesWindow (env : ServerEnv) (r : StreamRuntime) (a : StreamAct) : Prop :=
  ∀ r' e, r.step env a = some r' → r'.outgoingEvents = r.outgoingEvents ++ [.transcript e] →
    e.windowStartMs = r.offsetMs r.decodedRange.1 ∧ e.windowEndMs = r.offsetMs r.decodedRange.2

/-- When an interim result with a text comes to an open stream, the audio received since the
snapshot does not show in rounded milliseconds, and the lengths before and within the decoded slice
add up in rounded milliseconds. -/
def KeepsWindow (r : StreamRuntime) (a : StreamAct) : Prop :=
  ∀ snap result, r.interim a = some (snap, result) → r.IsOpen → r.finalizeRequested = false →
    result.strippedText ≠ "" →
    (r.session.audioReceivedMs : ℤ) = r.offsetMs (snap.received r.accepted).length ∧
      r.offsetMs ((snap.received r.accepted).length - snap.audio.length) +
        r.offsetMs snap.audio.length = r.offsetMs (snap.received r.accepted).length

variable {env : ServerEnv} {r r' : StreamRuntime} {a : StreamAct}

/-! ## The range is the slice that was handed over -/

/-- The range of an uncancelled stream holds the bytes that were handed over. -/
lemma Sliced.decodedRange_eq (hr : r.Sliced) (hkept : r.cancelRequested = false)
    (hw : r.worker.inCall = true) :
    (r.session.audioBuffer.take r.decodedRange.2).drop r.decodedRange.1 = r.handed := by
  have hdecodes := hr.decodes
  have hbuffer := hr.buffer hkept
  have hsnap : ∀ {snap : Snapshot}, snap.TakenFrom r.accepted →
      (r.session.audioBuffer.take (snap.received r.accepted).length).drop
        ((snap.received r.accepted).length - snap.audio.length) = snap.audio := by
    intro snap hsnap
    rw [hbuffer, ← (List.prefix_iff_eq_take.mp (snap.received_prefix r.accepted))]
    exact (List.suffix_iff_eq_drop.mp hsnap.suffix).symm
  have hwhole : ∀ {audio : Bytes}, audio = r.accepted.flatten →
      (r.session.audioBuffer.take audio.length).drop 0 = audio := by
    rintro audio rfl
    rw [hbuffer, List.take_length, List.drop_zero]
  unfold decodedRange handed
  cases hpc : r.worker with
  | transcribingPartial snap =>
    rw [hpc] at hdecodes
    exact hsnap hdecodes
  | pushingPartial snap =>
    rw [hpc] at hdecodes
    exact hsnap hdecodes
  | transcribingFinal | pushingFinal | finalizingDecoder | closingDecoder =>
    rw [hpc] at hdecodes
    exact hwhole hdecodes.1
  | absent | waiting | returned | raised =>
    rw [hpc] at hw
    cases hw

/-- When a partial decode starts, its range ends at the end of the buffer. -/
lemma WorkerMove.decodedRange_start (hr : r.Sliced) (h : WorkerMove env r .workerWake r')
    {snap : Snapshot}
    (hw : r'.worker = .transcribingPartial snap ∨ r'.worker = .pushingPartial snap) :
    r'.decodedRange =
      (r.session.audioBuffer.length - snap.audio.length, r.session.audioBuffer.length) := by
  have hfinal : ∀ {r'' : StreamRuntime}, r''.worker.done = true →
      ¬ (r''.worker = .transcribingPartial snap ∨ r''.worker = .pushingPartial snap) := by
    rintro r'' hdone (hw | hw) <;> rw [hw] at hdone <;> cases hdone
  cases h with
  | transcribe _ _ hdue =>
    obtain rfl : r.snapshot = snap := by simpa using hw
    show ((r.snapshot.received r.accepted).length - _, (r.snapshot.received r.accepted).length) = _
    rw [(hr.snapshot hdue.isOpen.kept).2]
  | push _ _ hdue =>
    obtain rfl : r.snapshot = snap := by simpa using hw
    show ((r.snapshot.received r.accepted).length - _, (r.snapshot.received r.accepted).length) = _
    rw [(hr.snapshot hdue.isOpen.kept).2]
  | reuse => exact absurd hw (hfinal (finishFinal_done _ _ _))
  | raised _ ha => rcases ha with ha | ha | ha | ha <;> cases ha
  | _ => rcases hw with hw | hw <;> cases hw

/-! ## When the window is named -/

/-- A part of a length in rounded milliseconds is no longer than the whole. -/
lemma offsetMs_mono (r : StreamRuntime) {m n : ℕ} (h : m ≤ n) : r.offsetMs m ≤ r.offsetMs n :=
  Int.ofNat_le.mpr (audioBytesToDurationMs_mono h r.session.sampleRate)

/-- The window of an event about a slice. -/
lemma tells_window_iff {e : TranscriptEvent} {n stop : ℕ} (he : e.Tells r.session n)
    (hn : n ≤ stop) :
    (e.windowStartMs = r.offsetMs (stop - n) ∧ e.windowEndMs = r.offsetMs stop) ↔
      ((r.session.audioReceivedMs : ℤ) = r.offsetMs stop ∧
        r.offsetMs (stop - n) + r.offsetMs n = r.offsetMs stop) := by
  have hmono := r.offsetMs_mono hn
  rw [he.windowStart, he.windowEnd]
  show (max 0 ((r.session.audioReceivedMs : ℤ) - r.offsetMs n) = _ ∧ _) ↔ _
  constructor
  · rintro ⟨hstart, hstop⟩
    omega
  · rintro ⟨hstop, hadd⟩
    omega

/-- A final decode names the whole buffer. -/
lemma tells_window_whole {e : TranscriptEvent}
    (he : e.Tells r.session r.session.audioBuffer.length) :
    e.windowStartMs = r.offsetMs 0 ∧ e.windowEndMs = r.offsetMs r.session.audioBuffer.length := by
  have hzero : r.offsetMs 0 = 0 := by
    rw [offsetMs, audioBytesToDurationMs, Nat.zero_mul]
    simp [Binary64.divHalfEven]
  rw [he.windowStart, he.windowEnd, hzero]
  refine ⟨?_, rfl⟩
  show max 0 ((r.offsetMs r.session.audioBuffer.length : ℤ) -
    r.offsetMs r.session.audioBuffer.length) = _
  simp

/-- The worker has handed over the snapshot of a partial decode. -/
def InPartial (r : StreamRuntime) (snap : Snapshot) : Prop :=
  r.worker = .transcribingPartial snap ∨ r.worker = .pushingPartial snap

/-- The slice of a partial decode. -/
lemma Sliced.inPartial (hr : r.Sliced) {snap : Snapshot} (hw : r.InPartial snap) :
    r.handed = snap.audio ∧ snap.audio.length ≤ (snap.received r.accepted).length ∧
      r.decodedRange = ((snap.received r.accepted).length - snap.audio.length,
        (snap.received r.accepted).length) := by
  have hdecodes := hr.decodes
  rcases hw with hw | hw
  · rw [hw] at hdecodes
    rw [handed, decodedRange, hw]
    exact ⟨rfl, hdecodes.suffix.length_le, rfl⟩
  · rw [hw] at hdecodes
    rw [handed, decodedRange, hw]
    exact ⟨rfl, hdecodes.suffix.length_le, rfl⟩

/-- The interim result of a step is the one of a partial decode. -/
lemma interim_eq_some {snap : Snapshot} {result : Transcript}
    (h : r.interim a = some (snap, result)) :
    r.InPartial snap ∧
      ((r.worker = .transcribingPartial snap ∧ a = .transcribed (.ok result)) ∨
        (r.worker = .pushingPartial snap ∧ a = .pushed (.ok (some result)))) := by
  unfold interim at h
  split at h
  · split at h <;> cases h
    next hw => exact ⟨Or.inl hw, Or.inl ⟨hw, rfl⟩⟩
  · split at h <;> cases h
    next hw => exact ⟨Or.inr hw, Or.inr ⟨hw, rfl⟩⟩
  · cases h

/-- A transcript that is enqueued is the last event of the queue. -/
lemma exists_event (r : StreamRuntime) (result : Transcript) (isFinal : Bool) (n : ℕ) :
    ∃ e, ((r.enqueueTranscript result isFinal n).afterEmit isFinal).outgoingEvents =
      r.outgoingEvents ++ [.transcript e] := by
  cases isFinal with
  | true => exact ⟨_, rfl⟩
  | false => exact ⟨_, rfl⟩

/-- An interim result with a text that comes to an open stream is enqueued. -/
lemma afterPartial_enqueues (env : ServerEnv) (hopen : r.IsOpen)
    (hlisten : r.finalizeRequested = false)
    {snap : Snapshot} {result : Transcript} (htext : result.strippedText ≠ "")
    (hle : snap.audio.length ≤ r.session.audioBuffer.length) :
    ∃ e, (r.afterPartial env snap (some result)).outgoingEvents =
      r.outgoingEvents ++ [.transcript e] := by
  have hmono := audioBytesToDurationMs_mono hle r.session.sampleRate
  obtain h := afterPartial_outcome env r snap (some result)
  generalize r.afterPartial env snap (some result) = r' at h ⊢
  cases h with
  | dropped _ h => exact absurd hopen h
  | pending _ _ hfin => exact absurd (hfin.symm.trans hlisten) (by simp)
  | silent _ _ _ hsilent => exact absurd hsilent htext
  | refused _ _ _ e hlt => exact absurd hmono (not_le.mpr hlt)
  | emitted => exact exists_event _ _ _ _

/-- A step with an interim result with a text enqueues a transcript. -/
lemma Sliced.enqueues (env : ServerEnv) (hr : r.Sliced) {snap : Snapshot} {result : Transcript}
    (h : r.interim a = some (snap, result)) (hopen : r.IsOpen)
    (hlisten : r.finalizeRequested = false) (htext : result.strippedText ≠ "") :
    ∃ r' e, r.step env a = some r' ∧ r'.outgoingEvents = r.outgoingEvents ++ [.transcript e] := by
  have hle := hr.handed_length_le hopen.kept
  rcases (interim_eq_some h).2 with ⟨hw, rfl⟩ | ⟨hw, rfl⟩
  · rw [handed, hw] at hle
    obtain ⟨e, he⟩ := afterPartial_enqueues env hopen hlisten htext hle
    exact ⟨_, e, by simp [StreamRuntime.step, StreamRuntime.transcribed, hw], he⟩
  · rw [handed, hw] at hle
    obtain ⟨e, he⟩ := afterPartial_enqueues env (r := r.advance snap.audio)
      ⟨hopen.kept, hopen.notFinal, hopen.notClosed⟩ hlisten htext hle
    exact ⟨_, e, by simp [StreamRuntime.step, StreamRuntime.pushed, hw], he⟩

/-- **The step lemma.** A transcript names its window exactly when the step keeps the window. -/
lemma Sliced.namesWindow_iff (hr : r.Sliced) : NamesWindow env r a ↔ KeepsWindow r a := by
  constructor
  · intro hnames snap result hinterim hopen hlisten htext
    obtain ⟨r', e, hstep, he⟩ := hr.enqueues env hinterim hopen hlisten htext
    have htells := ((move_of_event hstep he).event he).1
    have hwindow := hnames r' e hstep he
    obtain ⟨hhanded, hle, hrange⟩ := hr.inPartial (interim_eq_some hinterim).1
    rw [hhanded] at htells
    rw [hrange] at hwindow
    exact (tells_window_iff htells hle).mp hwindow
  · intro hkeeps r' e hstep he
    have hmove := move_of_event hstep he
    obtain ⟨htells, hkept⟩ := hmove.event he
    have hwhole : r.handed = r.session.audioBuffer → r.decodedRange = (0, r.handed.length) →
        e.windowStartMs = r.offsetMs r.decodedRange.1 ∧
          e.windowEndMs = r.offsetMs r.decodedRange.2 := by
      intro hhanded hrange
      rw [hrange, hhanded]
      rw [hhanded] at htells
      exact tells_window_whole htells
    have hpartial : ∀ {snap : Snapshot} {result : Transcript}, r.InPartial snap →
        r.interim a = some (snap, result) → r.IsOpen → r.finalizeRequested = false →
        result.strippedText ≠ "" → e.windowStartMs = r.offsetMs r.decodedRange.1 ∧
          e.windowEndMs = r.offsetMs r.decodedRange.2 := by
      intro snap result hin hinterim hopen hlisten htext
      obtain ⟨hhanded, hle, hrange⟩ := hr.inPartial hin
      rw [hhanded] at htells
      rw [hrange]
      exact (tells_window_iff htells hle).mpr (hkeeps snap result hinterim hopen hlisten htext)
    have hdecodes := hr.decodes
    have hbuffer := hr.buffer hkept
    cases hmove with
    | reuse hw => exact hwhole (by rw [handed, hw]) (by rw [decodedRange, hw])
    | @transcribed snap hw result =>
      obtain ⟨-, hopen, hlisten, t, ht, htext⟩ :=
        (afterPartial_outcome env r snap (some result)).event he
      cases ht
      exact hpartial (Or.inl hw) (by rw [interim, hw]) hopen hlisten htext
    | @pushed snap hw result =>
      obtain ⟨-, hopen, hlisten, t, ht, htext⟩ :=
        (afterPartial_outcome env (r.advance snap.audio) snap result).event he
      obtain rfl : result = some t := ht
      exact hpartial (Or.inr hw) (by rw [interim, hw])
        ⟨hopen.kept, hopen.notFinal, hopen.notClosed⟩ hlisten htext
    | transcribedFinal hw =>
      rw [hw] at hdecodes
      exact hwhole (by rw [handed, hw, hbuffer]; exact hdecodes.1) (by rw [decodedRange, hw])
    | closed hw =>
      rw [hw] at hdecodes
      exact hwhole (by rw [handed, hw, hbuffer]; exact hdecodes.1) (by rw [decodedRange, hw])
    | _ => exact absurd he (ne_append_event _ _)

end StreamRuntime

namespace Conn

variable {env : ServerEnv}

/-- **When transcripts name what was decoded.** In a run every transcript names the range of the
audio buffer that was handed to the decoder exactly when every interim result that is emitted keeps
its window: no chunk that shows in rounded milliseconds arrived during its decode, and the rounded
lengths before and within the slice add up. -/
theorem windows_named_iff {as : List Act} :
    (connection env).Along (TasksMeet (StreamRuntime.NamesWindow env)) {} as ↔
      (connection env).Along (TasksMeet StreamRuntime.KeepsWindow) {} as := by
  have htasks : ∀ c a, (connection env).Reaches {} c →
      (TasksMeet (StreamRuntime.NamesWindow env) c a ↔
        TasksMeet StreamRuntime.KeepsWindow c a) := by
    intro c a hreach
    cases a with
    | task a =>
      exact forall_congr' fun r => forall_congr' fun hs => (sliced hreach hs).namesWindow_iff
    | _ => exact Iff.rfl
  constructor
  · exact fun h => h.imp_of_reaches (StepSystem.Reaches.refl _) fun c a hr h => (htasks c a hr).mp h
  · exact fun h => h.imp_of_reaches (StepSystem.Reaches.refl _) fun c a hr h =>
      (htasks c a hr).mpr h

/-- The transcript of the first of two chunks names the second one. -/
theorem not_windows_named_chunkDuringDecode :
    ¬ ∀ as, (connection defaultEnv).Along (TasksMeet (StreamRuntime.NamesWindow defaultEnv)) {}
      as := by
  intro hnamed
  have hrun : ∃ t r r' e, (connection defaultEnv).run {} chunkDuringDecode = some t ∧
      t.stream = some r ∧ r.step defaultEnv (.transcribed (.ok wordTranscript)) = some r' ∧
      r'.outgoingEvents = r.outgoingEvents ++ [.transcript e] ∧ r.offsetMs r.decodedRange.1 = 0 ∧
      r.offsetMs r.decodedRange.2 = 2 ∧ e.windowStartMs = 2 ∧ e.windowEndMs = 4 := by
    refine ⟨_, _, _, _, rfl, rfl, rfl, rfl, ?_, ?_, ?_, ?_⟩
    · decide +kernel
    · decide +kernel
    · decide +kernel
    · decide +kernel
  obtain ⟨t, r, r', e, hrun, hs, hstep, he, -, hstop, -, hend⟩ := hrun
  have hwindow := (hnamed
    (chunkDuringDecode ++ [.task (.transcribed (.ok wordTranscript))])).at_split
    hrun r hs r' e hstep he
  rw [hstop, hend] at hwindow
  exact absurd hwindow.2 (by decide)

end Conn

end RtcAsr
