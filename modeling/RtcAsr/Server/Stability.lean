import RtcAsr.Foundation.Streak
import RtcAsr.Server.TranscriptWindow

/-!
# The stability count

`stable_partial_count` is meant to count the latest decode cycles that gave one non-empty text.  The
worker updates it at a result it records, but neither at a `None` of a stateful decoder nor at a
result that finds a finalize pending or the stream at its end.  A run is watched together with the
texts of its cycles, the latest first; every cycle leaves their streak in the count exactly when
every cycle that is not recorded leaves the count right (`stability_iff`).
-/

namespace RtcAsr

open List

namespace StreamRuntime

/-! ## Decode cycles -/

/-- The stable text and its count. -/
def counter (r : StreamRuntime) : Option String × ℕ :=
  (r.session.stablePartialText, r.session.stablePartialCount)

/-- A result is recorded: the stream is not at its end, and no finalize waits. -/
def records (r : StreamRuntime) : Bool :=
  !(r.cancelRequested || r.finalEmitted || r.closed || r.finalizeRequested)

/-- The normalized text of the decode cycle that ends in a step. -/
def cycleText (env : ServerEnv) (r : StreamRuntime) : StreamAct → Option (Option String)
  | .transcribed (.ok result) =>
    match r.worker with
    | .transcribingPartial _ => some (StreamSession.normalizeStabilityText env.casefold result.text)
    | _ => none
  | .pushed (.ok result) =>
    match r.worker with
    | .pushingPartial _ =>
      some (result.bind fun t => StreamSession.normalizeStabilityText env.casefold t.text)
    | _ => none
  | _ => none

/-- The worker does not record the stability of the result of a step. -/
def skipsRecord (r : StreamRuntime) : StreamAct → Bool
  | .pushed (.ok none) => true
  | _ => !r.records

/-- The count is right also after a cycle with this text that is not recorded: it was zero and there
is no text, or it was one and the text is another one. -/
def CountStands (r : StreamRuntime) : Option String → Prop
  | none => r.session.stablePartialCount = 0
  | some x => r.session.stablePartialText ≠ some x ∧ r.session.stablePartialCount = 1

/-- A cycle that is not recorded leaves the count right. -/
def CountsCycle (env : ServerEnv) (r : StreamRuntime) (a : StreamAct) : Prop :=
  ∀ text, r.cycleText env a = some text → r.skipsRecord a = true → r.CountStands text

/-- The texts of the cycles after a step. -/
def cyclesAfter (env : ServerEnv) (r : StreamRuntime) (a : StreamAct)
    (cycles : List (Option String)) : List (Option String) :=
  (r.cycleText env a).toList ++ cycles

/-- The stability law of a step: a cycle leaves the streak of the cycles in the count, and a final
transcript that nobody requested comes after `stable_partial_cycles` cycles with one text. -/
structure CountedAfter (env : ServerEnv) (r : StreamRuntime) (a : StreamAct)
    (cycles : List (Option String)) (r' : StreamRuntime) : Prop where
  count : (r.cycleText env a).isSome = true →
    r'.session.stablePartialCount = (r.cyclesAfter env a cycles).streak
  autoFinal : r'.finalEmitted = true → r.finalEmitted = false → r.finalizeRequested = false →
    ∃ x, (r.cyclesAfter env a cycles).take r.session.stablePartialCycles.toNat =
      replicate r.session.stablePartialCycles.toNat (some x)

/-- The counter of a stream whose cycles gave these texts.  A result that is not recorded leaves the
counter behind the latest text, but no other cycle follows. -/
structure Tracks (r : StreamRuntime) (cycles : List (Option String)) : Prop where
  zero : r.session.stablePartialCount = 0 ↔ r.session.stablePartialText = none
  canceled : r.cancelRequested = true → r.session.stablePartialCount = 0
  count : r.cancelRequested = false → r.session.stablePartialCount = cycles.streak
  latest : r.cancelRequested = false → (r.records = false → ∃ snap, r.InPartial snap) →
    r.session.stablePartialText = cycles.head?.join

variable {env : ServerEnv} {r r' : StreamRuntime} {a : StreamAct}

/-! ## The counter of a step -/

/-- A stream that records results is open, and listens. -/
lemma records_iff : r.records = true ↔ r.IsOpen ∧ r.finalizeRequested = false := by
  unfold records
  simp only [Bool.not_eq_true', Bool.or_eq_false_iff]
  constructor
  · rintro ⟨⟨⟨hkept, hfinal⟩, hclosed⟩, hlisten⟩
    exact ⟨⟨hkept, hfinal, hclosed⟩, hlisten⟩
  · rintro ⟨⟨hkept, hfinal, hclosed⟩, hlisten⟩
    exact ⟨⟨⟨hkept, hfinal⟩, hclosed⟩, hlisten⟩

/-- Recording a result counts its text. -/
lemma recorded_counter (env : ServerEnv) (r : StreamRuntime) (snap : Snapshot)
    (result : Transcript) :
    ((r.recorded env snap result).stablePartialText,
      (r.recorded env snap result).stablePartialCount) =
      streakNext (StreamSession.normalizeStabilityText env.casefold result.text) r.counter := by
  unfold recorded StreamSession.recordTranscriptStability streakNext counter
  cases StreamSession.normalizeStabilityText env.casefold result.text with
  | none => rfl
  | some x =>
    dsimp only
    split_ifs with h h' h'
    · rfl
    · exact absurd h h'
    · exact absurd h' h
    · rfl

/-- The counter at the end of a decode cycle, the text of the cycle being given. -/
structure CycleEnd (r : StreamRuntime) (text : Option String) (skips : Bool)
    (r' : StreamRuntime) : Prop where
  counter : r'.counter = if skips = true then r.counter else streakNext text r.counter
  final : r'.finalEmitted = true → r.finalEmitted = false →
    r'.session.stablePartialCycles ≤ r'.session.stablePartialCount
  partialEnd : ¬ ∃ snap, r'.InPartial snap

/-- A worker that waits or is done is in no partial decode. -/
lemma not_inPartial (hw : r.worker = .waiting ∨ r.worker.done = true) :
    ¬ ∃ snap, r.InPartial snap := by
  rintro ⟨snap, h | h⟩ <;> rw [h] at hw <;> rcases hw with hw | hw <;> cases hw

/-- The end of a decode cycle. -/
lemma PartialOutcome.cycleEnd {snap : Snapshot} {result : Option Transcript}
    (h : PartialOutcome env r snap result r') :
    CycleEnd r (result.bind fun t => StreamSession.normalizeStabilityText env.casefold t.text)
      (result.isNone || !r.records) r' := by
  have hquiet : r'.finalEmitted = r.finalEmitted → r'.finalEmitted = true →
      r.finalEmitted = false → r'.session.stablePartialCycles ≤ r'.session.stablePartialCount := by
    intro hsame hemitted hnot
    exact absurd (hemitted.symm.trans (hsame.trans hnot)) (by simp)
  cases h with
  | dropped result hended =>
    have hskips : (result.isNone || !r.records) = true := by
      have hrecords : r.records = false :=
        Bool.eq_false_iff.mpr fun h => hended (records_iff.mp h).1
      simp [hrecords]
    exact ⟨(if_pos hskips).symm, hquiet rfl, not_inPartial (Or.inr rfl)⟩
  | skipped => exact ⟨rfl, hquiet rfl, not_inPartial (Or.inl rfl)⟩
  | pending result _ hfin session hsession =>
    have hrecords : r.records = false := by
      refine Bool.eq_false_iff.mpr fun h => ?_
      exact absurd (hfin.symm.trans (records_iff.mp h).2) (by simp)
    refine ⟨Eq.trans ?_ (if_pos (by simp [hrecords])).symm, hquiet rfl, not_inPartial (Or.inl rfl)⟩
    rcases hsession with rfl | rfl <;> rfl
  | silent result hopen hlisten =>
    have hrecords : r.records = true := records_iff.mpr ⟨hopen, hlisten⟩
    refine ⟨?_, hquiet rfl, not_inPartial (Or.inl rfl)⟩
    exact (recorded_counter env r snap result).trans (if_neg (by simp [hrecords])).symm
  | refused result hopen hlisten =>
    have hrecords : r.records = true := records_iff.mpr ⟨hopen, hlisten⟩
    refine ⟨?_, hquiet rfl, not_inPartial (Or.inr rfl)⟩
    exact (recorded_counter env r snap result).trans (if_neg (by simp [hrecords])).symm
  | emitted result hopen hlisten =>
    have hrecords : r.records = true := records_iff.mpr ⟨hopen, hlisten⟩
    have hcounter : ((r.recorded env snap result).stablePartialText,
        (r.recorded env snap result).stablePartialCount) =
        if ((some result).isNone || !r.records) = true then r.counter
        else streakNext (StreamSession.normalizeStabilityText env.casefold result.text) r.counter :=
      (recorded_counter env r snap result).trans (if_neg (by simp [hrecords])).symm
    cases hstable : (r.recorded env snap result).shouldFinalizeStablePartial with
    | true =>
      refine ⟨hcounter, fun _ _ => ?_, not_inPartial (Or.inr rfl)⟩
      unfold StreamSession.shouldFinalizeStablePartial at hstable
      simp only [Bool.and_eq_true, decide_eq_true_eq] at hstable
      exact hstable.2
    | false =>
      rw [hstable] at hquiet
      exact ⟨hcounter, hquiet rfl, not_inPartial (Or.inl rfl)⟩

/-- A decode cycle ends in a partial decode. -/
lemma inPartial_of_cycle {text : Option String} (h : r.cycleText env a = some text) :
    ∃ snap, r.InPartial snap := by
  unfold cycleText at h
  split at h
  · split at h
    · next snap hw => exact ⟨snap, Or.inl hw⟩
    · cases h
  · split at h
    · next snap hw => exact ⟨snap, Or.inr hw⟩
    · cases h
  · cases h

/-- A decode cycle ends in a step that can be taken. -/
lemma exists_step_of_cycle {text : Option String} (h : r.cycleText env a = some text) :
    ∃ r', r.step env a = some r' := by
  unfold cycleText at h
  split at h
  · next result =>
    split at h
    · next snap hw =>
      exact ⟨r.afterPartial env snap (some result), by
        simp [StreamRuntime.step, StreamRuntime.transcribed, hw]⟩
    · cases h
  · next result =>
    split at h
    · next snap hw =>
      exact ⟨(r.advance snap.audio).afterPartial env snap result, by
        simp [StreamRuntime.step, StreamRuntime.pushed, hw]⟩
    · cases h
  · cases h

/-- A result that is recorded is skipped only if it is `None`. -/
lemma text_of_skips {text : Option String} (h : r.cycleText env a = some text)
    (hskips : r.skipsRecord a = true) (hrecords : r.records = true) : text = none := by
  unfold skipsRecord at hskips
  split at hskips
  · unfold cycleText at h
    dsimp only at h
    split at h <;> cases h
    rfl
  · simp [hrecords] at hskips

/-- The step that ends a decode cycle. -/
lemma cycleEnd_of_step {text : Option String} (h : r.cycleText env a = some text)
    (hstep : r.step env a = some r') : CycleEnd r text (r.skipsRecord a) r' := by
  unfold cycleText at h
  split at h
  · next result =>
    split at h
    · next snap hw =>
      obtain rfl := Option.some.inj h
      obtain rfl : r.afterPartial env snap (some result) = r' := by
        simpa [StreamRuntime.step, StreamRuntime.transcribed, hw] using hstep
      exact (afterPartial_outcome env r snap (some result)).cycleEnd
    · cases h
  · next result =>
    split at h
    · next snap hw =>
      obtain rfl := Option.some.inj h
      obtain rfl : (r.advance snap.audio).afterPartial env snap result = r' := by
        simpa [StreamRuntime.step, StreamRuntime.pushed, hw] using hstep
      have hcycle := (afterPartial_outcome env (r.advance snap.audio) snap result).cycleEnd
      cases result with
      | none => exact ⟨hcycle.counter, hcycle.final, hcycle.partialEnd⟩
      | some result => exact ⟨hcycle.counter, hcycle.final, hcycle.partialEnd⟩
    · cases h
  · cases h

/-- A step sets the two flags of the end together, and resets neither. -/
lemma flags_of_step (h : r.step env a = some r') :
    ∃ b : Bool, r'.finalEmitted = (b || r.finalEmitted) ∧ r'.closed = (b || r.closed) := by
  cases ha : a.isSender with
  | true =>
    obtain ⟨_, _, _, -, rfl⟩ := step_sender h ha
    exact ⟨false, rfl, rfl⟩
  | false =>
    cases (step_emits h ha).2 with
    | quiet heq =>
      exact ⟨false, congrArg QueueView.finalEmitted heq, congrArg QueueView.closed heq⟩
    | refused _ heq =>
      exact ⟨false, congrArg QueueView.finalEmitted heq, congrArg QueueView.closed heq⟩
    | emitted event _ _ _ _ heq =>
      exact ⟨event.isFinal, congrArg QueueView.finalEmitted heq, congrArg QueueView.closed heq⟩

/-- A stream that records no result never records one again. -/
lemma records_of_step (h : r.step env a = some r') (hrecords : r'.records = true) :
    r.records = true := by
  obtain ⟨hopen, hlisten⟩ := records_iff.mp hrecords
  have hframe := step_frame h
  obtain ⟨b, hfinal, hclosed⟩ := flags_of_step h
  rw [hopen.notFinal, eq_comm, Bool.or_eq_false_iff] at hfinal
  rw [hopen.notClosed, eq_comm, Bool.or_eq_false_iff] at hclosed
  exact records_iff.mpr ⟨⟨hframe.cancelRequested.symm.trans hopen.kept, hfinal.2, hclosed.2⟩,
    hframe.finalizeRequested.symm.trans hlisten⟩

/-! ## Changes without a cycle -/

/-- What a change that ends no cycle leaves alone. -/
structure KeepsCount (r r' : StreamRuntime) : Prop where
  counter : r'.counter = r.counter
  kept : r'.cancelRequested = r.cancelRequested
  inPartial : (r'.records = false → ∃ snap, r'.InPartial snap) →
    r.records = false → ∃ snap, r.InPartial snap

/-- A change that touches neither the counter, nor the worker. -/
lemma KeepsCount.of_same (hcounter : r'.counter = r.counter)
    (hkept : r'.cancelRequested = r.cancelRequested) (hworker : r'.worker = r.worker)
    (hrecords : r'.records = true → r.records = true) : KeepsCount r r' := by
  refine ⟨hcounter, hkept, fun hinterim hnot => ?_⟩
  unfold InPartial at hinterim ⊢
  rw [hworker] at hinterim
  refine hinterim (Bool.eq_false_iff.mpr fun h => ?_)
  exact absurd ((hrecords h).symm.trans hnot) (by simp)

/-- A final decode leaves the counter alone. -/
lemma FinalOutcome.counter {finalAudio : Bytes} {result : Transcript}
    (h : FinalOutcome r finalAudio result r') : r'.counter = r.counter := by
  cases h <;> rfl

/-- A final transcript is asked for. -/
lemma WorkerMove.finalEmitted (hr : r.Sliced) (h : WorkerMove env r a r')
    (hcycle : r.cycleText env a = none) :
    r'.finalEmitted = r.finalEmitted ∨ r.finalizeRequested = true := by
  have hdecodes := hr.decodes
  cases h with
  | reuse _ _ _ hfin => exact Or.inr hfin
  | transcribed hw result => simp [cycleText, hw] at hcycle
  | pushed hw result => simp [cycleText, hw] at hcycle
  | transcribedFinal hw =>
    rw [hw] at hdecodes
    exact Or.inr hdecodes.2
  | closed hw =>
    rw [hw] at hdecodes
    exact Or.inr hdecodes.2
  | _ => exact Or.inl rfl

/-- A step of the worker that ends no cycle leaves the counter alone, and starts a partial decode
only while results are recorded. -/
lemma WorkerMove.counter (h : WorkerMove env r a r') (hcycle : r.cycleText env a = none) :
    r'.counter = r.counter ∧ ((∃ snap, r'.InPartial snap) → r.records = true) := by
  have hrest : ∀ {s : StreamRuntime}, s.worker = .waiting ∨ s.worker.done = true →
      (∃ snap, s.InPartial snap) → r.records = true :=
    fun hw hinterim => absurd hinterim (not_inPartial hw)
  cases h with
  | stop => exact ⟨rfl, hrest (Or.inr rfl)⟩
  | idle => exact ⟨rfl, hrest (Or.inl rfl)⟩
  | transcribe _ _ hdue => exact ⟨rfl, fun _ => records_iff.mpr ⟨hdue.isOpen, hdue.listens⟩⟩
  | push _ _ hdue => exact ⟨rfl, fun _ => records_iff.mpr ⟨hdue.isOpen, hdue.listens⟩⟩
  | nothingToPush => exact ⟨rfl, hrest (Or.inl rfl)⟩
  | transcribeFinal => exact ⟨rfl, by rintro ⟨_, h | h⟩ <;> cases h⟩
  | pushFinal => exact ⟨rfl, by rintro ⟨_, h | h⟩ <;> cases h⟩
  | callFinalize => exact ⟨rfl, by rintro ⟨_, h | h⟩ <;> cases h⟩
  | reuse =>
    exact ⟨(finishFinal_outcome r.awake _ _).counter, hrest (Or.inr (finishFinal_done _ _ _))⟩
  | transcribed hw result => simp [cycleText, hw] at hcycle
  | pushed hw result => simp [cycleText, hw] at hcycle
  | transcribedFinal =>
    exact ⟨(finishFinal_outcome r _ _).counter, hrest (Or.inr (finishFinal_done _ _ _))⟩
  | pushedFinal => exact ⟨rfl, by rintro ⟨_, h | h⟩ <;> cases h⟩
  | finalized => exact ⟨rfl, by rintro ⟨_, h | h⟩ <;> cases h⟩
  | closed =>
    exact ⟨(finishFinal_outcome r _ _).counter, hrest (Or.inr (finishFinal_done _ _ _))⟩
  | raised => exact ⟨rfl, hrest (Or.inr rfl)⟩

/-- A step of a task that ends no cycle leaves the counter alone. -/
lemma keepsCount_of_step (h : r.step env a = some r') (hcycle : r.cycleText env a = none) :
    KeepsCount r r' := by
  cases ha : a.isSender with
  | true =>
    obtain ⟨_, _, _, -, rfl⟩ := step_sender h ha
    exact .of_same rfl rfl rfl id
  | false =>
    obtain ⟨hcounter, hstarted⟩ := (step_move h ha).counter hcycle
    refine ⟨hcounter, (step_frame h).cancelRequested, fun hinterim hnot => ?_⟩
    have hnot' : r'.records = false := by
      refine Bool.eq_false_iff.mpr fun hrecords => ?_
      exact absurd ((records_of_step h hrecords).symm.trans hnot) (by simp)
    exact absurd ((hstarted (hinterim hnot')).symm.trans hnot) (by simp)

/-- A change that ends no cycle leaves the counter alone, unless the stream is cancelled. -/
lemma Change.keepsCount {Q : StreamRuntime → StreamAct → Prop}
    (hcycle : ∀ a, Q r a → r.cycleText env a = none) (h : Change env Q r r') :
    KeepsCount r r' ∨ (r'.cancelRequested = true ∧ r'.counter = (none, 0)) := by
  cases h with
  | task hQ h => exact Or.inl (keepsCount_of_step h (hcycle _ hQ))
  | senderCancel h =>
    obtain ⟨_, rfl⟩ := senderCancel_eq h
    exact Or.inl (.of_same rfl rfl rfl id)
  | startTasks decoder hfresh =>
    have hcounter : (r.startTasks decoder).counter = r.counter := by cases decoder <;> rfl
    have hrecords : r.records = true := by
      rw [hfresh]
      rfl
    exact Or.inl ⟨hcounter, rfl, fun _ hnot => absurd (hnot.symm.trans hrecords) (by simp)⟩
  | appendAudio _ _ _ h =>
    obtain rfl := StreamSession.appendAudio_eq_ok h
    exact Or.inl (.of_same rfl rfl rfl id)
  | pong => exact Or.inl (.of_same rfl rfl rfl id)
  | requestFinalize =>
    exact Or.inl (.of_same rfl rfl rfl fun h => absurd (records_iff.mp h).2 (by
      simp [StreamRuntime.requestFinalize]))
  | cancel => exact Or.inr ⟨rfl, rfl⟩
  | close =>
    exact Or.inl (.of_same rfl rfl rfl fun h => absurd (records_iff.mp h).1.notClosed (by
      simp [StreamRuntime.close]))
  | dropDecoder => exact Or.inl (.of_same rfl rfl rfl id)
  | callClose => exact Or.inl (.of_same rfl rfl rfl id)

/-! ## The count and the streak -/

variable {cycles : List (Option String)}

/-- A change without a cycle keeps what the counter tells. -/
lemma Tracks.keeps (hr : r.Tracks cycles) (h : KeepsCount r r') : r'.Tracks cycles := by
  have htext : r'.session.stablePartialText = r.session.stablePartialText :=
    congrArg Prod.fst h.counter
  have hcount : r'.session.stablePartialCount = r.session.stablePartialCount :=
    congrArg Prod.snd h.counter
  refine ⟨?_, ?_, ?_, ?_⟩
  · rw [htext, hcount]
    exact hr.zero
  · rw [hcount, h.kept]
    exact hr.canceled
  · rw [hcount, h.kept]
    exact hr.count
  · rw [htext, h.kept]
    exact fun hkept hinterim => hr.latest hkept (h.inPartial hinterim)

/-- A stream that counted nothing tracks no cycles. -/
lemma tracks_of_none (hcounter : r.counter = (none, 0)) : r.Tracks [] := by
  have htext : r.session.stablePartialText = none := congrArg Prod.fst hcounter
  have hcount : r.session.stablePartialCount = 0 := congrArg Prod.snd hcounter
  exact ⟨by simp [htext, hcount], fun _ => hcount, fun _ => hcount, fun _ _ => htext⟩

/-- A cancelled stream has no count. -/
lemma tracks_of_canceled (hcanceled : r.cancelRequested = true) (hcounter : r.counter = (none, 0)) :
    r.Tracks cycles := by
  have htext : r.session.stablePartialText = none := congrArg Prod.fst hcounter
  have hcount : r.session.stablePartialCount = 0 := congrArg Prod.snd hcounter
  refine ⟨by simp [htext, hcount], fun _ => hcount, fun hkept => ?_, fun hkept => ?_⟩
  · exact absurd (hcanceled.symm.trans hkept) (by simp)
  · exact absurd (hcanceled.symm.trans hkept) (by simp)

/-- The count stands exactly when it is the streak with the cycle that is not recorded. -/
lemma Tracks.countStands_iff (hr : r.Tracks cycles) (hinterim : ∃ snap, r.InPartial snap)
    (text : Option String) :
    r.CountStands text ↔ r.session.stablePartialCount = (text :: cycles).streak := by
  cases text with
  | none => exact Iff.rfl
  | some x =>
    unfold CountStands
    rw [streak_some_cons]
    cases hkept : r.cancelRequested with
    | true =>
      rw [hr.canceled hkept]
      split_ifs <;> simp
    | false =>
      have hsame : r.session.stablePartialText = some x ↔ cycles.head? = some (some x) := by
        rw [hr.latest hkept fun _ => hinterim, Option.join_eq_some_iff]
      rw [hr.count hkept]
      split_ifs with hx
      · simp [hsame.mpr hx]
      · simp [hsame.not.mpr hx]

/-- A cycle leaves the streak in the count exactly when it is recorded, or leaves the count
right. -/
lemma Tracks.cycle_iff {text : Option String} (hr : r.Tracks cycles)
    (hcycle : r.cycleText env a = some text) (h : r.step env a = some r') :
    r'.session.stablePartialCount = (text :: cycles).streak ↔ r.CountsCycle env a := by
  have hinterim := inPartial_of_cycle hcycle
  have hcounter : r'.session.stablePartialCount =
      (if r.skipsRecord a = true then r.counter else streakNext text r.counter).2 :=
    congrArg Prod.snd (cycleEnd_of_step hcycle h).counter
  have hcounts : r.CountsCycle env a ↔ (r.skipsRecord a = true → r.CountStands text) := by
    unfold CountsCycle
    rw [hcycle]
    simp
  rw [hcounts, hr.countStands_iff hinterim text, hcounter]
  split_ifs with hskips
  · exact ⟨fun h _ => h, fun h => h hskips⟩
  · refine ⟨fun _ h => absurd h hskips, fun _ => ?_⟩
    have hkept : r.cancelRequested = false := by
      by_contra hcanceled
      refine hskips ?_
      unfold skipsRecord
      split
      · rfl
      · simp [records, Bool.eq_true_of_not_eq_false hcanceled]
    exact streakNext_snd (hr.latest hkept fun _ => hinterim) (hr.count hkept) text

/-- A cycle that leaves the count right is tracked. -/
lemma Tracks.cycle {text : Option String} (hr : r.Tracks cycles)
    (hcycle : r.cycleText env a = some text) (h : r.step env a = some r')
    (hcounts : r.CountsCycle env a) : r'.Tracks (text :: cycles) := by
  have hend := cycleEnd_of_step hcycle h
  have hcount := (hr.cycle_iff hcycle h).mpr hcounts
  have hcounter := hend.counter
  have hzero : r'.session.stablePartialCount = 0 ↔ r'.session.stablePartialText = none := by
    show r'.counter.2 = 0 ↔ r'.counter.1 = none
    rw [hcounter]
    split_ifs
    · exact hr.zero
    · exact streakNext_eq_zero_iff _ _
  refine ⟨hzero, fun hcanceled => ?_, fun _ => hcount, fun _ hinterim => ?_⟩
  · rw [(step_frame h).cancelRequested] at hcanceled
    have hskips : r.skipsRecord a = true := by
      unfold skipsRecord
      split
      · rfl
      · simp [records, hcanceled]
    rw [hskips, if_pos rfl] at hcounter
    exact (congrArg Prod.snd hcounter).trans (hr.canceled hcanceled)
  · have hrecords : r.records = true := by
      refine records_of_step h ?_
      by_contra hnot
      exact hend.partialEnd (hinterim (Bool.eq_false_iff.mpr hnot))
    cases hskips : r.skipsRecord a with
    | true =>
      obtain rfl := text_of_skips hcycle hskips hrecords
      exact hzero.mp hcount
    | false =>
      rw [hskips, if_neg (by simp)] at hcounter
      exact (congrArg Prod.fst hcounter).trans (streakNext_fst _ _)

/-- **The step lemma.** A step obeys the law of stability exactly when its cycle counts. -/
lemma Tracks.countedAfter_iff (hr : r.Tracks cycles) (hsliced : r.Sliced) :
    (∀ r', r.step env a = some r' → r.CountedAfter env a cycles r') ↔ r.CountsCycle env a := by
  constructor
  · intro hlaw text hcycle
    obtain ⟨r', h⟩ := exists_step_of_cycle hcycle
    have hcount := (hlaw r' h).count (by rw [hcycle]; rfl)
    rw [cyclesAfter, hcycle] at hcount
    exact (hr.cycle_iff hcycle h).mp hcount text hcycle
  · intro hcounts r' h
    cases hcycle : r.cycleText env a with
    | none =>
      refine ⟨by simp [hcycle], fun hemitted hnot hlisten => ?_⟩
      have hsame : r'.finalEmitted = r.finalEmitted := by
        cases ha : a.isSender with
        | true =>
          obtain ⟨_, _, _, -, rfl⟩ := step_sender h ha
          rfl
        | false =>
          refine ((step_move h ha).finalEmitted hsliced hcycle).resolve_right ?_
          simp [hlisten]
      exact absurd (hemitted.symm.trans (hsame.trans hnot)) (by simp)
    | some text =>
      have hcount := (hr.cycle_iff hcycle h).mpr hcounts
      have hafter : r.cyclesAfter env a cycles = text :: cycles := by
        rw [cyclesAfter, hcycle]
        rfl
      refine ⟨fun _ => hafter ▸ hcount, fun hemitted hnot _ => ?_⟩
      rw [hafter]
      have hle := (cycleEnd_of_step hcycle h).final hemitted hnot
      have hcycles : r'.session.stablePartialCycles = r.session.stablePartialCycles :=
        congrArg (fun s => s.2.2.2.2.2) (Change.settings (.task (Q := fun _ _ => True) trivial h))
      rw [hcycles] at hle
      rcases Nat.eq_zero_or_pos r.session.stablePartialCycles.toNat with hzero | hpos
      · rw [hzero]
        exact ⟨"", by simp⟩
      · refine (le_streak_iff hpos).mp ?_
        omega

end StreamRuntime

/-! ## Watched runs -/

namespace Conn

open StreamRuntime

/-- The texts of the decode cycles of the active stream, the latest first. -/
def noteCycles (env : ServerEnv) (c : Conn) (a : Act) (cycles : List (Option String)) :
    List (Option String) :=
  match c.stream with
  | none => []
  | some r =>
    match a with
    | .task a => r.cyclesAfter env a cycles
    | _ => cycles

/-- A connection that is watched together with the texts of its decode cycles. -/
def watchedCycles (env : ServerEnv) : StepSystem (Conn × List (Option String)) Act :=
  (connection env).watch (noteCycles env)

/-- The steps of the active stream obey the law of stability. -/
def StabilityLaw (env : ServerEnv) (s : Conn × List (Option String)) : Act → Prop
  | .task a => ∀ r, s.1.stream = some r →
    ∀ r', r.step env a = some r' → r.CountedAfter env a s.2 r'
  | _ => True

/-- Every decode cycle of the active stream is recorded, or leaves the count right. -/
def CyclesCount (env : ServerEnv) (s : Conn × List (Option String)) : Act → Prop
  | .task a => ∀ r, s.1.stream = some r → r.CountsCycle env a
  | _ => True

/-- The counter of the active stream tracks the cycles. -/
structure Tracked (env : ServerEnv) (s : Conn × List (Option String)) : Prop where
  reaches : (connection env).Reaches {} s.1
  tracks : ∀ r, s.1.stream = some r → r.Tracks s.2

variable {env : ServerEnv} {s t : Conn × List (Option String)} {a : Act}

/-- A created session has counted nothing. -/
lemma counter_of_new {config : LocalSttStartConfig} {streamMaxBufferBytes streamId : ℕ}
    {session : StreamSession}
    (h : createLocalSttStreamSession config streamMaxBufferBytes streamId = .ok session) :
    counter { session := session } = (none, 0) := by
  obtain ⟨limited, window, -, -, rfl⟩ := createLocalSttStreamSession_eq_ok h
  rfl

/-- The law and the condition agree where the counter tracks the cycles. -/
lemma Tracked.law_iff (hs : Tracked env s) (a : Act) :
    StabilityLaw env s a ↔ CyclesCount env s a := by
  cases a with
  | task a =>
    exact forall_congr' fun r => forall_congr' fun hr =>
      (hs.tracks r hr).countedAfter_iff (sliced hs.reaches hr)
  | _ => exact Iff.rfl

/-- **A step whose cycle counts is tracked.** -/
lemma Tracked.step (hs : Tracked env s) (hcounts : CyclesCount env s a)
    (h : (watchedCycles env).step s a = some t) : Tracked env t := by
  obtain ⟨hstep, hnote⟩ := StepSystem.watch_step_eq_some.mp h
  refine ⟨hs.reaches.tail hstep, fun r' hr' => ?_⟩
  have hmoves : Moves env (fun _ b => a = .task b) s.1.stream t.1 := by
    refine step_moves (phase_of_reaches hs.reaches) ?_ hstep
    cases a with
    | task b => exact fun _ _ => rfl
    | _ => trivial
  have hevolves := hmoves.evolves
  rw [hr'] at hevolves
  rw [hnote]
  unfold noteCycles
  cases hr : s.1.stream with
  | none =>
    rw [hr] at hevolves
    cases hevolves with
    | start hsession => exact tracks_of_none (counter_of_new hsession)
  | some r =>
    have htracks := hs.tracks r hr
    rw [hr] at hevolves
    -- a change that is no cycle, with the cycles left alone
    have hquiet : ∀ {Q : StreamRuntime → StreamAct → Prop}, Evolves env Q (some r) (some r') →
        (∀ b, Q r b → r.cycleText env b = none) → r'.Tracks s.2 := by
      intro Q hevolves hcycle
      cases hevolves with
      | same => exact htracks
      | change hchange =>
        rcases hchange.keepsCount hcycle with hkeeps | ⟨hcanceled, hcounter⟩
        · exact htracks.keeps hkeeps
        · exact tracks_of_canceled hcanceled hcounter
    cases a with
    | task b =>
      obtain ⟨_, hs', hb⟩ := Option.bind_eq_some_iff.mp hstep
      obtain rfl := Option.some.inj (hr.symm.trans hs')
      obtain ⟨r'', hb, ht⟩ := Option.map_eq_some_iff.mp hb
      rw [← ht] at hr'
      obtain rfl : r'' = r' := Option.some.inj hr'
      show r''.Tracks (r.cyclesAfter env b s.2)
      unfold cyclesAfter
      cases hcycle : r.cycleText env b with
      | none => exact htracks.keeps (keepsCount_of_step hb hcycle)
      | some text => exact htracks.cycle hcycle hb (hcounts r hr)
    | _ => exact hquiet hevolves (by rintro _ ⟨⟩)

/-- **When the count is the streak.** In a run every decode cycle leaves the streak of the cycles in
the count, and every unrequested final transcript comes after `stable_partial_cycles` cycles with
one text, exactly when every cycle that is not recorded leaves the count right. -/
theorem stability_iff (as : List Act) :
    (watchedCycles env).Along (StabilityLaw env) ({}, []) as ↔
      (watchedCycles env).Along (CyclesCount env) ({}, []) as := by
  have hinit : Tracked env ({}, []) := ⟨StepSystem.Reaches.refl _, by simp⟩
  constructor
  · refine StepSystem.Along.imp_of_invariant (I := Tracked env) ?_ ?_ hinit
    · exact fun s a t hs hlaw h => hs.step ((hs.law_iff a).mp hlaw) h
    · exact fun s a hs hlaw => (hs.law_iff a).mp hlaw
  · refine StepSystem.Along.imp_of_invariant (I := Tracked env) ?_ ?_ hinit
    · exact fun s a t hs hcounts h => hs.step hcounts h
    · exact fun s a hs hcounts => (hs.law_iff a).mpr hcounts

/-- A start message with auto-finalization after two stable results. -/
def twiceStableStart : LocalSttStartConfig :=
  { plainStart with finalizeOnStablePartial := true, stablePartialCycles := 2 }

/-- A chunk that is pushed into the decoder, with its result. -/
def pushChunk (result : Option Transcript) : List Act :=
  deliver (.audio twoMs) ++ [.task .workerWake, .task (.pushed (.ok result))]

/-- The decoder recognises nothing in the second of three chunks. -/
def wordNoneWord : List Act :=
  openStream twiceStableStart true ++ pushChunk (some wordTranscript) ++ pushChunk none ++
    deliver (.audio twoMs) ++ [.task .workerWake]

/-- The third result is emitted as the final transcript, though the second cycle gave nothing. -/
theorem not_stability_wordNoneWord :
    ¬ ∀ as, (watchedCycles defaultEnv).Along (StabilityLaw defaultEnv) ({}, []) as := by
  intro hlaw
  have hrun : ∃ t r r', (watchedCycles defaultEnv).run ({}, []) wordNoneWord = some t ∧
      t.1.stream = some r ∧ t.2 = [none, some "hello"] ∧
      r.step defaultEnv (.pushed (.ok (some wordTranscript))) = some r' ∧
      r.cycleText defaultEnv (.pushed (.ok (some wordTranscript))) = some (some "hello") ∧
      r'.session.stablePartialCount = 2 ∧ r'.finalEmitted = true := by
    refine ⟨_, _, _, rfl, rfl, ?_, rfl, ?_, ?_, ?_⟩
    · decide +kernel
    · decide +kernel
    · decide +kernel
    · decide +kernel
  obtain ⟨t, r, r', hrun, hr, hcycles, hstep, hcycle, hcount, -⟩ := hrun
  have hcounted := ((hlaw (wordNoneWord ++ [.task (.pushed (.ok (some wordTranscript)))])).at_split
    hrun r hr r' hstep).count (by rw [hcycle]; rfl)
  rw [cyclesAfter, hcycle, hcycles, hcount] at hcounted
  exact absurd hcounted (by decide)

end Conn
end RtcAsr
