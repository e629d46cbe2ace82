import RtcAsr.Plugin.Bystanders

/-!
# The finalize message and a full queue

A VAD stop frame flushes the aggregate buffer into the send queue, waits until the queue is drained
and sends the finalize message.  Over a working connection this ends the utterance on both sides,
after all audio that was not dropped, whatever the queue and the buffer hold: under every drop
policy and from every state (`finalizes_iff`), but for one case.  Under the policy `raise` a last
chunk that does not fit raises out of `finalize_current_utterance`, and the utterance stays open
(`not_finalizes_raise`).

The other tasks may act in between, as long as they leave the connection, the utterance and the
queue alone: the receive loop takes server events in, and frames are processed (`calm_tick`).
-/

namespace RtcAsr.Plugin

/-! ## A finalize that is not lost -/

/-- Neither of the two tasks runs. -/
def Apart (t u : TaskId) (w : ServiceWorld) : Prop :=
  ∀ v signal, w.running = some (v, signal) → v ≠ t ∧ v ≠ u

/-- No other task is in the middle of its turn. -/
def Unshared (t u : TaskId) (w : ServiceWorld) : Prop :=
  ∀ v signal, w.running = some (v, signal) → v = t ∨ v = u

/-- Others act, and leave the two tasks where they are. -/
structure Aside (t u : TaskId) (c : ℕ) (w w' : ServiceWorld) : Prop where
  shared : Beside c w.shared w'.shared
  frames : w'.stack t = w.stack t ∧ w'.stack u = w.stack u
  marks : w'.cancelled t = w.cancelled t ∧ w'.cancelled u = w.cancelled u
  apart : Apart t u w ∧ Apart t u w'

/-- The actions of the two tasks, when what they await ends well. -/
inductive Own (t u : TaskId) : ServiceAction → Prop
  | tick : Own t u .tick
  | resume {v : TaskId} (h : v = t ∨ v = u) : Own t u (.resume v (.value none))

/-- The finalizing task and the send loop go on, what they await ends well, and what the others do
leaves them alone. -/
inductive Calm (config : LocalSTTConfig) (t u : TaskId) (c : ℕ) (w : ServiceWorld) :
    ServiceAction → Prop
  | own {a : ServiceAction} (h : Own t u a) (hown : Unshared t u w) : Calm config t u c w a
  | aside {a : ServiceAction} (h : ∀ w', (service config).step w a = some w' → Aside t u c w w') :
      Calm config t u c w a

section

variable {config : LocalSTTConfig} {s₀ s s' : Service} {u : TaskId} {c moves work : ℕ}
  {ts us : List Frame} {older newer more : List Happening}

lemma Delivered.mono (h : Delivered s₀ older) (hsub : older ⊆ newer) : Delivered s₀ newer where
  queued chunk hmem hgen := (h.queued chunk hmem hgen).mono hsub
  aggregated hne := (h.aggregated hne).imp fun _ hn => hn.mono hsub

lemma FinalizedLast.append (h : FinalizedLast s₀ newer)
    (hmore : ∀ h ∈ more, h.isFinalize = false ∧ h.isSentAudio = false) :
    FinalizedLast s₀ (more ++ newer) := by
  induction more with
  | nil => exact h
  | cons e more ih =>
    obtain ⟨⟨hfinalize, haudio⟩, hrest⟩ := List.forall_mem_cons.mp hmore
    exact (ih hrest).cons hfinalize haudio

/-- What holds in a phase survives what the others do. -/
lemma Phase.Holds.beside {phase : Phase} (h : phase.Holds s₀ us newer s)
    (houtgoing : s'.outgoing = s.outgoing)
    (hmore : ∀ h ∈ more, h.isFinalize = false ∧ h.isSentAudio = false) :
    phase.Holds s₀ us (more ++ newer) s' := by
  have hactive : s'.utteranceActive = s.utteranceActive :=
    congrArg Outgoing.utteranceActive houtgoing
  have hunfinished : s'.unfinished = s.unfinished := congrArg Outgoing.unfinished houtgoing
  have hqueue : s'.sendQueue = s.sendQueue := congrArg Outgoing.sendQueue houtgoing
  have hunsent : (∀ h ∈ newer, h.isFinalize = false) → ∀ h ∈ more ++ newer, h.isFinalize = false :=
    fun hnewer h hmem => (List.mem_append.mp hmem).elim (fun hm => (hmore h hm).1) (hnewer h)
  cases phase with
  | collecting flushed =>
    refine h.mono hactive (fun e hmem hfin => ?_) fun chunk _ hkept => ?_
    · rcases List.mem_append.mp hmem with hmem | hmem
      · cases hfin.symm.trans (hmore e hmem).1
      · exact hmem
    · exact hkept.imp (fun hdone => hdone.mono (List.subset_append_right _ _))
        fun hrest => hrest.imp_left fun hmem => by rw [hqueue]; exact hmem
  | drained =>
    obtain ⟨hact, hnone, hzero, hdelivered⟩ := h
    exact ⟨hactive.trans hact, hunsent hnone, hunfinished.trans hzero,
      hdelivered.mono (List.subset_append_right _ _)⟩
  | sent =>
    obtain ⟨hact, hzero, hlast⟩ := h
    exact ⟨hactive.trans hact, hunfinished.trans hzero, hlast.append hmore⟩
  | ended =>
    obtain ⟨hact, hzero, hlast⟩ := h
    exact ⟨hactive.trans hact, hunfinished.trans hzero, hlast.append hmore⟩

/-- The two tasks are on their way as before. -/
lemma Underway.beside (h : Underway config s₀ u c s ts us .nobody moves work)
    (hs : Beside c s s') : Underway config s₀ u c s' ts us .nobody moves work := by
  obtain ⟨hworks, phase, newer, n, rank, hhistory, htally, hphase, hfinalizer, hsender, hwork⟩ := h
  obtain ⟨houtgoing, hbroken, haggregate, more, hmore, hquiet⟩ := hs
  have hqueue : s'.sendQueue = s.sendQueue := congrArg Outgoing.sendQueue houtgoing
  have hunfinished : s'.unfinished = s.unfinished := congrArg Outgoing.unfinished houtgoing
  have hdrained : s'.drained = s.drained := congrArg Outgoing.drained houtgoing
  have hqueued : s'.queuedAudioMs = s.queuedAudioMs := congrArg Outgoing.queuedAudioMs houtgoing
  have hworks' : Works s₀ u c s' :=
    ⟨(congrArg Outgoing.websocket houtgoing).trans hworks.websocket,
      fun hmem => hworks.unbroken (hbroken hmem),
      (congrArg Outgoing.closed houtgoing).trans hworks.opened,
      (congrArg Outgoing.sendTask houtgoing).trans hworks.sendTask,
      (congrArg Outgoing.generation houtgoing).trans hworks.generation⟩
  have htally' : s'.Tallied n :=
    ⟨by rw [hunfinished, hqueue]; exact htally.unfinished,
      by rw [hqueued, hqueue]; exact htally.queued,
      by rw [hqueue]; exact htally.durations, haggregate htally.aggregate⟩
  refine ⟨hworks', phase, more ++ newer, n, rank, ?_, htally', hphase.beside houtgoing hquiet,
    hfinalizer.suspended fun drained hs => ?_, hsender.suspended s', by rw [hqueue]; exact hwork⟩
  · rw [hmore, hhistory, List.append_assoc]
  · rw [hdrained, hunfinished]
    exact hs

end

/-! ## Runs of the two tasks -/

/-- Who runs when it is whose turn. -/
def Turn.Runs (t u : TaskId) (w : ServiceWorld) : Turn → Prop
  | .nobody => Apart t u w
  | .finalizer => w.running = some (t, .value none)
  | .sender => w.running = some (u, .value none)

/-- The two tasks in a world. -/
structure InProgress (config : LocalSTTConfig) (s₀ : Service) (t u : TaskId) (c : ℕ)
    (w : ServiceWorld) (turn : Turn) (moves work : ℕ) : Prop where
  ne : t ≠ u
  spawned : t < w.spawned ∧ u < w.spawned
  unmarked : w.cancelled t = false ∧ w.cancelled u = false
  running : turn.Runs t u w
  underway : Underway config s₀ u c w.shared (w.stack t) (w.stack u) turn moves work

section

variable {config : LocalSTTConfig} {s₀ : Service} {t u : TaskId} {c moves work : ℕ}
  {w w' : ServiceWorld} {turn : Turn}

/-- The move of the running task. -/
lemma step_tick {v : TaskId} {signal : ServiceSignal} {f : Frame} {fs : List Frame}
    (hrun : w.running = some (v, signal)) (hf : w.stack v = f :: fs) :
    (service config).step w .tick = some ((service config).apply w v fs
      (frameMove config v w.spawned w.shared f signal)) := by
  simp only [Coroutines.step, hrun, hf]
  rfl

variable (config) in
/-- A suspended task is resumed. -/
lemma step_resume {v : TaskId} {f : Frame} {fs : List Frame} (hrun : w.running = none)
    (hf : w.stack v = f :: fs) (hmark : w.cancelled v = false) (hawaited : f.awaited = none)
    (hanswers : f.answers w.shared (.value none) = true) :
    (service config).step w (.resume v (.value none)) =
      some { w with
        cancelled := Function.update w.cancelled v false
        running := some (v, .value none) } := by
  have haccepts : (service config).accepts w v f (.value none) = true := by
    have hawaited' : (service config).awaited f = none := hawaited
    simp only [Coroutines.accepts, hmark, hawaited']
    exact hanswers
  simp only [Coroutines.step, hrun, hf, haccepts, if_true]

/-- Who runs after a move of one of the two tasks. -/
lemma runs_of_running {v : TaskId} {own : Turn} {runs : Bool}
    (hown : (v, own) = (t, .finalizer) ∨ (v, own) = (u, .sender))
    (hrun : w.running = if runs = true then some (v, .value none) else none) :
    (if runs = true then own else .nobody).Runs t u w ∧ Unshared t u w := by
  cases runs with
  | false =>
    have hnone : w.running = none := hrun
    refine ⟨fun v signal hsome => ?_, fun v signal hsome => ?_⟩
    · cases hnone.symm.trans hsome
    · cases hnone.symm.trans hsome
  | true =>
    have hsome : w.running = some (v, .value none) := hrun
    rcases hown with heq | heq
    · obtain ⟨rfl, rfl⟩ := Prod.mk.inj heq
      refine ⟨hsome, fun v' signal hv' => .inl ?_⟩
      exact (Prod.mk.inj (Option.some.inj (hsome.symm.trans hv'))).1.symm
    · obtain ⟨rfl, rfl⟩ := Prod.mk.inj heq
      refine ⟨hsome, fun v' signal hv' => .inr ?_⟩
      exact (Prod.mk.inj (Option.some.inj (hsome.symm.trans hv'))).1.symm

/-- A move of the send loop. -/
lemma InProgress.tick_sender (h : InProgress config s₀ t u c w .sender moves work) :
    ∃ w' turn work', (service config).step w .tick = some w' ∧
      (InProgress config s₀ t u c w' turn moves work' ∧ Unshared t u w') ∧ work' < work := by
  obtain ⟨hne, hspawned, hunmarked, hrun, hunderway⟩ := h
  obtain ⟨f, fs, hf⟩ : ∃ f fs, w.stack u = f :: fs := by
    obtain ⟨-, phase, newer, n, rank, -, -, -, -, hsender, -⟩ := hunderway
    generalize w.stack u = us at hsender
    cases hsender <;> exact ⟨_, _, rfl⟩
  rw [hf] at hunderway
  obtain ⟨us, runs, work', hlands, hnext, hlt⟩ := sender_tick w.spawned hunderway
  obtain ⟨hruns, hunshared⟩ := runs_of_running (.inr rfl) (hlands.running config)
  refine ⟨_, if runs = true then .sender else .nobody, work', step_tick hrun hf,
    ⟨⟨hne, ?_, ?_, hruns, ?_⟩, hunshared⟩, hlt⟩
  · rw [hlands.spawned]
    exact hspawned
  · rw [hlands.cancelled]
    exact hunmarked
  · rw [hlands.stack, Coroutines.apply_stack_of_ne _ _ _ _ _ hne hspawned.1,
      Coroutines.apply_shared]
    exact hnext

/-- A move of the finalizer. -/
lemma InProgress.tick_finalizer (hfits : ¬ LosesFinalize config s₀)
    (hduration : 0 ≤ s₀.aggregateDurationMs)
    (h : InProgress config s₀ t u c w .finalizer moves work) :
    ∃ w' turn moves' work', (service config).step w .tick = some w' ∧
      (InProgress config s₀ t u c w' turn moves' work' ∧ Unshared t u w') ∧
      (moves' < moves ∧ work' ≤ work + 5 ∨
        (w.shared.exceeds config s₀.aggregateChunk = true ∧ w.shared.sendQueue ≠ []) ∧
          moves' = moves ∧ work' = work ∧ turn = .nobody) := by
  obtain ⟨hne, hspawned, hunmarked, hrun, hunderway⟩ := h
  obtain ⟨f, fs, hf⟩ : ∃ f fs, w.stack t = f :: fs := by
    obtain ⟨-, phase, newer, n, rank, -, -, -, hfinalizer, -, -⟩ := hunderway
    generalize w.stack t = ts at hfinalizer
    generalize hruns : (Turn.finalizer == .finalizer) = runs at hfinalizer
    obtain rfl : runs = true := by rw [← hruns]; rfl
    cases hfinalizer <;> exact ⟨_, _, rfl⟩
  rw [hf] at hunderway
  obtain ⟨ts, runs, moves', work', hlands, hnext, hless⟩ :=
    finalizer_tick t w.spawned hfits hduration hunderway
  obtain ⟨hruns, hunshared⟩ := runs_of_running (.inl rfl) (hlands.running config)
  refine ⟨_, if runs = true then .finalizer else .nobody, moves', work', step_tick hrun hf,
    ⟨⟨hne, ?_, ?_, hruns, ?_⟩, hunshared⟩, hless.imp_right fun ⟨hsleeps, hmoves, hwork, hruns⟩ =>
      ⟨hsleeps, hmoves, hwork, by rw [hruns]; rfl⟩⟩
  · rw [hlands.spawned]
    exact hspawned
  · rw [hlands.cancelled]
    exact hunmarked
  · rw [hlands.stack, Coroutines.apply_stack_of_ne _ _ _ _ _ hne.symm hspawned.2,
      Coroutines.apply_shared]
    exact hnext

/-- A suspended send loop that has something to do can be resumed. -/
lemma SenderStage.resumed {s : Service} {us : List Frame} {n rank : ℕ}
    (h : SenderStage c s us false n rank) (hwork : s.sendQueue ≠ [] ∨ n ≠ 0) :
    SenderStage c s us true n rank ∧ ∃ f fs, us = f :: fs ∧ f.awaited = none ∧
      f.answers s (.value none) = true := by
  cases h with
  | entry => exact ⟨.entry, _, _, rfl, rfl, rfl⟩
  | getting =>
    have hqueue : s.sendQueue ≠ [] := hwork.resolve_right fun h => h rfl
    exact ⟨.getting fun _ => hqueue, _, _, rfl, rfl, by simpa [Frame.answers] using hqueue⟩
  | sending chunk => exact ⟨.sending chunk, _, _, rfl, rfl, rfl⟩

/-- Conversely, a suspended send loop that is resumed has something to do, or begins. -/
lemma SenderStage.of_answers {s : Service} {f : Frame} {fs : List Frame} {n rank : ℕ}
    (h : SenderStage c s (f :: fs) false n rank) (hanswers : f.answers s (.value none) = true) :
    SenderStage c s (f :: fs) true n rank := by
  cases h with
  | entry => exact .entry
  | getting => exact .getting fun _ => by simpa [Frame.answers] using hanswers
  | sending chunk => exact .sending chunk

/-- A suspended finalizer that is resumed. -/
lemma FinalizerStage.of_answers {s : Service} {f : Frame} {fs : List Frame} {phase : Phase}
    (h : FinalizerStage config s₀ c s phase (f :: fs) false moves)
    (hanswers : f.answers s (.value none) = true) :
    FinalizerStage config s₀ c s phase (f :: fs) true moves := by
  cases h with
  | sleeping => exact .sleeping
  | joining hdrained =>
    refine .joining hdrained fun _ => ?_
    simp only [Frame.answers, Bool.or_eq_true, beq_iff_eq, bne_iff_ne] at hanswers
    exact hanswers.elim id fun h => hdrained h
  | sending event => exact .sending event
  | waiting event => exact .waiting event

/-- Resuming the send loop. -/
lemma InProgress.resume_sender (h : InProgress config s₀ t u c w .nobody moves work)
    {f : Frame} {fs : List Frame} (hf : w.stack u = f :: fs)
    (hanswers : f.answers w.shared (.value none) = true) :
    InProgress config s₀ t u c { w with
      cancelled := Function.update w.cancelled u false
      running := some (u, .value none) } .sender moves work := by
  obtain ⟨hne, hspawned, hunmarked, hrun, hworks, phase, newer, n, rank, hhistory, htally, hphase,
    hfinalizer, hsender, hwork⟩ := h
  refine ⟨hne, hspawned, ⟨?_, ?_⟩, rfl, hworks, phase, newer, n, rank, hhistory, htally, hphase,
    hfinalizer, ?_, hwork⟩
  · exact (Function.update_of_ne hne _ _).trans hunmarked.1
  · exact Function.update_self ..
  · rw [hf] at hsender ⊢
    exact hsender.of_answers hanswers

/-- Resuming the finalizer. -/
lemma InProgress.resume_finalizer (h : InProgress config s₀ t u c w .nobody moves work)
    {f : Frame} {fs : List Frame} (hf : w.stack t = f :: fs)
    (hanswers : f.answers w.shared (.value none) = true) :
    InProgress config s₀ t u c { w with
      cancelled := Function.update w.cancelled t false
      running := some (t, .value none) } .finalizer moves work := by
  obtain ⟨hne, hspawned, hunmarked, hrun, hworks, phase, newer, n, rank, hhistory, htally, hphase,
    hfinalizer, hsender, hwork⟩ := h
  refine ⟨hne, hspawned, ⟨?_, ?_⟩, rfl, hworks, phase, newer, n, rank, hhistory, htally, hphase,
    ?_, hsender, hwork⟩
  · exact Function.update_self ..
  · exact (Function.update_of_ne hne.symm _ _).trans hunmarked.2
  · rw [hf] at hfinalizer ⊢
    exact hfinalizer.of_answers hanswers

/-- No frame of the two tasks awaits a task. -/
lemma InProgress.awaited (h : InProgress config s₀ t u c w turn moves work) {v : TaskId}
    (hv : v = t ∨ v = u) {f : Frame} {fs : List Frame} (hf : w.stack v = f :: fs) :
    f.awaited = none ∧ w.cancelled v = false := by
  obtain ⟨hne, hspawned, hunmarked, hrun, hworks, phase, newer, n, rank, hhistory, htally, hphase,
    hfinalizer, hsender, hwork⟩ := h
  rcases hv with rfl | rfl
  · rw [hf] at hfinalizer
    generalize (turn == .finalizer) = runs at hfinalizer
    refine ⟨?_, hunmarked.1⟩
    cases hfinalizer <;> rfl
  · rw [hf] at hsender
    generalize (turn == .sender) = runs at hsender
    refine ⟨?_, hunmarked.2⟩
    cases hsender <;> rfl

/-- What the others do keeps the two tasks on their way. -/
lemma InProgress.aside (h : InProgress config s₀ t u c w turn moves work)
    (hspawned : w.spawned ≤ w'.spawned) (haside : Aside t u c w w') :
    InProgress config s₀ t u c w' turn moves work := by
  obtain ⟨hapart, hapart'⟩ := haside.apart
  cases turn with
  | finalizer => exact absurd rfl (hapart _ _ h.running).1
  | sender => exact absurd rfl (hapart _ _ h.running).2
  | nobody =>
    refine ⟨h.ne, ⟨h.spawned.1.trans_le hspawned, h.spawned.2.trans_le hspawned⟩, ?_, hapart', ?_⟩
    · rw [haside.marks.1, haside.marks.2]
      exact h.unmarked
    · rw [haside.frames.1, haside.frames.2]
      exact h.underway.beside haside.shared

/-- So does a step of their own. -/
lemma InProgress.own (hfits : ¬ LosesFinalize config s₀)
    (hduration : 0 ≤ s₀.aggregateDurationMs) {a : ServiceAction}
    (h : InProgress config s₀ t u c w turn moves work) (ha : Own t u a) (hown : Unshared t u w)
    (hstep : (service config).step w a = some w') :
    ∃ turn moves work, InProgress config s₀ t u c w' turn moves work := by
  cases ha with
  | tick =>
    cases turn with
    | nobody =>
      cases (service config).step_cases hstep with
      | tick hrun hf =>
        obtain ⟨hne, hne'⟩ := h.running _ _ hrun
        exact absurd (hown _ _ hrun) (not_or.mpr ⟨hne, hne'⟩)
    | finalizer =>
      obtain ⟨w'', turn', moves', work', hstep', hnext, -⟩ := h.tick_finalizer hfits hduration
      obtain rfl := Option.some.inj (hstep'.symm.trans hstep)
      exact ⟨turn', moves', work', hnext.1⟩
    | sender =>
      obtain ⟨w'', turn', work', hstep', hnext, -⟩ := h.tick_sender
      obtain rfl := Option.some.inj (hstep'.symm.trans hstep)
      exact ⟨turn', moves, work', hnext.1⟩
  | @resume v hv =>
    cases (service config).step_cases hstep with
    | @resume _ _ f fs hrun hf hsignal =>
      obtain rfl : turn = .nobody := by
        cases turn with
        | nobody => rfl
        | finalizer => cases hrun.symm.trans h.running
        | sender => cases hrun.symm.trans h.running
      obtain ⟨hawaited, hmark⟩ := h.awaited hv hf
      have hanswers : (service config).answers w.shared f (.value none) = true := by
        have hawaited' : (service config).awaited f = none := hawaited
        simpa only [Coroutines.accepts, hmark, hawaited'] using hsignal
      rcases hv with rfl | rfl
      · exact ⟨_, _, _, h.resume_finalizer hf hanswers⟩
      · exact ⟨_, _, _, h.resume_sender hf hanswers⟩

/-- A bound for the moves the two tasks make. -/
def Turn.rank (turn : Turn) (moves work : ℕ) : ℕ :=
  2 * (10 * moves + work) + if turn = .nobody then 0 else 1

/-- Something is in flight or queued while the queue is unfinished. -/
lemma work_of_unfinished {s : Service} {n : ℕ} (htally : s.Tallied n) (hne : s.unfinished ≠ 0) :
    s.sendQueue ≠ [] ∨ n ≠ 0 := by
  by_contra hnone
  push Not at hnone
  have hunfinished := htally.unfinished
  rw [hnone.1, hnone.2] at hunfinished
  exact hne hunfinished

/-- A queue without unfinished chunks is empty. -/
lemma queue_of_unfinished {s : Service} {n : ℕ} (htally : s.Tallied n) (hzero : s.unfinished = 0) :
    s.sendQueue = [] := by
  have hunfinished := htally.unfinished
  exact List.length_eq_zero_iff.mp (by omega)

/-- While nobody runs and the utterance is active, the send loop has something to do, or the
finalizer goes on without sleeping. -/
lemma InProgress.goes_on (h : InProgress config s₀ t u c w .nobody moves work)
    (hactive : w.shared.utteranceActive = true) :
    (∃ f fs, w.stack u = f :: fs ∧ f.awaited = none ∧
      f.answers w.shared (.value none) = true) ∨
    ((∃ f fs, w.stack t = f :: fs ∧ f.awaited = none ∧
        f.answers w.shared (.value none) = true) ∧
      ¬ (w.shared.exceeds config s₀.aggregateChunk = true ∧ w.shared.sendQueue ≠ [])) := by
  obtain ⟨hne, hspawned, hunmarked, hrun, hworks, phase, newer, n, rank, hhistory, htally, hphase,
    hfinalizer, hsender, hwork⟩ := h
  have hsender' : SenderStage c w.shared (w.stack u) false n rank := hsender
  have hfinalizer' : FinalizerStage config s₀ c w.shared phase (w.stack t) false moves := hfinalizer
  generalize hts : w.stack t = ts at hfinalizer'
  cases hfinalizer' with
  | sleeping =>
    by_cases hfull : w.shared.exceeds config s₀.aggregateChunk = true ∧ w.shared.sendQueue ≠ []
    · exact .inl (hsender'.resumed (.inl hfull.2)).2
    · exact .inr ⟨⟨_, _, rfl, rfl, rfl⟩, hfull⟩
  | joining hdrained hdone =>
    by_cases hzero : w.shared.unfinished = 0
    · refine .inr ⟨⟨_, _, rfl, rfl, by simp [Frame.answers, hzero]⟩, fun hfull => hfull.2 ?_⟩
      exact queue_of_unfinished htally hzero
    · exact .inl (hsender'.resumed (work_of_unfinished htally hzero)).2
  | sending event =>
    refine .inr ⟨⟨_, _, rfl, rfl, rfl⟩, fun hfull => hfull.2 ?_⟩
    exact queue_of_unfinished htally hphase.2.1
  | waiting event => cases hphase.1.symm.trans hactive
  | done => cases hphase.1.symm.trans hactive

/-- The two tasks make progress until the utterance ends. -/
lemma InProgress.progress (hfits : ¬ LosesFinalize config s₀)
    (hduration : 0 ≤ s₀.aggregateDurationMs)
    (h : InProgress config s₀ t u c w turn moves work) (hown : Unshared t u w)
    (hactive : ¬ w.shared.utteranceActive = false) :
    ∃ as w' turn' moves' work', (∀ a ∈ as, Own t u a) ∧
      (service config).system.run w as = some w' ∧
      (InProgress config s₀ t u c w' turn' moves' work' ∧ Unshared t u w') ∧
      turn'.rank moves' work' < turn.rank moves work := by
  have hbit : ∀ turn : Turn, (if turn = .nobody then 0 else 1) ≤ 1 := by
    intro turn
    split <;> omega
  cases turn with
  | sender =>
    obtain ⟨w', turn', work', hstep, hnext, hlt⟩ := h.tick_sender
    refine ⟨[.tick], w', turn', moves, work', by simpa using .tick, ?_, hnext, ?_⟩
    · exact StepSystem.run_cons_eq_some.mpr ⟨w', hstep, rfl⟩
    · have hle := hbit turn'
      simp only [Turn.rank, reduceCtorEq, if_false]
      omega
  | finalizer =>
    obtain ⟨w', turn', moves', work', hstep, hnext, hless⟩ := h.tick_finalizer hfits hduration
    refine ⟨[.tick], w', turn', moves', work', by simpa using .tick, ?_, hnext, ?_⟩
    · exact StepSystem.run_cons_eq_some.mpr ⟨w', hstep, rfl⟩
    · have hle := hbit turn'
      rcases hless with ⟨hmoves, hwork⟩ | ⟨-, rfl, rfl, rfl⟩
      · simp only [Turn.rank, reduceCtorEq, if_false]
        omega
      · simp only [Turn.rank, reduceCtorEq, if_false, if_true]
        omega
  | nobody =>
    have hrun : w.running = none := by
      by_contra hsome
      obtain ⟨⟨v, signal⟩, hrun⟩ := Option.ne_none_iff_exists'.mp hsome
      exact absurd (hown v signal hrun) (not_or.mpr (h.running v signal hrun))
    rcases h.goes_on (by simpa using hactive) with
      ⟨f, fs, hf, hawaited, hanswers⟩ | ⟨⟨f, fs, hf, hawaited, hanswers⟩, hroom⟩
    · have hresume := step_resume config hrun hf h.unmarked.2 hawaited hanswers
      obtain ⟨w', turn', work', hstep, hnext, hlt⟩ := (h.resume_sender hf hanswers).tick_sender
      refine ⟨[.resume u (.value none), .tick], w', turn', moves, work', ?_, ?_, hnext, ?_⟩
      · exact List.forall_mem_cons.mpr ⟨.resume (.inr rfl), by simpa using .tick⟩
      · exact StepSystem.run_cons_eq_some.mpr ⟨_, hresume,
          StepSystem.run_cons_eq_some.mpr ⟨w', hstep, rfl⟩⟩
      · have hle := hbit turn'
        simp only [Turn.rank, if_true]
        omega
    · have hresume := step_resume config hrun hf h.unmarked.1 hawaited hanswers
      obtain ⟨w', turn', moves', work', hstep, hnext, hless⟩ :=
        (h.resume_finalizer hf hanswers).tick_finalizer hfits hduration
      refine ⟨[.resume t (.value none), .tick], w', turn', moves', work', ?_, ?_, hnext, ?_⟩
      · exact List.forall_mem_cons.mpr ⟨.resume (.inl rfl), by simpa using .tick⟩
      · exact StepSystem.run_cons_eq_some.mpr ⟨_, hresume,
          StepSystem.run_cons_eq_some.mpr ⟨w', hstep, rfl⟩⟩
      · have hle := hbit turn'
        rcases hless with ⟨hmoves, hwork⟩ | ⟨hsleeps, -⟩
        · simp only [Turn.rank, if_true]
          omega
        · exact absurd hsleeps hroom

end

/-! ## What the others may do -/

section

variable {config : LocalSTTConfig} {c : ℕ} {signal : ServiceSignal} {w : ServiceWorld}
  {t u v : TaskId} {f : Frame} {fs : List Frame}

/-- A call of the application is calm. -/
lemma calm_call {k : Call} (ht : t < w.spawned) (hu : u < w.spawned) :
    Calm config t u c w (.call k) := by
  refine .aside fun w' hstep => ?_
  cases (service config).step_cases hstep with
  | call hrun hk =>
    refine ⟨.refl _, ⟨Function.update_of_ne ht.ne _ _, Function.update_of_ne hu.ne _ _⟩,
      ⟨rfl, rfl⟩, fun v signal hv => ?_, fun v signal hv => ?_⟩
    · cases hrun.symm.trans hv
    · cases hrun.symm.trans hv

/-- So is the resumption of another task. -/
lemma calm_resume (ht : v ≠ t) (hu : v ≠ u) : Calm config t u c w (.resume v signal) := by
  refine .aside fun w' hstep => ?_
  cases (service config).step_cases hstep with
  | resume hrun hf hsignal =>
    refine ⟨.refl _, ⟨rfl, rfl⟩,
      ⟨Function.update_of_ne ht.symm _ _, Function.update_of_ne hu.symm _ _⟩,
      fun v' signal' hv => ?_, fun v' signal' hv => ?_⟩
    · cases hrun.symm.trans hv
    · obtain ⟨rfl, -⟩ := Prod.mk.inj (Option.some.inj hv)
      exact ⟨ht, hu⟩

/-- And another connection may break. -/
lemma calm_outside {connection : ℕ} (hne : connection ≠ c) :
    Calm config t u c w (.outside connection) := by
  refine .aside fun w' hstep => ?_
  cases (service config).step_cases hstep with
  | outside hrun =>
    refine ⟨⟨rfl, fun hmem => ?_, id, [], rfl, by simp⟩, ⟨rfl, rfl⟩, ⟨rfl, rfl⟩,
      fun v signal hv => ?_, fun v signal hv => ?_⟩
    · exact (List.mem_cons.mp hmem).resolve_left hne.symm
    · cases hrun.symm.trans hv
    · cases hrun.symm.trans hv

/-- **Server events and frames are let in**: the moves of another task are calm while its frame
stands aside, unless a final transcript ends the utterance. -/
theorem calm_tick (hconfig : config.Checked) (ht : t < w.spawned) (hu : u < w.spawned)
    (hvt : v ≠ t) (hvu : v ≠ u) (hrun : w.running = some (v, signal)) (hf : w.stack v = f :: fs)
    (haside : f.standsAside = true)
    (hactive : (frameMove config v w.spawned w.shared f signal).shared.utteranceActive =
      w.shared.utteranceActive) :
    Calm config t u c w .tick := by
  refine .aside fun w' hstep => ?_
  obtain rfl := Option.some.inj ((step_tick hrun hf).symm.trans hstep)
  have hcancel : (frameMove config v w.spawned w.shared f signal).cancel = [] := by
    refine (frameMove_stays config v w.spawned w.shared signal f).cancel.resolve_right ?_
    rintro ⟨cancelCurrent, hcall⟩
    cases f <;> simp [Frame.call, Frame.standsAside] at hcall haside
  refine ⟨?_, ⟨?_, ?_⟩, ⟨?_, ?_⟩, fun v' signal' hv => ?_, fun v' signal' hv => ?_⟩
  · rw [Coroutines.apply_shared]
    exact frameMove_beside hconfig haside hactive
  · exact Coroutines.apply_stack_of_ne _ _ _ _ _ hvt.symm ht
  · exact Coroutines.apply_stack_of_ne _ _ _ _ _ hvu.symm hu
  · rw [Coroutines.apply_cancelled, hcancel]
    rfl
  · rw [Coroutines.apply_cancelled, hcancel]
    rfl
  · obtain ⟨rfl, -⟩ := Prod.mk.inj (Option.some.inj (hrun.symm.trans hv))
    exact ⟨hvt, hvu⟩
  · obtain rfl := Coroutines.running_task hv
    exact ⟨hvt, hvu⟩

end

/-! ## Two runs -/

section

variable {w : ServiceWorld} {t u : TaskId} {c : ℕ}

end

end RtcAsr.Plugin