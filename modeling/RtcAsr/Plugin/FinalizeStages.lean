import RtcAsr.Plugin.SendOrder
import RtcAsr.Plugin.SendQueue

/-!
# The stages of a finalize

While `finalize_current_utterance` runs in one task, the send loop empties the queue in another one.
The stages of the two tasks, with the moves that are left to them, and what holds of the messages
sent since the call, are the invariant `Underway`; a move of either task keeps it and brings the
task closer to its end (`sender_tick`, `finalizer_tick`).
-/

namespace RtcAsr.Plugin

/-! ## The messages of an utterance that ends -/

/-- A finalize message is sent. -/
def Happening.isFinalize : Happening → Bool
  | .sent _ .finalize => true
  | _ => false

/-- The chunk was sent, or counted as dropped. -/
def Accounted (happenings : List Happening) (chunk : AudioChunk) : Prop :=
  (∃ c, .sent c (.audio chunk) ∈ happenings) ∨ .dropped chunk ∈ happenings

/-- The chunks of the utterance in the queue of `s₀`, and the one in its aggregate buffer, are
accounted for. -/
structure Delivered (s₀ : Service) (happenings : List Happening) : Prop where
  queued : ∀ chunk ∈ s₀.sendQueue, chunk.generation = s₀.generation → Accounted happenings chunk
  aggregated : s₀.aggregateBuffer ≠ [] →
    ∃ n, Accounted happenings { s₀.aggregateChunk with number := n }

/-- One finalize message is sent, after the audio. -/
def FinalizedLast (s₀ : Service) (happenings : List Happening) : Prop :=
  ∃ later c older, happenings = later ++ .sent c .finalize :: older ∧
    (∀ h ∈ later, h.isFinalize = false) ∧ (∀ h ∈ older, h.isFinalize = false) ∧
    (∀ h ∈ later, h.isSentAudio = false) ∧ Delivered s₀ older

/-- The last chunk does not fit, and the policy is `raise`. -/
def LosesFinalize (config : LocalSTTConfig) (s : Service) : Prop :=
  config.dropPolicy = .raise ∧ s.aggregateBuffer ≠ [] ∧ s.exceeds config s.aggregateChunk = true
/-! ## The two tasks -/

/-- The connection of the utterance works. -/
structure Works (s₀ : Service) (u : TaskId) (c : ℕ) (s : Service) : Prop where
  websocket : s.websocket = some c
  unbroken : c ∉ s.broken
  opened : s.closed = false
  sendTask : s.sendTask = some u
  generation : s.generation = s₀.generation

/-- The stages of the send loop, with the chunks it has in flight and what is left of its round;
`runs` says that the task runs. -/
inductive SenderStage (c : ℕ) (s : Service) : List Frame → Bool → ℕ → ℕ → Prop
  | entry {runs : Bool} : SenderStage c s [.sendLoop .entry] runs 0 1
  | getting {runs : Bool} (hqueue : runs = true → s.sendQueue ≠ []) :
      SenderStage c s [.sendLoop .getting] runs 0 0
  | handing (chunk : AudioChunk) :
      SenderStage c s [.sendWs (.audio chunk) true true .entry, .sendLoop (.sending chunk)] true 1 4
  | sending (chunk : AudioChunk) {runs : Bool} :
      SenderStage c s
        [.sendWs (.audio chunk) true true (.sending c true), .sendLoop (.sending chunk)] runs 1 3
  | sent (chunk : AudioChunk) : SenderStage c s [.sendLoop (.sending chunk)] true 1 2

/-- How far the finalize is. -/
inductive Phase
  /-- The queue is not known to be drained; `flushed` says that the aggregate buffer was
  enqueued. -/
  | collecting (flushed : Bool)
  | drained
  | sent
  | ended

/-- The frames of a finalize that a VAD stop frame asked for. -/
abbrev finalizing (pc : FinalizePc) : List Frame :=
  [.finalizeCurrentUtterance pc, .processFrame .userStoppedSpeaking .handling]

/-- The stages of the finalize, with the moves that are left. -/
inductive FinalizerStage (config : LocalSTTConfig) (s₀ : Service) (c : ℕ) (s : Service) :
    Phase → List Frame → Bool → ℕ → Prop
  | entry (hs : s = s₀) :
      FinalizerStage config s₀ c s (.collecting false) (finalizing .entry) true 14
  | enqueueing (hs : s = s₀.flushAggregateBuffer.1) (hbuffer : s₀.aggregateBuffer ≠ []) :
      FinalizerStage config s₀ c s (.collecting false)
        (.enqueueChunk s₀.aggregateChunk .entry ::
          finalizing (.enqueueing s₀.generation s₀.aggregateChunk)) true 13
  | sleeping {runs : Bool} :
      FinalizerStage config s₀ c s (.collecting false)
        (.enqueueChunk s₀.aggregateChunk .sleeping ::
          finalizing (.enqueueing s₀.generation s₀.aggregateChunk)) runs 12
  | enqueued :
      FinalizerStage config s₀ c s (.collecting true)
        (finalizing (.enqueueing s₀.generation s₀.aggregateChunk)) true 11
  | joining {drained : ℕ} {runs : Bool} (hdrained : s.drained ≠ drained → s.unfinished = 0)
      (hdone : runs = true → s.unfinished = 0) :
      FinalizerStage config s₀ c s (.collecting true)
        (finalizing (.joining s₀.generation drained)) runs 10
  | controlling (event : ℕ) :
      FinalizerStage config s₀ c s .drained
        (.sendControl .finalize .entry :: finalizing (.sending s₀.generation event)) true 9
  | ensuring (event : ℕ) :
      FinalizerStage config s₀ c s .drained
        (.ensureConnection .entry :: .sendControl .finalize .connecting ::
          finalizing (.sending s₀.generation event)) true 8
  | ensured (event : ℕ) :
      FinalizerStage config s₀ c s .drained
        (.sendControl .finalize .connecting :: finalizing (.sending s₀.generation event)) true 7
  | handing (event : ℕ) :
      FinalizerStage config s₀ c s .drained
        (.sendWs .finalize false false .entry :: .sendControl .finalize .sending ::
          finalizing (.sending s₀.generation event)) true 6
  | sending (event : ℕ) {runs : Bool} :
      FinalizerStage config s₀ c s .sent
        (.sendWs .finalize false false (.sending c true) :: .sendControl .finalize .sending ::
          finalizing (.sending s₀.generation event)) runs 5
  | sent (event : ℕ) :
      FinalizerStage config s₀ c s .sent
        (.sendControl .finalize .sending :: finalizing (.sending s₀.generation event)) true 4
  | ending (event : ℕ) :
      FinalizerStage config s₀ c s .sent (finalizing (.sending s₀.generation event)) true 3
  | waiting (event : ℕ) {runs : Bool} :
      FinalizerStage config s₀ c s .ended (finalizing (.waiting s₀.generation event)) runs 2
  | returning :
      FinalizerStage config s₀ c s .ended [.processFrame .userStoppedSpeaking .handling] true 1
  | done : FinalizerStage config s₀ c s .ended [] false 0

/-- The chunk is accounted for, still queued, or about to be handed over by the send loop. -/
def Kept (us : List Frame) (newer : List Happening) (s : Service) (chunk : AudioChunk) : Prop :=
  Accounted newer chunk ∨ chunk ∈ s.sendQueue ∨
    us.head? = some (.sendWs (.audio chunk) true true .entry)

/-- What holds in a phase, `us` being the frames of the send loop and `newer` what happened since
the call. -/
def Phase.Holds (s₀ : Service) (us : List Frame) (newer : List Happening) (s : Service) :
    Phase → Prop
  | .collecting flushed =>
    s.utteranceActive = true ∧ (∀ h ∈ newer, h.isFinalize = false) ∧
      (∀ chunk ∈ s₀.sendQueue, chunk.generation = s₀.generation → Kept us newer s chunk) ∧
      (flushed = true → s₀.aggregateBuffer ≠ [] →
        ∃ n, Kept us newer s { s₀.aggregateChunk with number := n })
  | .drained =>
    s.utteranceActive = true ∧ (∀ h ∈ newer, h.isFinalize = false) ∧ s.unfinished = 0 ∧
      Delivered s₀ newer
  | .sent => s.utteranceActive = true ∧ s.unfinished = 0 ∧ FinalizedLast s₀ newer
  | .ended => s.utteranceActive = false ∧ s.unfinished = 0 ∧ FinalizedLast s₀ newer

/-- Whose turn it is. -/
inductive Turn
  | nobody
  | finalizer
  | sender
  deriving DecidableEq

/-- The two tasks on their way: the state of the service, the frames of the tasks, and whose turn it
is, with the moves left to the finalizer and the work left to the sender. -/
structure Underway (config : LocalSTTConfig) (s₀ : Service) (u : TaskId) (c : ℕ) (s : Service)
    (ts us : List Frame) (turn : Turn) (moves work : ℕ) : Prop where
  works : Works s₀ u c s
  stages : ∃ phase newer n rank,
    s.history = newer ++ s₀.history ∧ s.Tallied n ∧ phase.Holds s₀ us newer s ∧
      FinalizerStage config s₀ c s phase ts (turn == .finalizer) moves ∧
      SenderStage c s us (turn == .sender) n rank ∧ work = 5 * s.sendQueue.length + rank

/-! ## Where a move leads -/

/-- The frames of the running task after a command, and whether it goes on. -/
def landing (fs : List Frame) : Command Frame Call PluginExn → Option (List Frame × Bool)
  | .await f => some (f :: fs, false)
  | .call f k => some (k.enter :: f :: fs, true)
  | .ret => some (fs, !fs.isEmpty)
  | .throw _ => none

/-- The move neither raises nor starts or stops tasks, and leads to these frames. -/
structure Lands (m : ServiceMove) (fs fs' : List Frame) (runs : Bool) : Prop where
  spawn : m.spawn = []
  cancel : m.cancel = []
  landing : landing fs m.command = some (fs', runs)

section

variable {config : LocalSTTConfig} {w : ServiceWorld} {t u : TaskId} {fs fs' : List Frame}
  {m : ServiceMove} {runs : Bool}

lemma Lands.stack (h : Lands m fs fs' runs) : ((service config).apply w t fs m).stack t = fs' := by
  have hlanding := h.landing
  rw [Coroutines.apply_stack, Function.update_self]
  cases hcommand : m.command with
  | await f =>
    rw [hcommand] at hlanding
    exact (Prod.mk.inj (Option.some.inj hlanding)).1
  | call f k =>
    rw [hcommand] at hlanding
    exact (Prod.mk.inj (Option.some.inj hlanding)).1
  | ret =>
    rw [hcommand] at hlanding
    exact (Prod.mk.inj (Option.some.inj hlanding)).1
  | throw e =>
    rw [hcommand] at hlanding
    cases hlanding

variable (config) in
lemma Lands.running (h : Lands m fs fs' runs) :
    ((service config).apply w t fs m).running =
      if runs = true then some (t, .value none) else none := by
  have hlanding := h.landing
  unfold Coroutines.apply
  cases hcommand : m.command with
  | await f =>
    rw [hcommand] at hlanding
    obtain rfl := (Prod.mk.inj (Option.some.inj hlanding)).2
    rfl
  | call f k =>
    rw [hcommand] at hlanding
    obtain rfl := (Prod.mk.inj (Option.some.inj hlanding)).2
    rfl
  | ret =>
    rw [hcommand] at hlanding
    obtain rfl := (Prod.mk.inj (Option.some.inj hlanding)).2
    cases fs <;> rfl
  | throw e =>
    rw [hcommand] at hlanding
    cases hlanding

lemma Lands.cancelled (h : Lands m fs fs' runs) :
    ((service config).apply w t fs m).cancelled = w.cancelled := by
  rw [Coroutines.apply_cancelled, h.cancel]
  rfl

lemma Lands.spawned (h : Lands m fs fs' runs) :
    ((service config).apply w t fs m).spawned = w.spawned := by
  rw [Coroutines.apply_spawned, h.spawn, List.length_nil, Nat.add_zero]

end

/-! ## What is kept -/

section

variable {config : LocalSTTConfig} {s₀ s s' : Service} {us us' ts : List Frame}
  {newer newer' : List Happening} {c : ℕ} {n moves rank : ℕ} {phase : Phase} {chunk : AudioChunk}

lemma Accounted.mono (h : Accounted newer chunk) (hsub : newer ⊆ newer') :
    Accounted newer' chunk :=
  h.imp (fun ⟨c, hc⟩ => ⟨c, hsub hc⟩) fun hd => hsub hd

/-- A chunk is outstanding only while chunks are collected. -/
lemma Phase.Holds.collecting (h : phase.Holds s₀ us newer s) (hne : s.unfinished ≠ 0) :
    ∃ flushed, phase = .collecting flushed := by
  cases phase with
  | collecting flushed => exact ⟨flushed, rfl⟩
  | drained => exact absurd h.2.2.1 hne
  | sent => exact absurd h.2.1 hne
  | ended => exact absurd h.2.1 hne

/-- A step that keeps every chunk of the utterance. -/
lemma Phase.Holds.mono {flushed : Bool} (h : (Phase.collecting flushed).Holds s₀ us newer s)
    (hactive : s'.utteranceActive = s.utteranceActive)
    (hunsent : ∀ h ∈ newer', h.isFinalize = true → h ∈ newer)
    (hkept : ∀ chunk, chunk.generation = s₀.generation → Kept us newer s chunk →
      Kept us' newer' s' chunk) :
    (Phase.collecting flushed).Holds s₀ us' newer' s' := by
  obtain ⟨hact, hnone, hqueued, haggregated⟩ := h
  refine ⟨hactive.trans hact, fun h hmem => ?_, fun chunk hmem hgen => hkept chunk hgen
    (hqueued chunk hmem hgen), fun hflushed hbuffer => ?_⟩
  · cases hfin : h.isFinalize with
    | false => rfl
    | true => exact hfin.symm.trans (hnone h (hunsent h hmem hfin))
  · obtain ⟨n, hn⟩ := haggregated hflushed hbuffer
    exact ⟨n, hkept _ rfl hn⟩

/-- A suspended send loop is where it was, whatever the others did. -/
lemma SenderStage.suspended (h : SenderStage c s us false n rank) (s' : Service) :
    SenderStage c s' us false n rank := by
  cases h with
  | entry => exact .entry
  | getting => exact .getting fun h => nomatch h
  | sending chunk => exact .sending chunk

/-- So is a suspended finalizer, as long as a drained queue stays drained. -/
lemma FinalizerStage.suspended (h : FinalizerStage config s₀ c s phase ts false moves)
    (hdrained : ∀ drained, (s.drained ≠ drained → s.unfinished = 0) →
      s'.drained ≠ drained → s'.unfinished = 0) :
    FinalizerStage config s₀ c s' phase ts false moves := by
  cases h with
  | sleeping => exact .sleeping
  | joining hdrained' hdone => exact .joining (hdrained _ hdrained') fun h => nomatch h
  | sending event => exact .sending event
  | waiting event => exact .waiting event
  | done => exact .done

end

/-! ## The send loop -/

section

variable {config : LocalSTTConfig} {s₀ s : Service} {u : TaskId} {c : ℕ}
  {ts fs : List Frame} {f : Frame} {moves work : ℕ}

/-- The head of the loop goes back to the queue. -/
lemma sendLoopHead_lands (hclosed : s.closed = false) :
    Lands (sendLoopHead s) [] [.sendLoop .getting] false ∧ (sendLoopHead s).shared = s := by
  have hhead : sendLoopHead s = .await s (.sendLoop .getting) := by
    rw [sendLoopHead, hclosed]
    rfl
  rw [hhead]
  exact ⟨⟨rfl, rfl, rfl⟩, rfl⟩

/-- A finished chunk leaves a drained queue drained. -/
lemma taskDone_drained (s : Service) (drained : ℕ)
    (h : s.drained ≠ drained → s.unfinished = 0) (hne : s.taskDone.drained ≠ drained) :
    s.taskDone.unfinished = 0 := by
  unfold Service.taskDone at hne ⊢
  simp only at hne ⊢
  split_ifs at hne with hone
  · omega
  · have hzero := h hne
    omega

/-- The send loop takes a chunk, and hands it on if it belongs to the utterance. -/
lemma getting_tick {phase : Phase} {newer : List Happening} {chunk : AudioChunk}
    {rest : List AudioChunk} (next : TaskId) (hworks : Works s₀ u c s)
    (hhistory : s.history = newer ++ s₀.history) (htally : s.Tallied 0)
    (hphase : phase.Holds s₀ [.sendLoop .getting] newer s)
    (hfinalizer : FinalizerStage config s₀ c s phase ts false moves)
    (hcons : s.sendQueue = chunk :: rest) :
    ∃ us runs work',
      Lands (frameMove config u next s (.sendLoop .getting) (.value none)) [] us runs ∧
      Underway config s₀ u c (frameMove config u next s (.sendLoop .getting) (.value none)).shared
        ts us (if runs = true then .sender else .nobody) moves work' ∧
      work' < 5 * s.sendQueue.length + 0 := by
  have hunfinished := htally.unfinished
  rw [hcons, List.length_cons] at hunfinished ⊢
  obtain ⟨flushed, rfl⟩ := hphase.collecting (by omega)
  have hloop : ∀ chunk', chunk' ∈ s.sendQueue → chunk' = chunk ∨ chunk' ∈ rest := by
    intro chunk' hmem
    rw [hcons] at hmem
    exact List.mem_cons.mp hmem
  by_cases hgen : chunk.generation = s.generation
  · have hmove : frameMove config u next s (.sendLoop .getting) (.value none) =
        .call (s.takeChunk chunk rest) (.sendLoop (.sending chunk)) (.send (.audio chunk)) := by
      simp only [frameMove, sendLoop, hcons, if_pos hgen]
    rw [hmove]
    refine ⟨_, true, 5 * rest.length + 4, ⟨rfl, rfl, rfl⟩, ⟨⟨hworks.websocket, hworks.unbroken,
      hworks.opened, hworks.sendTask, hworks.generation⟩, .collecting flushed, newer, 1, 4,
      hhistory, htally.takeChunk hcons, ?_, hfinalizer.suspended fun _ h => h, .handing chunk,
      rfl⟩, by omega⟩
    refine hphase.mono rfl (fun _ h _ => h) fun chunk' _ hkept => ?_
    rcases hkept with hdone | hmem | hhead
    · exact .inl hdone
    · rcases hloop chunk' hmem with rfl | hrest
      · exact .inr (.inr rfl)
      · exact .inr (.inl hrest)
    · cases hhead
  · have hmove : frameMove config u next s (.sendLoop .getting) (.value none) =
        sendLoopHead (s.takeChunk chunk rest).taskDone := by
      simp only [frameMove, sendLoop, hcons, if_neg hgen]
    obtain ⟨hlands, hshared⟩ := sendLoopHead_lands (s := (s.takeChunk chunk rest).taskDone)
      hworks.opened
    rw [hmove, hshared]
    refine ⟨_, false, 5 * rest.length, hlands, ⟨⟨hworks.websocket, hworks.unbroken,
      hworks.opened, hworks.sendTask, hworks.generation⟩, .collecting flushed, newer, 0, 0,
      hhistory, (htally.takeChunk hcons).taskDone, ?_, hfinalizer.suspended fun drained =>
        taskDone_drained (s.takeChunk chunk rest) drained, .getting (by rintro ⟨⟩), rfl⟩,
      by omega⟩
    refine hphase.mono rfl (fun _ h _ => h) fun chunk' hgen' hkept => ?_
    rcases hkept with hdone | hmem | hhead
    · exact .inl hdone
    · rcases hloop chunk' hmem with rfl | hrest
      · exact absurd (hgen'.trans hworks.generation.symm) hgen
      · exact .inr (.inl hrest)
    · cases hhead

/-- **A move of the send loop** lessens its work. -/
lemma sender_tick (next : TaskId) (h : Underway config s₀ u c s ts (f :: fs) .sender moves work) :
    ∃ us runs work', Lands (frameMove config u next s f (.value none)) fs us runs ∧
      Underway config s₀ u c (frameMove config u next s f (.value none)).shared ts us
        (if runs = true then .sender else .nobody) moves work' ∧ work' < work := by
  obtain ⟨hworks, phase, newer, n, rank, hhistory, htally, hphase, hfinalizer, hsender, rfl⟩ := h
  have hunfinished := htally.unfinished
  generalize hruns : (Turn.sender == .sender) = runs at hsender
  obtain rfl : runs = true := by rw [← hruns]; rfl
  have hidle : (Turn.sender == .finalizer) = false := rfl
  rw [hidle] at hfinalizer
  cases hsender with
  | entry =>
    obtain ⟨hlands, hshared⟩ := sendLoopHead_lands hworks.opened
    refine ⟨_, false, 5 * s.sendQueue.length, hlands, ?_, by omega⟩
    change Underway config s₀ u c (sendLoopHead s).shared ts [.sendLoop .getting] .nobody moves _
    rw [hshared]
    refine ⟨hworks, phase, newer, 0, 0, hhistory, htally, ?_, hfinalizer,
      .getting (by rintro ⟨⟩), rfl⟩
    cases phase with
    | collecting flushed =>
      exact hphase.mono rfl (fun _ h _ => h) fun chunk _ hkept =>
        hkept.imp_right fun hrest => hrest.imp_right fun hhead => by cases hhead
    | drained => exact hphase
    | sent => exact hphase
    | ended => exact hphase
  | getting hqueue =>
    obtain ⟨chunk, rest, hcons⟩ := List.exists_cons_of_ne_nil (hqueue rfl)
    exact getting_tick next hworks hhistory htally hphase hfinalizer hcons
  | handing chunk =>
    obtain ⟨flushed, rfl⟩ := hphase.collecting (by omega)
    have hmove : frameMove config u next s (.sendWs (.audio chunk) true true .entry) (.value none) =
        .await (s.record (.sent c (.audio chunk)))
          (.sendWs (.audio chunk) true true (.sending c true)) := by
      simp [frameMove, sendWs, hworks.websocket, Service.hand, hworks.unbroken]
    rw [hmove]
    refine ⟨_, false, 5 * s.sendQueue.length + 3, ⟨rfl, rfl, rfl⟩, ⟨⟨hworks.websocket,
      hworks.unbroken, hworks.opened, hworks.sendTask, hworks.generation⟩, .collecting flushed,
      .sent c (.audio chunk) :: newer, 1, 3, congrArg (List.cons _) hhistory, htally.congr rfl, ?_,
      hfinalizer.suspended fun _ h => h, .sending chunk, rfl⟩, by omega⟩
    refine hphase.mono rfl (fun h hmem hfin => ?_) fun chunk' _ hkept => ?_
    · rcases List.mem_cons.mp hmem with rfl | hmem
      · cases hfin
      · exact hmem
    · rcases hkept with hdone | hmem | hhead
      · exact .inl (hdone.mono (List.subset_cons_self _ _))
      · exact .inr (.inl hmem)
      · obtain rfl : chunk = chunk' := by
          injection Option.some.inj hhead with hpayload
          injection hpayload
        exact .inl (.inl ⟨c, List.mem_cons_self⟩)
  | sending chunk =>
    obtain ⟨flushed, rfl⟩ := hphase.collecting (by omega)
    refine ⟨_, true, 5 * s.sendQueue.length + 2, ⟨rfl, rfl, rfl⟩, ⟨hworks, .collecting flushed,
      newer, 1, 2, hhistory, htally, ?_, hfinalizer, .sent chunk, rfl⟩, by omega⟩
    exact hphase.mono rfl (fun _ h _ => h) fun chunk' _ hkept =>
      hkept.imp_right fun hrest => hrest.imp_right fun hhead => by cases hhead
  | sent chunk =>
    obtain ⟨flushed, rfl⟩ := hphase.collecting (by omega)
    obtain ⟨hlands, hshared⟩ := sendLoopHead_lands (s := s.taskDone) hworks.opened
    have hmove : frameMove config u next s (.sendLoop (.sending chunk)) (.value none) =
        sendLoopHead s.taskDone := by
      simp only [frameMove, sendLoop, if_pos hworks.sendTask]
    rw [hmove, hshared]
    refine ⟨_, false, 5 * s.sendQueue.length, hlands, ⟨⟨hworks.websocket, hworks.unbroken,
      hworks.opened, hworks.sendTask, hworks.generation⟩, .collecting flushed, newer, 0, 0,
      hhistory, htally.taskDone, ?_, hfinalizer.suspended (taskDone_drained s),
      .getting (by rintro ⟨⟩), rfl⟩, by omega⟩
    exact hphase.mono rfl (fun _ h _ => h) fun chunk' _ hkept =>
      hkept.imp_right fun hrest => hrest.imp_right fun hhead => by cases hhead

end

/-! ## The finalizer -/

section

variable {config : LocalSTTConfig} {s₀ s s' : Service} {u : TaskId} {c n rank moves : ℕ}
  {us ts fs : List Frame} {f : Frame} {newer : List Happening} {phase : Phase} {chunk : AudioChunk}

/-- Chunks are collected, and the last one is among them if it is flushed; `room` bounds the
queue. -/
structure Collecting (s₀ : Service) (u : TaskId) (c : ℕ) (us : List Frame) (n room : ℕ)
    (flushed : Bool) (s : Service) : Prop where
  works : Works s₀ u c s
  tally : s.Tallied n
  room : s.sendQueue.length ≤ room
  holds : ∃ newer, s.history = newer ++ s₀.history ∧
    (Phase.collecting flushed).Holds s₀ us newer s

/-- Dropping the first chunk accounts for it. -/
lemma Collecting.dropFirst {room : ℕ} {flushed : Bool} {rest : List AudioChunk}
    (hqueue : s.sendQueue = chunk :: rest) (h : Collecting s₀ u c us n room flushed s) :
    Collecting s₀ u c us n room flushed (s.dropFirst chunk rest) := by
  obtain ⟨hworks, htally, hroom, newer, hhistory, hphase⟩ := h
  refine ⟨⟨hworks.websocket, hworks.unbroken, hworks.opened, hworks.sendTask, hworks.generation⟩,
    (htally.takeChunk hqueue).taskDone.congr rfl, ?_, .dropped chunk :: newer,
    congrArg (List.cons _) hhistory, ?_⟩
  · rw [hqueue, List.length_cons] at hroom
    exact (Nat.le_succ _).trans hroom
  · refine hphase.mono rfl (fun h hmem hfin => ?_) fun chunk' _ hkept => ?_
    · rcases List.mem_cons.mp hmem with rfl | hmem
      · cases hfin
      · exact hmem
    · rcases hkept with hdone | hmem | hhead
      · exact .inl (hdone.mono (List.subset_cons_self _ _))
      · rw [hqueue] at hmem
        rcases List.mem_cons.mp hmem with rfl | hrest
        · exact .inl (.inr List.mem_cons_self)
        · exact .inr (.inl hrest)
      · exact .inr (.inr hhead)

/-- The last chunk is put into the queue. -/
lemma Collecting.putChunk {room : ℕ} (h : Collecting s₀ u c us n room false s)
    (hduration : 0 ≤ s₀.aggregateDurationMs) :
    Collecting s₀ u c us n (room + 1) true (s.putChunk s₀.aggregateChunk) := by
  obtain ⟨hworks, htally, hroom, newer, hhistory, hactive, hunsent, hqueued, -⟩ := h
  have hkept : ∀ chunk, Kept us newer s chunk →
      Kept us newer (s.putChunk s₀.aggregateChunk) chunk := fun chunk hkept =>
    hkept.imp_right fun hrest => hrest.imp_left fun hmem => List.mem_append_left _ hmem
  refine ⟨⟨hworks.websocket, hworks.unbroken, hworks.opened, hworks.sendTask, hworks.generation⟩,
    htally.putChunk hduration, ?_, newer, hhistory, hactive, hunsent,
    fun chunk hmem hgen => hkept chunk (hqueued chunk hmem hgen), fun _ _ => ⟨s.enqueued, ?_⟩⟩
  · rw [Service.putChunk, List.length_append, List.length_singleton]
    omega
  · exact .inr (.inl (List.mem_append_right _ (List.mem_singleton.mpr rfl)))

/-- It is dropped. -/
lemma Collecting.countDropped {room : ℕ} (h : Collecting s₀ u c us n room false s) :
    Collecting s₀ u c us n room true (s.countDropped s₀.aggregateChunk) := by
  obtain ⟨hworks, htally, hroom, newer, hhistory, hactive, hunsent, hqueued, -⟩ := h
  refine ⟨⟨hworks.websocket, hworks.unbroken, hworks.opened, hworks.sendTask, hworks.generation⟩,
    htally.congr rfl, hroom, .dropped s₀.aggregateChunk :: newer, congrArg (List.cons _) hhistory,
    hactive, fun h hmem => ?_, fun chunk hmem hgen => ?_, fun _ _ => ⟨0, ?_⟩⟩
  · rcases List.mem_cons.mp hmem with rfl | hmem
    · rfl
    · exact hunsent h hmem
  · exact (hqueued chunk hmem hgen).imp_left fun hdone => hdone.mono (List.subset_cons_self _ _)
  · exact .inl (.inr List.mem_cons_self)

/-- The chunk is put into the queue behind what is left of it, or dropped. -/
lemma Collecting.enqueueDroppingOldest {room : ℕ} (h : Collecting s₀ u c us n room false s)
    (hduration : 0 ≤ s₀.aggregateDurationMs) :
    Collecting s₀ u c us n (room + 1) true (s.enqueueDroppingOldest config s₀.aggregateChunk) := by
  have hroom : Collecting s₀ u c us n room false (s.makeRoom config s₀.aggregateChunk) :=
    Service.dropWhile_keeps (fun _ _ _ hqueue h => h.dropFirst hqueue) _ _ h
  unfold Service.enqueueDroppingOldest
  split
  · have hdropped := hroom.countDropped
    exact ⟨hdropped.works, hdropped.tally, Nat.le_succ_of_le hdropped.room, hdropped.holds⟩
  · exact hroom.putChunk hduration

/-- The block loop sleeps on, or puts the chunk into the queue. -/
lemma Collecting.blockChunk {room : ℕ} (config : LocalSTTConfig)
    (h : Collecting s₀ u c us n room false s) (hduration : 0 ≤ s₀.aggregateDurationMs) :
    (blockChunk config s s₀.aggregateChunk = .await s (.enqueueChunk s₀.aggregateChunk .sleeping) ∧
      s.exceeds config s₀.aggregateChunk = true ∧ s.sendQueue ≠ []) ∨
    ∃ s', blockChunk config s s₀.aggregateChunk = .ret s' ∧
      Collecting s₀ u c us n (room + 1) true s' := by
  unfold Plugin.blockChunk
  split
  · rename_i hblocked
    rw [Bool.and_eq_true, Bool.not_eq_true', Bool.and_eq_false_iff] at hblocked
    obtain ⟨hexceeds, hwaits⟩ := hblocked
    refine .inl ⟨rfl, hexceeds, fun hempty => ?_⟩
    -- an empty queue holds no audio, so that the chunk alone is too long
    have hqueued : s.queuedAudioMs = 0 := by
      rw [h.tally.queued, hempty]
      rfl
    unfold Service.exceeds at hexceeds
    rw [hqueued, zero_add] at hexceeds
    rcases hwaits with hwaits | hwaits
    · rw [hempty] at hwaits
      cases hwaits
    · cases hexceeds.symm.trans hwaits
  · exact .inr ⟨_, rfl, h.putChunk hduration⟩

/-- The world after a move of the finalizer. -/
lemma underway_of_stage {runs : Bool} (hsender : SenderStage c s us false n rank)
    (hworks : Works s₀ u c s) (hhistory : s.history = newer ++ s₀.history) (htally : s.Tallied n)
    (hphase : phase.Holds s₀ us newer s)
    (hfinalizer : FinalizerStage config s₀ c s phase ts runs moves) :
    Underway config s₀ u c s ts us (if runs = true then .finalizer else .nobody) moves
      (5 * s.sendQueue.length + rank) := by
  refine ⟨hworks, phase, newer, n, rank, hhistory, htally, hphase, ?_, ?_, rfl⟩
  · cases runs
    · exact hfinalizer
    · exact hfinalizer
  · cases runs
    · exact hsender
    · exact hsender

/-- The move of a finalizer: it lands, and the finalizer has come closer to its end or sleeps on. -/
def Advances (config : LocalSTTConfig) (s₀ : Service) (u : TaskId) (c : ℕ) (us fs : List Frame)
    (moves work : ℕ) (sleeps : Prop) (m : ServiceMove) : Prop :=
  ∃ ts runs moves' work', Lands m fs ts runs ∧
    Underway config s₀ u c m.shared ts us (if runs = true then .finalizer else .nobody) moves'
      work' ∧
    (moves' < moves ∧ work' ≤ work + 5 ∨ sleeps ∧ moves' = moves ∧ work' = work ∧ runs = false)

/-- The chunk that is enqueued brings the finalizer on. -/
lemma Collecting.advances {s₁ : Service} {sleeps : Prop} (hsender : SenderStage c s us false n rank)
    (h : Collecting s₀ u c us n (s.sendQueue.length + 1) true s₁) (hmoves : 11 < moves) :
    Advances config s₀ u c us (finalizing (.enqueueing s₀.generation s₀.aggregateChunk)) moves
      (5 * s.sendQueue.length + rank) sleeps (.ret s₁) := by
  obtain ⟨hworks, htally, hroom, newer, hhistory, hphase⟩ := h
  exact ⟨_, true, 11, 5 * s₁.sendQueue.length + rank, ⟨rfl, rfl, rfl⟩,
    underway_of_stage (hsender.suspended s₁) hworks hhistory htally hphase .enqueued,
    .inl ⟨hmoves, by omega⟩⟩

/-- So does the block loop, or it sleeps on. -/
lemma Collecting.blockChunk_advances (hsender : SenderStage c s us false n rank)
    (h : Collecting s₀ u c us n s.sendQueue.length false s)
    (hduration : 0 ≤ s₀.aggregateDurationMs) (hmoves : 11 < moves)
    (hsleep : 12 ≤ moves) :
    Advances config s₀ u c us (finalizing (.enqueueing s₀.generation s₀.aggregateChunk)) moves
      (5 * s.sendQueue.length + rank)
      (s.exceeds config s₀.aggregateChunk = true ∧ s.sendQueue ≠ [])
      (Plugin.blockChunk config s s₀.aggregateChunk) := by
  rcases h.blockChunk config hduration with ⟨hblock, hwaits⟩ | ⟨s₁, hblock, hput⟩
  · obtain ⟨hworks, htally, -, newer, hhistory, hphase⟩ := h
    rw [hblock]
    refine ⟨_, false, 12, 5 * s.sendQueue.length + rank, ⟨rfl, rfl, rfl⟩,
      underway_of_stage hsender hworks hhistory htally hphase .sleeping, ?_⟩
    rcases hsleep.lt_or_eq with hlt | heq
    · exact .inl ⟨hlt, by omega⟩
    · exact .inr ⟨hwaits, heq, rfl, rfl⟩
  · rw [hblock]
    exact hput.advances hsender hmoves

/-- With the queue drained, what was kept is accounted for. -/
lemma Kept.accounted (hsender : SenderStage c s us false 0 rank) (hqueue : s.sendQueue = [])
    (h : Kept us newer s chunk) : Accounted newer chunk := by
  rcases h with hdone | hmem | hhead
  · exact hdone
  · rw [hqueue] at hmem
    cases hmem
  · cases hsender <;> cases hhead

/-- A move that leaves the queue alone and brings the finalizer to a later stage. -/
lemma advances_of_stage {sleeps : Prop} {m : ServiceMove} {runs : Bool} {moves' : ℕ}
    (hsender : SenderStage c s us false n rank) (hlands : Lands m fs ts runs)
    (hworks : Works s₀ u c m.shared) (hhistory : m.shared.history = newer ++ s₀.history)
    (htally : m.shared.Tallied n) (hphase : phase.Holds s₀ us newer m.shared)
    (hfinalizer : FinalizerStage config s₀ c m.shared phase ts runs moves') (hlt : moves' < moves)
    (hqueue : m.shared.sendQueue = s.sendQueue) :
    Advances config s₀ u c us fs moves (5 * s.sendQueue.length + rank) sleeps m := by
  refine ⟨ts, runs, moves', 5 * s.sendQueue.length + rank, hlands, ?_, .inl ⟨hlt, by omega⟩⟩
  rw [← hqueue]
  exact underway_of_stage (hsender.suspended _) hworks hhistory htally hphase hfinalizer

lemma flushAggregateBuffer_of_ne (h : s.aggregateBuffer ≠ []) :
    s.flushAggregateBuffer =
      ({ s with
          aggregateBuffer := []
          aggregateDurationMs := 0
          history := .aggregated s.aggregateChunk :: s.history }, some s.aggregateChunk) := by
  rw [Service.flushAggregateBuffer, if_neg (by simpa using h)]

lemma setdefaultFinal_eq (s : Service) (generation : ℕ) :
    ∃ events count, s.setdefaultFinal generation =
      { s with finalEvents := events, finalEventCount := count } := by
  unfold Service.setdefaultFinal
  split
  · exact ⟨s.finalEvents, s.finalEventCount, rfl⟩
  · exact ⟨_, _, rfl⟩

/-- What happens later than the finalize message is no audio. -/
lemma FinalizedLast.cons {h : Happening} (hlast : FinalizedLast s₀ newer)
    (hfinalize : h.isFinalize = false) (haudio : h.isSentAudio = false) :
    FinalizedLast s₀ (h :: newer) := by
  obtain ⟨later, c, older, rfl, hlater, holder, hafter, hdelivered⟩ := hlast
  exact ⟨h :: later, c, older, rfl, List.forall_mem_cons.mpr ⟨hfinalize, hlater⟩, holder,
    List.forall_mem_cons.mpr ⟨haudio, hafter⟩, hdelivered⟩

/-! ## The moves of the finalizer -/

variable (config) in
/-- The call begins: the aggregate buffer is flushed, or there is nothing to flush. -/
lemma entry_advances {sleeps : Prop} (me next : TaskId) (hsender : SenderStage c s us false n rank)
    (hworks : Works s u c s) (hhistory : s.history = newer ++ s.history) (htally : s.Tallied n)
    (hphase : (Phase.collecting false).Holds s us newer s) :
    Advances config s u c us [.processFrame .userStoppedSpeaking .handling] 14
      (5 * s.sendQueue.length + rank) sleeps
      (frameMove config me next s (.finalizeCurrentUtterance .entry) (.value none)) := by
  obtain ⟨hactive, hunsent, hqueued, -⟩ := hphase
  by_cases hbuffer : s.aggregateBuffer = []
  · have hmove : frameMove config me next s (.finalizeCurrentUtterance .entry) (.value none) =
        .await s (.finalizeCurrentUtterance (.joining s.generation s.drained)) := by
      simp [frameMove, finalizeCurrentUtterance, hactive, Service.flushAggregateBuffer, hbuffer]
    have hflushed : (Phase.collecting true).Holds s us newer s :=
      ⟨hactive, hunsent, hqueued, fun _ hne => absurd hbuffer hne⟩
    rw [hmove]
    exact advances_of_stage hsender ⟨rfl, rfl, rfl⟩ hworks hhistory htally hflushed
      (.joining (fun h => absurd rfl h) (by rintro ⟨⟩)) (by omega) rfl
  · have hflush := flushAggregateBuffer_of_ne hbuffer
    have hmove : frameMove config me next s (.finalizeCurrentUtterance .entry) (.value none) =
        .call s.flushAggregateBuffer.1
          (.finalizeCurrentUtterance (.enqueueing s.generation s.aggregateChunk))
          (.enqueueChunk s.aggregateChunk) := by
      simp [frameMove, finalizeCurrentUtterance, hactive, hflush]
    have hcollecting : (Phase.collecting false).Holds s us (.aggregated s.aggregateChunk :: newer)
        s.flushAggregateBuffer.1 := by
      rw [hflush]
      refine ⟨hactive, fun h hmem => ?_, fun chunk hmem hgen => ?_, by rintro ⟨⟩⟩
      · rcases List.mem_cons.mp hmem with rfl | hmem
        · rfl
        · exact hunsent h hmem
      · exact (hqueued chunk hmem hgen).imp_left fun hdone =>
          hdone.mono (List.subset_cons_self _ _)
    rw [hmove]
    refine advances_of_stage hsender ⟨rfl, rfl, rfl⟩ ?_ ?_ ?_ hcollecting
      (.enqueueing rfl hbuffer) (by omega) ?_
    · rw [hflush]
      exact ⟨hworks.websocket, hworks.unbroken, hworks.opened, hworks.sendTask,
        hworks.generation⟩
    · rw [hflush]
      exact congrArg (List.cons _) hhistory
    · rw [hflush]
      exact ⟨htally.unfinished, htally.queued, htally.durations, le_rfl⟩
    · rw [hflush]
      rfl

/-- The last chunk is enqueued, under each of the policies. -/
lemma enqueueing_advances (me next : TaskId) (hfits : ¬ LosesFinalize config s₀)
    (hduration : 0 ≤ s₀.aggregateDurationMs) (hsender : SenderStage c s us false n rank)
    (hcollecting : Collecting s₀ u c us n s.sendQueue.length false s)
    (hs : s = s₀.flushAggregateBuffer.1) (hbuffer : s₀.aggregateBuffer ≠ []) :
    Advances config s₀ u c us (finalizing (.enqueueing s₀.generation s₀.aggregateChunk)) 13
      (5 * s.sendQueue.length + rank)
      (s.exceeds config s₀.aggregateChunk = true ∧ s.sendQueue ≠ [])
      (frameMove config me next s (.enqueueChunk s₀.aggregateChunk .entry) (.value none)) := by
  have hexceeds : s.exceeds config s₀.aggregateChunk = s₀.exceeds config s₀.aggregateChunk := by
    rw [hs, flushAggregateBuffer_of_ne hbuffer]
    rfl
  have hdrop : Advances config s₀ u c us
      (finalizing (.enqueueing s₀.generation s₀.aggregateChunk)) 13
      (5 * s.sendQueue.length + rank)
      (s.exceeds config s₀.aggregateChunk = true ∧ s.sendQueue ≠ [])
      (.ret (s.enqueueDroppingOldest config s₀.aggregateChunk)) :=
    (hcollecting.enqueueDroppingOldest hduration).advances hsender (by omega)
  cases hpolicy : config.dropPolicy with
  | dropOldest =>
    simp only [frameMove, enqueueChunk, hpolicy]
    exact hdrop
  | block =>
    simp only [frameMove, enqueueChunk, hpolicy]
    exact hcollecting.blockChunk_advances hsender hduration (by omega) (by omega)
  | raise =>
    have hroom : ¬ s.exceeds config s₀.aggregateChunk = true := fun h =>
      hfits ⟨hpolicy, hbuffer, hexceeds ▸ h⟩
    simp only [frameMove, enqueueChunk, hpolicy, if_neg hroom]
    exact hdrop

/-- The queue is drained, and the finalize message is handed on. -/
lemma joining_advances {sleeps : Prop} {drained : ℕ} (me next : TaskId)
    (hsender : SenderStage c s us false n rank) (hworks : Works s₀ u c s)
    (hhistory : s.history = newer ++ s₀.history) (htally : s.Tallied n)
    (hphase : (Phase.collecting true).Holds s₀ us newer s) (hzero : s.unfinished = 0) :
    Advances config s₀ u c us [.processFrame .userStoppedSpeaking .handling] 10
      (5 * s.sendQueue.length + rank) sleeps
      (frameMove config me next s
        (.finalizeCurrentUtterance (.joining s₀.generation drained)) (.value none)) := by
  obtain ⟨hactive, hunsent, hqueued, haggregated⟩ := hphase
  obtain ⟨events, count, hset⟩ := setdefaultFinal_eq s s₀.generation
  have hunfinished := htally.unfinished
  have hqueue : s.sendQueue = [] := List.length_eq_zero_iff.mp (by omega)
  obtain rfl : n = 0 := by omega
  have hdrained : Phase.drained.Holds s₀ us newer (s.setdefaultFinal s₀.generation) := by
    rw [hset]
    refine ⟨hactive, hunsent, hzero, fun chunk hmem hgen => ?_, fun hbuffer => ?_⟩
    · exact (hqueued chunk hmem hgen).accounted hsender hqueue
    · obtain ⟨number, hkept⟩ := haggregated rfl hbuffer
      exact ⟨number, hkept.accounted hsender hqueue⟩
  simp only [frameMove, finalizeCurrentUtterance, hactive, hworks.websocket, Option.isSome_some,
    Bool.and_self, if_true]
  refine advances_of_stage hsender ⟨rfl, rfl, rfl⟩ ?_ ?_ ?_ hdrained (.controlling _) (by omega) ?_
  · rw [hset]
    exact ⟨hworks.websocket, hworks.unbroken, hworks.opened, hworks.sendTask, hworks.generation⟩
  · rw [hset]
    exact hhistory
  · rw [hset]
    exact htally.congr rfl
  · rw [hset]
    rfl

/-- The finalize message is sent. -/
lemma handing_advances {sleeps : Prop} {event : ℕ} (me next : TaskId)
    (hsender : SenderStage c s us false n rank) (hworks : Works s₀ u c s)
    (hhistory : s.history = newer ++ s₀.history) (htally : s.Tallied n)
    (hphase : Phase.drained.Holds s₀ us newer s) :
    Advances config s₀ u c us
      (.sendControl .finalize .sending :: finalizing (.sending s₀.generation event)) 6
      (5 * s.sendQueue.length + rank) sleeps
      (frameMove config me next s (.sendWs .finalize false false .entry) (.value none)) := by
  have hmove : frameMove config me next s (.sendWs .finalize false false .entry) (.value none) =
      .await (s.record (.sent c .finalize)) (.sendWs .finalize false false (.sending c true)) := by
    simp [frameMove, sendWs, hworks.websocket, Service.hand, hworks.unbroken]
  obtain ⟨hactive, hunsent, hzero, hdelivered⟩ := hphase
  have hsent : Phase.sent.Holds s₀ us (.sent c .finalize :: newer)
      (s.record (.sent c .finalize)) :=
    ⟨hactive, hzero, [], c, newer, rfl, by simp, hunsent, by simp, hdelivered⟩
  have hhistory' : (s.record (.sent c .finalize)).history =
      (.sent c .finalize :: newer) ++ s₀.history := congrArg (List.cons _) hhistory
  rw [hmove]
  exact advances_of_stage hsender ⟨rfl, rfl, rfl⟩
    ⟨hworks.websocket, hworks.unbroken, hworks.opened, hworks.sendTask, hworks.generation⟩
    hhistory' (htally.congr rfl) hsent (.sending event) (by omega) rfl

/-- The utterance ends, and the final transcript is waited for if there is a timeout. -/
lemma ending_advances {sleeps : Prop} {event : ℕ} (me next : TaskId)
    (hsender : SenderStage c s us false n rank) (hworks : Works s₀ u c s)
    (hhistory : s.history = newer ++ s₀.history) (htally : s.Tallied n)
    (hphase : Phase.sent.Holds s₀ us newer s) :
    Advances config s₀ u c us [.processFrame .userStoppedSpeaking .handling] 3
      (5 * s.sendQueue.length + rank) sleeps
      (frameMove config me next s
        (.finalizeCurrentUtterance (.sending s₀.generation event)) (.value none)) := by
  obtain ⟨hactive, hzero, hlast⟩ := hphase
  have hended : ∀ s', s'.utteranceActive = false → s'.unfinished = s.unfinished →
      Phase.ended.Holds s₀ us (.finalized :: newer) s' :=
    fun s' hinactive hsame => ⟨hinactive, hsame.trans hzero, hlast.cons rfl rfl⟩
  have hworks' : Works s₀ u c (s.endUtterance .finalized) :=
    ⟨hworks.websocket, hworks.unbroken, hworks.opened, hworks.sendTask, hworks.generation⟩
  have hhistory' : (s.endUtterance .finalized).history =
      (.finalized :: newer) ++ s₀.history := congrArg (List.cons _) hhistory
  simp only [frameMove, finalizeCurrentUtterance]
  split
  · exact advances_of_stage hsender ⟨rfl, rfl, rfl⟩
      ⟨hworks'.websocket, hworks'.unbroken, hworks'.opened, hworks'.sendTask,
        hworks'.generation⟩ hhistory' (htally.congr rfl) (hended _ rfl rfl) .returning (by omega)
      rfl
  · exact advances_of_stage hsender ⟨rfl, rfl, rfl⟩ hworks' hhistory' (htally.congr rfl)
      (hended _ rfl rfl) (.waiting event) (by omega) rfl

/-- **A move of the finalizer** brings it closer to its end, or it sleeps on while there is no room
in the queue. -/
lemma finalizer_tick {work : ℕ} (me next : TaskId) (hfits : ¬ LosesFinalize config s₀)
    (hduration : 0 ≤ s₀.aggregateDurationMs)
    (h : Underway config s₀ u c s (f :: fs) us .finalizer moves work) :
    Advances config s₀ u c us fs moves work
      (s.exceeds config s₀.aggregateChunk = true ∧ s.sendQueue ≠ [])
      (frameMove config me next s f (.value none)) := by
  obtain ⟨hworks, phase, newer, n, rank, hhistory, htally, hphase, hfinalizer, hsender, rfl⟩ := h
  have hidle : (Turn.finalizer == .sender) = false := rfl
  rw [hidle] at hsender
  generalize hruns : (Turn.finalizer == .finalizer) = runs at hfinalizer
  obtain rfl : runs = true := by rw [← hruns]; rfl
  cases hfinalizer with
  | entry hs =>
    subst hs
    exact entry_advances config me next hsender hworks hhistory htally hphase
  | enqueueing hs hbuffer =>
    exact enqueueing_advances me next hfits hduration hsender
      ⟨hworks, htally, le_rfl, newer, hhistory, hphase⟩ hs hbuffer
  | sleeping =>
    have hcollecting : Collecting s₀ u c us n s.sendQueue.length false s :=
      ⟨hworks, htally, le_rfl, newer, hhistory, hphase⟩
    exact hcollecting.blockChunk_advances hsender hduration (by omega) le_rfl
  | enqueued =>
    exact advances_of_stage hsender ⟨rfl, rfl, rfl⟩ hworks hhistory htally hphase
      (.joining (fun h => absurd rfl h) (by rintro ⟨⟩)) (by omega) rfl
  | joining hdrained hdone =>
    exact joining_advances me next hsender hworks hhistory htally hphase (hdone rfl)
  | controlling event =>
    exact advances_of_stage hsender ⟨rfl, rfl, rfl⟩ hworks hhistory htally hphase
      (.ensuring event) (by omega) rfl
  | ensuring event =>
    have hmove : frameMove config me next s (.ensureConnection .entry) (.value none) = .ret s := by
      simp [frameMove, ensureConnection, hworks.websocket]
    rw [hmove]
    exact advances_of_stage hsender ⟨rfl, rfl, rfl⟩ hworks hhistory htally hphase
      (.ensured event) (by omega) rfl
  | ensured event =>
    exact advances_of_stage hsender ⟨rfl, rfl, rfl⟩ hworks hhistory htally hphase
      (.handing event) (by omega) rfl
  | handing event => exact handing_advances me next hsender hworks hhistory htally hphase
  | sending event =>
    exact advances_of_stage hsender ⟨rfl, rfl, rfl⟩ hworks hhistory htally hphase
      (.sent event) (by omega) rfl
  | sent event =>
    exact advances_of_stage hsender ⟨rfl, rfl, rfl⟩ hworks hhistory htally hphase
      (.ending event) (by omega) rfl
  | ending event => exact ending_advances me next hsender hworks hhistory htally hphase
  | waiting event =>
    have hended : Phase.ended.Holds s₀ us newer (s.popFinal s₀.generation) := hphase
    exact advances_of_stage hsender ⟨rfl, rfl, rfl⟩
      ⟨hworks.websocket, hworks.unbroken, hworks.opened, hworks.sendTask, hworks.generation⟩
      hhistory (htally.congr rfl) hended .returning (by omega) rfl
  | returning =>
    exact advances_of_stage hsender ⟨rfl, rfl, rfl⟩ hworks hhistory htally hphase
      .done (by omega) rfl

end

end RtcAsr.Plugin
