import RtcAsr.Plugin.AudioState

/-!
# The order of the audio

Of two chunks of one generation, the one that was put into the queue first is meant to be sent first
on every connection.  This fails when two send loops are at work: a send loop whose send fails
reconnects, and while it waits for the new utterance to be ready, the send loop of the new
connection sends the next chunk (`replay_after_later_chunk`).  In runs in which a send loop takes a
chunk only while no other one is sending a chunk of its generation, the chunks are sent in order
(`sentInOrder_of_run`).
-/

namespace RtcAsr.Plugin

/-- A chunk is not sent on a connection after a later chunk of its generation. -/
def InQueueOrder (later earlier : Happening) : Prop :=
  ∀ c a b, later = .sent c (.audio a) → earlier = .sent c (.audio b) →
    a.generation = b.generation → b.number ≤ a.number

/-- **On every connection, the chunks of a generation are sent in the order in which they were put
into the queue.** -/
def SentInOrder (s : Service) : Prop := s.history.Pairwise InQueueOrder

/-! ## The line -/

/-- The audio that is sent. -/
def Happening.isSentAudio : Happening → Bool
  | .sent _ (.audio _) => true
  | _ => false

/-- The queue and what left it. -/
structure Line where
  queue : List AudioChunk
  enqueued : ℕ
  /-- The newest first. -/
  trace : List Happening

/-- The line of a service. -/
def Service.line (s : Service) : Line :=
  ⟨s.sendQueue, s.enqueued, s.history.filter Happening.isSentAudio⟩

/-- The line is part of the audio state. -/
lemma line_congr {s s' : Service} (h : s'.audio = s.audio) : s'.line = s.line := by
  have hline : ∀ s : Service, s.line = s.audio.line := by
    intro s
    unfold Service.line Service.audio
    rw [List.filter_filter]
    refine congrArg _ (List.filter_congr fun h _ => ?_)
    cases h with
    | sent connection payload => cases payload <;> rfl
    | _ => rfl
  rw [hline, h, ← hline]

namespace Line

/-- The chunk left the queue, ahead of what is still in it. -/
structure Passed (l : Line) (chunk : AudioChunk) : Prop where
  lt : chunk.number < l.enqueued
  ahead : ∀ waiting ∈ l.queue, chunk.number < waiting.number

/-- The chunk left the queue, and no later chunk of its generation was sent. -/
structure Leads (l : Line) (chunk : AudioChunk) : Prop extends l.Passed chunk where
  last : ∀ c b, .sent c (.audio b) ∈ l.trace → chunk.generation = b.generation →
    b.number ≤ chunk.number

/-- A chunk is not sent, on any connection, after a later chunk of its generation. -/
def SentBefore (later earlier : Happening) : Prop :=
  ∀ c c' a b, later = .sent c (.audio a) → earlier = .sent c' (.audio b) →
    a.generation = b.generation → b.number ≤ a.number

/-- The numbers of the chunks grow along the queue, and what was sent is in order, even across
connections. -/
structure InOrder (l : Line) : Prop where
  sorted : l.queue.Pairwise fun a b => a.number < b.number
  fresh : ∀ chunk ∈ l.queue, chunk.number < l.enqueued
  passed : ∀ c chunk, .sent c (.audio chunk) ∈ l.trace → l.Passed chunk
  ordered : l.trace.Pairwise SentBefore

/-- The line moves on: chunks leave it or join it behind, and nothing is sent. -/
structure Advances (l l' : Line) : Prop where
  trace : l'.trace = l.trace
  enqueued : l.enqueued ≤ l'.enqueued
  queue : ∀ chunk ∈ l'.queue, chunk ∈ l.queue ∨ l.enqueued ≤ chunk.number

variable {l l' l'' : Line}

lemma Advances.refl (l : Line) : l.Advances l := ⟨rfl, le_rfl, fun _ hmem => .inl hmem⟩

lemma Advances.trans (h : l.Advances l') (h' : l'.Advances l'') : l.Advances l'' where
  trace := h'.trace.trans h.trace
  enqueued := h.enqueued.trans h'.enqueued
  queue chunk hmem := by
    rcases h'.queue chunk hmem with hmem | hle
    · exact h.queue chunk hmem
    · exact .inr (h.enqueued.trans hle)

lemma Passed.advance {chunk : AudioChunk} (hc : l.Passed chunk) (h : l.Advances l') :
    l'.Passed chunk where
  lt := hc.lt.trans_le h.enqueued
  ahead waiting hmem := by
    rcases h.queue waiting hmem with hmem | hle
    · exact hc.ahead waiting hmem
    · exact hc.lt.trans_le hle

lemma Leads.advance {chunk : AudioChunk} (hc : l.Leads chunk) (h : l.Advances l') :
    l'.Leads chunk :=
  { hc.toPassed.advance h with last := fun c b hmem => hc.last c b (h.trace ▸ hmem) }

/-- An operation that moves the line on and keeps it in order. -/
def Keeps (l l' : Line) : Prop := l.InOrder → l'.InOrder ∧ l.Advances l'

lemma Keeps.refl (l : Line) : l.Keeps l := fun h => ⟨h, .refl l⟩

lemma Keeps.trans (h : l.Keeps l') (h' : l'.Keeps l'') : l.Keeps l'' := by
  intro hl
  obtain ⟨hl', hadvances⟩ := h hl
  obtain ⟨hl'', hadvances'⟩ := h' hl'
  exact ⟨hl'', hadvances.trans hadvances'⟩

/-- The first chunk leaves the queue. -/
lemma keeps_tail {chunk : AudioChunk} {rest : List AudioChunk} (hqueue : l.queue = chunk :: rest) :
    l.Keeps { l with queue := rest } := by
  intro h
  have hadvances : l.Advances { l with queue := rest } :=
    ⟨rfl, le_rfl, fun _ hmem => .inl (hqueue ▸ List.mem_cons_of_mem _ hmem)⟩
  refine ⟨⟨?_, ?_, ?_, h.ordered⟩, hadvances⟩
  · exact (List.pairwise_cons.mp (hqueue ▸ h.sorted)).2
  · exact fun _ hmem => h.fresh _ (hqueue ▸ List.mem_cons_of_mem _ hmem)
  · exact fun c b hmem => (h.passed c b hmem).advance hadvances

/-- A chunk joins the queue. -/
lemma keeps_put (chunk : AudioChunk) :
    l.Keeps { l with
      queue := l.queue ++ [{ chunk with number := l.enqueued }]
      enqueued := l.enqueued + 1 } := by
  intro h
  have hadvances : l.Advances { l with
      queue := l.queue ++ [{ chunk with number := l.enqueued }]
      enqueued := l.enqueued + 1 } := by
    refine ⟨rfl, Nat.le_succ _, fun chunk' hmem => ?_⟩
    rcases List.mem_append.mp hmem with hmem | hmem
    · exact .inl hmem
    · obtain rfl := List.mem_singleton.mp hmem
      exact .inr le_rfl
  refine ⟨⟨?_, ?_, ?_, h.ordered⟩, hadvances⟩
  · refine List.pairwise_append.mpr ⟨h.sorted, List.pairwise_singleton _ _, ?_⟩
    intro a ha b hb
    obtain rfl := List.mem_singleton.mp hb
    exact h.fresh a ha
  · intro chunk' hmem
    rcases List.mem_append.mp hmem with hmem | hmem
    · exact (h.fresh chunk' hmem).trans (Nat.lt_succ_self _)
    · obtain rfl := List.mem_singleton.mp hmem
      exact Nat.lt_succ_self _
  · exact fun c b hmem => (h.passed c b hmem).advance hadvances

/-- The first chunk of the queue leads when it leaves. -/
lemma InOrder.leads_head (h : l.InOrder) {chunk : AudioChunk} {rest : List AudioChunk}
    (hqueue : l.queue = chunk :: rest) : Leads { l with queue := rest } chunk where
  lt := h.fresh chunk (hqueue ▸ List.mem_cons_self ..)
  ahead := (List.pairwise_cons.mp (hqueue ▸ h.sorted)).1
  last c b hmem _ := ((h.passed c b hmem).ahead chunk (hqueue ▸ List.mem_cons_self ..)).le

/-- The line after a chunk was sent. -/
def sent (l : Line) (c : ℕ) (chunk : AudioChunk) : Line :=
  { l with trace := .sent c (.audio chunk) :: l.trace }

/-- A chunk that leads is sent. -/
lemma InOrder.sent (h : l.InOrder) (c : ℕ) {chunk : AudioChunk} (hc : l.Leads chunk) :
    (l.sent c chunk).InOrder where
  sorted := h.sorted
  fresh := h.fresh
  passed c' b hmem := by
    rcases List.mem_cons.mp hmem with heq | hmem
    · cases heq
      exact ⟨hc.lt, hc.ahead⟩
    · exact ⟨(h.passed c' b hmem).lt, (h.passed c' b hmem).ahead⟩
  ordered := by
    refine List.pairwise_cons.mpr ⟨?_, h.ordered⟩
    rintro earlier hmem c' c'' a b hlater rfl hgeneration
    cases hlater
    exact hc.last c'' b hmem hgeneration

/-- What leads still does so after a chunk of another generation, or the chunk itself, was sent. -/
lemma Leads.sent {chunk chunk' : AudioChunk} (c : ℕ) (hc : l.Leads chunk')
    (hother : chunk'.generation = chunk.generation → chunk' = chunk) :
    (l.sent c chunk).Leads chunk' where
  lt := hc.lt
  ahead := hc.ahead
  last c' b hmem hgeneration := by
    rcases List.mem_cons.mp hmem with heq | hmem
    · cases heq
      rw [hother hgeneration]
    · exact hc.last c' b hmem hgeneration

end Line

/-! ## Frame moves -/

section operations

variable (config : LocalSTTConfig) (me : TaskId) (s : Service)

lemma keeps_dropWhile (p : Service → Bool) (n : ℕ) :
    s.line.Keeps (Service.dropWhile p n s).line := by
  refine Service.dropWhile_keeps (P := fun s' => s.line.Keeps s'.line) ?_ p n (.refl _)
  intro s' chunk rest hqueue h
  exact h.trans (Line.keeps_tail (l := s'.line) hqueue)

lemma keeps_enqueueDroppingOldest (chunk : AudioChunk) :
    s.line.Keeps (s.enqueueDroppingOldest config chunk).line := by
  have hroom : s.line.Keeps (s.makeRoom config chunk).line := keeps_dropWhile s _ _
  unfold Service.enqueueDroppingOldest
  split
  · exact hroom
  · exact hroom.trans (Line.keeps_put (l := (s.makeRoom config chunk).line) chunk)

lemma line_flushAggregateBuffer : s.flushAggregateBuffer.1.line = s.line := by
  unfold Service.flushAggregateBuffer
  split <;> rfl

lemma line_queueAudioForSend (audio : Bytes) :
    (s.queueAudioForSend config audio).1.line = s.line := by
  unfold Service.queueAudioForSend
  split
  · exact line_flushAggregateBuffer _
  · rfl

lemma line_flushPreRoll : (s.flushPreRoll config).1.line = s.line := by
  unfold Service.flushPreRoll
  split
  · rfl
  · exact line_queueAudioForSend config s.clearPreRoll _

lemma sendLoop_line (pc : SendLoopPc) (signal : ServiceSignal) :
    s.line.Keeps (sendLoop me s pc signal).shared.line := by
  have hhead : ∀ s : Service, (sendLoopHead s).shared.line = s.line := by
    intro s
    unfold sendLoopHead
    split <;> rfl
  cases pc with
  | entry =>
    cases signal with
    | value v =>
      simp only [sendLoop, hhead]
      exact .refl _
    | failed e => exact .refl _
  | getting =>
    cases signal with
    | value v =>
      simp only [sendLoop]
      split
      · exact .refl _
      · rename_i chunk rest hqueue
        have htail := Line.keeps_tail (l := s.line) hqueue
        split
        · exact htail
        · rw [hhead]
          exact htail
    | failed e => exact .refl _
  | sending chunk =>
    rcases signal with v | (_ | e)
    · simp only [sendLoop]
      split
      · rw [hhead]
        exact .refl _
      · exact .refl _
    · exact .refl _
    · exact .refl _
  | disconnecting chunk => cases signal <;> exact .refl _

lemma enqueueChunk_line (chunk : AudioChunk) (pc : EnqueuePc) (signal : ServiceSignal) :
    s.line.Keeps (enqueueChunk config s chunk pc signal).shared.line := by
  have hblock : s.line.Keeps (blockChunk config s chunk).shared.line := by
    unfold blockChunk
    split
    · exact .refl _
    · exact Line.keeps_put (l := s.line) chunk
  have hdrop := keeps_enqueueDroppingOldest config s chunk
  cases pc with
  | entry =>
    simp only [enqueueChunk]
    split
    · exact hblock
    · split
      · exact .refl _
      · exact hdrop
    · exact hdrop
  | sleeping =>
    cases signal with
    | value v => exact hblock
    | failed e => exact .refl _

lemma enqueueLast_line {flushed : Service × Option AudioChunk} {pc : AudioChunk → Frame}
    (h : flushed.1.line = s.line) : (enqueueLast flushed pc).shared.line = s.line := by
  obtain ⟨s', _ | chunk⟩ := flushed <;> exact h

end operations

variable {config : LocalSTTConfig} {me next : TaskId} {s : Service} {signal : ServiceSignal}

/-- What `send` does to the line. -/
lemma hand_line (connection : ℕ) (payload : Payload) :
    (s.hand connection payload).line = s.line ∨
      ∃ chunk, payload = .audio chunk ∧
        (s.hand connection payload).line = s.line.sent connection chunk := by
  unfold Service.hand
  split
  · exact .inl rfl
  · cases payload
    case audio chunk => exact .inr ⟨chunk, rfl, rfl⟩
    all_goals exact .inl rfl

/-- **A frame move moves the line on, or sends the chunk of its call.** -/
theorem frameMove_line (frame : Frame) :
    s.line.Keeps (frameMove config me next s frame signal).shared.line ∨
      ∃ c chunk replay startAfter, frame.call = .sendWs (.audio chunk) replay startAfter ∧
        (frameMove config me next s frame signal).shared.line = s.line.sent c chunk := by
  by_cases hquiet : frame.carries = false
  · refine .inl ?_
    rw [line_congr (audio_frameMove config me next s hquiet signal)]
    exact .refl _
  have hsame : ∀ {s' : Service}, s'.line = s.line → s.line.Keeps s'.line := fun h => h ▸ .refl _
  have hhand : ∀ {connection payload replay startAfter pc},
      frame = .sendWs payload replay startAfter pc →
        s.line.Keeps (s.hand connection payload).line ∨
          ∃ c chunk replay startAfter, frame.call = .sendWs (.audio chunk) replay startAfter ∧
            (s.hand connection payload).line = s.line.sent c chunk := by
    rintro connection payload replay startAfter pc rfl
    rcases hand_line (s := s) connection payload with h | ⟨chunk, rfl, h⟩
    · exact .inl (hsame h)
    · exact .inr ⟨connection, chunk, replay, startAfter, rfl, h⟩
  cases frame with
  | sendWs payload replay startAfter pc =>
    cases pc with
    | entry =>
      simp only [frameMove, sendWs]
      split
      · exact .inl (.refl _)
      · exact hhand rfl
    | reconnecting =>
      cases signal with
      | value v =>
        simp only [frameMove, sendWs]
        split
        · split
          · exact .inl (.refl _)
          · exact hhand rfl
        · exact .inl (.refl _)
      | failed e => exact .inl (.refl _)
    | _ => exact absurd rfl hquiet
  | disconnect pc =>
    cases pc with
    | entry => exact absurd rfl hquiet
    | closing =>
      cases signal with
      | value v =>
        refine .inl ?_
        have hrelease : (s.clearSendQueue.releaseFinalWaiters .disconnect).line =
            s.clearSendQueue.line :=
          line_congr (s.clearSendQueue.audio_releaseFinalWaiters .disconnect)
        have hline : s.disconnect.line = s.clearSendQueue.line := hrelease
        change s.line.Keeps s.disconnect.line
        rw [hline]
        exact keeps_dropWhile s _ _
      | failed e => exact .inl (.refl _)
  | sendLoop pc => exact .inl (sendLoop_line me s pc signal)
  | enqueueChunk chunk pc => exact .inl (enqueueChunk_line config s chunk pc signal)
  | handleAudio audio pc =>
    cases pc with
    | connecting =>
      refine .inl (hsame ?_)
      cases signal with
      | value v =>
        simp only [frameMove, handleAudio]
        split
        · exact enqueueLast_line s (line_queueAudioForSend config _ audio)
        · simp only [Move.ret, Service.appendPreRoll]
          split <;> rfl
      | failed e => rfl
    | _ => exact absurd rfl hquiet
  | startCurrentUtterance pc =>
    refine .inl (hsame ?_)
    cases pc with
    | entry => simp only [frameMove, startCurrentUtterance]; split <;> rfl
    | starting =>
      cases signal with
      | value v => exact enqueueLast_line s (line_flushPreRoll config s)
      | failed e => rfl
    | enqueueing chunk => exact absurd rfl hquiet
  | finalizeCurrentUtterance pc =>
    cases pc with
    | entry =>
      refine .inl (hsame ?_)
      have hflush := line_flushAggregateBuffer s
      simp only [frameMove, finalizeCurrentUtterance]
      split
      · split
        case h_1 s' heq => rw [← hflush, heq]; rfl
        case h_2 s' chunk heq => rw [← hflush, heq]; rfl
      · rfl
    | _ => exact absurd rfl hquiet
  | cancelCurrentUtterance pc =>
    cases pc with
    | entry =>
      refine .inl ?_
      have hline : s.cancelUtterance.line = s.discardUtterance.clearBuffers.clearSendQueue.line :=
        line_congr (Service.audio_releaseFinalWaiters _ .cancel)
      have hkeeps : s.line.Keeps s.cancelUtterance.line := by
        rw [hline]
        exact keeps_dropWhile s.discardUtterance.clearBuffers _ _
      simp only [frameMove, cancelCurrentUtterance]
      split <;> exact hkeeps
    | _ => exact absurd rfl hquiet
  | _ => exact absurd rfl hquiet

/-! ## Runs -/

/-- The task is sending the chunk, or reconnecting to send it again. -/
def HoldsChunk (w : ServiceWorld) (t : TaskId) (chunk : AudioChunk) : Prop :=
  ∃ frame ∈ w.stack t, ∃ replay startAfter, frame.call = .sendWs (.audio chunk) replay startAfter

/-- A send loop takes a chunk of the current generation only while no other one is sending a chunk
of this generation. -/
def TakesAlone (w : ServiceWorld) : ServiceAction → Prop
  | .tick => ∀ t v fs chunk rest, w.running = some (t, .value v) →
    w.stack t = .sendLoop .getting :: fs → w.shared.sendQueue = chunk :: rest →
      chunk.generation = w.shared.generation →
        ∀ u chunk', HoldsChunk w u chunk' → chunk.generation ≠ chunk'.generation
  | _ => True

/-- What a call knows of the line. -/
def Call.Queued (l : Line) : Call → Prop
  | .sendWs (.audio chunk) replay startAfter => (replay = true ∧ startAfter = true) ∧ l.Leads chunk
  | .sendControl payload => payload.isCommand = true
  | _ => True

lemma Call.Queued.advance {l l' : Line} (h : l.Advances l') {k : Call} (hk : k.Queued l) :
    k.Queued l' := by
  unfold Call.Queued at hk ⊢
  split at hk
  · exact ⟨hk.1, hk.2.advance h⟩
  · exact hk
  · trivial

/-- The line is in order, every chunk that is being sent leads, and of each generation there is one
at most. -/
structure OrderedWorld (config : LocalSTTConfig) (w : ServiceWorld) : Prop where
  shape : ServiceShaped config w
  line : w.shared.line.InOrder
  frames : Coroutines.Outline (fun _ frame s => frame.call.Queued s.line) w
  alone : ∀ t u chunk chunk', HoldsChunk w t chunk → HoldsChunk w u chunk' →
    chunk.generation = chunk'.generation → t = u ∧ chunk = chunk'

lemma orderedWorld_initial : OrderedWorld config .initial where
  shape := serviceShaped_initial config
  line := by
    constructor <;> simp [ServiceWorld.initial, World.initial, Service.line]
  frames := Coroutines.outline_initial _ _
  alone := by
    rintro t u chunk chunk' ⟨frame, hmem, -⟩
    cases hmem

/-- A chunk that is held after a frame move was held before or was just taken. -/
lemma holdsChunk_apply {w : ServiceWorld} {t u : TaskId} {frame : Frame} {fs : List Frame}
    {chunk : AudioChunk} (hf : w.stack t = frame :: fs)
    (hcontrol : ∀ chunk, frame.call ≠ .sendControl (.audio chunk))
    (h : HoldsChunk ((service config).apply w t fs
      (frameMove config t w.spawned w.shared frame signal)) u chunk) :
    HoldsChunk w u chunk ∨ (u = t ∧ (∃ f' replay startAfter,
      (frameMove config t w.spawned w.shared frame signal).command =
        .call f' (.sendWs (.audio chunk) replay startAfter)) ∧
      Takes w.shared frame signal (frameMove config t w.spawned w.shared frame signal) chunk true
        true) := by
  obtain ⟨g, hg, replay, startAfter, hcall⟩ := h
  rcases Coroutines.fn_mem_apply (service_lawful config) hf hg with
    ⟨g', hg', hcall'⟩ | ⟨rfl, f', hcommand⟩ | ⟨-, hspawn⟩
  · exact .inl ⟨g', hg', replay, startAfter, Eq.trans hcall' hcall⟩
  · have hcommand : (frameMove config u w.spawned w.shared frame signal).command =
        .call f' (.sendWs (.audio chunk) replay startAfter) := hcall ▸ hcommand
    have htakes := frameMove_takes hcontrol hcommand
    obtain ⟨rfl, rfl⟩ := htakes.flags
    exact .inr ⟨rfl, ⟨f', true, true, hcommand⟩, htakes⟩
  · have hroot := frameMove_spawn config t w.spawned w.shared signal hspawn
    simp only [show (service config).fn g = g.call from rfl, hcall, reduceCtorEq, or_self] at hroot

/-- A step in which no two send loops get hold of chunks of one generation keeps the order. -/
theorem ordered_step {w w' : ServiceWorld} {a : ServiceAction} (hw : OrderedWorld config w)
    (hC : TakesAlone w a) (h : (service config).step w a = some w') : OrderedWorld config w' := by
  have hshape := serviceShaped_step hw.shape h
  cases (service config).step_cases h with
  | @call k hrun hk =>
    have hholds : ∀ t chunk, HoldsChunk { w with
        stack := Function.update w.stack w.spawned [k.enter]
        spawned := w.spawned + 1 } t chunk → HoldsChunk w t chunk := by
      rintro t chunk ⟨frame, hmem, replay, startAfter, hcall⟩
      by_cases hu : t = w.spawned
      · subst hu
        obtain rfl : frame = k.enter := by simpa using hmem
        cases k <;> cases hcall
        cases hk
      · refine ⟨frame, ?_, replay, startAfter, hcall⟩
        simpa only [Function.update_of_ne hu] using hmem
    refine ⟨hshape, hw.line, hw.frames.call ?_, ?_⟩
    · cases k <;> first | exact trivial | cases hk
    · exact fun t u chunk chunk' ht hu => hw.alone t u chunk chunk' (hholds _ _ ht) (hholds _ _ hu)
  | resume => exact ⟨hshape, hw.line, hw.frames, hw.alone⟩
  | outside => exact ⟨hshape, hw.line, hw.frames.outside fun _ _ _ h => h, hw.alone⟩
  | @tick t signal f fs hrun hf =>
    have hmem : f ∈ w.stack t := hf ▸ List.mem_cons_self ..
    have hframe : f.call.Queued w.shared.line := hw.frames t f hmem
    have hcontrol : ∀ chunk, f.call ≠ .sendControl (.audio chunk) := by
      intro chunk hcall
      rw [hcall] at hframe
      cases hframe
    -- the move keeps the line in order and what the frames know of it
    have hmove : (frameMove config t w.spawned w.shared f signal).shared.line.InOrder ∧
        ∀ u, ∀ g ∈ w.stack u, g.call.Queued w.shared.line →
          g.call.Queued (frameMove config t w.spawned w.shared f signal).shared.line := by
      have hmove : w.shared.line.Keeps
            (frameMove config t w.spawned w.shared f signal).shared.line ∨
          ∃ c chunk replay startAfter, f.call = .sendWs (.audio chunk) replay startAfter ∧
            (frameMove config t w.spawned w.shared f signal).shared.line =
              w.shared.line.sent c chunk := frameMove_line f
      rcases hmove with hkeeps | ⟨c, chunk, replay, startAfter, hcall, hline⟩
      · obtain ⟨hline, hadvances⟩ := hkeeps hw.line
        exact ⟨hline, fun _ _ _ hg => hg.advance hadvances⟩
      · rw [hcall] at hframe
        rw [hline]
        refine ⟨hw.line.sent c hframe.2, fun u g hg hqueued => ?_⟩
        cases hgcall : g.call with
        | sendWs payload replay' startAfter' =>
          cases payload with
          | audio chunk' =>
            rw [hgcall] at hqueued
            refine ⟨hqueued.1, hqueued.2.sent c fun hgeneration => ?_⟩
            exact (hw.alone u t chunk' chunk ⟨g, hg, _, _, hgcall⟩ ⟨f, hmem, _, _, hcall⟩
              hgeneration).2
          | _ => exact trivial
        | sendControl payload =>
          rw [hgcall] at hqueued
          exact hqueued
        | _ => exact trivial
    obtain ⟨hline, hqueued⟩ := hmove
    refine ⟨hshape, by rw [Coroutines.apply_shared]; exact hline,
      hw.frames.tick hf ⟨EachFrame.frames ?_, ?_, ?_⟩, ?_⟩
    · refine eachFrame_of_calls (hqueued t f hmem hframe) fun f' k hcommand => ?_
      cases k with
      | sendWs payload replay startAfter =>
        cases payload with
        | audio chunk =>
          have htakes := frameMove_takes hcontrol hcommand
          obtain ⟨rest, hqueue, -, hshared⟩ := htakes.taken
          refine ⟨htakes.flags, ?_⟩
          rw [show ((service config).resume t w.spawned f signal w.shared).shared =
            w.shared.takeChunk chunk rest from hshared]
          exact hw.line.leads_head hqueue
        | _ => exact trivial
      | sendControl payload =>
        have hstays := (frameMove_stays config t w.spawned w.shared signal f).command
        rw [hcommand] at hstays
        exact pending_sendControl hstays.2
      | _ => exact trivial
    · intro i k hk
      rcases frameMove_spawn config t w.spawned w.shared signal (List.mem_of_getElem? hk)
        with rfl | rfl <;> exact trivial
    · exact fun u g hg _ hold => hqueued u g hg hold
    · intro u u' chunk chunk' hu hu' hgeneration
      have hfresh : ∀ {v chunk chunk'}, HoldsChunk w v chunk' →
          Takes w.shared f signal (frameMove config t w.spawned w.shared f signal) chunk true true →
            chunk.generation ≠ chunk'.generation := by
        rintro v chunk chunk' hold ⟨rfl, ⟨x, rfl⟩, -, rest, hqueue, hcurrent, -⟩
        exact hC t x fs chunk rest hrun hf hqueue hcurrent v chunk' hold
      rcases holdsChunk_apply hf hcontrol hu with hold | ⟨rfl, ⟨_, _, _, hcommand⟩, htakes⟩ <;>
        rcases holdsChunk_apply hf hcontrol hu' with
          hold' | ⟨rfl, ⟨_, _, _, hcommand'⟩, htakes'⟩
      · exact hw.alone u u' chunk chunk' hold hold' hgeneration
      · exact absurd hgeneration.symm (hfresh hold htakes')
      · exact absurd hgeneration (hfresh hold' htakes)
      · have heq := hcommand.symm.trans hcommand'
        injection heq with _ heq
        injection heq with heq
        injection heq with heq
        exact ⟨rfl, heq⟩

/-- What the line shows is so for the whole history. -/
lemma Line.InOrder.sentInOrder {s : Service} (h : s.line.InOrder) : SentInOrder s := by
  refine (List.pairwise_filter.mp h.ordered).imp ?_
  rintro later earlier hrel c a b rfl rfl
  exact hrel rfl rfl c c a b rfl rfl

/-- **The chunks of a generation are sent in the order in which they were put into the queue**, in
every run in which a send loop takes a chunk only while no other one is sending a chunk of its
generation. -/
theorem sentInOrder_of_run {as : List ServiceAction} {w : ServiceWorld}
    (hrun : (serviceSystem config).run .initial as = some w)
    (hC : (serviceSystem config).Along TakesAlone .initial as) : SentInOrder w.shared :=
  (StepSystem.invariant_along (I := OrderedWorld config)
    (fun _ _ _ hw hC hstep => ordered_step hw hC hstep)
    orderedWorld_initial hC hrun).line.sentInOrder

/-- The frame sends audio. -/
def Frame.sendsAudio : Frame → Bool
  | .sendWs (.audio _) _ _ _ => true
  | _ => false

/-- A test for `TakesAlone`: no task sends audio when a send loop takes a chunk. -/
def takesAlone (w : ServiceWorld) : ServiceAction → Bool
  | .tick =>
    match w.running with
    | none => true
    | some (t, _) =>
      match w.stack t with
      | .sendLoop .getting :: _ =>
        (List.range w.spawned).all fun u => (w.stack u).all fun frame => !frame.sendsAudio
      | _ => true
  | _ => true

lemma takesAlone_of_check {w : ServiceWorld} {a : ServiceAction} (hw : ServiceShaped config w)
    (h : takesAlone w a = true) : TakesAlone w a := by
  cases a with
  | tick =>
    rintro t v fs chunk rest hrun hf - - u chunk' ⟨frame, hmem, replay, startAfter, hcall⟩
    simp only [takesAlone, hrun, hf, List.all_eq_true, List.mem_range] at h
    have hlt : u < w.spawned := by
      obtain ⟨g, gs, hstack⟩ := List.exists_cons_of_ne_nil (List.ne_nil_of_mem hmem)
      exact hw.shaped.lt_spawned hstack
    have hquiet := h u hlt frame hmem
    cases frame <;> cases hcall
    cases hquiet
  | _ => trivial

/-- Two chunks of 32 bytes are put into the queue of the first utterance. -/
def twoChunks : List ServiceAction :=
  firstUtterance ++ turn 0 (.value none) 1 ++
    [.call (.processFrame (.audioRaw (List.replicate 32 0) 16000 1))] ++ turn 3 (.value none) 7 ++
    turn 3 (.value none) 1 ++
    [.call (.processFrame (.audioRaw (List.replicate 32 0) 16000 1))] ++ turn 4 (.value none) 7 ++
    turn 4 (.value none) 1

/-- The send loop sends both. -/
def twoChunksSent : List ServiceAction :=
  twoChunks ++ turn 1 (.value none) 1 ++ turn 1 (.value none) 2 ++ turn 1 (.value none) 2 ++
    turn 1 (.value none) 2 ++ turn 1 (.value none) 2

/-- The connection, the generation and the number of a chunk that is sent. -/
def Happening.place : Happening → Option (ℕ × ℕ × ℕ)
  | .sent connection (.audio chunk) => some (connection, chunk.generation, chunk.number)
  | _ => none

/-- `sentInOrder_of_run` in a run that sends two chunks. -/
theorem sentInOrder_of_run_twoChunksSent :
    ∃ w, (serviceSystem { aggregationMs := 1 }).run .initial twoChunksSent = some w ∧
      w.shared.history.filterMap Happening.place = [(0, 1, 1), (0, 1, 0)] ∧
      SentInOrder w.shared := by
  obtain ⟨w, hrun, hplaces⟩ := StepSystem.exists_run_of_map
    (M := serviceSystem { aggregationMs := 1 }) (s := .initial)
    (f := fun w => w.shared.history.filterMap Happening.place) (l := twoChunksSent)
    (x := [(0, 1, 1), (0, 1, 0)]) (by decide +kernel)
  exact ⟨w, hrun, hplaces, sentInOrder_of_run hrun
    (along_of_shaped_check (fun _ _ => takesAlone_of_check) (by decide +kernel))⟩

/-- The connection fails while the first chunk is sent; the send loop of the new connection takes
the second chunk while the first send loop waits for the utterance to be ready. -/
def replayRace : List ServiceAction :=
  twoChunks ++ turn 1 (.value none) 1 ++ turn 1 (.value none) 2 ++
    turn 1 (.failed (.raised (.connection "ConnectionClosed" "no close frame"))) 3 ++
    turn 2 (.failed .cancelled) 1 ++ turn 1 (.failed .cancelled) 1 ++ turn 1 (.value none) 3 ++
    turn 1 (.value none) 1 ++ turn 1 (.value none) 3 ++ turn 1 (.value none) 4 ++
    turn 5 (.value none) 1 ++ turn 5 (.value none) 2 ++ turn 6 (.value none) 1 ++
    turn 6 (.value (some readyOfFirst)) 3 ++ turn 1 (.value none) 2 ++ turn 1 (.value none) 3 ++
    turn 5 (.value none) 2 ++ turn 1 (.value none) 2

/-- **A chunk is sent again after a later one**: on connection 1 the second chunk of generation 1 is
sent before the first. -/
theorem replay_after_later_chunk :
    ¬ ∀ as w, (serviceSystem { aggregationMs := 1 }).run .initial as = some w →
      SentInOrder w.shared := by
  intro hall
  obtain ⟨w, hrun, hplaces⟩ := StepSystem.exists_run_of_map
    (M := serviceSystem { aggregationMs := 1 }) (s := .initial)
    (f := fun w => w.shared.history.filterMap Happening.place) (l := replayRace)
    (x := [(1, 1, 0), (1, 1, 1), (0, 1, 0)]) (by decide +kernel)
  have hordered : (w.shared.history.filterMap Happening.place).Pairwise
      fun later earlier : ℕ × ℕ × ℕ => later.1 = earlier.1 → later.2.1 = earlier.2.1 →
        earlier.2.2 ≤ later.2.2 := by
    refine List.Pairwise.filterMap _ ?_ (hall _ w hrun)
    intro later earlier hrel p hp q hq hconnection hgeneration
    have hplace : ∀ {h : Happening} {p : ℕ × ℕ × ℕ}, h.place = some p →
        ∃ chunk, h = .sent p.1 (.audio chunk) ∧ chunk.generation = p.2.1 ∧
          chunk.number = p.2.2 := by
      intro h p hp
      unfold Happening.place at hp
      split at hp
      · obtain rfl := Option.some.inj hp
        exact ⟨_, rfl, rfl, rfl⟩
      · cases hp
    obtain ⟨a, rfl, hag, han⟩ := hplace hp
    obtain ⟨b, rfl, hbg, hbn⟩ := hplace hq
    rw [← han, ← hbn]
    exact hrel p.1 a b rfl (by rw [hconnection]) (by rw [hag, hbg, hgeneration])
  rw [hplaces] at hordered
  have hlast := (List.pairwise_cons.mp hordered).1 (1, 1, 1) (by simp) rfl rfl
  exact absurd hlast (by decide)

end RtcAsr.Plugin
