import RtcAsr.Plugin.SendQueue
import RtcAsr.Plugin.StoppedLoops

/-!
# Where the chunks are

Five places of the service change the send queue, its duration and the count of dropped chunks.  In
every run, under every drop policy, the duration is that of the queued chunks and stays within the
limit, but for a chunk that under the policy `block` is by itself longer than the limit; and every
chunk passed to `_enqueue_chunk` is waiting to be put, queued, taken by a send loop or dropped and
counted, and only one of these (`sendQueue_accounted`).
-/

namespace RtcAsr.Plugin

/-- A chunk without its place in the order of enqueueing, which it gets when it is put. -/
def AudioChunk.unnumbered (chunk : AudioChunk) : AudioChunk := { chunk with number := 0 }

/-- The chunk that is dropped. -/
def Happening.droppedChunk : Happening → Option AudioChunk
  | .dropped chunk => some chunk
  | _ => none

/-- The chunk that a call of `_enqueue_chunk` has to put. -/
def Frame.toPut : Frame → Multiset AudioChunk
  | .enqueueChunk chunk _ => {chunk.unnumbered}
  | _ => 0

/-- The chunks that calls of `_enqueue_chunk` have to put. -/
def waitingIn (fs : List Frame) : Multiset AudioChunk := (fs.map Frame.toPut).sum

/-- The chunks that wait to be put. -/
def waiting (w : ServiceWorld) : Multiset AudioChunk :=
  ∑ t ∈ Finset.range w.spawned, waitingIn (w.stack t)

namespace Service

variable (s : Service)

/-- The queued chunks. -/
def queuedChunks : Multiset AudioChunk := s.sendQueue.map AudioChunk.unnumbered

/-- The chunks that were dropped. -/
def droppedChunks : Multiset AudioChunk :=
  (s.history.filterMap Happening.droppedChunk).map AudioChunk.unnumbered

/-- The queue with its duration, and the drops with their count. -/
def depot : List AudioChunk × ℚ × ℕ × List AudioChunk :=
  (s.sendQueue, s.queuedAudioMs, s.audioFramesDropped, s.history.filterMap Happening.droppedChunk)

/-- The chunks that are queued or dropped. -/
def stock : Multiset AudioChunk := s.queuedChunks + s.droppedChunks

/-- The queue is within its limit, and the drops are counted. -/
structure Accounts (config : LocalSTTConfig) (s : Service) : Prop where
  counted : s.audioFramesDropped = s.droppedChunks.card
  /-- Only a chunk that is by itself longer than the limit exceeds it, under the policy `block`. -/
  bounded : s.queuedAudioMs ≤ config.maxSendQueueMs ∨ (config.dropPolicy = .block ∧
    ∃ chunk, s.sendQueue = [chunk] ∧ (config.maxSendQueueMs : ℚ) < chunk.durationMs)

variable {s} {s' : Service} {config : LocalSTTConfig} {n : ℕ} {chunk : AudioChunk}
  {rest : List AudioChunk}

lemma stock_congr (h : s'.depot = s.depot) : s'.stock = s.stock := by
  have hstock : ∀ s : Service, s.stock =
      (s.depot.1.map AudioChunk.unnumbered : Multiset AudioChunk) +
        (s.depot.2.2.2.map AudioChunk.unnumbered : List AudioChunk) := fun _ => rfl
  rw [hstock, h, ← hstock]

lemma Accounts.congr (hs : s.Accounts config) (h : s'.depot = s.depot) : s'.Accounts config := by
  obtain ⟨hqueue, hrest⟩ := Prod.mk.inj h
  obtain ⟨hqueued, hrest⟩ := Prod.mk.inj hrest
  obtain ⟨hcount, hdropped⟩ := Prod.mk.inj hrest
  refine ⟨?_, by rw [hqueued, hqueue]; exact hs.bounded⟩
  rw [hcount, hs.counted]
  simp only [droppedChunks, hdropped]

/-- The depot is part of the audio state. -/
lemma depot_congr (h : s'.audio = s.audio) : s'.depot = s.depot := by
  have hdropped : ∀ l : List Happening,
      (l.filter Happening.isAudio).filterMap Happening.droppedChunk =
        l.filterMap Happening.droppedChunk := by
    intro l
    rw [List.filterMap_filter]
    refine congrArg (fun f => l.filterMap f) (funext fun h => ?_)
    cases h <;> first | rfl | exact ite_self _
  have hdepot : ∀ s : Service, s.depot = s.audio.depot := by
    intro s
    simp [depot, audio, hdropped]
  rw [hdepot, h, ← hdepot]

/-! ## The operations on the queue -/

lemma stock_putChunk : (s.putChunk chunk).stock = s.stock + {chunk.unnumbered} := by
  have hqueued : (s.putChunk chunk).queuedChunks = s.queuedChunks + {chunk.unnumbered} := by
    simp [queuedChunks, putChunk, AudioChunk.unnumbered, ← Multiset.coe_add]
  have hdropped : (s.putChunk chunk).droppedChunks = s.droppedChunks := rfl
  rw [stock, hqueued, hdropped, stock]
  abel

lemma stock_takeChunk (hqueue : s.sendQueue = chunk :: rest) :
    (s.takeChunk chunk rest).stock + {chunk.unnumbered} = s.stock := by
  have hqueued : s.queuedChunks = (s.takeChunk chunk rest).queuedChunks + {chunk.unnumbered} := by
    rw [queuedChunks, hqueue, List.map_cons, ← Multiset.cons_coe,
      ← Multiset.singleton_add, add_comm]
    rfl
  have hdropped : (s.takeChunk chunk rest).droppedChunks = s.droppedChunks := rfl
  rw [stock, stock, hqueued, hdropped]
  abel

lemma droppedChunks_countDropped :
    (s.countDropped chunk).droppedChunks = s.droppedChunks + {chunk.unnumbered} := by
  change (((chunk :: s.history.filterMap Happening.droppedChunk).map AudioChunk.unnumbered :
    List AudioChunk) : Multiset AudioChunk) = _
  rw [List.map_cons, ← Multiset.cons_coe, ← Multiset.singleton_add, add_comm]
  rfl

lemma stock_countDropped : (s.countDropped chunk).stock = s.stock + {chunk.unnumbered} := by
  have hqueued : (s.countDropped chunk).queuedChunks = s.queuedChunks := rfl
  rw [stock, droppedChunks_countDropped, hqueued, stock, add_assoc]

/-- A dropped chunk goes from the queue to the drops. -/
lemma stock_dropFirst (hqueue : s.sendQueue = chunk :: rest) :
    (s.dropFirst chunk rest).stock = s.stock := by
  have hdone : ((s.takeChunk chunk rest).taskDone).stock = (s.takeChunk chunk rest).stock := rfl
  rw [dropFirst, stock_countDropped, hdone, stock_takeChunk hqueue]

lemma Accounts.countDropped (hs : s.Accounts config) : (s.countDropped chunk).Accounts config := by
  refine ⟨?_, hs.bounded⟩
  rw [droppedChunks_countDropped, Multiset.card_add, ← hs.counted]
  rfl

/-- Taking a chunk shortens the queue. -/
lemma Accounts.takeChunk (hlimit : 0 < config.maxSendQueueMs) (hs : s.Accounts config)
    (ht : s.Tallied n)
    (hqueue : s.sendQueue = chunk :: rest) : (s.takeChunk chunk rest).Accounts config := by
  refine ⟨hs.counted, .inl ?_⟩
  have hafter := (ht.takeChunk hqueue).queued
  have htotal := ht.queued
  rw [hqueue, List.map_cons, List.sum_cons] at htotal
  have hduration : 0 ≤ chunk.durationMs := ht.durations chunk (hqueue ▸ List.mem_cons_self ..)
  change (s.takeChunk chunk rest).queuedAudioMs = (rest.map AudioChunk.durationMs).sum at hafter
  rw [hafter]
  rcases hs.bounded with hle | ⟨-, chunk', hsingle, -⟩
  · linarith
  · -- an oversized chunk was the only one
    obtain ⟨-, rfl⟩ := List.cons.inj (hqueue.symm.trans hsingle)
    simp only [List.map_nil, List.sum_nil]
    exact_mod_cast hlimit.le

lemma Accounts.dropFirst (hlimit : 0 < config.maxSendQueueMs) (hs : s.Accounts config)
    (ht : s.Tallied n)
    (hqueue : s.sendQueue = chunk :: rest) : (s.dropFirst chunk rest).Accounts config := by
  have htaken := hs.takeChunk hlimit ht hqueue
  have hdone : ((s.takeChunk chunk rest).taskDone).Accounts config := htaken.congr rfl
  exact hdone.countDropped

/-- A chunk that fits, or that is by itself too long for an empty queue, is put. -/
lemma Accounts.putChunk (hs : s.Accounts config)
    (hfits : s.exceeds config chunk = false ∨ (config.dropPolicy = .block ∧ s.sendQueue = [] ∧
      (config.maxSendQueueMs : ℚ) < chunk.durationMs)) : (s.putChunk chunk).Accounts config := by
  refine ⟨hs.counted, ?_⟩
  rcases hfits with hfits | ⟨hblock, hempty, hlong⟩
  · left
    change s.queuedAudioMs + chunk.durationMs ≤ config.maxSendQueueMs
    simpa [exceeds] using hfits
  · right
    refine ⟨hblock, { chunk with number := s.enqueued }, ?_, hlong⟩
    simp only [Service.putChunk, hempty, List.nil_append]

/-- What dropping chunks from the front keeps. -/
structure Kept (config : LocalSTTConfig) (n : ℕ) (stock : Multiset AudioChunk) (s : Service) :
    Prop where
  tallied : s.Tallied n
  accounts : s.Accounts config
  stock : s.stock = stock

lemma Kept.dropWhile (hlimit : 0 < config.maxSendQueueMs) {stock : Multiset AudioChunk}
    (hs : Kept config n stock s) (p : Service → Bool) (fuel : ℕ) :
    Kept config n stock (dropWhile p fuel s) := by
  refine dropWhile_keeps (P := Kept config n stock) (fun s chunk rest hqueue hs => ?_) p fuel hs
  exact ⟨(hs.tallied.takeChunk hqueue).taskDone.congr rfl,
    hs.accounts.dropFirst hlimit hs.tallied hqueue, (stock_dropFirst hqueue).trans hs.stock⟩

/-- A chunk is enqueued with the policy `drop_oldest`: it is put, or dropped itself. -/
lemma Accounts.enqueueDroppingOldest (hlimit : 0 < config.maxSendQueueMs) (hs : s.Accounts config)
    (ht : s.Tallied n) :
    (s.enqueueDroppingOldest config chunk).Accounts config ∧
      (s.enqueueDroppingOldest config chunk).stock = s.stock + {chunk.unnumbered} := by
  have hroom : Kept config n s.stock (s.makeRoom config chunk) :=
    Kept.dropWhile hlimit ⟨ht, hs, rfl⟩ _ _
  unfold Service.enqueueDroppingOldest
  split
  · exact ⟨hroom.accounts.countDropped, by rw [stock_countDropped, hroom.stock]⟩
  · rename_i hfits
    exact ⟨hroom.accounts.putChunk (.inl (Bool.not_eq_true _ ▸ hfits)),
      by rw [stock_putChunk, hroom.stock]⟩

end Service

/-! ## The frame moves -/

/-- The chunk that a command passes to `_enqueue_chunk`. -/
def passedBy : Command Frame Call PluginExn → Multiset AudioChunk
  | .call _ (.enqueueChunk chunk) => {chunk.unnumbered}
  | _ => 0

/-- The chunk that a send loop takes. -/
def takenBy (s : Service) : Frame → ServiceSignal → Multiset AudioChunk
  | .sendLoop .getting, .value _ => (s.sendQueue.head?.map AudioChunk.unnumbered).toList
  | _, _ => 0

/-- What is done to the depot: nothing, or the queue is cleared. -/
inductive Restocks (s s' : Service) : Prop
  | same (h : s'.depot = s.depot)
  | cleared {s₀ : Service} (h₀ : s₀.depot = s.depot) (htally : ∀ n, s.Tallied n → s₀.Tallied n)
      (h : s'.depot = s₀.clearSendQueue.depot)

section moves

variable {config : LocalSTTConfig} {me next : TaskId} {s s' : Service} {signal : ServiceSignal}
  {n : ℕ} {chunk : AudioChunk}

/-- Clearing the queue keeps the accounts and the chunks. -/
lemma Restocks.keeps (hlimit : 0 < config.maxSendQueueMs) (h : Restocks s s') (ht : s.Tallied n)
    (ha : s.Accounts config) : s'.Accounts config ∧ s'.stock = s.stock := by
  cases h with
  | same h => exact ⟨ha.congr h, Service.stock_congr h⟩
  | @cleared s₀ h₀ htally h =>
    have hcleared : Service.Kept config n s.stock s₀.clearSendQueue :=
      Service.Kept.dropWhile hlimit ⟨htally n ht, ha.congr h₀, Service.stock_congr h₀⟩ _ _
    exact ⟨hcleared.accounts.congr h, (Service.stock_congr h).trans hcleared.stock⟩

lemma depot_hand (connection : ℕ) (payload : Payload) :
    (s.hand connection payload).depot = s.depot := by
  unfold Service.hand
  split <;> rfl

lemma sendWs_depot (payload : Payload) (replay startAfter : Bool) (pc : SendWsPc) :
    (sendWs config s payload replay startAfter pc signal).shared.depot = s.depot := by
  cases pc with
  | entry =>
    simp only [sendWs]
    split
    · rfl
    · exact depot_hand _ payload
  | sending connection handed =>
    rcases signal with v | (_ | e) <;> simp only [sendWs] <;> (try split) <;> rfl
  | reconnecting =>
    cases signal with
    | value v =>
      simp only [sendWs]
      split
      · split
        · rfl
        · exact depot_hand _ payload
      · rfl
    | failed e => rfl
  | resending connection handed => simp [sendWs]

lemma enqueueLast_shared (flushed : Service × Option AudioChunk) (pc : AudioChunk → Frame) :
    (enqueueLast flushed pc).shared = flushed.1 := by
  unfold enqueueLast
  split <;> rfl

lemma flushAggregateBuffer_depot : s.flushAggregateBuffer.1.depot = s.depot := by
  unfold Service.flushAggregateBuffer
  split <;> rfl

lemma queueAudioForSend_depot (audio : Bytes) :
    (s.queueAudioForSend config audio).1.depot = s.depot := by
  unfold Service.queueAudioForSend
  split
  · exact flushAggregateBuffer_depot
  · rfl

lemma releaseFinalWaiters_depot (release : Release) :
    (s.releaseFinalWaiters release).depot = s.depot :=
  Service.depot_congr (s.audio_releaseFinalWaiters release)

/-- A send loop that takes no chunk leaves the depot alone. -/
lemma sendLoop_depot {pc : SendLoopPc} (htaken : takenBy s (.sendLoop pc) signal = 0) :
    (sendLoop me s pc signal).shared.depot = s.depot := by
  have hhead : ∀ s : Service, (sendLoopHead s).shared.depot = s.depot := by
    intro s
    unfold sendLoopHead
    split <;> rfl
  cases pc with
  | entry =>
    cases signal with
    | value v => exact hhead s
    | failed e => rfl
  | getting =>
    cases signal with
    | value v =>
      cases hqueue : s.sendQueue with
      | nil => simp only [sendLoop, hqueue, Move.await]
      | cons chunk rest => simp [takenBy, hqueue] at htaken
    | failed e => rfl
  | sending chunk =>
    rcases signal with v | (_ | e)
    · simp only [sendLoop]
      split
      · exact hhead s.taskDone
      · rfl
    · rfl
    · rfl
  | disconnecting chunk =>
    change (passOn s.taskDone signal).shared.depot = s.depot
    rw [passOn_shared]
    rfl

/-- A send loop takes the first chunk, whatever it does with it. -/
lemma sendLoop_takes {v : Option Json} {rest : List AudioChunk}
    (hqueue : s.sendQueue = chunk :: rest) :
    (frameMove config me next s (.sendLoop .getting) (.value v)).shared.depot =
      (s.takeChunk chunk rest).depot := by
  simp only [frameMove, sendLoop, hqueue]
  split
  · rfl
  · simp only [sendLoopHead]
    split <;> rfl

/-- **What the frame moves do to the depot**, but for a send loop that takes a chunk and for
`_enqueue_chunk`. -/
lemma frameMove_restocks {frame : Frame} (henqueue : ∀ chunk, frame.call ≠ .enqueueChunk chunk)
    (htaken : takenBy s frame signal = 0) :
    Restocks s (frameMove config me next s frame signal).shared := by
  by_cases hquiet : frame.carries = false
  · exact .same (Service.depot_congr (audio_frameMove config me next s hquiet signal))
  cases frame with
  | sendWs payload replay startAfter pc => exact .same (sendWs_depot payload replay startAfter pc)
  | sendLoop pc => exact .same (sendLoop_depot htaken)
  | enqueueChunk chunk pc => exact absurd rfl (henqueue chunk)
  | disconnect pc =>
    cases pc with
    | entry => exact .same rfl
    | closing =>
      cases signal with
      | value v =>
        have hcleared : s.disconnect.depot = s.clearSendQueue.depot := by
          change (s.clearSendQueue.releaseFinalWaiters .disconnect).depot = _
          exact releaseFinalWaiters_depot _
        exact .cleared rfl (fun _ ht => ht) hcleared
      | failed e => exact .same rfl
  | cancelCurrentUtterance pc =>
    cases pc with
    | entry =>
      have hcleared : s.cancelUtterance.depot =
          s.discardUtterance.clearBuffers.clearSendQueue.depot := releaseFinalWaiters_depot _
      have htally : ∀ n, s.Tallied n → s.discardUtterance.clearBuffers.Tallied n := fun n ht =>
        (ht.congr rfl : s.discardUtterance.Tallied n).clearBuffers
      have hshared : (frameMove config me next s (.cancelCurrentUtterance .entry) signal).shared =
          s.cancelUtterance := by
        simp only [frameMove, cancelCurrentUtterance]
        split <;> rfl
      have hdepot : s.discardUtterance.clearBuffers.depot = s.depot := rfl
      rw [hshared]
      exact .cleared hdepot htally hcleared
    | _ => exact absurd rfl hquiet
  | handleAudio audio pc =>
    cases pc with
    | connecting =>
      refine .same ?_
      cases signal with
      | value v =>
        simp only [frameMove, handleAudio]
        split
        · rw [enqueueLast_shared, queueAudioForSend_depot]
          rfl
        · simp only [Service.appendPreRoll]
          split <;> rfl
      | failed e => rfl
    | _ => exact absurd rfl hquiet
  | startCurrentUtterance pc =>
    refine .same ?_
    cases pc with
    | entry => simp only [frameMove, startCurrentUtterance]; split <;> rfl
    | starting =>
      cases signal with
      | value v =>
        simp only [frameMove, startCurrentUtterance, enqueueLast_shared, Service.flushPreRoll]
        split
        · rfl
        · exact queueAudioForSend_depot _
      | failed e => rfl
    | enqueueing chunk => exact absurd rfl hquiet
  | finalizeCurrentUtterance pc =>
    cases pc with
    | entry =>
      have hflush := flushAggregateBuffer_depot (s := s)
      refine .same ?_
      simp only [frameMove, finalizeCurrentUtterance]
      split
      · split
        case h_1 s' heq => rwa [heq] at hflush
        case h_2 s' chunk heq => rwa [heq] at hflush
      · rfl
    | _ => exact absurd rfl hquiet
  | _ => exact absurd rfl hquiet

/-- What `_enqueue_chunk` does with its chunk: it waits, or the chunk is put or dropped. -/
lemma enqueueChunk_flow (hlimit : 0 < config.maxSendQueueMs) {pc : EnqueuePc} (ht : s.Tallied n)
    (ha : s.Accounts config)
    (hwoken : pc = .sleeping → config.dropPolicy = .block ∧ ∃ v, signal = .value v) :
    (enqueueChunk config s chunk pc signal).shared.Accounts config ∧
      waitingIn ((service config).frames (enqueueChunk config s chunk pc signal).command) +
        (enqueueChunk config s chunk pc signal).shared.stock = s.stock + {chunk.unnumbered} := by
  have hblock : config.dropPolicy = .block →
      (blockChunk config s chunk).shared.Accounts config ∧
        waitingIn ((service config).frames (blockChunk config s chunk).command) +
          (blockChunk config s chunk).shared.stock = s.stock + {chunk.unnumbered} := by
    intro hpolicy
    unfold blockChunk
    split
    · refine ⟨ha, ?_⟩
      simp only [Move.await, Coroutines.frames, waitingIn, List.map_singleton, List.sum_singleton,
        Frame.toPut]
      exact add_comm _ _
    · rename_i hput
      refine ⟨ha.putChunk ?_, ?_⟩
      · by_cases hexceeds : s.exceeds config chunk = true
        · rw [hexceeds, Bool.true_and, Bool.not_eq_true, Bool.not_eq_false', Bool.and_eq_true,
            List.isEmpty_iff, decide_eq_true_eq] at hput
          exact .inr ⟨hpolicy, hput.1, hput.2⟩
        · exact .inl (Bool.not_eq_true _ ▸ hexceeds)
      · simp only [Move.ret, Coroutines.frames, waitingIn, List.map_nil, List.sum_nil, zero_add]
        exact Service.stock_putChunk
  -- a chunk that was put or dropped waits no more
  have hdone : ∀ {m : ServiceMove}, m.shared.Accounts config →
      (m.command = .ret ∨ ∃ e, m.command = .throw e) →
        m.shared.stock = s.stock + {chunk.unnumbered} → m.shared.Accounts config ∧
          waitingIn ((service config).frames m.command) + m.shared.stock =
            s.stock + {chunk.unnumbered} := by
    intro m haccounts hcommand hstock
    refine ⟨haccounts, ?_⟩
    have hnone : waitingIn ((service config).frames m.command) = 0 := by
      rcases hcommand with h | ⟨e, h⟩ <;> rw [h] <;> rfl
    rw [hnone, zero_add, hstock]
  have hdrop : (s.enqueueDroppingOldest config chunk).Accounts config ∧
      (s.enqueueDroppingOldest config chunk).stock = s.stock + {chunk.unnumbered} :=
    ha.enqueueDroppingOldest hlimit ht
  cases pc with
  | entry =>
    simp only [enqueueChunk]
    split
    · rename_i hpolicy
      exact hblock hpolicy
    · split
      · exact hdone ha.countDropped (.inr ⟨_, rfl⟩) Service.stock_countDropped
      · exact hdone hdrop.1 (.inl rfl) hdrop.2
    · exact hdone hdrop.1 (.inl rfl) hdrop.2
  | sleeping =>
    obtain ⟨hpolicy, v, rfl⟩ := hwoken rfl
    exact hblock hpolicy

/-- The frames of other methods wait to put what is passed to `_enqueue_chunk`. -/
lemma waitingIn_frames {frame : Frame} (henqueue : ∀ chunk, frame.call ≠ .enqueueChunk chunk) :
    waitingIn ((service config).frames (frameMove config me next s frame signal).command) =
      passedBy (frameMove config me next s frame signal).command := by
  have hnone : ∀ {f : Frame}, f.call = frame.call → f.toPut = 0 := by
    intro f hf
    cases f <;> first | rfl | exact absurd hf.symm (henqueue _)
  have hstays := (frameMove_stays config me next s signal frame).command
  cases hcommand : (frameMove config me next s frame signal).command with
  | await f =>
    rw [hcommand] at hstays
    simp [Coroutines.frames, waitingIn, passedBy, hnone hstays.1]
  | call f k =>
    rw [hcommand] at hstays
    have hentry : k.enter.toPut = passedBy (.call f k) := by cases k <;> rfl
    simp only [Coroutines.frames, service, waitingIn, List.map_cons, List.map_nil, List.sum_cons,
      List.sum_nil, add_zero, hnone hstays.1]
    exact hentry
  | ret => rfl
  | throw e => rfl

/-- What a move does with the chunks: those that wait, are queued or dropped afterwards, with the
one that a send loop takes, are those that waited, were queued or dropped, with the one that is
passed to `_enqueue_chunk`. -/
structure Flows (config : LocalSTTConfig) (s : Service) (frame : Frame) (signal : ServiceSignal)
    (m : ServiceMove) : Prop where
  accounts : m.shared.Accounts config
  balance : waitingIn ((service config).frames m.command) + m.shared.stock +
    takenBy s frame signal = frame.toPut + s.stock + passedBy m.command

/-- **The flow of a frame move.** -/
lemma frameMove_flows (hlimit : 0 < config.maxSendQueueMs) {frame : Frame} (ht : s.Tallied n)
    (ha : s.Accounts config) (hwoken : ∀ chunk, frame = .enqueueChunk chunk .sleeping →
      config.dropPolicy = .block ∧ ∃ v, signal = .value v) :
    Flows config s frame signal (frameMove config me next s frame signal) := by
  have hwaiting : (∀ chunk, frame.call ≠ .enqueueChunk chunk) →
      (frameMove config me next s frame signal).shared.stock + takenBy s frame signal = s.stock →
        waitingIn ((service config).frames (frameMove config me next s frame signal).command) +
            (frameMove config me next s frame signal).shared.stock + takenBy s frame signal =
          frame.toPut + s.stock + passedBy (frameMove config me next s frame signal).command := by
    intro henqueue hstock
    have hnone : frame.toPut = 0 := by
      cases frame <;> first | rfl | exact absurd rfl (henqueue _)
    rw [waitingIn_frames henqueue, hnone, zero_add, add_assoc, hstock, add_comm]
  by_cases htaken : takenBy s frame signal = 0
  · by_cases henqueue : ∃ chunk pc, frame = .enqueueChunk chunk pc
    · obtain ⟨chunk, pc, rfl⟩ := henqueue
      have hflow : (enqueueChunk config s chunk pc signal).shared.Accounts config ∧
          waitingIn ((service config).frames (enqueueChunk config s chunk pc signal).command) +
            (enqueueChunk config s chunk pc signal).shared.stock = s.stock + {chunk.unnumbered} :=
        enqueueChunk_flow hlimit ht ha fun h => hwoken chunk (by rw [h])
      have hstays := (frameMove_stays config me next s signal (.enqueueChunk chunk pc)).command
      have hpassed : passedBy (frameMove config me next s (.enqueueChunk chunk pc) signal).command =
          0 := by
        cases hcommand : (frameMove config me next s (.enqueueChunk chunk pc) signal).command with
        | call f k =>
          rw [hcommand] at hstays
          have hcall := hstays.1
          cases f <;> cases hcall
          cases hstays.2
        | _ => rfl
      refine ⟨hflow.1, ?_⟩
      rw [htaken, hpassed, add_zero, add_zero, Frame.toPut, add_comm _ s.stock]
      exact hflow.2
    · have hcall : ∀ chunk, frame.call ≠ .enqueueChunk chunk := by
        intro chunk hcall
        cases frame <;> cases hcall
        exact henqueue ⟨_, _, rfl⟩
      have hrestocks : Restocks s (frameMove config me next s frame signal).shared :=
        frameMove_restocks hcall htaken
      have hkeeps := hrestocks.keeps hlimit ht ha
      exact ⟨hkeeps.1, hwaiting hcall (by rw [htaken, add_zero, hkeeps.2])⟩
  · -- a send loop takes the first chunk
    unfold takenBy at htaken
    split at htaken
    · rename_i v
      cases hqueue : s.sendQueue with
      | nil => simp [hqueue] at htaken
      | cons chunk rest =>
        have hdepot : (frameMove config me next s (.sendLoop .getting) (.value v)).shared.depot =
            (s.takeChunk chunk rest).depot := sendLoop_takes hqueue
        refine ⟨(ha.takeChunk hlimit ht hqueue).congr hdepot, hwaiting (fun _ h => nomatch h) ?_⟩
        rw [Service.stock_congr hdepot, ← Service.stock_takeChunk hqueue]
        simp [takenBy, hqueue]
    · exact absurd rfl htaken

/-- A chunk waits in a sleep under the policy `block`. -/
def Sleeps (config : LocalSTTConfig) (frame : Frame) : Prop :=
  ∀ chunk, frame = .enqueueChunk chunk .sleeping → config.dropPolicy = .block

lemma frameMove_sleeps {frame : Frame} (hframe : Sleeps config frame) :
    EachFrame (Sleeps config) (frameMove config me next s frame signal).command := by
  have hentry : ∀ k : Call, Sleeps config k.enter := by
    intro k chunk h
    cases k <;> cases h
  have hstays := (frameMove_stays config me next s signal frame).command
  cases hcommand : (frameMove config me next s frame signal).command with
  | await f =>
    rw [hcommand] at hstays
    rintro chunk rfl
    cases frame <;> cases hstays.1
    rename_i pc
    cases pc with
    | sleeping => exact hframe chunk rfl
    | entry =>
      simp only [frameMove, enqueueChunk] at hcommand
      split at hcommand
      · rename_i hpolicy
        exact hpolicy
      · split at hcommand <;> cases hcommand
      · cases hcommand
  | call f k =>
    rw [hcommand] at hstays
    refine ⟨?_, hentry k⟩
    rintro chunk rfl
    cases hstays.2
  | ret => exact trivial
  | throw e => exact trivial

end moves

/-! ## Runs -/

section runs

variable (config : LocalSTTConfig)

/-- The chunk that a step passes to `_enqueue_chunk`. -/
def passedOn (w : ServiceWorld) : ServiceAction → Multiset AudioChunk
  | .tick =>
    match w.running with
    | none => 0
    | some (t, signal) =>
      match w.stack t with
      | [] => 0
      | f :: _ => passedBy (frameMove config t w.spawned w.shared f signal).command
  | _ => 0

/-- The chunk that a send loop takes in a step. -/
def taken (w : ServiceWorld) : ServiceAction → Multiset AudioChunk
  | .tick =>
    match w.running with
    | none => 0
    | some (t, signal) =>
      match w.stack t with
      | [] => 0
      | f :: _ => takenBy w.shared f signal
  | _ => 0

/-- The chunks that wait, are queued or were dropped. -/
def present (w : ServiceWorld) : Multiset AudioChunk := waiting w + w.shared.stock

/-- The accounts of the send queue agree, and chunks are put by tasks that are not cancelled. -/
structure AccountedWorld (w : ServiceWorld) : Prop where
  tallied : TalliedWorld config w
  stopped : LoopsStopped config w
  accounts : w.shared.Accounts config
  sleeps : Coroutines.Outline (fun _ frame _ => Sleeps config frame) w
  woken : ∀ t signal chunk fs, w.running = some (t, signal) →
    w.stack t = .enqueueChunk chunk .sleeping :: fs → ∃ v, signal = .value v

variable {config} {w w' : ServiceWorld} {t : TaskId} {signal : ServiceSignal} {f : Frame}
  {fs : List Frame}

/-- A frame move changes what waits in its own task. -/
lemma waiting_afterMove (hw : ServiceShaped config w) (hf : w.stack t = f :: fs) :
    waiting (afterMove config w t signal f fs) + f.toPut = waiting w +
      waitingIn ((service config).frames
        (frameMove config t w.spawned w.shared f signal).command) := by
  have hlt : t < w.spawned := hw.shaped.lt_spawned hf
  have hothers : ∑ u ∈ (Finset.range (afterMove config w t signal f fs).spawned).erase t,
      waitingIn ((afterMove config w t signal f fs).stack u) =
        ∑ u ∈ (Finset.range w.spawned).erase t, waitingIn (w.stack u) := by
    have hsubset : (Finset.range w.spawned).erase t ⊆
        (Finset.range (afterMove config w t signal f fs).spawned).erase t := by
      refine Finset.erase_subset_erase t (Finset.range_subset_range.mpr ?_)
      rw [Coroutines.apply_spawned]
      exact Nat.le_add_right ..
    rw [← Finset.sum_subset hsubset]
    · refine Finset.sum_congr rfl fun u hu => ?_
      have hu := Finset.mem_erase.mp hu
      rw [Coroutines.apply_stack_of_ne _ _ _ _ _ hu.1 (Finset.mem_range.mp hu.2)]
    · -- a new task is a loop
      intro u hu hnew
      have hu := Finset.mem_erase.mp hu
      have hle : w.spawned ≤ u := by
        by_contra hlt
        exact hnew (Finset.mem_erase.mpr ⟨hu.1, Finset.mem_range.mpr (not_le.mp hlt)⟩)
      rw [Coroutines.apply_stack, Function.update_of_ne hu.1, Coroutines.spawnAll, if_pos hle]
      cases hk : (frameMove config t w.spawned w.shared f signal).spawn[u - w.spawned]? with
      | none => rfl
      | some k =>
        rcases frameMove_spawn config t w.spawned w.shared signal (List.mem_of_getElem? hk)
          with rfl | rfl <;> rfl
  have hbefore := Finset.add_sum_erase (Finset.range w.spawned) (fun u => waitingIn (w.stack u))
    (Finset.mem_range.mpr hlt)
  have hafter := Finset.add_sum_erase (Finset.range (afterMove config w t signal f fs).spawned)
    (fun u => waitingIn ((afterMove config w t signal f fs).stack u)) (a := t) (by
      rw [Finset.mem_range, Coroutines.apply_spawned]
      exact Nat.lt_add_right _ hlt)
  have hstack : waitingIn ((afterMove config w t signal f fs).stack t) =
      waitingIn ((service config).frames
        (frameMove config t w.spawned w.shared f signal).command) + waitingIn fs := by
    rw [Coroutines.apply_stack, Function.update_self]
    simp [waitingIn]
  rw [hothers] at hafter
  unfold waiting
  rw [← hbefore, ← hafter, hf, hstack]
  simp only [waitingIn, List.map_cons, List.sum_cons]
  abel

/-- The flow of the frame move of the running task. -/
lemma AccountedWorld.flows (hlimit : 0 < config.maxSendQueueMs) (hw : AccountedWorld config w)
    (hrun : w.running = some (t, signal)) (hf : w.stack t = f :: fs) :
    Flows config w.shared f signal (frameMove config t w.spawned w.shared f signal) :=
  frameMove_flows hlimit hw.tallied.tally hw.accounts fun chunk hframe =>
    ⟨hw.sleeps t f (hf ▸ List.mem_cons_self ..) chunk hframe,
      hw.woken t signal chunk fs hrun (hframe ▸ hf)⟩

/-- A step keeps the accounts. -/
theorem accounted_step (hconfig : config.Checked) (hlimit : 0 < config.maxSendQueueMs)
    {a : ServiceAction} (hw : AccountedWorld config w) (h : (service config).step w a = some w') :
    AccountedWorld config w' := by
  have htallied := tallied_step hconfig hw.tallied h
  have hstopped := loopsStopped_step hw.stopped h
  cases (service config).step_cases h with
  | @call k hrun hk =>
    refine ⟨htallied, hstopped, hw.accounts, hw.sleeps.call ?_,
      fun t signal chunk fs hrun' => nomatch hrun.symm.trans hrun'⟩
    intro chunk hentry
    cases k <;> cases hentry
  | @resume t signal f fs hrun hf hsignal =>
    refine ⟨htallied, hstopped, hw.accounts, hw.sleeps, fun u signal' chunk gs hrun' hg => ?_⟩
    obtain ⟨rfl, rfl⟩ := Prod.mk.inj (Option.some.inj hrun')
    obtain ⟨rfl, rfl⟩ := List.cons.inj (hf.symm.trans hg)
    have hcancelled := hstopped.not_cancelled rfl hf rfl
    rcases signal with v | (_ | e)
    · exact ⟨v, rfl⟩
    · exact absurd rfl hcancelled
    · cases hmark : w.cancelled t <;>
        simp [Coroutines.accepts, hmark, service, Frame.awaited, Frame.answers] at hsignal
  | outside hrun =>
    exact ⟨htallied, hstopped, hw.accounts.congr rfl, hw.sleeps.outside fun _ _ _ h => h,
      fun t signal chunk fs hrun' => nomatch hrun.symm.trans hrun'⟩
  | @tick t signal f fs hrun hf =>
    have hsleeps : Sleeps config f := hw.sleeps t f (hf ▸ List.mem_cons_self ..)
    refine ⟨htallied, hstopped, ?_, hw.sleeps.tick hf ⟨?_, ?_, fun _ _ _ _ h => h⟩, ?_⟩
    · rw [Coroutines.apply_shared]
      exact (hw.flows hlimit hrun hf).accounts
    · exact EachFrame.frames (frameMove_sleeps hsleeps)
    · intro i k hk chunk hentry
      rcases frameMove_spawn config t w.spawned w.shared signal (List.mem_of_getElem? hk)
        with rfl | rfl <;> cases hentry
    · intro u signal' chunk gs hrun' hg
      rcases Coroutines.pending_of_running_apply hw.tallied.shape.shaped hf hrun' hg with
        ⟨k, hk⟩ | hpending
      · cases k <;> cases hk
      · cases hpending

lemma accountedWorld_initial (hlimit : 0 < config.maxSendQueueMs) :
    AccountedWorld config .initial where
  tallied := talliedWorld_initial config
  stopped := loopsStopped_initial config
  accounts := by
    refine ⟨rfl, .inl ?_⟩
    change (0 : ℚ) ≤ config.maxSendQueueMs
    exact_mod_cast hlimit.le
  sleeps := Coroutines.outline_initial _ _
  woken t signal chunk fs h := nomatch h

/-- **A step balances the chunks.** -/
theorem balance_step (hlimit : 0 < config.maxSendQueueMs) {a : ServiceAction}
    (hw : AccountedWorld config w) (h : (service config).step w a = some w') :
    present w' + taken w a = present w + passedOn config w a := by
  cases (service config).step_cases h with
  | @call k hrun hk =>
    have hnew : waitingIn [k.enter] = 0 := by cases k <;> first | rfl | cases hk
    have hwaiting : waiting { w with
        stack := Function.update w.stack w.spawned [k.enter]
        spawned := w.spawned + 1 } = waiting w := by
      simp only [waiting]
      rw [Finset.sum_range_succ, Function.update_self, hnew, add_zero]
      refine Finset.sum_congr rfl fun u hu => ?_
      rw [Function.update_of_ne (Finset.mem_range.mp hu).ne]
    exact congrArg (fun m => m + w.shared.stock + 0) hwaiting
  | resume hrun hf hsignal => rfl
  | outside hrun => rfl
  | @tick t signal f fs hrun hf =>
    have hbalance := (hw.flows hlimit hrun hf).balance
    have hwaiting : waiting (afterMove config w t signal f fs) + f.toPut = waiting w +
        waitingIn ((service config).frames
          (frameMove config t w.spawned w.shared f signal).command) :=
      waiting_afterMove hw.tallied.shape hf
    have htaken : taken w .tick = takenBy w.shared f signal := by simp only [taken, hrun, hf]
    have hpassed : passedOn config w .tick =
        passedBy (frameMove config t w.spawned w.shared f signal).command := by
      simp only [passedOn, hrun, hf]
    rw [htaken, hpassed, present, present, Coroutines.apply_shared]
    refine add_right_cancel (b := f.toPut) ?_
    calc waiting (afterMove config w t signal f fs) +
          (frameMove config t w.spawned w.shared f signal).shared.stock +
          takenBy w.shared f signal + f.toPut
        = waiting (afterMove config w t signal f fs) + f.toPut +
            ((frameMove config t w.spawned w.shared f signal).shared.stock +
              takenBy w.shared f signal) := by abel
      _ = waiting w + (waitingIn ((service config).frames
            (frameMove config t w.spawned w.shared f signal).command) +
          (frameMove config t w.spawned w.shared f signal).shared.stock +
          takenBy w.shared f signal) := by rw [hwaiting]; abel
      _ = waiting w + w.shared.stock +
          passedBy (frameMove config t w.spawned w.shared f signal).command + f.toPut := by
        rw [hbalance]
        abel

/-- **Where the chunks are.**  The queue is within its limit, and every chunk that was passed to
`_enqueue_chunk` waits to be put, is queued, was taken by a send loop or was dropped and counted. -/
structure QueueAccounted (config : LocalSTTConfig) (as : List ServiceAction) (w : ServiceWorld) :
    Prop where
  /-- `_queued_audio_ms` is the duration of the queued chunks. -/
  queuedAudioMs : w.shared.queuedAudioMs = (w.shared.sendQueue.map AudioChunk.durationMs).sum
  /-- Where chunks are removed from the queue, `max(0, ·)` takes the difference itself. -/
  unclamped : ∀ p fuel chunk rest, (Service.dropWhile p fuel w.shared).sendQueue = chunk :: rest →
    ((Service.dropWhile p fuel w.shared).takeChunk chunk rest).queuedAudioMs =
      (Service.dropWhile p fuel w.shared).queuedAudioMs - chunk.durationMs
  bounded : config.dropPolicy ≠ .block → w.shared.queuedAudioMs ≤ config.maxSendQueueMs
  oversized : config.dropPolicy = .block → (config.maxSendQueueMs : ℚ) < w.shared.queuedAudioMs →
    ∃ chunk, w.shared.sendQueue = [chunk] ∧ (config.maxSendQueueMs : ℚ) < chunk.durationMs
  chunks : (serviceSystem config).total (passedOn config) .initial as =
    waiting w + w.shared.queuedChunks + (serviceSystem config).total taken .initial as +
      w.shared.droppedChunks
  counted : w.shared.audioFramesDropped = w.shared.droppedChunks.card

/-- **Send-queue accounting is exact and bounded**, in every run and under every drop policy. -/
theorem sendQueue_accounted (hconfig : config.postInit = .ok ()) {as : List ServiceAction}
    (hrun : (serviceSystem config).run .initial as = some w) : QueueAccounted config as w := by
  have hlimit := LocalSTTConfig.maxSendQueueMs_pos hconfig
  have hchecked := LocalSTTConfig.checked_of_postInit hconfig
  have hstep : ∀ w a w', AccountedWorld config w → (service config).step w a = some w' →
      AccountedWorld config w' := fun _ _ _ hw hstep => accounted_step hchecked hlimit hw hstep
  have hinitial := accountedWorld_initial hlimit
  have hw : AccountedWorld config w :=
    StepSystem.invariant (I := AccountedWorld config) hstep hinitial ⟨as, hrun⟩
  have hbalanced : ∀ w a w', AccountedWorld config w → (service config).step w a = some w' →
      present w' + taken w a = present w + passedOn config w a := fun _ _ _ hw hstep =>
    balance_step hlimit hw hstep
  have hbalance : present w + (serviceSystem config).total taken .initial as =
      present .initial + (serviceSystem config).total (passedOn config) .initial as :=
    StepSystem.balance (I := AccountedWorld config) hstep hbalanced hinitial hrun
  refine
    { queuedAudioMs := hw.tallied.tally.queued
      unclamped := fun p fuel chunk rest hqueue => ?unclamped
      bounded := fun hpolicy => hw.accounts.bounded.resolve_right fun h => hpolicy h.1
      oversized := fun hpolicy hexceeds =>
        (hw.accounts.bounded.resolve_left (not_le.mpr hexceeds)).2
      chunks := ?chunks
      counted := hw.accounts.counted }
  case unclamped =>
    have ht := hw.tallied.tally.dropWhile p fuel
    have hbefore := ht.queued
    have hafter := (ht.takeChunk hqueue).queued
    rw [hqueue, List.map_cons, List.sum_cons] at hbefore
    rw [hafter, hbefore]
    exact (add_sub_cancel_left _ _).symm
  case chunks =>
    have hempty : present .initial = 0 := rfl
    rw [hempty, zero_add] at hbalance
    rw [← hbalance, present, Service.stock]
    abel

/-- `sendQueue_accounted` in a run in which the chunk of an utterance is put and taken. -/
theorem sendQueue_accounted_firstAudioSent :
    ∃ w, (serviceSystem {}).run .initial firstAudioSent = some w ∧ w.shared.enqueued = 1 ∧
      ((serviceSystem {}).total taken .initial firstAudioSent).card = 1 ∧
        QueueAccounted {} firstAudioSent w := by
  obtain ⟨w, hrun, henqueued⟩ := StepSystem.exists_run_of_map (M := serviceSystem {})
    (s := .initial) (f := fun w => w.shared.enqueued) (l := firstAudioSent) (x := 1)
    (by decide +kernel)
  exact ⟨w, hrun, henqueued, by decide +kernel, sendQueue_accounted (by decide +kernel) hrun⟩

end runs

end RtcAsr.Plugin
