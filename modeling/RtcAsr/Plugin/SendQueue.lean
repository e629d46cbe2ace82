import RtcAsr.Plugin.AudioState
import Mathlib.Algebra.BigOperators.Group.List.Basic
import Mathlib.Algebra.Order.Field.Rat
import Mathlib.Data.Finset.Card
import Mathlib.Data.Rat.Lemmas
import Mathlib.Tactic.Linarith
import Mathlib.Tactic.Positivity

/-!
# The accounts of the send queue

The chunks put into the send queue for which `task_done` was not called are those in the queue and
those that a send loop has taken and not done with; and `_queued_audio_ms` is the duration of the
queued chunks.  This holds in every run of a service whose configuration was accepted
(`tallied_of_reaches`).
-/

namespace RtcAsr.Plugin

/-- The send loop has a chunk that is neither queued nor done with. -/
def Frame.holdsChunk : Frame → Bool
  | .sendLoop (.sending _) => true
  | .sendLoop (.disconnecting _) => true
  | _ => false

/-- The tasks with a chunk that is neither queued nor done with. -/
def inFlight (w : ServiceWorld) : Finset TaskId :=
  (Finset.range w.spawned).filter fun t => (w.stack t).any Frame.holdsChunk

/-- The queue agrees with its counts, with `n` chunks in flight. -/
structure Service.Tallied (n : ℕ) (s : Service) : Prop where
  unfinished : s.unfinished = s.sendQueue.length + n
  queued : s.queuedAudioMs = (s.sendQueue.map AudioChunk.durationMs).sum
  durations : ∀ chunk ∈ s.sendQueue, 0 ≤ chunk.durationMs
  aggregate : 0 ≤ s.aggregateDurationMs

/-- The queue with its counts, and the duration of the aggregate buffer. -/
def Service.tally (s : Service) : List AudioChunk × ℕ × ℚ × ℚ :=
  (s.sendQueue, s.unfinished, s.queuedAudioMs, s.aggregateDurationMs)

/-- The call brings a chunk with a duration. -/
def Call.Lasting : Call → Prop
  | .enqueueChunk chunk => 0 ≤ chunk.durationMs
  | _ => True

namespace Service

variable {n : ℕ} {s s' : Service}

/-- The tally depends on the fields it adds up only. -/
lemma Tallied.congr (hs : s.Tallied n) (h : s'.tally = s.tally) : s'.Tallied n := by
  obtain ⟨hqueue, hrest⟩ := Prod.mk.inj h
  obtain ⟨hunfinished, hrest⟩ := Prod.mk.inj hrest
  obtain ⟨hqueued, haggregate⟩ := Prod.mk.inj hrest
  exact ⟨by rw [hunfinished, hqueue]; exact hs.unfinished,
    by rw [hqueued, hqueue]; exact hs.queued, by rw [hqueue]; exact hs.durations,
    by rw [haggregate]; exact hs.aggregate⟩

/-- The tally is part of the audio state. -/
lemma tally_congr (h : s'.audio = s.audio) : s'.tally = s.tally := by
  have htally : ∀ s : Service, s.tally = s.audio.tally := fun _ => rfl
  rw [htally, h, ← htally]

/-- The durations of chunks add up to a duration. -/
lemma duration_sum_nonneg {chunks : List AudioChunk}
    (h : ∀ chunk ∈ chunks, 0 ≤ chunk.durationMs) :
    0 ≤ (chunks.map AudioChunk.durationMs).sum :=
  List.sum_nonneg fun d hd => by
    obtain ⟨chunk, hmem, rfl⟩ := List.mem_map.mp hd
    exact h chunk hmem

/-- A chunk that is taken is in flight. -/
lemma Tallied.takeChunk {chunk : AudioChunk} {rest : List AudioChunk} (hs : s.Tallied n)
    (hqueue : s.sendQueue = chunk :: rest) : (s.takeChunk chunk rest).Tallied (n + 1) := by
  have hrest : ∀ chunk ∈ rest, 0 ≤ chunk.durationMs := fun chunk' hmem =>
    hs.durations chunk' (hqueue ▸ List.mem_cons_of_mem _ hmem)
  refine ⟨?_, ?_, hrest, hs.aggregate⟩
  · have hunfinished := hs.unfinished
    rw [hqueue, List.length_cons] at hunfinished
    change s.unfinished = rest.length + (n + 1)
    omega
  · have hqueued := hs.queued
    rw [hqueue, List.map_cons, List.sum_cons] at hqueued
    have hsum := duration_sum_nonneg hrest
    change max 0 (s.queuedAudioMs - chunk.durationMs) = (rest.map AudioChunk.durationMs).sum
    rw [hqueued, add_sub_cancel_left]
    exact max_eq_right hsum

/-- A chunk in flight that is done with. -/
lemma Tallied.taskDone (hs : s.Tallied (n + 1)) : s.taskDone.Tallied n := by
  refine ⟨?_, hs.queued, hs.durations, hs.aggregate⟩
  have hunfinished := hs.unfinished
  change s.unfinished - 1 = s.sendQueue.length + n
  omega

/-- A chunk that is put is one more, and its audio is added. -/
lemma Tallied.putChunk {chunk : AudioChunk} (hs : s.Tallied n) (hchunk : 0 ≤ chunk.durationMs) :
    (s.putChunk chunk).Tallied n := by
  refine ⟨?_, ?_, ?_, hs.aggregate⟩
  · have hunfinished := hs.unfinished
    simp only [Service.putChunk, List.length_append, List.length_singleton]
    omega
  · simp only [Service.putChunk, List.map_append, List.sum_append, List.map_singleton,
      List.sum_singleton, hs.queued]
  · intro chunk' hmem
    rcases List.mem_append.mp hmem with hmem | hmem
    · exact hs.durations chunk' hmem
    · rw [List.mem_singleton.mp hmem]
      exact hchunk

/-- Dropping chunks keeps the tally. -/
lemma Tallied.dropWhile (p : Service → Bool) (fuel : ℕ) (hs : s.Tallied n) :
    (dropWhile p fuel s).Tallied n :=
  dropWhile_keeps (P := Tallied n)
    (fun _ _ _ hqueue hs => (hs.takeChunk hqueue).taskDone.congr rfl) p fuel hs

/-- So does clearing the queue. -/
lemma Tallied.clearSendQueue (hs : s.Tallied n) : s.clearSendQueue.Tallied n := hs.dropWhile _ _

/-- So does the policy `drop_oldest`. -/
lemma Tallied.enqueueDroppingOldest (config : LocalSTTConfig) {chunk : AudioChunk}
    (hs : s.Tallied n) (hchunk : 0 ≤ chunk.durationMs) :
    (s.enqueueDroppingOldest config chunk).Tallied n := by
  have hroom : (s.makeRoom config chunk).Tallied n := hs.dropWhile _ _
  unfold Service.enqueueDroppingOldest
  split
  · exact hroom.congr rfl
  · exact hroom.putChunk hchunk

/-- Final waiters are no matter of the queue. -/
lemma tally_releaseFinalWaiters (release : Release) :
    (s.releaseFinalWaiters release).tally = s.tally :=
  tally_congr (s.audio_releaseFinalWaiters release)

/-- Nor are the buffers. -/
lemma Tallied.clearBuffers (hs : s.Tallied n) : s.clearBuffers.Tallied n :=
  ⟨hs.unfinished, hs.queued, hs.durations, le_refl 0⟩

/-- Cancelling an utterance clears the queue. -/
lemma Tallied.cancelUtterance (hs : s.Tallied n) : s.cancelUtterance.Tallied n :=
  Tallied.congr (((hs.congr rfl : s.discardUtterance.Tallied n).clearBuffers).clearSendQueue)
    (tally_releaseFinalWaiters _)

/-- So does a disconnect. -/
lemma Tallied.disconnect (hs : s.Tallied n) : s.disconnect.Tallied n :=
  Tallied.congr (Tallied.clearBuffers (hs.clearSendQueue.congr (tally_releaseFinalWaiters _))) rfl

/-- The service is tallied, and so is the chunk that it passes on. -/
def Feeds (n : ℕ) (flushed : Service × Option AudioChunk) : Prop :=
  flushed.1.Tallied n ∧ ∀ chunk, flushed.2 = some chunk → 0 ≤ chunk.durationMs

/-- The aggregate buffer becomes a chunk of nonnegative duration. -/
lemma Tallied.flushAggregateBuffer (hs : s.Tallied n) : Feeds n s.flushAggregateBuffer := by
  unfold Service.flushAggregateBuffer
  split
  · exact ⟨hs, fun _ h => nomatch h⟩
  · refine ⟨⟨hs.unfinished, hs.queued, hs.durations, le_refl 0⟩, fun chunk h => ?_⟩
    obtain rfl := Option.some.inj h
    exact hs.aggregate

section config

variable {config : LocalSTTConfig} (hconfig : config.Checked)
include hconfig

/-- Audio of an accepted configuration has a duration. -/
lemma audioDurationMs_nonneg (length : ℕ) : 0 ≤ audioDurationMs config length := by
  unfold audioDurationMs LocalSTTConfig.bytesPerSecond
  rw [hconfig.sampleRate, hconfig.channels]
  positivity

/-- So does audio of an utterance, when there is enough of it. -/
lemma Tallied.queueAudioForSend (hs : s.Tallied n) (audio : Bytes) :
    Feeds n (s.queueAudioForSend config audio) := by
  have hextend : (s.extendAggregateBuffer config audio).Tallied n :=
    ⟨hs.unfinished, hs.queued, hs.durations,
      add_nonneg hs.aggregate (audioDurationMs_nonneg hconfig audio.length)⟩
  unfold Service.queueAudioForSend
  split
  · exact hextend.flushAggregateBuffer
  · exact ⟨hextend, fun _ h => nomatch h⟩

/-- So does the pre-roll. -/
lemma Tallied.flushPreRoll (hs : s.Tallied n) : Feeds n (s.flushPreRoll config) := by
  have hclear : s.clearPreRoll.Tallied n := hs.congr rfl
  unfold Service.flushPreRoll
  split
  · exact ⟨hclear, fun _ h => nomatch h⟩
  · exact hclear.queueAudioForSend hconfig _

end config

end Service

/-! ## Frame moves -/

variable {config : LocalSTTConfig} {me next : TaskId} {s : Service} {signal : ServiceSignal} {n : ℕ}

/-- A frame of a send loop holds a chunk as before, or has taken one or is done with one. -/
def Holds (n : ℕ) (m : ServiceMove) : Prop :=
  m.shared.Tallied (n + (((service {}).frames m.command).any Frame.holdsChunk).toNat)

/-- The head of the send loop holds no chunk. -/
lemma sendLoopHead_holds (hs : s.Tallied n) : Holds n (sendLoopHead s) := by
  unfold sendLoopHead
  split <;> exact hs

/-- The send loop holds the chunk it took until it is done with it. -/
lemma sendLoop_holds {pc : SendLoopPc}
    (hs : s.Tallied (n + (Frame.sendLoop pc).holdsChunk.toNat)) :
    Holds n (sendLoop me s pc signal) := by
  cases pc with
  | entry =>
    cases signal with
    | value v => exact sendLoopHead_holds hs
    | failed e => exact hs
  | getting =>
    cases signal with
    | value v =>
      simp only [sendLoop]
      split
      · exact hs
      · rename_i chunk rest hqueue
        split
        · exact hs.takeChunk hqueue
        · exact sendLoopHead_holds (hs.takeChunk hqueue).taskDone
    | failed e => exact hs
  | sending chunk =>
    rcases signal with v | (_ | e)
    · simp only [sendLoop]
      split
      · exact sendLoopHead_holds hs.taskDone
      · exact hs.taskDone
    · exact hs.taskDone
    · exact hs
  | disconnecting chunk => cases signal <;> exact hs.taskDone

/-- What a chunk passed on to the queue needs. -/
lemma enqueueLast_feeds {flushed : Service × Option AudioChunk} {pc : AudioChunk → Frame}
    (hfeeds : Service.Feeds n flushed) :
    (enqueueLast flushed pc).shared.Tallied n ∧
      ∀ f k, (enqueueLast flushed pc).command = .call f k → k.Lasting := by
  obtain ⟨s, _ | chunk⟩ := flushed
  · exact ⟨hfeeds.1, fun _ _ h => nomatch h⟩
  · refine ⟨hfeeds.1, fun f k h => ?_⟩
    obtain rfl : Call.enqueueChunk chunk = k := by
      cases h
      rfl
    exact hfeeds.2 chunk rfl

/-- Only three methods bring chunks to the queue. -/
lemma lasting_of_pending {frame : Frame} {k : Call} (h : frame.pending = some k)
    (hcall : frame.call.rank ≠ 6) : k.Lasting := by
  unfold Frame.pending at h
  split at h <;> cases h
  all_goals first | exact trivial | exact absurd rfl hcall

/-- Enqueueing a chunk keeps the tally under every policy. -/
lemma enqueueChunk_tallied {chunk : AudioChunk} {pc : EnqueuePc} (hs : s.Tallied n)
    (hchunk : 0 ≤ chunk.durationMs) :
    (enqueueChunk config s chunk pc signal).shared.Tallied n := by
  have hblock : (blockChunk config s chunk).shared.Tallied n := by
    unfold blockChunk
    split
    · exact hs
    · exact hs.putChunk hchunk
  have hdrop := hs.enqueueDroppingOldest config hchunk
  cases pc with
  | entry =>
    simp only [enqueueChunk]
    split
    · exact hblock
    · split
      · exact hs.congr rfl
      · exact hdrop
    · exact hdrop
  | sleeping =>
    cases signal with
    | value v => exact hblock
    | failed e => exact hs

/-- Handing a payload to a connection leaves the queue alone. -/
lemma tally_hand (connection : ℕ) (payload : Payload) :
    (s.hand connection payload).tally = s.tally := by
  unfold Service.hand
  split <;> rfl

/-- So does sending it. -/
lemma sendWs_tally (payload : Payload) (replay startAfter : Bool) (pc : SendWsPc) :
    (sendWs config s payload replay startAfter pc signal).shared.tally = s.tally := by
  cases pc with
  | entry =>
    simp only [sendWs]
    split
    · rfl
    · exact tally_hand _ payload
  | sending connection handed =>
    rcases signal with v | (_ | e) <;> simp only [sendWs] <;> (try split) <;> rfl
  | reconnecting =>
    cases signal with
    | value v =>
      simp only [sendWs]
      split
      · split
        · rfl
        · exact tally_hand _ payload
      · rfl
    | failed e => rfl
  | resending connection handed => simp [sendWs]

/-- A move that keeps the service tallied, and passes on only chunks that have a duration. -/
def Passes (n : ℕ) (m : ServiceMove) : Prop :=
  m.shared.Tallied n ∧ ∀ f k, m.command = .call f k → k.Lasting

/-- A move that suspends the task passes no chunk on. -/
lemma passes_await {f : Frame} (hs : s.Tallied n) : Passes n (.await s f) :=
  ⟨hs, by rintro _ _ ⟨⟩⟩

/-- A call passes one on at most, whose duration is not negative. -/
lemma passes_call {f : Frame} {k : Call} (hs : s.Tallied n) (hk : k.Lasting) :
    Passes n (.call s f k) :=
  ⟨hs, by rintro _ _ ⟨⟩; exact hk⟩

/-- A move that returns passes none on. -/
lemma passes_ret (hs : s.Tallied n) : Passes n (.ret s) := ⟨hs, by rintro _ _ ⟨⟩⟩

/-- Nor does a move that raises. -/
lemma passes_throw {e : TaskExn PluginExn} (hs : s.Tallied n) : Passes n (.throw s e) :=
  ⟨hs, by rintro _ _ ⟨⟩⟩

/-- Passing a result on returns or raises. -/
lemma passes_passOn (hs : s.Tallied n) : Passes n (passOn s signal) := by
  cases signal with
  | value v => exact passes_ret hs
  | failed e => exact passes_throw hs

/-- A chunk that is full is passed on. -/
lemma handleAudio_passes (hconfig : config.Checked) (hs : s.Tallied n) (audio : Bytes)
    (pc : HandleAudioPc) : Passes n (handleAudio config s audio pc signal) := by
  cases pc with
  | entry =>
    simp only [handleAudio]
    split
    · exact passes_ret hs
    · exact passes_call hs trivial
  | connecting =>
    cases signal with
    | value v =>
      have hheard : (s.record (.heard audio s.utteranceActive)).Tallied n := hs.congr rfl
      simp only [handleAudio]
      split
      · exact enqueueLast_feeds (hheard.queueAudioForSend hconfig audio)
      · refine passes_ret (hheard.congr ?_)
        unfold Service.appendPreRoll
        split <;> rfl
    | failed e => exact passes_throw hs
  | enqueueing chunk => exact passes_passOn hs

/-- So is the pre-roll, when it is. -/
lemma startCurrentUtterance_passes (hconfig : config.Checked) (hs : s.Tallied n)
    (pc : StartUtterancePc) : Passes n (startCurrentUtterance config s pc signal) := by
  cases pc with
  | entry =>
    have hrecord : (s.record .vadStarted).Tallied n := hs.congr rfl
    simp only [startCurrentUtterance]
    split
    · exact passes_ret hrecord
    · exact passes_call (hrecord.congr rfl) trivial
  | starting =>
    cases signal with
    | value v => exact enqueueLast_feeds (hs.flushPreRoll hconfig)
    | failed e => exact passes_throw hs
  | enqueueing chunk => exact passes_passOn hs

/-- A finalize passes on what the aggregate buffer holds; later it leaves the queue alone. -/
lemma finalizeCurrentUtterance_passes (hs : s.Tallied n) (pc : FinalizePc) :
    Passes n (finalizeCurrentUtterance config s pc signal) := by
  cases pc with
  | entry =>
    have hflush := hs.flushAggregateBuffer
    simp only [finalizeCurrentUtterance]
    split
    · split
      case h_1 s' heq =>
        rw [heq] at hflush
        exact passes_await hflush.1
      case h_2 s' chunk heq =>
        rw [heq] at hflush
        exact passes_call hflush.1 (hflush.2 chunk rfl)
    · exact passes_ret hs
  | enqueueing generation chunk =>
    cases signal with
    | value v => exact passes_await hs
    | failed e => exact passes_throw hs
  | joining generation drained =>
    cases signal with
    | value v =>
      simp only [finalizeCurrentUtterance]
      split
      · refine passes_call (hs.congr ?_) trivial
        unfold Service.setdefaultFinal
        split <;> rfl
      · exact passes_ret hs
    | failed e => exact passes_throw hs
  | sending generation event =>
    cases signal with
    | value v =>
      simp only [finalizeCurrentUtterance]
      split
      · exact passes_ret (hs.congr rfl)
      · exact passes_await (hs.congr rfl)
    | failed e => exact passes_throw hs
  | waiting generation event =>
    have hpop : Passes n (passOn (s.popFinal generation) signal) := passes_passOn (hs.congr rfl)
    rcases signal with v | (_ | e)
    · exact hpop
    · exact hpop
    · cases e with
      | timeoutError => exact passes_call hs trivial
      | _ => exact hpop
  | disconnecting generation event => exact passes_passOn (hs.congr rfl)

/-- A cancel clears the queue. -/
lemma cancelCurrentUtterance_passes (hs : s.Tallied n) (pc : CancelPc) :
    Passes n (cancelCurrentUtterance s pc signal) := by
  cases pc with
  | entry =>
    simp only [cancelCurrentUtterance]
    split
    · exact passes_ret hs.cancelUtterance
    · exact passes_call hs.cancelUtterance trivial
  | sending connection =>
    cases signal with
    | value v =>
      simp only [cancelCurrentUtterance]
      split
      · exact passes_call hs trivial
      · exact passes_ret hs
    | failed e => exact passes_throw hs
  | disconnecting => exact passes_passOn hs

/-- **The frame moves outside the send loop keep the service tallied.** -/
theorem frameMove_tallied (hconfig : config.Checked) {frame : Frame} (hs : s.Tallied n)
    (hloop : frame.call ≠ .sendLoop) (hframe : frame.call.Lasting) :
    Passes n (frameMove config me next s frame signal) := by
  have hstays := (frameMove_stays config me next s signal frame).command
  have hcalls : frame.call.rank ≠ 6 →
      ∀ f k, (frameMove config me next s frame signal).command = .call f k → k.Lasting := by
    intro hrank f k hcommand
    rw [hcommand] at hstays
    exact lasting_of_pending hstays.2 (by rw [hstays.1]; exact hrank)
  cases frame with
  | sendLoop pc => exact absurd rfl hloop
  | enqueueChunk chunk pc =>
    exact ⟨enqueueChunk_tallied hs hframe, hcalls (by simp [Frame.call, Call.rank])⟩
  | sendWs payload replay startAfter pc =>
    exact ⟨hs.congr (sendWs_tally payload replay startAfter pc),
      hcalls (by cases startAfter <;> simp [Frame.call, Call.rank])⟩
  | disconnect pc =>
    refine ⟨?_, hcalls (by simp [Frame.call, Call.rank])⟩
    cases pc with
    | entry => exact hs
    | closing =>
      cases signal with
      | value v => exact hs.disconnect
      | failed e => exact hs
  | handleAudio audio pc => exact handleAudio_passes hconfig hs audio pc
  | startCurrentUtterance pc => exact startCurrentUtterance_passes hconfig hs pc
  | finalizeCurrentUtterance pc => exact finalizeCurrentUtterance_passes hs pc
  | cancelCurrentUtterance pc => exact cancelCurrentUtterance_passes hs pc
  | handleServerPayload payload pc =>
    refine ⟨hs.congr (Service.tally_congr (audio_frameMove config me next s rfl signal)), ?_⟩
    intro f k hcommand
    rw [hcommand] at hstays
    have hpending := hstays.2
    have hf := hstays.1
    cases f <;> cases hf
    rename_i pc'
    cases pc' <;> cases hpending
    exact trivial
  | reconnect startUtterance pc =>
    exact ⟨hs.congr (Service.tally_congr (audio_frameMove config me next s rfl signal)),
      hcalls (by cases startUtterance <;> simp [Frame.call, Call.rank])⟩
  | _ =>
    exact ⟨hs.congr (Service.tally_congr (audio_frameMove config me next s rfl signal)),
      hcalls (by simp [Frame.call, Call.rank])⟩

/-! ## Runs -/

/-- The send queue is tallied with the chunks in flight, and chunks that are brought to it have a
duration. -/
structure TalliedWorld (config : LocalSTTConfig) (w : ServiceWorld) : Prop where
  shape : ServiceShaped config w
  tally : w.shared.Tallied (inFlight w).card
  lasting : Coroutines.Outline (fun _ frame _ => frame.call.Lasting) w

variable {w w' : ServiceWorld} {t : TaskId} {f : Frame} {fs : List Frame}

/-- A task is in flight when a frame of it holds a chunk. -/
lemma mem_inFlight (hw : ServiceShaped config w) {u : TaskId} :
    u ∈ inFlight w ↔ (w.stack u).any Frame.holdsChunk = true := by
  refine ⟨fun h => (Finset.mem_filter.mp h).2, fun h => Finset.mem_filter.mpr ⟨?_, h⟩⟩
  by_contra hlt
  rw [Finset.mem_range, not_lt] at hlt
  rw [hw.shaped.fresh u hlt] at h
  cases h

/-- The chunk of one task, and those of the others. -/
lemma card_inFlight (hw : ServiceShaped config w) (t : TaskId) :
    (inFlight w).card =
      ((inFlight w).erase t).card + ((w.stack t).any Frame.holdsChunk).toNat := by
  cases h : (w.stack t).any Frame.holdsChunk with
  | true =>
    have hmem := (mem_inFlight hw).mpr h
    have hpos : 0 < (inFlight w).card := Finset.card_pos.mpr ⟨t, hmem⟩
    rw [Finset.card_erase_of_mem hmem, Bool.toNat_true]
    omega
  | false =>
    have hmem : t ∉ inFlight w := fun hmem => by
      rw [(mem_inFlight hw).mp hmem] at h
      cases h
    rw [Finset.erase_eq_of_notMem hmem]
    rfl

/-- The chunks of the other tasks stay in flight. -/
lemma erase_inFlight (hw : ServiceShaped config w) (hw' : ServiceShaped config w')
    (hstack : ∀ u, u ≠ t →
      (w'.stack u).any Frame.holdsChunk = (w.stack u).any Frame.holdsChunk) :
    (inFlight w').erase t = (inFlight w).erase t := by
  ext u
  simp only [Finset.mem_erase, mem_inFlight hw, mem_inFlight hw']
  exact and_congr_right fun hu => by rw [hstack u hu]

/-- A method that is entered holds no chunk. -/
lemma holdsChunk_enter (k : Call) : k.enter.holdsChunk = false := by
  cases k <;> rfl

/-- Only the send loop holds a chunk. -/
lemma holdsChunk_of_call {f : Frame} (h : f.call ≠ .sendLoop) : f.holdsChunk = false := by
  cases f <;> first | rfl | exact absurd rfl h

lemma rank_le_seven (k : Call) : k.rank ≤ 7 := by
  unfold Call.rank
  split <;> omega

/-- Under a send loop there is nothing. -/
lemma nil_of_sendLoop (hw : ServiceShaped config w) (hf : w.stack t = f :: fs)
    (hcall : f.call = .sendLoop) : fs = [] := by
  have hnested : (service config).NestedStack (f :: fs) := hf ▸ hw.shaped.nested t
  cases fs with
  | nil => rfl
  | cons g gs =>
    have hlt : f.call.rank < g.call.rank :=
      hnested.rank_lt (service_lawful config) g (List.mem_cons_self ..)
    rw [hcall] at hlt
    have hle : g.call.rank ≤ 7 := rank_le_seven g.call
    have hseven : Call.rank .sendLoop = 7 := rfl
    omega

/-- Frames of other methods hold no chunk. -/
lemma frames_holdsChunk (hcall : f.call ≠ .sendLoop) :
    ((service config).frames
      (frameMove config me next s f signal).command).any Frame.holdsChunk = false := by
  have hstays := (frameMove_stays config me next s signal f).command
  cases hcommand : (frameMove config me next s f signal).command with
  | await g =>
    rw [hcommand] at hstays
    simpa [Coroutines.frames] using holdsChunk_of_call (by rw [hstays.1]; exact hcall)
  | call g k =>
    rw [hcommand] at hstays
    have hg : g.holdsChunk = false := holdsChunk_of_call (by rw [hstays.1]; exact hcall)
    have henter : ((service config).enter k).holdsChunk = false := holdsChunk_enter k
    simp [Coroutines.frames, hg, henter]
  | ret => rfl
  | throw e => rfl

/-- A frame move keeps the send queue tallied. -/
lemma TalliedWorld.tick (hconfig : config.Checked) (hw : TalliedWorld config w)
    (hf : w.stack t = f :: fs)
    (hshape : ServiceShaped config ((service config).apply w t fs
      (frameMove config t w.spawned w.shared f signal))) :
    TalliedWorld config ((service config).apply w t fs
      (frameMove config t w.spawned w.shared f signal)) := by
  have hmem : f ∈ w.stack t := hf ▸ List.mem_cons_self ..
  have hframe : f.call.Lasting := hw.lasting t f hmem
  have htally := hw.tally
  rw [card_inFlight hw.shape t] at htally
  -- a task other than the running one keeps its chunk, and a new one has none
  have herase := erase_inFlight hw.shape hshape (t := t) fun u hu => by
    rw [Coroutines.apply_stack, Function.update_of_ne hu, Coroutines.spawnAll]
    split_ifs with hle
    · rw [hw.shape.shaped.fresh u hle]
      cases hk : (frameMove config t w.spawned w.shared f signal).spawn[u - w.spawned]? with
      | none => rfl
      | some k =>
        have henter : ((service config).enter k).holdsChunk = false := holdsChunk_enter k
        simp [henter]
    · rfl
  have hstack : ((service config).apply w t fs
      (frameMove config t w.spawned w.shared f signal)).stack t =
        (service config).frames (frameMove config t w.spawned w.shared f signal).command ++ fs := by
    rw [Coroutines.apply_stack, Function.update_self]
  refine ⟨hshape, ?_, hw.lasting.tick hf ⟨?_, ?_, fun _ _ _ _ h => h⟩⟩
  · rw [Coroutines.apply_shared, card_inFlight hshape t, herase, hstack]
    by_cases hloop : f.call = .sendLoop
    · obtain rfl := nil_of_sendLoop hw.shape hf hloop
      cases f <;> cases hloop
      rw [hf] at htally
      simp only [List.any_cons, List.any_nil, Bool.or_false] at htally
      rw [List.append_nil]
      exact sendLoop_holds htally
    · rw [hf, List.any_cons, holdsChunk_of_call hloop, Bool.false_or] at htally
      rw [List.any_append, frames_holdsChunk hloop, Bool.false_or]
      exact (frameMove_tallied hconfig htally hloop hframe).1
  · refine EachFrame.frames (eachFrame_of_calls hframe fun g k hcommand => ?_)
    by_cases hloop : f.call = .sendLoop
    · have hstays := (frameMove_stays config t w.spawned w.shared signal f).command
      rw [hcommand] at hstays
      exact lasting_of_pending hstays.2 (by rw [hstays.1, hloop]; decide)
    · exact (frameMove_tallied hconfig htally hloop hframe).2 g k hcommand
  · intro i k hk
    rcases frameMove_spawn config t w.spawned w.shared signal (List.mem_of_getElem? hk)
      with rfl | rfl <;> exact trivial

/-- A step keeps the send queue tallied. -/
theorem tallied_step (hconfig : config.Checked) {a : ServiceAction} (hw : TalliedWorld config w)
    (h : (service config).step w a = some w') : TalliedWorld config w' := by
  have hshape := serviceShaped_step hw.shape h
  cases (service config).step_cases h with
  | @call k hrun hk =>
    refine ⟨hshape, ?_, hw.lasting.call ?_⟩
    · have herase := erase_inFlight hw.shape hshape (t := w.spawned) fun u hu => by
        simp only [Function.update_of_ne hu]
      have hcard := card_inFlight hw.shape w.spawned
      have hcard' := card_inFlight hshape w.spawned
      rw [hw.shape.shaped.fresh _ le_rfl] at hcard
      rw [herase] at hcard'
      simp only [Function.update_self, List.any_cons, List.any_nil, Bool.or_false,
        Bool.toNat_false] at hcard hcard'
      have henter : ((service config).enter k).holdsChunk = false := holdsChunk_enter k
      rw [henter, Bool.toNat_false, ← hcard] at hcard'
      rw [hcard']
      exact hw.tally
    · cases k <;> first | exact trivial | cases hk
  | resume hrun hf hsignal => exact ⟨hshape, hw.tally, hw.lasting⟩
  | outside hrun => exact ⟨hshape, hw.tally.congr rfl, hw.lasting.outside fun _ _ _ h => h⟩
  | tick hrun hf => exact hw.tick hconfig hf hshape

/-- Nothing is queued when the service begins. -/
lemma talliedWorld_initial (config : LocalSTTConfig) :
    TalliedWorld config ServiceWorld.initial where
  shape := serviceShaped_initial config
  tally := ⟨rfl, rfl, fun _ h => (nomatch h), le_refl 0⟩
  lasting := Coroutines.outline_initial _ _

end RtcAsr.Plugin
