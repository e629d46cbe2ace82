import RtcAsr.Plugin.AudioState

/-!
# Audio stays in its utterance

A byte that was accepted in one generation is meant to be sent in a chunk of this generation, and
not after the start of a later one.  Two things go wrong: a VAD start can find audio in the
aggregate buffer, which then becomes a chunk of the new generation (`audio_crosses_utterances`), and
a chunk can be sent again after a reconnect although its generation is over.  Runs without the two
keep the audio of the utterances apart (`separated_of_run`).
-/

namespace RtcAsr.Plugin

/-- All bytes of the chunk were accepted in its generation. -/
def AudioChunk.Unmixed (chunk : AudioChunk) : Prop := ∀ b ∈ chunk.data, b.2 = chunk.generation

/-- A chunk is not sent after the start of a later generation. -/
def InUtterance (later earlier : Happening) : Prop :=
  ∀ c chunk c' g, later = .sent c (.audio chunk) → earlier = .sent c' (.start g) →
    g ≤ chunk.generation

/-- **No audio crosses utterances**: what is sent was accepted in the generation of its chunk, and
no start of a later generation was sent before. -/
structure Separated (s : Service) : Prop where
  unmixed : ∀ connection chunk, .sent connection (.audio chunk) ∈ s.history → chunk.Unmixed
  ordered : s.history.Pairwise InUtterance

/-! ## The cargo -/

/-- The happenings that `Separated` is about. -/
def Happening.isCargo : Happening → Bool
  | .sent _ (.start _) => true
  | .sent _ (.audio _) => true
  | _ => false

/-- The audio on its way, with the generation. -/
structure Cargo where
  generation : ℕ
  buffer : List (UInt8 × ℕ)
  queue : List AudioChunk
  /-- The newest first. -/
  trace : List Happening

/-- The cargo of a service. -/
def Service.cargo (s : Service) : Cargo :=
  ⟨s.generation, s.aggregateBuffer, s.sendQueue, s.history.filter Happening.isCargo⟩

/-- The cargo is part of the audio state. -/
lemma cargo_congr {s s' : Service} (h : s'.audio = s.audio) : s'.cargo = s.cargo := by
  have hcargo : ∀ s : Service, s.cargo = s.audio.cargo := by
    intro s
    unfold Service.cargo Service.audio
    rw [List.filter_filter]
    refine congrArg _ (List.filter_congr fun h _ => ?_)
    cases h with
    | sent connection payload => cases payload <;> rfl
    | _ => rfl
  rw [hcargo, h, ← hcargo]

/-- What is on its way is unmixed, and what was sent is in order. -/
structure Cargo.Apart (l : Cargo) : Prop where
  buffer : ∀ b ∈ l.buffer, b.2 = l.generation
  queue : ∀ chunk ∈ l.queue, chunk.Unmixed
  starts : ∀ connection g, .sent connection (.start g) ∈ l.trace → g ≤ l.generation
  unmixed : ∀ connection chunk, .sent connection (.audio chunk) ∈ l.trace → chunk.Unmixed
  ordered : l.trace.Pairwise InUtterance

/-- What the cargo shows is so for the whole history. -/
lemma Cargo.Apart.separated {s : Service} (h : s.cargo.Apart) : Separated s where
  unmixed connection chunk hmem := h.unmixed connection chunk (List.mem_filter.mpr ⟨hmem, rfl⟩)
  ordered := by
    refine (List.pairwise_filter.mp h.ordered).imp ?_
    rintro later earlier hrel c chunk c' g rfl rfl
    exact hrel rfl rfl c chunk c' g rfl rfl

/-- What a frame must know of the payload it carries. -/
def Payload.Fits (generation : ℕ) : Payload → Prop
  | .start g => g ≤ generation
  | .audio chunk => chunk.Unmixed
  | _ => True

/-- What a call must know of the payload it carries. -/
def Call.Fits (generation : ℕ) : Call → Prop
  | .sendWs payload _ _ => payload.Fits generation
  | .sendControl payload => payload.isCommand = true
  | .enqueueChunk chunk => chunk.Unmixed
  | _ => True

lemma Call.Fits.mono {g g' : ℕ} (hg : g ≤ g') {k : Call} (hk : k.Fits g) : k.Fits g' := by
  cases k with
  | sendWs payload replay startAfter =>
    cases payload
    case start n => exact le_trans (show n ≤ g from hk) hg
    all_goals exact hk
  | _ => exact hk

/-! ## Operations -/

namespace Cargo

variable {l : Cargo}

/-- Chunks are taken out. -/
lemma Apart.queue_subset (hl : l.Apart) {queue : List AudioChunk} (h : queue ⊆ l.queue) :
    Apart { l with queue := queue } :=
  { hl with queue := fun chunk hmem => hl.queue chunk (h hmem) }

/-- A chunk is put in. -/
lemma Apart.put (hl : l.Apart) (chunk : AudioChunk) (hchunk : chunk.Unmixed) :
    Apart { l with queue := l.queue ++ [chunk] } := by
  refine { hl with queue := fun chunk' hmem => ?_ }
  rcases List.mem_append.mp hmem with hmem | hmem
  · exact hl.queue chunk' hmem
  · obtain rfl := List.mem_singleton.mp hmem
    exact hchunk

/-- The buffer takes bytes of the generation in. -/
lemma Apart.accept (hl : l.Apart) (audio : Bytes) :
    Apart { l with buffer := l.buffer ++ audio.map fun b => (b, l.generation) } := by
  refine { hl with buffer := fun b hmem => ?_ }
  rcases List.mem_append.mp hmem with hmem | hmem
  · exact hl.buffer b hmem
  · obtain ⟨a, -, rfl⟩ := List.mem_map.mp hmem
    rfl

/-- The buffer is emptied. -/
lemma Apart.flush (hl : l.Apart) : Apart { l with buffer := [] } :=
  { hl with buffer := fun _ hmem => nomatch hmem }

/-- A new generation begins with an empty buffer. -/
lemma Apart.next (hl : l.Apart) (hempty : l.buffer = []) :
    Apart { l with generation := l.generation + 1 } where
  buffer b hmem := by
    rw [show ({ l with generation := l.generation + 1 } : Cargo).buffer = [] from hempty] at hmem
    cases hmem
  queue := hl.queue
  starts connection g hmem := (hl.starts connection g hmem).trans (Nat.le_succ _)
  unmixed := hl.unmixed
  ordered := hl.ordered

/-- A start of a generation that was begun is sent. -/
lemma Apart.start (hl : l.Apart) {connection g : ℕ} (hg : g ≤ l.generation) :
    Apart { l with trace := .sent connection (.start g) :: l.trace } where
  buffer := hl.buffer
  queue := hl.queue
  starts connection' g' hmem := by
    rcases List.mem_cons.mp hmem with heq | hmem
    · cases heq
      exact hg
    · exact hl.starts connection' g' hmem
  unmixed connection' chunk hmem := hl.unmixed connection' chunk (by simpa using hmem)
  ordered := by
    refine List.pairwise_cons.mpr ⟨?_, hl.ordered⟩
    rintro earlier - c chunk c' g' hlater
    cases hlater

/-- A chunk of the current generation is sent. -/
lemma Apart.send (hl : l.Apart) {connection : ℕ} {chunk : AudioChunk} (hchunk : chunk.Unmixed)
    (hcurrent : chunk.generation = l.generation) :
    Apart { l with trace := .sent connection (.audio chunk) :: l.trace } where
  buffer := hl.buffer
  queue := hl.queue
  starts connection' g hmem := hl.starts connection' g (by simpa using hmem)
  unmixed connection' chunk' hmem := by
    rcases List.mem_cons.mp hmem with heq | hmem
    · cases heq
      exact hchunk
    · exact hl.unmixed connection' chunk' hmem
  ordered := by
    refine List.pairwise_cons.mpr ⟨?_, hl.ordered⟩
    rintro earlier hmem c chunk' c' g hlater rfl
    cases hlater
    exact hcurrent ▸ hl.starts c' g hmem

end Cargo

variable (config : LocalSTTConfig) {s : Service}

lemma apart_congr {s' : Service} (h : s'.audio = s.audio) (hs : s.cargo.Apart) :
    s'.cargo.Apart := by
  rw [cargo_congr h]
  exact hs

lemma apart_dropWhile (p : Service → Bool) (n : ℕ) (hs : s.cargo.Apart) :
    (Service.dropWhile p n s).cargo.Apart := by
  refine Service.dropWhile_keeps (P := fun s => s.cargo.Apart)
    (fun s chunk rest hqueue h => ?_) p n hs
  have hsubset : rest ⊆ s.cargo.queue := fun chunk' hmem => by
    change chunk' ∈ s.sendQueue
    rw [hqueue]
    exact List.mem_cons_of_mem _ hmem
  exact h.queue_subset hsubset

lemma generation_dropWhile (p : Service → Bool) (n : ℕ) (s : Service) :
    (Service.dropWhile p n s).generation = s.generation :=
  Service.dropWhile_view (fun _ _ _ => rfl) p n s

lemma apart_enqueueDroppingOldest {chunk : AudioChunk} (hchunk : chunk.Unmixed)
    (hs : s.cargo.Apart) : (s.enqueueDroppingOldest config chunk).cargo.Apart := by
  have hroom : (s.makeRoom config chunk).cargo.Apart := apart_dropWhile _ _ hs
  unfold Service.enqueueDroppingOldest
  split
  · exact hroom
  · exact hroom.put { chunk with number := (s.makeRoom config chunk).enqueued } hchunk

lemma apart_flushAggregateBuffer (hs : s.cargo.Apart) :
    s.flushAggregateBuffer.1.cargo.Apart ∧
      ∀ chunk, s.flushAggregateBuffer.2 = some chunk → chunk.Unmixed := by
  unfold Service.flushAggregateBuffer
  split
  · exact ⟨hs, by simp⟩
  · refine ⟨hs.flush, fun chunk h => ?_⟩
    obtain rfl := Option.some.inj h
    exact hs.buffer

lemma apart_queueAudioForSend (audio : Bytes) (hs : s.cargo.Apart) :
    (s.queueAudioForSend config audio).1.cargo.Apart ∧
      ∀ chunk, (s.queueAudioForSend config audio).2 = some chunk → chunk.Unmixed := by
  have haccept : (s.extendAggregateBuffer config audio).cargo.Apart := hs.accept audio
  unfold Service.queueAudioForSend
  split
  · exact apart_flushAggregateBuffer haccept
  · exact ⟨haccept, by simp⟩

lemma apart_flushPreRoll (hs : s.cargo.Apart) :
    (s.flushPreRoll config).1.cargo.Apart ∧
      ∀ chunk, (s.flushPreRoll config).2 = some chunk → chunk.Unmixed := by
  unfold Service.flushPreRoll
  split
  · exact ⟨hs, by simp⟩
  · exact apart_queueAudioForSend (s := s.clearPreRoll) config _ hs

lemma apart_cancelUtterance (hs : s.cargo.Apart) : s.cancelUtterance.cargo.Apart := by
  refine apart_congr (Service.audio_releaseFinalWaiters _ _) (apart_dropWhile _ _ ?_)
  exact (hs.flush).next rfl

lemma apart_disconnect (hs : s.cargo.Apart) : s.disconnect.cargo.Apart := by
  have hclear : (s.clearSendQueue.releaseFinalWaiters .disconnect).cargo.Apart :=
    apart_congr (Service.audio_releaseFinalWaiters _ _) (apart_dropWhile _ _ hs)
  exact hclear.flush

lemma apart_hand (connection : ℕ) {payload : Payload} (hs : s.cargo.Apart)
    (hfits : payload.Fits s.generation)
    (hcurrent : ∀ chunk, payload = .audio chunk → chunk.generation = s.generation) :
    (s.hand connection payload).cargo.Apart := by
  unfold Service.hand
  split
  · exact hs
  · cases payload
    case start g => exact hs.start hfits
    case audio chunk => exact hs.send hfits (hcurrent chunk rfl)
    all_goals exact hs

/-! ## Frame moves -/

/-- A frame move keeps the audio apart, and the new frames know what they carry. -/
structure StaysApart (s : Service) (m : ServiceMove) : Prop where
  apart : m.shared.cargo.Apart
  generation : s.generation ≤ m.shared.generation
  fits : EachFrame (fun f => f.call.Fits m.shared.generation) m.command

/-- The methods that make the payload or the chunk they pass on. -/
def Call.packs : Call → Bool
  | .ensureUtteranceStarted => true
  | .sendLoop => true
  | .handleAudio _ => true
  | .startCurrentUtterance => true
  | .finalizeCurrentUtterance => true
  | _ => false

/-- What the other methods call knows its payload. -/
lemma pending_fits {frame : Frame} {k : Call} {g : ℕ} (h : frame.pending = some k)
    (hplain : frame.call.packs = false) (hframe : frame.call.Fits g) : k.Fits g := by
  unfold Frame.pending at h
  split at h <;> cases h <;> first | exact trivial | exact rfl | cases hplain
  case h_15 payload => cases payload <;> first | exact trivial | cases hframe

variable (me next : TaskId) (signal : ServiceSignal)

lemma sendLoop_apart (pc : SendLoopPc) (hs : s.cargo.Apart) :
    StaysApart s (sendLoop me s pc signal) := by
  have hhead : ∀ s' : Service, s'.cargo.Apart → s'.generation = s.generation →
      StaysApart s (sendLoopHead s') := by
    intro s' hs' hgeneration
    unfold sendLoopHead
    split <;> exact ⟨hs', hgeneration.ge, trivial⟩
  cases pc with
  | entry =>
    cases signal with
    | value v => exact hhead s hs rfl
    | failed e => exact ⟨hs, le_rfl, trivial⟩
  | getting =>
    cases signal with
    | value v =>
      simp only [sendLoop]
      split
      · exact ⟨hs, le_rfl, trivial⟩
      · rename_i chunk rest hqueue
        have htake : (s.takeChunk chunk rest).cargo.Apart := by
          refine hs.queue_subset fun chunk' hmem => ?_
          change chunk' ∈ s.sendQueue
          rw [hqueue]
          exact List.mem_cons_of_mem _ hmem
        split
        · refine ⟨htake, le_rfl, trivial, ?_⟩
          exact hs.queue chunk (by simp [Service.cargo, hqueue])
        · exact hhead _ htake rfl
    | failed e => exact ⟨hs, le_rfl, trivial⟩
  | sending chunk =>
    rcases signal with v | (_ | e)
    · simp only [sendLoop]
      split
      · exact hhead _ hs rfl
      · exact ⟨hs, le_rfl, trivial⟩
    · exact ⟨hs, le_rfl, trivial⟩
    · exact ⟨hs, le_rfl, trivial, trivial⟩
  | disconnecting chunk => cases signal <;> exact ⟨hs, le_rfl, trivial⟩

lemma enqueueChunk_apart {chunk : AudioChunk} (pc : EnqueuePc) (hs : s.cargo.Apart)
    (hchunk : chunk.Unmixed) : StaysApart s (enqueueChunk config s chunk pc signal) := by
  have hblock : StaysApart s (blockChunk config s chunk) := by
    unfold blockChunk
    split
    · exact ⟨hs, le_rfl, hchunk⟩
    · exact ⟨hs.put { chunk with number := s.enqueued } hchunk, le_rfl, trivial⟩
  have hdrop : StaysApart s (.ret (s.enqueueDroppingOldest config chunk)) := by
    refine ⟨apart_enqueueDroppingOldest config hchunk hs, le_of_eq ?_, trivial⟩
    simp only [Move.ret, Service.enqueueDroppingOldest]
    split <;> exact (generation_dropWhile _ _ s).symm
  cases pc with
  | entry =>
    simp only [enqueueChunk]
    split
    · exact hblock
    · split
      · exact ⟨hs, le_rfl, trivial⟩
      · exact hdrop
    · exact hdrop
  | sleeping =>
    cases signal with
    | value v => exact hblock
    | failed e => exact ⟨hs, le_rfl, trivial⟩

lemma enqueueLast_apart {flushed : Service × Option AudioChunk} {pc : AudioChunk → Frame}
    (hs : flushed.1.cargo.Apart) (hchunk : ∀ chunk, flushed.2 = some chunk → chunk.Unmixed)
    (hgeneration : s.generation = flushed.1.generation) (hpc : ∀ chunk g, (pc chunk).call.Fits g) :
    StaysApart s (enqueueLast flushed pc) := by
  obtain ⟨s', _ | chunk⟩ := flushed
  · exact ⟨hs, hgeneration.le, trivial⟩
  · exact ⟨hs, hgeneration.le, hpc chunk _, hchunk chunk rfl⟩

lemma generation_flushAggregateBuffer (s : Service) :
    s.flushAggregateBuffer.1.generation = s.generation := by
  unfold Service.flushAggregateBuffer
  split <;> rfl

lemma generation_queueAudioForSend (s : Service) (audio : Bytes) :
    (s.queueAudioForSend config audio).1.generation = s.generation := by
  unfold Service.queueAudioForSend
  split
  · exact generation_flushAggregateBuffer _
  · rfl

lemma handleAudio_apart (audio : Bytes) (pc : HandleAudioPc) (hs : s.cargo.Apart) :
    StaysApart s (handleAudio config s audio pc signal) := by
  cases pc with
  | entry =>
    simp only [handleAudio]
    split
    · exact ⟨hs, le_rfl, trivial⟩
    · exact ⟨hs, le_rfl, trivial, trivial⟩
  | connecting =>
    cases signal with
    | value v =>
      have hheard : (s.record (.heard audio s.utteranceActive)).cargo.Apart := hs
      simp only [handleAudio]
      split
      · obtain ⟨hapart, hchunk⟩ := apart_queueAudioForSend config audio hheard
        refine enqueueLast_apart hapart hchunk ?_ fun _ _ => trivial
        exact (generation_queueAudioForSend config
          (s.record (.heard audio s.utteranceActive)) audio).symm
      · refine ⟨?_, ?_, trivial⟩ <;> simp only [Move.ret, Service.appendPreRoll] <;> split
        · exact hheard
        · exact hheard
        · exact le_rfl
        · exact le_rfl
    | failed e => exact ⟨hs, le_rfl, trivial⟩
  | enqueueing chunk => cases signal <;> exact ⟨hs, le_rfl, trivial⟩

lemma startCurrentUtterance_apart (pc : StartUtterancePc) (hs : s.cargo.Apart)
    (hempty : pc = .entry → s.utteranceActive = false → s.aggregateBuffer = []) :
    StaysApart s (startCurrentUtterance config s pc signal) := by
  cases pc with
  | entry =>
    simp only [startCurrentUtterance]
    split
    · exact ⟨hs, le_rfl, trivial⟩
    · rename_i hactive
      have hinactive : s.utteranceActive = false := Bool.eq_false_iff.mpr hactive
      exact ⟨hs.next (hempty rfl hinactive), Nat.le_succ _, trivial, trivial⟩
  | starting =>
    cases signal with
    | value v =>
      obtain ⟨hapart, hchunk⟩ := apart_flushPreRoll config hs
      refine enqueueLast_apart hapart hchunk ?_ fun _ _ => trivial
      unfold Service.flushPreRoll
      split
      · rfl
      · exact (generation_queueAudioForSend config s.clearPreRoll _).symm
    | failed e => exact ⟨hs, le_rfl, trivial⟩
  | enqueueing chunk => cases signal <;> exact ⟨hs, le_rfl, trivial⟩

lemma finalizeCurrentUtterance_apart (pc : FinalizePc) (hs : s.cargo.Apart) :
    StaysApart s (finalizeCurrentUtterance config s pc signal) := by
  by_cases hquiet : (Frame.finalizeCurrentUtterance pc).carries = false
  · have haudio := finalizeCurrentUtterance_audio config s hquiet signal
    refine ⟨apart_congr haudio hs, (congrArg Service.generation haudio).ge, ?_⟩
    cases pc with
    | entry => cases hquiet
    | enqueueing g chunk => cases signal <;> exact trivial
    | joining g drained =>
      cases signal with
      | value v =>
        simp only [finalizeCurrentUtterance]
        split
        · exact ⟨trivial, rfl⟩
        · exact trivial
      | failed e => exact trivial
    | sending g event =>
      cases signal with
      | value v => simp only [finalizeCurrentUtterance]; split <;> exact trivial
      | failed e => exact trivial
    | waiting g event =>
      rcases signal with v | (_ | (_ | _ | _ | _ | _ | _)) <;>
        first | exact trivial | exact ⟨trivial, trivial⟩
    | disconnecting g event => cases signal <;> exact trivial
  · cases pc with
    | entry =>
      obtain ⟨hapart, hchunk⟩ := apart_flushAggregateBuffer hs
      have hgeneration := generation_flushAggregateBuffer s
      simp only [finalizeCurrentUtterance]
      split
      · rcases hflush : s.flushAggregateBuffer with ⟨s', _ | chunk⟩ <;>
          rw [hflush] at hapart hchunk hgeneration
        · exact ⟨hapart, hgeneration.ge, trivial⟩
        · exact ⟨hapart, hgeneration.ge, trivial, hchunk chunk rfl⟩
      · exact ⟨hs, le_rfl, trivial⟩
    | _ => exact absurd rfl hquiet

lemma ensureUtteranceStarted_fits (pc : EnsureUtterancePc) :
    EachFrame (fun f => f.call.Fits s.generation)
      (ensureUtteranceStarted me s pc signal).command := by
  cases pc <;> cases signal <;> simp only [ensureUtteranceStarted] <;> (try split) <;>
    first | exact trivial | exact ⟨trivial, trivial⟩ | exact ⟨trivial, le_refl s.generation⟩

/-- **Every frame move that sends a chunk in its generation, and begins a generation with an empty
buffer, keeps the audio apart.** -/
theorem frameMove_apart (frame : Frame) (hs : s.cargo.Apart)
    (hframe : frame.call.Fits s.generation)
    (hcurrent : ∀ chunk replay startAfter pc, frame = .sendWs (.audio chunk) replay startAfter pc →
      pc = .entry ∨ (pc = .reconnecting ∧ ∃ v, signal = .value v) →
        chunk.generation = s.generation)
    (hempty : frame = .startCurrentUtterance .entry → s.utteranceActive = false →
      s.aggregateBuffer = []) :
    StaysApart s (frameMove config me next s frame signal) := by
  by_cases hplain : frame.call.packs = true
  · cases frame with
    | ensureUtteranceStarted pc =>
      have haudio := audio_frameMove config me next s
        (show (Frame.ensureUtteranceStarted pc).carries = false from rfl) signal
      have hgeneration := congrArg Service.generation haudio
      refine ⟨apart_congr haudio hs, hgeneration.ge, ?_⟩
      exact hgeneration ▸ ensureUtteranceStarted_fits me signal pc
    | sendLoop pc => exact sendLoop_apart me signal pc hs
    | handleAudio audio pc => exact handleAudio_apart config signal audio pc hs
    | startCurrentUtterance pc =>
      exact startCurrentUtterance_apart config signal pc hs fun hpc => hempty (hpc ▸ rfl)
    | finalizeCurrentUtterance pc => exact finalizeCurrentUtterance_apart config signal pc hs
    | _ => cases hplain
  · have hplain := Bool.eq_false_iff.mpr hplain
    have hfits : ∀ {g}, frame.call.Fits g →
        EachFrame (fun f => f.call.Fits g) (frameMove config me next s frame signal).command := by
      intro g hg
      refine eachFrame_of_calls hg fun f k hcommand => ?_
      have hstays := (frameMove_stays config me next s signal frame).command
      rw [hcommand] at hstays
      exact pending_fits hstays.2 (by rw [hstays.1]; exact hplain) (by rw [hstays.1]; exact hg)
    have hdone : (frameMove config me next s frame signal).shared.cargo.Apart →
        s.generation ≤ (frameMove config me next s frame signal).shared.generation →
          StaysApart s (frameMove config me next s frame signal) := fun hapart hgeneration =>
      ⟨hapart, hgeneration, hfits (hframe.mono hgeneration)⟩
    by_cases hquiet : frame.carries = false
    · have haudio := audio_frameMove config me next s hquiet signal
      exact hdone (apart_congr haudio hs) (congrArg Service.generation haudio).ge
    have hgenerationHand : ∀ connection payload,
        (s.hand connection payload).generation = s.generation := by
      intro connection payload
      unfold Service.hand
      split <;> rfl
    cases frame with
    | sendWs payload replay startAfter pc =>
      cases pc with
      | entry =>
        refine hdone ?_ ?_ <;> simp only [frameMove, sendWs] <;> split
        · exact hs
        · exact apart_hand _ hs hframe fun chunk h => by
            subst h
            exact hcurrent chunk _ _ _ rfl (.inl rfl)
        · exact le_rfl
        · exact (hgenerationHand _ _).ge
      | reconnecting =>
        cases signal with
        | value v =>
          refine hdone ?_ ?_ <;> simp only [frameMove, sendWs] <;> split <;> (try split)
          · exact hs
          · exact apart_hand _ hs hframe fun chunk h => by
              subst h
              exact hcurrent chunk _ _ _ rfl (.inr ⟨rfl, v, rfl⟩)
          · exact hs
          · exact le_rfl
          · exact (hgenerationHand _ _).ge
          · exact le_rfl
        | failed e => exact hdone hs le_rfl
      | _ => exact absurd rfl hquiet
    | disconnect pc =>
      cases pc with
      | entry => exact absurd rfl hquiet
      | closing =>
        cases signal with
        | value v =>
          refine hdone (apart_disconnect hs) (le_of_eq ?_)
          have hclear := generation_dropWhile (fun _ => true) s.sendQueue.length s
          have hrelease := congrArg Service.generation
            (s.clearSendQueue.audio_releaseFinalWaiters .disconnect)
          exact (hrelease.trans hclear).symm
        | failed e => exact hdone hs le_rfl
    | enqueueChunk chunk pc => exact enqueueChunk_apart config signal pc hs hframe
    | cancelCurrentUtterance pc =>
      cases pc with
      | entry =>
        have hgeneration : s.generation ≤ s.cancelUtterance.generation := by
          have hclear := generation_dropWhile (fun _ => true)
            s.discardUtterance.clearBuffers.sendQueue.length s.discardUtterance.clearBuffers
          have hrelease := congrArg Service.generation
            (s.discardUtterance.clearBuffers.clearSendQueue.audio_releaseFinalWaiters .cancel)
          exact (Nat.le_succ _).trans (hrelease.trans hclear).ge
        refine hdone ?_ ?_ <;> simp only [frameMove, cancelCurrentUtterance] <;> split
        · exact apart_cancelUtterance hs
        · exact apart_cancelUtterance hs
        · exact hgeneration
        · exact hgeneration
      | _ => exact absurd rfl hquiet
    | _ => first | exact absurd rfl hquiet | cases hplain

/-! ## Runs -/

variable {config me next signal}

/-- A call sends a chunk of the current generation, if it sends a chunk. -/
def SendsCurrent (k : Call) (s : Service) : Prop :=
  ∀ chunk replay startAfter, k = .sendWs (.audio chunk) replay startAfter →
    chunk.generation = s.generation

/-- The send loop checks the generation of a chunk before it sends it. -/
lemma frameMove_sendsCurrent {frame f : Frame} {k : Call} {g : ℕ} (hframe : frame.call.Fits g)
    (hcommand : (frameMove config me next s frame signal).command = .call f k) :
    SendsCurrent k (frameMove config me next s frame signal).shared := by
  rintro chunk replay startAfter rfl
  have hcontrol : ∀ chunk, frame.call ≠ .sendControl (.audio chunk) := by
    intro chunk hcall
    rw [hcall] at hframe
    cases hframe
  obtain ⟨rest, -, hgeneration, hshared⟩ := (frameMove_takes hcontrol hcommand).taken
  rw [hshared]
  exact hgeneration

/-- The two ways to mix are not taken: a VAD start that begins a generation finds the aggregate
buffer empty, and a chunk is sent again after a reconnect only while its generation is current. -/
def KeepsUtterances (w : ServiceWorld) : ServiceAction → Prop
  | .tick => ∀ t signal frame fs, w.running = some (t, signal) → w.stack t = frame :: fs →
    (frame = .startCurrentUtterance .entry → w.shared.utteranceActive = false →
      w.shared.aggregateBuffer = []) ∧
    (∀ chunk replay startAfter v, frame = .sendWs (.audio chunk) replay startAfter .reconnecting →
      signal = .value v → chunk.generation = w.shared.generation)
  | _ => True

/-- The audio is apart, and every frame knows what it carries. -/
structure ApartWorld (config : LocalSTTConfig) (w : ServiceWorld) : Prop where
  shape : ServiceShaped config w
  cargo : w.shared.cargo.Apart
  frames : Coroutines.Outline (fun _ frame s => frame.call.Fits s.generation) w
  entry : (service config).EntersIn Call.isRoot SendsCurrent w

lemma apartWorld_initial : ApartWorld config .initial where
  shape := serviceShaped_initial config
  cargo := by
    constructor <;> simp [ServiceWorld.initial, World.initial, Service.cargo]
  frames := Coroutines.outline_initial _ _
  entry := Coroutines.EntersIn.of_none rfl

/-- A step that does not mix keeps the audio apart. -/
theorem apart_step {w w' : ServiceWorld} {a : ServiceAction} (hw : ApartWorld config w)
    (hC : KeepsUtterances w a) (h : (service config).step w a = some w') :
    ApartWorld config w' := by
  have hshape := serviceShaped_step hw.shape h
  cases (service config).step_cases h with
  | @call k hrun hk =>
    refine ⟨hshape, hw.cargo, hw.frames.call ?_, Coroutines.EntersIn.of_none hrun⟩
    cases k <;> first | exact trivial | cases hk
  | @resume t signal f fs hrun hf hsignal =>
    exact ⟨hshape, hw.cargo, hw.frames, Coroutines.EntersIn.resume hw.shape.prompt hrun⟩
  | outside hrun =>
    exact ⟨hshape, hw.cargo, hw.frames.outside fun _ _ _ h => h, Coroutines.EntersIn.of_none hrun⟩
  | @tick t signal f fs hrun hf =>
    obtain ⟨hempty, hresend⟩ := hC t signal f fs hrun hf
    have hframe : f.call.Fits w.shared.generation := hw.frames t f (hf ▸ List.mem_cons_self ..)
    have hcurrent : ∀ chunk replay startAfter pc,
        f = .sendWs (.audio chunk) replay startAfter pc →
          pc = .entry ∨ (pc = .reconnecting ∧ ∃ v, signal = .value v) →
            chunk.generation = w.shared.generation := by
      rintro chunk replay startAfter pc rfl (rfl | ⟨rfl, v, rfl⟩)
      · rcases hw.entry t signal _ fs hrun hf rfl with hroot | hcurrent
        · rcases hroot with h | h | h <;> cases h
        · exact hcurrent chunk replay startAfter rfl
      · exact hresend chunk replay startAfter v rfl rfl
    have hcarries : StaysApart w.shared (frameMove config t w.spawned w.shared f signal) :=
      frameMove_apart config t w.spawned signal f hw.cargo hframe hcurrent hempty
    refine ⟨hshape, by rw [Coroutines.apply_shared]; exact hcarries.apart,
      hw.frames.tick hf ⟨EachFrame.frames hcarries.fits, ?_, ?_⟩,
      Coroutines.EntersIn.tick (service_lawful config) (service_enters config) hw.shape.shaped hf
        fun f' k hcommand => frameMove_sendsCurrent hframe hcommand⟩
    · intro i k hk
      rcases frameMove_spawn config t w.spawned w.shared signal (List.mem_of_getElem? hk)
        with rfl | rfl <;> exact trivial
    · exact fun _ _ _ _ hold => hold.mono hcarries.generation

/-- **No audio crosses utterances** in a run in which every VAD start that begins a generation finds
the aggregate buffer empty, and every chunk that is sent again is still of the current
generation. -/
theorem separated_of_run {as : List ServiceAction} {w : ServiceWorld}
    (hrun : (serviceSystem config).run .initial as = some w)
    (hC : (serviceSystem config).Along KeepsUtterances .initial as) : Separated w.shared :=
  (StepSystem.invariant_along (I := ApartWorld config)
    (fun _ _ _ hw hC hstep => apart_step hw hC hstep)
    apartWorld_initial hC hrun).cargo.separated

/-- The generation of a chunk that is sent, with those of its bytes. -/
def Happening.tags : Happening → Option (ℕ × List ℕ)
  | .sent _ (.audio chunk) => some (chunk.generation, chunk.data.map Prod.snd)
  | _ => none

/-- A test for `KeepsUtterances`: the running frame neither begins a generation with audio in the
buffer nor sends again. -/
def keepsApart (w : ServiceWorld) : ServiceAction → Bool
  | .tick =>
    match w.running with
    | none => true
    | some (t, _) =>
      match w.stack t with
      | .startCurrentUtterance .entry :: _ => w.shared.aggregateBuffer.isEmpty
      | .sendWs _ _ _ .reconnecting :: _ => false
      | _ => true
  | _ => true

lemma keepsUtterances_of_keepsApart {w : ServiceWorld} {a : ServiceAction}
    (h : keepsApart w a = true) : KeepsUtterances w a := by
  cases a with
  | tick =>
    intro t signal frame fs hrun hf
    constructor
    · rintro rfl -
      simp only [keepsApart, hrun, hf] at h
      exact List.isEmpty_iff.mp h
    · rintro chunk replay startAfter v rfl -
      simp only [keepsApart, hrun, hf] at h
      cases h
  | _ => trivial

/-- `separated_of_run` in a run that sends audio. -/
theorem separated_of_run_firstAudioSent :
    ∃ w, (serviceSystem {}).run .initial firstAudioSent = some w ∧
      w.shared.history.filterMap Happening.tags = [(1, [1, 1])] ∧ Separated w.shared := by
  obtain ⟨w, hrun, htags⟩ := StepSystem.exists_run_of_map (M := serviceSystem {}) (s := .initial)
    (f := fun w => w.shared.history.filterMap Happening.tags) (l := firstAudioSent)
    (x := [(1, [1, 1])]) (by decide +kernel)
  exact ⟨w, hrun, htags, separated_of_run hrun
    (StepSystem.along_of_check (fun _ _ => keepsUtterances_of_keepsApart) (by decide +kernel))⟩

/-- The ready event of generation 2. -/
def readyOfSecond : Json :=
  .obj [("type", .str "ready"), ("metadata", .obj [("local_stt_generation", .int 2)])]

/-- The server ends the first utterance on its own; a second one begins and is finalized. -/
def unsolicitedFinal : List ServiceAction :=
  firstAudio ++ turn 2 (.value (some finalOfFirst)) 2 ++ turn 2 (.value none) 2 ++
    [.call (.processFrame .vadUserStartedSpeaking)] ++ turn 4 (.value none) 3 ++
    turn 4 (.value none) 4 ++ turn 4 (.value none) 2 ++ turn 2 (.value (some readyOfSecond)) 3 ++
    turn 4 (.value none) 3 ++ turn 4 (.value none) 1 ++
    [.call (.processFrame .userStoppedSpeaking)] ++ turn 5 (.value none) 1 ++
    turn 5 (.value none) 4 ++ turn 1 (.value none) 1 ++ turn 1 (.value none) 2

/-- **Audio crosses utterances**: a final transcript of the server ends the first utterance while
audio of it is in the aggregate buffer, and this audio is sent as a chunk of the second. -/
theorem audio_crosses_utterances :
    ¬ ∀ as w, (serviceSystem {}).run .initial as = some w → Separated w.shared := by
  intro hall
  obtain ⟨w, hrun, htags⟩ := StepSystem.exists_run_of_map (M := serviceSystem {}) (s := .initial)
    (f := fun w => w.shared.history.filterMap Happening.tags) (l := unsolicitedFinal)
    (x := [(2, [1, 1])]) (by decide +kernel)
  have hmem : (2, [1, 1]) ∈ w.shared.history.filterMap Happening.tags := by
    rw [htags]
    exact List.mem_singleton_self _
  obtain ⟨h, hsent, htag⟩ := List.mem_filterMap.mp hmem
  cases h with
  | sent connection payload =>
    cases payload with
    | audio chunk =>
      obtain ⟨hgeneration, hdata⟩ := Prod.mk.inj (Option.some.inj htag)
      obtain ⟨b, hb, hone⟩ : ∃ b ∈ chunk.data, b.2 = 1 := by
        have : 1 ∈ chunk.data.map Prod.snd := by simp [hdata]
        simpa using this
      have := (hall _ w hrun).unmixed connection chunk hsent b hb
      omega
    | _ => cases htag
  | _ => cases htag

end RtcAsr.Plugin
