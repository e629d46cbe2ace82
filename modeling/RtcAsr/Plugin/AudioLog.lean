import RtcAsr.Foundation.LossyLine
import RtcAsr.Plugin.QueueAccounts
import Mathlib.Data.List.DropRight

/-!
# The audio of an utterance

The history says what an utterance is meant to send: the end of what was heard before it, then what
was heard while it was active (`UtteranceAudio.expected`).  Under the policy `block` this is what
was sent, what is on its way in chunks of the generation, and what the aggregate buffer holds
(`Service.Lossless`).  Under the policy `drop_oldest` the chunks that were aggregated go a line on
which some are lost, and these are counted (`Service.Conserved`).  The operations of the service
keep both.
-/

namespace RtcAsr.Plugin

/-! ## What the history says -/

/-- The audio of the utterance that was started last. -/
structure UtteranceAudio where
  /-- The generation of its start message. -/
  generation : ℕ := 0
  /-- The bytes that were sent since. -/
  sent : Bytes := []
  /-- What was heard while no utterance was active, since the pre-roll was flushed last. -/
  inactive : Bytes := []
  /-- What had been heard so when the pre-roll was flushed into this utterance. -/
  preRoll : Bytes := []
  /-- What was heard while this utterance was active. -/
  active : Bytes := []

namespace UtteranceAudio

/-- A happening is taken into account. -/
def add (l : UtteranceAudio) : Happening → UtteranceAudio
  | .sent _ (.start generation) =>
    { l with generation := generation, sent := [], preRoll := [], active := [] }
  | .sent _ (.audio chunk) => { l with sent := l.sent ++ chunk.bytes }
  | .heard audio true => { l with active := l.active ++ audio }
  | .heard audio false => { l with inactive := l.inactive ++ audio }
  | .preRollFlushed => { l with preRoll := l.inactive, inactive := [] }
  | _ => l

/-- The audio that the utterance is meant to send: the last `pre_roll_bytes` bytes of the pre-roll,
and all that was heard while it was active. -/
def expected (config : LocalSTTConfig) (l : UtteranceAudio) : Bytes :=
  l.preRoll.rtake config.preRollBytes ++ l.active

end UtteranceAudio

/-- The audio of the utterance that was started last in a history, the newest first. -/
def utteranceAudio : List Happening → UtteranceAudio
  | [] => {}
  | h :: older => (utteranceAudio older).add h

/-- The chunk that is sent. -/
def Happening.sentChunk : Happening → Option AudioChunk
  | .sent _ (.audio chunk) => some chunk
  | _ => none

/-- The chunk that the aggregate buffer becomes. -/
def Happening.aggregatedChunk : Happening → Option AudioChunk
  | .aggregated chunk => some chunk
  | _ => none

/-- The chunks that `f` finds in a history, the oldest first. -/
def chunksIn (f : Happening → Option AudioChunk) (history : List Happening) : List AudioChunk :=
  (history.filterMap f).reverse.map AudioChunk.unnumbered

/-- The chunks that were aggregated. -/
abbrev aggregatedIn : List Happening → List AudioChunk := chunksIn Happening.aggregatedChunk

/-- The chunks that were sent. -/
abbrev sentIn : List Happening → List AudioChunk := chunksIn Happening.sentChunk

/-- The chunks that were dropped and counted. -/
abbrev droppedIn : List Happening → List AudioChunk := chunksIn Happening.droppedChunk

/-- `P` held whenever a finalize message was sent. -/
def AtFinalize (P : List Happening → Prop) (history : List Happening) : Prop :=
  ∀ newer connection older, history = newer ++ .sent connection .finalize :: older → P older

/-- The utterance sent what it was meant to send. -/
def SentInFull (config : LocalSTTConfig) (history : List Happening) : Prop :=
  (utteranceAudio history).sent = (utteranceAudio history).expected config

/-- All chunks were sent or dropped. -/
def SentOrDropped (history : List Happening) : Prop :=
  (aggregatedIn history).Perm (sentIn history ++ droppedIn history)

/-- **Audio is sent as it was heard.**  Under the policy `block` an utterance is finalized after all
its audio was sent, and only this; under `drop_oldest` chunks are sent in order, and those that were
not sent before a finalize message are the ones that were dropped and counted. -/
structure AudioFaithful (config : LocalSTTConfig) (s : Service) : Prop where
  block : config.dropPolicy = .block → AtFinalize (SentInFull config) s.history
  ordered : config.dropPolicy = .dropOldest → (sentIn s.history).Sublist (aggregatedIn s.history)
  dropped : config.dropPolicy = .dropOldest → AtFinalize SentOrDropped s.history
  counted : config.dropPolicy = .dropOldest → s.audioFramesDropped = (droppedIn s.history).length

/-! ## Histories -/

section histories

variable {history : List Happening} {h : Happening} {P : List Happening → Prop}

/-- The other happenings do not matter to the audio of an utterance. -/
lemma utteranceAudio_filter (history : List Happening) :
    utteranceAudio (history.filter Happening.isAudio) = utteranceAudio history := by
  induction history with
  | nil => rfl
  | cons h older ih =>
    rw [List.filter_cons]
    split
    · exact congrArg (UtteranceAudio.add · h) ih
    · rename_i hquiet
      have hadd : (utteranceAudio older).add h = utteranceAudio older := by
        cases h with
        | sent connection payload => cases payload <;> first | rfl | exact absurd rfl hquiet
        | heard audio active => exact absurd rfl hquiet
        | preRollFlushed => exact absurd rfl hquiet
        | _ => rfl
      exact ih.trans hadd.symm

/-- Nor do they to the chunks. -/
lemma chunksIn_filter {f : Happening → Option AudioChunk}
    (hf : ∀ h : Happening, h.isAudio = false → f h = none) (history : List Happening) :
    chunksIn f (history.filter Happening.isAudio) = chunksIn f history := by
  unfold chunksIn
  rw [List.filterMap_filter]
  refine congrArg (fun g => ((history.filterMap g).reverse.map AudioChunk.unnumbered))
    (funext fun h => ?_)
  cases hh : h.isAudio with
  | true => rfl
  | false => exact (hf h hh).symm

lemma aggregatedIn_filter (history : List Happening) :
    aggregatedIn (history.filter Happening.isAudio) = aggregatedIn history :=
  chunksIn_filter (fun h hh => by cases h <;> first | rfl | cases hh) history

lemma sentIn_filter (history : List Happening) :
    sentIn (history.filter Happening.isAudio) = sentIn history := by
  refine chunksIn_filter (fun h hh => ?_) history
  cases h with
  | sent connection payload => cases payload <;> first | rfl | cases hh
  | _ => rfl

lemma droppedIn_filter (history : List Happening) :
    droppedIn (history.filter Happening.isAudio) = droppedIn history :=
  chunksIn_filter (fun h hh => by cases h <;> first | rfl | cases hh) history

/-- The chunk of the newest happening comes last. -/
lemma chunksIn_cons (f : Happening → Option AudioChunk) (h : Happening) (older : List Happening) :
    chunksIn f (h :: older) = chunksIn f older ++ (f h).toList.map AudioChunk.unnumbered := by
  unfold chunksIn
  rw [List.filterMap_cons]
  cases f h with
  | none => simp
  | some chunk => simp

lemma AtFinalize.cons (hold : AtFinalize P history)
    (hnew : ∀ connection, h = .sent connection .finalize → P history) :
    AtFinalize P (h :: history) := by
  intro newer connection older hsplit
  cases newer with
  | nil =>
    obtain ⟨hhead, rfl⟩ := List.cons.inj hsplit
    exact hnew connection hhead
  | cons h' newer => exact hold newer connection older (List.cons.inj hsplit).2

/-- What held at the finalize messages of the audio history held at those of the history. -/
lemma AtFinalize.of_filter
    (hP : ∀ older : List Happening, P (older.filter Happening.isAudio) → P older)
    (hall : AtFinalize P (history.filter Happening.isAudio)) : AtFinalize P history := by
  intro newer connection older hsplit
  refine hP older (hall (newer.filter Happening.isAudio) connection _ ?_)
  rw [hsplit, List.filter_append]
  rfl

end histories

/-! ## Nothing is lost under the policy `block` -/

/-- The bytes of the chunks of a generation. -/
def bytesOf (generation : ℕ) (chunks : List AudioChunk) : Bytes :=
  (chunks.filter fun chunk => chunk.generation = generation).flatMap AudioChunk.bytes

namespace Service

variable (config : LocalSTTConfig) (s : Service)

/-- The audio of the utterance that was started last. -/
def utterance : UtteranceAudio := utteranceAudio s.history

/-- The history of the audio. -/
def audioTrace : List Happening := s.history.filter Happening.isAudio

/-- What the utterance is meant to send was sent, is on its way or lies in the aggregate buffer. -/
structure Lossless (onWay : List AudioChunk) : Prop where
  past : ∀ chunk ∈ onWay, chunk.generation ≤ s.generation
  started : s.utterance.generation ≤ s.generation
  preRoll : s.preRollBuffer = s.utterance.inactive.rtake config.preRollBytes
  bytes : s.utterance.generation = s.generation →
    s.utterance.sent ++ bytesOf s.generation onWay ++ s.aggregateBuffer.map Prod.fst =
      s.utterance.expected config
  /-- Before the start message of a generation nothing of it is on its way. -/
  unstarted : s.utterance.generation ≠ s.generation →
    (∀ chunk ∈ onWay, chunk.generation ≠ s.generation) ∧ s.aggregateBuffer = []
  finalized : AtFinalize (SentInFull config) s.audioTrace

/-- The start message of the current generation was sent, and nothing was heard in it yet. -/
structure Fresh : Prop where
  generation : s.utterance.generation = s.generation
  preRoll : s.utterance.preRoll = []
  active : s.utterance.active = []

variable {config s} {s' : Service} {onWay : List AudioChunk} {chunk : AudioChunk}

lemma utterance_congr (h : s'.audio = s.audio) : s'.utterance = s.utterance := by
  have hutterance : ∀ s : Service, s.utterance = s.audio.utterance := fun s =>
    (utteranceAudio_filter s.history).symm
  rw [hutterance, h, ← hutterance]

lemma audioTrace_congr (h : s'.audio = s.audio) : s'.audioTrace = s.audioTrace :=
  congrArg Service.history h

lemma Lossless.congr (hs : s.Lossless config onWay) (h : s'.audio = s.audio) :
    s'.Lossless config onWay := by
  have hgeneration : s'.generation = s.generation := (congrArg Service.generation h :)
  have hpreRoll : s'.preRollBuffer = s.preRollBuffer := (congrArg Service.preRollBuffer h :)
  have hbuffer : s'.aggregateBuffer = s.aggregateBuffer := (congrArg Service.aggregateBuffer h :)
  have hutterance := utterance_congr h
  refine ⟨?_, ?_, ?_, ?_, ?_, ?_⟩
  · rw [hgeneration]
    exact hs.past
  · rw [hutterance, hgeneration]
    exact hs.started
  · rw [hpreRoll, hutterance]
    exact hs.preRoll
  · rw [hutterance, hgeneration, hbuffer]
    exact hs.bytes
  · rw [hutterance, hgeneration, hbuffer]
    exact hs.unstarted
  · rw [audioTrace_congr h]
    exact hs.finalized

lemma bytesOf_append (g : ℕ) (chunks chunks' : List AudioChunk) :
    bytesOf g (chunks ++ chunks') = bytesOf g chunks ++ bytesOf g chunks' := by
  simp [bytesOf]

lemma bytesOf_cons_of_eq {g : ℕ} (h : chunk.generation = g) (chunks : List AudioChunk) :
    bytesOf g (chunk :: chunks) = chunk.bytes ++ bytesOf g chunks := by
  simp [bytesOf, h]

lemma bytesOf_cons_of_ne {g : ℕ} (h : chunk.generation ≠ g) (chunks : List AudioChunk) :
    bytesOf g (chunk :: chunks) = bytesOf g chunks := by
  simp [bytesOf, h]

lemma map_fst_tag (audio : Bytes) (g : ℕ) : (audio.map fun b => (b, g)).map Prod.fst = audio := by
  rw [List.map_map]
  exact List.map_id audio

/-- The end of a list that is extended depends on its end only. -/
lemma rtake_rtake_append (l m : Bytes) (n : ℕ) : (l.rtake n ++ m).rtake n = (l ++ m).rtake n := by
  unfold List.rtake
  rw [← List.drop_append_of_le_length (Nat.sub_le l.length n), List.drop_drop]
  congr 1
  simp only [List.length_drop, List.length_append]
  omega

/-- The pre-roll buffer holds the end of what was heard. -/
lemma appendPreRoll_eq {heard : Bytes} (h : s.preRollBuffer = heard.rtake config.preRollBytes)
    (audio : Bytes) : s.appendPreRoll config audio =
      { s with preRollBuffer := (heard ++ audio).rtake config.preRollBytes } := by
  unfold appendPreRoll
  split
  · rename_i hzero
    rw [hzero, List.rtake_zero] at h ⊢
    rw [← h]
  · have hbuffer := rtake_rtake_append heard audio config.preRollBytes
    rw [← h] at hbuffer
    rw [← hbuffer]
    rfl

/-- Audio is heard while no utterance is active. -/
lemma Lossless.hearInactive (hs : s.Lossless config onWay) (audio : Bytes) :
    ((s.record (.heard audio false)).appendPreRoll config audio).Lossless config onWay := by
  have hbuffer : (s.record (.heard audio false)).preRollBuffer =
      s.utterance.inactive.rtake config.preRollBytes := hs.preRoll
  rw [appendPreRoll_eq hbuffer]
  exact ⟨hs.past, hs.started, rfl, hs.bytes, hs.unstarted, hs.finalized.cons fun _ h => nomatch h⟩

/-- Audio is heard while an utterance is active. -/
lemma Lossless.hearActive (hs : s.Lossless config onWay)
    (hstarted : s.utterance.generation = s.generation) (audio : Bytes) :
    ((s.record (.heard audio true)).extendAggregateBuffer config audio).Lossless config onWay := by
  refine ⟨hs.past, hs.started, hs.preRoll, fun _ => ?_, fun h => absurd hstarted h,
    hs.finalized.cons fun _ h => nomatch h⟩
  change s.utterance.sent ++ bytesOf s.generation onWay ++
    (s.aggregateBuffer ++ audio.map fun b => (b, s.generation)).map Prod.fst =
      s.utterance.preRoll.rtake config.preRollBytes ++ (s.utterance.active ++ audio)
  have hbytes := hs.bytes hstarted
  unfold UtteranceAudio.expected at hbytes
  rw [← List.append_assoc (s.utterance.preRoll.rtake _), ← hbytes, List.map_append, map_fst_tag,
    List.append_assoc _ _ audio]

/-- The pre-roll is flushed into a fresh utterance. -/
lemma Lossless.flushPreRoll (hs : s.Lossless config onWay) (hfresh : s.Fresh)
    (hgeneration : s'.generation = s.generation) (hpreRoll : s'.preRollBuffer = [])
    (hbuffer : s'.aggregateBuffer.map Prod.fst = s.aggregateBuffer.map Prod.fst ++ s.preRollBuffer)
    (hhistory : s'.history = .preRollFlushed :: s.history) : s'.Lossless config onWay := by
  have hutterance : s'.utterance =
      { s.utterance with preRoll := s.utterance.inactive, inactive := [] } := by
    unfold utterance
    rw [hhistory]
    rfl
  have hempty : s.utterance.expected config = [] := by
    simp [UtteranceAudio.expected, hfresh.preRoll, hfresh.active]
  refine ⟨?_, ?_, ?_, fun _ => ?_, fun h => absurd ?_ h, ?_⟩
  · rw [hgeneration]
    exact hs.past
  · rw [hutterance, hgeneration]
    exact hs.started
  · rw [hpreRoll, hutterance, List.rtake_nil]
  · have hbytes := (hs.bytes hfresh.generation).trans hempty
    rw [hutterance, hgeneration, hbuffer, ← List.append_assoc, hbytes, List.nil_append, hs.preRoll]
    simp [UtteranceAudio.expected, hfresh.active]
  · rw [hutterance, hgeneration]
    exact hfresh.generation
  · unfold audioTrace
    rw [hhistory]
    exact hs.finalized.cons fun _ h => nomatch h

/-- The aggregate buffer becomes a chunk. -/
lemma Lossless.aggregate (hs : s.Lossless config onWay) (hbuffer : s.aggregateBuffer ≠ []) :
    Lossless config
      { s with
        aggregateBuffer := []
        aggregateDurationMs := 0
        history := .aggregated s.aggregateChunk :: s.history } (onWay ++ [s.aggregateChunk]) := by
  refine ⟨fun chunk hmem => ?_, hs.started, hs.preRoll, fun hstarted => ?_,
    fun h => absurd (hs.unstarted h).2 hbuffer, hs.finalized.cons fun _ h => nomatch h⟩
  · rcases List.mem_append.mp hmem with hmem | hmem
    · exact hs.past chunk hmem
    · rw [List.mem_singleton.mp hmem]
      exact le_refl s.generation
  · change s.utterance.sent ++ bytesOf s.generation (onWay ++ [s.aggregateChunk]) ++ [] =
      s.utterance.expected config
    have hchunk : bytesOf s.generation [s.aggregateChunk] = s.aggregateBuffer.map Prod.fst := by
      simp [bytesOf, aggregateChunk, AudioChunk.bytes]
    rw [← hs.bytes hstarted, bytesOf_append, hchunk, List.append_nil, List.append_assoc]

/-- A chunk of an earlier generation is taken away. -/
lemma Lossless.discard (hs : s.Lossless config (chunk :: onWay))
    (hstale : chunk.generation ≠ s.generation) : s.Lossless config onWay := by
  refine ⟨fun chunk' hmem => hs.past chunk' (List.mem_cons_of_mem _ hmem), hs.started, hs.preRoll,
    fun hstarted => ?_, fun h => ?_, hs.finalized⟩
  · rw [← hs.bytes hstarted, bytesOf_cons_of_ne hstale]
  · exact ⟨fun chunk' hmem => (hs.unstarted h).1 chunk' (List.mem_cons_of_mem _ hmem),
      (hs.unstarted h).2⟩

/-- A chunk of the current generation is sent. -/
lemma Lossless.send (hs : s.Lossless config (chunk :: onWay)) (connection : ℕ)
    (hchunk : chunk.generation = s.generation) :
    (s.record (.sent connection (.audio chunk))).Lossless config onWay := by
  have hmem : chunk ∈ chunk :: onWay := List.mem_cons_self ..
  refine ⟨fun chunk' hmem => hs.past chunk' (List.mem_cons_of_mem _ hmem), hs.started, hs.preRoll,
    fun hstarted => ?_, fun h => absurd hchunk ((hs.unstarted h).1 chunk hmem),
    hs.finalized.cons fun _ h => nomatch h⟩
  change s.utterance.sent ++ chunk.bytes ++ bytesOf s.generation onWay ++
    s.aggregateBuffer.map Prod.fst = s.utterance.expected config
  rw [← hs.bytes hstarted, bytesOf_cons_of_eq hchunk, List.append_assoc s.utterance.sent]

/-- The start message of a generation is sent. -/
lemma Lossless.start (hs : s.Lossless config onWay) (connection : ℕ)
    (hunstarted : s.utterance.generation ≠ s.generation) :
    (s.record (.sent connection (.start s.generation))).Lossless config onWay := by
  obtain ⟨hnone, hbuffer⟩ := hs.unstarted hunstarted
  have honWay : bytesOf s.generation onWay = [] := by
    unfold bytesOf
    rw [List.filter_eq_nil_iff.mpr fun chunk hmem => by simpa using hnone chunk hmem,
      List.flatMap_nil]
  refine ⟨hs.past, le_refl s.generation, hs.preRoll, fun _ => ?_, fun h => absurd rfl h,
    hs.finalized.cons fun _ h => nomatch h⟩
  change [] ++ bytesOf s.generation onWay ++ s.aggregateBuffer.map Prod.fst =
    ([] : Bytes).rtake config.preRollBytes ++ []
  rw [honWay, hbuffer, List.rtake_nil]
  rfl

/-- A finalize message is sent when nothing is on its way. -/
lemma Lossless.finalize (hs : s.Lossless config []) (connection : ℕ)
    (hstarted : s.utterance.generation = s.generation) (hbuffer : s.aggregateBuffer = []) :
    (s.record (.sent connection .finalize)).Lossless config [] := by
  refine ⟨hs.past, hs.started, hs.preRoll, hs.bytes, hs.unstarted, hs.finalized.cons fun _ _ => ?_⟩
  have hbytes := hs.bytes hstarted
  rw [hbuffer] at hbytes
  unfold SentInFull audioTrace
  rw [utteranceAudio_filter]
  change s.utterance.sent = s.utterance.expected config
  simpa [bytesOf] using hbytes

/-- The next generation begins. -/
lemma Lossless.next (hs : s.Lossless config onWay) (hbuffer : s.aggregateBuffer = []) :
    Lossless config { s with generation := s.generation + 1 } onWay := by
  have hlater : s.utterance.generation ≠ s.generation + 1 :=
    (Nat.lt_succ_of_le hs.started).ne
  refine ⟨fun chunk hmem => (hs.past chunk hmem).trans (Nat.le_succ _),
    hs.started.trans (Nat.le_succ _), hs.preRoll, fun h => absurd h hlater, fun _ => ?_,
    hs.finalized⟩
  exact ⟨fun chunk hmem => (Nat.lt_succ_of_le (hs.past chunk hmem)).ne, hbuffer⟩

/-- A chunk that is put gets its number. -/
lemma Lossless.put (hs : s.Lossless config (onWay ++ [chunk])) :
    (s.putChunk chunk).Lossless config (onWay ++ [{ chunk with number := s.enqueued }]) := by
  have hsame : bytesOf s.generation (onWay ++ [{ chunk with number := s.enqueued }]) =
      bytesOf s.generation (onWay ++ [chunk]) := by
    rw [bytesOf_append, bytesOf_append]
    refine congrArg (bytesOf s.generation onWay ++ ·) ?_
    by_cases hg : chunk.generation = s.generation <;> simp [bytesOf, hg, AudioChunk.bytes]
  have hmem : ∀ {P : ℕ → Prop}, (∀ chunk' ∈ onWay ++ [chunk], P chunk'.generation) →
      ∀ chunk' ∈ onWay ++ [{ chunk with number := s.enqueued }], P chunk'.generation := by
    intro P hall chunk' hmem
    rcases List.mem_append.mp hmem with hmem | hmem
    · exact hall chunk' (List.mem_append_left _ hmem)
    · rw [List.mem_singleton.mp hmem]
      exact hall chunk (List.mem_append_right _ (List.mem_singleton_self chunk))
  refine ⟨hmem (P := (· ≤ s.generation)) hs.past, hs.started, hs.preRoll, fun hstarted => ?_,
    fun h => ⟨hmem (P := (· ≠ s.generation)) (hs.unstarted h).1, (hs.unstarted h).2⟩, hs.finalized⟩
  have hbytes := hs.bytes hstarted
  rw [← hsame] at hbytes
  exact hbytes

/-! ## What is dropped under the policy `drop_oldest` is counted -/

/-- The aggregated chunks were sent, are on their way or were dropped and counted. -/
structure Conserved (s : Service) (onWay : List AudioChunk) : Prop where
  line : LossyLine (aggregatedIn s.history) (sentIn s.history)
    (onWay.map AudioChunk.unnumbered) (droppedIn s.history)
  counted : s.audioFramesDropped = (droppedIn s.history).length
  finalized : AtFinalize SentOrDropped s.audioTrace

lemma Conserved.congr (hs : s.Conserved onWay) (h : s'.audio = s.audio) : s'.Conserved onWay := by
  have htrace := audioTrace_congr h
  have hcount : s'.audioFramesDropped = s.audioFramesDropped :=
    (congrArg Service.audioFramesDropped h :)
  have haggregated : aggregatedIn s'.history = aggregatedIn s.history := by
    rw [← aggregatedIn_filter s'.history, ← aggregatedIn_filter s.history]
    exact congrArg aggregatedIn htrace
  have hsent : sentIn s'.history = sentIn s.history := by
    rw [← sentIn_filter s'.history, ← sentIn_filter s.history]
    exact congrArg sentIn htrace
  have hdropped : droppedIn s'.history = droppedIn s.history := by
    rw [← droppedIn_filter s'.history, ← droppedIn_filter s.history]
    exact congrArg droppedIn htrace
  refine ⟨?_, ?_, ?_⟩
  · rw [haggregated, hsent, hdropped]
    exact hs.line
  · rw [hcount, hdropped]
    exact hs.counted
  · rw [htrace]
    exact hs.finalized

/-- A happening that moves no chunk. -/
lemma Conserved.note (hs : s.Conserved onWay) {h : Happening} (haudio : h.isAudio = true)
    (hnone : h.aggregatedChunk = none ∧ h.sentChunk = none ∧ h.droppedChunk = none)
    (hfinalize : ∀ connection, h ≠ .sent connection .finalize)
    (hhistory : s'.history = h :: s.history)
    (hcount : s'.audioFramesDropped = s.audioFramesDropped) : s'.Conserved onWay := by
  have hkept : ∀ f : Happening → Option AudioChunk, f h = none →
      chunksIn f s'.history = chunksIn f s.history := by
    intro f hf
    rw [hhistory, chunksIn_cons, hf]
    exact List.append_nil _
  refine ⟨?_, ?_, ?_⟩
  · rw [aggregatedIn, sentIn, droppedIn, hkept _ hnone.1, hkept _ hnone.2.1, hkept _ hnone.2.2]
    exact hs.line
  · rw [hcount, droppedIn, hkept _ hnone.2.2]
    exact hs.counted
  · unfold audioTrace
    rw [hhistory, List.filter_cons_of_pos haudio]
    exact hs.finalized.cons fun connection h => absurd h (hfinalize connection)

lemma Conserved.aggregate (hs : s.Conserved onWay) :
    Conserved
      { s with
        aggregateBuffer := []
        aggregateDurationMs := 0
        history := .aggregated s.aggregateChunk :: s.history } (onWay ++ [s.aggregateChunk]) := by
  refine ⟨?_, ?_, hs.finalized.cons fun _ h => nomatch h⟩
  · have hline := hs.line.accept s.aggregateChunk.unnumbered
    simpa only [aggregatedIn, sentIn, droppedIn, chunksIn_cons, Happening.aggregatedChunk,
      Happening.sentChunk, Happening.droppedChunk, Option.toList_some, Option.toList_none,
      List.map_append, List.map_cons, List.map_nil, List.append_nil] using hline
  · simpa only [droppedIn, chunksIn_cons, Happening.droppedChunk, Option.toList_none,
      List.map_nil, List.append_nil] using hs.counted

lemma Conserved.send (hs : s.Conserved (chunk :: onWay)) (connection : ℕ) :
    (s.record (.sent connection (.audio chunk))).Conserved onWay := by
  refine ⟨?_, ?_, hs.finalized.cons fun _ h => nomatch h⟩
  · have hline := hs.line.deliver
    simpa only [record, aggregatedIn, sentIn, droppedIn, chunksIn_cons, Happening.aggregatedChunk,
      Happening.sentChunk, Happening.droppedChunk, Option.toList_some, Option.toList_none,
      List.map_cons, List.map_nil, List.append_nil] using hline
  · simpa only [record, droppedIn, chunksIn_cons, Happening.droppedChunk, Option.toList_none,
      List.map_nil, List.append_nil] using hs.counted

/-- A chunk is dropped and counted. -/
lemma Conserved.drop {before after : List AudioChunk}
    (hs : s.Conserved (before ++ chunk :: after)) :
    (s.countDropped chunk).Conserved (before ++ after) := by
  have hline := hs.line
  rw [List.map_append, List.map_cons] at hline
  refine ⟨?_, ?_, hs.finalized.cons fun _ h => nomatch h⟩
  · simpa only [countDropped, aggregatedIn, sentIn, droppedIn, chunksIn_cons,
      Happening.aggregatedChunk, Happening.sentChunk, Happening.droppedChunk, Option.toList_some,
      Option.toList_none, List.map_append, List.map_cons, List.map_nil, List.append_nil]
      using hline.lose
  · have hcounted := hs.counted
    simpa only [countDropped, droppedIn, chunksIn_cons, Happening.droppedChunk, Option.toList_some,
      List.map_cons, List.map_nil, List.length_append, List.length_singleton,
      Nat.add_right_cancel_iff] using hcounted

/-- A finalize message is sent when nothing is on its way. -/
lemma Conserved.finalize (hs : s.Conserved []) (connection : ℕ) :
    (s.record (.sent connection .finalize)).Conserved [] := by
  have hline := hs.line.conserved
  rw [List.map_nil, List.append_nil] at hline
  refine ⟨?_, ?_, hs.finalized.cons fun _ _ => ?_⟩
  · simpa only [record, aggregatedIn, sentIn, droppedIn, chunksIn_cons, Happening.aggregatedChunk,
      Happening.sentChunk, Happening.droppedChunk, Option.toList_none, List.map_nil,
      List.append_nil] using hs.line
  · simpa only [record, droppedIn, chunksIn_cons, Happening.droppedChunk, Option.toList_none,
      List.map_nil, List.append_nil] using hs.counted
  · unfold SentOrDropped audioTrace
    rw [aggregatedIn_filter, sentIn_filter, droppedIn_filter]
    exact hline

/-- The number of a chunk does not matter. -/
lemma Conserved.put (hs : s.Conserved (onWay ++ [chunk])) :
    (s.putChunk chunk).Conserved (onWay ++ [{ chunk with number := s.enqueued }]) := by
  refine ⟨?_, hs.counted, hs.finalized⟩
  have hline := hs.line
  rw [List.map_append] at hline ⊢
  exact hline

/-! ## Under either policy -/

variable (config) in
/-- The audio of the service with these chunks on their way, as the policy promises it. -/
structure Loaded (s : Service) (onWay : List AudioChunk) : Prop where
  block : config.dropPolicy = .block → s.Lossless config onWay
  dropOldest : config.dropPolicy = .dropOldest → s.Conserved onWay

lemma Loaded.congr (hs : s.Loaded config onWay) (h : s'.audio = s.audio) :
    s'.Loaded config onWay :=
  ⟨fun hpolicy => (hs.block hpolicy).congr h, fun hpolicy => (hs.dropOldest hpolicy).congr h⟩

/-- A chunk that is put moves from the end of the line into the queue. -/
lemma Loaded.put (hs : s.Loaded config (s.sendQueue ++ [chunk])) :
    (s.putChunk chunk).Loaded config (s.putChunk chunk).sendQueue :=
  ⟨fun hpolicy => (hs.block hpolicy).put, fun hpolicy => (hs.dropOldest hpolicy).put⟩

/-- A chunk is dropped and counted. -/
lemma Loaded.drop {before after : List AudioChunk} (hpolicy : config.dropPolicy ≠ .block)
    (hs : s.Loaded config (before ++ chunk :: after)) :
    (s.countDropped chunk).Loaded config (before ++ after) :=
  ⟨fun h => absurd h hpolicy, fun h => (hs.dropOldest h).drop⟩

/-- A chunk is enqueued with the policy `drop_oldest`: it is put, or dropped itself. -/
lemma Loaded.enqueueDroppingOldest (hpolicy : config.dropPolicy ≠ .block)
    (hs : s.Loaded config (s.sendQueue ++ [chunk])) :
    (s.enqueueDroppingOldest config chunk).Loaded config
      (s.enqueueDroppingOldest config chunk).sendQueue := by
  have hroom : (s.makeRoom config chunk).Loaded config
      ((s.makeRoom config chunk).sendQueue ++ [chunk]) := by
    refine dropWhile_keeps (P := fun s => s.Loaded config (s.sendQueue ++ [chunk])) ?_ _ _ hs
    intro s first rest hqueue hs
    rw [hqueue] at hs
    have htaken : ((s.takeChunk first rest).taskDone).Loaded config
        ([] ++ first :: (rest ++ [chunk])) :=
      ⟨fun h => absurd h hpolicy, fun h =>
        let hs := hs.dropOldest h
        ⟨hs.line, hs.counted, hs.finalized⟩⟩
    have hdropped := htaken.drop hpolicy
    exact hdropped
  unfold Service.enqueueDroppingOldest
  split
  · have hdropped := hroom.drop hpolicy
    rw [List.append_nil] at hdropped
    exact hdropped
  · exact hroom.put

/-- A method passes a chunk on to the end of the line, if it passes one on. -/
structure PassesOn (config : LocalSTTConfig) (flushed : Service × Option AudioChunk)
    (onWay : List AudioChunk) : Prop where
  loaded : flushed.1.Loaded config (onWay ++ flushed.2.toList)
  current : ∀ chunk, flushed.2 = some chunk → chunk.generation = flushed.1.generation

lemma Loaded.flushAggregateBuffer (hs : s.Loaded config onWay) :
    PassesOn config s.flushAggregateBuffer onWay := by
  unfold Service.flushAggregateBuffer
  split
  · refine ⟨?_, fun _ h => nomatch h⟩
    rw [Option.toList_none, List.append_nil]
    exact hs
  · rename_i hbuffer
    have hbuffer : s.aggregateBuffer ≠ [] := fun h => hbuffer (by rw [h]; rfl)
    refine ⟨⟨fun h => (hs.block h).aggregate hbuffer, fun h => (hs.dropOldest h).aggregate⟩, ?_⟩
    intro chunk h
    obtain rfl := Option.some.inj h
    rfl

/-- The aggregate buffer has taken audio in. -/
lemma Loaded.queueAudioForSend {audio : Bytes}
    (hs : (s.extendAggregateBuffer config audio).Loaded config onWay) :
    PassesOn config (s.queueAudioForSend config audio) onWay := by
  unfold Service.queueAudioForSend
  split
  · exact hs.flushAggregateBuffer
  · refine ⟨?_, fun _ h => nomatch h⟩
    rw [Option.toList_none, List.append_nil]
    exact hs

lemma Loaded.hearInactive (hs : s.Loaded config onWay) (audio : Bytes) :
    ((s.record (.heard audio false)).appendPreRoll config audio).Loaded config onWay := by
  refine ⟨fun h => (hs.block h).hearInactive audio, fun h => (hs.dropOldest h).note
    (h := .heard audio false) rfl ⟨rfl, rfl, rfl⟩ (fun _ h => nomatch h) ?_ ?_⟩
  all_goals
    unfold appendPreRoll
    split <;> rfl

lemma Loaded.hearActive (hs : s.Loaded config onWay)
    (hstarted : s.utterance.generation = s.generation) (audio : Bytes) :
    PassesOn config ((s.record (.heard audio true)).queueAudioForSend config audio) onWay :=
  Loaded.queueAudioForSend ⟨fun h => (hs.block h).hearActive hstarted audio, fun h =>
    (hs.dropOldest h).note (h := .heard audio true) rfl ⟨rfl, rfl, rfl⟩ (fun _ h => nomatch h)
      rfl rfl⟩

lemma Loaded.flushPreRoll (hs : s.Loaded config onWay) (hfresh : s.Fresh) :
    PassesOn config (s.flushPreRoll config) onWay := by
  have hnote : ∀ s' : Service, s'.history = .preRollFlushed :: s.history →
      s'.audioFramesDropped = s.audioFramesDropped → config.dropPolicy = .dropOldest →
        s'.Conserved onWay := fun s' hhistory hcount h =>
    (hs.dropOldest h).note (h := .preRollFlushed) rfl ⟨rfl, rfl, rfl⟩ (fun _ h => nomatch h)
      hhistory hcount
  unfold Service.flushPreRoll
  split
  · rename_i hempty
    have hempty : s.preRollBuffer = [] := List.isEmpty_iff.mp hempty
    refine ⟨?_, fun _ h => nomatch h⟩
    rw [Option.toList_none, List.append_nil]
    refine ⟨fun h => (hs.block h).flushPreRoll hfresh rfl rfl ?_ rfl, hnote _ rfl rfl⟩
    rw [hempty, List.append_nil]
    rfl
  · refine Loaded.queueAudioForSend ⟨fun h => (hs.block h).flushPreRoll hfresh rfl rfl ?_ rfl,
      hnote _ rfl rfl⟩
    change (s.aggregateBuffer ++ s.preRollBuffer.map fun b => (b, s.generation)).map Prod.fst = _
    rw [List.map_append, map_fst_tag]

/-- A chunk of an earlier generation is taken from the queue, which `drop_oldest` does not allow. -/
lemma Loaded.discard (hpolicy : config.dropPolicy ≠ .dropOldest)
    (hstale : chunk.generation ≠ s.generation) (hs : s.Loaded config (chunk :: onWay)) :
    s.Loaded config onWay :=
  ⟨fun h => (hs.block h).discard hstale, fun h => absurd h hpolicy⟩

lemma Loaded.send (hs : s.Loaded config (chunk :: onWay)) (connection : ℕ)
    (hchunk : chunk.generation = s.generation) :
    (s.record (.sent connection (.audio chunk))).Loaded config onWay :=
  ⟨fun h => (hs.block h).send connection hchunk, fun h => (hs.dropOldest h).send connection⟩

lemma Loaded.start (hs : s.Loaded config onWay) (connection : ℕ)
    (hunstarted : s.utterance.generation ≠ s.generation) :
    (s.record (.sent connection (.start s.generation))).Loaded config onWay :=
  ⟨fun h => (hs.block h).start connection hunstarted, fun h => (hs.dropOldest h).note
    (h := .sent connection (.start s.generation)) rfl ⟨rfl, rfl, rfl⟩ (fun _ h => nomatch h)
      rfl rfl⟩

lemma Loaded.finalize (hs : s.Loaded config []) (connection : ℕ)
    (hstarted : s.utterance.generation = s.generation) (hbuffer : s.aggregateBuffer = []) :
    (s.record (.sent connection .finalize)).Loaded config [] :=
  ⟨fun h => (hs.block h).finalize connection hstarted hbuffer, fun h =>
    (hs.dropOldest h).finalize connection⟩

/-- The next generation begins, under `block` with an empty aggregate buffer. -/
lemma Loaded.next (hs : s.Loaded config onWay)
    (hbuffer : config.dropPolicy = .block → s.aggregateBuffer = []) :
    Loaded config { s with generation := s.generation + 1 } onWay :=
  ⟨fun h => (hs.block h).next (hbuffer h), fun h =>
    let hs := hs.dropOldest h
    ⟨hs.line, hs.counted, hs.finalized⟩⟩

/-- Loaded services are faithful. -/
lemma Loaded.faithful (hs : s.Loaded config onWay) : AudioFaithful config s where
  block h := (hs.block h).finalized.of_filter fun older holder => by
    unfold SentInFull at holder ⊢
    rwa [utteranceAudio_filter] at holder
  ordered h := (List.sublist_append_left _ _).trans (hs.dropOldest h).line.ordered
  dropped h := (hs.dropOldest h).finalized.of_filter fun older holder => by
    unfold SentOrDropped at holder ⊢
    rwa [aggregatedIn_filter, sentIn_filter, droppedIn_filter] at holder
  counted h := (hs.dropOldest h).counted

end Service

end RtcAsr.Plugin
