import RtcAsr.Plugin.FinalizeStages

/-!
# What happens beside a finalize

While a finalize is under way, other tasks run as well: the receive loop takes server events in and
answers pings, and further frames are processed.  Such moves leave the connection, the utterance and
the queue alone, and send neither audio nor a finalize message (`frameMove_beside`), unless a final
transcript ends the utterance.
-/

namespace RtcAsr.Plugin

/-- What a finalize relies on: the connection, the utterance and the queue. -/
structure Outgoing where
  websocket : Option ℕ
  closed : Bool
  sendTask : Option TaskId
  generation : ℕ
  utteranceActive : Bool
  sendQueue : List AudioChunk
  unfinished : ℕ
  drained : ℕ
  queuedAudioMs : ℚ

/-- The part of a service that a finalize relies on. -/
def Service.outgoing (s : Service) : Outgoing :=
  { websocket := s.websocket
    closed := s.closed
    sendTask := s.sendTask
    generation := s.generation
    utteranceActive := s.utteranceActive
    sendQueue := s.sendQueue
    unfinished := s.unfinished
    drained := s.drained
    queuedAudioMs := s.queuedAudioMs }

/-- The connection, the utterance and the queue are left alone, and neither audio nor a finalize
message is sent. -/
structure Beside (c : ℕ) (s s' : Service) : Prop where
  outgoing : s'.outgoing = s.outgoing
  broken : c ∈ s'.broken → c ∈ s.broken
  aggregate : 0 ≤ s.aggregateDurationMs → 0 ≤ s'.aggregateDurationMs
  history : ∃ more, s'.history = more ++ s.history ∧
    ∀ h ∈ more, h.isFinalize = false ∧ h.isSentAudio = false

section

variable {config : LocalSTTConfig} {s s' s'' : Service} {c : ℕ} {me next : TaskId}
  {signal : ServiceSignal}

lemma Beside.refl (s : Service) : Beside c s s := ⟨rfl, id, id, [], rfl, by simp⟩

lemma Beside.trans (h : Beside c s s') (h' : Beside c s' s'') : Beside c s s'' := by
  obtain ⟨more, hmore, hquiet⟩ := h.history
  obtain ⟨more', hmore', hquiet'⟩ := h'.history
  refine ⟨h'.outgoing.trans h.outgoing, h.broken ∘ h'.broken, h'.aggregate ∘ h.aggregate,
    more' ++ more, ?_, fun h hmem => ?_⟩
  · rw [hmore', hmore, List.append_assoc]
  · exact (List.mem_append.mp hmem).elim (hquiet' h) (hquiet h)

/-- Something happens that is no message of the utterance. -/
lemma Beside.record {h : Happening} (hfinalize : h.isFinalize = false)
    (haudio : h.isSentAudio = false) : Beside c s (s.record h) :=
  ⟨rfl, id, id, [h], rfl, by simp [hfinalize, haudio]⟩

/-- A final waiter is released. -/
lemma Beside.setFinal (release : Release) (entry : ℕ × ℕ) : Beside c s (s.setFinal release entry) :=
  ⟨rfl, id, id, [_], rfl, by simp [Happening.isFinalize, Happening.isSentAudio]⟩

/-- All of them are. -/
lemma Beside.releaseFinalWaiters (release : Release) :
    Beside c s (s.releaseFinalWaiters release) := by
  have hfold : ∀ (entries : List (ℕ × ℕ)) (s : Service),
      Beside c s (entries.foldl (fun s entry => s.setFinal release entry) s) := by
    intro entries
    induction entries with
    | nil => exact fun s => .refl s
    | cons entry entries ih => exact fun s => (Beside.setFinal release entry).trans (ih _)
  obtain ⟨houtgoing, hbroken, haggregate, hhistory⟩ := hfold s.finalEvents s
  exact ⟨houtgoing, hbroken, haggregate, hhistory⟩

/-- The waiters of a final transcript are. -/
lemma Beside.recordFinalTranscriptReceived (generation : Generation) :
    Beside c s (s.recordFinalTranscriptReceived generation) := by
  unfold Service.recordFinalTranscriptReceived
  split
  · split
    · exact .setFinal _ _
    · exact .refl s
  · split
    · exact .setFinal _ _
    · exact .refl s

/-- The receive loop only notes what it receives. -/
lemma receiveLoop_beside (pc : ReceiveLoopPc) :
    Beside c s (receiveLoop config s pc signal).shared := by
  have hhead : ∀ s : Service, (receiveLoopHead s).shared = s := by
    intro s
    unfold receiveLoopHead
    split <;> (try split) <;> rfl
  have herror : ∀ s : Service, (receiveLoopError config s).shared = s := by
    intro s
    unfold receiveLoopError
    split <;> rfl
  cases pc with
  | entry =>
    cases signal with
    | value v => exact (hhead s).symm ▸ .refl s
    | failed e => exact .refl s
  | receiving connection =>
    rcases signal with message | (_ | e)
    · simp only [receiveLoop]
      split
      · rw [herror]
        exact .record rfl rfl
      · exact .record rfl rfl
    · exact .refl s
    · exact (herror s).symm ▸ .refl s
  | handling payload =>
    rcases signal with v | (_ | e)
    · exact (hhead s).symm ▸ .refl s
    · exact .refl s
    · exact (herror s).symm ▸ .refl s
  | reconnecting => simpa [receiveLoop] using .refl s
  | disconnecting => simpa [receiveLoop] using .refl s

/-- The end of a transcript that does not end an active utterance. -/
lemma endTranscript_beside {isFinal : Bool}
    (hactive : (endTranscript s isFinal).utteranceActive = s.utteranceActive) :
    Beside c s (endTranscript s isFinal) := by
  cases isFinal with
  | false => exact .refl s
  | true =>
    have hinactive : false = s.utteranceActive := hactive
    refine ⟨?_, id, id, [.finalTranscript], rfl,
      by simp [Happening.isFinalize, Happening.isSentAudio]⟩
    simp [endTranscript, Service.endUtterance, Service.outgoing, ← hinactive]

/-- A transcript that is pushed. -/
lemma pushTranscript_beside (payload : Dict) (event : TranscriptEvent) (generation : Generation)
    (hactive : (pushTranscript config s payload event generation).shared.utteranceActive =
      s.utteranceActive) :
    Beside c s (pushTranscript config s payload event generation).shared := by
  obtain ⟨s', hs'⟩ : ∃ s', s' =
      if event.isFinal then s.recordFinalTranscriptReceived generation else s := ⟨_, rfl⟩
  have hreceived : Beside c s s' := by
    rw [hs']
    split
    · exact .recordFinalTranscriptReceived generation
    · exact .refl s
  unfold pushTranscript at hactive ⊢
  rw [← hs'] at hactive ⊢
  cases hemits : config.emits event.isFinal with
  | true =>
    simp only [if_true]
    exact hreceived.trans (.record rfl rfl)
  | false =>
    simp only [hemits, Bool.false_eq_true, if_false] at hactive ⊢
    refine hreceived.trans (endTranscript_beside (hactive.trans ?_))
    exact (congrArg Outgoing.utteranceActive hreceived.outgoing).symm

/-- A server event that does not end an active utterance. -/
lemma handleServerPayload_beside (payload : Dict) (pc : HandlePc)
    (hactive : (handleServerPayload config s payload pc signal).shared.utteranceActive =
      s.utteranceActive) :
    Beside c s (handleServerPayload config s payload pc signal).shared := by
  cases pc with
  | ponging reply => simpa [handleServerPayload] using .refl s
  | pushing isFinal =>
    cases signal with
    | value v => exact endTranscript_beside hactive
    | failed e => exact .refl s
  | entry =>
    revert hactive
    simp only [handleServerPayload]
    cases serverEvent payload with
    | error e => exact fun _ => .refl s
    | ok event =>
      cases event with
      | ping reply => exact fun _ => .refl s
      | pong => exact fun _ => .refl s
      | ready generation =>
        intro _
        dsimp only
        split
        · exact .refl s
        · exact ⟨rfl, id, id, [], rfl, by simp⟩
      | transcript event generation =>
        dsimp only
        split
        · exact fun _ => .refl s
        · exact pushTranscript_beside payload event generation
      | warning => exact fun _ => .refl s
      | closed => exact fun _ => .releaseFinalWaiters _
      | error => exact fun _ => .releaseFinalWaiters _

/-- What is left of a flushed buffer is enqueued by another frame. -/
lemma enqueueLast_beside {flushed : Service × Option AudioChunk} {pc : AudioChunk → Frame}
    (h : Beside c s flushed.1) : Beside c s (enqueueLast flushed pc).shared := by
  obtain ⟨s', _ | chunk⟩ := flushed
  · exact h
  · exact h

/-- The audio of a frame stays in the buffers until a chunk of it is enqueued. -/
lemma handleAudio_beside (hconfig : config.Checked) (audio : Bytes) (pc : HandleAudioPc) :
    Beside c s (handleAudio config s audio pc signal).shared := by
  cases pc with
  | entry =>
    simp only [handleAudio]
    split
    · exact .refl s
    · exact .refl s
  | enqueueing chunk => simpa [handleAudio] using .refl s
  | connecting =>
    cases signal with
    | failed e => exact .refl s
    | value v =>
      obtain ⟨s', hs'⟩ : ∃ s', s' = s.record (.heard audio s.utteranceActive) := ⟨_, rfl⟩
      have hheard : Beside c s s' := hs' ▸ .record rfl rfl
      simp only [handleAudio, ← hs']
      split
      · refine hheard.trans (enqueueLast_beside ?_)
        have hextend : Beside c s' (s'.extendAggregateBuffer config audio) :=
          ⟨rfl, id, fun h => add_nonneg h (Service.audioDurationMs_nonneg hconfig _), [], rfl,
            by simp⟩
        unfold Service.queueAudioForSend
        split
        · refine hextend.trans ?_
          unfold Service.flushAggregateBuffer
          split
          · exact .refl _
          · exact ⟨rfl, id, fun _ => le_rfl, [_], rfl,
              by simp [Happening.isFinalize, Happening.isSentAudio]⟩
        · exact hextend
      · refine hheard.trans ?_
        change Beside c s' (s'.appendPreRoll config audio)
        unfold Service.appendPreRoll
        split
        · exact .refl s'
        · exact ⟨rfl, id, id, [], rfl, by simp⟩

/-- Passing a frame on leaves the service alone. -/
lemma processFrame_shared (frame : PipecatFrame) (pc : ProcessPc) :
    (processFrame config s frame pc signal).shared = s := by
  cases pc <;> cases signal <;> cases frame <;> simp only [processFrame] <;> (try split) <;> rfl

/-- The answer to a ping. -/
lemma sendWs_pong_beside (reply : Dict) (replay startAfter : Bool) (pc : SendWsPc) :
    Beside c s (sendWs config s (.pong reply) replay startAfter pc signal).shared := by
  have hhand : ∀ connection, Beside c s (s.hand connection (.pong reply)) := by
    intro connection
    unfold Service.hand
    split
    · exact .refl s
    · exact .record rfl rfl
  cases pc with
  | entry =>
    simp only [sendWs]
    split
    · exact .refl s
    · exact hhand _
  | sending connection handed =>
    rcases signal with v | (_ | e)
    · exact .refl s
    · exact .refl s
    · simp only [sendWs]
      split
      · exact .refl s
      · exact .refl s
  | reconnecting =>
    cases signal with
    | failed e => exact .refl s
    | value v =>
      simp only [sendWs]
      split
      · split
        · exact .refl s
        · exact hhand _
      · exact .refl s
  | resending connection handed => simpa [sendWs] using .refl s

/-- The frames that leave the connection and the queue alone: those of the receive loop, of a server
event and its answer, and those of a frame until a chunk of its audio is enqueued. -/
def Frame.standsAside : Frame → Bool
  | .ensureConnection .entry => true
  | .sendWs (.pong _) _ _ _ => true
  | .receiveLoop _ => true
  | .handleServerPayload _ _ => true
  | .handleAudio _ _ => true
  | .processFrame _ _ => true
  | _ => false

/-- A move of such a frame, unless a final transcript ends the utterance. -/
lemma frameMove_beside (hconfig : config.Checked) {frame : Frame}
    (haside : frame.standsAside = true)
    (hactive : (frameMove config me next s frame signal).shared.utteranceActive =
      s.utteranceActive) :
    Beside c s (frameMove config me next s frame signal).shared := by
  unfold Frame.standsAside at haside
  split at haside
  · simp only [frameMove, ensureConnection]
    split
    · exact .refl s
    · exact .refl s
  · exact sendWs_pong_beside ..
  · exact receiveLoop_beside _
  · exact handleServerPayload_beside _ _ hactive
  · exact handleAudio_beside hconfig _ _
  · rw [frameMove, processFrame_shared]
    exact .refl s
  · cases haside

end

end RtcAsr.Plugin
