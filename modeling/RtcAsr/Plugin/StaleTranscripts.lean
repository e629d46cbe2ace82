import RtcAsr.Plugin.Ledger

/-!
# Stale transcripts and finalize waiters

In every run of the service in which each transcript carries the generation of a start message sent
on its connection, a transcription frame that is pushed belongs to the generation current at that
moment, no start of which lies behind a cancel, and the event of a finalize waiter is set only for
its own generation (`transcripts_current`).  The reason is that the check of the generation, the
release of the waiter and the push are one step of the receive loop.
-/

namespace RtcAsr.Plugin

namespace Service

variable (config : LocalSTTConfig) (s : Service)

/-- A happening that is not kept in the ledger leaves it alone. -/
lemma ledger_record {h : Happening} (hh : h.ledgered = false) : (s.record h).ledger = s.ledger := by
  simp [record, ledger, hh]

/-- Taking a chunk from the queue is no matter of the ledger. -/
@[simp] lemma ledger_takeChunk (chunk : AudioChunk) (rest : List AudioChunk) :
    (s.takeChunk chunk rest).ledger = s.ledger := rfl

/-- Nor is a chunk that is done with. -/
@[simp] lemma ledger_taskDone : s.taskDone.ledger = s.ledger := rfl

/-- Nor is a chunk that is put into the queue. -/
@[simp] lemma ledger_putChunk (chunk : AudioChunk) : (s.putChunk chunk).ledger = s.ledger := rfl

/-- Nor is a chunk that is counted as dropped. -/
@[simp] lemma ledger_countDropped (chunk : AudioChunk) : (s.countDropped chunk).ledger = s.ledger :=
  rfl

/-- Dropping chunks leaves the ledger alone. -/
@[simp] lemma ledger_dropWhile (p : Service → Bool) (n : ℕ) :
    (dropWhile p n s).ledger = s.ledger :=
  dropWhile_view (fun _ _ _ => rfl) p n s

/-- So does clearing the queue. -/
@[simp] lemma ledger_clearSendQueue : s.clearSendQueue.ledger = s.ledger := ledger_dropWhile s _ _

/-- So does the policy `drop_oldest`, whether it drops or enqueues. -/
@[simp] lemma ledger_enqueueDroppingOldest (chunk : AudioChunk) :
    (s.enqueueDroppingOldest config chunk).ledger = s.ledger := by
  unfold enqueueDroppingOldest makeRoom
  split <;> simp

/-- The pre-roll is no matter of the ledger. -/
@[simp] lemma ledger_appendPreRoll (audio : Bytes) :
    (s.appendPreRoll config audio).ledger = s.ledger := by
  unfold appendPreRoll
  split <;> rfl

/-- Nor is the aggregate buffer when it becomes a chunk. -/
@[simp] lemma ledger_flushAggregateBuffer : s.flushAggregateBuffer.1.ledger = s.ledger := by
  unfold flushAggregateBuffer
  split <;> rfl

/-- Audio of an utterance leaves the ledger alone. -/
@[simp] lemma ledger_queueAudioForSend (audio : Bytes) :
    (s.queueAudioForSend config audio).1.ledger = s.ledger := by
  unfold queueAudioForSend
  split
  · rw [ledger_flushAggregateBuffer]
    rfl
  · rfl

/-- So does the pre-roll that becomes the beginning of an utterance. -/
@[simp] lemma ledger_flushPreRoll : (s.flushPreRoll config).1.ledger = s.ledger := by
  unfold flushPreRoll
  split
  · rfl
  · rw [ledger_queueAudioForSend]
    rfl

/-- Preparing a start makes or clears the ready event, which the ledger does not have. -/
@[simp] lemma ledger_prepareStart : s.prepareStart.ledger = s.ledger := by
  unfold prepareStart
  split <;> rfl

/-- Setting the event of an entry. -/
lemma keeps_setFinal {release : Release} {entry : ℕ × ℕ} (hentry : entry ∈ s.finalEvents)
    (hrelease : release.For entry.1) :
    s.ledger.Keeps (s.setFinal release entry).ledger :=
  Ledger.keeps_set hentry hrelease

/-- Releasing all waiters. -/
lemma keeps_releaseFinalWaiters {release : Release} (hrelease : ∀ g, release.For g) :
    s.ledger.Keeps (s.releaseFinalWaiters release).ledger := by
  have hfold : ∀ entries : List (ℕ × ℕ), (∀ entry ∈ entries, entry ∈ s.finalEvents) →
      ∀ s' : Service,
      s'.finalEvents = s.finalEvents → s.ledger.Keeps s'.ledger →
      s.ledger.Keeps (entries.foldl (fun s entry => s.setFinal release entry) s').ledger := by
    intro entries
    induction entries with
    | nil => exact fun _ s' _ hs' => hs'
    | cons entry entries ih =>
      intro hmem s' hentries hs'
      refine ih (fun e he => hmem e (List.mem_cons_of_mem _ he)) _ hentries (hs'.trans ?_)
      exact s'.keeps_setFinal (hentries ▸ hmem entry (List.mem_cons_self ..)) (hrelease _)
  exact (hfold s.finalEvents (fun _ h => h) s rfl (.refl _)).trans
    (Ledger.keeps_entries fun e he => nomatch he)

/-- A final transcript of a generation. -/
lemma keeps_recordFinal (n : ℤ) :
    s.ledger.Keeps (s.recordFinalTranscriptReceived (.known n)).ledger := by
  simp only [recordFinalTranscriptReceived]
  split
  case h_1 entry hfind =>
    refine s.keeps_setFinal (List.mem_of_find?_eq_some hfind) ?_
    have hn : (entry.1 : ℤ) = n := by simpa using List.find?_some hfind
    simp [Release.For, hn]
  case h_2 => exact .refl _

/-- `setdefault` on the waiters. -/
lemma keeps_setdefaultFinal (g : ℕ) : s.ledger.Keeps (s.setdefaultFinal g).ledger := by
  unfold setdefaultFinal
  split
  · exact .refl _
  · exact Ledger.keeps_entry g

/-- The event that `setdefault` returns belongs to the generation. -/
lemma owns_setdefaultFinal (g : ℕ) (hs : (s.setdefaultFinal g).ledger.Sound) :
    (s.setdefaultFinal g).ledger.Owns g (s.finalEvent g) := by
  refine hs.entries g _ ?_
  unfold setdefaultFinal finalEvent
  cases hlookup : s.finalEvents.lookup g with
  | none => simp [ledger]
  | some event =>
    obtain ⟨before, after, hsplit, -⟩ := List.lookup_eq_some_iff.mp hlookup
    simp [ledger, hsplit]

/-- Cancelling the utterance. -/
lemma keeps_cancelUtterance : s.ledger.Keeps s.cancelUtterance.ledger := by
  have hdiscard : s.ledger.Keeps s.discardUtterance.clearBuffers.ledger := Ledger.keeps_cancel
  refine hdiscard.trans ?_
  rw [← ledger_clearSendQueue s.discardUtterance.clearBuffers]
  exact keeps_releaseFinalWaiters _ fun _ => trivial

/-- Disconnecting. -/
lemma keeps_disconnect : s.ledger.Keeps s.disconnect.ledger := by
  have hledger : s.disconnect.ledger = (s.clearSendQueue.releaseFinalWaiters .disconnect).ledger :=
    by simp [disconnect, forgetConnection, clearBuffers, ledger, Happening.ledgered]
  rw [hledger, ← ledger_clearSendQueue s]
  exact keeps_releaseFinalWaiters _ fun _ => trivial

end Service

/-! ## The frames -/

/-- A payload whose transcript carries the generation of some start. -/
def Tagged (event : Except PluginExn ServerEvent) : Prop :=
  ∀ transcript generation, event = .ok (.transcript transcript generation) →
    ∃ g : ℕ, generation = .known g

/-- What a frame knows of the ledger: the start it sends is of a generation that was begun, its
payload is tagged, and the event it waits for belongs to its generation. -/
def Frame.Knows (l : Ledger) : Frame → Prop
  | .ensureUtteranceStarted (.sending g) => g ≤ l.generation
  | .sendWs (.start g) _ _ _ => g ≤ l.generation
  | .receiveLoop (.handling payload) => Tagged (serverEvent payload)
  | .handleServerPayload payload _ => Tagged (serverEvent payload)
  | .sendControl payload _ => ∀ g, payload ≠ .start g
  | .finalizeCurrentUtterance (.sending g event) => l.Owns g event
  | .finalizeCurrentUtterance (.waiting g event) => l.Owns g event
  | .finalizeCurrentUtterance (.disconnecting g event) => l.Owns g event
  | _ => True

/-- A frame keeps what it knows. -/
lemma Frame.Knows.mono {l l' : Ledger} (h : l.Grows l') {frame : Frame} (hf : frame.Knows l) :
    frame.Knows l' := by
  unfold Frame.Knows at hf ⊢
  split at hf
  · exact hf.trans h.generation
  · exact hf.trans h.generation
  · exact hf
  · exact hf
  · exact hf
  · exact h.owns hf
  · exact h.owns hf
  · exact h.owns hf
  · trivial

/-- A frame move keeps the ledger sound, and the new frames know what they need. -/
def Accounts (s : Service) (m : ServiceMove) : Prop :=
  s.ledger.Keeps m.shared.ledger ∧ EachFrame (fun f => f.Knows m.shared.ledger) m.command

section accounts

variable {s s' : Service}

/-- A move that suspends the task keeps account if the frame does. -/
lemma accounts_await {f : Frame} (hs : s.ledger.Keeps s'.ledger) (hf : f.Knows s'.ledger) :
    Accounts s (.await s' f) := ⟨hs, hf⟩

/-- A move that calls a method keeps account if the caller and the callee do. -/
lemma accounts_call {f : Frame} {k : Call} (hs : s.ledger.Keeps s'.ledger)
    (hf : f.Knows s'.ledger) (hk : k.enter.Knows s'.ledger) : Accounts s (.call s' f k) :=
  ⟨hs, hf, hk⟩

/-- A move that returns puts no frame on the stack. -/
lemma accounts_ret (hs : s.ledger.Keeps s'.ledger) : Accounts s (.ret s') := ⟨hs, trivial⟩

/-- Nor does a move that raises. -/
lemma accounts_throw {e : TaskExn PluginExn} (hs : s.ledger.Keeps s'.ledger) :
    Accounts s (.throw s' e) := ⟨hs, trivial⟩

/-- Passing a result on returns or raises. -/
lemma accounts_passOn {signal : ServiceSignal} (hs : s.ledger.Keeps s'.ledger) :
    Accounts s (passOn s' signal) := by
  cases signal
  · exact accounts_ret hs
  · exact accounts_throw hs

end accounts

variable (config : LocalSTTConfig) (me next : TaskId) (s : Service) (signal : ServiceSignal)

/-- A connection is no matter of the ledger. -/
lemma ensureConnection_accounts (pc : EnsureConnectionPc) :
    Accounts s (ensureConnection me next s pc signal) := by
  cases pc <;> cases signal <;> simp only [ensureConnection] <;> (try split) <;>
    exact ⟨.refl _, trivial⟩

/-- Nor is awaiting the tasks of a connection. -/
lemma awaitTasks_accounts (cancelCurrent : Bool) (tasks : List TaskId) :
    Accounts s (awaitTasks s cancelCurrent tasks) := by
  cases tasks with
  | nil => simp only [awaitTasks, closeSocket]; split <;> exact ⟨.refl _, trivial⟩
  | cons task rest => exact ⟨.refl _, trivial⟩

/-- Closing a connection stops its tasks and leaves the ledger alone. -/
lemma closeSocketAndTasks_accounts (cancelCurrent : Bool) (pc : ClosePc) :
    Accounts s (closeSocketAndTasks me s cancelCurrent pc signal) := by
  cases pc with
  | entry => exact awaitTasks_accounts { s with closed := true } cancelCurrent _
  | awaiting task rest =>
    rcases signal with v | (_ | e)
    · exact awaitTasks_accounts s cancelCurrent rest
    · exact awaitTasks_accounts s cancelCurrent rest
    · exact ⟨.refl _, trivial⟩
  | closing => rcases signal with v | (_ | e) <;> exact ⟨.refl _, trivial⟩

/-- The start that is sent belongs to the present generation. -/
lemma ensureUtteranceStarted_accounts (pc : EnsureUtterancePc) :
    Accounts s (ensureUtteranceStarted me s pc signal) := by
  cases pc with
  | connecting =>
    cases signal with
    | value v =>
      have hledger : s.prepareStart.ledger = s.ledger := s.ledger_prepareStart
      exact accounts_call (hledger ▸ .refl _) (hledger ▸ le_rfl) (hledger ▸ le_rfl)
    | failed e => exact ⟨.refl _, trivial⟩
  | _ =>
    cases signal <;> simp only [ensureUtteranceStarted] <;> (try split) <;>
      first | exact ⟨.refl _, trivial⟩ | exact ⟨.refl _, trivial, trivial⟩

/-- What `send` does to the ledger. -/
lemma hand_accounts (connection : ℕ) {payload : Payload} {replay startAfter : Bool} {pc : SendWsPc}
    (hf : (Frame.sendWs payload replay startAfter pc).Knows s.ledger) (pc' : SendWsPc) :
    Accounts s (.await (s.hand connection payload) (.sendWs payload replay startAfter pc')) := by
  unfold Service.hand
  split
  · exact accounts_await (.refl _) (by cases payload <;> exact hf)
  · cases payload
    case start g => exact accounts_await (Ledger.keeps_start hf) hf
    all_goals exact accounts_await (by rw [Service.ledger_record s rfl]; exact .refl _) hf

/-- A payload is handed to the connection at once or after a reconnect; a start still belongs to a
generation that began. -/
lemma sendWs_accounts (payload : Payload) (replay startAfter : Bool) (pc : SendWsPc)
    (hf : (Frame.sendWs payload replay startAfter pc).Knows s.ledger) :
    Accounts s (sendWs config s payload replay startAfter pc signal) := by
  have hpc : ∀ pc', (Frame.sendWs payload replay startAfter pc').Knows s.ledger := by
    intro pc'
    cases payload <;> exact hf
  cases pc with
  | entry =>
    simp only [sendWs]
    split
    · exact accounts_throw (.refl _)
    · exact hand_accounts s _ hf _
  | sending connection handed =>
    rcases signal with v | (_ | e) <;> simp only [sendWs]
    · exact accounts_ret (.refl _)
    · exact accounts_throw (.refl _)
    · split
      · exact accounts_call (.refl _) (hpc _) trivial
      · exact accounts_throw (.refl _)
  | reconnecting =>
    cases signal with
    | value v =>
      simp only [sendWs]
      split
      · split
        · exact accounts_throw (.refl _)
        · exact hand_accounts s _ hf _
      · exact accounts_ret (.refl _)
    | failed e => exact accounts_throw (.refl _)
  | resending connection handed => exact accounts_passOn (.refl _)

/-- Reconnecting ends no generation. -/
lemma reconnect_accounts (startUtterance : Bool) (pc : ReconnectPc) :
    Accounts s (reconnect s startUtterance pc signal) := by
  cases pc <;> cases signal <;> simp only [reconnect] <;> (try split) <;>
    first | exact ⟨.refl _, trivial⟩ | exact ⟨.refl _, trivial, trivial⟩

/-- A disconnect releases the final waiters of all generations. -/
lemma disconnect_accounts (pc : DisconnectPc) : Accounts s (disconnect s pc signal) := by
  cases pc with
  | entry => exact accounts_call (.refl _) trivial trivial
  | closing =>
    cases signal with
    | value v => exact accounts_ret s.keeps_disconnect
    | failed e => exact accounts_throw (.refl _)

/-- The head of the send loop changes nothing. -/
lemma sendLoopHead_accounts {s' : Service} (hs : s.ledger.Keeps s'.ledger) :
    Accounts s (sendLoopHead s') := by
  unfold sendLoopHead
  split
  · exact accounts_ret hs
  · exact accounts_await hs trivial

/-- The send loop sends audio only. -/
lemma sendLoop_accounts (pc : SendLoopPc) : Accounts s (sendLoop me s pc signal) := by
  cases pc with
  | entry =>
    cases signal with
    | value v => exact sendLoopHead_accounts s (.refl _)
    | failed e => exact accounts_throw (.refl _)
  | getting =>
    cases signal with
    | value v =>
      simp only [sendLoop]
      split
      · exact accounts_await (.refl _) trivial
      · split
        · exact accounts_call (.refl _) trivial trivial
        · exact sendLoopHead_accounts s (.refl _)
    | failed e => exact accounts_throw (.refl _)
  | sending chunk =>
    rcases signal with v | (_ | e)
    · simp only [sendLoop]
      split
      · exact sendLoopHead_accounts s (.refl _)
      · exact accounts_ret (.refl _)
    · exact accounts_throw (.refl _)
    · exact accounts_call (.refl _) trivial trivial
  | disconnecting chunk => exact accounts_passOn (.refl _)

/-- The head of the receive loop changes nothing. -/
lemma receiveLoopHead_accounts : Accounts s (receiveLoopHead s) := by
  unfold receiveLoopHead
  split
  · exact accounts_ret (.refl _)
  · split
    · exact accounts_ret (.refl _)
    · exact accounts_await (.refl _) trivial

/-- An error in the receive loop leads to a reconnect or a disconnect. -/
lemma receiveLoopError_accounts {s' : Service} (hs : s.ledger.Keeps s'.ledger) :
    Accounts s (receiveLoopError config s') := by
  unfold receiveLoopError
  split <;> exact accounts_call hs trivial trivial

/-- The receive loop hands on what the server sent, which echoes the generation of its start. -/
lemma receiveLoop_accounts (pc : ReceiveLoopPc)
    (hsignal : ∀ connection message, pc = .receiving connection →
      signal = .value (some message) → Tagged (receivedEvent message)) :
    Accounts s (receiveLoop config s pc signal) := by
  cases pc with
  | entry =>
    cases signal with
    | value v => exact receiveLoopHead_accounts s
    | failed e => exact accounts_throw (.refl _)
  | receiving connection =>
    rcases signal with v | (_ | e)
    · have hrecord : s.ledger.Keeps (s.record (.received connection (v.getD .null))).ledger := by
        rw [Service.ledger_record s rfl]
        exact .refl _
      simp only [receiveLoop]
      split
      · exact receiveLoopError_accounts config s hrecord
      case h_2 payload hparse =>
        have htagged : Tagged (serverEvent payload) := by
          cases v with
          | none => cases hparse
          | some message =>
            have h := hsignal connection message rfl rfl
            rwa [receivedEvent, show parseServerMessage message = .ok payload from hparse] at h
        exact accounts_call hrecord htagged htagged
    · exact accounts_throw (.refl _)
    · exact receiveLoopError_accounts config s (.refl _)
  | handling payload =>
    rcases signal with v | (_ | e)
    · exact receiveLoopHead_accounts s
    · exact accounts_throw (.refl _)
    · exact receiveLoopError_accounts config s (.refl _)
  | reconnecting => exact accounts_passOn (.refl _)
  | disconnecting => exact accounts_passOn (.refl _)

/-- A final transcript ends the utterance, not the generation. -/
lemma endTranscript_ledger (isFinal : Bool) : (endTranscript s isFinal).ledger = s.ledger := by
  cases isFinal <;> rfl

/-- The check of the generation and the push are one step. -/
lemma pushTranscript_accounts (payload : Dict) (event : TranscriptEvent) (g : ℕ)
    (hpayload : Tagged (serverEvent payload)) (hg : g = s.generation) :
    Accounts s (pushTranscript config s payload event (.known g)) := by
  set s' := if event.isFinal then s.recordFinalTranscriptReceived (.known g) else s with hs'
  have hkeeps : s.ledger.Keeps s'.ledger := by
    rw [hs']
    split
    · exact s.keeps_recordFinal g
    · exact .refl _
  have hgeneration : s'.generation = g := by
    rw [hs', hg]
    split
    · simp only [Service.recordFinalTranscriptReceived]
      split <;> rfl
    · rfl
  unfold pushTranscript
  simp only [← hs']
  split
  · refine accounts_await (hkeeps.trans ?_) hpayload
    rw [hgeneration.symm]
    exact Ledger.keeps_push event
  · refine accounts_ret ?_
    rw [endTranscript_ledger]
    exact hkeeps

/-- A transcript is pushed only if it is of the present generation, and a final one releases the
waiters of its own generation. -/
lemma handleServerPayload_accounts (payload : Dict) (pc : HandlePc)
    (hpayload : Tagged (serverEvent payload)) :
    Accounts s (handleServerPayload config s payload pc signal) := by
  cases pc with
  | entry =>
    simp only [handleServerPayload]
    split
    case h_1 => exact accounts_throw (.refl _)
    case h_2 => exact accounts_call (.refl _) hpayload trivial
    case h_3 => exact accounts_ret (.refl _)
    case h_4 => split <;> exact accounts_ret (.refl _)
    case h_5 event generation hevent =>
      obtain ⟨g, rfl⟩ := hpayload event generation hevent
      split
      · exact accounts_ret (.refl _)
      · rename_i hfresh
        refine pushTranscript_accounts config s payload event g hpayload ?_
        have hstale : Generation.stale s.generation (.known g) = false := by
          simp only [Bool.or_eq_true, not_or, Bool.not_eq_true] at hfresh
          exact hfresh.1
        simpa [Generation.stale] using hstale
    case h_6 => exact accounts_ret (.refl _)
    case h_7 => exact accounts_ret (s.keeps_releaseFinalWaiters fun _ => trivial)
    case h_8 => exact accounts_ret (s.keeps_releaseFinalWaiters fun _ => trivial)
  | ponging reply => exact accounts_passOn (.refl _)
  | pushing isFinal =>
    cases signal with
    | value v =>
      refine accounts_ret ?_
      rw [endTranscript_ledger]
      exact .refl _
    | failed e => exact accounts_throw (.refl _)

/-- Control messages other than a start are sent over the present connection. -/
lemma sendControl_accounts (payload : Payload) (pc : SendControlPc)
    (hpayload : ∀ g, payload ≠ .start g) : Accounts s (sendControl s payload pc signal) := by
  have hsend : (Call.sendWs payload false false).enter.Knows s.ledger := by
    cases payload <;> first | trivial | exact absurd rfl (hpayload _)
  cases pc <;> cases signal <;> simp only [sendControl] <;>
    first
      | exact ⟨.refl _, trivial⟩
      | exact ⟨.refl _, hpayload, hsend⟩
      | exact ⟨.refl _, hpayload, trivial⟩

/-- Enqueueing a chunk leaves the ledger alone under every policy. -/
lemma enqueueChunk_accounts (chunk : AudioChunk) (pc : EnqueuePc) :
    Accounts s (enqueueChunk config s chunk pc signal) := by
  have hblock : Accounts s (blockChunk config s chunk) := by
    unfold blockChunk
    split <;> exact ⟨.refl _, trivial⟩
  have hdrop : s.ledger.Keeps (s.enqueueDroppingOldest config chunk).ledger := by
    rw [Service.ledger_enqueueDroppingOldest]
    exact .refl _
  cases pc with
  | entry =>
    simp only [enqueueChunk]
    split
    · exact hblock
    · split
      · exact ⟨.refl _, trivial⟩
      · exact accounts_ret hdrop
    · exact accounts_ret hdrop
  | sleeping =>
    cases signal with
    | value v => exact hblock
    | failed e => exact accounts_throw (.refl _)

/-- So does a method that ends with it. -/
lemma enqueueLast_accounts {flushed : Service × Option AudioChunk} {pc : AudioChunk → Frame}
    (hs : flushed.1.ledger = s.ledger) (hpc : ∀ chunk, (pc chunk).Knows s.ledger) :
    Accounts s (enqueueLast flushed pc) := by
  obtain ⟨s', _ | chunk⟩ := flushed
  · exact accounts_ret (hs ▸ .refl _)
  · exact accounts_call (hs ▸ .refl _) (hs ▸ hpc chunk) trivial

/-- Audio starts no generation and ends none. -/
lemma handleAudio_accounts (audio : Bytes) (pc : HandleAudioPc) :
    Accounts s (handleAudio config s audio pc signal) := by
  have hrecord : (s.record (.heard audio s.utteranceActive)).ledger = s.ledger :=
    s.ledger_record rfl
  cases pc with
  | entry =>
    simp only [handleAudio]
    split
    · exact accounts_ret (.refl _)
    · exact accounts_call (.refl _) trivial trivial
  | connecting =>
    cases signal with
    | value v =>
      simp only [handleAudio]
      split
      · exact enqueueLast_accounts s (by simp [hrecord]) fun _ => trivial
      · refine accounts_ret ?_
        rw [Service.ledger_appendPreRoll, hrecord]
        exact .refl _
    | failed e => exact accounts_throw (.refl _)
  | enqueueing chunk => exact accounts_passOn (.refl _)

/-- A VAD start begins the next generation. -/
lemma startCurrentUtterance_accounts (pc : StartUtterancePc) :
    Accounts s (startCurrentUtterance config s pc signal) := by
  have hrecord : (s.record .vadStarted).ledger = s.ledger := s.ledger_record rfl
  cases pc with
  | entry =>
    simp only [startCurrentUtterance]
    split
    · exact accounts_ret (hrecord ▸ .refl _)
    · refine accounts_call ?_ trivial trivial
      rw [← hrecord]
      exact Ledger.keeps_generation
  | starting =>
    cases signal with
    | value v => exact enqueueLast_accounts s (by simp) fun _ => trivial
    | failed e => exact accounts_throw (.refl _)
  | enqueueing chunk => exact accounts_passOn (.refl _)

/-- A finalize makes, waits for and forgets the final event of its own generation. -/
lemma finalizeCurrentUtterance_accounts (pc : FinalizePc) (hs : s.ledger.Sound)
    (hf : (Frame.finalizeCurrentUtterance pc).Knows s.ledger) :
    Accounts s (finalizeCurrentUtterance config s pc signal) := by
  have hpop : ∀ g, s.ledger.Keeps (s.popFinal g).ledger := fun g =>
    Ledger.keeps_entries fun e he => (List.mem_filter.mp he).1
  cases pc with
  | entry =>
    have hflush : s.flushAggregateBuffer.1.ledger = s.ledger := s.ledger_flushAggregateBuffer
    simp only [finalizeCurrentUtterance]
    split
    · split
      case h_1 s' heq => exact accounts_await (by rw [← hflush, heq]; exact .refl _) trivial
      case h_2 s' chunk heq =>
        exact accounts_call (by rw [← hflush, heq]; exact .refl _) trivial trivial
    · exact accounts_ret (.refl _)
  | enqueueing g chunk =>
    cases signal with
    | value v => exact accounts_await (.refl _) trivial
    | failed e => exact accounts_throw (.refl _)
  | joining g drained =>
    cases signal with
    | value v =>
      simp only [finalizeCurrentUtterance]
      split
      · have hkeeps := s.keeps_setdefaultFinal g
        exact accounts_call hkeeps (s.owns_setdefaultFinal g (hkeeps hs).1) (by rintro _ ⟨⟩)
      · exact accounts_ret (.refl _)
    | failed e => exact accounts_throw (.refl _)
  | sending g event =>
    cases signal with
    | value v =>
      simp only [finalizeCurrentUtterance]
      split
      · exact accounts_ret (hpop g)
      · exact accounts_await (.refl _) hf
    | failed e => exact accounts_throw (.refl _)
  | waiting g event =>
    rcases signal with v | (_ | (_ | _ | _ | _ | _ | _)) <;> simp only [finalizeCurrentUtterance]
    case failed.raised.timeoutError => exact accounts_call (.refl _) hf trivial
    all_goals exact accounts_passOn (hpop g)
  | disconnecting g event => exact accounts_passOn (hpop g)

/-- A cancel gives the generation up. -/
lemma cancelCurrentUtterance_accounts (pc : CancelPc) :
    Accounts s (cancelCurrentUtterance s pc signal) := by
  cases pc with
  | entry =>
    simp only [cancelCurrentUtterance]
    split
    · exact accounts_ret s.keeps_cancelUtterance
    · exact accounts_call s.keeps_cancelUtterance trivial (by rintro _ ⟨⟩)
  | sending connection =>
    cases signal with
    | value v =>
      simp only [cancelCurrentUtterance]
      split
      · exact accounts_call (.refl _) trivial trivial
      · exact accounts_ret (.refl _)
    | failed e => exact accounts_throw (.refl _)
  | disconnecting => exact accounts_passOn (.refl _)

/-- A frame is passed on, or one of the methods above is called. -/
lemma processFrame_accounts (frame : PipecatFrame) (pc : ProcessPc) :
    Accounts s (processFrame config s frame pc signal) := by
  cases pc <;> cases signal <;> cases frame <;> simp only [processFrame] <;> (try split) <;>
    first | exact ⟨.refl _, trivial⟩ | exact ⟨.refl _, trivial, trivial⟩

/-- `start` only connects. -/
lemma start_accounts (pc : StartPc) : Accounts s (start s pc signal) := by
  cases pc <;> cases signal <;> simp only [start, passOn] <;>
    first | exact ⟨.refl _, trivial⟩ | exact ⟨.refl _, trivial, trivial⟩

/-- `stop` only closes and disconnects. -/
lemma stop_accounts (pc : StopPc) : Accounts s (stop s pc signal) := by
  cases pc <;> cases signal <;> simp only [stop, passOn] <;> (try split) <;>
    first | exact ⟨.refl _, trivial⟩ | exact ⟨.refl _, trivial, trivial⟩

/-- **Every frame move keeps the ledger sound.** -/
theorem frameMove_accounts (frame : Frame) (hs : s.ledger.Sound) (hf : frame.Knows s.ledger)
    (hsignal : ∀ connection message, frame = .receiveLoop (.receiving connection) →
      signal = .value (some message) → Tagged (receivedEvent message)) :
    Accounts s (frameMove config me next s frame signal) := by
  cases frame with
  | ensureConnection pc => exact ensureConnection_accounts me next s signal pc
  | closeSocketAndTasks cancelCurrent pc => exact closeSocketAndTasks_accounts me s signal _ pc
  | ensureUtteranceStarted pc => exact ensureUtteranceStarted_accounts me s signal pc
  | sendWs payload replay startAfter pc => exact sendWs_accounts config s signal _ _ _ pc hf
  | reconnect startUtterance pc => exact reconnect_accounts s signal _ pc
  | disconnect pc => exact disconnect_accounts s signal pc
  | sendLoop pc => exact sendLoop_accounts me s signal pc
  | receiveLoop pc =>
    exact receiveLoop_accounts config s signal pc fun connection message hpc =>
      hsignal connection message (hpc ▸ rfl)
  | handleServerPayload payload pc => exact handleServerPayload_accounts config s signal _ pc hf
  | sendControl payload pc => exact sendControl_accounts s signal payload pc hf
  | enqueueChunk chunk pc => exact enqueueChunk_accounts config s signal _ pc
  | handleAudio audio pc => exact handleAudio_accounts config s signal _ pc
  | startCurrentUtterance pc => exact startCurrentUtterance_accounts config s signal pc
  | finalizeCurrentUtterance pc => exact finalizeCurrentUtterance_accounts config s signal pc hs hf
  | cancelCurrentUtterance pc => exact cancelCurrentUtterance_accounts s signal pc
  | processFrame frame pc => exact processFrame_accounts config s signal _ pc
  | start pc => exact start_accounts s signal pc
  | stop pc => exact stop_accounts s signal pc

/-! ## Runs -/

/-- Every transcript that is received carries, directly or in its client metadata, the generation
of a start that was sent on its connection. -/
def Echoes (w : ServiceWorld) : ServiceAction → Prop
  | .resume t (.value (some message)) =>
    ∀ connection fs, w.stack t = .receiveLoop (.receiving connection) :: fs →
      ∀ transcript generation,
        receivedEvent message = .ok (.transcript transcript generation) →
          ∃ g : ℕ, generation = .known g ∧ .sent connection (.start g) ∈ w.shared.history
  | _ => True

/-- The ledger is sound, the frames know what they need, and the message that is being read is
tagged. -/
structure Informed (w : ServiceWorld) : Prop where
  sound : w.shared.ledger.Sound
  knows : Coroutines.Outline (fun _ frame s => frame.Knows s.ledger) w
  tagged : ∀ t message connection fs, w.running = some (t, .value (some message)) →
    w.stack t = .receiveLoop (.receiving connection) :: fs → Tagged (receivedEvent message)

/-- A service that was constructed has made no event and sent nothing. -/
lemma informed_initial : Informed ServiceWorld.initial where
  sound := by
    refine ⟨?_, ?_, ?_, ?_, ?_, ?_⟩ <;> simp [ServiceWorld.initial, World.initial, Service.ledger]
  knows := Coroutines.outline_initial _ _
  tagged := by simp [ServiceWorld.initial, World.initial]

variable {config}

/-- The message of a running task comes from outside. -/
lemma apply_running_value {w : ServiceWorld} {t u : TaskId} {fs : List Frame} {m : ServiceMove}
    {message : Json} :
    ((service config).apply w t fs m).running ≠ some (u, .value (some message)) := by
  unfold Coroutines.apply
  cases m.command with
  | await f => simp
  | call f k => simp [service]
  | ret => cases fs <;> simp [service]
  | throw e => cases fs <;> simp

/-- A step whose transcripts are echoed keeps what is known. -/
theorem informed_step {w w' : ServiceWorld} {a : ServiceAction} (hw : Informed w)
    (hecho : Echoes w a) (h : (service config).step w a = some w') : Informed w' := by
  cases (service config).step_cases h with
  | @call k hrun hk =>
    refine ⟨hw.sound, hw.knows.call ?_, ?_⟩
    · cases k <;> trivial
    · intro t message connection fs hrunning
      cases hrun ▸ hrunning
  | @resume t signal f fs hrun hf hsignal =>
    refine ⟨hw.sound, hw.knows, ?_⟩
    rintro u message connection fs' hrunning hstack
    cases hrunning
    intro transcript generation hevent
    obtain ⟨g, hg, -⟩ := hecho connection fs' hstack transcript generation hevent
    exact ⟨g, hg⟩
  | @outside c hrun =>
    refine ⟨hw.sound, hw.knows.outside fun _ _ _ h => h, ?_⟩
    intro t message connection fs hrunning
    cases hrun ▸ hrunning
  | @tick t signal f fs hrun hf =>
    have hknows : f.Knows w.shared.ledger := hw.knows t f (hf ▸ List.mem_cons_self ..)
    have hsignal : ∀ connection message, f = .receiveLoop (.receiving connection) →
        signal = .value (some message) → Tagged (receivedEvent message) := by
      rintro connection message rfl rfl
      exact hw.tagged t message connection fs hrun hf
    obtain ⟨hkeeps, hcommand⟩ :=
      frameMove_accounts config t w.spawned w.shared signal f hw.sound hknows hsignal
    obtain ⟨hsound, hgrows⟩ := hkeeps hw.sound
    refine ⟨by rw [Coroutines.apply_shared]; exact hsound, hw.knows.tick hf ⟨?_, ?_, ?_⟩, ?_⟩
    · exact EachFrame.frames hcommand
    · intro i k hk
      rcases frameMove_spawn config t w.spawned w.shared signal (List.mem_of_getElem? hk)
        with rfl | rfl <;> trivial
    · exact fun _ _ _ _ h' => h'.mono hgrows
    · intro u message connection fs' hrunning
      exact absurd hrunning apply_running_value

/-- What is known holds after every run whose transcripts are echoed. -/
lemma informed_of_run {as : List ServiceAction} {w : ServiceWorld}
    (hrun : (serviceSystem config).run .initial as = some w)
    (hecho : (serviceSystem config).Along Echoes .initial as) : Informed w :=
  StepSystem.invariant_along (I := Informed) (fun _ _ _ hw hC hstep => informed_step hw hC hstep)
    informed_initial hecho hrun

/-- The generation and the event of a finalize waiter. -/
def Frame.waiter : Frame → Option (ℕ × ℕ)
  | .finalizeCurrentUtterance (.sending g event) => some (g, event)
  | .finalizeCurrentUtterance (.waiting g event) => some (g, event)
  | _ => none

/-- A waiter's event belongs to its generation. -/
lemma Frame.Knows.owns {l : Ledger} {frame : Frame} {g event : ℕ} (hf : frame.Knows l)
    (h : frame.waiter = some (g, event)) : l.Owns g event := by
  unfold Frame.waiter at h
  split at h <;> cases h <;> exact hf

/-- **Stale transcripts are never published, and finalize waiters are never misreleased.**  In a run
in which every transcript carries the generation of the start of its stream, each pushed frame is of
the generation current at that moment, whose start is not behind a cancel; and what has set the
event of a finalize waiter is a final transcript of its own generation or a release. -/
theorem transcripts_current {as : List ServiceAction} {w : ServiceWorld}
    (hrun : (serviceSystem config).run .initial as = some w)
    (hecho : (serviceSystem config).Along Echoes .initial as) :
    (∀ newer older event generation current,
      w.shared.history = newer ++ .pushed event generation current :: older →
        generation = .known current ∧ StartedSinceCancel current older) ∧
    (∀ t g event, ∀ frame ∈ w.stack t, frame.waiter = some (g, event) →
      (event ∈ w.shared.finalSet → ∃ g' r, .released g' event r ∈ w.shared.history) ∧
      ∀ g' r, .released g' event r ∈ w.shared.history → g' = g ∧ r.For g) := by
  have hw : Informed w := informed_of_run hrun hecho
  have hfilter : ∀ {newer older : List Happening} {h : Happening}, h.ledgered = true →
      w.shared.history = newer ++ h :: older →
        w.shared.ledger.trace = newer.filter Happening.ledgered ++
          h :: older.filter Happening.ledgered := by
    intro newer older h hh hsplit
    simp [Service.ledger, hsplit, hh]
  constructor
  · intro newer older event generation current hsplit
    obtain ⟨hgeneration, hsince⟩ := hw.sound.pushes _ _ event generation current
      (hfilter rfl hsplit)
    refine ⟨hgeneration, fun later earlier connection holder hmem => ?_⟩
    refine hsince (later.filter Happening.ledgered)
      (earlier.filter Happening.ledgered) connection ?_
      (List.mem_filter.mpr ⟨hmem, rfl⟩)
    rw [holder, List.filter_append]
    rfl
  · intro t g event frame hframe hwaiter
    have howns : w.shared.ledger.Owns g event := (hw.knows t frame hframe).owns hwaiter
    have hmem : ∀ g' r, .released g' event r ∈ w.shared.history →
        .released g' event r ∈ w.shared.ledger.trace :=
      fun g' r h => List.mem_filter.mpr ⟨h, rfl⟩
    constructor
    · intro hset
      obtain ⟨g', r, hr⟩ := hw.sound.set event hset
      exact ⟨g', r, (List.mem_filter.mp hr).1⟩
    · intro g' r hr
      obtain rfl : g' = g := howns.release g' r (hmem g' r hr)
      exact ⟨rfl, (hw.sound.releases g' event r (hmem g' r hr)).2⟩

/-- A test for `Echoes`. -/
def echoes (w : ServiceWorld) : ServiceAction → Bool
  | .resume t (.value (some message)) =>
    match w.stack t, receivedEvent message with
    | .receiveLoop (.receiving connection) :: _, .ok (.transcript _ generation) =>
      w.shared.history.any fun h =>
        match h, generation with
        | .sent c (.start g), .known n => c == connection && n == (g : ℤ)
        | _, _ => false
    | _, _ => true
  | _ => true

/-- What the server echoes can be tested. -/
lemma echoes_of_test {w : ServiceWorld} {a : ServiceAction} (h : echoes w a = true) :
    Echoes w a := by
  unfold Echoes
  split
  · next t message =>
    intro connection fs hstack transcript generation hevent
    simp only [echoes, hstack, hevent, List.any_eq_true] at h
    obtain ⟨happening, hmem, hsent⟩ := h
    split at hsent
    · next c g n =>
      simp only [Bool.and_eq_true, beq_iff_eq] at hsent
      obtain ⟨rfl, rfl⟩ := hsent
      exact ⟨g, rfl, hmem⟩
    · cases hsent
  · trivial

/-- The transcript that `finalOfFirst` carries. -/
def firstTranscript : TranscriptEvent :=
  { text := "hello", isFinal := true, speechFinal := true, revision := 1, audioReceivedMs := 20,
    audioTranscribedMs := 20,
    metadata := [("client_metadata", .obj [("local_stt_generation", .int 1)])], language := none }

/-- A final transcript of generation 2. -/
def finalOfSecond : Json :=
  .obj [("type", .str "transcript"), ("text", .str "again"), ("is_final", .bool true),
    ("revision", .int 1), ("audio_received_ms", .int 20), ("audio_transcribed_ms", .int 20),
    ("metadata", .obj [("client_metadata", .obj [("local_stt_generation", .int 2)])])]

/-- The transcript that `finalOfSecond` carries. -/
def secondTranscript : TranscriptEvent :=
  { firstTranscript with
    text := "again"
    metadata := [("client_metadata", .obj [("local_stt_generation", .int 2)])] }

/-- The first utterance is finalized, its final transcript comes, and before the waiter goes on a
second utterance is started, whose final transcript comes as well. -/
def twoFinals : List ServiceAction :=
  firstUtterance ++ turn 0 (.value none) 1 ++ [.call (.processFrame .userStoppedSpeaking)] ++
    turn 3 (.value none) 1 ++ turn 3 (.value none) 2 ++ turn 3 (.value none) 5 ++
    turn 3 (.value none) 3 ++ turn 2 (.value (some finalOfFirst)) 2 ++ turn 2 (.value none) 2 ++
    [.call (.processFrame .vadUserStartedSpeaking)] ++ turn 4 (.value none) 3 ++
    turn 4 (.value none) 4 ++ turn 2 (.value (some finalOfSecond)) 2

/-- `transcripts_current` in a run with two generations and a finalize waiter of the first one. -/
theorem transcripts_current_twoFinals :
    ∃ w older, (serviceSystem {}).run .initial twoFinals = some w ∧
      w.shared.history = .pushed secondTranscript (.known 2) 2 :: older ∧
      .pushed firstTranscript (.known 1) 1 ∈ older ∧ StartedSinceCancel 2 older ∧
      .finalizeCurrentUtterance (.waiting 1 0) ∈ w.stack 3 ∧ 0 ∈ w.shared.finalSet ∧
      (∃ g r, .released g 0 r ∈ w.shared.history) ∧
      ∀ g r, .released g 0 r ∈ w.shared.history → g = 1 ∧ r.For 1 := by
  obtain ⟨w, hrun, hend⟩ := StepSystem.exists_run_of_map (M := serviceSystem {}) (s := .initial)
    (f := fun w => (w.shared.history, (w.stack 3).head?, w.shared.finalSet)) (l := twoFinals)
    (x := ([.pushed secondTranscript (.known 2) 2, .received 0 finalOfSecond, .sent 0 (.start 2),
      .vadStarted, .finalTranscript, .pushed firstTranscript (.known 1) 1,
      .released 1 0 (.final (.known 1)), .received 0 finalOfFirst, .finalized, .sent 0 .finalize,
      .preRollFlushed, .received 0 readyOfFirst, .sent 0 (.start 1), .vadStarted],
      some (.finalizeCurrentUtterance (.waiting 1 0)), [0])) rfl
  simp only [Prod.mk.injEq] at hend
  obtain ⟨hhistory, hstack, hset⟩ := hend
  have hecho : (serviceSystem {}).Along Echoes .initial twoFinals :=
    StepSystem.along_of_check (fun _ _ => echoes_of_test) (by decide +kernel)
  obtain ⟨hpushed, hwaiters⟩ := transcripts_current hrun hecho
  obtain ⟨-, hsince⟩ := hpushed [] _ _ _ _ hhistory
  have hwaiter : .finalizeCurrentUtterance (.waiting 1 0) ∈ w.stack 3 := by
    exact List.mem_of_mem_head? hstack
  have hevent : 0 ∈ w.shared.finalSet := by
    rw [hset]
    exact List.mem_cons_self ..
  obtain ⟨hreleased, hown⟩ := hwaiters 3 1 0 _ hwaiter rfl
  exact ⟨w, _, hrun, hhistory, by simp, hsince, hwaiter, hevent, hreleased hevent, hown⟩

end RtcAsr.Plugin
