import RtcAsr.Plugin.Link

/-!
# One start on one stream

The server refuses a start on a connection whose stream is still active: a handler that acts on a
start has no stream, or it has handled neither a finalize nor a cancel since the last start and
emitted no final transcript (`Conn.start_refused`).  The service comes to such a start when a
handshake fails after its start message was sent, as at a ready timeout, since it keeps the
connection and forgets the utterance; and when the end of an utterance comes after the start of the
next one.  In runs without the two, between any two starts on a connection a finalize or a cancel
was sent on it or a final transcript of the first start was received (`startedOnce_of_run`).
-/

namespace RtcAsr.Plugin

/-- A transcript of this generation can be one of the start `g`. -/
def Generation.names (g : ℕ) : Generation → Bool
  | .absent => true
  | .invalid => false
  | .known n => n == g

/-- The event is a final transcript of the start `g`. -/
def finalFor (g : ℕ) : Except PluginExn ServerEvent → Bool
  | .ok (.transcript event generation) => event.isFinal && generation.names g
  | _ => false

/-- The stream of the start `g` on a connection is over: a finalize or a cancel is sent, or a final
transcript is received. -/
def Happening.settles (connection g : ℕ) : Happening → Bool
  | .sent c .finalize => c == connection
  | .sent c .cancel => c == connection
  | .received c message => c == connection && finalFor g (receivedEvent message)
  | _ => false

/-- **No start on an open stream**: between two starts on a connection, the stream of the first one
is over. -/
def StartedOnce (history : List Happening) : Prop :=
  ∀ newer between older connection g g',
    history = newer ++ .sent connection (.start g') ::
      (between ++ .sent connection (.start g) :: older) →
    ∃ h ∈ between, h.settles connection g = true

/-! ## Open streams -/

/-- The start that is sent on a connection. -/
def Happening.startOn (connection : ℕ) : Happening → Option ℕ
  | .sent c (.start g) => if c = connection then some g else none
  | _ => none

/-- The last start on a connection, if its stream is not over. -/
def openStart (connection : ℕ) : List Happening → Option ℕ
  | [] => none
  | h :: older =>
    match h.startOn connection with
    | some g => some g
    | none => (openStart connection older).filter fun g => !h.settles connection g

/-- The happenings that open a stream or end one. -/
def Happening.onChannel : Happening → Bool
  | .sent _ (.start _) => true
  | .sent _ .finalize => true
  | .sent _ .cancel => true
  | .received _ _ => true
  | _ => false

variable {connection g : ℕ} {h : Happening} {history older : List Happening}

lemma eq_start_of_startOn (hstart : h.startOn connection = some g) :
    h = .sent connection (.start g) := by
  unfold Happening.startOn at hstart
  split at hstart
  · split_ifs at hstart with hc
    obtain rfl := Option.some.inj hstart
    rw [hc]
  · cases hstart

lemma startOn_start : (Happening.sent connection (.start g)).startOn connection = some g :=
  if_pos rfl

/-- A happening that is no start opens no stream. -/
lemma openStart_cons_of_none (hstart : h.startOn connection = none) :
    openStart connection (h :: older) =
      (openStart connection older).filter fun g => !h.settles connection g := by
  simp [openStart, hstart]

/-- The other happenings do not matter to the open streams. -/
lemma openStart_filter (connection : ℕ) (history : List Happening) :
    openStart connection (history.filter Happening.onChannel) = openStart connection history := by
  induction history with
  | nil => rfl
  | cons h older ih =>
    by_cases hchannel : h.onChannel = true
    · rw [List.filter_cons_of_pos hchannel]
      unfold openStart
      rw [ih]
    · have hsettles : ∀ g, h.settles connection g = false := by
        intro g
        cases h with
        | sent c payload => cases payload <;> first | rfl | exact absurd rfl hchannel
        | received c message => exact absurd rfl hchannel
        | _ => rfl
      have hstart : h.startOn connection = none := by
        cases h with
        | sent c payload => cases payload <;> first | rfl | exact absurd rfl hchannel
        | _ => rfl
      rw [List.filter_cons_of_neg hchannel, ih, openStart_cons_of_none hstart]
      cases openStart connection older <;> simp [hsettles, Option.filter]

/-- Without another start, the stream of a start is open until it is over. -/
lemma openStart_after {between : List Happening}
    (hstarts : ∀ h ∈ between, h.startOn connection = none)
    (hopen : openStart connection (between ++ .sent connection (.start g) :: older) = none) :
    ∃ h ∈ between, h.settles connection g = true := by
  by_contra hnone
  push Not at hnone
  have hsome : openStart connection (between ++ .sent connection (.start g) :: older) = some g := by
    clear hopen
    induction between with
    | nil => simp [openStart, startOn_start]
    | cons h between ih =>
      rw [List.cons_append, openStart_cons_of_none (hstarts h (List.mem_cons_self ..)),
        ih (fun h' hmem => hstarts h' (List.mem_cons_of_mem _ hmem))
          (fun h' hmem => hnone h' (List.mem_cons_of_mem _ hmem))]
      simpa [Option.filter] using hnone h (List.mem_cons_self ..)
  rw [hsome] at hopen
  cases hopen

/-- A start where no stream is open. -/
lemma StartedOnce.start (hpast : StartedOnce history)
    (hopen : openStart connection history = none) :
    StartedOnce (.sent connection (.start g) :: history) := by
  intro newer between older c g₁ g₂ hsplit
  cases newer with
  | cons h newer => exact hpast newer between older c g₁ g₂ (List.cons.inj hsplit).2
  | nil =>
    obtain ⟨hstart, rfl⟩ := List.cons.inj hsplit
    obtain rfl : connection = c := by
      cases hstart
      rfl
    by_cases hother : ∃ h ∈ between, h.startOn connection ≠ none
    · obtain ⟨h, hmem, hne⟩ := hother
      obtain ⟨g₃, hg₃⟩ := Option.ne_none_iff_exists'.mp hne
      obtain rfl := eq_start_of_startOn hg₃
      obtain ⟨newer, between, rfl⟩ := List.append_of_mem hmem
      obtain ⟨h, hh, hsettles⟩ := hpast newer between older connection g₁ g₃ (by simp)
      exact ⟨h, by simp [hh], hsettles⟩
    · push Not at hother
      exact openStart_after hother hopen

/-- A happening that is no start. -/
lemma StartedOnce.other (hpast : StartedOnce history) (hstart : ∀ c, h.startOn c = none) :
    StartedOnce (h :: history) := by
  intro newer between older c g g' hsplit
  cases newer with
  | nil =>
    have hnone := hstart c
    rw [(List.cons.inj hsplit).1, startOn_start] at hnone
    cases hnone
  | cons h' newer => exact hpast newer between older c g g' (List.cons.inj hsplit).2

/-- The other happenings do not matter to `StartedOnce`. -/
lemma startedOnce_of_filter (hfilter : StartedOnce (history.filter Happening.onChannel)) :
    StartedOnce history := by
  intro newer between older c g g' hsplit
  obtain ⟨h, hmem, hsettles⟩ := hfilter (newer.filter Happening.onChannel)
    (between.filter Happening.onChannel) (older.filter Happening.onChannel) c g g'
    (by rw [hsplit, List.filter_append, List.filter_cons_of_pos rfl, List.filter_append,
      List.filter_cons_of_pos rfl])
  exact ⟨h, (List.mem_filter.mp hmem).1, hsettles⟩

/-! ## The channel -/

/-- The connection, the utterance and the start lock, and what opens and ends streams. -/
structure Channel where
  websocket : Option ℕ
  connections : ℕ
  broken : List ℕ
  active : Bool
  startLock : Option TaskId
  trace : List Happening

/-- The channel of a service. -/
def Service.channel (s : Service) : Channel :=
  ⟨s.websocket, s.connections, s.broken, s.utteranceActive, s.startLock,
    s.history.filter Happening.onChannel⟩

/-- A start that is sent now goes to a connection whose stream is open. -/
def Channel.Exposed (l : Channel) : Prop :=
  ∃ connection, l.websocket = some connection ∧ connection ∉ l.broken ∧
    openStart connection l.trace ≠ none

/-- The connections are numbered in order. -/
structure Channel.Numbered (l : Channel) : Prop where
  websocket : ∀ connection, l.websocket = some connection → connection < l.connections
  started : ∀ connection, l.connections ≤ connection → openStart connection l.trace = none

/-- The channel is part of the control state. -/
lemma channel_congr {s s' : Service} (h : s'.control = s.control) : s'.channel = s.channel := by
  have hchannel : ∀ s : Service, s.channel = s.control.channel := by
    intro s
    unfold Service.channel Service.control
    rw [List.filter_filter]
    refine congrArg _ (List.filter_congr fun h _ => ?_)
    cases h with
    | sent connection payload => cases payload <;> rfl
    | _ => rfl
  rw [hchannel, h, ← hchannel]

variable (config : LocalSTTConfig) (me next : TaskId) (s : Service)

/-- The frame moves that end an utterance which may not be the one they are about. -/
def Frame.endsUtterance : Frame → ServiceSignal → Bool
  | .finalizeCurrentUtterance (.sending _ _), .value _ => true
  | .handleServerPayload _ (.pushing true), .value _ => true
  | .handleServerPayload payload .entry, _ =>
    match serverEvent payload with
    | .ok (.transcript event generation) =>
      event.isFinal && !config.emitFinalFrames && !generation.stale s.generation &&
        !s.suppressTranscripts
    | _ => false
  | _, _ => false

/-- What a frame move does to the channel. -/
inductive ChannelMove (frame : Frame) (signal : ServiceSignal) : Channel → Prop
  | same : ChannelMove frame signal s.channel
  | acquire {v : Option Json} (hframe : frame = .ensureUtteranceStarted .locking)
      (hsignal : signal = .value v) (hidle : s.utteranceActive = false) :
      ChannelMove frame signal { s.channel with startLock := some me }
  | fail {pc : EnsureUtterancePc} {e : TaskExn PluginExn}
      (hframe : frame = .ensureUtteranceStarted pc) (hsignal : signal = .failed e)
      (hpc : pc.inside) :
      ChannelMove frame signal { s.channel with startLock := none }
  | activate {event : ℕ} (hframe : frame = .ensureUtteranceStarted (.readying event)) :
      ChannelMove frame signal { s.channel with active := true, startLock := none }
  | connect :
      ChannelMove frame signal
        { s.channel with websocket := some s.connections, connections := s.connections + 1 }
  | giveUp : ChannelMove frame signal { s.channel with websocket := none, active := false }
  | note {h : Happening} (hstart : ∀ c, h.startOn c = none) :
      ChannelMove frame signal { s.channel with trace := h :: s.channel.trace }
  | handed {g connection : ℕ} {replay startAfter : Bool} {pc : SendWsPc}
      (hframe : frame = .sendWs (.start g) replay startAfter pc)
      (hwebsocket : s.websocket = some connection) (hbroken : connection ∉ s.broken)
      (hpc : pc = .entry ∨ pc = .reconnecting ∧ ∃ v, signal = .value v) :
      ChannelMove frame signal
        { s.channel with trace := .sent connection (.start g) :: s.channel.trace }
  | endUtterance (hframe : frame.endsUtterance config s signal = true) :
      ChannelMove frame signal { s.channel with active := false }
  | discard (hframe : frame = .cancelCurrentUtterance .entry) :
      ChannelMove frame signal { s.channel with active := false }

/-- A happening that is noted. -/
lemma channel_record (h : Happening) :
    (s.record h).channel = { s.channel with
      trace := if h.onChannel then h :: s.channel.trace else s.channel.trace } := by
  unfold Service.record Service.channel
  rw [List.filter_cons]

lemma channel_releaseFinalWaiters (release : Release) :
    (s.releaseFinalWaiters release).channel = s.channel :=
  s.releaseFinalWaiters_view (fun _ _ => rfl) fun _ => rfl

lemma channel_recordFinal (generation : Generation) :
    (s.recordFinalTranscriptReceived generation).channel = s.channel := by
  unfold Service.recordFinalTranscriptReceived
  split <;> (try split) <;> rfl

lemma channel_cancelUtterance : s.cancelUtterance.channel = { s.channel with active := false } := by
  unfold Service.cancelUtterance
  rw [channel_releaseFinalWaiters, channel_congr (Service.control_clearSendQueue _)]
  rfl

lemma channel_disconnect :
    s.disconnect.channel = { s.channel with websocket := none, active := false } := by
  have hclear : (s.clearSendQueue.releaseFinalWaiters .disconnect).channel = s.channel := by
    rw [channel_releaseFinalWaiters, channel_congr (Service.control_clearSendQueue _)]
  rw [← hclear]
  rfl

lemma channel_prepareStart : s.prepareStart.channel = s.channel := by
  unfold Service.prepareStart
  split <;> rfl

lemma channel_endUtterance {h : Happening} (hh : h.onChannel = false) :
    (s.endUtterance h).channel = { s.channel with active := false } := by
  simp [Service.endUtterance, Service.channel, hh]

lemma channel_setdefaultFinal (generation : ℕ) :
    (s.setdefaultFinal generation).channel = s.channel := by
  unfold Service.setdefaultFinal
  split <;> rfl

variable {config me next s}

lemma closeSocketAndTasks_channel (cancelCurrent : Bool) (pc : ClosePc) (signal : ServiceSignal) :
    (closeSocketAndTasks me s cancelCurrent pc signal).shared.channel = s.channel := by
  have hchannel : ∀ s : Service, s.channel = s.apartFromLoops.channel := fun _ => rfl
  rw [hchannel, closeSocketAndTasks_kept, ← hchannel]

/-- What `send` does to the channel. -/
lemma hand_channel {payload : Payload} {replay startAfter : Bool} {pc : SendWsPc}
    {signal : ServiceSignal} {connection : ℕ} (hwebsocket : s.websocket = some connection)
    (hpc : pc = .entry ∨ pc = .reconnecting ∧ ∃ v, signal = .value v) :
    ChannelMove config me s (.sendWs payload replay startAfter pc) signal
      (s.hand connection payload).channel := by
  unfold Service.hand
  split
  · exact .same
  · rename_i hbroken
    rw [channel_record]
    cases payload with
    | start g => exact .handed rfl hwebsocket (by simpa using hbroken) hpc
    | finalize => exact .note fun _ => rfl
    | cancel => exact .note fun _ => rfl
    | _ => exact .same

lemma sendWs_channel (payload : Payload) (replay startAfter : Bool) (pc : SendWsPc)
    (signal : ServiceSignal) :
    ChannelMove config me s (.sendWs payload replay startAfter pc) signal
      (sendWs config s payload replay startAfter pc signal).shared.channel := by
  cases pc with
  | entry =>
    simp only [sendWs]
    split
    · exact .same
    · rename_i connection hwebsocket
      exact hand_channel hwebsocket (.inl rfl)
  | sending connection handed =>
    rcases signal with v | (_ | e) <;> simp only [sendWs] <;> (try split) <;> exact .same
  | reconnecting =>
    cases signal with
    | value v =>
      simp only [sendWs]
      split
      · split
        · exact .same
        · rename_i connection hwebsocket
          exact hand_channel hwebsocket (.inr ⟨rfl, v, rfl⟩)
      · exact .same
    | failed e => exact .same
  | resending connection handed =>
    simp only [sendWs, passOn_shared]
    exact .same

/-- A transcript that is pushed leaves the channel alone or ends the utterance. -/
lemma pushTranscript_channel {payload : Dict} {event : TranscriptEvent} {generation : Generation}
    {signal : ServiceSignal} (hevent : serverEvent payload = .ok (.transcript event generation))
    (hfresh : generation.stale s.generation = false) (hshown : s.suppressTranscripts = false) :
    ChannelMove config me s (.handleServerPayload payload .entry) signal
      (pushTranscript config s payload event generation).shared.channel := by
  unfold pushTranscript
  simp only
  cases hfinal : event.isFinal with
  | false =>
    simp only [Bool.false_eq_true, if_false]
    split <;> exact .same
  | true =>
    have hsame := channel_recordFinal s generation
    simp only [if_true]
    split
    · simp only [Move.await]
      rw [channel_record, hsame]
      exact .same
    · rename_i hemit
      have hends : (Frame.handleServerPayload payload .entry).endsUtterance config s signal =
          true := by
        simp [Frame.endsUtterance, hevent, hfinal, hfresh, hshown, LocalSTTConfig.emits] at hemit ⊢
        exact hemit
      change ChannelMove config me s _ signal
        ((s.recordFinalTranscriptReceived generation).endUtterance .finalTranscript).channel
      rw [channel_endUtterance _ rfl, hsame]
      exact .endUtterance hends

lemma handleServerPayload_channel (payload : Dict) (pc : HandlePc) (signal : ServiceSignal) :
    ChannelMove config me s (.handleServerPayload payload pc) signal
      (handleServerPayload config s payload pc signal).shared.channel := by
  have hrelease : ∀ release, ChannelMove config me s (.handleServerPayload payload pc) signal
      (s.releaseFinalWaiters release).channel := by
    intro release
    rw [channel_releaseFinalWaiters]
    exact .same
  cases pc with
  | entry =>
    simp only [handleServerPayload]
    split
    case h_4 generation hevent => split <;> exact .same
    case h_5 event generation hevent =>
      split
      · exact .same
      · rename_i hfresh
        simp only [Bool.or_eq_true, not_or, Bool.not_eq_true] at hfresh
        exact pushTranscript_channel hevent hfresh.1 hfresh.2
    case h_7 => exact hrelease .server
    case h_8 => exact hrelease .server
    all_goals exact .same
  | ponging reply =>
    simp only [handleServerPayload, passOn_shared]
    exact .same
  | pushing isFinal =>
    cases signal with
    | value v =>
      cases isFinal with
      | true =>
        change ChannelMove config me s _ _ (s.endUtterance .finalTranscript).channel
        rw [channel_endUtterance _ rfl]
        exact .endUtterance rfl
      | false => exact .same
    | failed e => exact .same

/-- **What a frame move does to the channel.** -/
theorem frameMove_channel (frame : Frame) (signal : ServiceSignal) :
    ChannelMove config me s frame signal
      (frameMove config me next s frame signal).shared.channel := by
  by_cases hquiet : frame.touches = false
  · rw [channel_congr (control_frameMove config me next s hquiet signal)]
    exact .same
  cases frame with
  | ensureConnection pc =>
    cases pc with
    | connecting =>
      cases signal with
      | value v => exact .connect
      | failed e => exact .same
    | _ =>
      cases signal <;> simp only [frameMove, ensureConnection] <;> (try split) <;> exact .same
  | closeSocketAndTasks cancelCurrent pc =>
    simp only [frameMove]
    rw [closeSocketAndTasks_channel]
    exact .same
  | ensureUtteranceStarted pc =>
    cases pc with
    | entry => exact absurd rfl hquiet
    | locking =>
      cases signal with
      | value v =>
        simp only [frameMove, ensureUtteranceStarted]
        split
        · exact .same
        · rename_i hidle
          exact .acquire rfl rfl (Bool.not_eq_true _ ▸ hidle)
      | failed e => exact .same
    | connecting =>
      cases signal with
      | value v =>
        change ChannelMove config me s _ _ s.prepareStart.channel
        rw [channel_prepareStart]
        exact .same
      | failed e => exact .fail rfl rfl trivial
    | sending generation =>
      cases signal with
      | value v => exact .same
      | failed e => exact .fail rfl rfl trivial
    | readying event =>
      cases signal with
      | value v => exact .activate rfl
      | failed e => exact .fail rfl rfl trivial
  | sendWs payload replay startAfter pc => exact sendWs_channel payload replay startAfter pc signal
  | reconnect startUtterance pc =>
    cases pc with
    | closing =>
      cases signal with
      | value v => exact .giveUp
      | failed e => exact .same
    | _ => exact absurd rfl hquiet
  | disconnect pc =>
    cases pc with
    | entry => exact absurd rfl hquiet
    | closing =>
      cases signal with
      | value v =>
        change ChannelMove config me s _ _ s.disconnect.channel
        rw [channel_disconnect]
        exact .giveUp
      | failed e => exact .same
  | receiveLoop pc =>
    cases pc with
    | receiving connection =>
      rcases signal with v | (_ | e)
      · simp only [frameMove, receiveLoop]
        split
        · rw [channel_congr (receiveLoopError_control config _), channel_record]
          exact .note fun _ => rfl
        · simp only [Move.call]
          rw [channel_record]
          exact .note fun _ => rfl
      · exact .same
      · simp only [frameMove, receiveLoop]
        rw [channel_congr (receiveLoopError_control config s)]
        exact .same
    | _ => exact absurd rfl hquiet
  | handleServerPayload payload pc => exact handleServerPayload_channel payload pc signal
  | startCurrentUtterance pc =>
    cases pc with
    | entry => simp only [frameMove, startCurrentUtterance]; split <;> exact .same
    | _ => exact absurd rfl hquiet
  | finalizeCurrentUtterance pc =>
    cases pc with
    | joining generation drained =>
      cases signal with
      | value v =>
        simp only [frameMove, finalizeCurrentUtterance]
        split
        · simp only [Move.call]
          rw [channel_setdefaultFinal]
          exact .same
        · exact .same
      | failed e => exact .same
    | sending generation event =>
      cases signal with
      | value v =>
        simp only [frameMove, finalizeCurrentUtterance]
        split <;> exact .endUtterance rfl
      | failed e => exact .same
    | waiting generation event =>
      rcases signal with v | (_ | (_ | _ | _ | _ | _ | _)) <;> exact .same
    | disconnecting generation event => cases signal <;> exact .same
    | _ => exact absurd rfl hquiet
  | cancelCurrentUtterance pc =>
    cases pc with
    | entry =>
      simp only [frameMove, cancelCurrentUtterance]
      split
      · simp only [Move.ret]
        rw [channel_cancelUtterance]
        exact .discard rfl
      · simp only [Move.call]
        rw [channel_cancelUtterance]
        exact .discard rfl
    | _ => exact absurd rfl hquiet
  | _ => exact absurd rfl hquiet

/-! ## Open streams and the start lock -/

/-- A stream that is open stays so until something is sent or received. -/
lemma exposed_of_note {l : Channel} {h : Happening} (hstart : ∀ c, h.startOn c = none)
    (hexposed : Channel.Exposed { l with trace := h :: l.trace }) : l.Exposed := by
  obtain ⟨connection, hwebsocket, hbroken, hopen⟩ := hexposed
  refine ⟨connection, hwebsocket, hbroken, fun hnone => hopen ?_⟩
  rw [openStart_cons_of_none (hstart connection), hnone]
  rfl

/-- A connection without a websocket has no open stream. -/
lemma not_exposed_of_none {l : Channel} (h : l.websocket = none) : ¬ l.Exposed := by
  rintro ⟨connection, hwebsocket, -⟩
  cases h ▸ hwebsocket

variable (config me s) in
/-- What a frame move does to the open stream and to the start lock. -/
inductive OpenMove (frame : Frame) (signal : ServiceSignal) (l : Channel) : Prop
  /-- No stream is opened. -/
  | keeps (hlock : l.startLock = s.startLock) (hexposed : l.Exposed → s.channel.Exposed)
      (hactive : l.Exposed → l.active = s.utteranceActive ∨
        frame.endsUtterance config s signal = true ∨ frame = .cancelCurrentUtterance .entry)
  | acquire {v : Option Json} (hframe : frame = .ensureUtteranceStarted .locking)
      (hsignal : signal = .value v) (hidle : s.utteranceActive = false)
      (hl : l = { s.channel with startLock := some me })
  | fail {pc : EnsureUtterancePc} {e : TaskExn PluginExn}
      (hframe : frame = .ensureUtteranceStarted pc) (hsignal : signal = .failed e)
      (hpc : pc.inside) (hl : l = { s.channel with startLock := none })
  | activate {event : ℕ} (hframe : frame = .ensureUtteranceStarted (.readying event))
      (hl : l = { s.channel with active := true, startLock := none })
  | handed {g connection : ℕ} {replay startAfter : Bool} {pc : SendWsPc}
      (hframe : frame = .sendWs (.start g) replay startAfter pc)
      (hwebsocket : s.websocket = some connection) (hbroken : connection ∉ s.broken)
      (hpc : pc = .entry ∨ pc = .reconnecting ∧ ∃ v, signal = .value v)
      (hl : l = { s.channel with trace := .sent connection (.start g) :: s.channel.trace })

lemma ChannelMove.open {frame : Frame} {signal : ServiceSignal} {l : Channel}
    (hmove : ChannelMove config me s frame signal l) (hs : s.channel.Numbered) :
    OpenMove config me s frame signal l := by
  cases hmove with
  | same => exact .keeps rfl id fun _ => .inl rfl
  | acquire hframe hsignal hidle => exact .acquire hframe hsignal hidle rfl
  | fail hframe hsignal hpc => exact .fail hframe hsignal hpc rfl
  | activate hframe => exact .activate hframe rfl
  | connect =>
    have hclosed : ¬ Channel.Exposed { s.channel with
        websocket := some s.connections, connections := s.connections + 1 } := by
      rintro ⟨connection, hwebsocket, -, hopen⟩
      obtain rfl := Option.some.inj hwebsocket
      exact hopen (hs.started _ (Nat.le_refl _))
    exact .keeps rfl (fun h => absurd h hclosed) fun h => absurd h hclosed
  | giveUp =>
    have hclosed : ¬ Channel.Exposed { s.channel with websocket := none, active := false } :=
      not_exposed_of_none rfl
    exact .keeps rfl (fun h => absurd h hclosed) fun h => absurd h hclosed
  | note hstart => exact .keeps rfl (exposed_of_note hstart) fun _ => .inl rfl
  | handed hframe hwebsocket hbroken hpc => exact .handed hframe hwebsocket hbroken hpc rfl
  | endUtterance hframe => exact .keeps rfl id fun _ => .inr (.inl hframe)
  | discard hframe => exact .keeps rfl id fun _ => .inr (.inr hframe)

/-- A frame move keeps the connections numbered. -/
lemma ChannelMove.numbered {frame : Frame} {signal : ServiceSignal} {l : Channel}
    (hmove : ChannelMove config me s frame signal l) (hs : s.channel.Numbered) : l.Numbered := by
  cases hmove with
  | connect =>
    refine ⟨fun connection h => ?_, fun connection h => hs.started connection (Nat.le_of_succ_le h)⟩
    obtain rfl := Option.some.inj h
    exact Nat.lt_succ_self _
  | giveUp =>
    refine ⟨fun connection h => ?_, hs.started⟩
    cases h
  | note hstart =>
    refine ⟨hs.websocket, fun connection h => ?_⟩
    change openStart connection (_ :: s.channel.trace) = none
    rw [openStart_cons_of_none (hstart connection), hs.started connection h]
    rfl
  | handed hframe hwebsocket hbroken hpc =>
    refine ⟨hs.websocket, fun c h => ?_⟩
    have hne := (hs.websocket _ hwebsocket).trans_le h
    refine (openStart_cons_of_none ?_).trans ?_
    · exact if_neg hne.ne
    · rw [hs.started c h]
      rfl
  | _ => exact ⟨hs.websocket, hs.started⟩

/-- A frame move keeps the starts apart if a start that it sends meets no open stream. -/
lemma ChannelMove.startedOnce {frame : Frame} {signal : ServiceSignal} {l : Channel}
    (hmove : ChannelMove config me s frame signal l) (hs : StartedOnce s.channel.trace)
    (hclosed : ∀ g replay startAfter pc, frame = .sendWs (.start g) replay startAfter pc →
      pc = .entry ∨ (pc = .reconnecting ∧ ∃ v, signal = .value v) → ¬ s.channel.Exposed) :
    StartedOnce l.trace := by
  cases hmove with
  | note hstart => exact hs.other hstart
  | handed hframe hwebsocket hbroken hpc =>
    refine hs.start ?_
    by_contra hopen
    exact hclosed _ _ _ _ hframe hpc ⟨_, hwebsocket, hbroken, hopen⟩
  | _ => exact hs

/-! ## The frames -/

/-- What a frame knows of the open stream: a start handshake meets none until its start message is
sent, and neither does a reconnect in which it sends the start again. -/
def Unopened (t : TaskId) (frame : Frame) (l : Channel) : Prop :=
  match frame with
  | .ensureUtteranceStarted .connecting => ¬ l.Exposed
  | .sendWs (.start _) replay startAfter pc =>
    replay = true ∧ startAfter = false ∧ l.startLock = some t ∧ (pc = .entry → ¬ l.Exposed)
  | .sendControl (.start _) _ => False
  | .reconnect false .connecting => l.startLock = some t → ¬ l.Exposed
  | .reconnect false .starting => False
  | _ => True

/-- The methods whose frames know something of the open stream. -/
def Call.opens : Call → Bool
  | .ensureUtteranceStarted => true
  | .sendWs (.start _) _ _ => true
  | .sendControl (.start _) => true
  | .reconnect false => true
  | _ => false

lemma unopened_of_call {t : TaskId} {frame : Frame} {l : Channel} (h : frame.call.opens = false) :
    Unopened t frame l := by
  cases frame with
  | ensureUtteranceStarted pc => cases h
  | sendWs payload replay startAfter pc => cases payload <;> first | exact trivial | cases h
  | sendControl payload pc => cases payload <;> first | exact trivial | cases h
  | reconnect startUtterance pc => cases startUtterance <;> first | exact trivial | cases h
  | _ => exact trivial

/-- The calls of a start message. -/
def Call.sendsStart : Call → Bool
  | .sendWs (.start _) _ _ => true
  | .sendControl (.start _) => true
  | _ => false

lemma unopened_enter {t : TaskId} {k : Call} {l : Channel} (h : k.sendsStart = false) :
    Unopened t k.enter l := by
  cases k with
  | sendWs payload replay startAfter => cases payload <;> first | exact trivial | cases h
  | sendControl payload => cases payload <;> first | exact trivial | cases h
  | reconnect startUtterance => cases startUtterance <;> exact trivial
  | _ => exact trivial

/-- Only a start handshake sends a start message. -/
lemma sendsStart_of_pending {frame : Frame} {k : Call} (h : frame.pending = some k)
    (hframe : frame.call.opens = false) : k.sendsStart = false := by
  unfold Frame.pending at h
  split at h <;> cases h
  case h_2 => cases hframe
  case h_15 payload => cases payload <;> first | rfl | cases hframe
  all_goals rfl

/-- What a frame knows is about streams that open and about the lock. -/
lemma Unopened.imp {t : TaskId} {frame : Frame} {l l' : Channel} (h : Unopened t frame l)
    (hexposed : l'.Exposed → l.Exposed) (hlock : l'.startLock = l.startLock) :
    Unopened t frame l' := by
  unfold Unopened at h ⊢
  split at h
  · exact fun hl => h (hexposed hl)
  · exact ⟨h.1, h.2.1, hlock.trans h.2.2.1, fun hpc hl => h.2.2.2 hpc (hexposed hl)⟩
  · exact h
  · exact fun hholder hl => h (hlock.symm.trans hholder) (hexposed hl)
  · exact h
  · trivial

variable {signal : ServiceSignal}

/-- The new frames of a start handshake. -/
lemma ensureUtteranceStarted_unopened (pc : EnsureUtterancePc)
    (hframe : Unopened me (.ensureUtteranceStarted pc) s.channel)
    (hholder : pc.inside → s.startLock = some me)
    (hacquire : pc = .locking → (∃ v, signal = .value v) → s.utteranceActive = false →
      ¬ s.channel.Exposed) :
    EachFrame (fun f => Unopened me f (ensureUtteranceStarted me s pc signal).shared.channel)
      (ensureUtteranceStarted me s pc signal).command := by
  cases pc with
  | entry =>
    simp only [ensureUtteranceStarted]
    split
    · exact trivial
    · exact trivial
  | locking =>
    cases signal with
    | value v =>
      simp only [ensureUtteranceStarted]
      split
      · exact trivial
      · rename_i hidle
        exact ⟨hacquire rfl ⟨v, rfl⟩ (Bool.not_eq_true _ ▸ hidle), trivial⟩
    | failed e => exact trivial
  | connecting =>
    cases signal with
    | value v =>
      have hchannel : s.prepareStart.channel = s.channel := channel_prepareStart s
      refine ⟨trivial, rfl, rfl, ?_, fun _ => ?_⟩
      · exact (congrArg Channel.startLock hchannel).trans (hholder trivial)
      · change ¬ s.prepareStart.channel.Exposed
        rw [hchannel]
        exact hframe
    | failed e => exact trivial
  | sending generation => cases signal <;> exact trivial
  | readying event => cases signal <;> exact trivial

/-- The new frames of a start message that is being sent. -/
lemma sendWs_unopened (g : ℕ) (replay startAfter : Bool) (pc : SendWsPc)
    (hframe : Unopened me (.sendWs (.start g) replay startAfter pc) s.channel) :
    EachFrame
      (fun f => Unopened me f
        (sendWs config s (.start g) replay startAfter pc signal).shared.channel)
      (sendWs config s (.start g) replay startAfter pc signal).command := by
  obtain ⟨rfl, rfl, hlock, -⟩ := hframe
  have hlink : ∀ connection, (s.hand connection (.start g)).channel.startLock = some me :=
    fun connection => (congrArg Link.startLock (link_hand s connection (.start g))).trans hlock
  cases pc with
  | entry =>
    simp only [sendWs]
    split
    · exact trivial
    · exact ⟨rfl, rfl, hlink _, by rintro ⟨⟩⟩
  | sending connection handed =>
    rcases signal with v | (_ | e) <;> simp only [sendWs]
    · exact trivial
    · exact trivial
    · split
      · exact ⟨⟨rfl, rfl, hlock, by rintro ⟨⟩⟩, trivial⟩
      · exact trivial
  | reconnecting =>
    cases signal with
    | value v =>
      simp only [sendWs, if_true]
      split
      · exact trivial
      · exact ⟨rfl, rfl, hlink _, by rintro ⟨⟩⟩
    | failed e => exact trivial
  | resending connection handed => cases signal <;> exact trivial

/-- The new frames know what the old one knew. -/
lemma frameMove_unopened {frame : Frame} (hframe : Unopened me frame s.channel)
    (hholder : startLock.inside frame → s.startLock = some me)
    (hacquire : frame = .ensureUtteranceStarted .locking → (∃ v, signal = .value v) →
      s.utteranceActive = false → ¬ s.channel.Exposed) :
    EachFrame (fun f => Unopened me f (frameMove config me next s frame signal).shared.channel)
      (frameMove config me next s frame signal).command := by
  by_cases hopens : frame.call.opens = true
  · cases frame with
    | ensureUtteranceStarted pc =>
      exact ensureUtteranceStarted_unopened pc hframe (fun hpc => hholder ⟨pc, hpc, rfl⟩)
        fun hpc => hacquire (hpc ▸ rfl)
    | sendWs payload replay startAfter pc =>
      cases payload with
      | start g => exact sendWs_unopened g replay startAfter pc hframe
      | _ => cases hopens
    | sendControl payload pc =>
      cases payload with
      | start g => exact hframe.elim
      | _ => cases hopens
    | reconnect startUtterance pc =>
      cases startUtterance with
      | true => cases hopens
      | false =>
        cases pc with
        | entry => exact ⟨trivial, trivial⟩
        | closing =>
          cases signal with
          | value v => exact ⟨fun _ => not_exposed_of_none rfl, trivial⟩
          | failed e => exact trivial
        | connecting => cases signal <;> exact trivial
        | starting => exact hframe.elim
    | _ => cases hopens
  · have hopens := Bool.eq_false_iff.mpr hopens
    have hstays := (frameMove_stays config me next s signal frame).command
    cases hcommand : (frameMove config me next s frame signal).command with
    | await f =>
      rw [hcommand] at hstays
      exact unopened_of_call (by rw [hstays.1]; exact hopens)
    | call f k =>
      rw [hcommand] at hstays
      have hf : f.call.opens = false := by rw [hstays.1]; exact hopens
      exact ⟨unopened_of_call hf, unopened_enter (sendsStart_of_pending hstays.2 hf)⟩
    | ret => exact trivial
    | throw e => exact trivial

/-! ## A cancel on its way -/

/-- A cancel is on its way to the connection: its task runs until the connection has it. -/
def CancelComing (w : ServiceWorld) : Prop :=
  w.shared.websocket.isSome = true ∧ ∃ t v fs, w.running = some (t, .value v) ∧
    (w.stack t = .sendControl .cancel .entry :: fs ∨
      w.stack t = .ensureConnection .entry :: .sendControl .cancel .connecting :: fs ∨
      w.stack t = .sendControl .cancel .connecting :: fs ∨
      w.stack t = .sendWs .cancel false false .entry :: fs)

variable {w : ServiceWorld} {t : TaskId} {fs : List Frame}

/-- What has no open stream after a cancel was sent. -/
lemma not_exposed_cancelled (connection : ℕ) (hwebsocket : s.websocket = some connection) :
    ¬ (s.hand connection .cancel).channel.Exposed := by
  unfold Service.hand
  split
  · rename_i hbroken
    rintro ⟨c, hc, hunbroken, -⟩
    obtain rfl : connection = c := Option.some.inj (hwebsocket.symm.trans hc)
    exact hunbroken (by simpa [Service.channel] using hbroken)
  · rw [channel_record]
    rintro ⟨c, hc, -, hopen⟩
    obtain rfl : connection = c := Option.some.inj (hwebsocket.symm.trans hc)
    refine hopen ?_
    change openStart connection (.sent connection .cancel :: s.channel.trace) = none
    rw [openStart_cons_of_none rfl]
    cases openStart connection s.channel.trace <;> simp [Happening.settles, Option.filter]

/-- The task that brings a cancel goes on until the connection has it. -/
lemma CancelComing.tick {f : Frame} (h : CancelComing w) (hrun : w.running = some (t, signal))
    (hf : w.stack t = f :: fs) :
    CancelComing ((service config).apply w t fs
        (frameMove config t w.spawned w.shared f signal)) ∨
      ¬ (frameMove config t w.spawned w.shared f signal).shared.channel.Exposed := by
  obtain ⟨hwebsocket, t', v, gs, hrunning, hstack⟩ := h
  obtain ⟨rfl, rfl⟩ := Prod.mk.inj (Option.some.inj (hrun.symm.trans hrunning))
  rw [hf] at hstack
  rcases hstack with hstack | hstack | hstack | hstack <;>
    obtain ⟨rfl, rfl⟩ := List.cons.inj hstack
  · refine .inl ⟨hwebsocket, t, none, fs, rfl, .inr (.inl ?_)⟩
    rw [Coroutines.apply_stack, Function.update_self]
    rfl
  · simp only [frameMove, ensureConnection, hwebsocket, if_true]
    refine .inl ⟨hwebsocket, t, none, gs, ?_, .inr (.inr (.inl ?_))⟩
    · simp [Coroutines.apply, Move.ret, service]
    · rw [Coroutines.apply_stack, Function.update_self]
      rfl
  · refine .inl ⟨hwebsocket, t, none, .sendControl .cancel .sending :: fs, rfl,
      .inr (.inr (.inr ?_))⟩
    rw [Coroutines.apply_stack, Function.update_self]
    rfl
  · obtain ⟨connection, hconnection⟩ := Option.isSome_iff_exists.mp hwebsocket
    refine .inr ?_
    simp only [frameMove, sendWs, hconnection]
    exact not_exposed_cancelled connection hconnection

/-- A cancel that begins is brought to the connection, if there is one. -/
lemma cancelComing_of_entry :
    CancelComing ((service config).apply w t fs
        (frameMove config t w.spawned w.shared (.cancelCurrentUtterance .entry) signal)) ∨
      ¬ (frameMove config t w.spawned w.shared
        (.cancelCurrentUtterance .entry) signal).shared.channel.Exposed := by
  simp only [frameMove, cancelCurrentUtterance]
  split
  · rename_i hnone
    exact .inr (not_exposed_of_none hnone)
  · rename_i connection hconnection
    refine .inl ⟨?_, t, none, .cancelCurrentUtterance (.sending connection) :: fs, rfl, .inl ?_⟩
    · rw [Coroutines.apply_shared]
      exact Option.isSome_iff_exists.mpr ⟨connection, hconnection⟩
    · rw [Coroutines.apply_stack, Function.update_self]
      rfl

/-! ## Runs -/

/-- The stream of the last start on the connection is open. -/
def Service.StreamOpen (s : Service) : Prop :=
  ∃ connection, s.websocket = some connection ∧ connection ∉ s.broken ∧
    openStart connection s.history ≠ none

lemma exposed_channel : s.channel.Exposed ↔ s.StreamOpen := by
  unfold Channel.Exposed Service.StreamOpen
  simp only [Service.channel, openStart_filter]

/-- The frame moves that can leave an open stream behind: a start handshake that fails after its
message, and the end of an utterance while no start handshake is under way. -/
def Frame.leaves (config : LocalSTTConfig) (s : Service) : Frame → ServiceSignal → Bool
  | .ensureUtteranceStarted (.sending _), .failed _ => true
  | .ensureUtteranceStarted (.readying _), .failed _ => true
  | frame, signal => frame.endsUtterance config s signal && s.startLock.isNone

lemma leaves_of_endsUtterance {frame : Frame} (hends : frame.endsUtterance config s signal = true)
    (hfree : s.startLock = none) : frame.leaves config s signal = true := by
  unfold Frame.leaves
  split
  · rfl
  · rfl
  · simp [hends, hfree]

/-- No open stream is left behind: when a start handshake fails after its message, and when a
finalize or a final transcript ends an utterance while no start handshake is under way, the stream
of the last start on the connection is over. -/
def LeavesNone (config : LocalSTTConfig) (w : ServiceWorld) : ServiceAction → Prop
  | .tick => ∀ t signal frame fs, w.running = some (t, signal) → w.stack t = frame :: fs →
    frame.leaves config w.shared signal = true → ¬ w.shared.StreamOpen
  | _ => True

/-- The starts are apart, an open stream belongs to an active utterance, to a start handshake or to
a cancel on its way, and the frames of a start handshake know of no open stream. -/
structure SettledWorld (config : LocalSTTConfig) (w : ServiceWorld) : Prop where
  shape : ServiceShaped config w
  lock : startLock.Held w
  numbered : w.shared.channel.Numbered
  once : StartedOnce w.shared.channel.trace
  frames : Coroutines.Outline (fun t frame s => Unopened t frame s.channel) w
  resent : ∀ t v g replay startAfter fs, w.running = some (t, .value v) →
    w.stack t = .sendWs (.start g) replay startAfter .reconnecting :: fs →
    ¬ w.shared.channel.Exposed
  covered : w.shared.channel.Exposed → w.shared.utteranceActive = true ∨
    w.shared.startLock.isSome = true ∨ CancelComing w

lemma settledWorld_initial (config : LocalSTTConfig) :
    SettledWorld config ServiceWorld.initial where
  shape := serviceShaped_initial config
  lock := Coroutines.Lock.held_initial _ _
  numbered := ⟨fun _ h => (nomatch h), fun _ _ => rfl⟩
  once := by
    intro newer between older c g g' hsplit
    cases newer <;> cases hsplit
  frames := Coroutines.outline_initial _ _
  resent := fun _ _ _ _ _ _ hrunning => nomatch hrunning
  covered := fun h => absurd h (not_exposed_of_none rfl)

/-- A start message is sent again by the start handshake only. -/
lemma eq_sending_of_pending {f : Frame} {g : ℕ}
    (h : f.pending = some (.sendWs (.start g) true false)) :
    f = .ensureUtteranceStarted (.sending g) := by
  unfold Frame.pending at h
  split at h <;> cases h
  rfl

/-- A frame above a start message that is sent again is the end of its reconnect. -/
lemma SettledWorld.reconnected (hw : SettledWorld config w) {f : Frame} {g : ℕ}
    {replay startAfter : Bool} {gs : List Frame}
    (hf : w.stack t = f :: .sendWs (.start g) replay startAfter .reconnecting :: gs) :
    ∃ pc, f = .reconnect false pc ∧ w.shared.startLock = some t := by
  obtain ⟨-, rfl, hlock, -⟩ : Unopened t (.sendWs (.start g) replay startAfter .reconnecting)
      w.shared.channel := hw.frames t _ (by simp [hf])
  have hnested : (service config).NestedStack _ := hf ▸ hw.shape.shaped.nested t
  have hpending := (List.isChain_cons_cons.mp hnested).1
  have hcall : f.call = .reconnect false := (Option.some.inj hpending).symm
  cases f <;> simp only [Frame.call, reduceCtorEq] at hcall
  case reconnect startUtterance pc =>
    cases hcall
    exact ⟨pc, rfl, hlock⟩

/-- Another frame of a task inside the start handshake is not there while a start message is being
handed over. -/
lemma SettledWorld.handing (hw : SettledWorld config w) {f : Frame} {g : ℕ}
    {replay startAfter : Bool} {pc : SendWsPc} (hf : w.stack t = f :: fs)
    (hsend : f = .sendWs (.start g) replay startAfter pc) {u : TaskId} {frame : Frame}
    (hmem : frame ∈ w.stack u) (hfs : u = t → frame ∈ fs)
    (hholder : w.shared.startLock = some u)
    (hframe : frame = .ensureUtteranceStarted .connecting ∨ frame.call.rank ≤ 2) : False := by
  subst hsend
  obtain ⟨rfl, rfl, hlock, -⟩ : Unopened t (.sendWs (.start g) replay startAfter pc)
      w.shared.channel := hw.frames t _ (hf ▸ List.mem_cons_self ..)
  obtain rfl : t = u := Option.some.inj (hlock.symm.trans hholder)
  have hnested : (service config).NestedStack _ := hf ▸ hw.shape.shaped.nested t
  have hrank := hnested.rank_lt (service_lawful config) frame (hfs rfl)
  rcases hframe with rfl | hle
  · cases fs with
    | nil => cases hfs rfl
    | cons f' fs =>
      obtain ⟨hpending, htail⟩ := List.isChain_cons_cons.mp hnested
      obtain rfl : f' = .ensureUtteranceStarted (.sending g) := eq_sending_of_pending hpending
      have htail : (service config).NestedStack
          (.ensureUtteranceStarted (.sending g) :: fs) := htail
      rcases List.mem_cons.mp (hfs rfl) with h | h
      · cases h
      · exact absurd (htail.rank_lt (service_lawful config) _ h) (lt_irrefl _)
  · have : 2 < frame.call.rank := hrank
    omega

/-- The frames of the other activations still know of no open stream after a frame move. -/
lemma SettledWorld.stable (hw : SettledWorld config w) {f : Frame} {l : Channel}
    (hrun : w.running = some (t, signal)) (hf : w.stack t = f :: fs)
    (hmove : OpenMove config t w.shared f signal l) {u : TaskId} {frame : Frame}
    (hmem : frame ∈ w.stack u) (hfs : u = t → frame ∈ fs) : Unopened u frame l := by
  have hold : Unopened u frame w.shared.channel := hw.frames u frame hmem
  have hnested : (service config).NestedStack (f :: fs) := hf ▸ hw.shape.shaped.nested t
  have hinside : ∀ pc : EnsureUtterancePc, pc.inside → frame = .ensureUtteranceStarted pc →
      w.shared.startLock = some u := fun pc hpc h => hw.lock.holds u frame hmem ⟨pc, hpc, h⟩
  -- a frame under the one that takes or releases the lock has a larger rank
  have hrank : ∀ pc, f = .ensureUtteranceStarted pc → u = t → 3 < frame.call.rank := by
    intro pc hpc hu
    have h := hnested.rank_lt (service_lawful config) frame (hfs hu)
    rwa [hpc] at h
  -- the lock is released by its holder
  have hreleased : ∀ {pc : EnsureUtterancePc}, f = .ensureUtteranceStarted pc → pc.inside →
      l.startLock = none → (l.Exposed → w.shared.channel.Exposed) → Unopened u frame l := by
    intro pc hframe hpc hfree hexposed
    have hholder : w.shared.startLock = some t :=
      hw.lock.holds t f (hf ▸ List.mem_cons_self ..) ⟨pc, hpc, hframe⟩
    unfold Unopened at hold ⊢
    split at hold
    · exact fun hl => hold (hexposed hl)
    · obtain rfl : t = u := Option.some.inj (hholder.symm.trans hold.2.2.1)
      have hlt := hrank _ hframe rfl
      rw [hold.2.1] at hlt
      simp [Frame.call, Call.rank] at hlt
    · exact hold
    · intro h
      cases hfree.symm.trans h
    · exact hold
    · trivial
  cases hmove with
  | keeps hlock hexposed hactive => exact hold.imp hexposed hlock
  | @acquire v hframe hsignal hidle hl =>
    subst hl
    have hfree : w.shared.startLock = none :=
      hw.lock.free t v f fs (hsignal ▸ hrun) hf hframe
    unfold Unopened at hold ⊢
    split at hold
    · exact hold
    · cases hfree.symm.trans hold.2.2.1
    · exact hold
    · intro hholder
      obtain rfl : t = u := Option.some.inj hholder
      have hlt := hrank _ hframe rfl
      simp [Frame.call, Call.rank] at hlt
    · exact hold
    · trivial
  | fail hframe hsignal hpc hl =>
    subst hl
    exact hreleased hframe hpc rfl id
  | activate hframe hl =>
    subst hl
    exact hreleased hframe trivial rfl id
  | handed hframe hwebsocket hbroken hpc hl =>
    subst hl
    have hgone := fun hholder hrank => hw.handing hf hframe hmem hfs hholder hrank
    unfold Unopened at hold ⊢
    split at hold
    · exact (hgone (hinside .connecting trivial rfl) (.inl rfl)).elim
    · refine (hgone hold.2.2.1 (.inr ?_)).elim
      rw [hold.2.1]
      exact le_rfl
    · exact hold
    · exact fun hholder => (hgone hholder (.inr (by simp [Frame.call, Call.rank]))).elim
    · exact hold
    · trivial

/-- A frame move that leaves no open stream behind keeps the starts apart. -/
lemma SettledWorld.tick {f : Frame} (hw : SettledWorld config w)
    (hrun : w.running = some (t, signal)) (hf : w.stack t = f :: fs)
    (hC : f.leaves config w.shared signal = true → ¬ w.shared.StreamOpen)
    (hshape : ServiceShaped config ((service config).apply w t fs
      (frameMove config t w.spawned w.shared f signal)))
    (hlock : startLock.Held ((service config).apply w t fs
      (frameMove config t w.spawned w.shared f signal))) :
    SettledWorld config ((service config).apply w t fs
      (frameMove config t w.spawned w.shared f signal)) := by
  have hmem : f ∈ w.stack t := hf ▸ List.mem_cons_self ..
  have hframe : Unopened t f w.shared.channel := hw.frames t f hmem
  have hchannel : ChannelMove config t w.shared f signal
      (frameMove config t w.spawned w.shared f signal).shared.channel := frameMove_channel f signal
  have hmove := hchannel.open hw.numbered
  have hacquire : f = .ensureUtteranceStarted .locking → (∃ v, signal = .value v) →
      w.shared.utteranceActive = false → ¬ w.shared.channel.Exposed := by
    rintro rfl ⟨v, rfl⟩ hidle hexposed
    have hfree : w.shared.startLock = none := hw.lock.free t v _ fs hrun hf rfl
    rcases hw.covered hexposed with h | h | ⟨-, t', v', gs, hrunning, hstack⟩
    · cases hidle.symm.trans h
    · rw [hfree] at h
      cases h
    · obtain ⟨rfl, -⟩ := Prod.mk.inj (Option.some.inj (hrun.symm.trans hrunning))
      simp [hf] at hstack
  have hclosed : ∀ g replay startAfter pc, f = .sendWs (.start g) replay startAfter pc →
      pc = .entry ∨ (pc = .reconnecting ∧ ∃ v, signal = .value v) → ¬ w.shared.channel.Exposed := by
    rintro g replay startAfter pc rfl (rfl | ⟨rfl, v, rfl⟩)
    · exact hframe.2.2.2 rfl
    · exact hw.resent t v g replay startAfter fs hrun hf
  refine
    { shape := hshape
      lock := hlock
      numbered := by rw [Coroutines.apply_shared]; exact hchannel.numbered hw.numbered
      once := by rw [Coroutines.apply_shared]; exact hchannel.startedOnce hw.once hclosed
      frames := hw.frames.tick hf ⟨EachFrame.frames ?_, ?_, ?_⟩
      resent := ?_
      covered := ?_ }
  · exact frameMove_unopened hframe (hw.lock.holds t f hmem) hacquire
  · intro i k hk
    rcases frameMove_spawn config t w.spawned w.shared signal (List.mem_of_getElem? hk)
      with rfl | rfl <;> exact trivial
  · exact fun u frame hold hfs _ => hw.stable hrun hf hmove hold hfs
  · intro u v g replay startAfter gs hrunning hstack
    rw [Coroutines.apply_shared]
    obtain ⟨rfl, hcase⟩ := Coroutines.running_apply hrunning hstack
    rcases hcase with ⟨f', k, -, h, -, -⟩ | ⟨hret, rfl, -⟩ | ⟨e, -, -, h⟩
    · cases k <;> cases h
    · obtain ⟨pc, rfl, hholder⟩ := hw.reconnected hf
      revert hret
      cases pc with
      | connecting =>
        cases signal with
        | value v => exact fun _ => hframe hholder
        | failed e => exact fun h => nomatch h
      | starting => exact hframe.elim
      | _ => cases signal <;> exact fun h => nomatch h
    · cases h
  · rw [Coroutines.apply_shared]
    intro hexposed
    by_cases hcoming : CancelComing w
    · rcases hcoming.tick hrun hf with h | h
      · exact .inr (.inr h)
      · exact absurd hexposed h
    have hbefore : w.shared.channel.Exposed → w.shared.utteranceActive = true ∨
        w.shared.startLock.isSome = true := fun h =>
      (hw.covered h).imp_right (Or.resolve_right · hcoming)
    have hC := fun h => mt exposed_channel.mp (hC h)
    generalize hm : frameMove config t w.spawned w.shared f signal = m at hmove hexposed
    cases hmove with
    | keeps hsame hopen hactive =>
      rcases hbefore (hopen hexposed) with h | h
      · rcases hactive hexposed with heq | hends | hcancel
        · exact .inl (heq.trans h)
        · cases hheld : w.shared.startLock with
          | none =>
            exact absurd (hopen hexposed) (hC (leaves_of_endsUtterance hends hheld))
          | some u =>
            refine .inr (.inl ?_)
            rw [show m.shared.startLock = _ from hsame, hheld]
            rfl
        · subst hcancel
          rw [← hm] at hexposed ⊢
          exact .inr (.inr (cancelComing_of_entry.resolve_right fun h => h hexposed))
      · exact .inr (.inl ((congrArg Option.isSome hsame).trans h))
    | acquire hframe' hsignal hidle hl =>
      refine .inr (.inl ?_)
      rw [show m.shared.startLock = _ from congrArg Channel.startLock hl]
      rfl
    | @fail pc e hframe' hsignal hpc hl =>
      rw [hl] at hexposed
      subst hframe' hsignal
      cases pc with
      | connecting => exact absurd hexposed hframe
      | sending generation => exact absurd hexposed (hC rfl)
      | readying event => exact absurd hexposed (hC rfl)
      | _ => exact hpc.elim
    | activate hframe' hl => exact .inl (congrArg Channel.active hl)
    | handed hframe' hwebsocket hbroken hpc hl =>
      subst hframe'
      refine .inr (.inl ?_)
      rw [show m.shared.startLock = _ from congrArg Channel.startLock hl]
      exact Option.isSome_iff_exists.mpr ⟨t, hframe.2.2.1⟩

/-- A step that leaves no open stream behind keeps the starts apart. -/
theorem settled_step {w' : ServiceWorld} {a : ServiceAction} (hw : SettledWorld config w)
    (hC : LeavesNone config w a) (h : (service config).step w a = some w') :
    SettledWorld config w' := by
  have hshape := serviceShaped_step hw.shape h
  have hlock := Coroutines.Lock.held_step (service_lawful config) startLock_obeyed
    hw.shape.shaped hw.lock h
  have hidle : w.running = none → w.shared.channel.Exposed →
      w.shared.utteranceActive = true ∨ w.shared.startLock.isSome = true := by
    intro hrun hexposed
    refine (hw.covered hexposed).imp_right fun h => h.resolve_right ?_
    rintro ⟨-, t, v, gs, hrunning, -⟩
    cases hrun.symm.trans hrunning
  cases (service config).step_cases h with
  | @call k hrun hk =>
    refine
      { shape := hshape
        lock := hlock
        numbered := hw.numbered
        once := hw.once
        frames := hw.frames.call ?_
        resent := fun t v g replay startAfter fs hrunning => nomatch hrun.symm.trans hrunning
        covered := fun hexposed => (hidle hrun hexposed).imp_right .inl }
    cases k <;> first | exact trivial | cases hk
  | @resume t signal f fs hrun hf hsignal =>
    refine
      { shape := hshape
        lock := hlock
        numbered := hw.numbered
        once := hw.once
        frames := hw.frames
        resent := ?_
        covered := fun hexposed => (hidle hrun hexposed).imp_right .inl }
    intro u v g replay startAfter gs hrunning hg
    obtain ⟨rfl, rfl⟩ := Prod.mk.inj (Option.some.inj hrunning)
    obtain ⟨rfl, rfl⟩ := List.cons.inj (hf.symm.trans hg)
    cases hmark : w.cancelled t <;>
      simp [Coroutines.accepts, hmark, service, Frame.awaited, Frame.answers] at hsignal
  | @outside connection hrun =>
    have hopen : Channel.Exposed { w.shared.channel with
        broken := connection :: w.shared.broken } → w.shared.channel.Exposed := by
      rintro ⟨c, hc, hbroken, hopen⟩
      exact ⟨c, hc, fun h => hbroken (List.mem_cons_of_mem _ h), hopen⟩
    exact
      { shape := hshape
        lock := hlock
        numbered := ⟨hw.numbered.websocket, hw.numbered.started⟩
        once := hw.once
        frames := hw.frames.outside fun _ _ _ h => h.imp hopen rfl
        resent := fun t v g replay startAfter fs hrunning => nomatch hrun.symm.trans hrunning
        covered := fun hexposed => (hidle hrun (hopen hexposed)).imp_right .inl }
  | @tick t signal f fs hrun hf => exact hw.tick hrun hf (hC t signal f fs hrun hf) hshape hlock

/-- **The plugin never starts twice on one stream**, in every run in which no step leaves an open
stream behind. -/
theorem startedOnce_of_run {as : List ServiceAction}
    (hrun : (serviceSystem config).run .initial as = some w)
    (hC : (serviceSystem config).Along (LeavesNone config) .initial as) :
    StartedOnce w.shared.history :=
  startedOnce_of_filter (StepSystem.invariant_along (I := SettledWorld config)
    (fun _ _ _ hw hC hstep => settled_step hw hC hstep) (settledWorld_initial config) hC hrun).once

/-- A test for `StreamOpen`. -/
def Service.streamOpen (s : Service) : Bool :=
  s.websocket.any fun connection =>
    !s.broken.contains connection && (openStart connection s.history).isSome

/-- A test for `LeavesNone`. -/
def leavesNone (config : LocalSTTConfig) (w : ServiceWorld) : ServiceAction → Bool
  | .tick =>
    match w.running with
    | none => true
    | some (t, signal) =>
      match w.stack t with
      | [] => true
      | frame :: _ => !frame.leaves config w.shared signal || !w.shared.streamOpen
  | _ => true

lemma leavesNone_of_test {a : ServiceAction} (h : leavesNone config w a = true) :
    LeavesNone config w a := by
  cases a with
  | tick =>
    rintro t signal frame fs hrun hf hleaves ⟨connection, hwebsocket, hbroken, hopen⟩
    have hsome : (openStart connection w.shared.history).isSome = true :=
      Option.isSome_iff_ne_none.mpr hopen
    simp [leavesNone, hrun, hf, hleaves, Service.streamOpen, hwebsocket, hbroken, hsome] at h
  | _ => trivial

/-- The first utterance is finalized, and a second one started on the same connection. -/
def secondStart : List ServiceAction :=
  firstUtterance ++ turn 0 (.value none) 1 ++ [.call (.processFrame .userStoppedSpeaking)] ++
    turn 3 (.value none) 1 ++ turn 3 (.value none) 2 ++ turn 3 (.value none) 5 ++
    turn 3 (.value none) 3 ++ [.call (.processFrame .vadUserStartedSpeaking)] ++
    turn 4 (.value none) 3 ++ turn 4 (.value none) 4

/-- `startedOnce_of_run` in a run with two starts on one connection. -/
theorem startedOnce_of_run_secondStart :
    ∃ w, (serviceSystem {}).run .initial secondStart = some w ∧
      w.shared.history = [.sent 0 (.start 2), .vadStarted, .finalized, .sent 0 .finalize,
        .preRollFlushed, .received 0 readyOfFirst, .sent 0 (.start 1), .vadStarted] ∧
      StartedOnce w.shared.history := by
  obtain ⟨w, hrun, hhistory⟩ := StepSystem.exists_run_of_map (M := serviceSystem {}) (s := .initial)
    (f := fun w => w.shared.history) (l := secondStart)
    (x := [.sent 0 (.start 2), .vadStarted, .finalized, .sent 0 .finalize, .preRollFlushed,
      .received 0 readyOfFirst, .sent 0 (.start 1), .vadStarted]) rfl
  exact ⟨w, hrun, hhistory, startedOnce_of_run hrun
    (StepSystem.along_of_check (fun _ _ => leavesNone_of_test) rfl)⟩

/-- The first start handshake times out, and the user speaks again. -/
def startAfterTimeout : List ServiceAction :=
  [.call (.processFrame .vadUserStartedSpeaking)] ++ turn 0 (.value none) 3 ++
    turn 0 (.value none) 2 ++ turn 0 (.value none) 1 ++ turn 0 (.value none) 3 ++
    turn 0 (.value none) 2 ++ turn 0 (.failed (.raised .timeoutError)) 3 ++
    [.call (.processFrame .vadUserStartedSpeaking)] ++ turn 3 (.value none) 3 ++
    turn 3 (.value none) 4

/-- **A second start on an open stream**: the ready event to the first start does not come in time,
and the next utterance is started on the same connection. -/
theorem not_startedOnce_startAfterTimeout :
    ¬ ∀ as w, (serviceSystem {}).run .initial as = some w → StartedOnce w.shared.history := by
  intro hall
  obtain ⟨w, hrun, hhistory⟩ := StepSystem.exists_run_of_map (M := serviceSystem {}) (s := .initial)
    (f := fun w => w.shared.history) (l := startAfterTimeout)
    (x := [.sent 0 (.start 2), .vadStarted, .sent 0 (.start 1), .vadStarted]) rfl
  obtain ⟨h, hmem, hsettles⟩ := hall _ w hrun [] [.vadStarted] [.vadStarted] 0 1 2 hhistory
  obtain rfl := List.mem_singleton.mp hmem
  cases hsettles

end RtcAsr.Plugin
