import RtcAsr.Client.StreamingRuns

/-!
# Every stream returns

On a fair schedule without a loss of the connection, the client gets all it waits for, as long as
nothing is wrong with the chunks and every transcription succeeds: a message on its way is taken in
when the server listens, a write ends, and an event that was written is read.  The rank of a
connection counts what is still to be done before the last event is read.
-/

namespace RtcAsr.Streaming

open Routine

/-! ## What is still to be done -/

/-- A turn in which the connection is not lost. -/
def Turn.Regular (turn : Turn) : Prop := turn ≠ .closed

/-- The turn that takes a client on that waits for an event. -/
def Link.nextTurn (link : Link) : Turn :=
  if link.eventsRead < link.server.sent.length then .answer
  else if link.server.pc = .sending then .written
  else .deliver

/-- What is still to be done until `total` events are read. -/
def Link.toDo (total : ℕ) (link : Link) : ℕ :=
  2 * link.outbox.length + (if link.server.pc = .sending then 1 else 0) +
    (total - link.eventsRead)

variable {service : Service} {base : LegacyConn} {messages : List WebSocketMessage}
  {events : List LegacyEvent} {link : Link} {config : StreamConfig} {chunks : List Bytes}
  {session : StreamSession}

/-- The server takes in one message after the other, whichever of them it has taken in. -/
def Serves (service : Service) (base : LegacyConn) (messages : List WebSocketMessage) : Prop :=
  ∀ delivered, delivered <+: messages → (service.takeAll base delivered).pc = .receiving

/-- What the server wrote stays first when it takes in more. -/
lemma sent_prefix_takeAll {delivered : List WebSocketMessage} (h : delivered <+: messages) :
    (service.takeAll base delivered).sent <+: (service.takeAll base messages).sent := by
  obtain ⟨rest, rfl⟩ := h
  induction rest using List.reverseRecOn with
  | nil => rw [List.append_nil]
  | append_singleton rest message ih =>
    rw [← List.append_assoc, takeAll_concat]
    refine ih.trans ?_
    unfold Service.take
    cases hreceive : service.receive (service.takeAll base (delivered ++ rest)) message with
    | none => exact List.prefix_refl _
    | some l =>
      dsimp only
      rw [sent_settled]
      exact sent_prefix_receive hreceive

/-- A server that serves listens, or a write is at hand. -/
lemma Link.At.pc (h : link.At service base messages events)
    (hserves : Serves service base messages) :
    link.server.pc = .receiving ∨ link.server.pc = .sending := by
  obtain ⟨delivered, rfl, hserver⟩ := h.taken
  have hpc := hserves delivered (List.prefix_append _ _)
  rw [← hserver] at hpc
  unfold settled at hpc
  split at hpc
  · next hsending => exact .inr hsending
  · cases hpc
  · exact .inl hpc

/-- A server whose messages were all taken in has written all. -/
lemma Link.At.sent_of_outbox (h : link.At service base messages events)
    (houtbox : link.outbox = []) :
    link.server.sent = (service.takeAll base messages).sent := by
  obtain ⟨delivered, hmessages, hserver⟩ := h.taken
  rw [← sent_settled, hserver, hmessages, houtbox, List.append_nil]

/-- What the client has read, the server writes for the messages sent. -/
lemma Link.At.events_written (h : link.At service base messages events) :
    base.sent ++ events <+: (service.takeAll base messages).sent := by
  obtain ⟨delivered, rfl, hserver⟩ := h.taken
  obtain ⟨unread, hunread⟩ := h.unread
  have hfirst : link.server.sent <+: (service.takeAll base (delivered ++ link.outbox)).sent := by
    rw [← sent_settled, hserver]
    exact sent_prefix_takeAll (List.prefix_append _ _)
  rw [hunread] at hfirst
  exact (List.prefix_append _ _).trans hfirst

/-- A client that has read as many events as the server writes has read them all. -/
lemma Link.At.sent_of_eventsRead (h : link.At service base messages events)
    (hread : (service.takeAll base messages).sent.length ≤ link.eventsRead) :
    (service.takeAll base messages).sent = base.sent ++ events :=
  (h.events_written.eq_of_length_le (h.eventsRead ▸ hread)).symm

/-- **A turn of the server** lowers what is to be done, or changes nothing and is not the turn that
helps, as long as the server has more to write. -/
lemma Link.At.toDo_move (h : link.At service base messages events)
    (hserves : Serves service base messages)
    (hmore : link.eventsRead < (service.takeAll base messages).sent.length) {turn : Turn}
    (hturn : turn ≠ .answer) :
    (link.move service turn).toDo (service.takeAll base messages).sent.length <
        link.toDo (service.takeAll base messages).sent.length ∨
      link.move service turn = link ∧ turn ≠ link.nextTurn := by
  rcases Link.move_cases service link turn with
    hmove | ⟨-, message, outbox, server, houtbox, hreceive, hmove⟩ | ⟨rfl, hmove⟩
  · refine .inr ⟨hmove, ?_⟩
    rintro rfl
    unfold Link.nextTurn at hturn hmove
    split_ifs at hturn hmove with hunread hsending
    · exact hturn rfl
    · -- a write that is at hand can end
      have hpc := congrArg (fun l : Link => l.server.pc) hmove
      simp only [Link.move, LegacyConn.step, hsending] at hpc
      cases hpc
    · -- a message that is on its way can be delivered
      have hlistens := (h.pc hserves).resolve_right hsending
      cases houtbox : link.outbox with
      | nil =>
        rw [← h.sent_of_outbox houtbox] at hmore
        exact hunread hmore
      | cons message outbox =>
        have hlength := congrArg (fun l : Link => l.outbox.length) hmove
        simp only [Link.move, houtbox, receive_of_receiving hlistens] at hlength
        simp at hlength
  · left
    rw [hmove, Link.toDo, Link.toDo, houtbox, List.length_cons]
    dsimp only
    split_ifs <;> omega
  · rcases h.pc hserves with hpc | hpc
    · -- no write is at hand
      refine .inr ⟨by rw [hmove, settled_of_receiving hpc], fun hnext => ?_⟩
      unfold Link.nextTurn at hnext
      split_ifs at hnext with hunread hsending
      rw [hpc] at hsending
      cases hsending
    · left
      have hnot : LegacyPc.receiving ≠ .sending := by decide
      rw [hmove, Link.toDo, Link.toDo, settled_of_writing (.inr hpc), if_pos hpc]
      dsimp only
      rw [if_neg hnot]
      omega

/-! ## The operations of the client -/

/-- A message is sent. -/
lemma returns_send (h : link.At service base messages events) (message : WebSocketMessage) :
    (send service message).Returns Turn.Regular Turn.Regular link
      fun _ t => t.At service base (messages ++ [message]) events := by
  have hreturns : (send service message).Returns Turn.Regular Turn.Regular link
      fun _ _ => True := by
    refine returns_bind (returns_modify (returns_await (fun _ => True) (fun _ => 0)
      (fun _ => .answer) trivial (fun _ _ => by simp [Turn.Regular]) ?_ ?_))
    · intro t turn t' ht hregular hpoll
      refine ⟨trivial, .inr ⟨rfl, ?_, rfl⟩⟩
      rintro rfl
      cases hpoll
    · intro t turn t' e ht hregular hpoll
      cases turn with
      | closed => exact hregular rfl
      | _ => cases hpoll
  exact (hreturns.ensures (ensures_send_at h message)).mono fun _ _ ht => ht.2

/-- An event is read, or the time is over. -/
lemma returns_receiveOptionalEvent (h : link.At service base messages events) :
    (receiveOptionalEvent service).Returns Turn.Regular Turn.Regular link fun event t =>
      event = none ∧ t.At service base messages events ∨
        ∃ last, event = some (read service.names last) ∧
          t.At service base messages (events ++ [last]) := by
  have hreturns : (receiveOptionalEvent service).Returns Turn.Regular Turn.Regular link
      fun _ _ => True := by
    refine returns_await (fun _ => True) (fun _ => 0) (fun _ => .timeout)
      trivial (fun _ _ => by simp [Turn.Regular]) ?_ ?_
    · intro t turn t' ht hregular hpoll
      refine ⟨trivial, .inr ⟨rfl, ?_, rfl⟩⟩
      rintro rfl
      cases hpoll
    · intro t turn t' e ht hregular hpoll
      cases turn with
      | closed => exact hregular rfl
      | answer =>
        dsimp only at hpoll
        split at hpoll <;> cases hpoll
      | _ => cases hpoll
  exact (hreturns.ensures (ensures_receiveOptionalEvent h)).mono fun _ _ ht => ht.2

/-- An event to stop at is read, if the server writes one for the messages sent. -/
lemma returns_receiveUntil (h : link.At service base messages events)
    (hserves : Serves service base messages) (stops : TranscriptEvent → Bool)
    (hcomes : ∀ skipped, (service.takeAll base messages).sent = base.sent ++ events ++ skipped →
      ∃ event ∈ skipped, stops (read service.names event) = true) :
    (receiveUntil service stops).Returns Turn.Regular Turn.Regular link fun event t =>
      ∃ skipped last, event = read service.names last ∧ stops event = true ∧
        (∀ x ∈ skipped, stops (read service.names x) = false) ∧
        t.At service base messages (events ++ skipped ++ [last]) := by
  have hreturns : (receiveUntil service stops).Returns Turn.Regular Turn.Regular link
      fun _ _ => True := by
    refine returns_await
      (fun t => ∃ skipped, (∀ x ∈ skipped, stops (read service.names x) = false) ∧
        t.At service base messages (events ++ skipped))
      (Link.toDo (service.takeAll base messages).sent.length) Link.nextTurn
      ⟨[], by simp, by simpa using h⟩ ?_ ?_ ?_
    · intro t ht
      unfold Turn.Regular Link.nextTurn
      split_ifs <;> simp
    · rintro t turn t' ⟨skipped, hskipped, ht⟩ hregular hpoll
      -- the event to stop at has not been read yet
      have hmore : t.eventsRead < (service.takeAll base messages).sent.length := by
        by_contra hall
        obtain ⟨event, hevent, hstops⟩ := hcomes skipped
          (by rw [ht.sent_of_eventsRead (by omega), List.append_assoc])
        rw [hskipped event hevent] at hstops
        cases hstops
      by_cases hanswer : turn = .answer
      · subst hanswer
        rcases ht.nextEvent with hnone | ⟨event, hevent, hread⟩
        · rw [hnone] at hpoll
          obtain rfl := (Prod.mk.inj hpoll).1
          refine ⟨⟨skipped, hskipped, ht⟩, .inr ⟨rfl, fun hnext => ?_, rfl⟩⟩
          have hunread : t.eventsRead < t.server.sent.length := by
            unfold Link.nextTurn at hnext
            split_ifs at hnext with hunread
            exact hunread
          rw [Link.nextEvent, List.getElem?_eq_getElem hunread] at hnone
          cases hnone
        · rw [hevent] at hpoll
          dsimp only at hpoll
          split_ifs at hpoll with hstops
          · cases (Prod.mk.inj hpoll).2
          obtain rfl := (Prod.mk.inj hpoll).1
          refine ⟨⟨skipped ++ [event], ?_, by rwa [← List.append_assoc]⟩, .inl ?_⟩
          · intro x hx
            rcases List.mem_append.mp hx with hx | hx
            · exact hskipped x hx
            · rw [List.mem_singleton.mp hx]
              exact Bool.eq_false_of_not_eq_true hstops
          · simp only [Link.toDo]
            omega
      · have ht' : t' = t.move service turn := by
          cases turn with
          | answer => exact absurd rfl hanswer
          | closed => exact absurd rfl hregular
          | _ => exact (Prod.mk.inj hpoll).1.symm
        subst ht'
        refine ⟨⟨skipped, hskipped, ht.move turn⟩, ?_⟩
        rcases ht.toDo_move hserves hmore hanswer with hlower | ⟨hsame, hne⟩
        · exact .inl hlower
        · exact .inr ⟨by rw [hsame], hne, by rw [hsame]⟩
    · rintro t turn t' e ht hregular hpoll
      cases turn with
      | closed => exact hregular rfl
      | answer =>
        dsimp only at hpoll
        split at hpoll
        · cases hpoll
        · split_ifs at hpoll <;> cases (Prod.mk.inj hpoll).2
      | _ => cases hpoll
  exact (hreturns.ensures (ensures_receiveUntil h stops)).mono fun _ _ ht => ht.2

/-! ## The whole of a stream -/

/-- Nothing is wrong with a stream: its session is created, its chunks are accepted and have some
audio, and every transcription succeeds. -/
def Acceptable (service : Service) (config : StreamConfig) (chunks : List Bytes) : Prop :=
  chunks.flatten ≠ [] ∧ ∀ streamId, ∃ session,
    createStreamSession service.config config.asPayload streamId = .ok session ∧
      Accepts service session config.sendBinaryFrames chunks

/-- A stream that goes well: what its session is, and what the server is sent. -/
structure GoesWell (service : Service) (base : LegacyConn) (session : StreamSession)
    (config : StreamConfig) (chunks : List Bytes) : Prop where
  listens : base.pc = .receiving
  idle : base.session = none
  created : createStreamSession service.config config.asPayload base.nextStreamId = .ok session
  accepts : Accepts service session config.sendBinaryFrames chunks
  audio : chunks.flatten ≠ []

/-- Fewer chunks are accepted as well. -/
lemma Accepts.of_first {binary : Bool} {past : List Bytes}
    (h : Accepts service session binary chunks)
    (hpast : past <+: chunks) : Accepts service session binary past := by
  obtain ⟨rest, rfl⟩ := hpast
  induction rest using List.reverseRecOn with
  | nil => rwa [List.append_nil] at h
  | append_singleton rest chunk ih =>
    rw [← List.append_assoc] at h
    exact ih h.of_concat

/-- The server streams after the opening. -/
lemma GoesWell.streams (h : GoesWell service base session config chunks) {past : List Bytes}
    (hpast : past <+: chunks) :
    Streams service base session config.sendBinaryFrames past
      (service.takeAll base (opening config past)) :=
  (takeAll_opening h.listens h.idle h.created past).resolve_right fun hfailed =>
    hfailed.2 (h.accepts.of_first hpast)

/-- The server has written the final event after the script. -/
lemma GoesWell.ended (h : GoesWell service base session config chunks) :
    Ended service base session config.sendBinaryFrames chunks
      (service.takeAll base (script config chunks)) :=
  (takeAll_script h.listens h.idle h.created chunks).resolve_right fun hfailed =>
    hfailed.2 ⟨h.accepts, h.audio⟩

/-- The server serves the whole script. -/
lemma GoesWell.serves (h : GoesWell service base session config chunks)
    (hmessages : messages <+: script config chunks) : Serves service base messages := by
  intro delivered hdelivered
  rcases prefix_script (hdelivered.trans hmessages) with rfl | ⟨past, hpast, rfl⟩ | rfl
  · exact h.listens
  · exact (h.streams hpast).listens
  · exact h.ended.listens

/-- What the client reads before the stop message is interim events. -/
lemma GoesWell.events_interims (hwell : GoesWell service base session config chunks)
    {past : List Bytes} (hpast : past <+: chunks) {events : List LegacyEvent}
    (h : link.At service base (opening config past) (.ready session :: events)) :
    events <+: interims service session past := by
  have hfirst := h.events_written
  rw [(hwell.streams hpast).sent] at hfirst
  exact (List.cons_prefix_cons.mp ((List.prefix_append_right_inj _).mp hfirst)).2

/-- An interim event as the client reads it. -/
lemma type_of_mem_interims {event : LegacyEvent} (h : event ∈ interims service session chunks) :
    (read service.names event).type = "partial" := by
  obtain ⟨s, result, rfl⟩ := eq_of_mem_interims h
  exact type_read ..

/-- A final event as the client reads it. -/
lemma isFinal_read (names : BackendNames) (s : StreamSession) (result : Transcript) :
    (read names (.transcript "final" s result)).isFinal = true := by
  obtain ⟨text, language, backend, model⟩ := result
  cases text <;> cases backend <;> cases model <;> rfl

/-- The loop of `transcribe_once`. -/
lemma returns_transcribeChunks (past rest : List Bytes)
    (hwell : GoesWell service base session config (past ++ rest)) {events : List LegacyEvent}
    (h : link.At service base (opening config past) (.ready session :: events)) (chunkIndex : ℕ)
    (results : List TranscriptEvent) :
    (transcribeChunks service config chunkIndex rest results).Returns Turn.Regular Turn.Regular
      link fun results _ => ∃ event ∈ results, event.isFinal = true := by
  induction rest generalizing past events link chunkIndex results with
  | nil =>
    rw [List.append_nil] at hwell
    refine returns_bind (returns_bind ((returns_send h stopMessage).mono fun _ t ht => ?_))
    obtain ⟨s, result, last, count, ms, -, -, hsent⟩ := hwell.ended.sent
    refine (returns_receiveUntil ht (hwell.serves (List.prefix_refl _)) _ ?_).mono ?_
    · -- the final event comes, and no interim event is it
      intro skipped hskipped
      refine ⟨.transcript "final" s result, ?_, by rw [type_read]; rfl⟩
      have hevents : events ++ skipped = interims service session past ++
          [.transcript "final" s result] := by
        simpa using hskipped.symm.trans hsent
      have hmem : .transcript "final" s result ∈ events ++ skipped := by
        rw [hevents]
        simp
      refine (List.mem_append.mp hmem).resolve_left fun hinterim => ?_
      have hevents := hwell.events_interims (List.prefix_refl _) h
      have htype : "final" = "partial" :=
        (type_read ..).symm.trans (type_of_mem_interims (hevents.mem hinterim))
      exact absurd htype (by decide)
    · rintro _ t' ⟨skipped, event, rfl, hstops, -, ht'⟩
      refine returns_pure ⟨_, List.mem_append_right _ (List.mem_singleton.mpr rfl), ?_⟩
      have hfirst := ht'.events_written
      rw [show opening config past ++ [stopMessage] = script config past from rfl, hsent] at hfirst
      have hevents : events ++ skipped ++ [event] <+: interims service session past ++
          [.transcript "final" s result] := by
        have hall : base.sent ++ .ready session :: (events ++ skipped ++ [event]) <+:
            base.sent ++ .ready session :: (interims service session past ++
              [.transcript "final" s result]) := by
          simpa using hfirst
        exact (List.cons_prefix_cons.mp ((List.prefix_append_right_inj _).mp hall)).2
      rcases List.mem_append.mp (hevents.mem (List.mem_append_right _
        (List.mem_singleton.mpr rfl))) with hinterim | hfinal
      · rw [type_of_mem_interims hinterim] at hstops
        exact absurd hstops (by decide)
      · rw [List.mem_singleton.mp hfinal]
        exact isFinal_read ..
  | cons chunk rest ih =>
    have hsplit : past ++ chunk :: rest = past ++ [chunk] ++ rest := by simp
    rw [hsplit] at hwell
    refine returns_bind ((returns_send h _).mono fun _ t ht => ?_)
    rw [← opening_concat] at ht
    split_ifs with hdue
    · exact ih (past ++ [chunk]) hwell ht _ _
    · refine returns_bind ((returns_receiveOptionalEvent ht).mono ?_)
      rintro _ t' (⟨rfl, ht'⟩ | ⟨last, rfl, ht'⟩)
      · exact ih (past ++ [chunk]) hwell ht' _ _
      · dsimp only
        split_ifs with herror
        · have hevents := hwell.events_interims (List.prefix_append _ _) ht'
          rw [type_of_mem_interims (hevents.mem (List.mem_append_right _
            (List.mem_singleton.mpr rfl)))] at herror
          exact absurd herror (by decide)
        · exact ih (past ++ [chunk]) hwell ht' _ _

/-- `transcribe_once`. -/
lemma returns_transcribeOnce (hwell : GoesWell service base session config chunks)
    (h : link.At service base [] []) :
    (transcribeOnce service config chunks).Returns Turn.Regular Turn.Regular link
      fun results _ => ∃ event ∈ results, event.isFinal = true := by
  refine returns_bind (returns_bind ((returns_send h (startMessage config)).mono fun _ t ht => ?_))
  have hsent := (hwell.streams List.nil_prefix).sent
  have hinterims : interims service session [] = [] := rfl
  have hserves : Serves service base [startMessage config] :=
    hwell.serves (List.cons_prefix_cons.mpr ⟨rfl, ⟨_, rfl⟩⟩)
  refine (returns_receiveUntil ht hserves _ ?_).mono ?_
  · intro skipped hskipped
    have hevents : skipped = [.ready session] := by
      simpa [hinterims] using hskipped.symm.trans hsent
    rw [hevents]
    exact ⟨_, List.mem_singleton.mpr rfl, rfl⟩
  · rintro _ t' ⟨skipped, event, rfl, -, hskipped, ht'⟩
    have hnone : skipped = [] := by
      cases skipped with
      | nil => rfl
      | cons x skipped => cases hskipped x (List.mem_cons_self ..)
    subst hnone
    have hfirst := ht'.events_written
    rw [show [] ++ [startMessage config] = opening config [] from rfl, hsent] at hfirst
    obtain rfl : event = .ready session := by simpa [hinterims] using hfirst
    exact returns_transcribeChunks [] chunks hwell ht' 1 _

/-- All the streams. -/
lemma returns_transcribeEach (h : link.Fresh base) (streams : List (StreamConfig × List Bytes))
    (hall : ∀ stream ∈ streams, Acceptable service stream.1 stream.2) :
    (transcribeEach service streams).Returns Turn.Regular Turn.Regular link fun results _ =>
      ∀ events ∈ results, ∃ event ∈ events, event.isFinal = true := by
  induction streams generalizing link base with
  | nil => exact returns_pure (by simp)
  | cons stream streams ih =>
    obtain ⟨config, chunks⟩ := stream
    obtain ⟨haudio, hsessions⟩ := hall (config, chunks) (List.mem_cons_self ..)
    obtain ⟨session, hcreated, haccepts⟩ := hsessions base.nextStreamId
    have hwell : GoesWell service base session config chunks :=
      ⟨h.listens, h.idle, hcreated, haccepts, haudio⟩
    refine returns_bind (((returns_transcribeOnce hwell h.at).ensures
      (ensures_transcribed h config chunks)).mono ?_)
    rintro results t ⟨⟨event, hevent, hfinal⟩, -, ⟨hnone, -⟩ | ⟨-, next, hfresh, -⟩⟩
    · rw [hnone event hevent] at hfinal
      cases hfinal
    · refine returns_bind ((ih hfresh fun stream hstream =>
        hall stream (List.mem_cons_of_mem _ hstream)).mono fun others _ hothers => returns_pure ?_)
      intro events hevents
      rcases List.mem_cons.mp hevents with rfl | hevents
      · exact ⟨event, hevent, hfinal⟩
      · exact hothers events hevents

/-- **Every stream returns.**  When nothing is wrong with the streams, the calls return on every
fair schedule without a loss of the connection, and each of them with a final event. -/
theorem transcribeEach_completes (service : Service) (streams : List (StreamConfig × List Bytes))
    (hall : ∀ stream ∈ streams, Acceptable service stream.1 stream.2) {schedule : ℕ → Turn}
    (hfair : Fair Turn.Regular Turn.Regular schedule) :
    ∃ n results t, transcribeEach service streams {} (firstTurns schedule n) = .done results t [] ∧
      TranscribedEach service 1 streams results ∧
      ∀ events ∈ results, ∃ event ∈ events, event.isFinal = true := by
  have hfresh : ({} : Link).Fresh {} := ⟨rfl, rfl, rfl, rfl, rfl⟩
  obtain ⟨n, results, t, hafter, hfinal, hresults⟩ :=
    ((returns_transcribeEach hfresh streams hall).ensures
      (ensures_transcribeEach hfresh streams)) schedule hfair
  have hrun := hafter []
  rw [List.append_nil] at hrun
  exact ⟨n, results, t, hrun, hresults, hfinal⟩

/-- The turns one after the other. -/
def roundRobin (k : ℕ) : Turn :=
  match k % 4 with
  | 0 => .deliver
  | 1 => .written
  | 2 => .answer
  | _ => .timeout

/-- Each regular turn comes in every round. -/
lemma fair_roundRobin : Fair Turn.Regular Turn.Regular roundRobin := by
  constructor
  · intro turn hturn n
    have hround : ∀ i < 4, ∃ k, (n + k) % 4 = i := fun i hi =>
      ⟨(4 - n % 4) + i, by omega⟩
    cases turn with
    | deliver =>
      obtain ⟨k, hk⟩ := hround 0 (by decide)
      exact ⟨k, by simp only [roundRobin, hk]⟩
    | written =>
      obtain ⟨k, hk⟩ := hround 1 (by decide)
      exact ⟨k, by simp only [roundRobin, hk]⟩
    | answer =>
      obtain ⟨k, hk⟩ := hround 2 (by decide)
      exact ⟨k, by simp only [roundRobin, hk]⟩
    | timeout =>
      obtain ⟨k, hk⟩ := hround 3 (by decide)
      exact ⟨k, by simp only [roundRobin, hk]⟩
    | closed => exact absurd rfl hturn
  · intro n
    unfold Turn.Regular roundRobin
    split <;> simp

/-- Nothing is wrong with the two streams. -/
lemma acceptable_exampleStreams :
    ∀ stream ∈ exampleStreams, Acceptable exampleService stream.1 stream.2 := by
  have hrate : ∃ rate, intToFloat 16000 = .ok rate := ⟨16000, by decide +kernel⟩
  simp only [exampleStreams, List.forall_mem_cons, List.not_mem_nil, false_imp_iff, implies_true,
    and_true]
  refine ⟨⟨by decide, fun streamId => ?_⟩, ⟨by decide, fun streamId => ?_⟩⟩
  · rw [createStreamSession_asPayload]
    have hfits : ([[1, 0], [2, 0]] : List Bytes).flatten.length ≤ 1048576 := by decide
    exact ⟨_, rfl, ⟨⟨by decide, hfits⟩, fun audio => ⟨_, rfl⟩, hrate⟩⟩
  · rw [createStreamSession_asPayload]
    have hfits : ([[3, 0]] : List Bytes).flatten.length ≤ 1048576 := by decide
    exact ⟨_, rfl, ⟨⟨by decide, hfits⟩, fun audio => ⟨_, rfl⟩, hrate⟩⟩

/-- The two streams return. -/
theorem transcribeEach_completes_twoStreams : ∃ n results t,
    transcribeEach exampleService exampleStreams {} (firstTurns roundRobin n) =
      .done results t [] ∧
    TranscribedEach exampleService 1 exampleStreams results ∧
    ∀ events ∈ results, ∃ event ∈ events, event.isFinal = true :=
  transcribeEach_completes exampleService exampleStreams acceptable_exampleStreams fair_roundRobin

end RtcAsr.Streaming
