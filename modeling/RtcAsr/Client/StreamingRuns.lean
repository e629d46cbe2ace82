import RtcAsr.Client.ServedScript

/-!
# What a stream of the client returns

In every run of `transcribe_once` the server has taken in some of the messages sent so far, in their
order, and the client has read some of the events written so far, in their order (`Link.At`).  So
what the client returns is a function of the chunks and of how many interim events it read in time:
`transcribeOnce_returns` says that it is the ready event, the first interim events, and an error
event or the final event with the transcription of all the chunks.
-/

namespace RtcAsr.Streaming

open Routine

/-! ## Where a connection stands -/

/-- The server has taken in some of the messages, the others are on their way; and the client has
read some of the events. -/
structure Link.At (service : Service) (base : LegacyConn) (messages : List WebSocketMessage)
    (events : List LegacyEvent) (link : Link) : Prop where
  taken : ∃ delivered, messages = delivered ++ link.outbox ∧
    settled link.server = service.takeAll base delivered
  unread : ∃ unread, link.server.sent = base.sent ++ events ++ unread
  eventsRead : link.eventsRead = (base.sent ++ events).length

variable {service : Service} {base : LegacyConn} {messages : List WebSocketMessage}
  {events : List LegacyEvent} {link : Link}

/-- What the server writes is appended to what it wrote. -/
lemma sent_prefix_raise {l l' : LegacyConn} (h : l'.sent = l.sent) (e : Exn) :
    l.sent <+: (l'.raise e).sent := by
  obtain ⟨-, new, -, hraise⟩ := settled_raise l' e
  rw [sent_settled, h] at hraise
  exact ⟨new, hraise.symm⟩

/-- The audio branch. -/
lemma sent_prefix_audio (l : LegacyConn) (transcribe : Bytes → Except Exn Transcript)
    (s : StreamSession) (chunk : Bytes) : l.sent <+: (l.audio transcribe s chunk).sent := by
  unfold LegacyConn.audio
  split
  · exact sent_prefix_raise (by rfl) _
  · dsimp only
    split
    · exact List.prefix_refl _
    · split
      · exact sent_prefix_raise (by rfl) _
      · split
        · exact sent_prefix_raise (by rfl) _
        · split
          · exact List.prefix_refl _
          · exact List.prefix_append _ _

/-- The stop branch. -/
lemma sent_prefix_stop (l : LegacyConn) (transcribe : Bytes → Except Exn Transcript)
    (s : StreamSession) : l.sent <+: (l.stop transcribe s).sent := by
  unfold LegacyConn.stop
  split
  · exact sent_prefix_raise (by rfl) _
  · split
    · exact sent_prefix_raise (by rfl) _
    · dsimp only
      split <;> exact List.prefix_append _ _

/-- The handler. -/
lemma sent_prefix_handle (config : LegacyConfig) (l : LegacyConn)
    (transcribe : Bytes → Except Exn Transcript) (payload : LegacyPayload) :
    l.sent <+: (l.handle config transcribe payload).sent := by
  unfold LegacyConn.handle
  split
  · split
    · exact sent_prefix_raise (by rfl) _
    · exact sent_prefix_audio l _ _ _
  · split
    · split
      · exact sent_prefix_raise (by rfl) _
      · split
        · exact sent_prefix_raise (by rfl) _
        · exact List.prefix_append _ _
    · split
      · split
        · exact sent_prefix_raise (by rfl) _
        · split
          · exact sent_prefix_raise (by rfl) _
          · exact sent_prefix_audio l _ _ _
      · split
        · split
          · exact sent_prefix_raise (by rfl) _
          · exact sent_prefix_stop l _ _
        · split
          · split
            · exact sent_prefix_raise (by rfl) _
            · exact List.prefix_append _ _
          · exact sent_prefix_raise (by rfl) _

/-- A message. -/
lemma sent_prefix_receive {l l' : LegacyConn} {message : WebSocketMessage}
    (h : service.receive l message = some l') : l.sent <+: l'.sent := by
  have hlistens : l.pc = .receiving := by
    by_contra hpc
    rw [receive_of_not_receiving hpc] at h
    cases h
  rw [receive_of_receiving hlistens] at h
  obtain rfl := Option.some.inj h
  split
  · exact sent_prefix_raise (by rfl) _
  · exact sent_prefix_handle _ l _ _

/-- A server whose write ended has no write to end. -/
lemma settled_settled (l : LegacyConn) : settled (settled l) = settled l := by
  unfold settled
  cases hpc : l.pc <;> simp only [hpc]

/-- A turn of the server: nothing happens, a message is taken in, or a write ends. -/
lemma Link.move_cases (service : Service) (link : Link) (turn : Turn) :
    link.move service turn = link ∨
    (turn = .deliver ∧ ∃ message outbox server, link.outbox = message :: outbox ∧
      service.receive link.server message = some server ∧
      link.move service turn = { link with server := server, outbox := outbox }) ∨
    (turn = .written ∧ link.move service turn = { link with server := settled link.server }) := by
  cases turn with
  | deliver =>
    cases houtbox : link.outbox with
    | nil => exact .inl (by simp only [Link.move, houtbox])
    | cons message outbox =>
      cases hreceive : service.receive link.server message with
      | none => exact .inl (by simp only [Link.move, houtbox, hreceive])
      | some server =>
        refine .inr (.inl ⟨rfl, message, outbox, server, rfl, hreceive, ?_⟩)
        simp only [Link.move, houtbox, hreceive]
  | written =>
    cases hpc : link.server.pc with
    | receiving => exact .inl (by simp only [Link.move, LegacyConn.step, hpc])
    | sending =>
      exact .inr (.inr ⟨rfl, by simp only [Link.move, LegacyConn.step, hpc, settled]⟩)
    | sendingError =>
      exact .inr (.inr ⟨rfl, by simp only [Link.move, LegacyConn.step, hpc, settled]⟩)
    | finished => exact .inl (by simp only [Link.move, LegacyConn.step, hpc])
  | answer => exact .inl rfl
  | timeout => exact .inl rfl
  | closed => exact .inl rfl

/-- A turn of the server. -/
lemma Link.At.move (h : link.At service base messages events) (turn : Turn) :
    (link.move service turn).At service base messages events := by
  obtain ⟨delivered, hmessages, hserver⟩ := h.taken
  obtain ⟨unread, hunread⟩ := h.unread
  rcases Link.move_cases service link turn with
    hmove | ⟨-, message, outbox, server, houtbox, hreceive, hmove⟩ | ⟨-, hmove⟩ <;> rw [hmove]
  · exact h
  · have hlistens : link.server.pc = .receiving := by
      by_contra hpc
      rw [receive_of_not_receiving hpc] at hreceive
      cases hreceive
    obtain ⟨new, hnew⟩ := sent_prefix_receive hreceive
    refine ⟨⟨delivered ++ [message], ?_, ?_⟩, ⟨unread ++ new, ?_⟩, h.eventsRead⟩
    · rw [hmessages, houtbox, List.append_assoc]
      rfl
    · rw [takeAll_concat, ← hserver, settled_of_receiving hlistens, Service.take, hreceive]
    · rw [← List.append_assoc, ← hunread, hnew]
  · refine ⟨⟨delivered, hmessages, ?_⟩, ⟨unread, ?_⟩, h.eventsRead⟩
    · rw [settled_settled, hserver]
    · rw [sent_settled, hunread]

/-- What the client reads next is the first event it has not read. -/
lemma Link.At.nextEvent (h : link.At service base messages events) :
    link.nextEvent service = none ∨ ∃ event,
      link.nextEvent service = some (read service.names event) ∧
        ({ link with eventsRead := link.eventsRead + 1 } : Link).At service base messages
          (events ++ [event]) := by
  obtain ⟨unread, hunread⟩ := h.unread
  unfold Link.nextEvent
  rw [h.eventsRead, hunread, List.getElem?_append_right le_rfl, Nat.sub_self]
  cases unread with
  | nil => exact .inl rfl
  | cons event unread =>
    refine .inr ⟨event, rfl, h.taken, ⟨unread, ?_⟩, ?_⟩
    · simp [hunread]
    · simp
      omega

/-! ## The operations of the client -/

/-- A condition for a return only. -/
def returning {α : Type} (P : α → Link → Prop) : Post Link ClientExn α where
  done := P
  raised := fun _ _ => True
  suspended := fun _ => True

/-- A message is sent, while the server goes on. -/
lemma ensures_send {I : Link → Prop} (hmove : ∀ t turn, I t → I (t.move service turn))
    {message : WebSocketMessage} (h : I { link with outbox := link.outbox ++ [message] }) :
    (send service message).Ensures link (returning fun _ t => I t) := by
  refine ensures_bind (ensures_modify ?_)
  refine ensures_await (I := I) h ?_ ?_ (fun _ _ _ _ _ _ => trivial) fun _ _ => trivial
  · intro t turn t' ht hpoll
    cases turn with
    | answer => cases hpoll
    | closed => cases hpoll
    | _ =>
      obtain rfl := (Prod.mk.inj hpoll).1
      exact hmove _ _ ht
  · intro t turn t' a ht hpoll
    cases turn with
    | answer =>
      obtain rfl := (Prod.mk.inj hpoll).1
      exact ht
    | _ => cases hpoll

/-- One message more is on its way. -/
lemma ensures_send_at (h : link.At service base messages events) (message : WebSocketMessage) :
    (send service message).Ensures link
      (returning fun _ t => t.At service base (messages ++ [message]) events) := by
  obtain ⟨delivered, hmessages, hserver⟩ := h.taken
  exact ensures_send (fun t turn ht => ht.move turn)
    ⟨⟨delivered, by rw [hmessages, List.append_assoc], hserver⟩, h.unread, h.eventsRead⟩

/-- Events are read until one is to stop at. -/
lemma ensures_receiveUntil (h : link.At service base messages events)
    (stops : TranscriptEvent → Bool) :
    (receiveUntil service stops).Ensures link (returning fun event t => ∃ skipped last,
      event = read service.names last ∧ stops event = true ∧
        (∀ x ∈ skipped, stops (read service.names x) = false) ∧
        t.At service base messages (events ++ skipped ++ [last])) := by
  refine ensures_await (I := fun t => ∃ skipped,
    (∀ x ∈ skipped, stops (read service.names x) = false) ∧
      t.At service base messages (events ++ skipped)) ⟨[], by simp, by simpa using h⟩
    ?_ ?_ ?_ fun _ _ => trivial
  · rintro t turn t' ⟨skipped, hskipped, ht⟩ hpoll
    cases turn with
    | answer =>
      rcases ht.nextEvent with hnone | ⟨event, hevent, hread⟩
      · rw [hnone] at hpoll
        obtain rfl := (Prod.mk.inj hpoll).1
        exact ⟨skipped, hskipped, ht⟩
      · rw [hevent] at hpoll
        dsimp only at hpoll
        split_ifs at hpoll with hstops
        · cases (Prod.mk.inj hpoll).2
        obtain rfl := (Prod.mk.inj hpoll).1
        refine ⟨skipped ++ [event], ?_, by rwa [← List.append_assoc]⟩
        intro x hx
        rcases List.mem_append.mp hx with hx | hx
        · exact hskipped x hx
        · rw [List.mem_singleton.mp hx]
          exact Bool.eq_false_of_not_eq_true hstops
    | closed => cases hpoll
    | _ =>
      obtain rfl := (Prod.mk.inj hpoll).1
      exact ⟨skipped, hskipped, ht.move _⟩
  · rintro t turn t' a ⟨skipped, hskipped, ht⟩ hpoll
    cases turn with
    | answer =>
      rcases ht.nextEvent with hnone | ⟨event, hevent, hread⟩
      · rw [hnone] at hpoll
        cases hpoll
      · rw [hevent] at hpoll
        dsimp only at hpoll
        split_ifs at hpoll with hstops
        · obtain ⟨rfl, ha⟩ := Prod.mk.inj hpoll
          obtain rfl := Except.ok.inj (Option.some.inj ha)
          exact ⟨skipped, event, rfl, hstops, hskipped, hread⟩
        · cases (Prod.mk.inj hpoll).2
    | _ => cases hpoll
  · intro t turn t' e ht hpoll
    trivial

/-- An event is read in time, or not. -/
lemma ensures_receiveOptionalEvent (h : link.At service base messages events) :
    (receiveOptionalEvent service).Ensures link (returning fun event t =>
      event = none ∧ t.At service base messages events ∨
        ∃ last, event = some (read service.names last) ∧
          t.At service base messages (events ++ [last])) := by
  refine ensures_await (I := fun t => t.At service base messages events) h ?_ ?_ ?_
    fun _ _ => trivial
  · intro t turn t' ht hpoll
    cases turn with
    | answer =>
      rcases ht.nextEvent with hnone | ⟨event, hevent, hread⟩
      · rw [hnone] at hpoll
        obtain rfl := (Prod.mk.inj hpoll).1
        exact ht
      · rw [hevent] at hpoll
        cases hpoll
    | timeout => cases hpoll
    | closed => cases hpoll
    | _ =>
      obtain rfl := (Prod.mk.inj hpoll).1
      exact ht.move _
  · intro t turn t' a ht hpoll
    cases turn with
    | answer =>
      rcases ht.nextEvent with hnone | ⟨event, hevent, hread⟩
      · rw [hnone] at hpoll
        cases hpoll
      · rw [hevent] at hpoll
        obtain ⟨rfl, ha⟩ := Prod.mk.inj hpoll
        obtain rfl := Except.ok.inj (Option.some.inj ha)
        exact .inr ⟨event, rfl, hread⟩
    | timeout =>
      obtain ⟨rfl, ha⟩ := Prod.mk.inj hpoll
      obtain rfl := Except.ok.inj (Option.some.inj ha)
      exact .inl ⟨rfl, ht⟩
    | _ => cases hpoll
  · intro t turn t' e ht hpoll
    trivial

/-! ## The whole of a stream -/

variable {config : StreamConfig} {chunks : List Bytes} {session : StreamSession}

/-- The client has stopped at an event that is no interim one; those it skipped are. -/
structure Stopped (service : Service) (base : LegacyConn) (config : StreamConfig)
    (chunks : List Bytes) (results : List TranscriptEvent) (t : Link) : Prop where
  reads : ∃ messages events skipped last, messages <+: script config chunks ∧ events ≠ [] ∧
    results = (events ++ [last]).map (read service.names) ∧
    (∀ x ∈ skipped, (read service.names x).type = "partial") ∧
    (read service.names last).type ≠ "partial" ∧
    t.At service base messages (events ++ skipped ++ [last])

/-- The opening of some of the chunks comes first in the script. -/
lemma opening_first (config : StreamConfig) (past rest : List Bytes) :
    opening config past <+: script config (past ++ rest) := by
  simp only [script, opening, List.map_append, List.cons_append, List.append_assoc]
  rw [← List.cons_append]
  exact List.prefix_append _ _

/-- The loop of `transcribe_once`. -/
lemma ensures_transcribeChunks (past rest : List Bytes) {events : List LegacyEvent}
    (hevents : events ≠ []) (h : link.At service base (opening config past) events)
    (chunkIndex : ℕ) :
    (transcribeChunks service config chunkIndex rest (events.map (read service.names))).Ensures link
      (returning fun results t => Stopped service base config (past ++ rest) results t) := by
  induction rest generalizing past events link chunkIndex with
  | nil =>
    refine ensures_bind (ensures_bind ((ensures_send_at h stopMessage).mono (fun _ t ht => ?_)
      (fun _ _ _ => trivial) fun _ _ => trivial))
    refine (ensures_receiveUntil ht fun event => event.type != "partial").mono ?_
      (fun _ _ _ => trivial) fun _ _ => trivial
    rintro _ t' ⟨skipped, last, rfl, hlast, hskipped, ht'⟩
    refine ensures_pure ⟨_, events, skipped, last, List.prefix_refl _, hevents, ?_, ?_, ?_, ?_⟩
    · rw [List.map_append]
      rfl
    · intro x hx
      simpa using hskipped x hx
    · simpa using hlast
    · rw [List.append_nil]
      exact ht'
  | cons chunk rest ih =>
    have hsplit : past ++ chunk :: rest = past ++ [chunk] ++ rest := by simp
    rw [hsplit]
    refine ensures_bind ((ensures_send_at h _).mono (fun _ t ht => ?_)
      (fun _ _ _ => trivial) fun _ _ => trivial)
    rw [← opening_concat] at ht
    dsimp only
    split_ifs with hdue
    · exact ih (past ++ [chunk]) hevents ht _
    · refine ensures_bind ((ensures_receiveOptionalEvent ht).mono ?_
        (fun _ _ _ => trivial) fun _ _ => trivial)
      rintro _ t' (⟨rfl, ht'⟩ | ⟨last, rfl, ht'⟩)
      · exact ih (past ++ [chunk]) hevents ht' _
      · dsimp only
        split_ifs with herror
        · refine ensures_pure ⟨_, events, [], last, opening_first config (past ++ [chunk]) rest,
            hevents, ?_, by simp, ?_, ?_⟩
          · rw [List.map_append]
            rfl
          · rw [herror]
            decide
          · rwa [List.append_nil]
        · have hmore := ih (past ++ [chunk]) (by simp : events ++ [last] ≠ []) ht'
            (chunkIndex + 1)
          rwa [List.map_append] at hmore

/-- `transcribe_once` from a connection on which all is read and nothing is on its way. -/
lemma ensures_transcribeOnce (h : link.At service base [] []) (chunks : List Bytes) :
    (transcribeOnce service config chunks).Ensures link
      (returning fun results t => Stopped service base config chunks results t) := by
  refine ensures_bind (ensures_bind
    ((ensures_send_at h (startMessage config)).mono (fun _ t ht => ?_)
    (fun _ _ _ => trivial) fun _ _ => trivial))
  refine (ensures_receiveUntil ht fun _ => true).mono ?_ (fun _ _ _ => trivial) fun _ _ => trivial
  rintro _ t' ⟨skipped, last, rfl, -, hskipped, ht'⟩
  have hnone : skipped = [] := by
    cases skipped with
    | nil => rfl
    | cons x skipped => cases hskipped x (List.mem_cons_self ..)
  subst hnone
  exact ensures_transcribeChunks [] chunks (by simp : [last] ≠ []) ht' 1

/-! ## What the server wrote -/

/-- The first messages of a script. -/
lemma prefix_script {messages : List WebSocketMessage} (h : messages <+: script config chunks) :
    messages = [] ∨ (∃ past, past <+: chunks ∧ messages = opening config past) ∨
      messages = script config chunks := by
  rcases List.prefix_concat_iff.mp h with hall | hopening
  · exact .inr (.inr hall)
  · cases messages with
    | nil => exact .inl rfl
    | cons message messages =>
      obtain ⟨rfl, hrest⟩ := List.cons_prefix_cons.mp hopening
      obtain ⟨past, hpast, rfl⟩ := List.prefix_map_iff.mp hrest
      exact .inr (.inl ⟨past, hpast, rfl⟩)

/-- A server that is finished stays as it is. -/
lemma takeAll_finished {l : LegacyConn} (h : l.pc = .finished) (messages : List WebSocketMessage) :
    service.takeAll l messages = l := by
  have htake : ∀ message, service.take l message = l := fun message => by
    rw [Service.take, receive_of_not_receiving (by rw [h]; decide)]
  induction messages with
  | nil => rfl
  | cons message messages ih => rw [Service.takeAll, List.foldl_cons, htake, ← Service.takeAll, ih]

/-- **What the server wrote** when it took in the first messages of a script: an error at most; or
the ready event, interim events and an error at most; or, at the end of the script, all events. -/
lemma sent_of_first (hlistens : base.pc = .receiving) (hnone : base.session = none)
    (h : messages <+: script config chunks) :
    (∃ new, AtMostAnError new ∧ (service.takeAll base messages).sent = base.sent ++ new) ∨
    ∃ session, createStreamSession service.config config.asPayload base.nextStreamId = .ok session ∧
      ((∃ partials new, partials <+: interims service session chunks ∧ AtMostAnError new ∧
          (new ≠ [] → (service.takeAll base messages).pc = .finished) ∧
          (service.takeAll base messages).sent = base.sent ++ .ready session :: partials ++ new) ∨
        messages = script config chunks ∧
          Ended service base session config.sendBinaryFrames chunks
            (service.takeAll base messages)) := by
  cases hcreated : createStreamSession service.config config.asPayload base.nextStreamId with
  | error e =>
    left
    cases messages with
    | nil => exact ⟨[], .inl rfl, (List.append_nil _).symm⟩
    | cons message messages =>
      obtain ⟨rfl, -⟩ := List.cons_prefix_cons.mp h
      obtain ⟨hpc, new, hnew, hsent⟩ := settled_raise base e
      refine ⟨new, hnew, ?_⟩
      rw [Service.takeAll, List.foldl_cons, ← Service.takeAll,
        show service.take base (startMessage config) = settled (base.raise e) by
          rw [take_start hlistens hnone, hcreated], takeAll_finished hpc, hsent]
  | ok session =>
    rcases prefix_script h with rfl | ⟨past, ⟨rest, rfl⟩, rfl⟩ | rfl
    · exact .inl ⟨[], .inl rfl, (List.append_nil _).symm⟩
    · refine .inr ⟨session, rfl, .inl ?_⟩
      have hmore := interims_append service session past rest
      rcases takeAll_opening hlistens hnone hcreated past with hstreams | ⟨hfailed, -⟩
      · exact ⟨_, [], hmore, .inl rfl, fun h => absurd rfl h,
          by rw [hstreams.sent, List.append_nil]⟩
      · obtain ⟨partials, new, hpartials, hnew, hsent⟩ := hfailed.sent
        exact ⟨partials, new, hpartials.trans hmore, hnew, fun _ => hfailed.finished, hsent⟩
    · refine .inr ⟨session, rfl, ?_⟩
      rcases takeAll_script hlistens hnone hcreated chunks with hended | ⟨hfailed, -⟩
      · exact .inr ⟨rfl, hended⟩
      · obtain ⟨partials, new, hpartials, hnew, hsent⟩ := hfailed.sent
        exact .inl ⟨partials, new, hpartials, hnew, fun _ => hfailed.finished, hsent⟩

/-- The types of the events the client reads. -/
lemma type_read (names : BackendNames) (event : LegacyEvent) : (read names event).type =
    match event with
    | .ready _ => "ready"
    | .transcript eventType _ _ => eventType
    | .canceled _ => "canceled"
    | .error _ _ => "error" := by
  cases event with
  | ready session => rfl
  | transcript eventType session result =>
    obtain ⟨text, language, backend, model⟩ := result
    cases text <;> cases backend <;> cases model <;> rfl
  | canceled session => rfl
  | error message code => rfl

/-- Where an element stands that is none of the first ones, when one element at most comes after
them. -/
lemma append_cons_eq {α : Type} {xs ys zs new : List α} {a : α}
    (h : xs ++ a :: ys = zs ++ new) (ha : a ∉ zs) (hnew : new.length ≤ 1) :
    xs = zs ∧ ys = [] ∧ new = [a] := by
  rcases List.append_eq_append_iff.mp h with ⟨as, rfl, hrest⟩ | ⟨bs, rfl, rfl⟩
  · cases as with
    | nil =>
      rw [List.nil_append] at hrest
      subst hrest
      have hys : ys = [] := List.length_eq_zero_iff.mp (by simpa using hnew)
      exact ⟨(List.append_nil _).symm, hys, by rw [hys]⟩
    | cons b as =>
      obtain ⟨rfl, -⟩ := List.cons.inj hrest
      exact absurd (by simp) ha
  · have hlength : bs.length + (ys.length + 1) ≤ 1 := by simpa using hnew
    have hbs : bs = [] := List.length_eq_zero_iff.mp (by omega)
    have hys : ys = [] := List.length_eq_zero_iff.mp (by omega)
    subst hbs hys
    exact ⟨List.append_nil _, rfl, rfl⟩

/-- One error event at most is one event at most. -/
lemma AtMostAnError.length_le {new : List LegacyEvent} (h : AtMostAnError new) :
    new.length ≤ 1 := by
  obtain rfl | ⟨message, code, rfl⟩ := h
  · exact Nat.zero_le _
  · exact le_rfl

/-- The client has read all that the server wrote, and the server listens for the next stream. -/
structure Link.Fresh (base : LegacyConn) (link : Link) : Prop where
  server : settled link.server = base
  listens : base.pc = .receiving
  idle : base.session = none
  outbox : link.outbox = []
  eventsRead : link.eventsRead = base.sent.length

/-- A connection on which nothing is on its way. -/
lemma Link.Fresh.at (h : link.Fresh base) : link.At service base [] [] where
  taken := ⟨[], by rw [h.outbox, List.append_nil], h.server⟩
  unread := ⟨[], by rw [← h.server, sent_settled, List.append_nil, List.append_nil]⟩
  eventsRead := by rw [h.eventsRead, List.append_nil]

/-- The client has read all that the server wrote, and the server listens no more. -/
structure Link.Dead (link : Link) : Prop where
  finished : (settled link.server).pc = .finished
  eventsRead : link.eventsRead = link.server.sent.length

/-- The final event for some chunks. -/
def finalEvent (session : StreamSession) (chunks : List Bytes) (result : Transcript) :
    TranscriptEvent :=
  .fromPayload (streamEvent "final" (afterChunks session chunks) result)

/-- **What a stream returned.**  The ready event, interim events, and an error event or the final
one; and after the final event the connection is as it was. -/
lemma Stopped.result {results : List TranscriptEvent} {t : Link}
    (h : Stopped service base config chunks results t)
    (hlistens : base.pc = .receiving) (hnone : base.session = none) :
    ∃ session partials last,
      createStreamSession service.config config.asPayload base.nextStreamId = .ok session ∧
      results = read service.names (.ready session) :: partials ++ [last] ∧
      partials <+: (interims service session chunks).map (read service.names) ∧
      (last.type = "error" ∧ last.isFinal = false ∧ t.Dead ∨ ∃ result next,
        Taken session config.sendBinaryFrames chunks ∧ chunks.flatten ≠ [] ∧
          session.decode service.transcriber chunks.flatten = .ok result ∧
          last = finalEvent session chunks result ∧ t.Fresh next ∧
          next.nextStreamId = base.nextStreamId + 1) := by
  obtain ⟨messages, events, skipped, last, hfirst, hne, rfl, hskipped, hlast, hat⟩ := h.reads
  obtain ⟨delivered, hmessages, hserver⟩ := hat.taken
  obtain ⟨unread, hunread⟩ := hat.unread
  obtain ⟨first, events, rfl⟩ := List.exists_cons_of_ne_nil hne
  rw [← sent_settled, hserver, List.append_assoc] at hunread
  have hdelivered : delivered <+: script config chunks :=
    (hmessages ▸ List.prefix_append _ _).trans hfirst
  rcases sent_of_first hlistens hnone hdelivered with
    ⟨new, hnew, hsent⟩ | ⟨session, hcreated,
      ⟨partials, new, hpartials, hnew, hfinished, hsent⟩ | ⟨hall, hended⟩⟩
  · have hevents := List.append_cancel_left (hunread.symm.trans hsent)
    have hlength := hnew.length_le
    rw [← hevents] at hlength
    simp at hlength
  · have hevents := List.append_cancel_left
      (hunread.symm.trans (hsent.trans (List.append_assoc ..)))
    obtain ⟨rfl, hrest⟩ : first = .ready session ∧
        (events ++ skipped) ++ last :: unread = partials ++ new := by simpa using hevents
    have hnot : last ∉ partials := fun hmem => by
      obtain ⟨s, result, rfl⟩ := eq_of_mem_interims (hpartials.mem hmem)
      exact hlast (type_read ..)
    obtain ⟨rfl, rfl, rfl⟩ := append_cons_eq hrest hnot hnew.length_le
    have hdead : t.Dead := by
      refine ⟨hserver ▸ hfinished (List.cons_ne_nil _ _), ?_⟩
      rw [hat.eventsRead, ← sent_settled t.server, hserver, hunread, List.append_nil]
    obtain hnil | ⟨message, code, hlast'⟩ := hnew
    · cases hnil
    · obtain ⟨rfl, -⟩ := List.cons.inj hlast'
      refine ⟨session, events.map (read service.names), read service.names (.error message code),
        hcreated, by simp, ?_, .inl ⟨type_read .., rfl, hdead⟩⟩
      exact ((List.prefix_append _ _).trans hpartials).map _
  · obtain ⟨s, result, record, count, ms, rfl, hdecode, hsent⟩ := hended.sent
    have hevents := List.append_cancel_left
      (hunread.symm.trans (hsent.trans (List.append_assoc ..)))
    obtain ⟨rfl, hrest⟩ : first = .ready session ∧
        (events ++ skipped) ++ last :: unread = interims service session chunks ++
          [.transcript "final" (withRecord (afterChunks session chunks) record count ms)
            result] := by simpa using hevents
    have hnot : last ∉ interims service session chunks := fun hmem => by
      obtain ⟨s, result, rfl⟩ := eq_of_mem_interims hmem
      exact hlast (type_read ..)
    obtain ⟨hread, rfl, hfinal⟩ := append_cons_eq hrest hnot le_rfl
    obtain ⟨rfl, -⟩ := List.cons.inj hfinal
    refine ⟨session, events.map (read service.names), finalEvent session chunks result, hcreated,
      by simp; rfl, ?_, .inr ⟨result, settled t.server, hended.taken, hended.audio, hdecode, rfl,
        ⟨rfl, ?_, ?_, ?_, ?_⟩, ?_⟩⟩
    · rw [← hread]
      exact (List.prefix_append _ _).map _
    · rw [hserver]
      exact hended.listens
    · rw [hserver]
      exact hended.idle
    · have hlength := hfirst.length_le
      rw [hmessages, hall, List.length_append] at hlength
      exact List.length_eq_zero_iff.mp (by omega)
    · rw [hat.eventsRead, hserver, hunread, List.append_nil]
    · rw [hserver]
      exact hended.nextStreamId

/-! ## Streams on one connection -/

/-- What the client returns for a stream: the ready event, interim events in their order, and an
error event or the final one, with the transcription of all the chunks. -/
structure Transcribed (service : Service) (streamId : ℕ) (config : StreamConfig)
    (chunks : List Bytes) (results : List TranscriptEvent) : Prop where
  events : ∃ session partials last,
    createStreamSession service.config config.asPayload streamId = .ok session ∧
    results = read service.names (.ready session) :: partials ++ [last] ∧
    partials <+: (interims service session chunks).map (read service.names) ∧
    (last.type = "error" ∧ last.isFinal = false ∨ ∃ result,
      Taken session config.sendBinaryFrames chunks ∧ chunks.flatten ≠ [] ∧
      service.transcriber chunks.flatten config.language config.sampleRate = .ok result ∧
        last = finalEvent session chunks result)

/-- The calls of `transcribe_once` on one connection, one after the other. -/
def transcribeEach (service : Service) :
    List (StreamConfig × List Bytes) → ClientTask (List (List TranscriptEvent))
  | [] => pure []
  | (config, chunks) :: streams => do
    let results ← transcribeOnce service config chunks
    let others ← transcribeEach service streams
    return results :: others

/-- A turn of a server that listens no more. -/
lemma Link.Dead.move (h : link.Dead) (turn : Turn) : (link.move service turn).Dead := by
  rcases Link.move_cases service link turn with
    hmove | ⟨-, message, outbox, server, houtbox, hreceive, hmove⟩ | ⟨-, hmove⟩
  · rwa [hmove]
  · have hpc : link.server.pc ≠ .receiving := fun hpc => by
      have hfinished := h.finished
      rw [settled_of_receiving hpc, hpc] at hfinished
      cases hfinished
    rw [receive_of_not_receiving hpc] at hreceive
    cases hreceive
  · rw [hmove]
    exact ⟨by rw [settled_settled, h.finished], by rw [sent_settled, h.eventsRead]⟩

/-- On such a connection no stream is started. -/
lemma ensures_transcribeOnce_dead (h : link.Dead) (chunks : List Bytes) :
    (transcribeOnce service config chunks).Ensures link (returning fun _ _ => False) := by
  have hsend : (send service (startMessage config)).Ensures link (returning fun _ t => t.Dead) :=
    ensures_send (fun t turn ht => ht.move turn) ⟨h.finished, h.eventsRead⟩
  refine ensures_bind (ensures_bind (hsend.mono (fun _ t ht => ?_) (fun _ _ _ => trivial)
    fun _ _ => trivial))
  have hnone : ∀ u : Link, u.Dead → u.nextEvent service = none := fun u hu => by
    rw [Link.nextEvent, hu.eventsRead, List.getElem?_eq_none le_rfl]
    rfl
  refine ensures_await (I := Link.Dead) ht ?_ ?_ (fun _ _ _ _ _ _ => trivial) fun _ _ => trivial
  · intro u turn u' hu hpoll
    cases turn with
    | answer =>
      rw [hnone u hu] at hpoll
      obtain rfl := (Prod.mk.inj hpoll).1
      exact hu
    | closed => cases hpoll
    | _ =>
      obtain rfl := (Prod.mk.inj hpoll).1
      exact hu.move _
  · intro u turn u' a hu hpoll
    cases turn with
    | answer =>
      rw [hnone u hu] at hpoll
      cases hpoll
    | _ => cases hpoll

/-- A final event is final. -/
lemma isFinal_finalEvent (session : StreamSession) (chunks : List Bytes) (result : Transcript) :
    (finalEvent session chunks result).isFinal = true := by
  obtain ⟨text, language, backend, model⟩ := result
  cases text <;> cases backend <;> cases model <;> rfl

/-- A ready event is not. -/
lemma isFinal_ready (names : BackendNames) (session : StreamSession) :
    (read names (.ready session)).isFinal = false := by
  obtain ⟨_, _, _, _, _, _, window, buffer, _⟩ := session
  cases window <;> cases buffer <;> rfl

/-- An interim event is not. -/
lemma isFinal_interim {event : TranscriptEvent}
    (h : event ∈ (interims service session chunks).map (read service.names)) :
    event.isFinal = false := by
  obtain ⟨interim, hinterim, rfl⟩ := List.mem_map.mp h
  obtain ⟨s, result, rfl⟩ := eq_of_mem_interims hinterim
  obtain ⟨text, language, backend, model⟩ := result
  cases text <;> cases backend <;> cases model <;> rfl

/-- A stream on a connection that is as it was. -/
lemma ensures_transcribed (h : link.Fresh base) (config : StreamConfig) (chunks : List Bytes) :
    (transcribeOnce service config chunks).Ensures link (returning fun results t =>
      Transcribed service base.nextStreamId config chunks results ∧
        ((∀ event ∈ results, event.isFinal = false) ∧ t.Dead ∨
          (∃ event ∈ results, event.isFinal = true) ∧ ∃ next, t.Fresh next ∧
            next.nextStreamId = base.nextStreamId + 1)) := by
  refine (ensures_transcribeOnce h.at chunks).mono ?_ (fun _ _ _ => trivial) fun _ _ => trivial
  intro results t hstopped
  obtain ⟨session, partials, last, hcreated, rfl, hpartials, hlast⟩ :=
    hstopped.result h.listens h.idle
  rcases hlast with ⟨herror, hlast, hdead⟩ | 
    ⟨result, next, htaken, haudio, hdecode, rfl, hfresh, hnext⟩
  · refine ⟨⟨session, partials, last, hcreated, rfl, hpartials, .inl ⟨herror, hlast⟩⟩,
      .inl ⟨?_, hdead⟩⟩
    intro event hevent
    rcases List.mem_append.mp hevent with hfirst | hevent
    · rcases List.mem_cons.mp hfirst with rfl | hpartial
      · exact isFinal_ready ..
      · exact isFinal_interim (hpartials.mem hpartial)
    · rw [List.mem_singleton.mp hevent]
      exact hlast
  · obtain ⟨-, hlanguage, hrate⟩ := created_settings hcreated
    rw [StreamSession.decode, hlanguage, hrate] at hdecode
    refine ⟨⟨session, partials, _, hcreated, rfl, hpartials,
      .inr ⟨result, htaken, haudio, hdecode, rfl⟩⟩, .inr ⟨?_, next, hfresh, hnext⟩⟩
    exact ⟨finalEvent session chunks result, by simp, isFinal_finalEvent ..⟩

/-- Each stream has what it should, and all but the last one ended with a final event. -/
def TranscribedEach (service : Service) (streamId : ℕ) (streams : List (StreamConfig × List Bytes))
    (results : List (List TranscriptEvent)) : Prop :=
  List.Forall₂ (fun stream events => Transcribed service stream.2 stream.1.1 stream.1.2 events)
      (streams.zipIdx streamId) results ∧
    ∀ events ∈ results.dropLast, ∃ event ∈ events, event.isFinal = true

/-- All the streams. -/
lemma ensures_transcribeEach (h : link.Fresh base) (streams : List (StreamConfig × List Bytes)) :
    (transcribeEach service streams).Ensures link (returning fun results _ =>
      TranscribedEach service base.nextStreamId streams results) := by
  induction streams generalizing link base with
  | nil => exact ensures_pure ⟨.nil, by simp⟩
  | cons stream streams ih =>
    obtain ⟨config, chunks⟩ := stream
    refine ensures_bind ((ensures_transcribed h config chunks).mono ?_ (fun _ _ _ => trivial)
      fun _ _ => trivial)
    rintro results t ⟨hresults, ⟨-, hdead⟩ | ⟨hfinal, next, hfresh, hnext⟩⟩
    · -- an error ended the connection, so this was the last stream
      cases streams with
      | nil => exact ensures_pure ⟨.cons hresults .nil, by simp⟩
      | cons stream streams =>
        refine ensures_bind ((ensures_bind ((ensures_transcribeOnce_dead hdead stream.2).mono
          (fun _ _ hfalse => hfalse.elim) (fun _ _ _ => trivial) fun _ _ => trivial)))
    · refine ensures_bind ((ih hfresh).mono (fun others u hothers => ensures_pure ?_)
        (fun _ _ _ => trivial) fun _ _ => trivial)
      rw [hnext] at hothers
      refine ⟨.cons hresults hothers.1, ?_⟩
      intro events hevents
      cases others with
      | nil => cases hevents
      | cons other others =>
        rcases List.mem_cons.mp hevents with rfl | hevents
        · exact hfinal
        · exact hothers.2 events hevents

/-- **What the client returns.**  Whatever the order of the server's turns, the timeouts and the
reads of the client: each stream that returned has the ready event of its own session, the first
interim events in their order, and an error event or the final one, with the transcription of all
its chunks; and only the last one can have ended with an error. -/
theorem transcribeEach_returns (service : Service) (streams : List (StreamConfig × List Bytes))
    {turns rest : List Turn} {results : List (List TranscriptEvent)} {t : Link}
    (hrun : transcribeEach service streams {} turns = .done results t rest) :
    TranscribedEach service 1 streams results := by
  have hfresh : ({} : Link).Fresh {} := ⟨rfl, rfl, rfl, rfl, rfl⟩
  have hends : Meets _ (transcribeEach service streams {} turns) :=
    ensures_transcribeEach hfresh streams turns
  rw [hrun] at hends
  exact hends

/-- A service that tells how many bytes it was given. -/
def exampleService : Service :=
  { names := { backendName := "count", modelName := "bytes" }, transcriber := countBytes }

/-- Two chunks with an interim result after the second one, and one chunk. -/
def exampleStreams : List (StreamConfig × List Bytes) :=
  [({ partialIntervalChunks := 2 }, [[1, 0], [2, 0]]), ({ sendBinaryFrames := true }, [[3, 0]])]

/-- Two streams; the second one's interim event is not read in time. -/
theorem transcribeEach_returns_twoStreams : ∃ results,
    TranscribedEach exampleService 1 exampleStreams results ∧
      results.map (·.map (·.text)) = [["", "4", "4"], ["", "2"]] := by
  have hdone : ((transcribeEach exampleService exampleStreams {}
      ((List.replicate 9 [.deliver, .written, .answer]).flatten ++
        [.answer, .timeout, .answer] ++
        (List.replicate 4 [.deliver, .written, .answer]).flatten)).done?.map fun end_ =>
          end_.1.map (·.map (·.text))) = some [["", "4", "4"], ["", "2"]] := by
    decide +kernel
  obtain ⟨⟨results, t, rest⟩, hend, htexts⟩ := Option.map_eq_some_iff.mp hdone
  exact ⟨results, transcribeEach_returns exampleService exampleStreams
    (Outcome.eq_done_of_done? hend), htexts⟩

end RtcAsr.Streaming
