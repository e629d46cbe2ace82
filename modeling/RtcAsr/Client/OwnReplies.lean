import RtcAsr.Client.ReplyPath
import RtcAsr.Server.AutoFinal
import RtcAsr.Server.Delivery

/-!
# Client calls and their replies

A waiting call takes the next event of the server.  In every run each call returns its own reply,
and takes no other event, exactly when every call is made with all events read, and the server
writes no transcript, no warning and no error before the reply and drops neither the request nor the
reply (`own_replies_iff`).
-/

namespace RtcAsr

namespace ClientWorld

/-! ## The law and its condition -/

/-- The replies that are on their way: to be read, owed by the server, or asked for by a message
that the server has not received. -/
def onTheWay (w : ClientWorld) : List Reply :=
  w.unread.filterMap Event.reply? ++ (w.server.owed ++ w.outbox.filterMap ClientEvent.reply?)

/-- The calls that ended returned their own replies and took no other event; the reply of a waiting
call is on its way, and no event is before it. -/
structure OwnReplies (w : ClientWorld) : Prop where
  returned : ∀ p ∈ w.returned, p.2.reply? = some p.1.reply
  failed : w.failed = []
  next : ∀ call, w.call = some call → ∀ e, w.unread.head? = some e → e.reply? = some call.reply
  underWay : ∀ call, w.call = some call → w.onTheWay = [call.reply]

/-- A step of the server writes the replies it owed, or goes on to owe them. -/
def KeepsReplies (c c' : Conn) : Prop :=
  (c'.sent.drop c.sent.length).filterMap Event.reply? ++ c'.owed = c.owed

/-- A call is made when all events are read; while it waits, the server writes nothing but replies
before its reply, and drops no reply. -/
def Undisturbed (env : ServerEnv) (w : ClientWorld) : ClientAct → Prop
  | .call _ => w.unread = []
  | .server a => ∀ call, w.call = some call → ∀ server, w.server.step env a = some server →
    (w.unread = [] → ∀ e, server.sent = w.server.sent ++ [e] → e.reply?.isSome = true) ∧
      KeepsReplies w.server server
  | _ => True

/-- Only the reply of the waiting call is on its way. -/
structure Routed (w : ClientWorld) : Prop where
  phase : w.server.Phase
  read_le : w.read ≤ w.server.sent.length
  underWay : w.onTheWay.Sublist (w.call.map ClientCall.reply).toList

variable {env : ServerEnv} {transport : ClientTransport} {w w' : ClientWorld}

/-! ## The steps -/

/-- A call that takes its own reply returns it. -/
lemma finish_of_reply {call : ClientCall} {e : Event} (h : e.reply? = some call.reply) :
    call.finish transport e = .ok e := by
  cases call <;> cases e <;> first | rfl | cases h

/-- Nothing is on its way for an idle client. -/
lemma Routed.onTheWay_eq_nil (hw : w.Routed) (h : w.call = none) : w.onTheWay = [] := by
  have hsub := hw.underWay
  rw [h] at hsub
  exact List.sublist_nil.mp hsub

/-- Only the reply of the waiting call is on its way. -/
lemma Routed.eq_of_mem (hw : w.Routed) {call : ClientCall} (h : w.call = some call) {k : Reply}
    (hk : k ∈ w.onTheWay) : k = call.reply := by
  have hmem := hw.underWay.subset hk
  rw [h] at hmem
  exact List.mem_singleton.mp hmem

/-- A step of the server. -/
lemma Routed.server_step (hw : w.Routed) (hlaw : w.OwnReplies) {a : Act} {server : Conn}
    (ha : ∀ e, a ≠ .receive (.ok e)) (h : w.server.step env a = some server) :
    Routed { w with server := server } ∧
      (OwnReplies { w with server := server } ↔ Undisturbed env w (.server a)) := by
  obtain ⟨new, hsent, hlength, hsub⟩ := Conn.step_yields hw.phase ha h
  have hunread : ({ w with server := server } : ClientWorld).unread = w.unread ++ new := by
    show server.sent.drop w.read = w.server.sent.drop w.read ++ new
    rw [hsent, List.drop_append_of_le_length hw.read_le]
  have hunderWay : ({ w with server := server } : ClientWorld).onTheWay =
      w.unread.filterMap Event.reply? ++ ((new.filterMap Event.reply? ++ server.owed) ++
        w.outbox.filterMap ClientEvent.reply?) := by
    rw [onTheWay, hunread, List.filterMap_append]
    simp only [List.append_assoc]
  have hkeeps : KeepsReplies w.server server ↔
      new.filterMap Event.reply? ++ server.owed = w.server.owed := by
    rw [KeepsReplies, hsent, List.drop_left]
  have hrouted : Routed { w with server := server } := by
    refine ⟨(Conn.step_moves hw.phase (Conn.tasksMeet_true _ a) h).phase, ?_, ?_⟩
    · show w.read ≤ server.sent.length
      rw [hsent, List.length_append]
      exact hw.read_le.trans (Nat.le_add_right _ _)
    · rw [hunderWay]
      exact ((List.Sublist.refl _).append (hsub.append (List.Sublist.refl _))).trans hw.underWay
  refine ⟨hrouted, fun hlaw' call hcall server' hserver' => ?_, fun hundisturbed => ?_⟩
  · obtain rfl : server = server' := Option.some.inj (h.symm.trans hserver')
    refine ⟨fun hnil e he => ?_, hkeeps.mpr ?_⟩
    · obtain rfl : new = [e] := List.append_cancel_left (hsent.symm.trans he)
      have hnext := hlaw'.next call hcall e (by rw [hunread, hnil]; rfl)
      rw [hnext]
      rfl
    · refine hsub.eq_of_length ?_
      have hbefore := congrArg List.length (hlaw.underWay call hcall)
      have hafter := congrArg List.length (hlaw'.underWay call hcall)
      rw [hunderWay] at hafter
      simp only [onTheWay, List.length_append, List.length_singleton] at hbefore hafter ⊢
      omega
  · refine ⟨hlaw.returned, hlaw.failed, fun call hcall e he => ?_, fun call hcall => ?_⟩
    · obtain ⟨hreplies, -⟩ := hundisturbed call hcall server h
      rw [hunread] at he
      cases hw' : w.unread with
      | cons e' rest =>
        rw [hw'] at he
        obtain rfl : e' = e := by simpa using he
        exact hlaw.next call hcall e' (by rw [hw']; rfl)
      | nil =>
        rw [hw', List.nil_append] at he
        obtain ⟨rest, rfl⟩ := List.head?_eq_some_iff.mp he
        obtain rfl : rest = [] := by
          cases rest with
          | nil => rfl
          | cons => simp at hlength
        obtain ⟨k, hk⟩ := Option.isSome_iff_exists.mp (hreplies hw' e hsent)
        have hmem : k ∈ ({ w with server := server } : ClientWorld).onTheWay := by
          rw [hunderWay]
          simp [hk]
        rw [hk, hrouted.eq_of_mem hcall hmem]
    · obtain ⟨-, hkept⟩ := hundisturbed call hcall server h
      rw [hunderWay, hkeeps.mp hkept]
      exact hlaw.underWay call hcall

/-- The server receives a message. -/
lemma Routed.deliver_step (hw : w.Routed) (hlaw : w.OwnReplies) {e : ClientEvent}
    {outbox : List ClientEvent} {server : Conn} (houtbox : w.outbox = e :: outbox)
    (h : w.server.step env (.receive (.ok e)) = some server) :
    Routed { w with server := server, outbox := outbox } ∧
      OwnReplies { w with server := server, outbox := outbox } := by
  obtain ⟨hsent, howed⟩ := Conn.receive_owed h
  have hunread : ({ w with server := server, outbox := outbox } :
      ClientWorld).unread = w.unread := by
    show server.sent.drop w.read = w.server.sent.drop w.read
    rw [hsent]
  have hunderWay : ({ w with server := server, outbox := outbox } : ClientWorld).onTheWay =
      w.onTheWay := by
    rw [onTheWay, onTheWay, hunread]
    show _ ++ (server.owed ++ outbox.filterMap ClientEvent.reply?) = _
    rw [howed, houtbox]
    cases he : e.reply? <;> simp [he]
  refine ⟨⟨(Conn.step_moves hw.phase (Conn.tasksMeet_true _ _) h).phase, ?_, ?_⟩,
    ⟨hlaw.returned, hlaw.failed, ?_, ?_⟩⟩
  · show w.read ≤ server.sent.length
    rw [hsent]
    exact hw.read_le
  · rw [hunderWay]
    exact hw.underWay
  · rw [hunread]
    exact hlaw.next
  · rw [hunderWay]
    exact hlaw.underWay

/-- A call is made. -/
lemma Routed.call_step (hw : w.Routed) (hlaw : w.OwnReplies) (hidle : w.call = none)
    (call : ClientCall) :
    Routed { w with outbox := w.outbox ++ [call.message], call := some call } ∧
      (OwnReplies { w with outbox := w.outbox ++ [call.message], call := some call } ↔
        w.unread = []) := by
  have hnil := hw.onTheWay_eq_nil hidle
  have hmessage : call.message.reply? = some call.reply := by cases call <;> rfl
  have hunderWay : ({ w with outbox := w.outbox ++ [call.message], call := some call } :
      ClientWorld).onTheWay = [call.reply] := by
    have happend : ({ w with outbox := w.outbox ++ [call.message], call := some call } :
        ClientWorld).onTheWay = w.onTheWay ++ [call.reply] := by
      simp [onTheWay, unread, hmessage]
    rw [happend, hnil]
    rfl
  refine ⟨⟨hw.phase, hw.read_le, ?_⟩, fun hlaw' => ?_, fun hread => ?_⟩
  · rw [hunderWay]
    exact List.Sublist.refl _
  · by_contra hne
    obtain ⟨e, rest, he⟩ := List.exists_cons_of_ne_nil hne
    have hreply := hlaw'.next call rfl e ((congrArg List.head? he).trans rfl)
    rw [onTheWay, he] at hnil
    simp [hreply] at hnil
  · refine ⟨hlaw.returned, hlaw.failed, ?_, ?_⟩
    · rintro _ ⟨⟩ e he
      exact absurd ((congrArg List.head? hread).symm.trans he) (by simp)
    · rintro _ ⟨⟩
      exact hunderWay

/-- An idle client writes a message without a reply, or takes an event. -/
lemma Routed.of_idle (hw : w.Routed) (w' : ClientWorld) (hlaw : w.OwnReplies)
    (hidle : w.call = none)
    (hserver : w'.server = w.server) (hcall : w'.call = none)
    (hread : w'.read ≤ w.server.sent.length)
    (hreturned : w'.returned = w.returned) (hfailed : w'.failed = w.failed)
    (hunderWay : w'.onTheWay.Sublist w.onTheWay) : w'.Routed ∧ w'.OwnReplies := by
  rw [hw.onTheWay_eq_nil hidle] at hunderWay
  refine ⟨⟨by rw [hserver]; exact hw.phase, by rw [hserver]; exact hread, ?_⟩, ⟨?_, ?_, ?_, ?_⟩⟩
  · rw [hcall]
    exact hunderWay
  · rw [hreturned]
    exact hlaw.returned
  · rw [hfailed]
    exact hlaw.failed
  · intro call h
    cases hcall.symm.trans h
  · intro call h
    cases hcall.symm.trans h

/-- The events that are left when one is taken. -/
lemma drop_succ_of_unread {e : Event} {rest : List Event} (h : w.unread = e :: rest) :
    w.read < w.server.sent.length ∧ w.server.sent.drop (w.read + 1) = rest := by
  have hlt : w.read < w.server.sent.length := by
    by_contra hle
    rw [unread, List.drop_eq_nil_of_le (not_lt.mp hle)] at h
    cases h
  refine ⟨hlt, ?_⟩
  rw [unread, List.drop_eq_getElem_cons hlt] at h
  exact (List.cons.inj h).2

/-- A waiting call takes its reply. -/
lemma Routed.reply_step (hw : w.Routed) (hlaw : w.OwnReplies) {call : ClientCall} {e : Event}
    {rest : List Event} (hcall : w.call = some call) (hunread : w.unread = e :: rest) :
    (w.finish transport call e).Routed ∧ (w.finish transport call e).OwnReplies := by
  have hreply := hlaw.next call hcall e (by rw [hunread]; rfl)
  obtain ⟨hlt, hrest⟩ := drop_succ_of_unread hunread
  have hnil : rest.filterMap Event.reply? ++
      (w.server.owed ++ w.outbox.filterMap ClientEvent.reply?) = [] := by
    have hunderWay := hlaw.underWay call hcall
    rw [onTheWay, hunread] at hunderWay
    simpa [hreply] using hunderWay
  unfold finish
  rw [finish_of_reply hreply]
  refine ⟨⟨hw.phase, hlt, ?_⟩, ⟨?_, hlaw.failed, by simp, by simp⟩⟩
  · show (List.filterMap _ (w.server.sent.drop (w.read + 1)) ++ _).Sublist _
    rw [hrest, hnil]
    exact List.nil_sublist _
  · intro p hp
    rcases List.mem_append.mp hp with hp | hp
    · exact hlaw.returned p hp
    · obtain rfl := List.mem_singleton.mp hp
      exact hreply

/-- A step of the server that is no receipt. -/
lemma step_server {a : Act} (ha : ∀ e, a ≠ .receive (.ok e)) :
    step env transport w (.server a) =
      (w.server.step env a).map fun server => { w with server := server } := by
  cases a with
  | receive result =>
    cases result with
    | ok e => exact absurd rfl (ha e)
    | error e => rfl
  | _ => rfl

/-- **One step.** A step from a state with the law keeps it exactly when it meets the condition. -/
theorem own_replies_step {a : ClientAct} (hw : w.Routed) (hlaw : w.OwnReplies)
    (h : (clientSession env transport).step w a = some w') :
    w'.Routed ∧ (w'.OwnReplies ↔ Undisturbed env w a) := by
  change step env transport w a = some w' at h
  cases a with
  | server a =>
    have ha : ∀ e, a ≠ .receive (.ok e) := by
      rintro e rfl
      cases h
    rw [step_server ha] at h
    obtain ⟨server, hserver, rfl⟩ := Option.map_eq_some_iff.mp h
    exact hw.server_step hlaw ha hserver
  | deliver =>
    simp only [step] at h
    split at h
    · cases h
    · next e outbox houtbox =>
      obtain ⟨server, hserver, rfl⟩ := Option.map_eq_some_iff.mp h
      obtain ⟨hrouted, hkept⟩ := hw.deliver_step hlaw houtbox hserver
      exact ⟨hrouted, fun _ => trivial, fun _ => hkept⟩
  | call call =>
    simp only [step] at h
    split at h
    · cases h
    · next hidle =>
      split_ifs at h
      cases h
      exact hw.call_step hlaw hidle call
  | notify notice =>
    simp only [step] at h
    split at h
    · cases h
    · next hidle =>
      split_ifs at h
      cases h
      have hmessage : notice.message.reply? = none := by cases notice <;> rfl
      have hkept := hw.of_idle { w with outbox := w.outbox ++ [notice.message] } hlaw hidle
        rfl hidle hw.read_le rfl rfl (by simp [onTheWay, unread, hmessage])
      exact ⟨hkept.1, fun _ => trivial, fun _ => hkept.2⟩
  | recvEvent =>
    simp only [step] at h
    split at h
    · next event rest hidle hunread =>
      split_ifs at h
      cases h
      obtain ⟨hlt, hrest⟩ := drop_succ_of_unread hunread
      have hkept := hw.of_idle
        { w with read := w.read + 1, received := w.received ++ [event] } hlaw hidle rfl hidle
        hlt rfl rfl (by
          rw [onTheWay, onTheWay, hunread]
          refine List.Sublist.append ?_ (List.Sublist.refl _)
          rw [unread, hrest]
          exact (List.sublist_cons_self event rest).filterMap _)
      exact ⟨hkept.1, fun _ => trivial, fun _ => hkept.2⟩
    · cases h
  | reply =>
    simp only [step] at h
    split at h
    · next call event rest hcall hunread =>
      cases h
      obtain ⟨hrouted, hkept⟩ := hw.reply_step hlaw hcall hunread
      exact ⟨hrouted, fun _ => trivial, fun _ => hkept⟩
    · cases h

/-! ## Runs -/

/-- Nothing is asked for in the first state. -/
lemma routed_init : Routed {} :=
  ⟨Conn.phase_init, Nat.le_refl 0, List.Sublist.refl []⟩

/-- The law holds in the first state. -/
lemma ownReplies_init : OwnReplies {} :=
  ⟨by simp, rfl, by simp, by simp⟩

/-- **Calls and their replies.** In a run of a client and its server each call returns its own reply
and takes no other event exactly when every call is made with all events read and, until its reply
is written, the server writes nothing else and drops no reply. -/
theorem own_replies_iff {as : List ClientAct}
    (hrun : (clientSession env transport).run {} as = some w) :
    (clientSession env transport).Throughout OwnReplies {} as ↔
      (clientSession env transport).Along (Undisturbed env) {} as :=
  StepSystem.throughout_iff_along (fun _ _ _ hJ hI h => own_replies_step hJ hI h) routed_init
    ownReplies_init hrun

/-- A test for the condition. -/
def undisturbed (env : ServerEnv) (w : ClientWorld) : ClientAct → Bool
  | .call _ => w.unread.isEmpty
  | .server a =>
    match w.server.step env a with
    | none => true
    | some server =>
      (server.sent.drop w.server.sent.length).all (fun e => e.reply?.isSome) &&
        ((server.sent.drop w.server.sent.length).filterMap Event.reply? ++ server.owed ==
          w.server.owed)
  | _ => true

/-- The test is right. -/
lemma undisturbed_of_test {a : ClientAct} (h : undisturbed env w a = true) :
    Undisturbed env w a := by
  cases a with
  | call call => exact List.isEmpty_iff.mp h
  | server a =>
    intro call hcall server hserver
    simp only [undisturbed, hserver, Bool.and_eq_true, List.all_eq_true, beq_iff_eq] at h
    refine ⟨fun hnil e he => h.1 e ?_, h.2⟩
    rw [he, List.drop_left]
    exact List.mem_singleton_self e
  | _ => trivial

/-- A start and its reply. -/
def startedSession : List ClientAct :=
  [.call (.start .plain), .deliver, .server .wake, .server (.startedDecoder (.ok false)),
    .server (.handlerSent (.ok ())), .reply]

/-- The start returns its reply. -/
theorem own_replies_startedSession :
    (clientSession defaultEnv .rawUds).Throughout OwnReplies {} startedSession := by
  have hrun : ∃ w, (clientSession defaultEnv .rawUds).run {} startedSession = some w := ⟨_, rfl⟩
  obtain ⟨w, hrun⟩ := hrun
  refine (own_replies_iff hrun).mpr ?_
  exact StepSystem.along_of_check (fun _ _ => undisturbed_of_test) (by decide +kernel)

/-- A frame of silence. -/
def oneFrame : Bytes := List.replicate 640 0

lemma valid_oneFrame : validateAudioChunk oneFrame = .ok oneFrame := by
  have hlength : oneFrame.length = 640 := List.length_replicate
  rw [validateAudioChunk, if_neg (List.ne_nil_of_length_eq_add_one hlength), if_neg (by omega)]

/-- A ping while the partial transcript of the active stream is written. -/
def pingAfterPartial : List ClientAct :=
  startedSession ++ [.notify (.sendAudio oneFrame valid_oneFrame), .deliver, .server .wake,
    .server (.task .workerWake), .server (.task (.transcribed (.ok Conn.wordTranscript))),
    .server (.task .senderTake), .call (.ping {}), .reply]

/-- The transcript is taken by the ping, which raises. -/
theorem not_own_replies_pingAfterPartial :
    ¬ ∀ as, (clientSession defaultEnv .webSocket).Throughout OwnReplies {} as := by
  intro hlaw
  have hrun : ∃ w, (clientSession defaultEnv .webSocket).run {} pingAfterPartial = some w ∧
      w.failed.length = 1 :=
    StepSystem.exists_run_of_map (f := fun w : ClientWorld => w.failed.length) (by decide +kernel)
  obtain ⟨w, hrun, hfailed⟩ := hrun
  have hend := (hlaw pingAfterPartial).last hrun
  rw [hend.failed] at hfailed
  cases hfailed

end ClientWorld
end RtcAsr
