import RtcAsr.Client.ConformingClient
import RtcAsr.Client.OwnReplies
import RtcAsr.Server.Dictation

/-!
# From the client to its transcripts

A client and its server, the messages and the events on their way between them, and a deterministic
backend behind the server.  In every run without auto-finalization, a transcript `recv_event`
returns reports the utterance the client wrote under the number of the event's stream, and a final
one all of the audio the client wrote between the start and the `finalize` (`received_report`).
-/

namespace RtcAsr

/-! ## Without auto-finalization no message is lost -/

namespace Conn

variable {env : ServerEnv} {B : DecodeBackend} {c c' : Conn} {a : Act}

/-- The messages the handler acted on are the first ones received. -/
structure InTurn (c : Conn) : Prop where
  settled : c.Settled
  handled : c.handled <+: c.taken
  delivered : c.pc.isOpen = true → c.Delivered

/-- A step that drops no message keeps the messages in turn. -/
lemma InTurn.step (hc : c.InTurn) (hkeeps : ¬ c.DropsMessage a) (h : c.step env a = some c') :
    c'.InTurn := by
  obtain ⟨haccounts, hsettled⟩ := step_accounts hc.settled h
  refine ⟨hsettled, ?_, fun hopen' => ?_⟩
  · cases haccounts with
    | received hheld htaken hhandled =>
      rw [hhandled, htaken]
      exact hc.handled.trans (List.prefix_append _ _)
    | kept htaken hpresent =>
      rw [htaken]
      by_cases hopen : c.pc.isOpen = true
      · rw [hc.delivered hopen, ← hpresent]
        exact List.prefix_append _ _
      · -- nothing is held any more
        have hreceive : c.receive = .absent := by
          refine hc.settled fun hpc => hopen ?_
          rw [hpc]
          rfl
        have hfirst : c'.handled <+: c.handled := by
          refine ⟨c'.receive.held, ?_⟩
          rw [hpresent, hreceive]
          exact List.append_nil _
        exact hfirst.trans hc.handled
    | lost htaken hhandled =>
      rw [hhandled, htaken]
      exact hc.handled
  · have hopen : c.pc.isOpen = true := by
      by_contra hclosed
      have hclosed' := step_isOpen (Bool.eq_false_iff.mpr hclosed) h
      exact absurd (hopen'.symm.trans hclosed') (by simp)
    exact haccounts.delivered (hc.delivered hopen) hkeeps hopen'

/-- The client has not asked for auto-finalization. -/
def Plain (es : List ClientEvent) : Prop :=
  ∀ config, .start config ∈ es → config.finalizeOnStablePartial = false

/-- The utterances of a client that has not asked for auto-finalization. -/
lemma Plain.head {es : List ClientEvent} (h : Plain es) {k : ℕ} {u : Utterance}
    (hu : (utterances es).get? k = some u) : u.head.finalizeOnStablePartial = false := by
  obtain ⟨e, he, hmark⟩ := Sections.exists_opens hu
  cases e with
  | start config =>
    have hhead : config = u.head := Mark.opens.inj hmark
    rw [← hhead]
    exact h config he
  | _ => cases hmark

/-- Without auto-finalization no wake-up finds the worker returned. -/
lemma not_dropsMessage (hphase : c.Phase) (hc : c.Reported B)
    (hheard : ∀ r, c.stream = some r → r.Heard B) (hplain : Plain c.handled)
    (h : c.step env a = some c') : ¬ c.DropsMessage a := by
  intro hdrops
  cases a with
  | wake =>
    obtain ⟨r, hs, hw⟩ := Option.map_eq_some_iff.mp hdrops.1
    simp only [Conn.step] at h
    split at h
    · next hpc =>
      have hfits : r.Active ∧ r.finalizeRequested = false := by
        simpa [Phase, hs, hpc, HandlerPc.Fits] using hphase
      obtain ⟨k, u, hu, hgrows⟩ := hc.stream r hs
      have hauto : r.session.finalizeOnStablePartial = false :=
        hgrows.names.2.2.2.symm.trans (hplain.head hu)
      rcases (hheard r hs).final (hfits.1.returned_iff.mp hw) with hfinal | hfinal
      · exact absurd (hfinal.symm.trans hauto) (by simp)
      · exact absurd (hfinal.symm.trans hfits.2) (by simp)
    · cases h
  | _ => exact hdrops

/-- The server writes at the end of what it has written. -/
lemma step_sent (hphase : c.Phase) (h : c.step env a = some c') : c.sent <+: c'.sent := by
  by_cases ha : ∃ e, a = .receive (.ok e)
  · obtain ⟨e, rfl⟩ := ha
    rw [(receive_owed h).1]
  · obtain ⟨new, hsent, -, -⟩ := step_yields hphase (fun e he => ha ⟨e, he⟩) h
    rw [hsent]
    exact List.prefix_append _ _

end Conn

/-! ## The messages of a client -/

/-- The messages an action of the client writes. -/
def ClientAct.writes : ClientAct → List ClientEvent
  | .call c => [c.message]
  | .notify n => [n.message]
  | _ => []

/-- The messages the client writes in a run. -/
def written (as : List ClientAct) : List ClientEvent := as.flatMap ClientAct.writes

namespace ClientWorld

open Conn

variable {env : ServerEnv} {transport : ClientTransport} {B : DecodeBackend} {w w' : ClientWorld}

/-- The task steps of the server meet `Q`. -/
def ServerMeets (Q : StreamRuntime → StreamAct → Prop) (w : ClientWorld) : ClientAct → Prop
  | .server a => w.server.TasksMeet Q a
  | _ => True

/-- The messages that left the client. -/
def posted (w : ClientWorld) : List ClientEvent := w.server.taken ++ w.outbox

/-- What one step does: a step of the server, or one of the client that leaves the server alone. -/
inductive Stepped (env : ServerEnv) (w : ClientWorld) (a : ClientAct) (w' : ClientWorld) : Prop
  /-- The server takes a step. -/
  | server (b : Act) (hstep : w.server.step env b = some w'.server)
    (hmeets : ∀ Q, w.ServerMeets Q a → w.server.TasksMeet Q b) (hposted : w'.posted = w.posted)
    (hwrites : a.writes = []) (hreceived : w'.received = w.received)
  /-- The client takes a step. -/
  | client (hserver : w'.server = w.server) (hposted : w'.posted = w.posted ++ a.writes)
    (hreceived : ∀ e ∈ w'.received, e ∈ w.received ∨ e ∈ w.server.sent)

/-- The end of a call takes an event, and sends and hands over nothing. -/
lemma finish_same (transport : ClientTransport) (w : ClientWorld) (call : ClientCall)
    (event : Event) :
    (w.finish transport call event).server = w.server ∧
      (w.finish transport call event).posted = w.posted ∧
      (w.finish transport call event).received = w.received := by
  unfold finish
  dsimp only
  cases call.finish transport event with
  | ok reply => exact ⟨rfl, rfl, rfl⟩
  | error e => exact ⟨rfl, rfl, rfl⟩

/-- A step is one of the server or one of the client. -/
lemma stepped {a : ClientAct} (h : (clientSession env transport).step w a = some w') :
    Stepped env w a w' := by
  change step env transport w a = some w' at h
  cases a with
  | server b =>
    have hb : ∀ e, b ≠ .receive (.ok e) := by
      rintro e rfl
      cases h
    rw [step_server hb] at h
    obtain ⟨server, hserver, rfl⟩ := Option.map_eq_some_iff.mp h
    have htaken := (Conn.step_created hb hserver).2
    refine .server b hserver (fun Q hmeets => hmeets) ?_ rfl rfl
    show server.taken ++ w.outbox = w.server.taken ++ w.outbox
    rw [htaken]
  | deliver =>
    simp only [step] at h
    split at h
    · cases h
    · next e outbox houtbox =>
      obtain ⟨server, hserver, rfl⟩ := Option.map_eq_some_iff.mp h
      refine .server _ hserver (fun Q _ => trivial) ?_ rfl rfl
      show server.taken ++ outbox = w.server.taken ++ w.outbox
      simp only [Conn.step] at hserver
      split at hserver <;> cases hserver
      rw [houtbox]
      simp [ReceiveTask.held]
  | call call =>
    simp only [step] at h
    split at h
    · cases h
    · split_ifs at h
      cases h
      exact .client rfl (List.append_assoc _ _ _).symm (fun e he => Or.inl he)
  | notify notice =>
    simp only [step] at h
    split at h
    · cases h
    · split_ifs at h
      cases h
      exact .client rfl (List.append_assoc _ _ _).symm (fun e he => Or.inl he)
  | recvEvent =>
    simp only [step] at h
    split at h
    · next event rest hidle hunread =>
      split_ifs at h
      cases h
      refine .client rfl (List.append_nil _).symm fun e he => ?_
      rcases List.mem_append.mp he with he | he
      · exact Or.inl he
      · have hmem : e ∈ w.unread := by
          rw [hunread]
          exact List.mem_cons.mpr (Or.inl (List.mem_singleton.mp he))
        exact Or.inr (List.mem_of_mem_drop hmem)
    · cases h
  | reply =>
    simp only [step] at h
    split at h
    · next call event rest hcall hunread =>
      cases h
      have hsame := finish_same transport w call event
      obtain ⟨hserver, hposted, hreceived⟩ := hsame
      refine .client hserver (hposted.trans (List.append_nil _).symm) fun e he => Or.inl ?_
      rw [← hreceived]
      exact he
    · cases h

/-- The transcripts of the server report what it handled, it handles the messages of the client in
turn, and the client has its events from the server. -/
structure Faithful (B : DecodeBackend) (w : ClientWorld) : Prop where
  phase : w.server.Phase
  heard : ∀ r, w.server.stream = some r → r.Heard B
  reported : w.server.Reported B
  upToDate : w.server.pc.isOpen = true → w.server.UpToDate
  inTurn : w.server.InTurn
  received : ∀ e ∈ w.received, e ∈ w.server.sent

/-- The messages handled are the first ones that left the client. -/
lemma Faithful.handled_first (hw : w.Faithful B) : w.server.handled <+: w.posted :=
  hw.inTurn.handled.trans (List.prefix_append _ _)

/-- **One step of a client and its server.** -/
theorem Faithful.step {a : ClientAct} (hw : w.Faithful B) (hplain : Plain w.posted)
    (hmeets : w.ServerMeets (StreamRuntime.FollowsBackend B) a)
    (h : (clientSession env transport).step w a = some w') : w'.Faithful B := by
  cases stepped h with
  | server b hstep hb hposted hwrites hreceived =>
    have hhandled : Plain w.server.handled := fun config hconfig =>
      hplain config (hw.handled_first.subset hconfig)
    have hkeeps := not_dropsMessage hw.phase hw.reported hw.heard hhandled hstep
    have hmoves := step_moves hw.phase (hb _ hmeets) hstep
    have hreported := step_reported hw.phase hw.reported hw.upToDate hw.heard hstep
    have hupToDate := step_upToDate hw.phase hw.upToDate hstep
    refine ⟨hmoves.phase, ?_, hreported, hupToDate, hw.inTurn.step hkeeps hstep, fun e he => ?_⟩
    · refine evolves_keeps ?_ (fun _ _ hr h => hr.change h) hmoves.evolves hw.heard
      intro config streamMaxBufferBytes streamId session hsession
      exact StreamRuntime.heard_start (createLocalSttStreamSession_new hsession)
    · rw [hreceived] at he
      exact (step_sent hw.phase hstep).subset (hw.received e he)
  | client hserver hposted hreceived =>
    rw [← hserver] at hreceived
    refine ⟨?_, ?_, ?_, ?_, ?_, fun e he => ?_⟩
    · rw [hserver]
      exact hw.phase
    · rw [hserver]
      exact hw.heard
    · rw [hserver]
      exact hw.reported
    · rw [hserver]
      exact hw.upToDate
    · rw [hserver]
      exact hw.inTurn
    · rcases hreceived e he with he | he
      · rw [hserver]
        exact hw.received e he
      · exact he

/-- The messages that left the client are the ones its run wrote. -/
lemma posted_of_run {as : List ClientAct}
    (hrun : (clientSession env transport).run {} as = some w) : w.posted = written as := by
  induction as using List.reverseRecOn generalizing w with
  | nil =>
    obtain rfl := Option.some.inj hrun
    rfl
  | append_singleton as a ih =>
    obtain ⟨t, hrun, hstep⟩ := StepSystem.run_concat_eq_some.mp hrun
    have hwritten : written (as ++ [a]) = written as ++ a.writes := by
      simp [written, List.flatMap_append]
    rw [hwritten, ← ih hrun]
    cases stepped hstep with
    | server b _ _ hposted hwrites => rw [hposted, hwrites, List.append_nil]
    | client hserver hposted => exact hposted

/-- Messages that ask for no auto-finalization, together. -/
lemma plain_append {es fs : List ClientEvent} (hes : Plain es) (hfs : Plain fs) :
    Plain (es ++ fs) := by
  intro config hconfig
  rcases List.mem_append.mp hconfig with h | h
  · exact hes config h
  · exact hfs config h

/-- One step keeps the messages of the client plain. -/
lemma plain_step {a : ClientAct} (hplain : Plain w.posted) (ha : Plain a.writes)
    (h : (clientSession env transport).step w a = some w') : Plain w'.posted := by
  cases stepped h with
  | server b _ _ hposted =>
    rw [hposted]
    exact hplain
  | client _ hposted =>
    rw [hposted]
    exact plain_append hplain ha

/-- The client and the server of a run. -/
lemma faithful_of_run {as : List ClientAct}
    (hfollows : (clientSession env transport).Along
      (ServerMeets (StreamRuntime.FollowsBackend B)) {} as) (hplain : Plain (written as))
    (hrun : (clientSession env transport).run {} as = some w) : w.Faithful B := by
  have hacts : (clientSession env transport).Along (fun _ a => Plain a.writes) {} as := by
    refine StepSystem.along_of_mem fun a ha _ config hconfig => hplain config ?_
    exact List.mem_flatMap.mpr ⟨a, ha, hconfig⟩
  have hinit : Faithful B {} :=
    { phase := phase_init
      heard := by simp
      reported := ⟨by simp, by simp⟩
      upToDate := fun _ => ⟨rfl, by simp⟩
      inTurn := ⟨settled_init, List.nil_prefix, fun _ => rfl⟩
      received := by simp }
  have hinv := StepSystem.invariant_along (M := clientSession env transport)
    (I := fun w => w.Faithful B ∧ Plain w.posted)
    (fun s a s' hs hC hstep => ⟨hs.1.step hs.2 hC.1 hstep, plain_step hs.2 hC.2 hstep⟩)
    ⟨hinit, fun config hconfig => by cases hconfig⟩ (hfollows.and hacts) hrun
  exact hinv.1

/-- **From the client to its transcripts.** In a run of a client and its server without
auto-finalization, behind which a deterministic backend decodes, every transcript that `recv_event`
returns reports the utterance of its stream among the messages the client wrote; and a final one
reports all of its audio, up to the `finalize` the client wrote. -/
theorem received_report {as : List ClientAct}
    (hfollows : (clientSession env transport).Along
      (ServerMeets (StreamRuntime.FollowsBackend B)) {} as)
    (hplain : ∀ config, .start config ∈ written as → config.finalizeOnStablePartial = false)
    (hrun : (clientSession env transport).run {} as = some w) (e : TranscriptEvent)
    (he : .transcript e ∈ w.received) :
    ∃ k u, (utterances (written as)).get? k = some u ∧ e.Reports B (Utterance.speech u (k + 1)) ∧
      (e.isFinal = true → u.closing = some .finalize ∧ ∃ result,
        (Utterance.speech u (k + 1)).Whole B e.decoderMode result ∧
          e.text = result.strippedText) := by
  have hw := faithful_of_run hfollows hplain hrun
  have hfirst : w.server.handled <+: written as := posted_of_run hrun ▸ hw.handled_first
  obtain ⟨k, u, hu, hreports⟩ := (hw.reported.sent e (hw.received _ he)).mono hfirst
  refine ⟨k, u, hu, hreports, fun hfinal => ?_⟩
  obtain ⟨result, htext, -, hresult⟩ := hreports.result
  rcases hresult with ⟨-, hauto⟩ | ⟨hwhole, -, hfinalized⟩
  · have hhead : u.head.finalizeOnStablePartial = false := Plain.head hplain hu
    exact absurd ((hauto hfinal).symm.trans hhead) (by simp)
  · exact ⟨of_decide_eq_true hfinalized, result, hwhole, htext⟩

/-- The client starts a stream, sends a chunk and a `finalize`, and receives the final transcript.
-/
def oneChunkReceived : List ClientAct :=
  [.call (.start .plain), .deliver, .server .wake, .server (.startedDecoder (.ok false)),
    .server (.handlerSent (.ok ())), .reply, .notify (.sendAudio twoMs rfl), .deliver,
    .server .wake, .notify .finalize, .deliver, .server .wake, .server (.task .workerWake),
    .server (.task (.transcribed (.ok { text := .str "turn" }))), .server (.task .senderTake),
    .recvEvent]

theorem received_report_oneChunkReceived :
    ∃ w e, (clientSession defaultEnv .webSocket).run {} oneChunkReceived = some w ∧
      .transcript e ∈ w.received ∧ e.text = "turn" ∧
      ∃ k u, (utterances (written oneChunkReceived)).get? k = some u ∧
        e.Reports wordBackend (Utterance.speech u (k + 1)) := by
  have hfollows : (clientSession defaultEnv .webSocket).Along
      (ServerMeets (StreamRuntime.FollowsBackend wordBackend)) {} oneChunkReceived := by
    refine .cons trivial rfl (.cons trivial rfl (.cons trivial rfl (.cons trivial rfl ?_)))
    refine .cons trivial rfl (.cons trivial rfl (.cons trivial rfl (.cons trivial rfl ?_)))
    refine .cons trivial rfl (.cons trivial rfl (.cons trivial rfl (.cons trivial rfl ?_)))
    refine .cons (fun _ _ => trivial) rfl (.cons ?_ rfl ?_)
    · rintro _ ⟨⟩
      rfl
    · exact .cons (fun _ _ => trivial) rfl (.cons trivial rfl trivial)
  have hplain : ∀ config, .start config ∈ written oneChunkReceived →
      config.finalizeOnStablePartial = false := by
    intro config hconfig
    have hstart : ClientEvent.start config = .start ClientStart.plain.config := by
      simpa [written, oneChunkReceived, ClientAct.writes, ClientCall.message,
        ClientNotice.message] using hconfig
    rw [ClientEvent.start.inj hstart]
    rfl
  have hrun : ∃ w e, (clientSession defaultEnv .webSocket).run {} oneChunkReceived = some w ∧
      .transcript e ∈ w.received ∧ e.text = "turn" := by
    refine ⟨_, _, rfl, .head _, ?_⟩
    decide +kernel
  obtain ⟨w, e, hrun, he, htext⟩ := hrun
  obtain ⟨k, u, hu, hreports, -⟩ := received_report hfollows hplain hrun e he
  exact ⟨w, e, hrun, he, htext, k, u, hu, hreports⟩

end ClientWorld
end RtcAsr
