import RtcAsr.Bridge.Relay
import Mathlib.Logic.Relation

/-!
# What the relay keeps

An invariant of `RTCASRAudioRelay` with one lemma for each operation on the state, and what each
coroutine ensures.  The audio that a client was sent is within the buffer cap, unless it is a single
chunk; a client's final event is the last of its events that is forwarded; and a coroutine other
than `_send_chunk` leaves the audio alone (`SameAudio`).

`Forwards` is what can happen while a coroutine waits: the receiver task forwards events.
-/

namespace RtcAsr.Bridge

/-! ## The invariant -/

/-- The audio sent to a client stays within the cap, unless it is a single chunk. -/
def AsrClient.Within (config : RelayConfig) (client : AsrClient) : Prop :=
  client.sent = [] ∨
    ∃ cap, maxBufferBytes config client.sampleRate client.numChannels = .ok cap ∧
      (client.sent.length = 1 ∨ client.bytesSent ≤ cap)

/-- A final event is the last one that is forwarded. -/
def AsrClient.FinalLast (client : AsrClient) : Prop :=
  ∀ event ∈ client.forwarded.dropLast, event.isFinal = false

/-- The last event that was forwarded is final. -/
def AsrClient.Finished (client : AsrClient) : Prop :=
  ∃ event, client.forwarded.getLast? = some event ∧ event.isFinal = true

namespace Relay

/-- The clients of a relay, in the order in which they were made. -/
def clients (s : Relay) : List AsrClient := s.formerClients.map Prod.fst ++ s.client.toList

/-- The chunks that were sent, in order. -/
def sends (s : Relay) : List Bytes := s.clients.flatMap (·.sent)

variable (config : RelayConfig)

/-- The final events of the clients. -/
structure Finals (s : Relay) : Prop where
  /-- The receiver task runs until the final event. -/
  waiting : s.receiverTask = some .running → ∀ client, s.client = some client →
    (∀ event ∈ client.forwarded, event.isFinal = false) ∧ s.finalEvent = some .pending
  /-- The result of the future is a final event that was forwarded. -/
  resolved : ∀ client event, s.client = some client → s.finalEvent = some (.result event) →
    client.Finished
  finalLast : ∀ client ∈ s.clients, client.FinalLast

/-- The invariant of a relay. -/
structure Inv (s : Relay) : Prop where
  /-- Without a client nothing is received, and nothing was sent. -/
  quiet : s.client = none → s.receiverTask ≠ some .running ∧ s.utteranceBytesSent = 0
  /-- The fields of the relay are those of its client. -/
  current : ∀ client, s.client = some client →
    s.utteranceBytesSent = client.bytesSent ∧ s.sampleRate = some client.sampleRate ∧
      s.numChannels = some client.numChannels ∧ s.finalEvent ≠ none
  /-- No chunk is empty. -/
  filled : ∀ client ∈ s.clients, [] ∉ client.sent
  within : ∀ client ∈ s.clients, client.Within config
  finals : config.clientClass = .asyncLocalStt → s.Finals

/-- What a coroutine leaves alone when it sends nothing. -/
structure SameAudio (s t : Relay) : Prop where
  buffer : t.buffer = s.buffer
  heard : t.heard = s.heard
  sends : t.sends = s.sends
  raisedCalls : t.raisedCalls = s.raisedCalls

/-- As long as nothing failed, every client that was closed after audio was sent to it had its final
event forwarded. -/
def Complete (s : Relay) : Prop :=
  s.failures = [] → s.raisedCalls = 0 → ∀ client, (client, .closed) ∈ s.formerClients →
    client.sent ≠ [] → client.Finished

variable {config} {s t u : Relay} {sampleRate numChannels : ℤ}

lemma SameAudio.refl (s : Relay) : SameAudio s s := ⟨rfl, rfl, rfl, rfl⟩

lemma SameAudio.trans (h : SameAudio s t) (h' : SameAudio t u) : SameAudio s u :=
  ⟨h'.buffer.trans h.buffer, h'.heard.trans h.heard, h'.sends.trans h.sends,
    h'.raisedCalls.trans h.raisedCalls⟩

/-- Members of the list of clients are former clients or the present one. -/
lemma mem_clients {client : AsrClient} :
    client ∈ s.clients ↔ (∃ ending, (client, ending) ∈ s.formerClients) ∨
      s.client = some client := by
  simp [clients]

/-- Completeness depends on the former clients and the failures. -/
lemma Complete.of_former (h : s.Complete) (hformer : t.formerClients = s.formerClients)
    (hfailures : t.failures = [] → s.failures = []) (hraised : t.raisedCalls = s.raisedCalls) :
    t.Complete := by
  intro hfail hzero client hmem
  rw [hformer] at hmem
  exact h (hfailures hfail) (hraised ▸ hzero) client hmem

/-! ## Forwarding -/

/-- An event is forwarded by the receiver task, or by a client that returns it. -/
inductive Forward (config : RelayConfig) (s : Relay) : Relay → Prop
  | receive (received : Received) : Forward config s (s.receive config received)
  | returned (event : TranscriptEvent) (hclass : config.clientClass ≠ .asyncLocalStt) :
    Forward config s (s.sendTranscriptEvent config event)

/-- What can happen while a coroutine waits. -/
def Forwards (config : RelayConfig) : Relay → Relay → Prop :=
  Relation.ReflTransGen (Forward config)

/-- The future is resolved by an event, or left alone. -/
lemma resolve_cases (s : Relay) (outcome : FinalEvent) :
    s.resolve outcome = { s with finalEvent := some outcome } ∧ s.finalEvent = some .pending ∨
      s.resolve outcome = s ∧ s.finalEvent ≠ some .pending := by
  unfold resolve
  split
  · rename_i h
    exact .inl ⟨rfl, h⟩
  · rename_i h
    exact .inr ⟨rfl, h⟩

/-- What forwarding leaves alone: everything but the messages, the client's events, the future and
the receiver task. -/
structure Forwarded (s t : Relay) : Prop where
  buffer : t.buffer = s.buffer
  heard : t.heard = s.heard
  formerClients : t.formerClients = s.formerClients
  raisedCalls : t.raisedCalls = s.raisedCalls
  sampleRate : t.sampleRate = s.sampleRate
  numChannels : t.numChannels = s.numChannels
  utteranceBytesSent : t.utteranceBytesSent = s.utteranceBytesSent
  failures : t.failures = [] → s.failures = []
  finalEvent : s.finalEvent ≠ none → t.finalEvent ≠ none
  running : t.receiverTask = some .running → s.receiverTask = some .running
  client : ∃ f : List TranscriptEvent → List TranscriptEvent,
    t.client = s.client.map fun client => { client with forwarded := f client.forwarded }

lemma Forwarded.refl (s : Relay) : Forwarded s s where
  buffer := rfl
  heard := rfl
  formerClients := rfl
  raisedCalls := rfl
  sampleRate := rfl
  numChannels := rfl
  utteranceBytesSent := rfl
  failures := id
  finalEvent := id
  running := id
  client := ⟨id, by simp⟩

lemma Forwarded.trans (h : Forwarded s t) (h' : Forwarded t u) : Forwarded s u where
  buffer := h'.buffer.trans h.buffer
  heard := h'.heard.trans h.heard
  formerClients := h'.formerClients.trans h.formerClients
  raisedCalls := h'.raisedCalls.trans h.raisedCalls
  sampleRate := h'.sampleRate.trans h.sampleRate
  numChannels := h'.numChannels.trans h.numChannels
  utteranceBytesSent := h'.utteranceBytesSent.trans h.utteranceBytesSent
  failures := fun hu => h.failures (h'.failures hu)
  finalEvent := fun hs => h'.finalEvent (h.finalEvent hs)
  running := fun hu => h.running (h'.running hu)
  client := by
    obtain ⟨f, hf⟩ := h.client
    obtain ⟨g, hg⟩ := h'.client
    refine ⟨g ∘ f, ?_⟩
    rw [hg, hf, Option.map_map]
    rfl

/-- Forwarding an event. -/
lemma forwarded_sendTranscriptEvent (s : Relay) (event : TranscriptEvent) :
    Forwarded s (s.sendTranscriptEvent config event) where
  buffer := rfl
  heard := rfl
  formerClients := rfl
  raisedCalls := rfl
  sampleRate := rfl
  numChannels := rfl
  utteranceBytesSent := rfl
  failures := id
  finalEvent := id
  running := id
  client := ⟨fun events => events ++ [event], rfl⟩

/-- The receiver task ends, and the future may be resolved. -/
lemma forwarded_return (s : Relay) (outcome : FinalEvent) :
    Forwarded s { s.resolve outcome with receiverTask := some .returned } := by
  rcases resolve_cases s outcome with ⟨h, -⟩ | ⟨h, -⟩ <;> rw [h] <;>
    exact ⟨rfl, rfl, rfl, rfl, rfl, rfl, rfl, id, by simp, by simp, ⟨id, by simp⟩⟩

/-- What the receiver task does with one result of `recv_event`. -/
lemma forwarded_receive (s : Relay) (received : Received) :
    Forwarded s (s.receive config received) := by
  unfold receive
  split_ifs with hrunning
  · cases received with
    | event event =>
      cases event with
      | none => exact .refl s
      | some event =>
        have hsent := @forwarded_sendTranscriptEvent config s event
        simp only [pumpEvent]
        split_ifs
        · exact hsent.trans (forwarded_return _ _)
        · exact hsent.trans (forwarded_return _ _)
        · exact hsent.trans (forwarded_return _ _)
        · exact hsent
    | failed error =>
      exact ⟨rfl, rfl, rfl, rfl, rfl, rfl, rfl, by simp [pumpEvent, sendError], id,
        by simp [pumpEvent], ⟨id, by simp [pumpEvent, sendError]⟩⟩
  · exact .refl s

/-- What waiting leaves alone. -/
lemma Forwards.forwarded (h : Forwards config s t) : Forwarded s t := by
  induction h with
  | refl => exact .refl s
  | tail _ hstep ih =>
    cases hstep with
    | receive received => exact ih.trans (forwarded_receive _ _)
    | returned event hclass => exact ih.trans (forwarded_sendTranscriptEvent _ _)

/-! ## The invariant and the operations -/

/-- The clients after forwarding. -/
lemma Forwarded.mem_clients (h : Forwarded s t) {client : AsrClient} (hmem : client ∈ t.clients) :
    ∃ client' ∈ s.clients, client.sent = client'.sent ∧ client.sampleRate = client'.sampleRate ∧
      client.numChannels = client'.numChannels := by
  obtain ⟨f, hf⟩ := h.client
  rcases Relay.mem_clients.mp hmem with ⟨ending, hmem⟩ | hclient
  · rw [h.formerClients] at hmem
    exact ⟨client, Relay.mem_clients.mpr (.inl ⟨ending, hmem⟩), rfl, rfl, rfl⟩
  · rw [hclient] at hf
    obtain ⟨client', hclient', rfl⟩ := Option.map_eq_some_iff.mp hf.symm
    exact ⟨client', Relay.mem_clients.mpr (.inr hclient'), rfl, rfl, rfl⟩

/-- Forwarding keeps the invariant, but for what it says of the final events. -/
lemma Inv.forwarded (h : Inv config s) (hst : Forwarded s t)
    (hfinals : config.clientClass = .asyncLocalStt → t.Finals) : Inv config t where
  quiet := by
    intro hnone
    obtain ⟨f, hf⟩ := hst.client
    have hs : s.client = none := by
      rw [hf, Option.map_eq_none_iff] at hnone
      exact hnone
    exact ⟨fun hrunning => (h.quiet hs).1 (hst.running hrunning),
      hst.utteranceBytesSent.trans (h.quiet hs).2⟩
  current := by
    intro client hclient
    obtain ⟨f, hf⟩ := hst.client
    rw [hf] at hclient
    obtain ⟨client', hclient', rfl⟩ := Option.map_eq_some_iff.mp hclient
    obtain ⟨hbytes, hrate, hchannels, hfinal⟩ := h.current client' hclient'
    exact ⟨hst.utteranceBytesSent.trans hbytes, hst.sampleRate.trans hrate,
      hst.numChannels.trans hchannels, hst.finalEvent hfinal⟩
  filled := by
    intro client hmem
    obtain ⟨client', hmem', hsent, -, -⟩ := hst.mem_clients hmem
    rw [hsent]
    exact h.filled client' hmem'
  within := by
    intro client hmem
    obtain ⟨client', hmem', hsent, hrate, hchannels⟩ := hst.mem_clients hmem
    unfold AsrClient.Within AsrClient.bytesSent
    rw [hsent, hrate, hchannels]
    exact h.within client' hmem'
  finals := hfinals

/-- The last event of a client that gets one more event. -/
lemma finished_append {client : AsrClient} {event : TranscriptEvent} (h : event.isFinal = true) :
    AsrClient.Finished { client with forwarded := client.forwarded ++ [event] } :=
  ⟨event, by simp, h⟩

/-- An event after events that are not final. -/
lemma finalLast_append {client : AsrClient} {event : TranscriptEvent}
    (h : ∀ event ∈ client.forwarded, event.isFinal = false) :
    AsrClient.FinalLast { client with forwarded := client.forwarded ++ [event] } := by
  intro event' hmem
  rw [List.dropLast_concat] at hmem
  exact h event' hmem

/-- Forwarding an event while the receiver task runs. -/
lemma Finals.clients_sendTranscriptEvent (h : s.Finals) (hrunning : s.receiverTask = some .running)
    (event : TranscriptEvent) :
    ∀ client ∈ (s.sendTranscriptEvent config event).clients, client.FinalLast := by
  intro client hmem
  rcases Relay.mem_clients.mp hmem with ⟨ending, hmem⟩ | hclient
  · exact h.finalLast client (Relay.mem_clients.mpr (.inl ⟨ending, hmem⟩))
  · obtain ⟨client', hclient', rfl⟩ := Option.map_eq_some_iff.mp hclient
    exact finalLast_append (h.waiting hrunning client' hclient').1

/-- Resolving the future leaves the client alone. -/
lemma client_resolve (outcome : FinalEvent) : (s.resolve outcome).client = s.client := by
  rcases resolve_cases s outcome with ⟨h, -⟩ | ⟨h, -⟩ <;> rw [h]

/-- Resolving the future leaves the clients alone. -/
lemma clients_resolve (outcome : FinalEvent) (receiver : Option Receiver) :
    Relay.clients { s.resolve outcome with receiverTask := receiver } = s.clients := by
  rcases resolve_cases s outcome with ⟨h, -⟩ | ⟨h, -⟩ <;> rw [h] <;> rfl

/-- The receiver task ends with an error. -/
lemma Finals.failed {message : String} (hlast : ∀ client ∈ s.clients, client.FinalLast)
    (hpending : ∀ client, s.client = some client → s.finalEvent = some .pending) :
    Finals { s.resolve (.failed message) with receiverTask := some .returned } := by
  refine ⟨by simp, fun client event hclient hevent => ?_, by rwa [clients_resolve]⟩
  rw [client_resolve] at hclient
  rcases resolve_cases s (.failed message) with ⟨hresult, -⟩ | ⟨-, hne⟩
  · rw [hresult] at hevent
    cases hevent
  · exact absurd (hpending client hclient) hne

/-- The receiver task keeps what the invariant says of the final events. -/
lemma Finals.receive (h : s.Finals) (received : Received) : (s.receive config received).Finals := by
  unfold Relay.receive
  split_ifs with hrunning
  case neg => exact h
  case pos =>
    cases received with
    | failed error =>
      exact ⟨by simp [pumpEvent], h.resolved, h.finalLast⟩
    | event event =>
      cases event with
      | none => exact h
      | some event =>
        have hlast := @Finals.clients_sendTranscriptEvent config s h hrunning event
        simp only [pumpEvent]
        -- the future waits as long as the receiver task runs
        have hpending : ∀ client, (s.sendTranscriptEvent config event).client = some client →
            s.finalEvent = some .pending := by
          intro client hclient
          obtain ⟨client', hclient', -⟩ := Option.map_eq_some_iff.mp hclient
          exact (h.waiting hrunning client' hclient').2
        split_ifs with hfinal herror htext
        · refine ⟨by simp, fun client event' hclient _ => ?_, by rwa [clients_resolve]⟩
          rw [client_resolve] at hclient
          obtain ⟨client', -, rfl⟩ := Option.map_eq_some_iff.mp hclient
          exact finished_append hfinal
        · exact Finals.failed hlast hpending
        · exact Finals.failed hlast hpending
        · refine ⟨fun _ client hclient => ⟨?_, hpending client hclient⟩,
            fun client event' hclient hevent => ?_, hlast⟩
          · obtain ⟨client', hclient', rfl⟩ := Option.map_eq_some_iff.mp hclient
            intro event' hmem
            rcases List.mem_append.mp hmem with hmem | hmem
            · exact (h.waiting hrunning client' hclient').1 event' hmem
            · rw [List.mem_singleton.mp hmem]
              exact Bool.not_eq_true _ ▸ hfinal
          · rw [show (s.sendTranscriptEvent config event).finalEvent = s.finalEvent from rfl,
              hpending client hclient] at hevent
            cases hevent

/-- Whatever happens while a coroutine waits, the invariant stays. -/
lemma Inv.forwards (h : Inv config s) (hst : Forwards config s t) : Inv config t := by
  induction hst with
  | refl => exact h
  | tail _ hstep ih =>
    cases hstep with
    | receive received =>
      exact ih.forwarded (forwarded_receive _ _) fun hclass => (ih.finals hclass).receive received
    | returned event hclass =>
      exact ih.forwarded (forwarded_sendTranscriptEvent _ _) fun h => absurd h hclass

/-- A new client. -/
lemma Inv.newClient (h : Inv config s) (hnone : s.client = none) (sampleRate numChannels : ℤ) :
    Inv config (s.newClient sampleRate numChannels) := by
  have hmem : ∀ client ∈ (s.newClient sampleRate numChannels).clients, client ∈ s.clients ∨
      client = { sampleRate := sampleRate, numChannels := numChannels } := by
    intro client hclient
    rcases mem_clients.mp hclient with ⟨ending, hformer⟩ | hnew
    · exact .inl (mem_clients.mpr (.inl ⟨ending, hformer⟩))
    · exact .inr (Option.some.inj hnew).symm
  refine ⟨by simp [Relay.newClient], ?_, ?_, ?_, fun hclass => ⟨?_, ?_, ?_⟩⟩
  · intro client hclient
    obtain rfl := Option.some.inj hclient
    exact ⟨(h.quiet hnone).2, rfl, rfl, by simp [Relay.newClient]⟩
  · intro client hclient
    rcases hmem client hclient with hold | rfl
    · exact h.filled client hold
    · simp
  · intro client hclient
    rcases hmem client hclient with hold | rfl
    · exact h.within client hold
    · exact .inl rfl
  · intro hrunning
    exact absurd hrunning (h.quiet hnone).1
  · intro client event _ hevent
    cases hevent
  · intro client hclient
    rcases hmem client hclient with hold | rfl
    · exact (h.finals hclass).finalLast client hold
    · intro event hevent
      cases hevent

/-- The new client is started, and is received from. -/
lemma Inv.connected (h : Inv config (s.newClient sampleRate numChannels)) :
    Inv config ((s.newClient sampleRate numChannels).connected config sampleRate numChannels) := by
  refine ⟨by simp [Relay.connected, Relay.newClient], h.current, h.filled, h.within,
    fun hclass => ⟨fun _ client hclient => ?_, (h.finals hclass).resolved,
      (h.finals hclass).finalLast⟩⟩
  obtain rfl := Option.some.inj hclient
  exact ⟨by simp, rfl⟩

/-- The receiver task is stopped. -/
lemma Inv.stopReceiver (h : Inv config s) (receiver : Option Receiver)
    (hreceiver : receiver ≠ some .running) : Inv config { s with receiverTask := receiver } :=
  ⟨fun hnone => ⟨hreceiver, (h.quiet hnone).2⟩, h.current, h.filled, h.within, fun hclass =>
    ⟨fun hrunning => absurd hrunning hreceiver, (h.finals hclass).resolved,
      (h.finals hclass).finalLast⟩⟩

/-- The clients stay when one is let go. -/
lemma clients_letGo (s : Relay) (ending : Ending) : (s.letGo ending).clients = s.clients := by
  cases hclient : s.client <;> simp [Relay.clients, Relay.letGo, hclient]

/-- The client is let go. -/
lemma Inv.letGo (h : Inv config s) (hreceiver : s.receiverTask ≠ some .running)
    (ending : Ending) : Inv config { s.letGo ending with utteranceBytesSent := 0 } where
  quiet := fun _ => ⟨hreceiver, rfl⟩
  current := by
    intro client hclient
    cases hclient
  filled := by
    intro client hmem
    exact h.filled client (clients_letGo s ending ▸ hmem)
  within := by
    intro client hmem
    exact h.within client (clients_letGo s ending ▸ hmem)
  finals := fun hclass =>
    ⟨fun hrunning => absurd hrunning hreceiver, by simp [Relay.letGo], fun client hmem =>
      (h.finals hclass).finalLast client (clients_letGo s ending ▸ hmem)⟩

/-- A client that was sent no bytes, but no empty chunk, was sent nothing. -/
lemma sent_eq_nil {client : AsrClient} (hfilled : [] ∉ client.sent)
    (hbytes : client.bytesSent = 0) :
    client.sent = [] := by
  rw [AsrClient.bytesSent, List.length_eq_zero_iff, List.flatten_eq_nil_iff] at hbytes
  by_contra hne
  obtain ⟨chunk, hmem⟩ := List.exists_mem_of_ne_nil _ hne
  exact hfilled (hbytes chunk hmem ▸ hmem)

/-- A chunk was sent that is the first of its client, or fits below the cap. -/
lemma Inv.sentChunk (h : Inv config s) {chunk : Bytes} {client : AsrClient} {cap : ℕ}
    (hclient : s.client = some client) (hchunk : chunk ≠ [])
    (hcap : maxBufferBytes config client.sampleRate client.numChannels = .ok cap)
    (hfits : s.utteranceBytesSent = 0 ∨ s.utteranceBytesSent + chunk.length ≤ cap) :
    Inv config (s.sentChunk chunk) := by
  obtain ⟨hbytes, hrate, hchannels, hfinal⟩ := h.current client hclient
  have hpresent : client ∈ s.clients := mem_clients.mpr (.inr hclient)
  have hmem : ∀ client' ∈ (s.sentChunk chunk).clients, client' ∈ s.clients ∨
      client' = { client with sent := client.sent ++ [chunk] } := by
    intro client' hclient'
    rcases mem_clients.mp hclient' with ⟨ending, hformer⟩ | hnew
    · exact .inl (mem_clients.mpr (.inl ⟨ending, hformer⟩))
    · simp only [Relay.sentChunk, hclient, Option.map_some, Option.some.injEq] at hnew
      exact .inr hnew.symm
  have hsum : AsrClient.bytesSent { client with sent := client.sent ++ [chunk] } =
      client.bytesSent + chunk.length := by simp [AsrClient.bytesSent]
  refine ⟨?_, ?_, ?_, ?_, fun hclass => ⟨?_, ?_, ?_⟩⟩
  · intro hnone
    simp [Relay.sentChunk, hclient] at hnone
  · intro client' hclient'
    simp only [Relay.sentChunk, hclient, Option.map_some, Option.some.injEq] at hclient'
    rw [← hclient']
    exact ⟨by rw [hsum, ← hbytes]; rfl, hrate, hchannels, hfinal⟩
  · intro client' hclient'
    rcases hmem client' hclient' with hold | rfl
    · exact h.filled client' hold
    · have hfilled := h.filled client hpresent
      simp [hfilled, hchunk.symm]
  · intro client' hclient'
    rcases hmem client' hclient' with hold | rfl
    · exact h.within client' hold
    · refine .inr ⟨cap, hcap, ?_⟩
      rcases hfits with hzero | hle
      · refine .inl ?_
        have hnil : client.sent = [] :=
          sent_eq_nil (h.filled client hpresent) (hbytes.symm.trans hzero)
        simp [hnil]
      · exact .inr (by rw [hsum, ← hbytes]; exact hle)
  · intro hrunning client' hclient'
    simp only [Relay.sentChunk, hclient, Option.map_some, Option.some.injEq] at hclient'
    rw [← hclient']
    exact (h.finals hclass).waiting hrunning client hclient
  · intro client' event hclient' hevent
    simp only [Relay.sentChunk, hclient, Option.map_some, Option.some.injEq] at hclient'
    rw [← hclient']
    exact (h.finals hclass).resolved client event hclient hevent
  · intro client' hclient'
    rcases hmem client' hclient' with hold | rfl
    · exact (h.finals hclass).finalLast client' hold
    · exact (h.finals hclass).finalLast client hpresent

end Relay

end RtcAsr.Bridge
