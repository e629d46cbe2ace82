import RtcAsr.Bridge.RelayInvariant

/-!
# Runs of the relay

What each coroutine of `RTCASRAudioRelay` ensures, and what follows for every run: the frame
processor makes any calls, some of which may raise or be cancelled, the client answers anything, and
the receiver task runs in between as the event loop likes.
-/

namespace RtcAsr.Bridge

open Routine Relay

namespace Relay

variable (config : RelayConfig)

/-- What a coroutine keeps when it sends nothing. -/
structure Keeps (s t : Relay) : Prop where
  inv : Inv config t
  sameAudio : SameAudio s t
  complete : config.clientClass = .asyncLocalStt → s.Complete → t.Complete

/-- The chunks that were cut off the audio, each with a mark if it was sent; at most `lost` of them
were not. -/
def Selected (P : Bytes → Prop) (lost : ℕ) (s : Relay) : Prop :=
  ∃ chunks : List (Bytes × Bool), s.heard = (chunks.map Prod.fst).flatten ++ s.buffer ∧
    s.sends = (chunks.filter (·.2)).map Prod.fst ∧ (∀ chunk ∈ chunks, P chunk.1) ∧
    (chunks.filter (!·.2)).length ≤ lost

/-- The state in which the client was let go after it was closed. -/
def closed (s : Relay) : Relay :=
  { ({ s with receiverTask := none } : Relay).letGo .closed with utteranceBytesSent := 0 }

variable {config} {s t u : Relay} {P : Bytes → Prop} {lost : ℕ}

lemma Keeps.refl (h : Inv config s) : Keeps config s s := ⟨h, .refl s, fun _ => id⟩

lemma Keeps.trans (h : Keeps config s t) (h' : Keeps config t u) : Keeps config s u :=
  ⟨h'.inv, h.sameAudio.trans h'.sameAudio, fun hclass hs =>
    h'.complete hclass (h.complete hclass hs)⟩

/-- The chunks sent before and after forwarding. -/
lemma Forwarded.sends (h : Forwarded s t) : t.sends = s.sends := by
  obtain ⟨f, hf⟩ := h.client
  unfold Relay.sends Relay.clients
  rw [h.formerClients, hf]
  cases s.client <;> simp

/-- Whatever happens while a coroutine waits, nothing is lost. -/
lemma Keeps.of_forwards (h : Inv config s) (hst : Forwards config s t) : Keeps config s t :=
  ⟨h.forwards hst,
    ⟨hst.forwarded.buffer, hst.forwarded.heard, hst.forwarded.sends, hst.forwarded.raisedCalls⟩,
    fun _ hs => hs.of_former hst.forwarded.formerClients hst.forwarded.failures
      hst.forwarded.raisedCalls⟩

/-- Stopping the receiver task. -/
lemma Keeps.stopReceiver (h : Inv config s) (receiver : Option Receiver)
    (hreceiver : receiver ≠ some .running) : Keeps config s { s with receiverTask := receiver } :=
  ⟨h.stopReceiver receiver hreceiver, ⟨rfl, rfl, rfl, rfl⟩, fun _ hs => hs.of_former rfl id rfl⟩

/-- An error is reported. -/
lemma Keeps.sendError (h : Inv config s) (message : String) :
    Keeps config s (s.sendError message) :=
  ⟨⟨h.quiet, h.current, h.filled, h.within, fun hclass =>
      ⟨(h.finals hclass).waiting, (h.finals hclass).resolved, (h.finals hclass).finalLast⟩⟩,
    ⟨rfl, rfl, rfl, rfl⟩, fun _ hs => hs.of_former rfl (by simp [Relay.sendError]) rfl⟩

/-- A message is sent. -/
lemma Keeps.message (h : Inv config s) (message : AppMessage) :
    Keeps config s { s with messages := s.messages ++ [message] } :=
  ⟨⟨h.quiet, h.current, h.filled, h.within, fun hclass =>
      ⟨(h.finals hclass).waiting, (h.finals hclass).resolved, (h.finals hclass).finalLast⟩⟩,
    ⟨rfl, rfl, rfl, rfl⟩, fun _ hs => hs.of_former rfl id rfl⟩

/-- A new client. -/
lemma Keeps.newClient (h : Inv config s) (hnone : s.client = none) (sampleRate numChannels : ℤ) :
    Keeps config s (s.newClient sampleRate numChannels) := by
  refine ⟨h.newClient hnone sampleRate numChannels, ⟨rfl, rfl, ?_, rfl⟩,
    fun _ hs => hs.of_former rfl id rfl⟩
  simp [Relay.sends, Relay.clients, Relay.newClient, hnone]

/-- A new client that could not be started. -/
lemma Keeps.startFailed (h : Inv config s) (hnone : s.client = none)
    (sampleRate numChannels : ℤ) (message : String) :
    Keeps config s
      (((s.newClient sampleRate numChannels).letGo .startFailed).sendError message) := by
  have hnew := Keeps.newClient h hnone sampleRate numChannels
  have hutterance : (s.newClient sampleRate numChannels).utteranceBytesSent = 0 :=
    (h.quiet hnone).2
  have hinv : Inv config ((s.newClient sampleRate numChannels).letGo .startFailed) := by
    have hgone := hnew.inv.letGo (h.quiet hnone).1 .startFailed
    rw [← hutterance] at hgone
    exact hgone
  refine (hnew.trans ⟨hinv, ⟨rfl, rfl, ?_, rfl⟩, fun _ hs => ?_⟩).trans (.sendError hinv message)
  · unfold Relay.sends
    rw [clients_letGo]
  · intro hfailures hraised client hmem
    refine hs hfailures hraised client ?_
    simpa [Relay.letGo, Relay.newClient] using hmem

/-- A new client is started. -/
lemma Keeps.connected (h : Inv config s) (hnone : s.client = none) (sampleRate numChannels : ℤ) :
    Keeps config s
      ((s.newClient sampleRate numChannels).connected config sampleRate numChannels) := by
  have hnew := Keeps.newClient h hnone sampleRate numChannels
  exact hnew.trans ⟨hnew.inv.connected, ⟨rfl, rfl, rfl, rfl⟩, fun _ hs => hs.of_former rfl id rfl⟩

/-- The invariant when the client was closed. -/
lemma Inv.closed (h : Inv config s) : Inv config s.closed :=
  (h.stopReceiver none (by simp)).letGo (by simp) .closed

/-- Closing leaves the audio alone. -/
lemma sameAudio_closed (s : Relay) : SameAudio s s.closed := by
  refine ⟨rfl, rfl, ?_, rfl⟩
  unfold Relay.sends
  exact congrArg _ (clients_letGo ({ s with receiverTask := none } : Relay) .closed)

/-- As long as nothing failed, the client may be closed: its final event was forwarded, if audio was
sent to it. -/
def Closable (config : RelayConfig) (s : Relay) : Prop :=
  config.clientClass = .asyncLocalStt → s.failures = [] → s.raisedCalls = 0 →
    ∀ client, s.client = some client → client.sent ≠ [] → client.Finished

/-- Closing a client that may be closed. -/
lemma Keeps.closed (h : Inv config s) (hclosable : Closable config s) :
    Keeps config s s.closed := by
  refine ⟨h.closed, sameAudio_closed s, fun hclass hs hfailures hraised client hmem hsent => ?_⟩
  rcases List.mem_append.mp hmem with hold | hnew
  · exact hs hfailures hraised client hold hsent
  · cases hclient : s.client with
    | none => simp [hclient] at hnew
    | some client' =>
      obtain rfl : client = client' := by simpa [hclient] using hnew
      exact hclosable hclass hfailures hraised client hclient hsent

/-! ## Waiting -/

/-- Waiting for the client. -/
lemma ensures_awaitClient {Q : Post Relay (TaskExn PyError) (Option TranscriptEvent)}
    (hdone : ∀ event t, Forwards config s t → Q.done event t)
    (hraised : ∀ e t, Forwards config s t → Q.raised e t)
    (hsuspended : ∀ t, Forwards config s t → Q.suspended t) :
    (awaitClient config).Ensures s Q := by
  refine ensures_await (I := Forwards config s) .refl ?_ ?_ ?_ hsuspended
  · intro t turn t' ht hturn
    cases turn with
    | receive received =>
      obtain rfl := (Prod.mk.inj hturn).1
      exact ht.tail (.receive received)
    | answer result => cases (Prod.mk.inj hturn).2
  · intro t turn t' event ht hturn
    cases turn with
    | receive received => cases (Prod.mk.inj hturn).2
    | answer result =>
      obtain rfl := (Prod.mk.inj hturn).1
      exact hdone event t ht
  · intro t turn t' e ht hturn
    cases turn with
    | receive received => cases (Prod.mk.inj hturn).2
    | answer result =>
      obtain rfl := (Prod.mk.inj hturn).1
      exact hraised e t ht

/-- Waiting for the client while the receiver task does not run. -/
lemma ensures_awaitClient_quiet {Q : Post Relay (TaskExn PyError) (Option TranscriptEvent)}
    (hquiet : s.receiverTask ≠ some .running) (hdone : ∀ event, Q.done event s)
    (hraised : ∀ e, Q.raised e s) (hsuspended : Q.suspended s) :
    (awaitClient config).Ensures s Q := by
  refine ensures_await (I := (· = s)) rfl ?_ ?_ ?_ (by rintro t rfl; exact hsuspended)
  · rintro t turn t' rfl hturn
    cases turn with
    | receive received =>
      have hreceive := (Prod.mk.inj hturn).1
      rw [Relay.receive, if_neg hquiet] at hreceive
      exact hreceive.symm
    | answer result => cases (Prod.mk.inj hturn).2
  · rintro t turn t' event rfl hturn
    cases turn with
    | receive received => cases (Prod.mk.inj hturn).2
    | answer result =>
      obtain rfl := (Prod.mk.inj hturn).1
      exact hdone event
  · rintro t turn t' e rfl hturn
    cases turn with
    | receive received => cases (Prod.mk.inj hturn).2
    | answer result =>
      obtain rfl := (Prod.mk.inj hturn).1
      exact hraised e

/-- Waiting for the final event. -/
lemma ensures_awaitFinal {Q : Post Relay (TaskExn PyError) PUnit}
    (hdone : ∀ t event, Forwards config s t → t.finalEvent = some (.result event) → Q.done ⟨⟩ t)
    (hraised : ∀ e t, Forwards config s t → Q.raised e t)
    (hsuspended : ∀ t, Forwards config s t → Q.suspended t) :
    (awaitFinal config).Ensures s Q := by
  refine ensures_await (I := Forwards config s) .refl ?_ ?_ ?_ hsuspended
  · intro t turn t' ht hturn
    split at hturn
    · obtain rfl := (Prod.mk.inj hturn).1
      exact ht.tail (.receive _)
    · cases (Prod.mk.inj hturn).2
    · cases (Prod.mk.inj hturn).2
    · split at hturn
      · cases (Prod.mk.inj hturn).2
      · cases (Prod.mk.inj hturn).2
      · obtain rfl := (Prod.mk.inj hturn).1
        exact ht
  · intro t turn t' a ht hturn
    split at hturn
    · cases (Prod.mk.inj hturn).2
    · cases (Prod.mk.inj hturn).2
    · cases (Prod.mk.inj hturn).2
    · split at hturn
      · rename_i event hevent
        obtain rfl := (Prod.mk.inj hturn).1
        exact hdone t event ht hevent
      · cases (Prod.mk.inj hturn).2
      · cases (Prod.mk.inj hturn).2
  · intro t turn t' e ht hturn
    split at hturn
    · cases (Prod.mk.inj hturn).2
    · obtain rfl := (Prod.mk.inj hturn).1
      exact hraised e t ht
    · obtain rfl := (Prod.mk.inj hturn).1
      exact hraised e t ht
    · split at hturn
      · cases (Prod.mk.inj hturn).2
      · obtain rfl := (Prod.mk.inj hturn).1
        exact hraised e t ht
      · cases (Prod.mk.inj hturn).2

/-- What the relay ensures while it makes no progress of its own. -/
def keeping (config : RelayConfig) (s : Relay) {α : Type} (done : α → Relay → Prop) :
    Post Relay (TaskExn PyError) α :=
  { done := done, raised := fun _ => Keeps config s, suspended := Keeps config s }

/-- A value, or an exception. -/
lemma ensures_ofExcept {α : Type} {x : Except PyError α} {Q : Post Relay (TaskExn PyError) α}
    (hdone : ∀ a, x = .ok a → Q.done a s) (hraised : ∀ e, Q.raised e s) :
    (ofExcept x).Ensures s Q := by
  cases hx : x with
  | ok a => exact ensures_pure (hdone a hx)
  | error e => exact ensures_throw (hraised _)

/-! ## The client -/

/-- `_ensure_client`: the present client, or a new one. -/
theorem ensures_ensureClient (h : Inv config s) (sampleRate numChannels : ℤ) :
    (ensureClient config sampleRate numChannels).Ensures s
      (keeping config s fun _ t => Keeps config s t ∧ (s.client ≠ none ∧ t = s ∨
        s.client = none ∧
          t = (s.newClient sampleRate numChannels).connected config sampleRate numChannels)) := by
  refine ensures_bind (ensures_get ?_)
  dsimp only
  split_ifs with hsome
  · exact ensures_pure ⟨.refl h, .inl ⟨Option.isSome_iff_ne_none.mp hsome, rfl⟩⟩
  · have hnone : s.client = none := by simpa using hsome
    have hnew := Keeps.newClient h hnone sampleRate numChannels
    refine ensures_bind (ensures_modify (ensures_bind (ensures_tryCatch ?_)))
    refine ensures_bind (ensures_awaitClient_quiet (h.quiet hnone).1 (fun event => ?_)
      (fun e => ?_) hnew)
    · exact ensures_pure (ensures_modify ⟨.connected h hnone _ _, .inr ⟨hnone, rfl⟩⟩)
    · cases e with
      | cancelled => exact ensures_throw hnew
      | raised error =>
        exact ensures_bind (ensures_modify (ensures_bind (ensures_modify
          (ensures_throw (Keeps.startFailed h hnone _ _ _)))))

/-- Stopping the receiver task. -/
lemma ensures_stopReceiver (h : Inv config s) :
    (stopReceiver config).Ensures s
      { done := fun _ t => t = { s with receiverTask := none }
        raised := fun _ _ => False
        suspended := Keeps config s } := by
  refine ensures_bind (ensures_get ?_)
  dsimp only
  split_ifs with hrunning
  · have hcancelled := Keeps.stopReceiver h (some .cancelled) (by simp)
    refine ensures_bind (ensures_modify (ensures_bind (ensures_tryCatch ?_)))
    refine ensures_bind (ensures_awaitClient_quiet (by simp) (fun event => ?_) (fun e => ?_)
      hcancelled)
    · exact ensures_pure (ensures_modify rfl)
    · exact ensures_pure (ensures_modify rfl)
  · exact ensures_modify rfl

/-- `_close_client`. -/
theorem ensures_closeClient (h : Inv config s) :
    (closeClient config).Ensures s (keeping config s fun _ t => t = s.closed) := by
  refine ensures_bind ((ensures_stopReceiver h).mono ?_ (fun _ _ hfalse => hfalse.elim)
    fun _ ht => ht)
  rintro - t rfl
  have hstopped := Keeps.stopReceiver h none (by simp)
  refine ensures_bind (ensures_get ?_)
  dsimp only
  split_ifs with hsome
  · refine ensures_bind (ensures_bind (ensures_awaitClient_quiet (by simp) (fun event => ?_)
      (fun e => hstopped) hstopped))
    exact ensures_pure (ensures_modify rfl)
  · exact ensures_modify rfl

/-- An event that the client returned is forwarded. -/
lemma Keeps.returned (h : Keeps config s t) (hclass : config.clientClass ≠ .asyncLocalStt)
    (event : TranscriptEvent) : Keeps config s (t.sendTranscriptEvent config event) :=
  h.trans (.of_forwards h.inv (.single (.returned event hclass)))

/-- The utterance ends with its final event. -/
theorem ensures_finalizeClient (h : Inv config s) (hsome : s.client ≠ none) :
    (finalizeClient config).Ensures s (keeping config s fun _ t => Keeps config s t ∧
      (config.clientClass = .asyncLocalStt → ∀ client, t.client = some client →
        client.Finished)) := by
  refine ensures_bind (ensures_awaitClient (fun finalEvent t ht => ?_)
    (fun e t ht => .of_forwards h ht) fun t ht => .of_forwards h ht)
  have hkeeps : Keeps config s t := .of_forwards h ht
  have hother : ¬ (config.clientClass.finalize = true ∧
      config.clientClass.returnsFinal = false) → config.clientClass ≠ .asyncLocalStt := by
    intro hne hclass
    exact hne (by rw [hclass]; exact ⟨rfl, rfl⟩)
  dsimp only
  split_ifs with hfinalize
  · split
    · rename_i event hevent
      have hclass : config.clientClass ≠ .asyncLocalStt := by
        refine hother fun hboth => ?_
        simp [hboth.2] at hevent
      exact ensures_modify ⟨hkeeps.returned hclass event, fun hc => absurd hc hclass⟩
    · refine ensures_bind (ensures_get ?_)
      dsimp only
      split
      · rename_i hnone
        exact absurd hnone (ht.forwarded.finalEvent fun hs => by
          obtain ⟨client, hclient⟩ := Option.ne_none_iff_exists'.mp hsome
          exact (h.current client hclient).2.2.2 hs)
      · rename_i event hresult
        exact ensures_pure ⟨hkeeps, fun hclass client hclient =>
          (hkeeps.inv.finals hclass).resolved client event hclient hresult⟩
      · exact ensures_throw hkeeps
      · refine ensures_awaitFinal (fun u event hu hevent => ?_) (fun e u hu => ?_) fun u hu => ?_
        · have hrest : Keeps config t u := .of_forwards hkeeps.inv hu
          exact ⟨hkeeps.trans hrest, fun hclass client hclient =>
            (hrest.inv.finals hclass).resolved client event hclient hevent⟩
        · exact hkeeps.trans (.of_forwards hkeeps.inv hu)
        · exact hkeeps.trans (.of_forwards hkeeps.inv hu)
  · have hclass : config.clientClass ≠ .asyncLocalStt := hother fun hboth => hfinalize hboth.1
    split
    · exact ensures_modify ⟨hkeeps.returned hclass _, fun hc => absurd hc hclass⟩
    · exact ensures_throw hkeeps

/-- The audio after a program that keeps it. -/
lemma ensures_keeping_of {α : Type} {m : RelayTask α} {done : α → Relay → Prop}
    (hst : Keeps config s t) (h : m.Ensures t (keeping config t done)) :
    m.Ensures t (keeping config s done) :=
  h.mono (fun _ _ hdone => hdone) (fun _ _ hraised => hst.trans hraised)
    fun _ hsuspended => hst.trans hsuspended

/-- `_finalize_and_close_client`. -/
theorem ensures_finalizeAndCloseClient (h : Inv config s) :
    (finalizeAndCloseClient config).Ensures s
      (keeping config s fun _ t => Keeps config s t ∧ t.client = none) := by
  refine ensures_bind (ensures_get ?_)
  dsimp only
  split_ifs with hnone
  · exact ensures_pure ⟨.refl h, by simpa using hnone⟩
  · refine ensures_bind ((ensures_finalizeClient h (by simpa using hnone)).mono ?_
      (fun _ _ he => he) fun _ ht => ht)
    rintro - t ⟨ht, hfinished⟩
    refine ensures_keeping_of ht ((ensures_closeClient ht.inv).mono ?_ (fun _ _ he => he)
      fun _ hu => hu)
    rintro - u rfl
    exact ⟨ht.trans (.closed ht.inv fun hclass _ _ client hclient _ =>
      hfinished hclass client hclient), rfl⟩

/-! ## Sending -/

/-- What the next chunk may do to a client: it is the first, or it fits below the cap. -/
def Roomy (config : RelayConfig) (n : ℕ) (s : Relay) : Prop :=
  ∃ client cap, s.client = some client ∧
    maxBufferBytes config client.sampleRate client.numChannels = .ok cap ∧
    (s.utteranceBytesSent = 0 ∨ s.utteranceBytesSent + n ≤ cap)

/-- `_roll_utterance_if_needed`: afterwards there is room for the chunk. -/
theorem ensures_rollUtteranceIfNeeded (h : Inv config s) (hsome : s.client ≠ none) (n : ℕ) :
    (rollUtteranceIfNeeded config n).Ensures s
      (keeping config s fun _ t => Keeps config s t ∧ Roomy config n t) := by
  obtain ⟨client, hclient⟩ := Option.ne_none_iff_exists'.mp hsome
  obtain ⟨-, hrate, hchannels, -⟩ := h.current client hclient
  refine ensures_bind (ensures_get ?_)
  simp only [hrate, hchannels]
  refine ensures_bind (ensures_ofExcept (fun cap hcap => ?_) fun e => .refl h)
  dsimp only
  split_ifs with hzero hfits
  · exact ensures_pure ⟨.refl h, client, cap, hclient, hcap, .inl hzero⟩
  · exact ensures_pure ⟨.refl h, client, cap, hclient, hcap, .inr hfits⟩
  · refine ensures_bind (ensures_ofExcept (fun ms _ => ?_) fun e => .refl h)
    refine ensures_bind (ensures_modify ?_)
    have hmessage := Keeps.message h (.rolling ms)
    refine ensures_keeping_of hmessage (ensures_bind ?_)
    refine (ensures_finalizeAndCloseClient hmessage.inv).mono ?_ (fun _ _ he => he) fun _ ht => ht
    rintro - t ⟨ht, hnone⟩
    refine ensures_keeping_of ht ((ensures_ensureClient ht.inv client.sampleRate
      client.numChannels).mono ?_ (fun _ _ he => he) fun _ hu => hu)
    rintro - u ⟨hu, ⟨hpresent, -⟩ | ⟨-, rfl⟩⟩
    · exact absurd hnone hpresent
    · exact ⟨hmessage.trans (ht.trans hu), _, cap, rfl, hcap, .inl (ht.inv.quiet hnone).2⟩

/-- What is kept when a chunk is sent. -/
structure SendsChunk (config : RelayConfig) (chunk : Bytes) (s t : Relay) : Prop where
  inv : Inv config t
  buffer : t.buffer = s.buffer
  heard : t.heard = s.heard
  sends : t.sends = s.sends ++ [chunk]
  raisedCalls : t.raisedCalls = s.raisedCalls
  client : t.client ≠ none
  complete : config.clientClass = .asyncLocalStt → s.Complete → t.Complete

/-- The chunks sent when one more was sent. -/
lemma sends_sentChunk {client : AsrClient} (hclient : s.client = some client) (chunk : Bytes) :
    (s.sentChunk chunk).sends = s.sends ++ [chunk] := by
  simp [Relay.sends, Relay.clients, Relay.sentChunk, hclient]

/-- `_send_chunk`: the chunk is sent, or nothing is. -/
theorem ensures_sendChunk (h : Inv config s) (hsome : s.client ≠ none) {chunk : Bytes}
    (hchunk : chunk ≠ []) :
    (sendChunk config chunk).Ensures s
      (keeping config s fun _ t => SendsChunk config chunk s t) := by
  refine ensures_bind (ensures_get ?_)
  dsimp only
  rw [if_neg (by simpa using hsome)]
  refine ensures_bind ((ensures_rollUtteranceIfNeeded h hsome chunk.length).mono ?_
    (fun _ _ he => he) fun _ ht => ht)
  rintro - t ⟨ht, client, cap, hclient, hcap, hfits⟩
  refine ensures_bind (ensures_tryCatch (ensures_bind (ensures_awaitClient (fun event u hu => ?_)
    (fun e u hu => ?_) fun u hu => ?_)))
  · refine ensures_pure (ensures_modify ?_)
    have hkeeps : Keeps config t u := .of_forwards ht.inv hu
    obtain ⟨f, hf⟩ := hu.forwarded.client
    rw [hclient] at hf
    have hsent : Inv config (u.sentChunk chunk) := by
      refine hkeeps.inv.sentChunk hf hchunk hcap ?_
      rw [hu.forwarded.utteranceBytesSent]
      exact hfits
    have hall := ht.trans hkeeps
    refine ⟨hsent, hall.sameAudio.buffer, hall.sameAudio.heard, ?_, hall.sameAudio.raisedCalls,
      by simp [Relay.sentChunk, hf], fun hclass hs => ?_⟩
    · rw [sends_sentChunk hf, hall.sameAudio.sends]
    · exact (hall.complete hclass hs).of_former rfl id rfl
  · have hkeeps := ht.trans (.of_forwards ht.inv hu)
    cases e with
    | cancelled => exact ensures_throw hkeeps
    | raised error =>
      exact ensures_bind (ensures_modify (ensures_throw (hkeeps.trans (.sendError hkeeps.inv _))))
  · exact ht.trans (.of_forwards ht.inv hu)

/-! ## Selections -/

/-- More chunks may be lost. -/
lemma Selected.mono {more : ℕ} (h : Selected P lost s) (hle : lost ≤ more) : Selected P more s := by
  obtain ⟨chunks, hheard, hsends, hP, hlost⟩ := h
  exact ⟨chunks, hheard, hsends, hP, hlost.trans hle⟩

/-- A selection depends on the audio only. -/
lemma Selected.of_sameAudio (h : Selected P lost s) (hst : SameAudio s t) : Selected P lost t := by
  obtain ⟨chunks, hheard, hsends, hP, hlost⟩ := h
  exact ⟨chunks, by rw [hst.heard, hst.buffer]; exact hheard, by rw [hst.sends]; exact hsends,
    hP, hlost⟩

/-- Audio is taken into the buffer. -/
lemma Selected.hear (h : Selected P lost s) (audio : Bytes) : Selected P lost (s.hear audio) := by
  obtain ⟨chunks, hheard, hsends, hP, hlost⟩ := h
  refine ⟨chunks, ?_, hsends, hP, hlost⟩
  simp [Relay.hear, hheard]

/-- A chunk is cut off the buffer and sent. -/
lemma Selected.sent (h : Selected P lost s) {chunk : Bytes} (hchunk : P chunk)
    (hbuffer : s.buffer = chunk ++ t.buffer) (hheard : t.heard = s.heard)
    (hsends : t.sends = s.sends ++ [chunk]) : Selected P lost t := by
  obtain ⟨chunks, hheard', hsends', hP, hlost⟩ := h
  refine ⟨chunks ++ [(chunk, true)], ?_, ?_, ?_, ?_⟩
  · rw [hheard, hheard', hbuffer]
    simp
  · rw [hsends, hsends']
    simp
  · intro p hp
    rcases List.mem_append.mp hp with hp | hp
    · exact hP p hp
    · rw [List.mem_singleton.mp hp]
      exact hchunk
  · simpa using hlost

/-- A chunk is cut off the buffer and not sent. -/
lemma Selected.unsent (h : Selected P lost s) {chunk : Bytes} (hchunk : P chunk)
    (hbuffer : s.buffer = chunk ++ t.buffer) (hheard : t.heard = s.heard)
    (hsends : t.sends = s.sends) : Selected P (lost + 1) t := by
  obtain ⟨chunks, hheard', hsends', hP, hlost⟩ := h
  refine ⟨chunks ++ [(chunk, false)], ?_, ?_, ?_, ?_⟩
  · rw [hheard, hheard', hbuffer]
    simp
  · rw [hsends, hsends']
    simp
  · intro p hp
    rcases List.mem_append.mp hp with hp | hp
    · exact hP p hp
    · rw [List.mem_singleton.mp hp]
      exact hchunk
  · simpa using hlost

/-! ## The calls -/

/-- What a call keeps. -/
structure Progress (config : RelayConfig) (s t : Relay) : Prop where
  inv : Inv config t
  heard : t.heard = s.heard
  raisedCalls : t.raisedCalls = s.raisedCalls
  complete : config.clientClass = .asyncLocalStt → s.Complete → t.Complete

lemma Keeps.progress (h : Keeps config s t) : Progress config s t :=
  ⟨h.inv, h.sameAudio.heard, h.sameAudio.raisedCalls, h.complete⟩

lemma Progress.trans (h : Progress config s t) (h' : Progress config t u) : Progress config s u :=
  ⟨h'.inv, h'.heard.trans h.heard, h'.raisedCalls.trans h.raisedCalls,
    fun hclass hs => h'.complete hclass (h.complete hclass hs)⟩

/-- The buffer is changed. -/
lemma Progress.setBuffer (h : Inv config s) (buffer : Bytes) :
    Progress config s { s with buffer := buffer } :=
  ⟨⟨h.quiet, h.current, h.filled, h.within, fun hclass =>
      ⟨(h.finals hclass).waiting, (h.finals hclass).resolved, (h.finals hclass).finalLast⟩⟩,
    rfl, rfl, fun _ hs => hs.of_former rfl id rfl⟩

/-- What the loop ensures: at most one chunk is lost, and only if the loop raises. -/
def selecting (config : RelayConfig) (P : Bytes → Prop) (lost : ℕ) (s : Relay)
    (done : Relay → Prop) : Post Relay (TaskExn PyError) PUnit :=
  { done := fun _ t => Progress config s t ∧ Selected P lost t ∧ done t
    raised := fun _ t => Progress config s t ∧ Selected P (lost + 1) t
    suspended := fun t => Progress config s t ∧ Selected P (lost + 1) t }

/-- What a call ensures that brings audio, when it did not return: the audio may not have been taken
in. -/
structure Partly (config : RelayConfig) (P : Bytes → Prop) (lost : ℕ) (audio : Bytes)
    (s t : Relay) : Prop where
  inv : Inv config t
  raisedCalls : t.raisedCalls = s.raisedCalls
  heard : t.heard = s.heard ∨ t.heard = s.heard ++ audio
  selected : Selected P (lost + 1) t

/-- What a call ensures that brings audio. -/
def calling (config : RelayConfig) (P : Bytes → Prop) (lost : ℕ) (audio : Bytes) (s : Relay)
    (done : Relay → Prop) : Post Relay (TaskExn PyError) PUnit :=
  { done := fun _ t => Progress config (s.hear audio) t ∧ Selected P lost t ∧ done t
    raised := fun _ t => Partly config P lost audio s t
    suspended := fun t => Partly config P lost audio s t ∧
      (config.clientClass = .asyncLocalStt → s.Complete → t.Complete) }

/-- Progress before audio is taken in. -/
lemma Progress.partly (h : Progress config s t) (hselected : Selected P (lost + 1) t)
    (audio : Bytes) : Partly config P lost audio s t :=
  ⟨h.inv, h.raisedCalls, .inl h.heard, hselected⟩

/-- The loop of `handle_audio_frame`. -/
theorem ensures_sendChunks {size : ℕ} (hsize : 0 < size)
    (hP : ∀ chunk : Bytes, chunk.length = size → P chunk) (fuel : ℕ) (h : Inv config s)
    (hsome : s.client ≠ none) (hfuel : s.buffer.length ≤ fuel) (hselected : Selected P lost s) :
    (sendChunks config size fuel).Ensures s
      (selecting config P lost s fun t => t.buffer.length < size) := by
  induction fuel generalizing s with
  | zero => exact ensures_pure ⟨(Keeps.refl h).progress, hselected, by omega⟩
  | succ fuel ih =>
    refine ensures_bind (ensures_get ?_)
    dsimp only
    split_ifs with hlong
    · refine ensures_bind (ensures_modify (ensures_bind ?_))
      have hcut := Progress.setBuffer h (s.buffer.drop size)
      have hlength : (s.buffer.take size).length = size := by
        rw [List.length_take]
        omega
      have hne : s.buffer.take size ≠ [] := by
        intro hnil
        rw [hnil] at hlength
        exact absurd hlength hsize.ne
      have hsplit : s.buffer = s.buffer.take size ++ s.buffer.drop size :=
        (List.take_append_drop size s.buffer).symm
      have hlose : ∀ t, Keeps config { s with buffer := s.buffer.drop size } t →
          Progress config s t ∧ Selected P (lost + 1) t := by
        intro t ht
        refine ⟨hcut.trans ht.progress, hselected.unsent (hP _ hlength) ?_ ht.sameAudio.heard
          ht.sameAudio.sends⟩
        rw [ht.sameAudio.buffer]
        exact hsplit
      refine (ensures_sendChunk hcut.inv hsome hne).mono ?_ (fun _ t ht => hlose t ht) hlose
      intro _ t ht
      have hprogress : Progress config s t :=
        hcut.trans ⟨ht.inv, ht.heard, ht.raisedCalls, ht.complete⟩
      have hbuffer : t.buffer = s.buffer.drop size := ht.buffer
      refine (ih ht.inv ht.client ?_ (hselected.sent (hP _ hlength) ?_ ht.heard ht.sends)).mono
        ?_ ?_ ?_
      · rw [hbuffer, List.length_drop]
        omega
      · rw [hbuffer]
        exact hsplit
      · rintro - u ⟨hu, hrest⟩
        exact ⟨hprogress.trans hu, hrest⟩
      · rintro - u ⟨hu, hrest⟩
        exact ⟨hprogress.trans hu, hrest⟩
      · rintro u ⟨hu, hrest⟩
        exact ⟨hprogress.trans hu, hrest⟩
    · exact ensures_pure ⟨(Keeps.refl h).progress, hselected, not_le.mp hlong⟩

/-- A chunk has at least one byte. -/
lemma chunkSizeBytes_pos {sampleRate numChannels : ℤ} {size : ℕ}
    (h : chunkSizeBytes config sampleRate numChannels = .ok size) : 0 < size := by
  simp only [chunkSizeBytes, Bind.bind, Except.bind, Pure.pure, Except.pure] at h
  split at h
  · cases h
  · split at h
    · cases h
    · split at h
      · cases h
      · have hsize := Except.ok.inj h
        omega

/-- Taking in audio leaves the clients alone. -/
lemma Inv.hear (h : Inv config s) (audio : Bytes) : Inv config (s.hear audio) :=
  ⟨h.quiet, h.current, h.filled, h.within, fun hclass =>
    ⟨(h.finals hclass).waiting, (h.finals hclass).resolved, (h.finals hclass).finalLast⟩⟩

/-- `handle_audio_frame`. -/
theorem ensures_handleAudioFrame (frame : AudioFrame)
    (hP : ∀ size, chunkSizeBytes config frame.rate frame.channels = .ok size →
      ∀ chunk : Bytes, chunk.length = size → P chunk)
    (h : Inv config s) (hselected : Selected P lost s) :
    (handleAudioFrame config frame).Ensures s
      (calling config P lost (frame.audio.getD []) s fun t => t.buffer = s.buffer ∨
        ∃ size, chunkSizeBytes config frame.rate frame.channels = .ok size ∧
          t.buffer.length < size) := by
  unfold handleAudioFrame
  dsimp only
  split_ifs with hempty
  · have hnil : frame.audio.getD [] = [] := by simpa using hempty
    rw [hnil]
    exact ensures_pure ⟨⟨h, by simp [Relay.hear], rfl, fun _ hs => hs⟩, hselected, .inl rfl⟩
  · have hkept : ∀ t, Keeps config s t → Partly config P lost (frame.audio.getD []) s t :=
      fun t ht => ht.progress.partly
        ((hselected.of_sameAudio ht.sameAudio).mono (Nat.le_succ lost)) _
    refine ensures_bind ((ensures_ensureClient h frame.rate frame.channels).mono ?_
      (fun _ t ht => hkept t ht) fun t ht => ⟨hkept t ht, ht.complete⟩)
    rintro - t ⟨ht, hclient⟩
    have hpresent : t.client ≠ none := by
      rcases hclient with ⟨hsome, rfl⟩ | ⟨-, rfl⟩
      · exact hsome
      · simp [Relay.connected, Relay.newClient]
    have hsel := (hselected.of_sameAudio ht.sameAudio).hear (frame.audio.getD [])
    have hheard : Progress config (s.hear (frame.audio.getD [])) (t.hear (frame.audio.getD [])) :=
      ⟨ht.inv.hear _, congrArg (· ++ _) ht.sameAudio.heard, ht.sameAudio.raisedCalls, ht.complete⟩
    have hpart : ∀ u, Progress config (s.hear (frame.audio.getD [])) u →
        Selected P (lost + 1) u → Partly config P lost (frame.audio.getD []) s u :=
      fun u hu hrest => ⟨hu.inv, hu.raisedCalls, .inr hu.heard, hrest⟩
    refine ensures_bind (ensures_modify (ensures_bind (ensures_ofExcept (fun size hsize => ?_)
      fun e => hpart _ hheard (hsel.mono (Nat.le_succ lost)))))
    refine ensures_bind (ensures_get ?_)
    refine (ensures_sendChunks (chunkSizeBytes_pos hsize) (hP size hsize) _ hheard.inv
      hpresent le_rfl hsel).mono ?_ ?_ ?_
    · rintro - u ⟨hu, hrest, hshort⟩
      exact ⟨hheard.trans hu, hrest, .inr ⟨size, hsize, hshort⟩⟩
    · rintro - u ⟨hu, hrest⟩
      exact hpart u (hheard.trans hu) hrest
    · rintro u ⟨hu, hrest⟩
      exact ⟨hpart u (hheard.trans hu) hrest, (hheard.trans hu).complete⟩

/-- Sending the rest of the buffer. -/
lemma ensures_sendRest (hP : ∀ chunk : Bytes, chunk ≠ [] → P chunk) (h : Inv config s)
    (hsome : s.client ≠ none) (hselected : Selected P lost s) :
    (sendRest config).Ensures s
      (keeping config s fun _ t => Progress config s t ∧ Selected P lost t ∧
        (t.buffer = s.buffer ∨ t.buffer = [])) := by
  refine ensures_bind (ensures_get ?_)
  dsimp only
  split_ifs with hempty
  · exact ensures_pure ⟨(Keeps.refl h).progress, hselected, .inl rfl⟩
  · have hne : s.buffer ≠ [] := by simpa using hempty
    refine ensures_bind ((ensures_sendChunk h hsome hne).mono ?_ (fun _ _ he => he) fun _ ht => ht)
    intro _ t ht
    have hsent : Progress config s t := ⟨ht.inv, ht.heard, ht.raisedCalls, ht.complete⟩
    refine ensures_modify ⟨hsent.trans (.setBuffer ht.inv []), ?_, .inr rfl⟩
    exact hselected.sent (t := { t with buffer := [] }) (hP _ hne) (by simp) ht.heard ht.sends

/-- What `close` ensures before the client is closed. -/
def shuttingDown (config : RelayConfig) (P : Bytes → Prop) (lost : ℕ) (s : Relay) :
    Post Relay (TaskExn PyError) PUnit :=
  { done := fun _ t => Progress config s t ∧ Selected P lost t ∧
      (t.buffer = s.buffer ∨ t.buffer = []) ∧ Closable config t
    raised := fun _ t => Progress config s t ∧ Selected P lost t
    suspended := fun t => Progress config s t ∧ Selected P lost t }

/-- The `except` part of `close`. -/
lemma ensures_shutdownFailed (e : TaskExn PyError) (ht : Progress config s t)
    (hsel : Selected P lost t) (hbuffer : t.buffer = s.buffer ∨ t.buffer = []) :
    (shutdownFailed e).Ensures t (shuttingDown config P lost s) := by
  cases e with
  | cancelled => exact ensures_throw ⟨ht, hsel⟩
  | raised error =>
    have herror := Keeps.sendError ht.inv ("ASR relay shutdown failed: " ++ excText error)
    refine ensures_modify ⟨ht.trans herror.progress, hsel.of_sameAudio herror.sameAudio, hbuffer,
      fun _ hfailures => ?_⟩
    simp [Relay.sendError] at hfailures

/-- The part of `close` before the client is closed. -/
lemma ensures_shutDown (hP : ∀ chunk : Bytes, chunk ≠ [] → P chunk) (h : Inv config s)
    (hsome : s.client ≠ none) (hselected : Selected P lost s) :
    (shutDown config).Ensures s (shuttingDown config P lost s) := by
  refine ensures_tryCatch (ensures_bind ((ensures_sendRest hP h hsome hselected).mono ?_
    (fun e t ht => ensures_shutdownFailed e ht.progress (hselected.of_sameAudio ht.sameAudio)
      (.inl ht.sameAudio.buffer))
    fun t ht => ⟨ht.progress, hselected.of_sameAudio ht.sameAudio⟩))
  rintro - t ⟨ht, hsel, hbuffer⟩
  refine ensures_bind (ensures_get ?_)
  dsimp only
  split_ifs with hsent
  · refine (ensures_finalizeAndCloseClient ht.inv).mono ?_ ?_ ?_
    · rintro - u ⟨hu, hnone⟩
      refine ⟨ht.trans hu.progress, hsel.of_sameAudio hu.sameAudio, ?_,
        fun _ _ _ client hclient => ?_⟩
      · rw [hu.sameAudio.buffer]
        exact hbuffer
      · rw [hnone] at hclient
        cases hclient
    · intro e u hu
      refine ensures_shutdownFailed e (ht.trans hu.progress) (hsel.of_sameAudio hu.sameAudio) ?_
      rw [hu.sameAudio.buffer]
      exact hbuffer
    · intro u hu
      exact ⟨ht.trans hu.progress, hsel.of_sameAudio hu.sameAudio⟩
  · refine ensures_pure ⟨ht, hsel, hbuffer, fun _ _ _ client hclient hne => absurd ?_ hne⟩
    have hzero : client.bytesSent = 0 := by
      rw [← (ht.inv.current client hclient).1]
      omega
    exact sent_eq_nil (ht.inv.filled client (mem_clients.mpr (.inr hclient))) hzero

/-- `close`. -/
theorem ensures_close (hP : ∀ chunk : Bytes, chunk ≠ [] → P chunk) (h : Inv config s)
    (hselected : Selected P lost s) :
    (close config).Ensures s
      (calling config P lost [] s fun t => t.buffer = s.buffer ∨ t.buffer = []) := by
  have hhear : ∀ t, Progress config s t → Progress config (s.hear []) t := fun t ht =>
    ⟨ht.inv, by rw [ht.heard]; simp [Relay.hear], ht.raisedCalls, ht.complete⟩
  refine ensures_bind (ensures_get ?_)
  dsimp only
  split_ifs with hnone
  · exact ensures_pure ⟨hhear s (Keeps.refl h).progress, hselected, .inl rfl⟩
  · have hsome : s.client ≠ none := by simpa using hnone
    have hlater : ∀ t u, Progress config s t ∧ Selected P lost t → Keeps config t u →
        Progress config s u ∧ Selected P (lost + 1) u := by
      rintro t u ⟨ht, hsel⟩ hu
      exact ⟨ht.trans hu.progress, (hsel.of_sameAudio hu.sameAudio).mono (Nat.le_succ lost)⟩
    refine ensures_tryFinally ((ensures_shutDown hP h hsome hselected).mono ?_ ?_ ?_)
    · rintro - t ⟨ht, hsel, hbuffer, hclosable⟩
      refine (ensures_closeClient ht.inv).mono ?_ ?_ ?_
      · rintro - u rfl
        exact ⟨hhear _ (ht.trans (Keeps.closed ht.inv hclosable).progress),
          hsel.of_sameAudio (sameAudio_closed t), hbuffer⟩
      · intro e u hu
        obtain ⟨hprogress, hrest⟩ := hlater t u ⟨ht, hsel⟩ hu
        exact hprogress.partly hrest []
      · intro u hu
        obtain ⟨hprogress, hrest⟩ := hlater t u ⟨ht, hsel⟩ hu
        exact ⟨hprogress.partly hrest [], hprogress.complete⟩
    · rintro e t ⟨ht, hsel⟩
      refine (ensures_closeClient ht.inv).mono ?_ ?_ ?_
      · rintro - u rfl
        exact ⟨ht.inv.closed, ht.raisedCalls, .inl ht.heard,
          (hsel.of_sameAudio (sameAudio_closed t)).mono (Nat.le_succ lost)⟩
      · intro e' u hu
        obtain ⟨hprogress, hrest⟩ := hlater t u ⟨ht, hsel⟩ hu
        exact hprogress.partly hrest []
      · intro u hu
        obtain ⟨hprogress, hrest⟩ := hlater t u ⟨ht, hsel⟩ hu
        exact ⟨hprogress.partly hrest [], hprogress.complete⟩
    · rintro t ⟨ht, hsel⟩
      exact ⟨ht.partly (hsel.mono (Nat.le_succ lost)) [], ht.complete⟩

end Relay

end RtcAsr.Bridge
