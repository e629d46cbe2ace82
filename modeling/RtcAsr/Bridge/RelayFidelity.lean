import RtcAsr.Bridge.RelayRuns

/-!
# The fidelity of the relay

What holds of every run of `RTCASRAudioRelay`: the audio is sent in order and nothing twice, a call
that raises loses at most one chunk, an utterance stays below the buffer cap, and the client of an
utterance is closed after its one final event was forwarded.
-/

namespace RtcAsr.Bridge

open Routine Relay

/-- The audio a call brings. -/
def Call.audio : Call → Bytes
  | .handleAudioFrame frame => frame.audio.getD []
  | .close => []

/-- The chunks a call may cut have `P`, and the buffers it may leave have a length with `R`. -/
def Call.Suits (config : RelayConfig) (P : Bytes → Prop) (R : ℕ → Prop) : Call → Prop
  | .handleAudioFrame frame =>
    ∀ size, chunkSizeBytes config frame.rate frame.channels = .ok size →
      (∀ chunk : Bytes, chunk.length = size → P chunk) ∧ ∀ n < size, R n
  | .close => (∀ chunk : Bytes, chunk ≠ [] → P chunk) ∧ R 0

namespace Relay

variable {config : RelayConfig} {s t : Relay} {P : Bytes → Prop} {R : ℕ → Prop} {lost : ℕ}

/-- A call. -/
lemma ensures_run (call : Call) (hsuits : call.Suits config P R) (h : Inv config s)
    (hselected : Selected P lost s) :
    (call.run config).Ensures s (calling config P lost call.audio s fun t =>
      R s.buffer.length → R t.buffer.length) := by
  cases call with
  | handleAudioFrame frame =>
    refine (ensures_handleAudioFrame frame (fun size hsize => (hsuits size hsize).1) h
      hselected).mono ?_ (fun _ _ he => he) fun _ ht => ht
    rintro - t ⟨ht, hsel, hbuffer | ⟨size, hsize, hlt⟩⟩
    · exact ⟨ht, hsel, fun hR => hbuffer ▸ hR⟩
    · exact ⟨ht, hsel, fun _ => (hsuits size hsize).2 _ hlt⟩
  | close =>
    refine (ensures_close hsuits.1 h hselected).mono ?_ (fun _ _ he => he) fun _ ht => ht
    rintro - t ⟨ht, hsel, hbuffer | hbuffer⟩
    · exact ⟨ht, hsel, fun hR => hbuffer ▸ hR⟩
    · exact ⟨ht, hsel, fun _ => hbuffer ▸ hsuits.2⟩

/-- What holds between two calls. -/
structure Between (config : RelayConfig) (P : Bytes → Prop) (R : ℕ → Prop) (s : Relay) : Prop where
  inv : Inv config s
  selected : Selected P s.raisedCalls s
  complete : config.clientClass = .asyncLocalStt → s.Complete
  short : s.raisedCalls = 0 → R s.buffer.length

/-- What holds while a call waits. -/
structure Within (config : RelayConfig) (P : Bytes → Prop) (s : Relay) : Prop where
  inv : Inv config s
  selected : Selected P (s.raisedCalls + 1) s
  complete : config.clientClass = .asyncLocalStt → s.Complete

/-- The audio that is taken in from one state to another is that of some of the calls. -/
def HearsSome (audio : List Bytes) (s t : Relay) : Prop :=
  ∃ heard : List Bytes, heard.Sublist audio ∧ t.heard = s.heard ++ heard.flatten

/-- It is that of all the calls, if none of them raised. -/
structure Hears (audio : List Bytes) (s t : Relay) : Prop where
  some : HearsSome audio s t
  raisedCalls : s.raisedCalls ≤ t.raisedCalls
  all : t.raisedCalls = s.raisedCalls → t.heard = s.heard ++ audio.flatten

/-- The frame processor waits for the next call. -/
lemma ensures_idle (h : Inv config s) :
    (idle config).Ensures s
      { done := fun _ t => Keeps config s t
        raised := fun _ _ => False
        suspended := Keeps config s } := by
  refine ensures_await (I := Keeps config s) (.refl h) ?_ ?_ ?_ fun _ ht => ht
  · intro t turn t' ht hturn
    cases turn with
    | receive received =>
      obtain rfl := (Prod.mk.inj hturn).1
      exact ht.trans (.of_forwards ht.inv (.single (.receive received)))
    | answer result => cases (Prod.mk.inj hturn).2
  · intro t turn t' a ht hturn
    cases turn with
    | receive received => cases (Prod.mk.inj hturn).2
    | answer result =>
      obtain rfl := (Prod.mk.inj hturn).1
      exact ht
  · intro t turn t' e ht hturn
    cases turn with
    | receive received => cases (Prod.mk.inj hturn).2
    | answer result => cases (Prod.mk.inj hturn).2

/-- What holds between two calls stays while nothing is sent. -/
lemma Between.keeps (h : Between config P R s) (hst : Keeps config s t) : Between config P R t where
  inv := hst.inv
  selected := by
    rw [hst.sameAudio.raisedCalls]
    exact h.selected.of_sameAudio hst.sameAudio
  complete := fun hclass => hst.complete hclass (h.complete hclass)
  short := by
    intro hzero
    rw [hst.sameAudio.buffer]
    exact h.short (hst.sameAudio.raisedCalls ▸ hzero)

/-- What holds between two calls holds while one waits. -/
lemma Between.waiting (h : Between config P R s) : Within config P s :=
  ⟨h.inv, h.selected.mono (Nat.le_succ _), h.complete⟩

/-- After a call that returned. -/
lemma Between.returned (h : Between config P R s) {audio : Bytes}
    (ht : Progress config (s.hear audio) t) (hselected : Selected P s.raisedCalls t)
    (hshort : R s.buffer.length → R t.buffer.length) : Between config P R t where
  inv := ht.inv
  selected := by
    rw [show t.raisedCalls = s.raisedCalls from ht.raisedCalls]
    exact hselected
  complete := fun hclass => ht.complete hclass (h.complete hclass)
  short := fun hzero => hshort (h.short (ht.raisedCalls.symm.trans hzero))

/-- After a call that raised. -/
lemma Between.raised {audio : Bytes} (ht : Partly config P s.raisedCalls audio s t) :
    Between config P R { t with raisedCalls := t.raisedCalls + 1 } where
  inv := ⟨ht.inv.quiet, ht.inv.current, ht.inv.filled, ht.inv.within, fun hclass =>
    ⟨(ht.inv.finals hclass).waiting, (ht.inv.finals hclass).resolved,
      (ht.inv.finals hclass).finalLast⟩⟩
  selected := by
    have hselected := ht.selected
    rw [← ht.raisedCalls] at hselected
    exact hselected
  complete := by
    intro _ _ hzero
    cases hzero
  short := by
    intro hzero
    cases hzero

/-- Nothing was taken in. -/
lemma HearsSome.of_eq {audio : List Bytes} (h : t.heard = s.heard) : HearsSome audio s t :=
  ⟨[], List.nil_sublist _, by simp [h]⟩

/-- What some calls bring after a first call. -/
lemma HearsSome.cons {audio : Bytes} {rest : List Bytes} {u : Relay} (hrest : HearsSome rest t u)
    (ht : t.heard = s.heard ∨ t.heard = s.heard ++ audio) : HearsSome (audio :: rest) s u := by
  obtain ⟨heard, hsub, hu⟩ := hrest
  rcases ht with ht | ht
  · exact ⟨heard, hsub.cons audio, by rw [hu, ht]⟩
  · exact ⟨audio :: heard, hsub.cons_cons audio, by rw [hu, ht]; simp⟩

/-- What calls bring after a first call that returned. -/
lemma Hears.returned {audio : Bytes} {rest : List Bytes} {u : Relay} (hrest : Hears rest t u)
    (ht : t.heard = s.heard ++ audio) (hraised : t.raisedCalls = s.raisedCalls) :
    Hears (audio :: rest) s u where
  some := hrest.some.cons (.inr ht)
  raisedCalls := hraised ▸ hrest.raisedCalls
  all := by
    intro hsame
    rw [hrest.all (hsame.trans hraised.symm), ht, List.flatten_cons, List.append_assoc]

/-- What calls bring after a first call that raised. -/
lemma Hears.raised {audio : Bytes} {rest : List Bytes} {u : Relay} (hrest : Hears rest t u)
    (ht : t.heard = s.heard ∨ t.heard = s.heard ++ audio)
    (hraised : t.raisedCalls = s.raisedCalls + 1) : Hears (audio :: rest) s u where
  some := hrest.some.cons ht
  raisedCalls := by
    have hle := hrest.raisedCalls
    omega
  all := by
    intro hsame
    have hle := hrest.raisedCalls
    omega

/-- **A run of the frame processor**, from between two calls. -/
theorem ensures_serve {calls : List Call} (hcalls : ∀ call ∈ calls, call.Suits config P R)
    (h : Between config P R s) :
    (serve config calls).Ensures s
      { done := fun _ t => Between config P R t ∧ Hears (calls.map Call.audio) s t
        raised := fun _ _ => False
        suspended := fun t => Within config P t ∧ HearsSome (calls.map Call.audio) s t } := by
  induction calls generalizing s with
  | nil =>
    refine (ensures_idle h.inv).mono (fun _ t ht => ⟨h.keeps ht, ?_⟩) (fun _ _ he => he)
      fun t ht => ⟨(h.keeps ht).waiting, .of_eq ht.sameAudio.heard⟩
    exact ⟨.of_eq ht.sameAudio.heard, ht.sameAudio.raisedCalls.ge,
      fun _ => by simp [ht.sameAudio.heard]⟩
  | cons call calls ih =>
    have hsuits := hcalls call (List.mem_cons_self ..)
    have hrest := fun call' hmem => hcalls call' (List.mem_cons_of_mem call hmem)
    refine ensures_bind ((ensures_idle h.inv).mono ?_ (fun _ _ he => he)
      fun t ht => ⟨(h.keeps ht).waiting, .of_eq ht.sameAudio.heard⟩)
    intro _ t hst
    have ht := h.keeps hst
    have hsame := hst.sameAudio
    refine ensures_bind (ensures_tryCatch ((ensures_run call hsuits ht.inv ht.selected).mono
      ?_ ?_ ?_))
    · rintro - u ⟨hu, hselected, hshort⟩
      have hheard : u.heard = s.heard ++ call.audio := by
        rw [hu.heard, ← hsame.heard]
        rfl
      have hraised : u.raisedCalls = s.raisedCalls := hu.raisedCalls.trans hsame.raisedCalls
      refine (ih hrest (ht.returned hu hselected hshort)).mono ?_ (fun _ _ he => he) ?_
      · rintro - v ⟨hv, hears⟩
        exact ⟨hv, hears.returned hheard hraised⟩
      · rintro v ⟨hv, hears⟩
        exact ⟨hv, hears.cons (.inr hheard)⟩
    · intro e u hu
      have hheard : u.heard = s.heard ∨ u.heard = s.heard ++ call.audio :=
        hsame.heard ▸ hu.heard
      have hraised : u.raisedCalls + 1 = s.raisedCalls + 1 := by
        rw [hu.raisedCalls, hsame.raisedCalls]
      refine ensures_modify ((ih hrest (.raised hu)).mono ?_ (fun _ _ he => he) ?_)
      · rintro - v ⟨hv, hears⟩
        exact ⟨hv, hears.raised hheard hraised⟩
      · rintro v ⟨hv, hears⟩
        exact ⟨hv, hears.cons hheard⟩
    · rintro u ⟨hu, hcomplete⟩
      refine ⟨⟨hu.inv, ?_, fun hclass => hcomplete hclass (ht.complete hclass)⟩, ?_⟩
      · rw [hu.raisedCalls]
        exact hu.selected
      · exact HearsSome.cons (t := u) (.of_eq rfl) (hsame.heard ▸ hu.heard)

/-- The relay before the first call. -/
lemma between_initial (hR : R 0) : Between config P R {} where
  inv := ⟨by simp, by simp, by simp [Relay.clients], by simp [Relay.clients],
    fun _ => ⟨by simp, by simp, by simp [Relay.clients]⟩⟩
  selected := ⟨[], rfl, rfl, by simp, by simp⟩
  complete := by
    intro _ _ _ client hmem
    cases hmem
  short := fun _ => hR

end Relay

/-! ## The results -/

variable (config : RelayConfig)

/-- The end of a run of the frame processor, from the beginning. -/
def relayRun (calls : List Call) (turns : List Turn) :
    Routine.Outcome Relay Turn (TaskExn PyError) PUnit := serve config calls {} turns

/-- The calls of a run suit what every run keeps. -/
lemma suits_nonempty (call : Call) : call.Suits config (· ≠ []) fun _ => True := by
  cases call with
  | handleAudioFrame frame =>
    intro size hsize
    refine ⟨fun chunk hlength hnil => ?_, fun _ _ => trivial⟩
    have hpos := chunkSizeBytes_pos hsize
    rw [hnil] at hlength
    exact hpos.ne hlength
  | close => exact ⟨fun _ hne => hne, trivial⟩

/-- What every run keeps. -/
lemma within_of_run (calls : List Call) (turns : List Turn) :
    Relay.Within config (· ≠ []) (relayRun config calls turns).state ∧
      HearsSome (calls.map Call.audio) {} (relayRun config calls turns).state := by
  have hrun : (serve config calls).Ensures {}
      { done := fun _ t => Relay.Within config (· ≠ []) t ∧ HearsSome (calls.map Call.audio) {} t
        raised := fun _ t => Relay.Within config (· ≠ []) t ∧
          HearsSome (calls.map Call.audio) {} t
        suspended := fun t => Relay.Within config (· ≠ []) t ∧
          HearsSome (calls.map Call.audio) {} t } :=
    (ensures_serve (fun call _ => suits_nonempty config call) (between_initial trivial)).mono
      (fun _ _ ht => ⟨ht.1.waiting, ht.2.some⟩) (fun _ _ he => he.elim) fun _ ht => ht
  exact hrun.state turns

/-- **The audio is sent in order.**  In every run, the audio that was taken in is that of some of
the calls; it is cut into chunks, what is left being in the buffer, and the chunks that were sent
are these chunks in their order, but for at most one for each call that raised and one that is on
its way. -/
theorem relay_sends_in_order (calls : List Call) (turns : List Turn) :
    ∃ (heard : List Bytes) (chunks : List (Bytes × Bool)),
      heard.Sublist (calls.map Call.audio) ∧
      heard.flatten = (chunks.map Prod.fst).flatten ++ (relayRun config calls turns).state.buffer ∧
      (relayRun config calls turns).state.sends = (chunks.filter (·.2)).map Prod.fst ∧
      (chunks.filter (!·.2)).length ≤ (relayRun config calls turns).state.raisedCalls + 1 := by
  obtain ⟨hwithin, heard, hsub, hheard⟩ := within_of_run config calls turns
  obtain ⟨chunks, hchunks, hsends, -, hlost⟩ := hwithin.selected
  refine ⟨heard, chunks, hsub, ?_, hsends, hlost⟩
  rw [← hchunks, hheard]
  rfl

/-- A relay with chunks of an eighth of a second and utterances of a second. -/
def exampleRelay : RelayConfig :=
  { sessionId := "demo", chunkMs := 125, maxBufferSeconds := .finite 1 }

/-- **An utterance stays below the buffer cap.**  In every run, what was sent to one client is
within the cap for its format, unless it is a single chunk. -/
theorem utterances_within_cap (calls : List Call) (turns : List Turn) :
    ∀ client ∈ (relayRun config calls turns).state.clients,
      client.sent = [] ∨
        ∃ cap, maxBufferBytes config client.sampleRate client.numChannels = .ok cap ∧
          (client.sent.length = 1 ∨ client.bytesSent ≤ cap) :=
  fun client hmem => (within_of_run config calls turns).1.inv.within client hmem

/-- Ten chunks at eight samples a second are two utterances; the first one fills the cap. -/
theorem utterances_within_cap_twenty_bytes : ∃ (client : AsrClient) (cap : ℕ),
    client.sent.length = 8 ∧
      maxBufferBytes exampleRelay client.sampleRate client.numChannels = .ok cap ∧
      (client.sent.length = 1 ∨ client.bytesSent ≤ cap) := by
  have hclients : (relayRun exampleRelay
      [.handleAudioFrame { audio := some (List.replicate 20 0), sampleRate := some 8 }]
      (List.replicate 9 (.answer (.ok none)) ++
        [.receive (.event (some { type := "final", text := "", isFinal := true }))] ++
        List.replicate 9 (.answer (.ok none)))).state.clients.map (·.sent.length) = [8, 2] := by
    decide +kernel
  obtain ⟨client, rest, hclient, hlength, -⟩ := List.map_eq_cons_iff.mp hclients
  have hmem := hclient ▸ List.mem_cons_self ..
  rcases utterances_within_cap exampleRelay _ _ client hmem with hnone | ⟨cap, hcap, hwithin⟩
  · rw [hnone] at hlength
    cases hlength
  · exact ⟨client, cap, hlength, hcap, hwithin⟩

/-- **One final event for each utterance.**  In every run with Local STT clients, a final event is
the last event of its client that is forwarded; and as long as no call raised and no failure was
reported, every client that was closed after audio was sent to it had its final event forwarded. -/
theorem one_final_per_utterance (calls : List Call) (turns : List Turn) :
    let s := (relayRun { config with clientClass := .asyncLocalStt } calls turns).state
    (∀ client ∈ s.clients, ∀ event ∈ client.forwarded.dropLast, event.isFinal = false) ∧
      (s.failures = [] → s.raisedCalls = 0 →
        ∀ client, (client, .closed) ∈ s.formerClients → client.sent ≠ [] →
          ∃ event, client.forwarded.getLast? = some event ∧ event.isFinal = true) := by
  intro s
  obtain ⟨hwithin, -⟩ :=
    within_of_run { config with clientClass := .asyncLocalStt } calls turns
  exact ⟨(hwithin.inv.finals rfl).finalLast, hwithin.complete rfl⟩

/-- Of two utterances at eight samples a second, the first is closed when the second begins, after
its final event was forwarded. -/
theorem one_final_per_utterance_rolled : ∃ (calls : List Call) (turns : List Turn)
    (client : AsrClient) (event : TranscriptEvent),
    (client, .closed) ∈ (relayRun exampleRelay calls turns).state.formerClients ∧
      client.sent.length = 8 ∧ client.forwarded.getLast? = some event ∧ event.isFinal = true := by
  obtain ⟨calls, turns, hrun⟩ : ∃ (calls : List Call) (turns : List Turn),
      let s := (relayRun exampleRelay calls turns).state
      (s.formerClients.map fun former => (former.1.sent.length, former.2)) = [(8, .closed)] ∧
        s.failures = [] ∧ s.raisedCalls = 0 :=
    ⟨[.handleAudioFrame { audio := some (List.replicate 20 0), sampleRate := some 8 }],
      List.replicate 9 (.answer (.ok none)) ++
        [.receive (.event (some { type := "final", text := "", isFinal := true }))] ++
        List.replicate 9 (.answer (.ok none)), by decide +kernel⟩
  obtain ⟨hformer, hfailures, hraised⟩ := hrun
  obtain ⟨⟨client, ending⟩, rest, heq, hview, -⟩ := List.map_eq_cons_iff.mp hformer
  obtain ⟨hlength, rfl⟩ := Prod.mk.inj hview
  have hmem := heq ▸ List.mem_cons_self ..
  have hsent : client.sent ≠ [] := List.ne_nil_of_length_eq_add_one hlength
  obtain ⟨event, hlast, hfinal⟩ :=
    (one_final_per_utterance exampleRelay calls turns).2 hfailures hraised client hmem hsent
  exact ⟨calls, turns, client, event, hmem, hlength, hlast, hfinal⟩

/-- **The chunks do not depend on the frames.**  When a run in which no call raised has handed
frames of one format to the relay, all the chunks sent have the size for that format, and together
with the rest, which is shorter, they are the audio of the frames. -/
theorem relay_chunks {frames : List AudioFrame} {turns rest : List Turn} {s : Relay}
    {sampleRate numChannels : ℤ} {size : ℕ}
    (hformat : ∀ frame ∈ frames, frame.rate = sampleRate ∧ frame.channels = numChannels)
    (hsize : chunkSizeBytes config sampleRate numChannels = .ok size)
    (hrun : relayRun config (frames.map .handleAudioFrame) turns = .done ⟨⟩ s rest)
    (hraised : s.raisedCalls = 0) :
    (∀ chunk ∈ s.sends, chunk.length = size) ∧
      s.sends.flatten ++ s.buffer = (frames.map fun frame => frame.audio.getD []).flatten ∧
      s.buffer.length < size := by
  have hcalls : ∀ call ∈ frames.map Call.handleAudioFrame,
      call.Suits config (·.length = size) (· < size) := by
    intro call hmem
    obtain ⟨frame, hframe, rfl⟩ := List.mem_map.mp hmem
    obtain ⟨hrate, hchannels⟩ := hformat frame hframe
    intro size' hsize'
    rw [hrate, hchannels, hsize] at hsize'
    obtain rfl := Except.ok.inj hsize'
    exact ⟨fun chunk hlength => hlength, fun n hn => hn⟩
  have hends := ensures_serve hcalls (between_initial (chunkSizeBytes_pos hsize)) turns
  rw [show serve config (frames.map .handleAudioFrame) {} turns = .done ⟨⟩ s rest from hrun]
    at hends
  obtain ⟨hbetween, hears⟩ := hends
  obtain ⟨chunks, hheard, hsends, hlength, hlost⟩ := hbetween.selected
  have hall : chunks.filter (·.2) = chunks := by
    refine List.filter_eq_self.mpr fun chunk hmem => ?_
    by_contra hunsent
    have hmem' : chunk ∈ chunks.filter (!·.2) := by simpa [hmem] using hunsent
    have hpos := List.length_pos_of_mem hmem'
    omega
  rw [hall] at hsends
  refine ⟨fun chunk hmem => ?_, ?_, hbetween.short hraised⟩
  · rw [hsends] at hmem
    obtain ⟨p, hp, rfl⟩ := List.mem_map.mp hmem
    exact hlength p hp
  · rw [hsends, ← hheard, hears.all hraised, List.map_map]
    rfl

/-- Three bytes at eight samples a second are a chunk and a byte that is left. -/
theorem relay_chunks_three_bytes : ∃ s : Relay,
    (∀ chunk ∈ s.sends, chunk.length = 2) ∧ s.sends.flatten ++ s.buffer = [1, 2, 3] ∧
      s.buffer.length < 2 := by
  have hdone : ((relayRun exampleRelay
      (([{ audio := some [1, 2, 3], sampleRate := some 8 }] : List AudioFrame).map
        .handleAudioFrame)
      (List.replicate 4 (.answer (.ok none)))).done?.map fun end_ => end_.2.1.raisedCalls) =
        some 0 := by
    decide +kernel
  obtain ⟨⟨⟨⟩, s, rest⟩, hend, hraised⟩ := Option.map_eq_some_iff.mp hdone
  exact ⟨s, relay_chunks exampleRelay
    (by decide : ∀ frame ∈ _, AudioFrame.rate frame = 8 ∧ AudioFrame.channels frame = 1)
    (by decide +kernel) (Routine.Outcome.eq_done_of_done? hend) hraised⟩

end RtcAsr.Bridge
