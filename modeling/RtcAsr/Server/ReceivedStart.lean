import RtcAsr.Protocol.Redump
import RtcAsr.Server.ClientInput
import RtcAsr.Server.Delivery

/-!
# Streams come from received start messages

A stream is created for a start message that was taken off the transport, and a start message that
the translators let through has a positive cadence.  `stream_invariant_of_received` is the rule for
properties of streams that rest on this.
-/

namespace RtcAsr

open Validated

/-! ## What a received start message is -/

/-- The cadence of the interim results is positive. -/
structure LocalSttStartConfig.Cadenced (config : LocalSttStartConfig) : Prop where
  chunks : 0 < config.partialIntervalChunks
  audio : ∀ ms, config.partialIntervalAudioMs = some ms → 0 < ms

/-- A message that parses is valid. -/
lemma validateClientMessage_of_parse {d : Dict} {m : ClientMessage}
    (h : parseClientMessage d = .ok m) : m.Valid := by
  refine ⟨d, ?_⟩
  rw [parseClientMessage] at h
  cases hd : validateClientMessage d with
  | valid m' =>
    rw [hd] at h
    rw [Except.ok.inj h]
  | invalid e es =>
    rw [hd] at h
    cases h
  | raised e =>
    rw [hd] at h
    cases h

/-- A validated audio format has the frame length of the hot path. -/
lemma frameMs_of_validateAudioFormat {j : Json} {audio : AudioFormat}
    (h : validateAudioFormat j = valid audio) : audio.frameMs = HOT_PATH_FRAME_MS := by
  cases j with
  | obj d =>
    obtain ⟨audio', -, hpath⟩ := andThen_eq_valid.mp h
    unfold AudioFormat.validateHotPath at hpath
    split_ifs at hpath with _ _ _ hframe
    · cases hpath
    · cases hpath
    · cases hpath
    · cases hpath
    · cases hpath
    · obtain rfl := Validated.valid.inj hpath
      exact not_not.mp hframe
  | _ => cases h

/-- The cadence of a parsed start message is positive. -/
lemma startConfig_cadenced {start : StartMessage} {legacy : Json} {config : LocalSttStartConfig}
    (hframe : start.audio.frameMs = HOT_PATH_FRAME_MS)
    (h : startConfig start legacy = .ok config) : config.Cadenced := by
  unfold startConfig at h
  cases hinterval : partialInterval start legacy with
  | error e =>
    rw [hinterval] at h
    cases h
  | ok cadence =>
    rw [hinterval] at h
    obtain rfl := Except.ok.inj h
    unfold partialInterval at hinterval
    split at hinterval
    · next ms hms =>
      unfold partialIntervalChunks at hinterval
      cases hdiv : intTrueDiv ms start.audio.frameMs with
      | error e =>
        rw [hdiv] at hinterval
        cases hinterval
      | ok q =>
        rw [hdiv] at hinterval
        obtain rfl := Except.ok.inj hinterval
        have hchunks : 0 < max 1 ⌈q⌉ := lt_max_of_lt_left one_pos
        refine ⟨hchunks, ?_⟩
        rintro _ ⟨⟩
        rw [hframe]
        exact mul_pos hchunks (by decide)
    · split_ifs at hinterval
      · obtain rfl := Except.ok.inj hinterval
        exact ⟨one_pos, nofun⟩
      · split at hinterval
        · next chunks hchunks =>
          obtain rfl := Except.ok.inj hinterval
          refine ⟨?_, nofun⟩
          unfold isPositiveInteger at hchunks
          split at hchunks
          · split_ifs at hchunks with hpos
            obtain rfl := Option.some.inj hchunks
            exact hpos
          · cases hchunks
        · cases hinterval

/-- The start messages the translators let through have a positive cadence. -/
lemma parseLocalSttStartMessage_cadenced {payload : Dict} {config : LocalSttStartConfig}
    (h : parseLocalSttStartMessage payload = .ok config) : config.Cadenced := by
  unfold parseLocalSttStartMessage at h
  dsimp only at h
  split at h
  · cases h
  · split at h
    · next start hparse =>
      obtain ⟨d, hd⟩ := (validateClientMessage_of_parse hparse).cases
      obtain ⟨haudio, -⟩ := validateStart_eq_valid hd
      obtain ⟨j, -, hj⟩ := field_required_eq_valid haudio
      exact startConfig_cadenced (frameMs_of_validateAudioFormat hj) h
    · cases h
    · cases h

/-- A start event was parsed from a start message. -/
lemma parse_of_startEvent {x : Except Exn LocalSttStartConfig} {config : LocalSttStartConfig}
    (h : startEvent x = .ok (.start config)) : x = .ok config := by
  cases x with
  | error e => cases h
  | ok config' =>
    cases h
    rfl

/-- A message that is no start message is no start event. -/
lemma event_ne_start (m : ClientMessage) (config : LocalSttStartConfig) :
    m.event ≠ .ok (.start config) := by
  cases m <;> nofun

/-- The start events a transport delivers have a positive cadence. -/
theorem receiveClientInput_cadenced {loads : Bytes → JsonText} {input : ClientInput}
    {config : LocalSttStartConfig}
    (h : receiveClientInput loads input = .ok (.start config)) : config.Cadenced := by
  cases input with
  | webSocket message =>
    have h : receiveLocalSttEvent message = .ok (.start config) := h
    unfold receiveLocalSttEvent at h
    split at h
    · cases h
    · split at h <;> cases h
    · unfold parseLocalSttClientEvent at h
      split_ifs at h
      · exact parseLocalSttStartMessage_cadenced (parse_of_startEvent h)
      · cases h
      · split at h
        · exact absurd h (event_ne_start _ _)
        · cases h
    · cases h
    · cases h
    · cases h
    · cases h
  | rawUds data =>
    unfold receiveClientInput at h
    dsimp only at h
    split at h
    · unfold receiveRawUdsFrame at h
      split at h
      · unfold rawUdsEvent at h
        split at h
        · cases h
        · exact parseLocalSttStartMessage_cadenced (parse_of_startEvent h)
        · exact absurd h (event_ne_start _ _)
      · cases h
    · cases h
  | rawUdsLost name message => cases h

/-! ## Streams and received messages -/

namespace Conn

variable {env : ServerEnv} {c c' : Conn}

/-- An exception starts no stream. -/
lemma raise_stream (h : c.stream = none) (e : Exn) : (c.raise e).stream = none := by
  have hbegin : ∀ s k, ({ c with services := s }.beginStop k).stream = none := by
    intro s k
    simp only [beginStop, h]
    cases k <;> rfl
  unfold raise
  split
  · exact hbegin c.services _
  · exact hbegin _ _
  · exact hbegin c.services _
  · exact hbegin _ _

/-- A stream is created for a start message the handler acts on. -/
lemma handle_starts (h : c.stream = none) {e : ClientEvent} {r : StreamRuntime}
    (hr : (c.handle env e).stream = some r) :
    ∃ config session, e = .start config ∧
      createLocalSttStreamSession config env.streamMaxBufferBytes c.nextStreamId = .ok session ∧
      r = { session := session } := by
  cases e with
  | start config =>
    simp only [handle, h] at hr
    split at hr
    · rw [raise_stream h] at hr
      cases hr
    · next session hsession => exact ⟨config, session, rfl, hsession, (Option.some.inj hr).symm⟩
  | audio chunk =>
    simp only [handle, h] at hr
    rw [raise_stream h] at hr
    cases hr
  | finalize =>
    simp only [handle, h] at hr
    rw [raise_stream h] at hr
    cases hr
  | cancel =>
    simp only [handle, h] at hr
    rw [raise_stream h] at hr
    cases hr
  | ping message => simp [handle, h] at hr
  | pong message => simp [handle, listen, h] at hr
  | close => simp [handle, beginStop, afterStop, h] at hr

/-- **A stream is created for a start message that was received.** -/
lemma step_starts {a : Act} (hs : c.stream = none) (h : c.step env a = some c')
    {r : StreamRuntime} (hr : c'.stream = some r) :
    ∃ config session, .start config ∈ c.receive.held ∧
      createLocalSttStreamSession config env.streamMaxBufferBytes c.nextStreamId = .ok session ∧
      r = { session := session } := by
  cases a with
  | receive result =>
    simp only [step] at h
    split at h <;> cases h
    rw [show _ = none from hs] at hr
    cases hr
  | wake =>
    simp only [step, wake, hs, Option.map_none] at h
    split at h
    · split at h
      · next e hreceive =>
        cases h
        obtain ⟨config, session, rfl, hsession⟩ := handle_starts rfl hr
        exact ⟨config, session, by rw [hreceive]; simp [ReceiveTask.held], hsession⟩
      · cases h
        rw [raise_stream rfl] at hr
        cases hr
      · cases h
    · cases h
  | startedDecoder result => simp [step, hs] at h
  | handlerSent result =>
    have hnone : c'.stream = none := by
      simp only [step, handlerSent] at h
      split at h <;> cases h
      · exact hs
      · exact hs
      · exact hs
      · exact raise_stream hs _
      · exact raise_stream hs _
      · exact raise_stream hs _
      · exact hs
    rw [hnone] at hr
    cases hr
  | proceed => simp [step, hs] at h
  | handlerDecoderCanceled result => simp [step, hs] at h
  | handlerDecoderClosed result =>
    have hnone : c'.stream = none := by
      simp only [step, handlerDecoderClosed, raiseInStop] at h
      split at h <;> cases h
      · exact hs
      · split_ifs
        · exact raise_stream hs _
        · exact hs
      · split_ifs
        · exact raise_stream hs _
        · exact hs
    rw [hnone] at hr
    cases hr
  | senderCancel => simp [step, hs] at h
  | task a => simp [step, hs] at h
  | modelLoaded =>
    cases h
    rw [show _ = none from hs] at hr
    cases hr

/-- The messages handled and held were taken off the transport. -/
def Known (c : Conn) : Prop := ∀ e ∈ c.handled ++ c.receive.held, e ∈ c.taken

/-- A step forgets no message it took, and takes what it holds. -/
lemma Accounts.known {a : Act} (h : Accounts c a c') (hc : c.Known) :
    (∀ e ∈ c.taken, e ∈ c'.taken) ∧ c'.Known := by
  unfold Known at hc ⊢
  cases h with
  | received hheld htaken hhandled =>
    rw [hheld, List.append_nil] at hc
    rw [htaken, hhandled]
    refine ⟨fun e he => List.mem_append_left _ he, fun e he => ?_⟩
    rcases List.mem_append.mp he with he | he
    · exact List.mem_append_left _ (hc e he)
    · exact List.mem_append_right _ he
  | kept htaken hpresent =>
    rw [htaken, hpresent]
    exact ⟨fun e he => he, hc⟩
  | lost htaken hhandled hheld hheld' =>
    rw [htaken, hhandled, hheld', List.append_nil]
    exact ⟨fun e he => he, fun e he => hc e (List.mem_append_left _ he)⟩

/-- **The rule for streams of received start messages.** If the start messages that were taken off
the transport have a property, then a property of the streams started from such messages that
changes keep holds of the active stream. -/
theorem stream_invariant_of_received {K : LocalSttStartConfig → Prop} {P : StreamRuntime → Prop}
    (hstart : ∀ config streamMaxBufferBytes streamId session, K config →
      createLocalSttStreamSession config streamMaxBufferBytes streamId = .ok session →
        P { session := session })
    (hchange : ∀ r r', P r → StreamRuntime.Change env (fun _ _ => True) r r' → P r')
    (h : (connection env).Reaches {} c) (hK : ∀ config, .start config ∈ c.taken → K config) :
    ∀ r, c.stream = some r → P r := by
  have hinv := StepSystem.invariant (M := connection env)
    (I := fun c => c.Phase ∧ c.Settled ∧ c.Known ∧
      ((∀ config, .start config ∈ c.taken → K config) → ∀ r, c.stream = some r → P r))
    (fun s a s' ⟨hphase, hsettled, hknown, hP⟩ hstep => by
      have hmoves := step_moves hphase (tasksMeet_true s a) hstep
      obtain ⟨haccounts, hsettled'⟩ := step_accounts hsettled hstep
      obtain ⟨htaken, hknown'⟩ := haccounts.known hknown
      refine ⟨hmoves.phase, hsettled', hknown', fun hK r hr => ?_⟩
      have hP := hP fun config hconfig => hK config (htaken _ hconfig)
      cases hs : s.stream with
      | none =>
        obtain ⟨config, session, hheld, hsession, rfl⟩ := step_starts hs hstep hr
        have hconfig : .start config ∈ s'.taken :=
          htaken _ (hknown _ (List.mem_append_right _ hheld))
        exact hstart config _ _ session (hK config hconfig) hsession
      | some r₀ =>
        have hevolves := hmoves.evolves
        rw [hs, hr] at hevolves
        cases hevolves with
        | same => exact hP _ hs
        | change hchanged => exact hchange _ _ (hP _ hs) hchanged)
    ⟨phase_init, settled_init, by simp [Known, ReceiveTask.held], by simp⟩ h
  exact hinv.2.2.2 hK

end Conn
end RtcAsr
