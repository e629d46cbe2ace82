import RtcAsr.Bridge.RelayFidelity
import RtcAsr.Server.Connection

/-!
# The utterances of the relay and the buffer of the server

The relay starts its clients with its own `max_buffer_seconds`, from which the server takes the
limit of the session's audio buffer.  The relay rounds down to bytes and the server to the nearest
sample, so the two limits differ by at most a byte, and audio in whole samples that is within the
one is within the other.
-/

namespace RtcAsr.Bridge

open Relay

/-! ## The two limits -/

/-- A small integer is a float. -/
lemma intToFloat_of_small {n : ℤ} (hpos : 0 < n) (hsmall : n ≤ 2 ^ 53) :
    intToFloat n = .ok n := by
  have hq : (0 : ℚ) < n := by exact_mod_cast hpos
  have hrep : Binary64.Representable n :=
    Binary64.representable_intCast (abs_le.mpr ⟨by linarith, hsmall⟩)
  have hbound : ¬ Binary64.Overflows n := by
    rw [Binary64.overflows_iff hq, not_le]
    have hle : (n : ℚ) ≤ 2 ^ 53 := by exact_mod_cast hsmall
    have hpow : (1 : ℚ) ≤ 2 ^ (970 : ℤ) := one_le_zpow₀ (by norm_num) (by norm_num)
    unfold Binary64.overflowBound
    generalize (2 : ℚ) ^ (970 : ℤ) = p at hpow
    norm_num at hle ⊢
    linarith
  rw [intToFloat, if_neg hbound, hrep.round_eq hq]

/-- The integer part of twice a number and its rounding. -/
lemma floor_two_mul_le (y : ℚ) : ⌊2 * y⌋ ≤ 2 * Binary64.roundHalfEven y + 1 := by
  rcases Binary64.roundHalfEven_eq_or y with h | h
  · rw [h]
    by_contra hlt
    have hup : (2 * ⌊y⌋ + 2 : ℤ) ≤ ⌊2 * y⌋ := by omega
    have hle : ((2 * ⌊y⌋ + 2 : ℤ) : ℚ) ≤ 2 * y := Int.le_floor.mp hup
    push_cast at hle
    have hfloor := Int.lt_floor_add_one y
    linarith
  · rw [h]
    have hfloor := Int.lt_floor_add_one y
    have hlt : ⌊2 * y⌋ < 2 * ⌊y⌋ + 2 := by
      rw [Int.floor_lt]
      push_cast
      linarith
    omega

/-- The finite values of a product. -/
lemma ofRat_eq_finite {x v : ℚ} (h : PyFloat.ofRat x = .finite v) : v = Binary64.round x := by
  unfold PyFloat.ofRat at h
  split_ifs at h
  cases h
  rfl

/-- The limits for a finite number of seconds. -/
lemma floor_round_le (x : ℚ) :
    (if 0 ≤ Binary64.round (2 * x) then ⌊Binary64.round (2 * x)⌋
      else ⌈Binary64.round (2 * x)⌉) ≤
      max 1 (2 * Binary64.roundHalfEven (Binary64.round x) + 1) := by
  by_cases hx : (2 : ℚ) ^ (-1022 : ℤ) ≤ x
  · have hpos : 0 < x := lt_of_lt_of_le (by positivity) hx
    rw [Binary64.round_two_mul hx, if_pos (mul_nonneg zero_le_two
      (Binary64.round_nonneg hpos.le))]
    exact (floor_two_mul_le _).trans (le_max_right _ _)
  · have hsmall : Binary64.round (2 * x) ≤ 1 := by
      have hone : (2 : ℚ) ^ (-1022 : ℤ) ≤ 1 / 2 := by
        have hle := zpow_le_zpow_right₀ (a := (2 : ℚ)) (by norm_num)
          (show (-1022 : ℤ) ≤ -1 by norm_num)
        norm_num at hle ⊢
        exact hle
      rcases le_or_gt (2 * x) 0 with hneg | hpos
      · have hzero := Binary64.round_le_mul_ulp (x := 2 * x) (z := 0) (by simpa using hneg)
        simp only [Int.cast_zero, zero_mul] at hzero
        linarith
      · have hrep : Binary64.Representable 1 := by
          simpa using Binary64.representable_intCast (z := 1) (by norm_num)
        exact hrep.round_le hpos (by linarith [not_le.mp hx])
    refine le_max_of_le_left ?_
    split_ifs
    · exact Int.floor_le_ceil _ |>.trans (Int.ceil_le.mpr (by simpa using hsmall))
    · exact Int.ceil_le.mpr (by simpa using hsmall)

/-- **The two limits.**  The cap of the relay is at most a byte above the limit of the server. -/
lemma maxBufferBytes_le {config : RelayConfig} {cap limit : ℕ}
    (hcap : maxBufferBytes config 16000 1 = .ok cap)
    (hlimit : secondsToBufferBytes config.maxBufferSeconds 16000 = .ok limit) :
    cap ≤ limit + 1 ∧ Even limit := by
  have hrate : intToFloat 16000 = .ok 16000 := intToFloat_of_small (by norm_num) (by norm_num)
  have hdouble : intToFloat (16000 * 1 * 2) = .ok 32000 := by
    have h := intToFloat_of_small (n := 16000 * 1 * 2) (by norm_num) (by norm_num)
    norm_num at h ⊢
    exact h
  simp only [maxBufferBytes, hdouble, Bind.bind, Except.bind, Pure.pure, Except.pure] at hcap
  simp only [secondsToBufferBytes, hrate, Bind.bind, Except.bind, Pure.pure, Except.pure] at hlimit
  cases hseconds : config.maxBufferSeconds with
  | finite q =>
    simp only [hseconds, mulFinite, PyFloat.mulPos] at hcap hlimit
    cases hx : PyFloat.ofRat (32000 * q) with
    | finite v =>
      cases hy : PyFloat.ofRat (q * 16000) with
      | finite w =>
        simp only [hx, hy, floatToInt, PyFloat.toIntRound] at hcap hlimit
        have hbound := floor_round_le (q * 16000)
        rw [show 2 * (q * 16000) = 32000 * q by ring, ← ofRat_eq_finite hx, ← ofRat_eq_finite hy]
          at hbound
        obtain rfl := Except.ok.inj hcap
        obtain rfl := Except.ok.inj hlimit
        refine ⟨?_, even_two.mul_left _⟩
        generalize (if 0 ≤ v then ⌊v⌋ else ⌈v⌉) = size at hbound
        omega
      | inf => simp [hy, PyFloat.toIntRound] at hlimit
      | negInf => simp [hy, PyFloat.toIntRound] at hlimit
      | nan => simp [hy, PyFloat.toIntRound] at hlimit
    | inf => simp [hx, floatToInt] at hcap
    | negInf => simp [hx, floatToInt] at hcap
    | nan => simp [hx, floatToInt] at hcap
  | inf => simp [hseconds, PyFloat.mulPos, PyFloat.toIntRound] at hlimit
  | negInf => simp [hseconds, PyFloat.mulPos, PyFloat.toIntRound] at hlimit
  | nan => simp [hseconds, PyFloat.mulPos, PyFloat.toIntRound] at hlimit

/-! ## The session of an utterance -/

/-- Chunks that fit into the buffer of a session together are taken in one after the other. -/
lemma appendAudio_of_fits {session : StreamSession} {chunks : List Bytes}
    (hfits : session.audioBuffer.length + chunks.flatten.length ≤ session.maxBufferBytes) :
    ∃ session', chunks.foldlM StreamSession.appendAudio session = .ok session' ∧
      session'.audioBuffer = session.audioBuffer ++ chunks.flatten := by
  induction chunks generalizing session with
  | nil => exact ⟨session, rfl, by simp⟩
  | cons chunk chunks ih =>
    rw [List.flatten_cons, List.length_append] at hfits
    have happend : session.appendAudio chunk = .ok
        { session with
          audioBuffer := session.audioBuffer ++ chunk
          chunksReceived := session.chunksReceived + 1 } := by
      rw [StreamSession.appendAudio, if_neg (by omega)]
    have hfits' : (session.audioBuffer ++ chunk).length + chunks.flatten.length ≤
        session.maxBufferBytes := by
      rw [List.length_append]
      omega
    obtain ⟨session', hrest, hbuffer⟩ := @ih
      { session with
        audioBuffer := session.audioBuffer ++ chunk
        chunksReceived := session.chunksReceived + 1 } hfits'
    refine ⟨session', ?_, ?_⟩
    · rw [List.foldlM_cons, happend]
      exact hrest
    · rw [hbuffer, List.flatten_cons, List.append_assoc]

/-- Chunks of whole samples have an even number of bytes. -/
lemma even_flatten {chunks : List Bytes} (h : ∀ chunk ∈ chunks, Even chunk.length) :
    Even chunks.flatten.length := by
  induction chunks with
  | nil => simp
  | cons chunk chunks ih =>
    rw [List.flatten_cons, List.length_append]
    exact (h chunk (List.mem_cons_self ..)).add
      (ih fun chunk' hmem => h chunk' (List.mem_cons_of_mem chunk hmem))

/-- The start message of the relay's clients. -/
def startMessage (config : RelayConfig) : StartMessage :=
  { audio := hotPathAudio
    language := some "en"
    partialIntervalMs := some config.chunkMs
    maxBufferSeconds := some config.maxBufferSeconds
    clientStreamId := some config.sessionId }

/-- The limits in the configuration of a start message. -/
lemma startConfig_limits {start : StartMessage} {legacyChunks : Json}
    {payload : LocalSttStartConfig}
    (h : startConfig start legacyChunks = .ok payload) :
    payload.start = start ∧ payload.maxBufferSeconds = start.maxBufferSeconds ∧
      payload.partialWindowSeconds = start.partialWindowSeconds := by
  unfold startConfig at h
  split at h
  · obtain rfl := Except.ok.inj h
    exact ⟨rfl, rfl, rfl⟩
  · cases h

/-- **No utterance overruns the server's buffer.**  Whatever the relay sends to one client in a run,
the session that the server creates for the relay's start message takes in chunk after chunk, if no
single chunk is larger than its buffer and the service does not limit the buffer further. -/
theorem utterance_fits_session {config : RelayConfig} (calls : List Call) (turns : List Turn)
    {payload : LocalSttStartConfig} {streamMaxBufferBytes streamId : ℕ} {session : StreamSession}
    (hstart : startConfig (startMessage config) .null = .ok payload)
    (hsession : createLocalSttStreamSession payload streamMaxBufferBytes streamId = .ok session)
    (hservice : ∀ limit, secondsToBufferBytes config.maxBufferSeconds 16000 = .ok limit →
      limit ≤ streamMaxBufferBytes)
    {client : AsrClient} (hclient : client ∈ (relayRun config calls turns).state.clients)
    (hformat : client.sampleRate = 16000 ∧ client.numChannels = 1)
    (heven : ∀ chunk ∈ client.sent, Even chunk.length)
    (hchunk : ∀ chunk ∈ client.sent, chunk.length ≤ session.maxBufferBytes) :
    ∃ session', client.sent.foldlM StreamSession.appendAudio session = .ok session' ∧
      session'.audioBuffer = client.sent.flatten := by
  obtain ⟨hpayload, hseconds, -⟩ := startConfig_limits hstart
  have hrate : payload.start.audio.sampleRate = 16000 := by
    rw [hpayload]
    rfl
  obtain ⟨limited, window, hlimited, -, rfl⟩ := createLocalSttStreamSession_eq_ok hsession
  rw [hseconds, hrate, startMessage, bytesWithin] at hlimited
  cases hlimit : secondsToBufferBytes config.maxBufferSeconds 16000 with
  | error e =>
    rw [hlimit] at hlimited
    cases hlimited
  | ok limit =>
    rw [hlimit] at hlimited
    obtain rfl : some (min streamMaxBufferBytes limit) = limited := Except.ok.inj hlimited
    simp only [Option.getD_some, min_eq_right (hservice limit hlimit)] at hchunk
    refine appendAudio_of_fits ?_
    simp only [List.length_nil, zero_add, Option.getD_some, min_eq_right (hservice limit hlimit)]
    rcases (within_of_run config calls turns).1.inv.within client hclient with
      hnil | ⟨cap, hcap, hone | hbytes⟩
    · simp [hnil]
    · obtain ⟨chunk, hsent⟩ := List.length_eq_one_iff.mp hone
      rw [hsent]
      simpa using hchunk chunk (hsent ▸ List.mem_cons_self ..)
    · rw [hformat.1, hformat.2] at hcap
      obtain ⟨hle, b, hb⟩ := maxBufferBytes_le hcap hlimit
      obtain ⟨a, ha⟩ := even_flatten heven
      have htotal : client.sent.flatten.length ≤ limit + 1 := hbytes.trans hle
      omega

/-- A computation that succeeds has a value. -/
lemma exists_ok_of_toBool {ε α : Type} {x : Except ε α} (h : x.toBool = true) : ∃ a, x = .ok a := by
  cases x with
  | error e => cases h
  | ok a => exact ⟨a, rfl⟩

/-- The start message of a relay with utterances of a second gives a session with 32000 bytes. -/
lemma exists_session :
    ∃ payload session, startConfig (startMessage exampleRelay) .null = .ok payload ∧
    createLocalSttStreamSession payload 32000 1 = .ok session ∧ session.maxBufferBytes = 32000 := by
  have hbytes : bytesWithin 32000 (some (.finite 1)) 16000 = .ok (some 32000) := by decide +kernel
  have hparse : (startConfig (startMessage exampleRelay) .null).toBool = true := by decide +kernel
  obtain ⟨payload, hstart⟩ := exists_ok_of_toBool hparse
  obtain ⟨hpayload, hseconds, hwindow⟩ := startConfig_limits hstart
  have hlimited : bytesWithin 32000 payload.maxBufferSeconds payload.start.audio.sampleRate =
      .ok (some 32000) := by
    rw [hseconds, hpayload]
    exact hbytes
  have hwhole : bytesWithin 32000 payload.partialWindowSeconds payload.start.audio.sampleRate =
      .ok none := by
    rw [hwindow]
    rfl
  have hopen : (createLocalSttStreamSession payload 32000 1).toBool = true := by
    unfold createLocalSttStreamSession
    simp only [hlimited, hwhole, Bind.bind, Except.bind, Option.getD_some]
    rfl
  obtain ⟨session, hsession⟩ := exists_ok_of_toBool hopen
  refine ⟨payload, session, hstart, hsession, ?_⟩
  obtain ⟨limited, window, hlimited', -, rfl⟩ := createLocalSttStreamSession_eq_ok hsession
  obtain rfl := Except.ok.inj (hlimited.symm.trans hlimited')
  rfl

/-- Two bytes that are sent when the relay is closed. -/
theorem utterance_fits_session_two_bytes : ∃ session session' : StreamSession,
    ([[1, 2]] : List Bytes).foldlM StreamSession.appendAudio session = .ok session' ∧
      session'.audioBuffer = [1, 2] := by
  obtain ⟨payload, session, hstart, hsession, hmax⟩ := exists_session
  have hclients : ((relayRun exampleRelay [.handleAudioFrame { audio := some [1, 2] }, .close]
      (List.replicate 4 (.answer (.ok none)))).state.clients.map fun client =>
        (client.sent, client.sampleRate, client.numChannels)) = [([[1, 2]], 16000, 1)] := by
    decide +kernel
  obtain ⟨client, rest, hclient, hview, -⟩ := List.map_eq_cons_iff.mp hclients
  have hsent : client.sent = [[1, 2]] := congrArg Prod.fst hview
  have hfits := utterance_fits_session _ _ hstart hsession
    (fun limit hlimit => by
      have hbytes : secondsToBufferBytes exampleRelay.maxBufferSeconds 16000 = .ok 32000 := by
        decide +kernel
      exact (Except.ok.inj (hbytes.symm.trans hlimit)).ge)
    (hclient ▸ List.mem_cons_self .. : client ∈ _)
    ⟨congrArg (·.2.1) hview, congrArg (·.2.2) hview⟩
    (by rw [hsent]; decide) (by rw [hsent, hmax]; decide)
  rw [hsent] at hfits
  exact ⟨session, hfits⟩

end RtcAsr.Bridge
