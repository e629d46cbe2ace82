import RtcAsr.Audio.RawPcm
import RtcAsr.Server.DecodeWindow
import RtcAsr.Server.Legacy
import Mathlib.Algebra.Group.Nat.Even

/-!
# Windows of whole samples

The window of a partial is cut from the end of the buffer, and its size is limited by the size of
the buffer, which may be odd.  A limit that bites covers the whole buffer, so that the window begins
and ends at a sample exactly when the buffer does (`aligned_iff`).  A v1 stream takes whole samples
only (`windows_aligned`); the legacy route takes chunks of any length, and a partial that is due in
the middle of a sample is decoded from shifted bytes (`partials_aligned_iff`,
`not_partialsAligned_splitSample`).
-/

namespace RtcAsr

namespace StreamSession

/-- The offset of the partial audio in the buffer. -/
def windowStart (s : StreamSession) : ℕ :=
  s.audioBuffer.length - s.partialWindowBytes.getD s.audioBuffer.length

/-- The buffer keeps to its limit, and the window consists of samples or is as large as the
limit. -/
structure Capped (s : StreamSession) : Prop where
  bounded : s.audioBuffer.length ≤ s.maxBufferBytes
  window : ∀ window, s.partialWindowBytes = some window →
    Even window ∧ 0 < window ∨ s.maxBufferBytes ≤ window

/-- The partial audio begins and ends at a sample of the buffer, and decodes to its last samples. -/
structure Aligned (s : StreamSession) : Prop where
  suffix : s.partialAudioBytes = s.audioBuffer.drop s.windowStart
  start : Even s.windowStart
  length : Even s.partialAudioBytes.length
  decodes : decodePcm16 s.partialAudioBytes =
    .ok ((rawSamples s.audioBuffer).drop (s.windowStart / 2))

variable {s s' : StreamSession} {chunk : Bytes}

/-- The partial audio is the end of the buffer. -/
lemma Capped.partialAudioBytes_eq (hs : s.Capped) :
    s.partialAudioBytes = s.audioBuffer.drop s.windowStart := by
  unfold partialAudioBytes windowStart trailingBytes
  cases hw : s.partialWindowBytes with
  | none => simp
  | some window =>
    simp only [Option.getD_some]
    split_ifs with hcovers hzero
    · rw [Nat.sub_eq_zero_of_le hcovers, List.drop_zero]
    · -- a window of no bytes covers an empty buffer
      rcases hs.window window hw with ⟨-, hpos⟩ | hlimit
      · omega
      · exact absurd (hs.bounded.trans hlimit) hcovers
    · rfl

/-- The length of the partial audio. -/
lemma Capped.length_partialAudioBytes (hs : s.Capped) :
    s.partialAudioBytes.length =
      min s.audioBuffer.length (s.partialWindowBytes.getD s.audioBuffer.length) := by
  rw [hs.partialAudioBytes_eq, List.length_drop, windowStart]
  omega

/-- **The window is aligned exactly when the buffer ends at a sample.** -/
theorem Capped.aligned_iff (hs : s.Capped) : s.Aligned ↔ Even s.audioBuffer.length := by
  have hsplit : s.windowStart + s.partialAudioBytes.length = s.audioBuffer.length := by
    rw [hs.length_partialAudioBytes, windowStart]
    omega
  constructor
  · intro h
    rw [← hsplit]
    exact h.start.add h.length
  · intro heven
    have hstart : Even s.windowStart := by
      unfold windowStart
      cases hw : s.partialWindowBytes with
      | none => simp
      | some window =>
        simp only [Option.getD_some]
        rcases hs.window window hw with ⟨hwindow, -⟩ | hlimit
        · exact heven.tsub hwindow
        · rw [Nat.sub_eq_zero_of_le (hs.bounded.trans hlimit)]
          exact Even.zero
    have hlength : Even s.partialAudioBytes.length := by
      rw [← hsplit] at heven
      exact (Nat.even_add.mp heven).mp hstart
    refine ⟨hs.partialAudioBytes_eq, hstart, hlength, ?_⟩
    have hhalf : 2 * (s.windowStart / 2) = s.windowStart := Nat.two_mul_div_two_of_even hstart
    rw [decodePcm16, if_neg (by rw [not_not]; exact Nat.even_iff.mp hlength),
      hs.partialAudioBytes_eq, rawSamples, scaledWords, scaledWords, ← List.map_drop,
      ← SampleWords.words_drop, hhalf]

/-- An accepted chunk keeps the buffer capped. -/
lemma Capped.appendAudio (hs : s.Capped) (h : s.appendAudio chunk = .ok s') : s'.Capped := by
  have hbounded := StreamRuntime.length_le_of_appendAudio h
  obtain rfl := appendAudio_eq_ok h
  exact ⟨hbounded, hs.window⟩

end StreamSession

/-- A number of bytes within a limit is a number of samples, or the limit. -/
lemma even_of_bytesWithin {limit window : ℕ} {seconds : Option PyFloat} {sampleRate : ℤ}
    (h : bytesWithin limit seconds sampleRate = .ok (some window)) :
    Even window ∧ 0 < window ∨ limit ≤ window := by
  unfold bytesWithin at h
  cases seconds with
  | none => cases h
  | some seconds =>
    cases hbytes : secondsToBufferBytes seconds sampleRate with
    | error e =>
      simp only [hbytes] at h
      cases h
    | ok n =>
      simp only [hbytes] at h
      obtain rfl : min limit n = window := Option.some.inj (Except.ok.inj h)
      have hn : ∃ samples, 0 < samples ∧ n = samples * 2 := by
        unfold secondsToBufferBytes at hbytes
        simp only [bind, Except.bind, pure, Except.pure] at hbytes
        split at hbytes
        · cases hbytes
        · split at hbytes
          · cases hbytes
          · rename_i samples _
            refine ⟨(max 1 samples).toNat, ?_, (Except.ok.inj hbytes).symm⟩
            have : 1 ≤ max 1 samples := le_max_left ..
            omega
      obtain ⟨samples, hpos, rfl⟩ := hn
      rcases le_total limit (samples * 2) with hle | hle
      · exact .inr (by rw [min_eq_left hle])
      · refine .inl ?_
        rw [min_eq_right hle]
        exact ⟨⟨samples, by omega⟩, by omega⟩

/-- A number of bytes within a limit is at most the limit. -/
lemma getD_bytesWithin_le {limit : ℕ} {seconds : Option PyFloat} {sampleRate : ℤ}
    {limited : Option ℕ} (h : bytesWithin limit seconds sampleRate = .ok limited) :
    limited.getD limit ≤ limit := by
  unfold bytesWithin at h
  cases seconds with
  | none =>
    obtain rfl := Except.ok.inj h
    exact le_rfl
  | some seconds =>
    cases hbytes : secondsToBufferBytes seconds sampleRate with
    | error e =>
      simp only [hbytes] at h
      cases h
    | ok n =>
      simp only [hbytes] at h
      obtain rfl := Except.ok.inj h
      exact min_le_left ..

/-! ## Local STT v1 -/

/-- A chunk of the client is validated and appended: the session afterwards, and the exception that
is raised. -/
def StreamSession.receiveAudio (s : StreamSession) (chunk : Bytes) :
    StreamSession × Option Exn :=
  match validateAudioChunk chunk with
  | .error e => (s, some e)
  | .ok audio =>
    match s.appendAudio audio with
    | .error e => (s, some e)
    | .ok s => (s, none)

/-- The session after the chunks. -/
def StreamSession.receiveAll (s : StreamSession) (chunks : List Bytes) : StreamSession :=
  chunks.foldl (fun s chunk => (s.receiveAudio chunk).1) s

/-- A created session is capped, within the limit of the service. -/
lemma createLocalSttStreamSession_capped {payload : LocalSttStartConfig}
    {streamMaxBufferBytes streamId : ℕ} {s : StreamSession}
    (h : createLocalSttStreamSession payload streamMaxBufferBytes streamId = .ok s) :
    s.Capped ∧ s.maxBufferBytes ≤ streamMaxBufferBytes := by
  obtain ⟨limited, window, hlimited, hwindow, rfl⟩ := createLocalSttStreamSession_eq_ok h
  refine ⟨⟨Nat.zero_le _, fun w hw => ?_⟩, ?_⟩
  · have hw : window = some w := hw
    subst hw
    exact even_of_bytesWithin hwindow
  · exact getD_bytesWithin_le hlimited

/-- The invariant of a v1 session: it is capped, and holds whole samples. -/
structure StreamSession.Sampled (limit : ℕ) (s : StreamSession) : Prop where
  capped : s.Capped
  limited : s.maxBufferBytes ≤ limit
  even : Even s.audioBuffer.length

/-- A chunk keeps the session sampled. -/
lemma StreamSession.Sampled.receiveAudio {limit : ℕ} {s : StreamSession} (hs : s.Sampled limit)
    (chunk : Bytes) : (s.receiveAudio chunk).1.Sampled limit := by
  unfold StreamSession.receiveAudio
  split
  · exact hs
  · rename_i audio hvalid
    split
    · exact hs
    · rename_i s' happend
      have heven : Even audio.length := by
        unfold validateAudioChunk at hvalid
        split_ifs at hvalid with hnil hodd
        obtain rfl := Except.ok.inj hvalid
        exact Nat.even_iff.mpr (not_not.mp hodd)
      have hcapped := hs.capped.appendAudio happend
      obtain rfl := StreamSession.appendAudio_eq_ok happend
      exact ⟨hcapped, hs.limited, by simpa using hs.even.add heven⟩

/-- A created session, and what chunks make of it, is sampled. -/
lemma sampled_of_receiveAll {payload : LocalSttStartConfig} {streamMaxBufferBytes streamId : ℕ}
    {s : StreamSession}
    (hcreate : createLocalSttStreamSession payload streamMaxBufferBytes streamId = .ok s)
    (chunks : List Bytes) : (s.receiveAll chunks).Sampled streamMaxBufferBytes := by
  obtain ⟨hcapped, hlimited⟩ := createLocalSttStreamSession_capped hcreate
  have hnew : s.Sampled streamMaxBufferBytes :=
    ⟨hcapped, hlimited, by simp [(createLocalSttStreamSession_new hcreate).audioBuffer]⟩
  have hfold : ∀ s : StreamSession, s.Sampled streamMaxBufferBytes →
      (s.receiveAll chunks).Sampled streamMaxBufferBytes := by
    unfold StreamSession.receiveAll
    induction chunks with
    | nil => exact fun _ hs => hs
    | cons chunk chunks ih => exact fun s hs => ih _ (hs.receiveAudio chunk)
  exact hfold s hnew

/-- **The windows of a v1 stream are aligned**, for every configuration and all chunks: the buffer
keeps to its limits, a rejected chunk leaves the session unchanged, and the partial audio is the end
of the buffer from a sample on, as long as the window. -/
theorem windows_aligned {payload : LocalSttStartConfig} {streamMaxBufferBytes streamId : ℕ}
    {s : StreamSession}
    (hcreate : createLocalSttStreamSession payload streamMaxBufferBytes streamId = .ok s)
    (chunks : List Bytes) :
    ((s.receiveAll chunks).audioBuffer.length ≤ (s.receiveAll chunks).maxBufferBytes ∧
        (s.receiveAll chunks).maxBufferBytes ≤ streamMaxBufferBytes) ∧
      (∀ chunk s' e, (s.receiveAll chunks).receiveAudio chunk = (s', some e) →
        s' = s.receiveAll chunks) ∧
      (s.receiveAll chunks).Aligned ∧
      ∀ window, (s.receiveAll chunks).partialWindowBytes = some window →
        (s.receiveAll chunks).partialAudioBytes.length =
          min (s.receiveAll chunks).audioBuffer.length window := by
  have hsampled := sampled_of_receiveAll hcreate chunks
  refine ⟨⟨hsampled.capped.bounded, hsampled.limited⟩, fun chunk s' e h => ?_,
    hsampled.capped.aligned_iff.mpr hsampled.even, fun window hwindow => ?_⟩
  · unfold StreamSession.receiveAudio at h
    split at h
    · exact (Prod.mk.inj h).1.symm
    · split at h
      · exact (Prod.mk.inj h).1.symm
      · cases (Prod.mk.inj h).2
  · rw [hsampled.capped.length_partialAudioBytes, hwindow, Option.getD_some]

/-- `windows_aligned` with an odd limit, and a window of 32 bytes: the third chunk is rejected. -/
theorem windows_aligned_oddLimit :
    ∃ s, createLocalSttStreamSession
        { plainStart with partialWindowSeconds := some (.finite (1 / 500)) } 101 1 = .ok s ∧
          s.maxBufferBytes = 101 ∧ s.partialWindowBytes = some 64 ∧
      (s.receiveAll [List.replicate 64 0, List.replicate 36 0, [0, 0]]).audioBuffer.length = 100 ∧
      (s.receiveAll [List.replicate 64 0, List.replicate 36 0, [0, 0]]).Aligned := by
  have hcreate : ((createLocalSttStreamSession
      { plainStart with partialWindowSeconds := some (.finite (1 / 500)) } 101 1).toOption.map
      fun s => (s.maxBufferBytes, s.partialWindowBytes, (s.receiveAll [List.replicate 64 0,
        List.replicate 36 0, [0, 0]]).audioBuffer.length)) = some (101, some 64, 100) := by
    decide +kernel
  obtain ⟨s, hs, hend⟩ := Option.map_eq_some_iff.mp hcreate
  simp only [Prod.mk.injEq] at hend
  obtain ⟨hlimit, hwindow, hlength⟩ := hend
  have hok : createLocalSttStreamSession
      { plainStart with partialWindowSeconds := some (.finite (1 / 500)) } 101 1 = .ok s := by
    cases h : createLocalSttStreamSession
        { plainStart with partialWindowSeconds := some (.finite (1 / 500)) } 101 1 with
    | error e =>
      rw [h] at hs
      cases hs
    | ok s' =>
      rw [h] at hs
      rw [Option.some.inj hs]
  exact ⟨s, hok, hlimit, hwindow, hlength, (windows_aligned hok _).2.2.1⟩

/-! ## The legacy route -/

namespace LegacyConn

/-- The session and the chunk of a message with audio. -/
def audioOf (l : LegacyConn) (message : WebSocketMessage) : Option (StreamSession × Bytes) :=
  match l.pc, l.session, receiveStreamEvent l.session message with
  | .receiving, some s, .ok (.binary chunk) => some (s, chunk)
  | .receiving, some s, .ok (.json payload "audio") =>
    (decodeWebsocketAudio payload).toOption.map fun chunk => (s, chunk)
  | _, _, _ => none

/-- The session whose window is transcribed for a partial. -/
def partialSession (l : LegacyConn) (message : WebSocketMessage) : Option StreamSession :=
  match l.audioOf message with
  | none => none
  | some (s, chunk) =>
    match s.appendAudio chunk with
    | .error _ => none
    | .ok s => if (s.chunksReceived : ℤ) % s.partialIntervalChunks = 0 then some s else none

end LegacyConn

/-- The windows that are transcribed for partials are aligned. -/
def PartialsAligned (l : LegacyConn) : LegacyAct → Prop
  | .message message _ => ∀ s, l.partialSession message = some s → s.Aligned
  | .written _ => True

/-- When a partial is due after a chunk, the chunk completes the samples received so far. -/
def CompletesSamples (l : LegacyConn) : LegacyAct → Prop
  | .message message _ => ∀ s chunk, l.audioOf message = some (s, chunk) →
    s.audioBuffer.length + chunk.length ≤ s.maxBufferBytes →
      ((s.chunksReceived : ℤ) + 1) % s.partialIntervalChunks = 0 →
        Even (s.audioBuffer.length + chunk.length)
  | .written _ => True

namespace LegacyConn

variable {config : LegacyConfig} {l l' : LegacyConn}

/-- The route's session is capped. -/
def Capped (l : LegacyConn) : Prop := ∀ s, l.session = some s → s.Capped

lemma session_raise (l : LegacyConn) (e : Exn) : (l.raise e).session = l.session := by
  unfold raise
  split <;> rfl

lemma Capped.raise (hl : l.Capped) (e : Exn) : (l.raise e).Capped := by
  intro s hs
  rw [session_raise] at hs
  exact hl s hs

/-- A value that a conversion of exceptions passes on. -/
lemma eq_ok_of_liftError {α ε ε' : Type} {f : ε → ε'} {x : Except ε α} {a : α}
    (h : liftError f x = .ok a) : x = .ok a := by
  cases x with
  | error e => cases h
  | ok a' => rw [Except.ok.inj h]

/-- A created session is capped. -/
lemma createStreamSession_capped {payload : Dict} {streamId : ℕ} {s : StreamSession}
    (h : createStreamSession config payload streamId = .ok s) : s.Capped := by
  obtain ⟨language, rate, interval, buffer, seconds, limited, window, -, hwindow, rfl⟩ :=
    createStreamSession_eq_ok h
  refine ⟨Nat.zero_le _, fun w hw => ?_⟩
  have hw : window = some w := hw
  subst hw
  exact even_of_bytesWithin (eq_ok_of_liftError hwindow)

/-- The audio branch keeps the session capped. -/
lemma Capped.audio (hl : l.Capped) {s : StreamSession} (hs : s.Capped)
    (transcribe : Bytes → Except Exn Transcript) (chunk : Bytes) :
    (l.audio transcribe s chunk).Capped := by
  unfold LegacyConn.audio
  split
  · exact hl.raise _
  · rename_i s' happend
    have hs' : s'.Capped := hs.appendAudio happend
    have happended : Capped { l with session := some s', accepted := l.accepted ++ [chunk] } := by
      intro s'' h
      obtain rfl := Option.some.inj h
      exact hs'
    dsimp only
    split
    · exact happended
    · split
      · exact happended.raise _
      · split
        · refine Capped.raise ?_ _
          exact happended
        · rename_i result _ _ s'' hrecord
          have hrecorded : s''.Capped := by
            unfold StreamSession.recordCurrentPartial at hrecord
            cases hrate : intToFloat s'.sampleRate with
            | error e =>
              rw [hrate] at hrecord
              cases hrecord
            | ok rate =>
              rw [hrate] at hrecord
              obtain rfl := Except.ok.inj hrecord
              exact ⟨hs'.bounded, hs'.window⟩
          split
          · intro s h
            obtain rfl := Option.some.inj h
            exact hrecorded
          · intro s h
            obtain rfl := Option.some.inj h
            exact hrecorded

/-- A step of the route keeps the session capped. -/
lemma Capped.step (hl : l.Capped) {a : LegacyAct} (h : (legacyRoute config).step l a = some l') :
    l'.Capped := by
  cases a with
  | written result =>
    simp only [legacyRoute, LegacyConn.step] at h
    split at h
    · cases h
      exact hl
    · cases h
      exact hl.raise _
    · cases h
      exact hl
    · cases h
  | message m transcribe =>
    simp only [legacyRoute, LegacyConn.step] at h
    split at h
    · split at h
      · obtain rfl := Option.some.inj h
        exact hl.raise _
      · rename_i payload _
        obtain rfl := Option.some.inj h
        cases payload with
        | binary chunk =>
          simp only [handle]
          split
          · exact hl.raise _
          · rename_i s hs
            exact hl.audio (hl s hs) _ _
        | json payload eventType =>
          simp only [handle]
          split_ifs
          · split
            · exact hl.raise _
            · split
              · exact hl.raise _
              · rename_i s hcreate
                intro s' h
                obtain rfl := Option.some.inj h
                exact createStreamSession_capped hcreate
          · split
            · exact hl.raise _
            · rename_i s hs
              split
              · exact hl.raise _
              · exact hl.audio (hl s hs) _ _
          · split
            · exact hl.raise _
            · unfold stop
              split
              · exact hl.raise _
              · split
                · exact hl.raise _
                · rintro s ⟨⟩
          · split
            · exact hl.raise _
            · rintro s ⟨⟩
          · exact hl.raise _
    · cases h

/-- The session of an audio message is the route's. -/
lemma session_of_audioOf {m : WebSocketMessage} {s : StreamSession} {chunk : Bytes}
    (h : l.audioOf m = some (s, chunk)) : l.session = some s := by
  unfold audioOf at h
  split at h
  · rename_i hsession _
    obtain ⟨rfl, -⟩ := Prod.mk.inj (Option.some.inj h)
    exact hsession
  · rename_i hsession _
    obtain ⟨_, -, hs⟩ := Option.map_eq_some_iff.mp h
    obtain ⟨rfl, -⟩ := Prod.mk.inj hs
    exact hsession
  · cases h

/-- The window of a partial is aligned exactly when the chunk completes the samples. -/
lemma Capped.partialsAligned_iff (hl : l.Capped) (a : LegacyAct) :
    PartialsAligned l a ↔ CompletesSamples l a := by
  cases a with
  | written result => exact Iff.rfl
  | message m transcribe =>
    have hpartial : ∀ {s chunk}, l.audioOf m = some (s, chunk) →
        s.audioBuffer.length + chunk.length ≤ s.maxBufferBytes →
        ((s.chunksReceived : ℤ) + 1) % s.partialIntervalChunks = 0 →
        ∃ s', s'.Capped ∧ s'.audioBuffer.length = s.audioBuffer.length + chunk.length ∧
          l.partialSession m = some s' := by
      intro s chunk haudio hfits hdue
      have happend : s.appendAudio chunk = .ok _ := if_neg (not_lt.mpr hfits)
      refine ⟨_, (hl s (session_of_audioOf haudio)).appendAudio happend, List.length_append, ?_⟩
      simp only [partialSession, haudio, happend]
      rw [if_pos (by push_cast; exact hdue)]
    constructor
    · intro h s chunk haudio hfits hdue
      obtain ⟨s', hcapped, hlength, hsession⟩ := hpartial haudio hfits hdue
      rw [← hlength]
      exact hcapped.aligned_iff.mp (h s' hsession)
    · intro h s' hsession
      unfold partialSession at hsession
      split at hsession
      · cases hsession
      · rename_i s chunk haudio
        split at hsession
        · cases hsession
        · rename_i s₁ happend
          split_ifs at hsession with hdue
          obtain rfl := Option.some.inj hsession
          have hcapped := (hl s (session_of_audioOf haudio)).appendAudio happend
          have hfits := hcapped.bounded
          obtain rfl := StreamSession.appendAudio_eq_ok happend
          refine hcapped.aligned_iff.mpr ?_
          simp only [List.length_append] at hfits ⊢
          exact h s chunk haudio hfits (by push_cast at hdue; exact hdue)

end LegacyConn

/-- Audio is transcribed for a partial only, and only in its window. -/
theorem LegacyConn.step_audio_congr {config : LegacyConfig} {l : LegacyConn} {m : WebSocketMessage}
    {s : StreamSession} {chunk : Bytes} (haudio : l.audioOf m = some (s, chunk))
    {T T' : Bytes → Except Exn Transcript} (hwindow : ∀ s', l.partialSession m = some s' →
      T s'.partialAudioBytes = T' s'.partialAudioBytes) :
    (legacyRoute config).step l (.message m T) = (legacyRoute config).step l (.message m T') := by
  have hbranch : l.audio T s chunk = l.audio T' s chunk := by
    unfold LegacyConn.audio
    split
    · rfl
    · rename_i s' happend
      dsimp only
      split_ifs with hdue
      · rfl
      · rw [hwindow s' (by
          simp only [partialSession, haudio, happend]
          rw [if_pos (not_not.mp hdue)])]
  have hsession := session_of_audioOf haudio
  unfold audioOf at haudio
  split at haudio
  · rename_i hpc _ hreceive
    obtain ⟨rfl, rfl⟩ := Prod.mk.inj (Option.some.inj haudio)
    simp only [legacyRoute, LegacyConn.step, hpc, hreceive]
    simp only [handle, hsession, hbranch]
  · rename_i payload hpc _ hreceive
    cases hdecode : decodeWebsocketAudio payload with
    | error e =>
      rw [hdecode] at haudio
      cases haudio
    | ok chunk' =>
      rw [hdecode] at haudio
      obtain ⟨_, hchunk, hpair⟩ := Option.map_eq_some_iff.mp haudio
      obtain rfl := Option.some.inj hchunk
      obtain ⟨rfl, rfl⟩ := Prod.mk.inj hpair
      simp only [legacyRoute, LegacyConn.step, hpc, hreceive]
      simp [handle, hsession, hdecode, hbranch]
  · cases haudio

/-- **The windows of the legacy partials are aligned exactly in the runs in which each chunk with
which a partial is due completes the samples received so far.** -/
theorem partials_aligned_iff (config : LegacyConfig) (as : List LegacyAct) :
    (legacyRoute config).Along PartialsAligned {} as ↔
      (legacyRoute config).Along CompletesSamples {} as := by
  have hinit : LegacyConn.Capped {} := fun s h => nomatch h
  constructor
  · exact StepSystem.Along.imp_of_invariant (I := LegacyConn.Capped)
      (fun _ _ _ hl _ hstep => hl.step hstep) (fun l a hl => (hl.partialsAligned_iff a).mp) hinit
  · exact StepSystem.Along.imp_of_invariant (I := LegacyConn.Capped)
      (fun _ _ _ hl _ hstep => hl.step hstep) (fun l a hl => (hl.partialsAligned_iff a).mpr) hinit

/-- A stream with a window of one sample. -/
def oneSampleWindow : List LegacyAct :=
  [.message (.text (.value (.obj [("type", .str "start"),
    ("partial_window_seconds", .float (.finite (1 / 16384)))]))) fun _ => .error .disconnect,
    .written (.ok ())]

/-- A decoder that recognizes nothing. -/
def noWords : Bytes → Except Exn Transcript := fun _ => .ok { text := .missing }

/-- Two samples whose second one is split across two chunks. -/
def splitSample : List LegacyAct :=
  oneSampleWindow ++ [.message (.binary [1, 2, 3]) noWords, .message (.binary [4]) noWords]

/-- **A partial of shifted bytes**: after three bytes of two samples, a window of one sample begins
in the middle of the first. -/
theorem not_partialsAligned_splitSample :
    ∃ l, (legacyRoute {}).run {} splitSample = some l ∧ l.accepted = [[1, 2, 3], [4]] ∧
      ¬ (legacyRoute {}).Along PartialsAligned {} splitSample := by
  obtain ⟨l, hrun, haccepted⟩ := StepSystem.exists_run_of_map (M := legacyRoute {}) (s := {})
    (f := fun l => l.accepted) (l := splitSample) (x := [[1, 2, 3], [4]])
    (by decide +kernel)
  refine ⟨l, hrun, haccepted, fun h => ?_⟩
  obtain ⟨l, hrun, hstart⟩ := StepSystem.exists_run_of_map (M := legacyRoute {}) (s := {})
    (f := fun l => (l.partialSession (.binary [1, 2, 3])).map StreamSession.windowStart)
    (l := oneSampleWindow) (x := some 1) (by decide +kernel)
  obtain ⟨s, hsession, hstart⟩ := Option.map_eq_some_iff.mp hstart
  have haligned := StepSystem.Along.at_split h hrun s hsession
  have hone : Even 1 := hstart ▸ haligned.start
  simp at hone

end RtcAsr
