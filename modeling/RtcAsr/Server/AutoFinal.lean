import RtcAsr.Server.FinalDecode

/-!
# Auto-finalization

With `finalize_on_stable_partial` the worker turns an interim result into the final transcript once
its text is stable.  The interim result is about the slice it was decoded from: a trailing window,
a snapshot older than the buffer, or, with a stateful decoder, the newest delta.  The event covers
the utterance when that slice is the whole buffer, and when a stateful decoder would not say
anything else at its finalization.
-/

namespace RtcAsr

/-- A deterministic backend: a transcriber, and a streaming decoder whose answers depend on what was
pushed. -/
structure DecodeBackend where
  transcribe : Transcriber
  /-- The result of the last push, after the pushes in the list. -/
  pushAudio : List Bytes → Except Exn (Option Transcript)
  finalize : List Bytes → Except Exn Transcript

namespace StreamRuntime

/-- A completed decoder call returns what the backend says. -/
def FollowsBackend (B : DecodeBackend) (r : StreamRuntime) : StreamAct → Prop
  | .transcribed result => FollowsTranscriber B.transcribe r (.transcribed result)
  | .pushed result =>
    match r.worker with
    | .pushingPartial snap => result = B.pushAudio (r.pushedAudio ++ [snap.audio])
    | .pushingFinal _ remaining => result = B.pushAudio (r.pushedAudio ++ [remaining])
    | _ => True
  | .decoderFinalized result => result = B.finalize r.pushedAudio
  | _ => True

/-- The interim result a step brings, with the snapshot it was decoded from. -/
def interim (r : StreamRuntime) : StreamAct → Option (Snapshot × Transcript)
  | .transcribed (.ok result) =>
    match r.worker with
    | .transcribingPartial snap => some (snap, result)
    | _ => none
  | .pushed (.ok (some result)) =>
    match r.worker with
    | .pushingPartial snap => some (snap, result)
    | _ => none
  | _ => none

/-- The session once an interim result is recorded. -/
def recorded (env : ServerEnv) (r : StreamRuntime) (snap : Snapshot) (result : Transcript) :
    StreamSession :=
  (r.session.recordPartial result snap.chunksReceived
    snap.audioReceivedMs).recordTranscriptStability env.casefold result

/-- The worker makes this interim result the final transcript. -/
def autoFinalizes (env : ServerEnv) (r : StreamRuntime) (snap : Snapshot) (result : Transcript) :
    Bool :=
  !(r.cancelRequested || r.finalEmitted || r.closed || r.finalizeRequested) &&
    result.strippedText != "" && (r.recorded env snap result).shouldFinalizeStablePartial

/-- What an explicit finalize of the stream would decode: the buffer, or the decoder's end after the
rest is pushed. -/
def explicitFinal (B : DecodeBackend) (r : StreamRuntime) : Except Exn Transcript :=
  if r.streamingDecoder = true then
    B.finalize (if r.rest = [] then r.pushedAudio else r.pushedAudio ++ [r.rest])
  else r.session.decode B.transcribe r.session.audioBuffer

/-- An interim result that becomes final was decoded from the whole buffer, and a stateful decoder
would end with the same text. -/
def FinalizesWhole (env : ServerEnv) (B : DecodeBackend) (r : StreamRuntime) (a : StreamAct) :
    Prop :=
  ∀ snap result, r.interim a = some (snap, result) → r.autoFinalizes env snap result = true →
    snap.audio = r.session.audioBuffer ∧
      (r.streamingDecoder = true → ∃ t, B.finalize (r.pushedAudio ++ [snap.audio]) = .ok t ∧
        t.strippedText = result.strippedText)

/-- A final transcript made of an interim result covers the audio accepted so far, and has the text
of an explicit finalize. -/
def AutoFinalCovers (env : ServerEnv) (B : DecodeBackend) (r : StreamRuntime) (a : StreamAct) :
    Prop :=
  ∀ r' e, r.step env a = some r' → (r.interim a).isSome = true →
    r'.outgoingEvents = r.outgoingEvents ++ [.transcript e] → e.isFinal = true →
      e.audioTranscribedMs = e.audioReceivedMs ∧
        ∃ t, r'.explicitFinal B = .ok t ∧ t.strippedText = e.text

variable {env : ServerEnv} {B : DecodeBackend} {r r' : StreamRuntime} {a : StreamAct}

/-- The event a worker enqueues for a transcript. -/
lemma emitTranscript_event {result : Transcript} {isFinal : Bool} {n : ℕ} {e : TranscriptEvent}
    (h : (r.emitTranscript result isFinal n).outgoingEvents =
      r.outgoingEvents ++ [.transcript e]) :
    e.text = result.strippedText ∧ e.isFinal = isFinal ∧
      e.audioTranscribedMs = audioBytesToDurationMs n r.session.sampleRate ∧
      e.audioReceivedMs = r.session.audioReceivedMs := by
  obtain ⟨err, h'⟩ | h' := emitTranscript_cases r result isFinal n
  · rw [h'] at h
    simp at h
  · rw [h'] at h
    cases isFinal <;> simp [afterEmit, waitAgain, enqueueEvent, withQueueMetadata] at h <;>
      subst h <;> exact ⟨rfl, rfl, rfl, rfl⟩

/-- The session keeps its audio when an interim result is recorded. -/
lemma recorded_audio (env : ServerEnv) (r : StreamRuntime) (snap : Snapshot)
    (result : Transcript) :
    (r.recorded env snap result).audioReceivedMs = r.session.audioReceivedMs ∧
      (r.recorded env snap result).sampleRate = r.session.sampleRate := by
  obtain ⟨text, count, hs⟩ := recordTranscriptStability_eq env.casefold
    (r.session.recordPartial result snap.chunksReceived snap.audioReceivedMs) result
  rw [recorded, hs]
  exact ⟨rfl, rfl⟩

/-- An interim result is enqueued as the final transcript only when it auto-finalizes. -/
lemma afterPartial_event {snap : Snapshot} {result : Transcript} {e : TranscriptEvent}
    (h : (r.afterPartial env snap (some result)).outgoingEvents =
      r.outgoingEvents ++ [.transcript e]) :
    e.text = result.strippedText ∧
      e.audioTranscribedMs = audioBytesToDurationMs snap.audio.length r.session.sampleRate ∧
      e.audioReceivedMs = r.session.audioReceivedMs ∧
      (e.isFinal = true → r.autoFinalizes env snap result = true) := by
  unfold afterPartial at h
  dsimp only at h
  split at h
  · simp at h
  · next hstop =>
    split at h
    · simp at h
    · next hlisten =>
      split at h
      · simp [waitAgain] at h
      · next htext =>
        obtain ⟨htext', hfinal, htranscribed, hreceived⟩ := emitTranscript_event
          (r := { r with partialDecodeStarted := false, session := r.recorded env snap result }) h
        obtain ⟨hms, hrate⟩ := recorded_audio env r snap result
        refine ⟨htext', htranscribed.trans (by rw [hrate]), hreceived.trans hms, fun he => ?_⟩
        simp only [not_or, Bool.not_eq_true] at hstop hlisten
        have hstable : (r.recorded env snap result).shouldFinalizeStablePartial = true :=
          hfinal.symm.trans he
        simp [autoFinalizes, hstop, hlisten, htext, hstable]

/-- An auto-finalizing stream is not cancelled. -/
lemma kept_of_autoFinalizes {snap : Snapshot} {result : Transcript}
    (h : r.autoFinalizes env snap result = true) : r.cancelRequested = false := by
  by_contra hcanceled
  simp [autoFinalizes, hcanceled] at h

/-- **The step lemma.** -/
lemma FinalizesWhole.covers (hinv : r.DecoderInvariant) (hfollows : FollowsBackend B r a)
    (hwhole : FinalizesWhole env B r a) : AutoFinalCovers env B r a := by
  intro r' e hstep hinterim hevent hfinal
  have hframe := step_frame hstep
  cases a with
  | transcribed result =>
    simp only [StreamRuntime.step, transcribed] at hstep
    split at hstep <;> cases hstep
    · next snap t hw =>
      obtain ⟨htext, htranscribed, hreceived, hauto⟩ := afterPartial_event hevent
      obtain ⟨haudio, -⟩ := hwhole snap t (by simp [interim, hw]) (hauto hfinal)
      have hdecoder : r.streamingDecoder = false := by
        have hholds := (hinv.synced (kept_of_autoFinalizes (hauto hfinal))).holds
        rw [hw] at hholds
        exact hholds
      have hdecoder' : (r.afterPartial env snap (some t)).streamingDecoder = false :=
        ((given_eq_iff.mp (afterPartial_given env r snap (some t))).2.2.2).trans hdecoder
      refine ⟨by rw [htranscribed, hreceived, haudio]; rfl, t, ?_, htext.symm⟩
      simp only [FollowsBackend, FollowsTranscriber, hw] at hfollows
      rw [explicitFinal, if_neg (by simp [hdecoder']), StreamSession.decode, hframe.language,
        hframe.sampleRate, hframe.audioBuffer, ← haudio]
      exact hfollows.symm
    · next hw => simp [interim, hw] at hinterim
    · simp [interim] at hinterim
    · simp [interim] at hinterim
  | pushed result =>
    simp only [StreamRuntime.step, pushed] at hstep
    split at hstep <;> cases hstep
    · next snap t hw =>
      cases t with
      | none => simp [interim] at hinterim
      | some t =>
        obtain ⟨htext, htranscribed, hreceived, hauto⟩ :=
          afterPartial_event (r := r.advance snap.audio) hevent
        have hauto' : r.autoFinalizes env snap t = true := hauto hfinal
        obtain ⟨haudio, hend⟩ := hwhole snap t (by simp [interim, hw]) hauto'
        have hdecoder : r.streamingDecoder = true := by
          have hholds := (hinv.synced (kept_of_autoFinalizes hauto')).holds
          rw [hw] at hholds
          exact hholds.2
        obtain ⟨t', ht', htext'⟩ := hend hdecoder
        obtain ⟨hoffset, hpushed, -, hdecoder'⟩ :=
          given_eq_iff.mp (afterPartial_given env (r.advance snap.audio) snap (some t))
        refine ⟨by rw [htranscribed, hreceived, haudio]; rfl, t', ?_, htext'.trans htext.symm⟩
        -- the slice was the whole buffer, so nothing is left to push
        have hrest : ((r.advance snap.audio).afterPartial env snap (some t)).rest = [] := by
          rw [rest, hframe.audioBuffer, hoffset, List.drop_eq_nil_iff, ← haudio]
          exact Nat.le_add_left _ _
        rw [explicitFinal, if_pos (hdecoder'.trans hdecoder), if_pos hrest, hpushed]
        exact ht'
    · next _ _ t hw => cases t <;> simp [interim, hw] at hinterim
    · simp [interim] at hinterim
    · simp [interim] at hinterim
  | workerWake => simp [interim] at hinterim
  | decoderFinalized result => simp [interim] at hinterim
  | decoderClosed result => simp [interim] at hinterim
  | senderTake => simp [interim] at hinterim
  | senderSent result => simp [interim] at hinterim
  | senderExit => simp [interim] at hinterim

end StreamRuntime

namespace Conn

variable {env : ServerEnv} {B : DecodeBackend}

/-- **Auto-finals cover the utterance.** In a run with a deterministic backend, if every interim
result that becomes final was decoded from the whole buffer, and a stateful decoder would end with
its text, then every auto-final covers the accepted audio with the text of an explicit finalize. -/
theorem autoFinal_covers {as : List Act}
    (hfollows : (connection env).Along (TasksMeet (StreamRuntime.FollowsBackend B)) {} as)
    (hwhole : (connection env).Along (TasksMeet (StreamRuntime.FinalizesWhole env B)) {} as) :
    (connection env).Along (TasksMeet (StreamRuntime.AutoFinalCovers env B)) {} as := by
  refine (hfollows.and hwhole).imp_of_reaches (StepSystem.Reaches.refl _) ?_
  rintro c a hreach ⟨hfollows, hwhole⟩
  cases a with
  | task a =>
    intro r hs
    exact (hwhole r hs).covers (decoderInvariant hreach hs) (hfollows r hs)
  | _ => trivial

/-- A backend that hears one word in two milliseconds of audio and another word in more. -/
def wordBackend : DecodeBackend where
  transcribe := fun audio _ _ =>
    .ok { text := .str (if audio.length = 64 then "turn" else "turned") }
  pushAudio := fun _ => .ok none
  finalize := fun _ => .ok { text := .str "" }

/-- Two milliseconds of audio. -/
def twoMs : Bytes := List.replicate 64 1

/-- One chunk, and an interim result that ends the stream. -/
def autoFinalAtOnce : List Act :=
  openStream autoFinalStart false ++ deliver (.audio twoMs) ++
    [.task .workerWake, .task (.transcribed (.ok { text := .str "turn" }))]

theorem autoFinal_covers_autoFinalAtOnce :
    (connection defaultEnv).Along
      (TasksMeet (StreamRuntime.AutoFinalCovers defaultEnv wordBackend)) {} autoFinalAtOnce := by
  refine autoFinal_covers ?_ ?_
  · refine .cons trivial rfl (.cons trivial rfl (.cons trivial rfl (.cons trivial rfl ?_)))
    refine .cons trivial rfl (.cons trivial rfl (.cons (fun _ _ => trivial) rfl ?_))
    refine ⟨?_, fun _ _ => trivial⟩
    rintro _ ⟨⟩
    rfl
  · refine .cons trivial rfl (.cons trivial rfl (.cons trivial rfl (.cons trivial rfl ?_)))
    refine .cons trivial rfl (.cons trivial rfl (.cons ?_ rfl ?_))
    · rintro r - snap result ⟨⟩
    · refine ⟨?_, fun _ _ => trivial⟩
      rintro _ ⟨⟩ snap result ⟨⟩ -
      exact ⟨rfl, nofun⟩

/-- A second chunk arrives while the first is decoded. -/
def audioDuringDecode : List Act :=
  openStream autoFinalStart false ++ deliver (.audio twoMs) ++ [.task .workerWake] ++
    deliver (.audio twoMs)

/-- The auto-final of the first chunk is emitted when two were accepted. -/
theorem not_autoFinal_covers_audioDuringDecode :
    ∃ as,
      (connection defaultEnv).Along (TasksMeet (StreamRuntime.FollowsBackend wordBackend)) {} as ∧
      ¬ (connection defaultEnv).Along
        (TasksMeet (StreamRuntime.AutoFinalCovers defaultEnv wordBackend)) {} as := by
  refine ⟨audioDuringDecode ++ [.task (.transcribed (.ok { text := .str "turn" }))], ?_, ?_⟩
  · refine .cons trivial rfl (.cons trivial rfl (.cons trivial rfl (.cons trivial rfl ?_)))
    refine .cons trivial rfl (.cons trivial rfl (.cons (fun _ _ => trivial) rfl ?_))
    refine .cons trivial rfl (.cons trivial rfl ⟨?_, fun _ _ => trivial⟩)
    rintro _ ⟨⟩
    rfl
  · intro hcovers
    have hlast : ∃ t r r' e, (connection defaultEnv).run {} audioDuringDecode = some t ∧
        t.stream = some r ∧
        r.step defaultEnv (.transcribed (.ok { text := .str "turn" })) = some r' ∧
        (r.interim (.transcribed (.ok { text := .str "turn" }))).isSome = true ∧
        r'.outgoingEvents = r.outgoingEvents ++ [.transcript e] ∧ e.isFinal = true ∧
        e.audioTranscribedMs = 2 ∧ e.audioReceivedMs = 4 := by
      refine ⟨_, _, _, _, rfl, rfl, rfl, rfl, rfl, rfl, ?_, ?_⟩
      · decide +kernel
      · decide +kernel
    obtain ⟨t, r, r', e, hrun, hs, hstep, hinterim, hevent, hfinal, htranscribed, hreceived⟩ :=
      hlast
    have hms := (hcovers.at_split hrun r hs r' e hstep hinterim hevent hfinal).1
    rw [htranscribed, hreceived] at hms
    cases hms

end Conn
end RtcAsr
