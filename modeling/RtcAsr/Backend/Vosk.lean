import RtcAsr.Protocol.RawUds
import RtcAsr.Python.Strip
import RtcAsr.Server.Legacy

/-!
# The Vosk backend

A streaming session of the Vosk backend feeds a recognizer chunk by chunk.  Each endpoint the
recognizer reports gives a segment, and the text of the audio after the last endpoint is the tail.
The session drops a tail that repeats the segments unless audio is pending.  It never drops one that
was spoken: the flag for pending audio is up exactly when audio followed the last endpoint
(`pushAll_spec`), and without such audio there is no tail (`finalize_keeps_segments`).

The recognizer is a parameter, and so is `json.loads`; `Endpointing` states what the session relies
on.
-/

namespace RtcAsr

/-- The methods of a `vosk.KaldiRecognizer` that a session calls; each returns the recognizer after
the call as well. -/
structure KaldiRecognizer (σ : Type) where
  acceptWaveform : σ → Bytes → Bool × σ
  result : σ → String × σ
  partialResult : σ → String × σ
  finalResult : σ → String × σ

/-- `VoskStreamingSession`. -/
structure VoskStreamingSession (σ : Type) where
  recognizer : σ
  backendName : String
  modelName : String
  language : Option String
  finalSegments : List String := []
  hasUnfinalizedAudio : Bool := false
  closed : Bool := false
  canceled : Bool := false

/-- `_parse_vosk_payload`. -/
def parseVoskPayload (loads : String → JsonText) (rawPayload : String) : Except PyError Dict :=
  match loads rawPayload with
  | .value (.obj payload) => .ok payload
  | .value _ => .ok []
  | .malformed => .ok []
  | .raised e => .error e

/-- `_merge_vosk_completed_and_final_tail`. -/
def mergeVoskCompletedAndFinalTail (completedText finalText : String)
    (hasUnfinalizedAudio : Bool) : String :=
  let completed := pyStrip completedText
  let final := pyStrip finalText
  if completed = "" then final
  else if final = "" then completed
  else if final = completed ∧ hasUnfinalizedAudio = false then final
  else pyStrip (completed ++ " " ++ final)

/-- `a or b` on JSON values. -/
def Json.orElse (a b : Json) : Json := if a.truthy = true then a else b

namespace VoskStreamingSession

variable {σ : Type} (K : KaldiRecognizer σ) (loads : String → JsonText)

/-- The session `VoskAdapter.start_stream` makes. -/
def start (recognizer : σ) (backendName modelName : String) (language : Option String) :
    VoskStreamingSession σ :=
  { recognizer := recognizer, backendName := backendName, modelName := modelName,
    language := language }

/-- `_result`. -/
def result (session : VoskStreamingSession σ) (text : String) (isFinal : Bool) : Dict :=
  [("text", .str (pyStrip text)), ("language", session.language.elim .null .str),
    ("duration_ms", .null), ("backend", .str session.backendName),
    ("model", .str session.modelName),
    ("vosk_result_type", .str (if isFinal = true then "result" else "partial"))]

/-- `push_audio`. -/
def pushAudio (session : VoskStreamingSession σ) (audioData : Bytes) :
    Except PyError (Option Dict) × VoskStreamingSession σ :=
  if session.closed = true ∨ session.canceled = true then (.ok none, session)
  else
    let (accepted, recognizer) := K.acceptWaveform session.recognizer audioData
    let (raw, recognizer) :=
      if accepted = true then K.result recognizer else K.partialResult recognizer
    let session := { session with recognizer := recognizer }
    match parseVoskPayload loads raw with
    | .error e => (.error e, session)
    | .ok payload =>
      let text := (((payload.getD "text" .null).orElse (payload.getD "partial" .null)).orElse
        (.str "")).pyStr
      if pyStrip text = "" then
        (.ok none, { session with hasUnfinalizedAudio := !accepted })
      else if accepted = true then
        (.ok (some (session.result text accepted)),
          { session with
            finalSegments := session.finalSegments ++ [pyStrip text]
            hasUnfinalizedAudio := false })
      else
        (.ok (some (session.result text accepted)), { session with hasUnfinalizedAudio := true })

/-- `finalize`. -/
def finalize (session : VoskStreamingSession σ) : Except PyError Dict × VoskStreamingSession σ :=
  if session.closed = true ∨ session.canceled = true then (.ok (session.result "" true), session)
  else
    let (raw, recognizer) := K.finalResult session.recognizer
    let session := { session with recognizer := recognizer }
    match parseVoskPayload loads raw with
    | .error e => (.error e, session)
    | .ok payload =>
      let finalText := pyStrip ((payload.getD "text" .null).orElse (.str "")).pyStr
      let completedText := pyStrip (joinTexts session.finalSegments)
      let text := mergeVoskCompletedAndFinalTail completedText finalText session.hasUnfinalizedAudio
      (.ok (session.result text true), session)

/-- The session after a sequence of pushes. -/
def pushAll (session : VoskStreamingSession σ) (chunks : List Bytes) : VoskStreamingSession σ :=
  chunks.foldl (fun session chunk => (session.pushAudio K loads chunk).2) session

end VoskStreamingSession

/-! ## The recognizer -/

/-- A recognizer that reports endpoints: `Result` gives the text of the audio since the previous
endpoint and starts afresh, `FinalResult` the text of the audio since the last one, which is empty
if there is none. -/
structure Endpointing {σ : Type} (K : KaldiRecognizer σ) (loads : String → JsonText) where
  /-- The chunks since the last endpoint. -/
  sinceEndpoint : σ → List Bytes
  /-- The text of the audio since the last endpoint. -/
  text : σ → String
  text_nil : ∀ s, sinceEndpoint s = [] → text s = ""
  accept_since : ∀ s chunk, sinceEndpoint (K.acceptWaveform s chunk).2 = sinceEndpoint s ++ [chunk]
  result_text : ∀ s, ∃ payload : Dict, loads (K.result s).1 = .value (.obj payload) ∧
    payload.get? "text" = some (.str (text s)) ∧ payload.get? "partial" = none
  result_since : ∀ s, sinceEndpoint (K.result s).2 = []
  partial_payload : ∀ s, ∃ payload : Dict, loads (K.partialResult s).1 = .value (.obj payload)
  partial_since : ∀ s, sinceEndpoint (K.partialResult s).2 = sinceEndpoint s
  final_text : ∀ s, ∃ payload : Dict, loads (K.finalResult s).1 = .value (.obj payload) ∧
    payload.get? "text" = some (.str (text s))

namespace Endpointing

variable {σ : Type} {K : KaldiRecognizer σ} {loads : String → JsonText} (E : Endpointing K loads)

/-- The recognizer after a chunk, and the text of the endpoint it reports, if it does. -/
def push (s : σ) (chunk : Bytes) : List String × σ :=
  let (accepted, s') := K.acceptWaveform s chunk
  if accepted = true then ([E.text s'], (K.result s').2) else ([], (K.partialResult s').2)

/-- The texts of the endpoints of a sequence of chunks, and the recognizer after it. -/
def endpoints (s : σ) : List Bytes → List String × σ
  | [] => ([], s)
  | chunk :: chunks =>
    let (texts, s') := E.push s chunk
    let (later, s'') := endpoints s' chunks
    (texts ++ later, s'')

/-- The session has followed the recognizer: it has the segments of the endpoints, and the flag for
pending audio is up exactly when audio followed the last one. -/
structure Follows (session : VoskStreamingSession σ) (texts : List String) (s : σ) : Prop where
  recognizer : session.recognizer = s
  segments : session.finalSegments = spokenTexts texts
  pending : session.hasUnfinalizedAudio = !(E.sinceEndpoint s).isEmpty
  opened : session.closed = false ∧ session.canceled = false

end Endpointing

/-! ## Payloads -/

section

variable {loads : String → JsonText} {raw text : String} {payload : Dict}

lemma parseVoskPayload_obj (h : loads raw = .value (.obj payload)) :
    parseVoskPayload loads raw = .ok payload := by
  rw [parseVoskPayload, h]

lemma getD_of_get? {name : String} {value : Json} (h : payload.get? name = some value) :
    payload.getD name .null = value :=
  congrArg (·.getD .null) h

lemma getD_of_get?_none {name : String} (h : payload.get? name = none) :
    payload.getD name .null = .null :=
  congrArg (·.getD .null) h

/-- A text that is there is taken as it is. -/
lemma pyStr_text (h : payload.get? "text" = some (.str text)) :
    ((payload.getD "text" .null).orElse (.str "")).pyStr = text := by
  rw [getD_of_get? h]
  by_cases hempty : text = "" <;> simp [Json.orElse, Json.truthy, Json.pyStr, hempty]

/-- So it is when a partial text could stand in for it but is absent. -/
lemma pyStr_text_or_partial (h : payload.get? "text" = some (.str text))
    (hinterim : payload.get? "partial" = none) :
    (((payload.getD "text" .null).orElse (payload.getD "partial" .null)).orElse (.str "")).pyStr =
      text := by
  rw [getD_of_get? h, getD_of_get?_none hinterim]
  by_cases hempty : text = "" <;> simp [Json.orElse, Json.truthy, Json.pyStr, hempty]

end

/-! ## Pushes -/

section

variable {σ : Type} {K : KaldiRecognizer σ} {loads : String → JsonText} {E : Endpointing K loads}
  {session : VoskStreamingSession σ} {texts : List String} {s : σ}

/-- A push keeps up with the recognizer. -/
lemma Endpointing.Follows.pushAudio (h : E.Follows session texts s) (chunk : Bytes) :
    E.Follows (session.pushAudio K loads chunk).2 (texts ++ (E.push s chunk).1)
      (E.push s chunk).2 := by
  obtain ⟨rfl, hsegments, -, hclosed, hcanceled⟩ := h
  obtain ⟨accepted, s', haccept⟩ : ∃ accepted s',
      K.acceptWaveform session.recognizer chunk = (accepted, s') := ⟨_, _, rfl⟩
  have hsince : E.sinceEndpoint s' = E.sinceEndpoint session.recognizer ++ [chunk] := by
    rw [← E.accept_since, haccept]
  unfold VoskStreamingSession.pushAudio Endpointing.push
  rw [if_neg (by simp [hclosed, hcanceled]), haccept]
  cases accepted with
  | true =>
    obtain ⟨payload, hload, htext, hinterim⟩ := E.result_text s'
    have hfresh : (E.sinceEndpoint (K.result s').2).isEmpty = true := by
      rw [E.result_since]
      rfl
    simp only [if_true, parseVoskPayload_obj hload, pyStr_text_or_partial htext hinterim]
    split
    · rename_i hblank
      exact ⟨rfl, by simp [hsegments, spokenTexts_append, hblank], by simp [hfresh],
        hclosed, hcanceled⟩
    · rename_i hspoken
      exact ⟨rfl, by simp [hsegments, spokenTexts_append, hspoken], by simp [hfresh],
        hclosed, hcanceled⟩
  | false =>
    obtain ⟨payload, hload⟩ := E.partial_payload s'
    have hpending : (E.sinceEndpoint (K.partialResult s').2).isEmpty = false := by
      rw [E.partial_since, hsince]
      simp
    simp only [Bool.false_eq_true, if_false, parseVoskPayload_obj hload]
    split
    · exact ⟨rfl, by simp [hsegments], by simp [hpending], hclosed, hcanceled⟩
    · exact ⟨rfl, by simp [hsegments], by simp [hpending], hclosed, hcanceled⟩

/-- So does a sequence of pushes. -/
lemma Endpointing.Follows.pushAll (h : E.Follows session texts s) (chunks : List Bytes) :
    E.Follows (session.pushAll K loads chunks) (texts ++ (E.endpoints s chunks).1)
      (E.endpoints s chunks).2 := by
  induction chunks generalizing session texts s with
  | nil =>
    rw [Endpointing.endpoints, List.append_nil]
    exact h
  | cons chunk chunks ih =>
    have hrest := ih (h.pushAudio chunk)
    rw [List.append_assoc] at hrest
    exact hrest

/-! ## The final text -/

/-- The tail follows the segments: with its flag, the merge drops only tails that are empty. -/
lemma merge_spoken (texts : List String) {tail : String} {pending : Bool}
    (htail : pending = false → pyStrip tail = "") :
    mergeVoskCompletedAndFinalTail (pyStrip (joinTexts (spokenTexts texts)))
      (pyStrip tail) pending =
      joinTexts (spokenTexts (texts ++ [tail])) := by
  have hstripped : Stripped (joinTexts (spokenTexts texts)) := stripped_spoken texts
  have hempty := joinTexts_spoken_eq_empty texts
  have hfinal : Stripped (pyStrip tail) := stripped_pyStrip tail
  rw [spokenTexts_append, mergeVoskCompletedAndFinalTail, hstripped, hstripped, hfinal]
  by_cases hsegments : spokenTexts texts = []
  · rw [if_pos (hempty.mpr hsegments), hsegments, List.nil_append]
    by_cases hblank : pyStrip tail = ""
    · rw [if_pos hblank, hblank, joinTexts_nil]
    · rw [if_neg hblank, joinTexts, String.intercalate_singleton]
  · have hcompleted : joinTexts (spokenTexts texts) ≠ "" := hempty.not.mpr hsegments
    rw [if_neg hcompleted]
    by_cases hblank : pyStrip tail = ""
    · rw [if_pos hblank, if_pos hblank, List.append_nil]
    · have hpending : ¬ (pyStrip tail = joinTexts (spokenTexts texts) ∧ pending = false) :=
        fun h => hblank (htail h.2)
      rw [if_neg hblank, if_neg hpending, if_neg hblank, joinTexts_append hsegments]
      exact hstripped.join hfinal hcompleted hblank

/-- The final text of a session that has followed the recognizer. -/
lemma Endpointing.Follows.finalize (h : E.Follows session texts s) :
    ∃ reply, (session.finalize K loads).1 = .ok reply ∧
      reply.get? "text" = some (.str (joinTexts (spokenTexts (texts ++ [E.text s])))) := by
  obtain ⟨rfl, hsegments, hpending, hclosed, hcanceled⟩ := h
  obtain ⟨payload, hload, htext⟩ := E.final_text session.recognizer
  have htail : session.hasUnfinalizedAudio = false →
      pyStrip (E.text session.recognizer) = "" := by
    intro hflag
    rw [hpending, Bool.not_eq_false'] at hflag
    rw [E.text_nil _ (List.isEmpty_iff.mp hflag)]
    exact stripped_empty
  have hmerge := merge_spoken texts htail
  refine ⟨session.result (joinTexts (spokenTexts (texts ++ [E.text session.recognizer]))) true,
    ?_, ?_⟩
  · unfold VoskStreamingSession.finalize
    rw [if_neg (by simp [hclosed, hcanceled])]
    simp only [parseVoskPayload_obj hload, pyStr_text htext, hsegments, hmerge]
    rfl
  · exact congrArg (fun t => some (Json.str t)) (stripped_spoken _)

end

/-- **Every segment once.** For every recognizer that reports endpoints and every sequence of
pushes, the final text joins the texts of the endpoints and of the tail, in order, each stripped and
left out if nothing remains. -/
theorem finalize_keeps_segments {σ : Type} {K : KaldiRecognizer σ} {loads : String → JsonText}
    (E : Endpointing K loads) {s : σ} (hnew : E.sinceEndpoint s = [])
    (backendName modelName : String) (language : Option String) (chunks : List Bytes) :
    ∃ reply, (((VoskStreamingSession.start s backendName modelName language).pushAll K loads
        chunks).finalize K loads).1 = .ok reply ∧
      reply.get? "text" = some (.str (joinTexts (spokenTexts
        ((E.endpoints s chunks).1 ++ [E.text (E.endpoints s chunks).2])))) := by
  have hstart : E.Follows (.start s backendName modelName language) [] s :=
    ⟨rfl, rfl, by rw [hnew]; rfl, rfl, rfl⟩
  exact (hstart.pushAll chunks).finalize

/-! ## A speaker who repeats a phrase -/

/-- The phrase as the JSON text of a result, once there is audio. -/
def phraseJson (s : List Bytes) : String :=
  if s.isEmpty = true then "\x7b\"text\": \"\"\x7d" else "\x7b\"text\": \"thank you\"\x7d"

/-- A recognizer that hears a phrase in any audio and reports an endpoint at the chunk `[0]`. -/
def phraseRecognizer : KaldiRecognizer (List Bytes) where
  acceptWaveform s chunk := (chunk == [0], s ++ [chunk])
  result s := (phraseJson s, [])
  partialResult s := ("\x7b\"partial\": \"\"\x7d", s)
  finalResult s := (phraseJson s, [])

/-- `json.loads` on the texts of this recognizer. -/
def phraseLoads (raw : String) : JsonText :=
  if raw = "\x7b\"text\": \"thank you\"\x7d" then .value (.obj [("text", .str "thank you")])
  else if raw = "\x7b\"text\": \"\"\x7d" then .value (.obj [("text", .str "")])
  else if raw = "\x7b\"partial\": \"\"\x7d" then .value (.obj [("partial", .str "")])
  else .malformed

/-- The text of its results. -/
lemma phraseLoads_json (s : List Bytes) :
    ∃ payload : Dict, phraseLoads (phraseJson s) = .value (.obj payload) ∧
      payload.get? "text" = some (.str (if s.isEmpty = true then "" else "thank you")) ∧
      payload.get? "partial" = none := by
  unfold phraseJson
  by_cases h : s.isEmpty = true
  · rw [if_pos h, if_pos h]
    exact ⟨[("text", .str "")], by rw [phraseLoads, if_neg (by decide), if_pos rfl], rfl, rfl⟩
  · rw [if_neg h, if_neg h]
    exact ⟨[("text", .str "thank you")], by rw [phraseLoads, if_pos rfl], rfl, rfl⟩

/-- It reports endpoints. -/
def phraseEndpoints : Endpointing phraseRecognizer phraseLoads where
  sinceEndpoint s := s
  text s := if s.isEmpty = true then "" else "thank you"
  text_nil s h := by rw [h]; rfl
  accept_since _ _ := rfl
  result_text := phraseLoads_json
  result_since _ := rfl
  partial_payload _ := ⟨[("partial", .str "")], by
    simp only [phraseRecognizer]
    rw [phraseLoads, if_neg (by decide), if_neg (by decide), if_pos rfl]⟩
  partial_since _ := rfl
  final_text s := by
    obtain ⟨payload, hload, htext, -⟩ := phraseLoads_json s
    exact ⟨payload, hload, htext⟩

/-- The phrase is said before the endpoint and again after it. -/
theorem finalize_keeps_phrase :
    ∃ reply, (((VoskStreamingSession.start [] "vosk" "/models/vosk-small" (some "en")).pushAll
        phraseRecognizer phraseLoads [[1], [0], [1]]).finalize phraseRecognizer phraseLoads).1 =
          .ok reply ∧
      reply.get? "text" = some (.str "thank you thank you") := by
  have hspoken : joinTexts (spokenTexts ((phraseEndpoints.endpoints [] [[1], [0], [1]]).1 ++
      [phraseEndpoints.text (phraseEndpoints.endpoints [] [[1], [0], [1]]).2])) =
        "thank you thank you" := by
    decide +kernel
  rw [← hspoken]
  exact finalize_keeps_segments phraseEndpoints rfl "vosk" "/models/vosk-small" (some "en")
    [[1], [0], [1]]

end RtcAsr
