import RtcAsr.Foundation.StepSystem
import RtcAsr.Server.Session

/-!
# The grammar of the written events

What a v1 connection is meant to write: a sequence of utterances, each a `ready` event, interim
transcripts with the revisions 1, 2, 3, …, and then the final transcript or the cancel warning.
`Utterances` is that language; `eventGrammar` is an acceptor for it, which the model of the
connection is compared with.
-/

namespace RtcAsr

/-! ## The language -/

/-- Interim transcripts of a stream with consecutive revisions. -/
def InterimFrom (streamId : ℕ) : ℕ → List Event → Prop
  | _, [] => True
  | revision, .transcript e :: es =>
    e.streamId = streamId ∧ e.revision = revision ∧ e.isFinal = false ∧
      InterimFrom streamId (revision + 1) es
  | _, _ :: _ => False

/-- The end of an utterance: the final transcript, with the next revision, or the cancel warning. -/
def EndsUtterance (streamId revision : ℕ) : Event → Prop
  | .transcript e => e.streamId = streamId ∧ e.revision = revision ∧ e.isFinal = true
  | .canceled e => e.streamId = streamId
  | _ => False

/-- Utterances with increasing stream ids above `last`, the last one possibly unfinished. -/
inductive Utterances : ℕ → List Event → Prop
  | nil (last : ℕ) : Utterances last []
  | unfinished {last : ℕ} {ready : ReadyEvent} {interim : List Event} (hid : last < ready.streamId)
    (hinterim : InterimFrom ready.streamId 1 interim) : Utterances last (.ready ready :: interim)
  | utterance {last : ℕ} {ready : ReadyEvent} {interim rest : List Event} {final : Event}
    (hid : last < ready.streamId) (hinterim : InterimFrom ready.streamId 1 interim)
    (hfinal : EndsUtterance ready.streamId (interim.length + 1) final)
    (hrest : Utterances ready.streamId rest) :
    Utterances last (.ready ready :: (interim ++ final :: rest))

/-- The events up to a close or a fatal error, pongs removed. -/
def conversation : List Event → List Event
  | [] => []
  | .closed :: _ => []
  | .error _ :: _ => []
  | .pong _ :: es => conversation es
  | e :: es => e :: conversation es

/-- The final transcripts of a stream. -/
def finalCount (streamId : ℕ) (es : List Event) : ℕ :=
  es.countP fun e =>
    match e with
    | .transcript t => t.isFinal && t.streamId == streamId
    | _ => false

/-! ## The acceptor -/

/-- A state of the acceptor: between utterances, inside one with the next revision, and after a
close or an error. -/
inductive GrammarState
  | idle (last : ℕ)
  | block (streamId revision : ℕ)
  | ended
  deriving DecidableEq, Repr

/-- The acceptor reads an event. -/
def GrammarState.next (g : GrammarState) : Event → Option GrammarState
  | .pong _ => some g
  | .closed => some .ended
  | .error _ => some .ended
  | .ready e =>
    match g with
    | .idle last => if last < e.streamId then some (.block e.streamId 1) else none
    | _ => none
  | .transcript e =>
    match g with
    | .block streamId revision =>
      if e.streamId = streamId ∧ e.revision = revision then
        some (if e.isFinal = true then .idle streamId else .block streamId (revision + 1))
      else none
    | _ => none
  | .canceled e =>
    match g with
    | .block streamId _ => if e.streamId = streamId then some (.idle streamId) else none
    | _ => none

/-- The acceptor as a step system. -/
def eventGrammar : StepSystem GrammarState Event := ⟨GrammarState.next⟩

/-- The last stream whose ready event was read. -/
def GrammarState.lastId : GrammarState → ℕ
  | .idle last => last
  | .block streamId _ => streamId
  | .ended => 0

/-- Stream ids increase up to the end, and a transcript belongs to the last stream. -/
lemma GrammarState.next_lastId {g g' : GrammarState} {e : Event} (h : g.next e = some g')
    (hg' : g' ≠ .ended) :
    g ≠ .ended ∧ g.lastId ≤ g'.lastId ∧ ∀ t, e = .transcript t → t.streamId = g'.lastId := by
  cases e with
  | pong message =>
    obtain rfl := Option.some.inj h
    exact ⟨hg', le_rfl, by simp⟩
  | closed => exact absurd (Option.some.inj h).symm hg'
  | error message => exact absurd (Option.some.inj h).symm hg'
  | ready e =>
    cases g with
    | idle last =>
      simp only [next] at h
      split_ifs at h with hid
      obtain rfl := Option.some.inj h
      exact ⟨by simp, hid.le, by simp⟩
    | block streamId revision => cases h
    | ended => cases h
  | transcript e =>
    cases g with
    | idle last => cases h
    | block streamId revision =>
      simp only [next] at h
      split at h
      · next heq =>
        obtain rfl := Option.some.inj h
        refine ⟨by simp, ?_, ?_⟩
        · split_ifs <;> exact le_rfl
        · rintro t ⟨⟩
          split_ifs <;> exact heq.1
      · cases h
    | ended => cases h
  | canceled e =>
    cases g with
    | idle last => cases h
    | block streamId revision =>
      simp only [next] at h
      split_ifs at h
      obtain rfl := Option.some.inj h
      exact ⟨by simp, le_rfl, by simp⟩
    | ended => cases h

/-- One more event among the counted ones. -/
lemma finalCount_concat (streamId : ℕ) (es : List Event) (e : Event) :
    finalCount streamId (es ++ [e]) = finalCount streamId es + finalCount streamId [e] :=
  List.countP_append

/-- A stream that was not started yet has no final transcript. -/
theorem finalCount_eq_zero {g g' : GrammarState} {es : List Event} {streamId : ℕ}
    (h : eventGrammar.run g es = some g') (hg' : g' ≠ .ended) (hid : g'.lastId < streamId) :
    finalCount streamId es = 0 := by
  induction es using List.reverseRecOn generalizing g' with
  | nil => rfl
  | append_singleton es e ih =>
    obtain ⟨t, hrun, hstep⟩ := StepSystem.run_concat_eq_some.mp h
    obtain ⟨ht, hle, htranscript⟩ := GrammarState.next_lastId hstep hg'
    rw [finalCount_concat, ih hrun ht (hle.trans_lt hid), zero_add]
    cases e with
    | transcript e =>
      have hne : e.streamId ≠ streamId := by
        rw [htranscript e rfl]
        exact hid.ne
      simp [finalCount, hne]
    | _ => rfl

/-- What was accepted with more events behind it was accepted. -/
lemma accepted_of_append {g g' : GrammarState} {es fs : List Event}
    (h : eventGrammar.run g (es ++ fs) = some g') : ∃ t, eventGrammar.run g es = some t := by
  rw [StepSystem.run_append, Option.bind_eq_some_iff] at h
  obtain ⟨t, ht, -⟩ := h
  exact ⟨t, ht⟩

/-! ## What the acceptor accepts -/

/-- The events after the beginning of an utterance. -/
inductive Continues (streamId : ℕ) : ℕ → List Event → Prop
  | unfinished {revision : ℕ} {interim : List Event}
    (hinterim : InterimFrom streamId revision interim) : Continues streamId revision interim
  | ends {revision : ℕ} {interim rest : List Event} {final : Event}
    (hinterim : InterimFrom streamId revision interim)
    (hfinal : EndsUtterance streamId (revision + interim.length) final)
    (hrest : Utterances streamId rest) :
    Continues streamId revision (interim ++ final :: rest)

/-- One more interim transcript in front. -/
lemma Continues.cons {streamId revision : ℕ} {es : List Event} {e : TranscriptEvent}
    (h : Continues streamId (revision + 1) es) (hid : e.streamId = streamId)
    (hrevision : e.revision = revision) (hfinal : e.isFinal = false) :
    Continues streamId revision (.transcript e :: es) := by
  cases h with
  | unfinished hinterim => exact .unfinished ⟨hid, hrevision, hfinal, hinterim⟩
  | @ends interim rest final hinterim hends hrest =>
    have hinterim' : InterimFrom streamId revision (.transcript e :: interim) :=
      ⟨hid, hrevision, hfinal, hinterim⟩
    have hlength : revision + 1 + interim.length =
        revision + (Event.transcript e :: interim).length := by
      rw [List.length_cons]
      omega
    exact .ends hinterim' (hlength ▸ hends) hrest

/-- The end of an utterance in front of the next ones. -/
lemma Continues.end {streamId revision : ℕ} {es : List Event} {e : Event}
    (hends : EndsUtterance streamId revision e) (h : Utterances streamId es) :
    Continues streamId revision (e :: es) :=
  @Continues.ends streamId revision [] es e trivial hends h

/-- The beginning of an utterance in front of what continues it. -/
lemma Continues.ready {last : ℕ} {es : List Event} {e : ReadyEvent}
    (h : Continues e.streamId 1 es) (hid : last < e.streamId) :
    Utterances last (.ready e :: es) := by
  cases h with
  | unfinished hinterim => exact .unfinished hid hinterim
  | ends hinterim hends hrest =>
    rw [Nat.add_comm] at hends
    exact .utterance hid hinterim hends hrest

/-- What the acceptor accepts from a state. -/
def GrammarState.Language : GrammarState → List Event → Prop
  | .idle last, es => Utterances last es
  | .block streamId revision, es => Continues streamId revision es
  | .ended, _ => True

/-- **The acceptor accepts utterances only.** -/
theorem language_of_run {g g' : GrammarState} {es : List Event}
    (h : eventGrammar.run g es = some g') : g.Language (conversation es) := by
  induction es generalizing g with
  | nil =>
    cases g with
    | idle last => exact .nil last
    | block streamId revision => exact .unfinished trivial
    | ended => trivial
  | cons e es ih =>
    obtain ⟨g₁, hstep, hrun⟩ := StepSystem.run_cons_eq_some.mp h
    have hnil : g.Language [] := by
      cases g with
      | idle last => exact .nil last
      | block streamId revision => exact .unfinished trivial
      | ended => trivial
    cases e with
    | pong message =>
      obtain rfl := Option.some.inj hstep
      exact ih hrun
    | closed => exact hnil
    | error message => exact hnil
    | ready e =>
      cases g with
      | idle last =>
        simp only [eventGrammar, GrammarState.next] at hstep
        split_ifs at hstep with hid
        obtain rfl := Option.some.inj hstep
        exact (ih hrun : Continues e.streamId 1 (conversation es)).ready hid
      | block streamId revision => cases hstep
      | ended => trivial
    | transcript e =>
      cases g with
      | idle last => cases hstep
      | block streamId revision =>
        simp only [eventGrammar, GrammarState.next] at hstep
        split at hstep
        · next heq =>
          obtain ⟨hid, hrevision⟩ := heq
          obtain rfl := Option.some.inj hstep
          cases hfinal : e.isFinal with
          | true =>
            rw [if_pos hfinal] at hrun
            exact .end ⟨hid, hrevision, hfinal⟩ (ih hrun)
          | false =>
            rw [if_neg (by simp [hfinal])] at hrun
            exact (ih hrun : Continues _ _ _).cons hid hrevision hfinal
        · cases hstep
      | ended => trivial
    | canceled e =>
      cases g with
      | idle last => cases hstep
      | block streamId revision =>
        simp only [eventGrammar, GrammarState.next] at hstep
        split_ifs at hstep with hid
        obtain rfl := Option.some.inj hstep
        exact .end hid (ih hrun)
      | ended => trivial

end RtcAsr
