import RtcAsr.Plugin.CallOrder

/-!
# The ledger of generations and waiters

The part of the service that decides which transcripts are published and which finalize waiters are
released: the generation, the events of the waiters, and the starts, cancels, pushes and releases of
the history.  A ledger is sound when a pushed transcript carried the generation that was current and
no cancel lies behind the start of that generation, and when an event is set for its own generation
only.  The operations of the service keep a ledger sound.
-/

namespace RtcAsr.Plugin

/-- The happenings that the ledger records. -/
def Happening.ledgered : Happening → Bool
  | .sent _ (.start _) => true
  | .canceled => true
  | .pushed _ _ _ => true
  | .released _ _ _ => true
  | _ => false

/-- The generation, the finalize waiters and what happened to them. -/
structure Ledger where
  generation : ℕ
  finalEvents : List (ℕ × ℕ)
  finalEventCount : ℕ
  finalSet : List ℕ
  /-- The newest first. -/
  trace : List Happening

/-- The ledger of a service. -/
def Service.ledger (s : Service) : Ledger where
  generation := s.generation
  finalEvents := s.finalEvents
  finalEventCount := s.finalEventCount
  finalSet := s.finalSet
  trace := s.history.filter Happening.ledgered

/-- What may set the event of a waiter for the generation. -/
def Release.For (g : ℕ) : Release → Prop
  | .final generation => generation = .known g
  | .server => True
  | .cancel => True
  | .disconnect => True

/-- No start of the generation lies behind a cancel. -/
def StartedSinceCancel (g : ℕ) (trace : List Happening) : Prop :=
  ∀ newer older connection, trace = newer ++ .canceled :: older →
    .sent connection (.start g) ∉ older

namespace Ledger

/-- The event belongs to the waiters of the generation. -/
structure Owns (l : Ledger) (g event : ℕ) : Prop where
  lt : event < l.finalEventCount
  entry : ∀ g', (g', event) ∈ l.finalEvents → g' = g
  release : ∀ g' r, .released g' event r ∈ l.trace → g' = g

/-- Starts belong to generations that began and were not canceled, a pushed transcript to the
generation it is pushed in, and a final event to the waiters of one generation. -/
structure Sound (l : Ledger) : Prop where
  starts : ∀ connection g, .sent connection (.start g) ∈ l.trace → g ≤ l.generation
  cancels : ∀ newer older connection g, l.trace = newer ++ .canceled :: older →
    .sent connection (.start g) ∈ older → g < l.generation
  pushes : ∀ newer older event generation current,
    l.trace = newer ++ .pushed event generation current :: older →
      generation = .known current ∧ StartedSinceCancel current older
  entries : ∀ g event, (g, event) ∈ l.finalEvents → l.Owns g event
  releases : ∀ g event r, .released g event r ∈ l.trace → l.Owns g event ∧ r.For g
  set : ∀ event ∈ l.finalSet, ∃ g r, .released g event r ∈ l.trace

/-- What the frames rely on stays so. -/
structure Grows (l l' : Ledger) : Prop where
  generation : l.generation ≤ l'.generation
  owns : ∀ {g event}, l.Owns g event → l'.Owns g event

lemma Grows.refl (l : Ledger) : l.Grows l := ⟨le_rfl, id⟩

lemma Grows.trans {l l' l'' : Ledger} (h : l.Grows l') (h' : l'.Grows l'') : l.Grows l'' :=
  ⟨h.generation.trans h'.generation, fun ho => h'.owns (h.owns ho)⟩

/-- An operation on the ledger that keeps it sound. -/
def Keeps (l l' : Ledger) : Prop := l.Sound → l'.Sound ∧ l.Grows l'

lemma Keeps.refl (l : Ledger) : l.Keeps l := fun h => ⟨h, .refl l⟩

lemma Keeps.trans {l l' l'' : Ledger} (h : l.Keeps l') (h' : l'.Keeps l'') : l.Keeps l'' := by
  intro hl
  obtain ⟨hl', hgrows⟩ := h hl
  obtain ⟨hl'', hgrows'⟩ := h' hl'
  exact ⟨hl'', hgrows.trans hgrows'⟩

/-- The split of a trace with a new head. -/
lemma cons_eq_split {x y : Happening} {trace newer older : List Happening}
    (h : x :: trace = newer ++ y :: older) :
    (x = y ∧ trace = older) ∨ ∃ newer', trace = newer' ++ y :: older := by
  cases newer with
  | nil =>
    obtain ⟨rfl, rfl⟩ := List.cons.inj h
    exact .inl ⟨rfl, rfl⟩
  | cons z newer => exact .inr ⟨newer, (List.cons.inj h).2⟩

variable {l : Ledger}

/-- A VAD start begins the next generation. -/
lemma keeps_generation : l.Keeps { l with generation := l.generation + 1 } := by
  intro h
  refine ⟨{ h with starts := ?_, cancels := ?_, entries := ?_, releases := ?_ }, ⟨?_, ?_⟩⟩
  · exact fun connection g hmem => (h.starts connection g hmem).trans (Nat.le_succ _)
  · exact fun newer older connection g hsplit hmem =>
      (h.cancels newer older connection g hsplit hmem).trans (Nat.lt_succ_self _)
  · exact fun g event hmem => { h.entries g event hmem with }
  · exact fun g event r hmem =>
      ⟨{ (h.releases g event r hmem).1 with }, (h.releases g event r hmem).2⟩
  · exact Nat.le_succ _
  · exact fun ho => { ho with }

/-- A happening that the trace of a sound ledger may get next. -/
structure Admits (l : Ledger) (x : Happening) : Prop where
  start : ∀ connection g, x = .sent connection (.start g) → g ≤ l.generation
  cancel : x = .canceled → ∀ connection g, .sent connection (.start g) ∈ l.trace →
    g < l.generation
  push : ∀ event generation current, x = .pushed event generation current →
    generation = .known current ∧ StartedSinceCancel current l.trace
  release : ∀ g event r, x = .released g event r → (g, event) ∈ l.finalEvents ∧ r.For g

/-- A happening that is admitted keeps the ledger sound. -/
lemma keeps_cons {x : Happening} (hadmits : l.Sound → l.Admits x) :
    l.Keeps { l with trace := x :: l.trace } := by
  intro h
  have hx := hadmits h
  have howns : ∀ {g event}, l.Owns g event → Owns { l with trace := x :: l.trace } g event := by
    intro g event ho
    refine { lt := ho.lt, entry := ho.entry, release := fun g' r hmem => ?_ }
    rcases List.mem_cons.mp hmem with hhead | hmem
    · exact ho.entry g' (hx.release g' event r hhead.symm).1
    · exact ho.release g' r hmem
  refine ⟨⟨?_, ?_, ?_, ?_, ?_, ?_⟩, ⟨le_rfl, howns⟩⟩
  · intro connection g hmem
    rcases List.mem_cons.mp hmem with hhead | hmem
    · exact hx.start connection g hhead.symm
    · exact h.starts connection g hmem
  · intro newer older connection g hsplit hmem
    rcases cons_eq_split hsplit with ⟨hhead, rfl⟩ | ⟨newer', hsplit⟩
    · exact hx.cancel hhead connection g hmem
    · exact h.cancels newer' older connection g hsplit hmem
  · intro newer older event generation current hsplit
    rcases cons_eq_split hsplit with ⟨hhead, rfl⟩ | ⟨newer', hsplit⟩
    · exact hx.push event generation current hhead
    · exact h.pushes newer' older event generation current hsplit
  · exact fun g event hmem => howns (h.entries g event hmem)
  · intro g event r hmem
    rcases List.mem_cons.mp hmem with hhead | hmem
    · obtain ⟨hentry, hr⟩ := hx.release g event r hhead.symm
      exact ⟨howns (h.entries g event hentry), hr⟩
    · exact ⟨howns (h.releases g event r hmem).1, (h.releases g event r hmem).2⟩
  · intro event hmem
    obtain ⟨g, r, hr⟩ := h.set event hmem
    exact ⟨g, r, List.mem_cons_of_mem _ hr⟩

/-- A cancel ends the generation. -/
lemma keeps_cancel :
    l.Keeps { l with generation := l.generation + 1, trace := .canceled :: l.trace } := by
  intro hl
  have hstarts : ∀ connection g, .sent connection (.start g) ∈ l.trace → g < l.generation + 1 :=
    fun connection g hmem => Nat.lt_succ_of_le (hl.starts connection g hmem)
  refine (keeps_generation.trans (keeps_cons fun _ => ⟨?_, ?_, ?_, ?_⟩)) hl
  · rintro _ _ ⟨⟩
  · exact fun _ => hstarts
  · rintro _ _ _ ⟨⟩
  · rintro _ _ _ ⟨⟩

/-- A start message of a generation that was begun. -/
lemma keeps_start {connection g : ℕ} (hg : g ≤ l.generation) :
    l.Keeps { l with trace := .sent connection (.start g) :: l.trace } := by
  refine keeps_cons fun _ => ⟨?_, ?_, ?_, ?_⟩
  · rintro _ _ ⟨⟩
    exact hg
  · rintro ⟨⟩
  · rintro _ _ _ ⟨⟩
  · rintro _ _ _ ⟨⟩

/-- A transcript of the current generation is pushed. -/
lemma keeps_push (event : TranscriptEvent) :
    l.Keeps { l with
      trace := .pushed event (.known l.generation) l.generation :: l.trace } := by
  refine keeps_cons fun hl => ⟨?_, ?_, ?_, ?_⟩
  · rintro _ _ ⟨⟩
  · rintro ⟨⟩
  · rintro _ _ _ ⟨⟩
    refine ⟨rfl, fun later earlier connection hsplit hmem => ?_⟩
    exact lt_irrefl _ (hl.cancels later earlier connection _ hsplit hmem)
  · rintro _ _ _ ⟨⟩

/-- An event whose release is recorded counts as set. -/
lemma keeps_finalSet {g event : ℕ} {r : Release} (hmem : .released g event r ∈ l.trace) :
    l.Keeps { l with finalSet := event :: l.finalSet } := by
  intro h
  have howns : ∀ {g' event'}, l.Owns g' event' →
      Owns { l with finalSet := event :: l.finalSet } g' event' :=
    fun ho => { lt := ho.lt, entry := ho.entry, release := ho.release }
  refine ⟨{ h with entries := ?_, releases := ?_, set := ?_ }, ⟨le_rfl, howns⟩⟩
  · exact fun g' event' hmem => howns (h.entries g' event' hmem)
  · exact fun g' event' r' hmem =>
      ⟨howns (h.releases g' event' r' hmem).1, (h.releases g' event' r' hmem).2⟩
  · intro event' hset
    rcases List.mem_cons.mp hset with rfl | hset
    · exact ⟨g, r, hmem⟩
    · exact h.set event' hset

/-- The event of an entry is set by what may set it. -/
lemma keeps_set {g event : ℕ} {r : Release} (hentry : (g, event) ∈ l.finalEvents)
    (hr : r.For g) :
    l.Keeps { l with
      finalSet := event :: l.finalSet, trace := .released g event r :: l.trace } := by
  refine Keeps.trans (keeps_cons (x := .released g event r) fun _ => ⟨?_, ?_, ?_, ?_⟩)
    (keeps_finalSet (List.mem_cons_self ..))
  · rintro _ _ ⟨⟩
  · rintro ⟨⟩
  · rintro _ _ _ ⟨⟩
  · rintro _ _ _ ⟨⟩
    exact ⟨hentry, hr⟩

/-- Entries are taken out. -/
lemma keeps_entries {entries : List (ℕ × ℕ)} (hsub : ∀ e ∈ entries, e ∈ l.finalEvents) :
    l.Keeps { l with finalEvents := entries } := by
  intro h
  have howns : ∀ {g event}, l.Owns g event → Owns { l with finalEvents := entries } g event :=
    fun ho => { lt := ho.lt, entry := fun g' hmem => ho.entry g' (hsub _ hmem),
                release := ho.release }
  exact ⟨{ h with
    entries := fun g event hmem => howns (h.entries g event (hsub _ hmem))
    releases := fun g event r hmem =>
      ⟨howns (h.releases g event r hmem).1, (h.releases g event r hmem).2⟩ }, ⟨le_rfl, howns⟩⟩

/-- A new event for a generation. -/
lemma keeps_entry (g : ℕ) :
    l.Keeps { l with
      finalEvents := l.finalEvents ++ [(g, l.finalEventCount)]
      finalEventCount := l.finalEventCount + 1 } := by
  intro h
  have howns : ∀ {g' event}, l.Owns g' event →
      Owns { l with
        finalEvents := l.finalEvents ++ [(g, l.finalEventCount)]
        finalEventCount := l.finalEventCount + 1 } g' event := by
    intro g' event ho
    refine { lt := ho.lt.trans (Nat.lt_succ_self _), entry := fun g'' hmem => ?_,
             release := ho.release }
    rcases List.mem_append.mp hmem with hmem | hmem
    · exact ho.entry g'' hmem
    · obtain ⟨-, rfl⟩ : g'' = g ∧ event = l.finalEventCount := by simpa using hmem
      exact absurd ho.lt (lt_irrefl _)
  refine ⟨{ h with entries := ?_, releases := ?_ }, ⟨le_rfl, howns⟩⟩
  · intro g' event hmem
    rcases List.mem_append.mp hmem with hmem | hmem
    · exact howns (h.entries g' event hmem)
    · obtain ⟨rfl, rfl⟩ : g' = g ∧ event = l.finalEventCount := by simpa using hmem
      refine
        { lt := Nat.lt_succ_self _
          entry := fun g'' hmem => ?_
          release := fun g'' r hmem => ?_ }
      · rcases List.mem_append.mp hmem with hmem | hmem
        · exact absurd (h.entries g'' _ hmem).lt (lt_irrefl _)
        · simpa using hmem
      · exact absurd (h.releases g'' _ r hmem).1.lt (lt_irrefl _)
  · exact fun g' event r hmem =>
      ⟨howns (h.releases g' event r hmem).1, (h.releases g' event r hmem).2⟩

end Ledger

end RtcAsr.Plugin
