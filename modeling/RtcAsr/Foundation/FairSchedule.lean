import RtcAsr.Foundation.Routine

/-!
# Programs under fair schedules

An endless schedule gives a program as many turns as it asks for.  It is `Fair` when the turns it
takes are allowed and each turn the program depends on comes again and again.  `Returns` says that
a program returns on every fair schedule after finitely many turns, and what holds then.

The rules follow the ways of building programs.  `returns_await` is the rule for waiting: a rank
that no turn raises, and in every state a turn that is depended on, which answers or lowers the
rank.
-/

namespace Routine

universe u

variable {σ τ ε α β : Type u}

/-- The first `n` turns of a schedule. -/
def firstTurns (schedule : ℕ → τ) : ℕ → List τ
  | 0 => []
  | n + 1 => schedule 0 :: firstTurns (fun k => schedule (k + 1)) n

/-- A schedule from its `n`-th turn on. -/
def fromTurn (schedule : ℕ → τ) (n : ℕ) : ℕ → τ := fun k => schedule (n + k)

/-- The turns up to one and those after it. -/
lemma firstTurns_add (schedule : ℕ → τ) (m n : ℕ) :
    firstTurns schedule (m + n) =
      firstTurns schedule m ++ firstTurns (fromTurn schedule m) n := by
  induction m generalizing schedule with
  | zero =>
    have hfrom : fromTurn schedule 0 = schedule := funext fun k => by simp [fromTurn]
    rw [hfrom, Nat.zero_add]
    rfl
  | succ m ih =>
    have hfrom : fromTurn (fun k => schedule (k + 1)) m = fromTurn schedule (m + 1) :=
      funext fun k => congrArg schedule (by omega)
    rw [show m + 1 + n = m + n + 1 by omega, firstTurns, firstTurns, ih, hfrom, List.cons_append]

/-- The turns that are needed come again and again, and all turns are allowed. -/
structure Fair (needed allowed : τ → Prop) (schedule : ℕ → τ) : Prop where
  recurs : ∀ turn, needed turn → ∀ n, ∃ k, schedule (n + k) = turn
  allowed : ∀ n, allowed (schedule n)

variable {needed allowed : τ → Prop} {schedule : ℕ → τ}

/-- A fair schedule stays fair. -/
lemma Fair.fromTurn (h : Fair needed allowed schedule) (n : ℕ) :
    Fair needed allowed (fromTurn schedule n) := by
  refine ⟨fun turn hturn m => ?_, fun m => h.allowed _⟩
  obtain ⟨k, hk⟩ := h.recurs turn hturn (n + m)
  exact ⟨k, by rw [Routine.fromTurn, ← hk, Nat.add_assoc]⟩

/-- A fair schedule without its first turn. -/
lemma Fair.tail (h : Fair needed allowed schedule) :
    Fair needed allowed fun k => schedule (k + 1) := by
  have hfrom : Routine.fromTurn schedule 1 = fun k => schedule (k + 1) :=
    funext fun k => congrArg schedule (Nat.add_comm 1 k)
  rw [← hfrom]
  exact h.fromTurn 1

/-- The program returns after the first `n` turns of the schedule, whatever follows. -/
def ReturnsAfter (m : Routine σ τ ε α) (s : σ) (schedule : ℕ → τ) (n : ℕ) (a : α) (t : σ) : Prop :=
  ∀ more, m s (firstTurns schedule n ++ more) = .done a t more

/-- Started in `s`, the program returns on every fair schedule, and then `Q` holds. -/
def Returns (needed allowed : τ → Prop) (m : Routine σ τ ε α) (s : σ) (Q : α → σ → Prop) : Prop :=
  ∀ schedule, Fair needed allowed schedule → ∃ n a t, m.ReturnsAfter s schedule n a t ∧ Q a t

/-! ## The rules -/

variable {m : Routine σ τ ε α} {s : σ} {Q : α → σ → Prop}

/-- A weaker condition. -/
lemma Returns.mono {R : α → σ → Prop} (h : m.Returns needed allowed s Q)
    (hQ : ∀ a t, Q a t → R a t) : m.Returns needed allowed s R := by
  intro schedule hfair
  obtain ⟨n, a, t, hdone, hat⟩ := h schedule hfair
  exact ⟨n, a, t, hdone, hQ a t hat⟩

/-- What the program ensures when it returns holds then. -/
lemma Returns.ensures {P : Post σ ε α} (h : m.Returns needed allowed s Q) (hP : m.Ensures s P) :
    m.Returns needed allowed s fun a t => Q a t ∧ P.done a t := by
  intro schedule hfair
  obtain ⟨n, a, t, hafter, hQ⟩ := h schedule hfair
  have hends := hP (firstTurns schedule n ++ [])
  rw [hafter []] at hends
  exact ⟨n, a, t, hafter, hQ, hends⟩

/-- Returning. -/
lemma returns_pure {a : α} (h : Q a s) : (pure a : Routine σ τ ε α).Returns needed allowed s Q :=
  fun _ _ => ⟨0, a, s, fun _ => rfl, h⟩

/-- Changing the state. -/
lemma returns_modify {Q : PUnit → σ → Prop} {f : σ → σ} (h : Q ⟨⟩ (f s)) :
    (modify f : Routine σ τ ε PUnit).Returns needed allowed s Q :=
  fun _ _ => ⟨0, ⟨⟩, f s, fun _ => rfl, h⟩

/-- One program after the other. -/
lemma returns_bind {Q : β → σ → Prop} {f : α → Routine σ τ ε β}
    (h : m.Returns needed allowed s fun a t => (f a).Returns needed allowed t Q) :
    (m >>= f).Returns needed allowed s Q := by
  intro schedule hfair
  obtain ⟨n, a, t, hfirst, hrest⟩ := h schedule hfair
  obtain ⟨k, b, u, hsecond, hQ⟩ := hrest (fromTurn schedule n) (hfair.fromTurn n)
  refine ⟨n + k, b, u, fun more => ?_, hQ⟩
  rw [firstTurns_add, List.append_assoc]
  change bind m f s _ = _
  rw [bind, hfirst]
  exact hsecond more

/-- **Waiting.**  No turn raises or increases the rank, and a turn that leaves the rank as it is and
is not the next one that helps leaves that one as it is; so the next turn that helps comes, and
answers or lowers the rank. -/
lemma returns_await {poll : σ → τ → σ × Option (Except ε α)} (I : σ → Prop) (rank : σ → ℕ)
    (next : σ → τ) (hI : I s) (hneeded : ∀ t, I t → needed (next t))
    (hturn : ∀ t turn t', I t → allowed turn → poll t turn = (t', none) →
      I t' ∧ (rank t' < rank t ∨ rank t' = rank t ∧ turn ≠ next t ∧ next t' = next t))
    (hraised : ∀ t turn t' e, I t → allowed turn → poll t turn ≠ (t', some (.error e))) :
    (await poll).Returns needed allowed s fun _ _ => True := by
  intro schedule hfair
  induction hrank : rank s using Nat.strongRecOn generalizing s schedule with
  | _ r ih =>
    obtain ⟨k, hk⟩ := hfair.recurs (next s) (hneeded s hI) 0
    rw [Nat.zero_add] at hk
    -- the distance to the next turn that helps
    induction k generalizing s schedule with
    | zero =>
      rcases hpoll : poll s (schedule 0) with ⟨t, _ | e | a⟩
      · obtain ⟨hIt, hlower | ⟨-, hne, -⟩⟩ := hturn s _ t hI (hfair.allowed 0) hpoll
        · obtain ⟨n, a, u, hafter, -⟩ := ih (rank t) (hrank ▸ hlower) hIt _ hfair.tail rfl
          refine ⟨n + 1, a, u, fun more => ?_, trivial⟩
          rw [await, firstTurns, List.cons_append, awaitFrom, hpoll]
          exact hafter more
        · exact absurd hk hne
      · exact absurd hpoll (hraised s _ t e hI (hfair.allowed 0))
      · refine ⟨1, a, t, fun more => ?_, trivial⟩
        rw [await, firstTurns, List.cons_append, awaitFrom, hpoll]
        rfl
    | succ k ihk =>
      rcases hpoll : poll s (schedule 0) with ⟨t, _ | e | a⟩
      · obtain ⟨hIt, hcase⟩ := hturn s _ t hI (hfair.allowed 0) hpoll
        have hlater : ∃ n a u, (await poll).ReturnsAfter t (fun k => schedule (k + 1)) n a u ∧
            True := by
          rcases hcase with hlower | ⟨hsame, -, hnext⟩
          · exact ih (rank t) (hrank ▸ hlower) hIt _ hfair.tail rfl
          · exact ihk hIt _ hfair.tail (hsame.trans hrank) (by rw [hnext]; exact hk)
        obtain ⟨n, a, u, hafter, -⟩ := hlater
        refine ⟨n + 1, a, u, fun more => ?_, trivial⟩
        rw [await, firstTurns, List.cons_append, awaitFrom, hpoll]
        exact hafter more
      · exact absurd hpoll (hraised s _ t e hI (hfair.allowed 0))
      · refine ⟨1, a, t, fun more => ?_, trivial⟩
        rw [await, firstTurns, List.cons_append, awaitFrom, hpoll]
        rfl

end Routine
