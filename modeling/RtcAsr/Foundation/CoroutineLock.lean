import RtcAsr.Foundation.Coroutine

/-!
# Locks of coroutines

A lock is a field of the shared state with the task that holds it.  The activations of one function
ask for it, are inside while they hold it, and release it before they end.  If the frame moves obey
this, then a task with a frame inside is the holder, so that at most one task is inside at a time
(`Lock.held_step`, `Held.unique`).
-/

namespace Coroutines

variable {σ φ κ ν ε χ : Type*}

/-- A lock: its holder, the function that takes it, the frames that ask for it and those that hold
it. -/
structure Lock (σ φ κ : Type*) where
  holder : σ → Option ℕ
  owner : κ
  asks : φ → Prop
  inside : φ → Prop

namespace Lock

/-- What a frame move does to a lock. -/
inductive Moves (L : Lock σ φ κ) (t : ℕ) (f : φ) (signal : Signal ν ε) (s : σ)
    (m : Move σ φ κ ε) : Prop
  | idle (hholder : L.holder m.shared = L.holder s)
      (hrest : ∀ g, Command.rest m.command = some g → L.inside g → L.inside f)
  | acquire {v : ν} (hasks : L.asks f) (hsignal : signal = .value v)
      (hholder : L.holder m.shared = some t)
  | release (hinside : L.inside f)
      (hrest : ∀ g, Command.rest m.command = some g → ¬ L.inside g)

/-- A program obeys a lock. -/
structure Obeyed (L : Lock σ φ κ) (M : Coroutines σ φ κ ν ε χ) : Prop where
  fn_inside : ∀ {f}, L.inside f → M.fn f = L.owner
  pending_asks : ∀ {f}, L.asks f → M.pending f = .none
  awaited_asks : ∀ {f}, L.asks f → M.awaited f = .none
  entry_asks : ∀ {f}, L.asks f → f ≠ M.enter (M.fn f)
  enter_inside : ∀ k, ¬ L.inside (M.enter k)
  answers : ∀ {s f v}, L.asks f → M.answers s f (.value v) = true → L.holder s = .none
  moves : ∀ {t n f signal s}, L.Moves t f signal s (M.resume t n f signal s)
  outside : ∀ x s, L.holder (M.outside x s) = L.holder s

/-- A task inside holds the lock, and a task that is given the lock finds it free. -/
structure Held (L : Lock σ φ κ) (w : World σ φ ν ε) : Prop where
  holds : ∀ t, ∀ f ∈ w.stack t, L.inside f → L.holder w.shared = some t
  free : ∀ t v f fs, w.running = some (t, .value v) → w.stack t = f :: fs → L.asks f →
    L.holder w.shared = .none

/-- At most one task is inside. -/
lemma Held.unique {L : Lock σ φ κ} {w : World σ φ ν ε} (hw : L.Held w) {t u : ℕ} {f g : φ}
    (hf : f ∈ w.stack t) (hg : g ∈ w.stack u) (hinf : L.inside f) (hing : L.inside g) : t = u :=
  Option.some.inj ((hw.holds t f hf hinf).symm.trans (hw.holds u g hg hing))

/-- Before anything is called no task is inside. -/
lemma held_initial (L : Lock σ φ κ) (s : σ) : L.Held (World.initial s : World σ φ ν ε) := by
  refine ⟨fun t f hf => ?_, fun t v f fs hrunning => ?_⟩
  · cases hf
  · cases hrunning

variable [DecidableEq ε] {L : Lock σ φ κ} {M : Coroutines σ φ κ ν ε χ} {rank : κ → ℕ}

/-- A step keeps a lock that the program obeys. -/
theorem held_step (hM : M.Lawful rank) (hL : L.Obeyed M) {w w' : World σ φ ν ε}
    {a : LoopAction κ ν ε χ} (hshape : M.Shaped w) (hw : L.Held w) (h : M.step w a = some w') :
    L.Held w' := by
  cases M.step_cases h with
  | @call k hrun hk =>
    refine ⟨fun t f hf hinside => ?_, fun t v f fs hrunning => ?_⟩
    · by_cases ht : t = w.spawned
      · subst ht
        obtain rfl : f = M.enter k := by simpa using hf
        exact absurd hinside (hL.enter_inside k)
      · simp only [Function.update_of_ne ht] at hf
        exact hw.holds t f hf hinside
    · cases hrun ▸ hrunning
  | @resume t signal f fs hrun hf hsignal =>
    refine ⟨hw.holds, fun u v g gs hrunning hg hasks => ?_⟩
    obtain ⟨rfl, rfl⟩ := Prod.mk.inj (Option.some.inj hrunning)
    obtain ⟨rfl, rfl⟩ := List.cons.inj (hf.symm.trans hg)
    cases hmark : w.cancelled t with
    | false =>
      simp only [accepts, hmark, hL.awaited_asks hasks] at hsignal
      exact hL.answers hasks hsignal
    | true => simp [accepts, hmark] at hsignal
  | @outside x hrun =>
    refine ⟨fun t f hf hinside => (hL.outside x _).trans (hw.holds t f hf hinside), ?_⟩
    intro t v f fs hrunning
    cases hrun ▸ hrunning
  | @tick t signal f fs hrun hf =>
    have hmem : f ∈ w.stack t := hf ▸ List.mem_cons_self ..
    have hmoves : L.Moves t f signal w.shared (M.resume t w.spawned f signal w.shared) := hL.moves
    set m := M.resume t w.spawned f signal w.shared with hm
    refine ⟨fun u g hg hinside => ?_, fun u v g gs hrunning hg hasks => ?_⟩
    · rw [apply_shared]
      rcases mem_apply hf hg with ⟨rfl, hnew⟩ | ⟨k, -, -, rfl⟩ | ⟨hold, hfs⟩
      · obtain hrest | ⟨k, rfl⟩ := mem_frames hnew
        case inr => exact absurd hinside (hL.enter_inside k)
        cases hmoves with
        | idle hholder hkeeps =>
          exact hholder.trans (hw.holds u f hmem (hkeeps g hrest hinside))
        | acquire hasks hsignal hholder => exact hholder
        | release hinside' hkeeps => exact absurd hinside (hkeeps g hrest)
      · exact absurd hinside (hL.enter_inside k)
      · have hbefore : L.holder w.shared = some u := hw.holds u g hold hinside
        cases hmoves with
        | idle hholder hkeeps => exact hholder.trans hbefore
        | acquire hasks hsignal hholder =>
          have hfree := hw.free t _ f fs (hsignal ▸ hrun) hf hasks
          rw [hfree] at hbefore
          cases hbefore
        | release hinside' hkeeps =>
          -- the releasing activation is the only one inside
          obtain rfl : u = t := hw.unique hold hmem hinside hinside'
          have hnested : M.NestedStack (f :: fs) := hf ▸ hshape.nested u
          have hlt := hnested.rank_lt hM g (hfs rfl)
          rw [hL.fn_inside hinside, hL.fn_inside hinside'] at hlt
          exact absurd hlt (lt_irrefl _)
    · rcases pending_of_running_apply hshape hf hrunning hg with ⟨k, rfl⟩ | hpending
      · exact absurd (by rw [hM.fn_enter]) (hL.entry_asks hasks)
      · rw [hL.pending_asks hasks] at hpending
        cases hpending

end Lock

end Coroutines
