import RtcAsr.Foundation.CoroutineLock
import RtcAsr.Foundation.Cancellation
import Mathlib.Logic.Relation
import Mathlib.Order.WellFounded

/-!
# Tasks that wait for each other

A suspended task waits for another one if it asks for a lock that this one holds, or awaits its end.
Locks are taken by functions of decreasing rank, so that waiting for locks alone cannot close a
circle; and a task that is ending after it was cancelled waits for nobody.  If a holder of a lock is
always inside (`Lock.Kept`), and a task that is awaited has been asked to stop, then no task waits
for itself and every chain of waits ends (`waits_wellFounded`).
-/

namespace Coroutines

variable {σ φ κ ν ε χ ι : Type*} {M : Coroutines σ φ κ ν ε χ}

/-! ## Locks that are given back -/

namespace Lock

/-- A program gives a lock back: a task that gets the lock goes inside, and a task that leaves the
inside frees the lock. -/
structure Returned (L : Lock σ φ κ) (M : Coroutines σ φ κ ν ε χ) : Prop where
  fn_asks : ∀ {f}, L.asks f → M.fn f = L.owner
  asks : ∀ {t n f signal s}, L.asks f →
    L.holder (M.resume t n f signal s).shared = L.holder s ∨
      (L.holder (M.resume t n f signal s).shared = some t ∧
        ∃ g, Command.rest (M.resume t n f signal s).command = some g ∧ L.inside g)
  inside : ∀ {t n f signal s}, L.inside f →
    L.holder (M.resume t n f signal s).shared = .none ∨
      (L.holder (M.resume t n f signal s).shared = L.holder s ∧
        ∃ g, Command.rest (M.resume t n f signal s).command = some g ∧ L.inside g)

/-- The holder of the lock is inside. -/
def Kept (L : Lock σ φ κ) (w : World σ φ ν ε) : Prop :=
  ∀ t, L.holder w.shared = some t → ∃ f ∈ w.stack t, L.inside f

/-- A frame that goes on is on the stack of its task. -/
lemma mem_of_rest {w : World σ φ ν ε} {t : ℕ} {fs : List φ} {m : Move σ φ κ ε} {g : φ}
    (h : Command.rest m.command = some g) : g ∈ (M.apply w t fs m).stack t := by
  rw [apply_stack, Function.update_self]
  cases hcommand : m.command with
  | await f =>
    rw [hcommand] at h
    obtain rfl : f = g := Option.some.inj h
    exact List.mem_cons_self ..
  | call f k =>
    rw [hcommand] at h
    obtain rfl : f = g := Option.some.inj h
    exact List.mem_cons_of_mem _ (List.mem_cons_self ..)
  | ret =>
    rw [hcommand] at h
    cases h
  | throw e =>
    rw [hcommand] at h
    cases h

variable {L : Lock σ φ κ}

/-- Before anything is called nobody holds a free lock. -/
lemma kept_initial (s : σ) (hfree : L.holder s = .none) :
    L.Kept (World.initial s : World σ φ ν ε) := by
  intro t ht
  cases hfree.symm.trans ht

variable [DecidableEq ε]

/-- A step keeps the holder of the lock inside. -/
theorem kept_step (hL : L.Obeyed M) (hR : L.Returned M) {w w' : World σ φ ν ε}
    {a : LoopAction κ ν ε χ} (hshape : M.Shaped w) (hheld : L.Held w) (hw : L.Kept w)
    (h : M.step w a = some w') : L.Kept w' := by
  have hcreated : ∀ {u f}, f ∈ w.stack u → u < w.spawned := by
    intro u f hf
    by_contra hlt
    rw [hshape.fresh u (not_lt.mp hlt)] at hf
    cases hf
  cases M.step_cases h with
  | call hrun hk =>
    intro t ht
    obtain ⟨f, hf, hinside⟩ := hw t ht
    refine ⟨f, ?_, hinside⟩
    change f ∈ Function.update w.stack w.spawned [M.enter _] t
    rw [Function.update_of_ne (hcreated hf).ne]
    exact hf
  | resume hrun hf hsignal => exact hw
  | outside hrun =>
    intro t ht
    exact hw t ((hL.outside _ _).symm.trans ht)
  | @tick t signal f fs hrun hf =>
    set m := M.resume t w.spawned f signal w.shared
    have hmoves : L.Moves t f signal w.shared m := hL.moves
    -- the holder was the same before, and it was not this activation that is inside
    have hold : ∀ u, L.holder w.shared = some u → ¬ L.inside f →
        ∃ g ∈ (M.apply w t fs m).stack u, L.inside g := by
      intro u hu hnot
      obtain ⟨g, hg, hinside⟩ := hw u hu
      refine ⟨g, ?_, hinside⟩
      by_cases hut : u = t
      · subst hut
        rw [hf] at hg
        have hfs : g ∈ fs := by
          rcases List.mem_cons.mp hg with rfl | hfs
          · exact absurd hinside hnot
          · exact hfs
        rw [apply_stack, Function.update_self]
        exact List.mem_append_right _ hfs
      · rw [apply_stack_of_ne _ _ _ _ _ hut (hcreated hg)]
        exact hg
    intro u hu
    rw [apply_shared] at hu
    by_cases hinside : L.inside f
    · have hholds : L.holder w.shared = some t :=
        hheld.holds t f (hf ▸ List.mem_cons_self ..) hinside
      have hreturned : L.holder m.shared = .none ∨ (L.holder m.shared = L.holder w.shared ∧
          ∃ g, Command.rest m.command = some g ∧ L.inside g) := hR.inside hinside
      rcases hreturned with hnone | ⟨hsame, g, hrest, hg⟩
      · rw [hu] at hnone
        cases hnone
      · rw [hu, hholds] at hsame
        obtain rfl := Option.some.inj hsame
        exact ⟨g, mem_of_rest hrest, hg⟩
    · by_cases hasks : L.asks f
      · have htaken : L.holder m.shared = L.holder w.shared ∨ (L.holder m.shared = some t ∧
            ∃ g, Command.rest m.command = some g ∧ L.inside g) := hR.asks hasks
        rcases htaken with hsame | ⟨hmine, g, hrest, hg⟩
        · exact hold u (hsame.symm.trans hu) hinside
        · rw [hu] at hmine
          obtain rfl := Option.some.inj hmine
          exact ⟨g, mem_of_rest hrest, hg⟩
      · cases hmoves with
        | idle hholder => exact hold u (hholder.symm.trans hu) hinside
        | acquire hasks' => exact absurd hasks' hasks
        | release hinside' => exact absurd hinside' hinside

end Lock

/-! ## Asking tasks to stop -/

/-- A task that is cancelled while it awaits no task gets the mark. -/
lemma cancelAll_of_mem {stack : ℕ → List φ} {fuel t : ℕ} {marks : ℕ → Bool} {ts : List ℕ} {f : φ}
    {fs : List φ} (hmem : t ∈ ts) (hfuel : 0 < fuel) (hf : stack t = f :: fs)
    (hawaited : M.awaited f = .none) : M.cancelAll stack fuel marks ts t = true := by
  obtain ⟨before, after, rfl⟩ := List.append_of_mem hmem
  have htarget : M.cancelTarget stack fuel t = some t := by
    obtain ⟨fuel, rfl⟩ := Nat.exists_eq_succ_of_ne_zero hfuel.ne'
    simp only [cancelTarget, hf, hawaited]
  have hsplit : M.cancelAll stack fuel marks (before ++ t :: after) =
      M.cancelAll stack fuel (Function.update (M.cancelAll stack fuel marks before) t true)
        after := by
    simp only [cancelAll, List.foldl_append, List.foldl_cons, htarget]
  rw [hsplit]
  exact cancelAll_mono after (Function.update_self ..)

/-! ## Waiting -/

/-- The task is suspended, and nobody asked it to stop. -/
structure Rests (w : World σ φ ν ε) (t : ℕ) : Prop where
  unmarked : w.cancelled t = false
  suspended : ∀ signal, w.running ≠ some (t, signal)

/-- The task `t` waits for the task `u`: it asks for a lock that `u` holds, or awaits the end of
`u`. -/
inductive WaitsFor (M : Coroutines σ φ κ ν ε χ) (L : ι → Lock σ φ κ) (w : World σ φ ν ε)
    (t u : ℕ) : Prop
  | lock {i : ι} {f : φ} {fs : List φ} (hrests : Rests w t) (hf : w.stack t = f :: fs)
    (hasks : (L i).asks f) (hholder : (L i).holder w.shared = some u)
  | task {f : φ} {fs : List φ} (hrests : Rests w t) (hf : w.stack t = f :: fs)
    (hawaits : M.awaited f = some u) (halive : w.stack u ≠ [])

/-- No task waits for itself, and every chain of waits ends. -/
structure DeadlockFree (M : Coroutines σ φ κ ν ε χ) (L : ι → Lock σ φ κ) (w : World σ φ ν ε) :
    Prop where
  acyclic : ∀ t, ¬ Relation.TransGen (WaitsFor M L w) t t
  ends : ∀ t, ∃ u, Relation.ReflTransGen (WaitsFor M L w) t u ∧ ∀ v, ¬ WaitsFor M L w u v

variable {L : ι → Lock σ φ κ} {w : World σ φ ν ε} {rank : κ → ℕ}

/-- A task that is not at rest waits for nobody. -/
lemma acc_of_not_rests {u : ℕ} (h : w.stack u = [] ∨ ¬ Rests w u) :
    Acc (flip (WaitsFor M L w)) u := by
  refine ⟨u, fun v hv => ?_⟩
  rcases h with hended | hstopped
  · cases hv with
    | lock hrests hf => cases hended.symm.trans hf
    | task hrests hf => cases hended.symm.trans hf
  · cases hv with
    | lock hrests => exact absurd hrests hstopped
    | task hrests => exact absurd hrests hstopped

/-- A task that asks for no lock waits at most for a task that waits for nobody. -/
lemma acc_of_not_asks (hending : ∀ t f fs u, w.stack t = f :: fs → M.awaited f = some u →
      w.stack u = [] ∨ ¬ Rests w u) {t : ℕ}
    (hasks : ∀ f fs, w.stack t = f :: fs → ∀ i, ¬ (L i).asks f) :
    Acc (flip (WaitsFor M L w)) t := by
  refine ⟨t, fun u hu => ?_⟩
  cases hu with
  | lock hrests hf hasks' hholder => exact absurd hasks' (hasks _ _ hf _)
  | @task f fs hrests hf hawaits halive => exact acc_of_not_rests (hending t f fs u hf hawaits)

/-- **Locks that are taken by functions of decreasing rank, and awaiting tasks that end, close no
circle of waits.** -/
theorem waits_wellFounded (hM : M.Lawful rank) (hshape : M.Shaped w)
    (hL : ∀ i, (L i).Obeyed M) (hR : ∀ i, (L i).Returned M)
    (halone : ∀ i j f, (L i).inside f → ¬ (L j).asks f) (hkept : ∀ i, (L i).Kept w)
    (hending : ∀ t f fs u, w.stack t = f :: fs → M.awaited f = some u →
      w.stack u = [] ∨ ¬ Rests w u) :
    WellFounded (flip (WaitsFor M L w)) := by
  have hacc : ∀ n t, (∀ f fs, w.stack t = f :: fs → rank (M.fn f) < n) →
      Acc (flip (WaitsFor M L w)) t := by
    intro n
    induction n with
    | zero =>
      intro t hrank
      refine acc_of_not_asks hending fun f fs hf => ?_
      exact absurd (hrank f fs hf) (Nat.not_lt_zero _)
    | succ n ih =>
      intro t hrank
      refine ⟨t, fun u hu => ?_⟩
      cases hu with
      | @task f fs hrests hf hawaits halive =>
        exact acc_of_not_rests (hending t f fs u hf hawaits)
      | @lock i f fs hrests hf hasks hholder =>
        obtain ⟨g, hg, hinside⟩ := hkept i u hholder
        cases hu : w.stack u with
        | nil =>
          rw [hu] at hg
          cases hg
        | cons f' gs =>
          rw [hu] at hg
          rcases List.mem_cons.mp hg with rfl | hgs
          · -- the holder itself asks for nothing
            refine acc_of_not_asks hending fun h hs hh j => ?_
            obtain ⟨rfl, rfl⟩ := List.cons.inj (hu.symm.trans hh)
            exact halone i j g hinside
          · -- the holder has called a function of smaller rank
            have hnested : M.NestedStack (f' :: gs) := hu ▸ hshape.nested u
            have hlt : rank (M.fn f') < rank (M.fn f) := by
              calc rank (M.fn f') < rank (M.fn g) := hnested.rank_lt hM g hgs
                _ = rank (M.fn f) := by rw [(hL i).fn_inside hinside, (hR i).fn_asks hasks]
            refine ih u fun h hs hh => ?_
            obtain ⟨rfl, rfl⟩ := List.cons.inj (hu.symm.trans hh)
            exact hlt.trans_le (Nat.lt_succ_iff.mp (hrank f fs hf))
  refine ⟨fun t => ?_⟩
  cases ht : w.stack t with
  | nil =>
    refine acc_of_not_asks hending fun f fs hf => ?_
    cases ht.symm.trans hf
  | cons f fs =>
    refine hacc (rank (M.fn f) + 1) t fun g gs hg => ?_
    obtain ⟨rfl, rfl⟩ := List.cons.inj (ht.symm.trans hg)
    exact Nat.lt_succ_self _

/-- A well-founded relation of waits has no deadlock. -/
theorem DeadlockFree.of_wellFounded (h : WellFounded (flip (WaitsFor M L w))) :
    DeadlockFree M L w where
  acyclic t ht := by
    have hswap : Relation.TransGen (flip (WaitsFor M L w)) t t := Relation.transGen_swap.mpr ht
    exact h.transGen.irrefl.irrefl t hswap
  ends t := by
    induction t using h.induction with
    | _ t ih =>
      by_cases hwaits : ∃ u, WaitsFor M L w t u
      · obtain ⟨u, hu⟩ := hwaits
        obtain ⟨v, hv, hend⟩ := ih u hu
        exact ⟨v, Relation.ReflTransGen.head hu hv, hend⟩
      · exact ⟨t, .refl, fun v hv => hwaits ⟨v, hv⟩⟩

end Coroutines
