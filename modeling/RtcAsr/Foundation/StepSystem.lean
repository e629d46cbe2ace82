import Mathlib.Algebra.Group.Basic
import Mathlib.Data.List.Basic
import Mathlib.Order.Nat
import Mathlib.Tactic.Abel
import Mathlib.Tactic.Common

/-!
# Deterministic step systems driven by actions

A `StepSystem σ α` is a partial step function `σ → α → Option σ`: the action resolves every
choice of the environment and of the scheduler (which task runs, what a call returns), and
`none` means that the action is not enabled in the state.  A run is a list of actions, so a
statement about every interleaving is a statement about every list.

The file collects the rules the developments above use: composing runs, the inductive
invariant rule, and its conditioned form for runs all of whose steps meet a condition
`C : σ → α → Prop` on the state before the step and the action taken (`Along`).
-/

/-- A state space with a partial step function; the action carries every choice. -/
structure StepSystem (σ α : Type*) where
  /-- The state after the action, `none` when the action is not enabled. -/
  step : σ → α → Option σ

namespace StepSystem

variable {σ α : Type*} (M : StepSystem σ α)

/-- The state after performing the actions in order. -/
def run : σ → List α → Option σ
  | s, [] => some s
  | s, a :: as => (M.step s a).bind fun s' => run s' as

/-- `s'` can be reached from `s` by some list of actions. -/
def Reaches (s s' : σ) : Prop := ∃ as, M.run s as = some s'

/-- Every step of the run from `s` along `as` meets the condition `C`. -/
def Along (C : σ → α → Prop) : σ → List α → Prop
  | _, [] => True
  | s, a :: as => C s a ∧ ∀ s', M.step s a = some s' → Along C s' as

/-- `I` holds in every state of the run from `s` along `as`, the first and the last included. -/
def Throughout (I : σ → Prop) : σ → List α → Prop
  | s, [] => I s
  | s, a :: as => I s ∧ ∀ s', M.step s a = some s' → Throughout I s' as

variable {M}

@[simp] lemma run_nil (s : σ) : M.run s [] = some s := rfl

/-- A run that starts with `a` is a step followed by a run. -/
lemma run_cons_eq_some {s s' : σ} {a : α} {as : List α} :
    M.run s (a :: as) = some s' ↔ ∃ t, M.step s a = some t ∧ M.run t as = some s' := by
  simp [run, Option.bind_eq_some_iff]

/-- Runs compose. -/
lemma run_append {s : σ} {as bs : List α} :
    M.run s (as ++ bs) = (M.run s as).bind fun t => M.run t bs := by
  induction as generalizing s with
  | nil => rfl
  | cons a as ih =>
    simp only [List.cons_append, run]
    cases M.step s a with
    | none => rfl
    | some t => exact ih

/-- A run followed by one more step. -/
lemma run_concat_eq_some {s s' : σ} {a : α} {as : List α} :
    M.run s (as ++ [a]) = some s' ↔ ∃ t, M.run s as = some t ∧ M.step t a = some s' := by
  rw [run_append, Option.bind_eq_some_iff]
  refine exists_congr fun t => and_congr_right fun _ => ?_
  rw [run_cons_eq_some]
  simp

/-- The empty run reaches the state itself. -/
lemma Reaches.refl (s : σ) : M.Reaches s s := ⟨[], rfl⟩

/-- Reaching is closed under one more step. -/
lemma Reaches.tail {s t u : σ} {a : α} (h : M.Reaches s t) (ha : M.step t a = some u) :
    M.Reaches s u := by
  obtain ⟨as, has⟩ := h
  exact ⟨as ++ [a], run_concat_eq_some.mpr ⟨t, has, ha⟩⟩

/-- Two conditions met along a run. -/
lemma Along.and {C D : σ → α → Prop} {s : σ} {as : List α} (hC : M.Along C s as)
    (hD : M.Along D s as) : M.Along (fun t a => C t a ∧ D t a) s as := by
  induction as generalizing s with
  | nil => trivial
  | cons a as ih => exact ⟨⟨hC.1, hD.1⟩, fun s' h => ih (hC.2 s' h) (hD.2 s' h)⟩

/-- A condition that follows from another one in reachable states. -/
lemma Along.imp_of_reaches {C D : σ → α → Prop} {s₀ s : σ} {as : List α} (hs : M.Reaches s₀ s)
    (h : ∀ t a, M.Reaches s₀ t → C t a → D t a) (hC : M.Along C s as) : M.Along D s as := by
  induction as generalizing s with
  | nil => trivial
  | cons a as ih => exact ⟨h s a hs hC.1, fun s' hs' => ih (hs.tail hs') (hC.2 s' hs')⟩

/-- **The invariant rule for conditioned runs.** A predicate that every step meeting `C`
preserves holds at the end of every run whose steps all meet `C`. -/
theorem invariant_along {C : σ → α → Prop} {I : σ → Prop}
    (hstep : ∀ s a s', I s → C s a → M.step s a = some s' → I s')
    {s s' : σ} {as : List α} (hs : I s) (hC : M.Along C s as) (hrun : M.run s as = some s') :
    I s' := by
  induction as generalizing s with
  | nil => rwa [← Option.some.inj hrun]
  | cons a as ih =>
    obtain ⟨t, hat, hrun⟩ := run_cons_eq_some.mp hrun
    exact ih (hstep s a t hs hC.1 hat) (hC.2 t hat) hrun

/-- **The invariant rule.** A predicate preserved by every step holds in every state reached. -/
theorem invariant {I : σ → Prop} (hstep : ∀ s a s', I s → M.step s a = some s' → I s')
    {s s' : σ} (hs : I s) (h : M.Reaches s s') : I s' := by
  obtain ⟨as, hrun⟩ := h
  induction as generalizing s with
  | nil => rwa [← Option.some.inj hrun]
  | cons a as ih =>
    obtain ⟨t, hat, hrun⟩ := run_cons_eq_some.mp hrun
    exact ih (hstep s a t hs hat) hrun

/-- A run meets a condition when its first step does and the rest does. -/
lemma Along.cons {C : σ → α → Prop} {s t : σ} {a : α} {as : List α} (hC : C s a)
    (hstep : M.step s a = some t) (h : M.Along C t as) : M.Along C s (a :: as) := by
  refine ⟨hC, fun s' hs' => ?_⟩
  obtain rfl := Option.some.inj (hstep.symm.trans hs')
  exact h

/-- A condition that always holds is met along every run. -/
lemma along_of_forall {C : σ → α → Prop} (h : ∀ s a, C s a) {s : σ} {as : List α} :
    M.Along C s as := by
  induction as generalizing s with
  | nil => trivial
  | cons a as ih => exact ⟨h s a, fun s' _ => ih⟩

/-- A condition on the actions alone is met when every action of the list meets it. -/
lemma along_of_mem {C : σ → α → Prop} {as : List α} (h : ∀ a ∈ as, ∀ s, C s a) {s : σ} :
    M.Along C s as := by
  induction as generalizing s with
  | nil => trivial
  | cons a as ih =>
    exact ⟨h a (List.mem_cons_self ..) s,
      fun s' _ => ih fun b hb => h b (List.mem_cons_of_mem a hb)⟩

/-- A condition that follows from another one and from an invariant of the steps that meet it. -/
lemma Along.imp_of_invariant {C D : σ → α → Prop} {I : σ → Prop}
    (hstep : ∀ s a s', I s → C s a → M.step s a = some s' → I s')
    (h : ∀ s a, I s → C s a → D s a) {s : σ} {as : List α} (hs : I s) (hC : M.Along C s as) :
    M.Along D s as := by
  induction as generalizing s with
  | nil => trivial
  | cons a as ih =>
    exact ⟨h s a hs hC.1, fun s' hs' => ih (hstep s a s' hs hC.1 hs') (hC.2 s' hs')⟩

/-- A quantity no step increases is at the end of a run at most what it was at the start. -/
theorem run_antitone {β : Type*} [Preorder β] {I : σ → Prop} {w : σ → β}
    (hI : ∀ s a s', I s → M.step s a = some s' → I s')
    (hw : ∀ s a s', I s → M.step s a = some s' → w s' ≤ w s)
    {s s' : σ} {as : List α} (hs : I s) (hrun : M.run s as = some s') : w s' ≤ w s := by
  induction as generalizing s with
  | nil => exact (congrArg w (Option.some.inj hrun)).ge
  | cons a as ih =>
    obtain ⟨t, hat, hrun⟩ := run_cons_eq_some.mp hrun
    exact (ih (hI s a t hs hat) hrun).trans (hw s a t hs hat)

/-- **The conservation rule.** If no step increases a quantity and every step outside `C` decreases
it, then a run that conserves the quantity takes all its steps in `C`. -/
theorem along_of_conserved {β : Type*} [Preorder β] {C : σ → α → Prop} {I : σ → Prop} {w : σ → β}
    (hI : ∀ s a s', I s → M.step s a = some s' → I s')
    (hw : ∀ s a s', I s → M.step s a = some s' → w s' ≤ w s)
    (hlt : ∀ s a s', I s → ¬ C s a → M.step s a = some s' → w s' < w s)
    {s s' : σ} {as : List α} (hs : I s) (hrun : M.run s as = some s') (heq : w s ≤ w s') :
    M.Along C s as := by
  induction as generalizing s with
  | nil => trivial
  | cons a as ih =>
    obtain ⟨t, hat, hrun⟩ := run_cons_eq_some.mp hrun
    have hend : w s' ≤ w t := run_antitone hI hw (hI s a t hs hat) hrun
    refine ⟨?_, ?_⟩
    · by_contra hC
      exact lt_irrefl _ ((hlt s a t hs hC hat).trans_le (heq.trans hend))
    · rintro u hau
      obtain rfl : t = u := Option.some.inj (hat.symm.trans hau)
      exact ih (hI s a t hs hat) hrun ((hw s a t hs hat).trans heq)

/-- What holds throughout a run holds in its first state. -/
lemma Throughout.head {I : σ → Prop} {s : σ} {as : List α} (h : M.Throughout I s as) : I s := by
  cases as with
  | nil => exact h
  | cons a as => exact h.1

/-- What holds throughout a run holds in its last state. -/
lemma Throughout.last {I : σ → Prop} {s s' : σ} {as : List α} (h : M.Throughout I s as)
    (hrun : M.run s as = some s') : I s' := by
  induction as generalizing s with
  | nil => rwa [← Option.some.inj hrun]
  | cons a as ih =>
    obtain ⟨t, hat, hrun⟩ := run_cons_eq_some.mp hrun
    exact ih (h.2 t hat) hrun

/-- **The rule for exact conditions, under a hypothesis.** If a step that meets `D` from a state
with `I` keeps `I` exactly when it meets `C`, then a run whose steps meet `D` has `I` throughout
exactly when all its steps meet `C`. -/
theorem throughout_iff_along_under {C D : σ → α → Prop} {I J : σ → Prop}
    (hstep : ∀ s a s', J s → I s → D s a → M.step s a = some s' → J s' ∧ (I s' ↔ C s a))
    {s s' : σ} {as : List α} (hJ : J s) (hI : I s) (hD : M.Along D s as)
    (hrun : M.run s as = some s') : M.Throughout I s as ↔ M.Along C s as := by
  induction as generalizing s with
  | nil => exact ⟨fun _ => trivial, fun _ => hI⟩
  | cons a as ih =>
    obtain ⟨t, hat, hrun⟩ := run_cons_eq_some.mp hrun
    obtain ⟨ht, hiff⟩ := hstep s a t hJ hI hD.1 hat
    have hDt : M.Along D t as := hD.2 t hat
    constructor
    · rintro ⟨-, hrest⟩
      have hIt : I t := (hrest t hat).head
      refine ⟨hiff.mp hIt, fun u hu => ?_⟩
      obtain rfl : t = u := Option.some.inj (hat.symm.trans hu)
      exact (ih ht hIt hDt hrun).mp (hrest t hat)
    · rintro ⟨hC, hrest⟩
      refine ⟨hI, fun u hu => ?_⟩
      obtain rfl : t = u := Option.some.inj (hat.symm.trans hu)
      exact (ih ht (hiff.mpr hC) hDt hrun).mpr (hrest t hat)

/-- **The rule for exact conditions.** If a step from a state with `I` keeps `I` exactly when it
meets `C`, then a run has `I` throughout exactly when all its steps meet `C`. -/
theorem throughout_iff_along {C : σ → α → Prop} {I J : σ → Prop}
    (hstep : ∀ s a s', J s → I s → M.step s a = some s' → J s' ∧ (I s' ↔ C s a))
    {s s' : σ} {as : List α} (hJ : J s) (hI : I s) (hrun : M.run s as = some s') :
    M.Throughout I s as ↔ M.Along C s as :=
  throughout_iff_along_under (D := fun _ _ => True) (fun s a s' hJ hI _ h => hstep s a s' hJ hI h)
    hJ hI (along_of_forall fun _ _ => trivial) hrun

/-- Running a test before every step. -/
def check (M : StepSystem σ α) (c : σ → α → Bool) : σ → List α → Bool
  | _, [] => true
  | s, a :: as =>
    c s a && match M.step s a with
      | some s' => check M c s' as
      | none => true

/-- A condition that follows from a test that a run passes. -/
lemma along_of_check {C : σ → α → Prop} {c : σ → α → Bool} (h : ∀ s a, c s a = true → C s a)
    {s : σ} {as : List α} (hc : M.check c s as = true) : M.Along C s as := by
  induction as generalizing s with
  | nil => trivial
  | cons a as ih =>
    simp only [check, Bool.and_eq_true] at hc
    refine ⟨h s a hc.1, fun s' hs' => ih ?_⟩
    simpa [hs'] using hc.2

/-- A run whose end was computed, as far as `f` shows it. -/
lemma exists_run_of_map {β : Type*} {f : σ → β} {x : β} {s : σ} {l : List α}
    (h : (M.run s l).map f = some x) : ∃ t, M.run s l = some t ∧ f t = x :=
  Option.map_eq_some_iff.mp h

/-- **The rule of the decreasing rank.** If from every state of some rank short of the goal some
actions with `P` lead to a state of smaller rank, then such actions lead to the goal. -/
theorem exists_run_of_rank {P : α → Prop} {I : ℕ → σ → Prop} {goal : σ → Prop}
    (hprogress : ∀ n s, I n s → ¬ goal s →
      ∃ m < n, ∃ as s', (∀ a ∈ as, P a) ∧ M.run s as = some s' ∧ I m s') {n : ℕ} {s : σ}
    (hs : I n s) : ∃ as s', (∀ a ∈ as, P a) ∧ M.run s as = some s' ∧ goal s' := by
  induction n using Nat.strong_induction_on generalizing s with
  | _ n ih =>
    by_cases hgoal : goal s
    · exact ⟨[], s, by simp, rfl, hgoal⟩
    · obtain ⟨m, hlt, as, t, has, hrun, ht⟩ := hprogress n s hs hgoal
      obtain ⟨bs, s', hbs, hrun', hgoal'⟩ := ih m hlt ht
      refine ⟨as ++ bs, s', fun a ha => (List.mem_append.mp ha).elim (has a) (hbs a), ?_, hgoal'⟩
      rw [run_append, hrun]
      exact hrun'

/-- The condition holds at every state–action pair that splits a conditioned run. -/
theorem Along.at_split {C : σ → α → Prop} {s t : σ} {a : α} {as bs : List α}
    (hC : M.Along C s (as ++ a :: bs)) (hrun : M.run s as = some t) : C t a := by
  induction as generalizing s with
  | nil =>
    obtain rfl := Option.some.inj hrun
    exact hC.1
  | cons b as ih =>
    obtain ⟨u, hbu, hrun⟩ := run_cons_eq_some.mp hrun
    exact ih (hC.2 u hbu) hrun

/-! ## What flows in a run -/

/-- What the steps of a run add up to. -/
def total {β : Type*} [AddCommMonoid β] (M : StepSystem σ α) (g : σ → α → β) : σ → List α → β
  | _, [] => 0
  | s, a :: as =>
    g s a + match M.step s a with
      | some s' => total M g s' as
      | none => 0

/-- The total of a run that starts with a step. -/
lemma total_cons {β : Type*} [AddCommMonoid β] {g : σ → α → β} {s t : σ} {a : α} {as : List α}
    (h : M.step s a = some t) : M.total g s (a :: as) = g s a + M.total g t as := by
  simp [total, h]

/-- **The balance rule.** If in every step what is there afterwards and what flows out is what was
there and what flows in, then so it is in every run. -/
theorem balance {β : Type*} [AddCommMonoid β] {I : σ → Prop} {content : σ → β}
    {inflow outflow : σ → α → β} (hI : ∀ s a s', I s → M.step s a = some s' → I s')
    (hstep : ∀ s a s', I s → M.step s a = some s' →
      content s' + outflow s a = content s + inflow s a)
    {s s' : σ} {as : List α} (hs : I s) (hrun : M.run s as = some s') :
    content s' + M.total outflow s as = content s + M.total inflow s as := by
  induction as generalizing s with
  | nil =>
    rw [Option.some.inj hrun]
    rfl
  | cons a as ih =>
    obtain ⟨t, hat, hrun⟩ := run_cons_eq_some.mp hrun
    have hrest := ih (hI s a t hs hat) hrun
    have hfirst := hstep s a t hs hat
    calc content s' + M.total outflow s (a :: as)
        = content s' + M.total outflow t as + outflow s a := by rw [total_cons hat]; abel
      _ = content t + outflow s a + M.total inflow t as := by rw [hrest]; abel
      _ = content s + M.total inflow s (a :: as) := by rw [hfirst, total_cons hat]; abel

/-! ## Watching a run -/

/-- The system with a note that every step updates, from the state before it and the action. -/
def watch {β : Type*} (M : StepSystem σ α) (note : σ → α → β → β) : StepSystem (σ × β) α where
  step := fun s a => (M.step s.1 a).map fun s' => (s', note s.1 a s.2)

variable {β : Type*} {note : σ → α → β → β}

/-- A step of a watched system is a step of the system, with the note updated. -/
lemma watch_step_eq_some {s t : σ × β} {a : α} :
    (M.watch note).step s a = some t ↔ M.step s.1 a = some t.1 ∧ t.2 = note s.1 a s.2 := by
  simp only [watch, Option.map_eq_some_iff]
  constructor
  · rintro ⟨s', hs', rfl⟩
    exact ⟨hs', rfl⟩
  · rintro ⟨hs', hnote⟩
    exact ⟨t.1, hs', by rw [← hnote]⟩

end StepSystem
