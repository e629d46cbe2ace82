import Mathlib.Data.List.Basic
import RtcAsr.Foundation.StepSystem

/-!
# Steps that come to rest

Some actions of a step system are counted.  If each counted step lowers a rank and no other step
raises it (`Lowers`), then a run has at most as many counted steps as the rank of its first state
(`Lowers.countP_le`), and some run comes to rest, in a state without counted steps
(`Lowers.exists_atRest`).
-/

namespace StepSystem

variable {σ α : Type*} {M : StepSystem σ α}

/-- No counted action is enabled. -/
def AtRest (M : StepSystem σ α) (counted : α → Bool) (s : σ) : Prop :=
  ∀ a, counted a = true → M.step s a = none

/-- In the states of an invariant, a counted step lowers the rank, and the others do not raise it.
-/
structure Lowers (M : StepSystem σ α) (counted : α → Bool) (I : σ → Prop) (rank : σ → ℕ) :
    Prop where
  keeps : ∀ s a s', I s → M.step s a = some s' → I s'
  lt : ∀ s a s', I s → M.step s a = some s' → counted a = true → rank s' < rank s
  le : ∀ s a s', I s → M.step s a = some s' → counted a = false → rank s' ≤ rank s

variable {counted : α → Bool} {I : σ → Prop} {rank : σ → ℕ} {s s' : σ} {as : List α}

/-- The rank bounds the counted steps of a run. -/
theorem Lowers.countP_le (h : M.Lowers counted I rank) (hs : I s) (hrun : M.run s as = some s') :
    as.countP counted + rank s' ≤ rank s := by
  induction as generalizing s with
  | nil =>
    obtain rfl := Option.some.inj hrun
    simp
  | cons a as ih =>
    obtain ⟨t, hat, hrun⟩ := run_cons_eq_some.mp hrun
    have hrest := ih (h.keeps s a t hs hat) hrun
    cases ha : counted a with
    | true =>
      have hlt := h.lt s a t hs hat ha
      rw [List.countP_cons_of_pos ha]
      omega
    | false =>
      have hle := h.le s a t hs hat ha
      rw [List.countP_cons_of_neg (by simp [ha])]
      omega

/-- Some run of counted steps comes to rest. -/
theorem Lowers.exists_atRest (h : M.Lowers counted I rank) (hs : I s) :
    ∃ as s', (∀ a ∈ as, counted a = true) ∧ M.run s as = some s' ∧ M.AtRest counted s' := by
  refine exists_run_of_rank (I := fun n s => n = rank s ∧ I s) (fun n s hs hnot => ?_) ⟨rfl, hs⟩
  obtain ⟨rfl, hs⟩ := hs
  simp only [AtRest, not_forall] at hnot
  obtain ⟨a, ha, hstep⟩ := hnot
  obtain ⟨t, hat⟩ := Option.ne_none_iff_exists'.mp hstep
  refine ⟨rank t, h.lt s a t hs hat ha, [a], t, by simp [ha], ?_, rfl, h.keeps s a t hs hat⟩
  exact run_cons_eq_some.mpr ⟨t, hat, rfl⟩

end StepSystem
