import Mathlib.Data.List.Basic
import Mathlib.Tactic.Common

/-!
# Streaks

The streak of a list of optional values, the latest value first, is the length of the longest run of
latest entries that hold a value, all the same one.
-/

namespace List

variable {α : Type*} [DecidableEq α]

/-- The number of latest entries that hold the latest value. -/
def streak : List (Option α) → ℕ
  | some x :: l => (l.takeWhile (· = some x)).length + 1
  | _ => 0

@[simp] lemma streak_nil : streak ([] : List (Option α)) = 0 := rfl

/-- An entry without a value ends a streak. -/
@[simp] lemma streak_none_cons (l : List (Option α)) : streak (none :: l) = 0 := rfl

/-- A value continues the streak of the same value, and starts one otherwise. -/
lemma streak_some_cons (x : α) (l : List (Option α)) :
    streak (some x :: l) = if l.head? = some (some x) then streak l + 1 else 1 := by
  cases l with
  | nil => rfl
  | cons y l =>
    cases y with
    | none => simp [streak]
    | some y =>
      by_cases h : y = x
      · subst h
        simp [streak]
      · simp [streak, h]

/-- **A streak is a run of one value.** It reaches back `n` entries exactly when these hold one
value. -/
theorem le_streak_iff {l : List (Option α)} {n : ℕ} (hn : 0 < n) :
    n ≤ streak l ↔ ∃ x, l.take n = replicate n (some x) := by
  induction l generalizing n with
  | nil =>
    have hne : ∀ x : α, [] ≠ replicate n (some x) := by
      intro x h
      have hlength : 0 = n := by simpa using congrArg length h
      omega
    have hn' : ¬ n = 0 := by omega
    simp [hn', hne]
  | cons y l ih =>
    obtain ⟨n, rfl⟩ : ∃ m, n = m + 1 := ⟨n - 1, by omega⟩
    cases y with
    | none => simp [replicate_succ]
    | some y =>
      rw [streak_some_cons]
      rcases Nat.eq_zero_or_pos n with rfl | hpos
      · have hle : 0 + 1 ≤ if l.head? = some (some y) then streak l + 1 else 1 := by
          split_ifs <;> omega
        simp [hle]
      · obtain ⟨m, rfl⟩ : ∃ m, n = m + 1 := ⟨n - 1, by omega⟩
        simp only [take_succ_cons, replicate_succ (n := m + 1), cons.injEq, Option.some.injEq]
        split_ifs with hhead
        · rw [Nat.add_le_add_iff_right, ih hpos]
          constructor
          · rintro ⟨x, hx⟩
            refine ⟨x, ?_, hx⟩
            cases l with
            | nil => cases hhead
            | cons z l =>
              simp only [take_succ_cons, replicate_succ, cons.injEq] at hx
              simp only [head?_cons, Option.some.injEq] at hhead
              rw [hx.1] at hhead
              exact (Option.some.inj hhead).symm
          · rintro ⟨x, -, hx⟩
            exact ⟨x, hx⟩
        · refine ⟨fun h => absurd h (by omega), ?_⟩
          rintro ⟨x, rfl, hx⟩
          cases l with
          | nil => simp [replicate_succ] at hx
          | cons z l =>
            simp only [take_succ_cons, replicate_succ, cons.injEq] at hx
            exact absurd (congrArg some hx.1) hhead

/-! ## Counting -/

/-- The latest value and its count after one more entry. -/
def streakNext (y : Option α) (c : Option α × ℕ) : Option α × ℕ :=
  match y with
  | none => (none, 0)
  | some x => if some x = c.1 then (c.1, c.2 + 1) else (some x, 1)

/-- The counter remembers the latest entry. -/
@[simp] lemma streakNext_fst (y : Option α) (c : Option α × ℕ) : (streakNext y c).1 = y := by
  cases y with
  | none => rfl
  | some x =>
    unfold streakNext
    dsimp only
    split_ifs with h
    · exact h.symm
    · rfl

/-- A counter is zero exactly when it remembers no value. -/
lemma streakNext_eq_zero_iff (y : Option α) (c : Option α × ℕ) :
    (streakNext y c).2 = 0 ↔ (streakNext y c).1 = none := by
  cases y with
  | none => simp [streakNext]
  | some x =>
    unfold streakNext
    dsimp only
    split_ifs with h
    · simp [← h]
    · simp

/-- **Counting follows the streak.** -/
theorem streakNext_snd {l : List (Option α)} {c : Option α × ℕ} (hvalue : c.1 = l.head?.join)
    (hcount : c.2 = streak l) (y : Option α) : (streakNext y c).2 = streak (y :: l) := by
  cases y with
  | none => rfl
  | some x =>
    have hsame : some x = c.1 ↔ l.head? = some (some x) := by
      rw [hvalue]
      cases l.head? with
      | none => simp
      | some z => simp [eq_comm]
    unfold streakNext
    simp only [hsame]
    rw [streak_some_cons]
    split_ifs
    · rw [hcount]
    · rfl

end List
