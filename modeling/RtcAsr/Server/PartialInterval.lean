import RtcAsr.Foundation.CeilQuotient
import RtcAsr.Server.Start

/-!
# The interval of the interim results

`partial_interval_ms` is turned into chunks of one frame by `math.ceil(partial_interval_ms / 20)`,
a binary64 division.  The result is the number of frames that cover the interval exactly on
`Binary64.CeilExact`.
-/

namespace RtcAsr

open Binary64

/-- Intervals up to one frame are always covered exactly. -/
lemma ceilExact_of_le {n : ℕ} (hn : 0 < n) (h : n ≤ 20) : CeilExact n 20 := by
  rcases Nat.lt_or_eq_of_le h with hlt | rfl
  · exact ceilExact_of_lt (by norm_num) hn hlt
  · decide

/-- The ceiling of the rounded quotient and one frame at least: the lower bound never bites. -/
lemma max_one_ceil_iff {n : ℕ} (hn : 0 < n) :
    (¬ Overflows ((n : ℚ) / 20) ∧ max 1 ⌈Binary64.round ((n : ℚ) / 20)⌉ = ((n ⌈/⌉ 20 : ℕ) : ℤ)) ↔
      CeilExact n 20 := by
  have hiff := ceilExact_iff (n := n) (d := 20) (by norm_num) (by norm_num) hn
  push_cast at hiff
  have hc : 1 ≤ n ⌈/⌉ 20 := by
    rw [ceilDiv_eq (by norm_num)]
    split_ifs <;> omega
  rcases le_or_gt n 20 with h | h
  · have hexact := ceilExact_of_le hn h
    obtain ⟨ho, heq⟩ := hiff.mpr hexact
    rw [heq]
    exact iff_of_true ⟨ho, by omega⟩ hexact
  · have hc2 : 2 ≤ n ⌈/⌉ 20 := by
      rw [ceilDiv_eq (by norm_num)]
      split_ifs <;> omega
    rw [← hiff]
    refine and_congr_right fun _ => ?_
    omega

/-- **The interval in chunks** is the least number of frames that cover it exactly when the
quotient rounds up exactly. -/
theorem partialIntervalChunks_eq_ok_iff {n : ℕ} (hn : 0 < n) :
    partialIntervalChunks n HOT_PATH_FRAME_MS = .ok ((n ⌈/⌉ 20 : ℕ) : ℤ) ↔ CeilExact n 20 := by
  have hquot : ((n : ℤ) : ℚ) / (HOT_PATH_FRAME_MS : ℤ) = (n : ℚ) / 20 := by
    norm_num [HOT_PATH_FRAME_MS]
  refine Iff.trans ?_ (max_one_ceil_iff hn)
  rw [partialIntervalChunks, intTrueDiv, hquot]
  by_cases h : Overflows ((n : ℚ) / 20) <;> simp [h, Except.map]

end RtcAsr
