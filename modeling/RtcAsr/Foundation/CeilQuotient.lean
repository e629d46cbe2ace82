import RtcAsr.Foundation.Binary64
import Mathlib.Algebra.Order.Floor.Div

/-!
# Rounding a quotient up through a binary64 division

`⌈fl(n / d)⌉` is the idiom for "how many blocks of `d` cover `n`".  The correctly rounded quotient
can fall on or below the floor, or beyond the range, so the idiom is exact on some numerators only;
`CeilExact` is the condition in terms of the floor and the remainder, and `ceilExact_iff` proves it.
-/

namespace Binary64

/-- The rounded quotient of `n` by `d` rounds up to `⌈n / d⌉`.  Below `2 ^ 53` the remainder must
exceed half a unit in the last place of the quotient (or be half of one above an odd one); beyond,
the ceiling must be a number of the format. -/
def CeilExact (n d : ℕ) : Prop :=
  if Nat.log2 (n / d) ≤ 52 then
    n % d = 0 ∨ d < n % d * 2 ^ (53 - Nat.log2 (n / d)) ∨
      d = n % d * 2 ^ (53 - Nat.log2 (n / d)) ∧ Odd (n / d * 2 ^ (52 - Nat.log2 (n / d)))
  else 2 ^ (Nat.log2 (n / d) - 52) ∣ n ⌈/⌉ d ∧ n ⌈/⌉ d < 2 ^ 1024

instance (n d : ℕ) : Decidable (CeilExact n d) := by
  unfold CeilExact
  infer_instance

section

variable {n d : ℕ}

/-! ### The quotient and its ceiling -/

/-- The ceiling of a quotient is its floor or the next integer, as there is a remainder or not. -/
lemma ceilDiv_eq (hd : 0 < d) : n ⌈/⌉ d = if n % d = 0 then n / d else n / d + 1 := by
  have hn := Nat.div_add_mod n d
  have hr := Nat.mod_lt n hd
  split_ifs with h
  · refine le_antisymm ((ceilDiv_le_iff_le_mul hd).mpr (by omega)) ?_
    by_contra hlt
    have hle : n ≤ d * (n / d - 1) := (ceilDiv_le_iff_le_mul hd).mp (by omega)
    rw [Nat.mul_sub, mul_one] at hle
    have hpos : d ≤ d * (n / d) := Nat.le_mul_of_pos_right d (by omega)
    omega
  · refine le_antisymm ((ceilDiv_le_iff_le_mul hd).mpr ?_) ?_
    · rw [Nat.mul_add, mul_one]
      omega
    · by_contra hlt
      have hle : n ≤ d * (n / d) := (ceilDiv_le_iff_le_mul hd).mp (by omega)
      omega

/-- A quotient in terms of its floor and its remainder. -/
lemma quotient_eq (hd : 0 < d) : (n : ℚ) / d = (n / d : ℕ) + (n % d : ℕ) / d := by
  have hd' : (d : ℚ) ≠ 0 := by exact_mod_cast hd.ne'
  have hn : ((d * (n / d) + n % d : ℕ) : ℚ) = n := by rw [Nat.div_add_mod]
  rw [← hn]
  push_cast
  field_simp

/-- The remainder is less than one. -/
lemma remainder_mem (hd : 0 < d) : (0 : ℚ) ≤ (n % d : ℕ) / d ∧ ((n % d : ℕ) : ℚ) / d < 1 := by
  have hd' : (0 : ℚ) < d := by exact_mod_cast hd
  refine ⟨by positivity, (div_lt_one hd').mpr ?_⟩
  exact_mod_cast Nat.mod_lt n hd

/-- The quotient is at most its ceiling, by less than one. -/
lemma quotient_mem_ceilDiv (hd : 0 < d) :
    (n : ℚ) / d ≤ (n ⌈/⌉ d : ℕ) ∧ ((n ⌈/⌉ d : ℕ) : ℚ) < n / d + 1 := by
  obtain ⟨h0, h1⟩ := remainder_mem (n := n) hd
  rw [quotient_eq hd, ceilDiv_eq hd]
  split_ifs with h
  · rw [h]
    simp
  · have hpos : (0 : ℚ) < (n % d : ℕ) / d := by
      have : 0 < n % d := Nat.pos_of_ne_zero h
      positivity
    push_cast
    constructor <;> linarith

/-- The quotient is in the binade of its floor. -/
lemma quotient_mem_binade (hd : 0 < d) (hm : n / d ≠ 0) :
    (2 : ℚ) ^ (Nat.log2 (n / d) : ℤ) ≤ n / d ∧ (n : ℚ) / d < 2 ^ ((Nat.log2 (n / d) : ℤ) + 1) := by
  obtain ⟨h0, h1⟩ := remainder_mem (n := n) hd
  have hlow : ((2 ^ Nat.log2 (n / d) : ℕ) : ℚ) ≤ (n / d : ℕ) := by
    exact_mod_cast Nat.log2_self_le hm
  have hhigh : ((n / d + 1 : ℕ) : ℚ) ≤ (2 ^ (Nat.log2 (n / d) + 1) : ℕ) := by
    exact_mod_cast Nat.lt_log2_self (n := n / d)
  rw [quotient_eq hd]
  constructor
  · push_cast at hlow
    rw [zpow_natCast]
    linarith
  · push_cast at hhigh
    rw [show ((Nat.log2 (n / d) : ℤ) + 1) = ((Nat.log2 (n / d) + 1 : ℕ) : ℤ) by push_cast; rfl,
      zpow_natCast]
    linarith

/-- The spacing of the format at a quotient of at least one. -/
lemma ulp_quotient (hd : 0 < d) (hm : n / d ≠ 0) :
    ulp ((n : ℚ) / d) = 2 ^ ((Nat.log2 (n / d) : ℤ) - 52) := by
  obtain ⟨h1, h2⟩ := quotient_mem_binade hd hm
  exact ulp_of_mem_binade (by omega) h1 h2

/-! ### Quotients below `2 ^ 53` -/

/-- A quotient below one rounds to a positive number up to one. -/
lemma ceil_round_of_lt (hd : d < 2 ^ 53) (hn : 0 < n) (hlt : n < d) :
    ⌈round ((n : ℚ) / d)⌉ = 1 := by
  have hdpos : (0 : ℚ) < d := by exact_mod_cast (by omega : 0 < d)
  have hnpos : (0 : ℚ) < n := by exact_mod_cast hn
  have hpos : (0 : ℚ) < n / d := by positivity
  have hsmall : (2 : ℚ) ^ (-53 : ℤ) ≤ n / d := by
    rw [le_div_iff₀ hdpos]
    have h1 : (d : ℚ) ≤ 2 ^ 53 := by exact_mod_cast hd.le
    have h2 : (1 : ℚ) ≤ n := by exact_mod_cast hn
    calc (2 : ℚ) ^ (-53 : ℤ) * d ≤ 2 ^ (-53 : ℤ) * 2 ^ 53 := by gcongr
      _ = 1 := by norm_num
      _ ≤ n := h2
  have hlow := (representable_two_zpow (k := -53) (by norm_num)).le_round hpos hsmall
  have hhigh : round ((n : ℚ) / d) ≤ (1 : ℤ) := by
    refine (representable_intCast (z := 1) (by norm_num)).round_le hpos ?_
    rw [Int.cast_one, div_le_one hdpos]
    exact_mod_cast hlt.le
  rw [Int.ceil_eq_iff]
  constructor
  · have : (0 : ℚ) < 2 ^ (-53 : ℤ) := by positivity
    push_cast
    linarith
  · exact hhigh

/-- The rounded quotient exceeds the floor exactly when the remainder is more than half a unit, or
half a unit above an odd one. -/
lemma lt_round_iff (hd : 0 < d) (hm : n / d ≠ 0) (hk : Nat.log2 (n / d) ≤ 52) :
    ((n / d : ℕ) : ℚ) < round ((n : ℚ) / d) ↔
      d < n % d * 2 ^ (53 - Nat.log2 (n / d)) ∨
        d = n % d * 2 ^ (53 - Nat.log2 (n / d)) ∧ Odd (n / d * 2 ^ (52 - Nat.log2 (n / d))) := by
  set m := n / d with hmdef
  set r := n % d with hrdef
  set k := Nat.log2 m with hkdef
  have hdq : (0 : ℚ) < d := by exact_mod_cast hd
  have hulp : ulp ((n : ℚ) / d) * 2 ^ (52 - k) = 1 := by
    rw [ulp_quotient hd hm, ← zpow_natCast, ← zpow_add₀ (two_ne_zero' ℚ)]
    rw [show ((k : ℤ) - 52 + ((52 - k : ℕ) : ℤ)) = 0 by omega, zpow_zero]
  have hpos := ulp_pos ((n : ℚ) / d)
  have hinv : (n : ℚ) / d / ulp ((n : ℚ) / d) = ((m * 2 ^ (52 - k) : ℕ) : ℤ) +
      (r * 2 ^ (53 - k) : ℕ) / (2 * d) := by
    have h2 : (2 : ℚ) ^ (53 - k) = 2 * 2 ^ (52 - k) := by
      rw [← pow_succ']
      congr 1
      omega
    rw [div_eq_iff hpos.ne']
    generalize ulp ((n : ℚ) / d) = u at hulp ⊢
    rw [quotient_eq hd, ← hmdef, ← hrdef]
    push_cast
    rw [h2]
    calc (m : ℚ) + r / d = (m + r / d) * (u * 2 ^ (52 - k)) := by rw [hulp, mul_one]
      _ = (m * 2 ^ (52 - k) + r * (2 * 2 ^ (52 - k)) / (2 * d)) * u := by
        field_simp
  have hfloor : (m : ℚ) = ((m * 2 ^ (52 - k) : ℕ) : ℤ) * ulp ((n : ℚ) / d) := by
    push_cast
    rw [mul_assoc, mul_comm ((2 : ℚ) ^ (52 - k)), hulp, mul_one]
  have hround : (m : ℚ) < round ((n : ℚ) / d) ↔
      ((m * 2 ^ (52 - k) : ℕ) : ℤ) < roundHalfEven ((n : ℚ) / d / ulp ((n : ℚ) / d)) := by
    conv_lhs => rw [hfloor]
    rw [round, mul_lt_mul_iff_left₀ hpos]
    exact_mod_cast Iff.rfl
  rw [hround, hinv]
  generalize hM : m * 2 ^ (52 - k) = M
  generalize r * 2 ^ (53 - k) = t
  rcases lt_trichotomy d t with h | h | h
  · have hlt : ((M : ℤ) : ℚ) + 1 / 2 < (M : ℤ) + (t : ℚ) / (2 * d) := by
      have : (1 : ℚ) / 2 < t / (2 * d) := by
        rw [lt_div_iff₀ (by positivity)]
        have : (d : ℚ) < t := by exact_mod_cast h
        linarith
      linarith
    have := roundHalfEven_of_half_lt hlt
    exact iff_of_true (by omega) (.inl h)
  · have heq : (t : ℚ) / (2 * d) = 1 / 2 := by
      rw [← h]
      field_simp
    rw [heq, roundHalfEven_half]
    rw [← h]
    simp only [lt_irrefl, false_or, true_and]
    by_cases ho : Odd M
    · have hne : ¬ Even (M : ℤ) := by rwa [Int.not_even_iff_odd, Int.odd_coe_nat]
      simp [hne, ho]
    · have he : Even (M : ℤ) := by
        rw [Nat.not_odd_iff_even] at ho
        exact_mod_cast ho
      simp [he, ho]
  · have hlt : ((M : ℤ) : ℚ) + (t : ℚ) / (2 * d) < (M : ℤ) + 1 / 2 := by
      have : (t : ℚ) / (2 * d) < 1 / 2 := by
        rw [div_lt_iff₀ (by positivity)]
        have : (t : ℚ) < d := by exact_mod_cast h
        linarith
      linarith
    have := roundHalfEven_of_lt_half hlt
    exact iff_of_false (by omega) (by omega)

/-- Below `2 ^ 53` the quotient does not overflow and rounds at most to its ceiling. -/
lemma round_quotient_le (hd : 0 < d) (hn : 0 < n) (hk : Nat.log2 (n / d) ≤ 52) :
    round ((n : ℚ) / d) ≤ (n ⌈/⌉ d : ℕ) ∧ ((n ⌈/⌉ d : ℕ) : ℚ) ≤ 2 ^ 53 := by
  have hdq : (0 : ℚ) < d := by exact_mod_cast hd
  have hnq : (0 : ℚ) < n := by exact_mod_cast hn
  have hc : n ⌈/⌉ d ≤ 2 ^ 53 := by
    have h1 : n / d < 2 ^ (Nat.log2 (n / d) + 1) := Nat.lt_log2_self
    have h2 : 2 ^ (Nat.log2 (n / d) + 1) ≤ 2 ^ 53 := Nat.pow_le_pow_right (by norm_num) (by omega)
    rw [ceilDiv_eq hd]
    split_ifs <;> omega
  have hrep : Representable ((n ⌈/⌉ d : ℕ) : ℤ) := by
    refine representable_intCast ?_
    rw [Nat.abs_cast]
    exact_mod_cast hc
  refine ⟨?_, by exact_mod_cast hc⟩
  have := hrep.round_le (x := (n : ℚ) / d) (by positivity)
    (by exact_mod_cast (quotient_mem_ceilDiv hd).1)
  exact_mod_cast this

/-- Below `2 ^ 53` the idiom is exact as `CeilExact` says. -/
lemma ceil_round_iff_of_small (hd : 0 < d) (hd' : d < 2 ^ 53) (hn : 0 < n)
    (hk : Nat.log2 (n / d) ≤ 52) :
    ⌈round ((n : ℚ) / d)⌉ = (n ⌈/⌉ d : ℕ) ↔ CeilExact n d := by
  rw [CeilExact, if_pos hk, ceilDiv_eq hd]
  by_cases hm : n / d = 0
  · have hlt : n < d := (Nat.div_eq_zero_iff_lt hd).mp hm
    have hr : n % d = n := Nat.mod_eq_of_lt hlt
    rw [ceil_round_of_lt hd' hn hlt, hm, hr, if_neg hn.ne']
    have hbig : d < n * 2 ^ 53 := lt_of_lt_of_le hd' (Nat.le_mul_of_pos_left _ hn)
    exact iff_of_true rfl (.inr (.inl hbig))
  · obtain ⟨hle, h53⟩ := round_quotient_le hd hn hk
    rw [ceilDiv_eq hd] at hle h53
    split_ifs at hle h53 ⊢ with hr
    · have hx : (n : ℚ) / d = ((n / d : ℕ) : ℤ) := by
        rw [quotient_eq hd, hr, Nat.cast_zero, zero_div, add_zero, Int.cast_natCast]
      have hrep : Representable ((n : ℚ) / d) := by
        rw [hx]
        refine representable_intCast ?_
        rw [Nat.abs_cast]
        exact_mod_cast h53
      have hpos : (0 : ℚ) < n / d := by
        rw [hx]
        exact_mod_cast Nat.pos_of_ne_zero hm
      rw [hrep.round_eq hpos, hx, Int.ceil_intCast]
      exact iff_of_true rfl (.inl hr)
    · rw [← lt_round_iff hd hm hk, or_iff_right hr, Int.ceil_eq_iff]
      push_cast at hle ⊢
      rw [add_sub_cancel_right]
      exact and_iff_left hle

/-- A numerator below the divisor is always covered by one block. -/
lemma ceilExact_of_lt (hd : d < 2 ^ 53) (hn : 0 < n) (hlt : n < d) : CeilExact n d := by
  have hdpos : 0 < d := by omega
  have hm : n / d = 0 := Nat.div_eq_of_lt hlt
  have hk : Nat.log2 (n / d) ≤ 52 := by
    rw [hm]
    decide
  rw [← ceil_round_iff_of_small hdpos hd hn hk, ceil_round_of_lt hd hn hlt, ceilDiv_eq hdpos, hm,
    Nat.mod_eq_of_lt hlt, if_neg hn.ne']
  rfl

/-! ### Quotients from `2 ^ 53` on -/

/-- From `2 ^ 53` on the rounded quotient is an integer multiple of the spacing. -/
lemma round_quotient_large (hd : 0 < d) (hm : n / d ≠ 0) (hk : 52 < Nat.log2 (n / d)) :
    ∃ z : ℤ, round ((n : ℚ) / d) = (z * (2 ^ (Nat.log2 (n / d) - 52) : ℕ) : ℤ) ∧
      z = roundHalfEven ((n : ℚ) / d / (2 ^ (Nat.log2 (n / d) - 52) : ℕ)) := by
  have hulp : ulp ((n : ℚ) / d) = (2 ^ (Nat.log2 (n / d) - 52) : ℕ) := by
    rw [ulp_quotient hd hm]
    push_cast
    rw [← zpow_natCast]
    congr 1
    omega
  refine ⟨_, ?_, rfl⟩
  rw [round, hulp]
  push_cast
  rfl

/-- From `2 ^ 53` on the quotient rounds to its ceiling exactly when the spacing divides it. -/
lemma round_eq_ceilDiv_iff (hd : 0 < d) (hm : n / d ≠ 0) (hk : 52 < Nat.log2 (n / d)) :
    round ((n : ℚ) / d) = (n ⌈/⌉ d : ℕ) ↔ 2 ^ (Nat.log2 (n / d) - 52) ∣ n ⌈/⌉ d := by
  obtain ⟨z, hround, hz⟩ := round_quotient_large hd hm hk
  obtain ⟨hle, hlt⟩ := quotient_mem_ceilDiv (n := n) hd
  have hU : 2 ≤ 2 ^ (Nat.log2 (n / d) - 52) :=
    Nat.le_self_pow (by omega) 2
  generalize 2 ^ (Nat.log2 (n / d) - 52) = U at hround hz hU ⊢
  have hUq : (2 : ℚ) ≤ U := by exact_mod_cast hU
  have hUpos : (0 : ℚ) < U := by linarith
  rw [hround]
  constructor
  · intro h
    have hint : z * (U : ℤ) = (n ⌈/⌉ d : ℕ) := by exact_mod_cast h
    have : (U : ℤ) ∣ (n ⌈/⌉ d : ℕ) := ⟨z, by rw [← hint, mul_comm]⟩
    exact_mod_cast this
  · rintro ⟨q, hq⟩
    rw [hq] at hle hlt ⊢
    push_cast at hle hlt
    have h1 : z ≤ q := by
      rw [hz]
      refine roundHalfEven_le ?_
      rw [div_le_iff₀ hUpos]
      push_cast
      linarith
    have h2 : ((q : ℤ) - 1) + 1 ≤ z := by
      rw [hz]
      refine roundHalfEven_of_half_lt ?_
      rw [lt_div_iff₀ hUpos]
      push_cast
      linarith
    have hzq : z = q := by omega
    rw [hzq]
    push_cast
    ring

/-- From `2 ^ 53` on the idiom is exact as `CeilExact` says. -/
lemma ceil_round_iff_of_large (hd : 0 < d) (hm : n / d ≠ 0) (hk : 52 < Nat.log2 (n / d)) :
    (¬ Overflows ((n : ℚ) / d) ∧ ⌈round ((n : ℚ) / d)⌉ = (n ⌈/⌉ d : ℕ)) ↔ CeilExact n d := by
  rw [CeilExact, if_neg (not_le.mpr hk), ← round_eq_ceilDiv_iff hd hm hk]
  obtain ⟨z, hround, -⟩ := round_quotient_large hd hm hk
  have hceil : ⌈round ((n : ℚ) / d)⌉ = (n ⌈/⌉ d : ℕ) ↔ round ((n : ℚ) / d) = (n ⌈/⌉ d : ℕ) := by
    rw [hround, Int.ceil_intCast]
    exact_mod_cast Iff.rfl
  rw [hceil, and_comm]
  refine and_congr_right fun heq => ?_
  rw [Overflows, heq, not_le, Nat.abs_cast]
  have hcast : (2 : ℚ) ^ (1024 : ℤ) = ((2 ^ 1024 : ℕ) : ℚ) := by
    rw [Nat.cast_pow]
    exact zpow_natCast _ _
  rw [hcast]
  exact_mod_cast Iff.rfl

/-- **The idiom is exact on `CeilExact` and nowhere else.** -/
theorem ceilExact_iff (hd : 0 < d) (hd' : d < 2 ^ 53) (hn : 0 < n) :
    (¬ Overflows ((n : ℚ) / d) ∧ ⌈round ((n : ℚ) / d)⌉ = (n ⌈/⌉ d : ℕ)) ↔ CeilExact n d := by
  rcases le_or_gt (Nat.log2 (n / d)) 52 with hk | hk
  · rw [ceil_round_iff_of_small hd hd' hn hk, and_iff_right]
    obtain ⟨hle, h53⟩ := round_quotient_le hd hn hk
    have h0 : 0 ≤ round ((n : ℚ) / d) := round_nonneg (by positivity)
    rw [Overflows, abs_of_nonneg h0, not_le]
    calc round ((n : ℚ) / d) ≤ 2 ^ 53 := hle.trans h53
      _ = (2 : ℚ) ^ (53 : ℤ) := by norm_num
      _ < 2 ^ (1024 : ℤ) := zpow_lt_zpow_right₀ (by norm_num) (by norm_num)
  · refine ceil_round_iff_of_large hd ?_ hk
    intro hm
    rw [hm] at hk
    exact absurd hk (by decide)

end

end Binary64
