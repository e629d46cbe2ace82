import Mathlib.Algebra.Order.Field.Power
import Mathlib.Data.Int.Log
import Mathlib.Data.Nat.Log
import Mathlib.Data.Rat.Floor
import Mathlib.Tactic.Linarith
import Mathlib.Tactic.NormNum
import Mathlib.Tactic.Positivity
import Mathlib.Tactic.Ring

/-!
# Correctly rounded binary64 arithmetic on rationals

A finite binary64 number is a rational `m · 2 ^ e` with an integer significand of at most 53
bits and `-1074 ≤ e ≤ 971`.  `Binary64.round x` is the multiple of the spacing at `x` nearest to
`x`, ties to even; the result is out of range exactly when its magnitude reaches `2 ^ 1024`
(`Binary64.Overflows`).  An operation of the format is the exact rational operation followed by
`round`, so nothing here needs a bit-level representation.

`roundHalfEven` is the rounding of a rational to an integer, `divHalfEven` the same for a
quotient of naturals in a form that evaluates.
-/

namespace Binary64

/-! ## Rounding to an integer, ties to even -/

/-- The integer nearest to `x`, the even one of the two when `x` is half-way. -/
def roundHalfEven (x : ℚ) : ℤ :=
  if Int.fract x < 1 / 2 then ⌊x⌋
  else if 1 / 2 < Int.fract x then ⌊x⌋ + 1
  else if Even ⌊x⌋ then ⌊x⌋ else ⌊x⌋ + 1

/-- Rounding moves an integer nowhere. -/
@[simp] lemma roundHalfEven_intCast (z : ℤ) : roundHalfEven (z : ℚ) = z := by
  simp [roundHalfEven]

/-- The rounded value is the floor or its successor. -/
lemma roundHalfEven_eq_or (x : ℚ) : roundHalfEven x = ⌊x⌋ ∨ roundHalfEven x = ⌊x⌋ + 1 := by
  unfold roundHalfEven
  split_ifs <;> simp

/-- An integer below `x` is below the rounded value. -/
lemma le_roundHalfEven {z : ℤ} {x : ℚ} (h : (z : ℚ) ≤ x) : z ≤ roundHalfEven x := by
  have hz : z ≤ ⌊x⌋ := Int.le_floor.mpr h
  rcases roundHalfEven_eq_or x with hr | hr <;> omega

/-- An integer above `x` is above the rounded value. -/
lemma roundHalfEven_le {z : ℤ} {x : ℚ} (h : x ≤ (z : ℚ)) : roundHalfEven x ≤ z := by
  rcases eq_or_lt_of_le h with rfl | hlt
  · simp
  · have hz : ⌊x⌋ < z := Int.floor_lt.mpr hlt
    rcases roundHalfEven_eq_or x with hr | hr <;> omega

/-- Strictly past the half-way point the rounding goes up. -/
lemma roundHalfEven_of_half_lt {z : ℤ} {x : ℚ} (h : (z : ℚ) + 1 / 2 < x) :
    z + 1 ≤ roundHalfEven x := by
  rcases le_or_gt ((z : ℚ) + 1) x with h1 | h1
  · exact le_roundHalfEven (by push_cast; exact h1)
  · have hfl : ⌊x⌋ = z := Int.floor_eq_iff.mpr ⟨by linarith, h1⟩
    have hfr : Int.fract x = x - z := by rw [Int.fract, hfl]
    have h2 : ¬ Int.fract x < 1 / 2 := by rw [hfr]; linarith
    have h3 : 1 / 2 < Int.fract x := by rw [hfr]; linarith
    rw [roundHalfEven, if_neg h2, if_pos h3, hfl]

/-- Strictly before the half-way point the rounding goes down. -/
lemma roundHalfEven_of_lt_half {z : ℤ} {x : ℚ} (h : x < (z : ℚ) + 1 / 2) :
    roundHalfEven x ≤ z := by
  rcases le_or_gt x (z : ℚ) with h1 | h1
  · exact roundHalfEven_le h1
  · have hfl : ⌊x⌋ = z := Int.floor_eq_iff.mpr ⟨h1.le, by linarith⟩
    have hfr : Int.fract x = x - z := by rw [Int.fract, hfl]
    have h2 : Int.fract x < 1 / 2 := by rw [hfr]; linarith
    rw [roundHalfEven, if_pos h2, hfl]

/-- At the half-way point the rounding goes to the even neighbour. -/
lemma roundHalfEven_half (z : ℤ) :
    roundHalfEven ((z : ℚ) + 1 / 2) = if Even z then z else z + 1 := by
  have hfl : ⌊(z : ℚ) + 1 / 2⌋ = z := Int.floor_eq_iff.mpr ⟨by linarith, by linarith⟩
  have hfr : Int.fract ((z : ℚ) + 1 / 2) = 1 / 2 := by rw [Int.fract, hfl]; ring
  rw [roundHalfEven, hfr, hfl]
  simp

/-- The quotient `n / d` of naturals rounded to the nearest integer, ties to even. -/
def divHalfEven (n d : ℕ) : ℕ :=
  if 2 * (n % d) < d then n / d
  else if d < 2 * (n % d) then n / d + 1
  else if n / d % 2 = 0 then n / d else n / d + 1

/-- Rounding a quotient of naturals is monotone in the numerator. -/
lemma divHalfEven_mono {m n d : ℕ} (h : m ≤ n) : divHalfEven m d ≤ divHalfEven n d := by
  rcases Nat.eq_zero_or_pos d with rfl | hd
  · simp only [divHalfEven, Nat.mod_zero, Nat.div_zero]
    split_ifs <;> omega
  · have hm := Nat.mod_add_div m d
    have hn := Nat.mod_add_div n d
    have hmlt := Nat.mod_lt m hd
    have hnlt := Nat.mod_lt n hd
    have hq : m / d ≤ n / d := Nat.div_le_div_right h
    rcases Nat.lt_or_ge (m / d) (n / d) with hlt | hge
    · have h1 : divHalfEven m d ≤ m / d + 1 := by unfold divHalfEven; split_ifs <;> omega
      have h2 : n / d ≤ divHalfEven n d := by unfold divHalfEven; split_ifs <;> omega
      omega
    · have heq : m / d = n / d := le_antisymm hq hge
      rw [heq] at hm
      have hr : m % d ≤ n % d := by omega
      unfold divHalfEven
      rw [heq]
      split_ifs <;> omega

/-! ## The format -/

/-- The exponent of the spacing of the format at `x`: 52 below the binary logarithm of `|x|`,
never under the subnormal exponent. -/
def ulpExp (x : ℚ) : ℤ := max (-1074) (Int.log 2 |x| - 52)

/-- The spacing of the format at `x`. -/
def ulp (x : ℚ) : ℚ := 2 ^ ulpExp x

/-- The rational nearest to `x` on the grid of the format at `x`, ties to even. -/
def round (x : ℚ) : ℚ := roundHalfEven (x / ulp x) * ulp x

/-- The rounded value is out of the range of the format. -/
def Overflows (x : ℚ) : Prop := (2 : ℚ) ^ (1024 : ℤ) ≤ |round x|

instance (x : ℚ) : Decidable (Overflows x) := inferInstanceAs (Decidable (_ ≤ _))

lemma ulp_pos (x : ℚ) : 0 < ulp x := by unfold ulp; positivity

/-- `y` is a number of the format, the range apart. -/
def Representable (y : ℚ) : Prop := ∃ (m : ℤ) (e : ℤ), |m| ≤ 2 ^ 53 ∧ -1074 ≤ e ∧ y = m * 2 ^ e

/-- A multiple of the spacing below `x` stays below the rounded value. -/
lemma mul_ulp_le_round {x : ℚ} {z : ℤ} (h : z * ulp x ≤ x) : z * ulp x ≤ round x := by
  have hz : (z : ℚ) ≤ x / ulp x := (le_div_iff₀ (ulp_pos x)).mpr h
  have hr : (z : ℚ) ≤ roundHalfEven (x / ulp x) := by exact_mod_cast le_roundHalfEven hz
  exact mul_le_mul_of_nonneg_right hr (ulp_pos x).le

/-- A multiple of the spacing above `x` stays above the rounded value. -/
lemma round_le_mul_ulp {x : ℚ} {z : ℤ} (h : x ≤ z * ulp x) : round x ≤ z * ulp x := by
  have hz : x / ulp x ≤ (z : ℚ) := (div_le_iff₀ (ulp_pos x)).mpr h
  have hr : (roundHalfEven (x / ulp x) : ℚ) ≤ z := by exact_mod_cast roundHalfEven_le hz
  exact mul_le_mul_of_nonneg_right hr (ulp_pos x).le

/-- A multiple of the spacing at `x` equal to `x` is not moved. -/
lemma round_of_mul_ulp {x : ℚ} {z : ℤ} (h : x = z * ulp x) : round x = x := by
  refine le_antisymm ?_ ?_
  · calc round x ≤ z * ulp x := round_le_mul_ulp h.le
      _ = x := h.symm
  · calc x = z * ulp x := h
      _ ≤ round x := mul_ulp_le_round h.ge

/-- The binary logarithm of a positive rational bounds it from below. -/
lemma two_zpow_log_le {x : ℚ} (hx : 0 < x) : (2 : ℚ) ^ Int.log 2 x ≤ x := by
  exact_mod_cast Int.zpow_log_le_self (b := 2) (by norm_num) hx

/-- The successor of the binary logarithm bounds a rational strictly from above. -/
lemma lt_two_zpow_succ_log (x : ℚ) : x < (2 : ℚ) ^ (Int.log 2 x + 1) := by
  exact_mod_cast Int.lt_zpow_succ_log_self (b := 2) (by norm_num) x

/-- The binary logarithm of a rational between consecutive powers of two. -/
lemma log_eq_of_mem_binade {x : ℚ} {k : ℤ} (h1 : (2 : ℚ) ^ k ≤ x) (h2 : x < 2 ^ (k + 1)) :
    Int.log 2 x = k := by
  have hx : 0 < x := lt_of_lt_of_le (by positivity) h1
  have hle : k ≤ Int.log 2 x :=
    (Int.zpow_le_iff_le_log (b := 2) (by norm_num) hx).mp (by exact_mod_cast h1)
  have hlt : Int.log 2 x < k + 1 :=
    (Int.lt_zpow_iff_log_lt (b := 2) (by norm_num) hx).mp (by exact_mod_cast h2)
  omega

/-- In a normal binade `[2 ^ k, 2 ^ (k + 1))` the spacing is `2 ^ (k - 52)`. -/
lemma ulp_of_mem_binade {x : ℚ} {k : ℤ} (hk : -1022 ≤ k) (h1 : (2 : ℚ) ^ k ≤ x)
    (h2 : x < 2 ^ (k + 1)) : ulp x = 2 ^ (k - 52) := by
  have hx : 0 < x := lt_of_lt_of_le (by positivity) h1
  rw [ulp, ulpExp, abs_of_pos hx, log_eq_of_mem_binade h1 h2, max_eq_right (by omega)]

/-- Doubling a normal number is exact. -/
lemma round_two_mul {x : ℚ} (hx : (2 : ℚ) ^ (-1022 : ℤ) ≤ x) : round (2 * x) = 2 * round x := by
  have hpos : 0 < x := lt_of_lt_of_le (by positivity) hx
  obtain ⟨k, hk⟩ : ∃ k, Int.log 2 x = k := ⟨_, rfl⟩
  have hlow : (2 : ℚ) ^ k ≤ x := hk ▸ two_zpow_log_le hpos
  have hhigh : x < 2 ^ (k + 1) := hk ▸ lt_two_zpow_succ_log x
  have hnormal : -1022 ≤ k := by
    have hlt : (2 : ℚ) ^ (-1022 : ℤ) < 2 ^ (k + 1) := hx.trans_lt hhigh
    have := (zpow_lt_zpow_iff_right₀ (by norm_num : (1 : ℚ) < 2)).mp hlt
    omega
  have hdouble : ∀ j : ℤ, (2 : ℚ) ^ (j + 1) = 2 * 2 ^ j := by
    intro j
    rw [zpow_add_one₀ two_ne_zero, mul_comm]
  have hulp : ulp x = 2 ^ (k - 52) := ulp_of_mem_binade hnormal hlow hhigh
  have hulp2 : ulp (2 * x) = 2 * ulp x := by
    have hlow2 : (2 : ℚ) ^ (k + 1) ≤ 2 * x := by
      rw [hdouble]
      linarith
    have hhigh2 : 2 * x < 2 ^ (k + 1 + 1) := by
      rw [hdouble (k + 1)]
      linarith
    rw [ulp_of_mem_binade (by omega) hlow2 hhigh2, hulp, ← hdouble]
    ring_nf
  have hne : ulp x ≠ 0 := (ulp_pos x).ne'
  rw [round, round, hulp2, mul_div_mul_left _ _ two_ne_zero]
  ring

/-- A power of two is a multiple of every smaller one. -/
lemma exists_int_mul_zpow {a b : ℤ} (h : a ≤ b) : ∃ z : ℤ, (2 : ℚ) ^ b = z * 2 ^ a := by
  refine ⟨2 ^ (b - a).toNat, ?_⟩
  push_cast
  rw [← zpow_natCast, ← zpow_add₀ (two_ne_zero' ℚ)]
  congr 1
  omega

/-- Either a number of the format is a multiple of the spacing at a larger `x`, or the binade of
`x` starts above it. -/
lemma Representable.mul_ulp_or {y x : ℚ} (hy : Representable y) (hx : 0 < x) :
    (∃ z : ℤ, y = z * ulp x) ∨ (y ≤ 2 ^ Int.log 2 x ∧ -1074 ≤ Int.log 2 x - 52) := by
  obtain ⟨m, e, hm, he, rfl⟩ := hy
  rcases le_or_gt (ulpExp x) e with hle | hlt
  · obtain ⟨z, hz⟩ := exists_int_mul_zpow hle
    refine Or.inl ⟨m * z, ?_⟩
    rw [hz, ulp]
    push_cast
    ring
  · refine Or.inr ?_
    rw [ulpExp, abs_of_pos hx] at hlt
    have hlog : -1074 ≤ Int.log 2 x - 52 := by
      by_contra hcon
      rw [max_eq_left (by omega)] at hlt
      omega
    rw [max_eq_right hlog] at hlt
    refine ⟨?_, hlog⟩
    have hmq : (m : ℚ) ≤ 2 ^ (53 : ℤ) := by exact_mod_cast (le_abs_self m).trans hm
    calc (m : ℚ) * 2 ^ e ≤ 2 ^ (53 : ℤ) * 2 ^ e :=
          mul_le_mul_of_nonneg_right hmq (by positivity)
      _ = 2 ^ (53 + e) := (zpow_add₀ (two_ne_zero' ℚ) 53 e).symm
      _ ≤ 2 ^ Int.log 2 x := zpow_le_zpow_right₀ (by norm_num) (by omega)

/-- The start of the binade of `x` stays below the rounded value. -/
lemma binade_le_round {x : ℚ} (hx : 0 < x) (hlog : -1074 ≤ Int.log 2 x - 52) :
    (2 : ℚ) ^ Int.log 2 x ≤ round x := by
  obtain ⟨z, hz⟩ := exists_int_mul_zpow (a := ulpExp x) (b := Int.log 2 x)
    (by rw [ulpExp, abs_of_pos hx, max_eq_right hlog]; omega)
  have hle : (z : ℚ) * ulp x ≤ x := by
    rw [ulp, ← hz]
    exact two_zpow_log_le hx
  calc (2 : ℚ) ^ Int.log 2 x = z * ulp x := hz
    _ ≤ round x := mul_ulp_le_round hle

/-- **Rounding is monotone against the numbers of the format**, from below. -/
theorem Representable.le_round {x y : ℚ} (hy : Representable y) (hx : 0 < x) (h : y ≤ x) :
    y ≤ round x := by
  rcases hy.mul_ulp_or hx with ⟨z, rfl⟩ | ⟨hle, hlog⟩
  · exact mul_ulp_le_round h
  · exact hle.trans (binade_le_round hx hlog)

/-- **Rounding is monotone against the numbers of the format**, from above. -/
theorem Representable.round_le {x y : ℚ} (hy : Representable y) (hx : 0 < x) (h : x ≤ y) :
    round x ≤ y := by
  rcases hy.mul_ulp_or hx with ⟨z, rfl⟩ | ⟨hle, hlog⟩
  · exact round_le_mul_ulp h
  · -- only the start of the binade of `x` is left, and then `x` is it
    have hxe : x = 2 ^ Int.log 2 x := le_antisymm (h.trans hle) (two_zpow_log_le hx)
    obtain ⟨z, hz⟩ := exists_int_mul_zpow (a := ulpExp x) (b := Int.log 2 x)
      (by rw [ulpExp, abs_of_pos hx, max_eq_right hlog]; omega)
    have hround : round x = x := round_of_mul_ulp (z := z) (by rw [ulp, ← hz]; exact hxe)
    exact hround.le.trans h

/-- A positive number of the format is not moved by rounding. -/
theorem Representable.round_eq {x : ℚ} (hx : Representable x) (hpos : 0 < x) : round x = x :=
  le_antisymm (hx.round_le hpos le_rfl) (hx.le_round hpos le_rfl)

/-- Integers of at most 53 bits are numbers of the format. -/
lemma representable_intCast {z : ℤ} (h : |z| ≤ 2 ^ 53) : Representable z :=
  ⟨z, 0, h, by norm_num, by simp⟩

/-- Powers of two from `2 ^ (-1074)` on are numbers of the format. -/
lemma representable_two_zpow {k : ℤ} (h : -1074 ≤ k) : Representable (2 ^ k) :=
  ⟨1, k, by norm_num, h, by simp⟩

/-! ## The range -/

/-- The half-way point `2 ^ 1024 - 2 ^ 970` between the largest finite number and `2 ^ 1024`. -/
def overflowBound : ℚ := (2 ^ 54 - 1) * 2 ^ (970 : ℤ)

/-- The half-way point in units of the largest spacing. -/
lemma overflowBound_eq : overflowBound = (((2 ^ 53 - 1 : ℤ) : ℚ) + 1 / 2) * 2 ^ (971 : ℤ) := by
  have h : (2 : ℚ) ^ (971 : ℤ) = 2 * 2 ^ (970 : ℤ) := by
    rw [show (971 : ℤ) = 1 + 970 by norm_num, zpow_add₀ (two_ne_zero' ℚ), zpow_one]
  rw [overflowBound, h]
  generalize (2 : ℚ) ^ (970 : ℤ) = u
  push_cast
  ring

/-- `2 ^ 1024` in units of the largest spacing. -/
lemma two_zpow_1024 : (2 : ℚ) ^ (1024 : ℤ) = ((2 ^ 53 : ℤ) : ℚ) * 2 ^ (971 : ℤ) := by
  rw [show (1024 : ℤ) = 53 + 971 by norm_num, zpow_add₀ (two_ne_zero' ℚ)]
  norm_num

/-- `2 ^ 1023` in units of the largest spacing. -/
lemma two_zpow_1023 : (2 : ℚ) ^ (1023 : ℤ) = ((2 ^ 52 : ℤ) : ℚ) * 2 ^ (971 : ℤ) := by
  rw [show (1023 : ℤ) = 52 + 971 by norm_num, zpow_add₀ (two_ne_zero' ℚ)]
  norm_num

/-- Rounding keeps a nonnegative rational nonnegative. -/
lemma round_nonneg {x : ℚ} (hx : 0 ≤ x) : 0 ≤ round x := by
  have h := mul_ulp_le_round (x := x) (z := 0) (by simpa using hx)
  simpa using h

/-- **The range of the format.** A positive rational rounds out of range exactly from
`2 ^ 1024 - 2 ^ 970` on. -/
theorem overflows_iff {x : ℚ} (hx : 0 < x) : Overflows x ↔ overflowBound ≤ x := by
  have hu : (0 : ℚ) < 2 ^ (971 : ℤ) := by positivity
  rw [Overflows, abs_of_nonneg (round_nonneg hx.le)]
  rcases lt_or_ge x (2 ^ (1023 : ℤ)) with hsmall | hbig
  · -- below the last binade nothing overflows
    have hr : round x ≤ 2 ^ (1023 : ℤ) :=
      (representable_two_zpow (by norm_num)).round_le hx hsmall.le
    rw [two_zpow_1023] at hr hsmall
    rw [two_zpow_1024, overflowBound_eq]
    constructor
    · intro h
      have := le_of_mul_le_mul_right (h.trans hr) hu
      norm_num at this
    · intro h
      have := lt_of_mul_lt_mul_right (h.trans_lt hsmall) hu.le
      norm_num at this
  rcases lt_or_ge x (2 ^ (1024 : ℤ)) with hmid | hover
  · -- in the last binade the spacing is `2 ^ 971` and the tie goes up, to the even `2 ^ 53`
    have hulp : ulp x = 2 ^ (971 : ℤ) := ulp_of_mem_binade (k := 1023) (by norm_num) hbig hmid
    rw [round, hulp, two_zpow_1024, mul_le_mul_iff_left₀ hu, Int.cast_le, overflowBound_eq,
      ← le_div_iff₀ hu]
    constructor
    · intro h
      by_contra hlt
      have := roundHalfEven_of_lt_half (not_le.mp hlt)
      omega
    · intro h
      rcases eq_or_lt_of_le h with heq | hlt
      · have hodd : ¬ Even ((2 : ℤ) ^ 53 - 1) := by decide
        rw [← heq, roundHalfEven_half, if_neg hodd]
        norm_num
      · have := roundHalfEven_of_half_lt hlt
        omega
  · have hr : (2 : ℚ) ^ (1024 : ℤ) ≤ round x :=
      (representable_two_zpow (by norm_num)).le_round hx hover
    refine ⟨fun _ => le_trans ?_ hover, fun _ => hr⟩
    rw [two_zpow_1024, overflowBound_eq]
    exact mul_le_mul_of_nonneg_right (by norm_num) hu.le

end Binary64
