import Mathlib.Algebra.Order.Ring.Int
import Mathlib.Data.List.Basic
import Mathlib.Tactic.Linarith
import Mathlib.Tactic.Ring

/-!
# Words of a byte string

A list is cut into words of `k` entries, an incomplete last word being left out, and a byte word is
read as a little-endian number, unsigned or in two's complement.
-/

namespace SampleWords

/-! ## Cutting a list -/

variable {α : Type*}

/-- The consecutive words of `k` entries. -/
def words (k : ℕ) (l : List α) : List (List α) :=
  (List.range (l.length / k)).map fun i => (l.drop (k * i)).take k

/-- A list of `n` entries has `n / k` words. -/
@[simp] lemma length_words (k : ℕ) (l : List α) : (words k l).length = l.length / k := by
  simp [words]

/-- The `i`-th word starts at the entry `k * i`. -/
lemma getElem?_words {k i : ℕ} {l : List α} (h : i < l.length / k) :
    (words k l)[i]? = some ((l.drop (k * i)).take k) := by
  simp [words, h]

/-- The words of two entries. -/
lemma getElem?_words_two {i : ℕ} {l : List α} {x y : α} (hx : l[2 * i]? = some x)
    (hy : l[2 * i + 1]? = some y) : (words 2 l)[i]? = some [x, y] := by
  obtain ⟨hlt, hy⟩ := List.getElem?_eq_some_iff.mp hy
  have hi : i < l.length / 2 := by omega
  obtain ⟨hlt', hx⟩ := List.getElem?_eq_some_iff.mp hx
  rw [getElem?_words hi, List.drop_eq_getElem_cons hlt', hx]
  rw [List.drop_eq_getElem_cons hlt, hy]
  rfl

/-- Leaving out whole words leaves out their places. -/
lemma words_drop (k i : ℕ) (l : List α) : words k (l.drop (k * i)) = (words k l).drop i := by
  have hlength : (l.drop (k * i)).length / k = l.length / k - i := by
    rw [List.length_drop, Nat.sub_mul_div]
  refine List.ext_getElem? fun j => ?_
  rw [List.getElem?_drop]
  rcases lt_or_ge j (l.length / k - i) with hj | hj
  · rw [getElem?_words (by rwa [hlength]), getElem?_words (by omega), List.drop_drop, ← Nat.mul_add]
  · rw [List.getElem?_eq_none (by rw [length_words, hlength]; exact hj),
      List.getElem?_eq_none (by rw [length_words]; omega)]

/-! ## Little-endian numbers -/

/-- The unsigned number of a word, its low byte first. -/
def unsigned : List UInt8 → ℕ
  | [] => 0
  | b :: bs => b.toNat + 256 * unsigned bs

/-- The number of a word in two's complement. -/
def signed (bs : List UInt8) : ℤ :=
  if 2 * unsigned bs < 256 ^ bs.length then unsigned bs else (unsigned bs : ℤ) - 256 ^ bs.length

end SampleWords
