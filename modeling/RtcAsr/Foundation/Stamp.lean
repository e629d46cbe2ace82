import Mathlib.Order.Nat
import Mathlib.Tactic.Common

/-!
# Stamped facts

A fact about a value that only changes when a counter ticks can be kept with the stamp it was
established at: it still holds as long as the counter shows the stamp.  `Stamped now stamp p` is the
invariant of such a record.  Any tick makes it vacuous (`Stamped.tick`), whatever the fact becomes,
because stamps are never ahead of the counter.
-/

/-- The stamp is not ahead of the counter, and the fact holds if the counter still shows it. -/
structure Stamped (now stamp : ℕ) (p : Prop) : Prop where
  le : stamp ≤ now
  holds : stamp = now → p

namespace Stamped

variable {now stamp : ℕ} {p q : Prop}

/-- A fact is stamped with the current count. -/
lemma current (h : p) : Stamped now now p := ⟨le_rfl, fun _ => h⟩

/-- A tick makes every record stale. -/
lemma tick (h : Stamped now stamp p) : Stamped (now + 1) stamp q :=
  ⟨h.le.trans (Nat.le_succ now), fun heq => absurd h.le (by omega)⟩

/-- A record implies the records of the consequences. -/
lemma imp (h : Stamped now stamp p) (hpq : p → q) : Stamped now stamp q :=
  ⟨h.le, fun heq => hpq (h.holds heq)⟩

end Stamped
