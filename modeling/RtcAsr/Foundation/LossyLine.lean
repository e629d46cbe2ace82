import Mathlib.Data.List.Perm.Basic

/-!
# A line that can lose elements

Elements are accepted at the end of a line and delivered from its front, and some are lost on the
way.  `LossyLine` says that nothing overtakes, repeats or disappears: what was delivered, followed
by what is on its way, is in the order of acceptance, and what was accepted was delivered, is on its
way or was lost.  The operations on the line keep this.
-/

variable {α : Type*}

/-- The elements accepted, delivered, on their way and lost. -/
structure LossyLine (accepted delivered onWay lost : List α) : Prop where
  ordered : (delivered ++ onWay).Sublist accepted
  conserved : accepted.Perm (delivered ++ onWay ++ lost)

namespace LossyLine

variable {accepted delivered onWay lost : List α} {x : α}

/-- The empty line. -/
lemma nil : LossyLine ([] : List α) [] [] [] := ⟨.slnil, .nil⟩

/-- An element is accepted. -/
lemma accept (h : LossyLine accepted delivered onWay lost) (x : α) :
    LossyLine (accepted ++ [x]) delivered (onWay ++ [x]) lost where
  ordered := by
    rw [← List.append_assoc]
    exact h.ordered.append (List.Sublist.refl [x])
  conserved := by
    have hlost : (lost ++ [x]).Perm ([x] ++ lost) := List.perm_append_comm
    refine (h.conserved.append_right [x]).trans ?_
    simpa only [List.append_assoc] using hlost.append_left (delivered ++ onWay)

/-- The first element is delivered. -/
lemma deliver (h : LossyLine accepted delivered (x :: onWay) lost) :
    LossyLine accepted (delivered ++ [x]) onWay lost :=
  ⟨by simpa using h.ordered, by simpa using h.conserved⟩

/-- An element is lost. -/
lemma lose {before after : List α}
    (h : LossyLine accepted delivered (before ++ x :: after) lost) :
    LossyLine accepted delivered (before ++ after) (lost ++ [x]) where
  ordered := by
    have hrest : (before ++ after).Sublist (before ++ x :: after) :=
      (List.Sublist.refl before).append (List.sublist_cons_self x after)
    exact ((List.Sublist.refl delivered).append hrest).trans h.ordered
  conserved := by
    have hmoved : (x :: (after ++ lost)).Perm (after ++ lost ++ [x]) :=
      (List.perm_append_singleton x (after ++ lost)).symm
    refine h.conserved.trans ?_
    simpa only [List.append_assoc, List.cons_append] using
      hmoved.append_left (delivered ++ before)

end LossyLine
