import Mathlib.Data.List.Basic
import Mathlib.Order.Bounds.Basic
import Mathlib.Order.MinMax
import Mathlib.Order.Nat
import Mathlib.Tactic.Common

/-!
# Edit distance

The distance of two lists is the least number of insertions, deletions and substitutions of single
elements, at any places and in any order, that turn one into the other (`isLeast_editDistance`).
Such a sequence of edits is brought into the form of an alignment, which passes through both lists
from left to right (`Edits.exists_alignment`); the recursion over the heads of the two lists, and as
well the one over their last elements (`editDistance_concat`), finds the cheapest alignment.
-/

variable {α : Type*}

/-- One edit: an element is inserted, deleted or substituted. -/
inductive Edit : List α → List α → Prop
  | insert (before after : List α) (a : α) : Edit (before ++ after) (before ++ a :: after)
  | delete (before after : List α) (a : α) : Edit (before ++ a :: after) (before ++ after)
  | substitute (before after : List α) (a b : α) :
      Edit (before ++ a :: after) (before ++ b :: after)

/-- A sequence of edits, with its length. -/
inductive Edits : ℕ → List α → List α → Prop
  | refl (xs : List α) : Edits 0 xs xs
  | step {n : ℕ} {xs ys zs : List α} : Edit xs ys → Edits n ys zs → Edits (n + 1) xs zs

/-- An alignment of two lists, with the number of elements it does not keep. -/
inductive ListAlignment : ℕ → List α → List α → Prop
  | nil : ListAlignment 0 [] []
  | keep {n : ℕ} {xs ys : List α} (a : α) :
      ListAlignment n xs ys → ListAlignment n (a :: xs) (a :: ys)
  | insert {n : ℕ} {xs ys : List α} (b : α) :
      ListAlignment n xs ys → ListAlignment (n + 1) xs (b :: ys)
  | delete {n : ℕ} {xs ys : List α} (a : α) :
      ListAlignment n xs ys → ListAlignment (n + 1) (a :: xs) ys
  | substitute {n : ℕ} {xs ys : List α} (a b : α) :
      ListAlignment n xs ys → ListAlignment (n + 1) (a :: xs) (b :: ys)

variable {n m : ℕ} {xs ys zs : List α} {a b : α}

/-! ## Sequences of edits -/

/-- An edit of the tail. -/
lemma Edit.cons (a : α) (h : Edit xs ys) : Edit (a :: xs) (a :: ys) := by
  cases h with
  | insert before after b => exact .insert (a :: before) after b
  | delete before after b => exact .delete (a :: before) after b
  | substitute before after b c => exact .substitute (a :: before) after b c

/-- Edits of the tail. -/
lemma Edits.cons (a : α) (h : Edits n xs ys) : Edits n (a :: xs) (a :: ys) := by
  induction h with
  | refl xs => exact .refl (a :: xs)
  | step hedit _ ih => exact .step (hedit.cons a) ih

/-- An alignment is carried out by as many edits as it has elements that it does not keep. -/
lemma ListAlignment.edits (h : ListAlignment n xs ys) : Edits n xs ys := by
  induction h with
  | nil => exact .refl []
  | keep a _ ih => exact ih.cons a
  | insert b _ ih => exact .step (.insert [] _ b) (ih.cons b)
  | delete a _ ih => exact .step (.delete [] _ a) ih
  | substitute a b _ ih => exact .step (.substitute [] _ a b) (ih.cons b)

/-! ## Alignments -/

namespace ListAlignment

/-- A list is aligned with itself. -/
lemma refl (xs : List α) : ListAlignment 0 xs xs := by
  induction xs with
  | nil => exact .nil
  | cons a _ ih => exact .keep a ih

/-- Everything is inserted. -/
lemma insertAll (ys : List α) : ListAlignment ys.length [] ys := by
  induction ys with
  | nil => exact .nil
  | cons b _ ih => exact .insert b ih

/-- The alignment read the other way. -/
lemma symm (h : ListAlignment n xs ys) : ListAlignment n ys xs := by
  induction h with
  | nil => exact .nil
  | keep a _ ih => exact .keep a ih
  | insert b _ ih => exact .delete b ih
  | delete a _ ih => exact .insert a ih
  | substitute a b _ ih => exact .substitute b a ih

/-- Two alignments one after the other. -/
lemma append {xs' ys' : List α} (h : ListAlignment n xs ys) (h' : ListAlignment m xs' ys') :
    ListAlignment (n + m) (xs ++ xs') (ys ++ ys') := by
  induction h with
  | nil => rw [Nat.zero_add]; exact h'
  | keep a _ ih => exact .keep a ih
  | insert b _ ih => rw [Nat.add_right_comm]; exact .insert b ih
  | delete a _ ih => rw [Nat.add_right_comm]; exact .delete a ih
  | substitute a b _ ih => rw [Nat.add_right_comm]; exact .substitute a b ih

/-- The alignment of the reversed lists. -/
lemma reverse (h : ListAlignment n xs ys) : ListAlignment n xs.reverse ys.reverse := by
  induction h with
  | nil => exact .nil
  | keep a _ ih => simpa using ih.append (.keep a .nil)
  | insert b _ ih => simpa using ih.append (.insert b .nil)
  | delete a _ ih => simpa using ih.append (.delete a .nil)
  | substitute a b _ ih => simpa using ih.append (.substitute a b .nil)

/-- Only equal lists are aligned without an edit. -/
lemma eq_of_zero (h : ListAlignment 0 xs ys) : xs = ys := by
  generalize hn : 0 = n at h
  induction h with
  | nil => rfl
  | keep a _ ih => rw [ih hn]
  | insert | delete | substitute => cases hn

/-- What becomes of the head of the first list: elements are inserted in front of it, and it is
kept, substituted or deleted. -/
lemma exists_head (h : ListAlignment n (a :: xs) ys) :
    ∃ inserted tail k, ys = inserted ++ tail ∧
      (n = inserted.length + k ∧ (∃ rest, tail = a :: rest ∧ ListAlignment k xs rest) ∨
        n = inserted.length + (k + 1) ∧
          ((∃ b rest, tail = b :: rest ∧ ListAlignment k xs rest) ∨ ListAlignment k xs tail)) := by
  generalize hlist : a :: xs = list at h
  induction h with
  | nil => cases hlist
  | @keep k xs' rest _ h _ =>
    cases hlist
    exact ⟨[], _, k, rfl, .inl ⟨(Nat.zero_add k).symm, rest, rfl, h⟩⟩
  | @insert n _ _ b _ ih =>
    obtain ⟨inserted, tail, k, rfl, hhead⟩ := ih hlist
    refine ⟨b :: inserted, tail, k, rfl, hhead.imp (And.imp_left ?_) (And.imp_left ?_)⟩ <;>
    · rw [List.length_cons]
      omega
  | @delete k xs' tail _ h _ =>
    cases hlist
    exact ⟨[], tail, k, rfl, .inr ⟨(Nat.zero_add (k + 1)).symm, .inr h⟩⟩
  | @substitute k xs' rest _ b h _ =>
    cases hlist
    exact ⟨[], _, k, rfl, .inr ⟨(Nat.zero_add (k + 1)).symm, .inl ⟨b, rest, rfl, h⟩⟩⟩

/-- Elements are inserted in front of an alignment. -/
lemma insertFront (inserted : List α) (h : ListAlignment n xs ys) :
    ListAlignment (inserted.length + n) xs (inserted ++ ys) :=
  (insertAll inserted).append h

/-- Two alignments are put together, the middle list from left to right. -/
lemma exists_trans (h : ListAlignment n xs ys) (h' : ListAlignment m ys zs) :
    ∃ k ≤ n + m, ListAlignment k xs zs := by
  induction h generalizing m zs with
  | nil => exact ⟨m, by omega, h'⟩
  | delete a _ ih =>
    obtain ⟨k, hk, halign⟩ := ih h'
    exact ⟨k + 1, by omega, .delete a halign⟩
  | keep a _ ih =>
    obtain ⟨inserted, tail, l, rfl, ⟨hl, rest, rfl, hrest⟩ | ⟨hl, ⟨c, rest, rfl, hrest⟩ | hrest⟩⟩ :=
      h'.exists_head
    · obtain ⟨k, hk, halign⟩ := ih hrest
      exact ⟨inserted.length + k, by omega, (halign.keep a).insertFront inserted⟩
    · obtain ⟨k, hk, halign⟩ := ih hrest
      exact ⟨inserted.length + (k + 1), by omega, (halign.substitute a c).insertFront inserted⟩
    · obtain ⟨k, hk, halign⟩ := ih hrest
      exact ⟨inserted.length + (k + 1), by omega, (halign.delete a).insertFront inserted⟩
  | insert b _ ih =>
    obtain ⟨inserted, tail, l, rfl, ⟨hl, rest, rfl, hrest⟩ | ⟨hl, ⟨c, rest, rfl, hrest⟩ | hrest⟩⟩ :=
      h'.exists_head
    · obtain ⟨k, hk, halign⟩ := ih hrest
      exact ⟨inserted.length + (k + 1), by omega, (halign.insert b).insertFront inserted⟩
    · obtain ⟨k, hk, halign⟩ := ih hrest
      exact ⟨inserted.length + (k + 1), by omega, (halign.insert c).insertFront inserted⟩
    · obtain ⟨k, hk, halign⟩ := ih hrest
      exact ⟨inserted.length + k, by omega, halign.insertFront inserted⟩
  | substitute a b _ ih =>
    obtain ⟨inserted, tail, l, rfl, ⟨hl, rest, rfl, hrest⟩ | ⟨hl, ⟨c, rest, rfl, hrest⟩ | hrest⟩⟩ :=
      h'.exists_head
    · obtain ⟨k, hk, halign⟩ := ih hrest
      exact ⟨inserted.length + (k + 1), by omega, (halign.substitute a b).insertFront inserted⟩
    · obtain ⟨k, hk, halign⟩ := ih hrest
      exact ⟨inserted.length + (k + 1), by omega, (halign.substitute a c).insertFront inserted⟩
    · obtain ⟨k, hk, halign⟩ := ih hrest
      exact ⟨inserted.length + (k + 1), by omega, (halign.delete a).insertFront inserted⟩

end ListAlignment

/-- One edit as an alignment. -/
lemma Edit.alignment (h : Edit xs ys) : ListAlignment 1 xs ys := by
  cases h with
  | insert before after b =>
    simpa using (ListAlignment.refl before).append (.insert b (.refl after))
  | delete before after a =>
    simpa using (ListAlignment.refl before).append (.delete a (.refl after))
  | substitute before after a b =>
    simpa using (ListAlignment.refl before).append (.substitute a b (.refl after))

/-- A sequence of edits is no cheaper than some alignment. -/
lemma Edits.exists_alignment (h : Edits n xs ys) : ∃ k ≤ n, ListAlignment k xs ys := by
  induction h with
  | refl xs => exact ⟨0, le_rfl, .refl xs⟩
  | step hedit _ ih =>
    obtain ⟨k, hk, halign⟩ := ih
    obtain ⟨l, hl, htrans⟩ := hedit.alignment.exists_trans halign
    exact ⟨l, by omega, htrans⟩

/-! ## The distance -/

section

variable [DecidableEq α]

/-- The number of edits at a pair of elements. -/
def substitutionCost (a b : α) : ℕ := if a = b then 0 else 1

/-- The distance by recursion over the heads of the lists. -/
def editDistance : List α → List α → ℕ
  | [], ys => ys.length
  | _ :: xs, [] => xs.length + 1
  | a :: xs, b :: ys =>
    min (min (editDistance xs (b :: ys) + 1) (editDistance (a :: xs) ys + 1))
      (editDistance xs ys + substitutionCost a b)
termination_by xs ys => xs.length + ys.length

lemma editDistance_nil (ys : List α) : editDistance [] ys = ys.length := by
  rw [editDistance]

lemma editDistance_to_nil (xs : List α) : editDistance xs [] = xs.length := by
  cases xs with
  | nil => rw [editDistance, List.length_nil]
  | cons a xs => rw [editDistance, List.length_cons]

lemma editDistance_cons (a b : α) (xs ys : List α) :
    editDistance (a :: xs) (b :: ys) =
      min (min (editDistance xs (b :: ys) + 1) (editDistance (a :: xs) ys + 1))
        (editDistance xs ys + substitutionCost a b) := by
  rw [editDistance]

/-- There is an alignment of the cost of the distance. -/
lemma alignment_editDistance (xs ys : List α) : ListAlignment (editDistance xs ys) xs ys := by
  induction xs, ys using editDistance.induct with
  | case1 ys => rw [editDistance_nil]; exact .insertAll ys
  | case2 a xs => rw [editDistance_to_nil]; exact (ListAlignment.insertAll (a :: xs)).symm
  | case3 a xs b ys hdelete hinsert hsubstitute =>
    rw [editDistance_cons]
    rcases min_choice (min (editDistance xs (b :: ys) + 1) (editDistance (a :: xs) ys + 1))
      (editDistance xs ys + substitutionCost a b) with h | h
    · rw [h]
      rcases min_choice (editDistance xs (b :: ys) + 1) (editDistance (a :: xs) ys + 1) with h | h
      · rw [h]; exact .delete a hdelete
      · rw [h]; exact .insert b hinsert
    · rw [h]
      by_cases hab : a = b
      · rw [hab, substitutionCost, if_pos rfl]
        exact .keep b hsubstitute
      · rw [substitutionCost, if_neg hab]
        exact .substitute a b hsubstitute

lemma editDistance_cons_left_le (a : α) (xs ys : List α) :
    editDistance (a :: xs) ys ≤ editDistance xs ys + 1 := by
  cases ys with
  | nil => rw [editDistance_to_nil, editDistance_to_nil, List.length_cons]
  | cons b ys => rw [editDistance_cons]; exact (min_le_left _ _).trans (min_le_left _ _)

lemma editDistance_cons_right_le (b : α) (xs ys : List α) :
    editDistance xs (b :: ys) ≤ editDistance xs ys + 1 := by
  cases xs with
  | nil => rw [editDistance_nil, editDistance_nil, List.length_cons]
  | cons a xs => rw [editDistance_cons]; exact (min_le_left _ _).trans (min_le_right _ _)

lemma editDistance_cons_cons_le (a b : α) (xs ys : List α) :
    editDistance (a :: xs) (b :: ys) ≤ editDistance xs ys + substitutionCost a b := by
  rw [editDistance_cons]
  exact min_le_right _ _

/-- No alignment is cheaper than the distance. -/
lemma ListAlignment.editDistance_le (h : ListAlignment n xs ys) : editDistance xs ys ≤ n := by
  induction h with
  | nil => rw [editDistance_nil, List.length_nil]
  | @keep n xs ys a _ ih =>
    have hle := editDistance_cons_cons_le a a xs ys
    rw [substitutionCost, if_pos rfl] at hle
    exact hle.trans ih
  | @insert n xs ys b _ ih =>
    have hle := editDistance_cons_right_le b xs ys
    omega
  | @delete n xs ys a _ ih =>
    have hle := editDistance_cons_left_le a xs ys
    omega
  | @substitute n xs ys a b _ ih =>
    have hle := editDistance_cons_cons_le a b xs ys
    have hcost : substitutionCost a b ≤ 1 := by unfold substitutionCost; split <;> omega
    omega

/-- **The distance is the least number of edits.** -/
theorem isLeast_editDistance (xs ys : List α) :
    IsLeast {n | Edits n xs ys} (editDistance xs ys) := by
  refine ⟨(alignment_editDistance xs ys).edits, fun n h => ?_⟩
  obtain ⟨k, hk, halign⟩ := Edits.exists_alignment h
  exact halign.editDistance_le.trans hk

/-- The lists at distance zero are the equal ones. -/
theorem editDistance_eq_zero : editDistance xs ys = 0 ↔ xs = ys := by
  constructor
  · intro h
    have halign := alignment_editDistance xs ys
    rw [h] at halign
    exact halign.eq_of_zero
  · rintro rfl
    exact Nat.le_zero.mp (ListAlignment.refl xs).editDistance_le

/-- The distance is symmetric. -/
theorem editDistance_comm (xs ys : List α) : editDistance xs ys = editDistance ys xs :=
  le_antisymm (alignment_editDistance ys xs).symm.editDistance_le
    (alignment_editDistance xs ys).symm.editDistance_le

/-- The distance satisfies the triangle inequality. -/
theorem editDistance_triangle (xs ys zs : List α) :
    editDistance xs zs ≤ editDistance xs ys + editDistance ys zs := by
  obtain ⟨k, hk, halign⟩ :=
    (alignment_editDistance xs ys).exists_trans (alignment_editDistance ys zs)
  exact halign.editDistance_le.trans hk

/-- The distance is at most the length of the longer list. -/
theorem editDistance_le_max (xs ys : List α) : editDistance xs ys ≤ max xs.length ys.length := by
  induction xs generalizing ys with
  | nil => rw [editDistance_nil]; exact le_max_right _ _
  | cons a xs ih =>
    cases ys with
    | nil => rw [editDistance_to_nil]; exact le_max_left _ _
    | cons b ys =>
      have hle := editDistance_cons_cons_le a b xs ys
      have hcost : substitutionCost a b ≤ 1 := by unfold substitutionCost; split <;> omega
      have htail := ih ys
      simp only [List.length_cons]
      omega

/-! ## The last elements -/

/-- The distance of the reversed lists. -/
lemma editDistance_reverse (xs ys : List α) :
    editDistance xs.reverse ys.reverse = editDistance xs ys := by
  refine le_antisymm (alignment_editDistance xs ys).reverse.editDistance_le ?_
  have halign := (alignment_editDistance xs.reverse ys.reverse).reverse
  rw [List.reverse_reverse, List.reverse_reverse] at halign
  exact halign.editDistance_le

/-- The recursion over the last elements of the lists. -/
lemma editDistance_concat (a b : α) (xs ys : List α) :
    editDistance (xs ++ [a]) (ys ++ [b]) =
      min (min (editDistance xs (ys ++ [b]) + 1) (editDistance (xs ++ [a]) ys + 1))
        (editDistance xs ys + substitutionCost a b) := by
  have h := editDistance_cons a b xs.reverse ys.reverse
  rw [← editDistance_reverse, List.reverse_concat, List.reverse_concat, h, ← List.reverse_concat,
    ← List.reverse_concat, editDistance_reverse, editDistance_reverse, editDistance_reverse]

end
