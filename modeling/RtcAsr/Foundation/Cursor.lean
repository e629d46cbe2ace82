import Mathlib.Data.List.Basic
import Mathlib.Order.Nat
import Mathlib.Tactic.Common

/-!
# A cursor over a list that grows

A consumer hands out a growing list piece by piece and keeps the number of elements handed out.
`Cursor buffer offset pieces` says that the pieces, one after the other, are the first `offset`
elements: nothing is skipped, repeated or reordered.  The list may grow (`Cursor.grow`), and a piece
that starts at the cursor may be handed out (`Cursor.advance`), also when the list has grown since
the piece was cut.
-/

/-- The pieces make up the first `offset` elements of the list. -/
structure Cursor {α : Type*} (buffer : List α) (offset : ℕ) (pieces : List (List α)) : Prop where
  offset_le : offset ≤ buffer.length
  flatten_eq : pieces.flatten = buffer.take offset

namespace Cursor

variable {α : Type*} {buffer piece : List α} {offset : ℕ} {pieces : List (List α)}

/-- Nothing is handed out at first. -/
lemma init (buffer : List α) : Cursor buffer 0 [] := ⟨Nat.zero_le _, rfl⟩

/-- The list may grow at its end. -/
lemma grow (h : Cursor buffer offset pieces) (more : List α) :
    Cursor (buffer ++ more) offset pieces where
  offset_le := h.offset_le.trans (by simp)
  flatten_eq := by rw [h.flatten_eq, List.take_append_of_le_length h.offset_le]

/-- A piece that starts at the cursor is still there after the list has grown. -/
lemma prefix_grow (h : Cursor buffer offset pieces) (hpiece : piece <+: buffer.drop offset)
    (more : List α) : piece <+: (buffer ++ more).drop offset := by
  rw [List.drop_append_of_le_length h.offset_le]
  exact hpiece.trans (List.prefix_append _ _)

/-- A piece that starts at the cursor is handed out. -/
lemma advance (h : Cursor buffer offset pieces) (hpiece : piece <+: buffer.drop offset) :
    Cursor buffer (offset + piece.length) (pieces ++ [piece]) where
  offset_le := by
    have hle := hpiece.length_le
    have hoffset := h.offset_le
    rw [List.length_drop] at hle
    omega
  flatten_eq := by
    obtain ⟨rest, hrest⟩ := hpiece
    rw [List.flatten_append, h.flatten_eq, List.take_add, ← hrest]
    simp

/-- With the cursor at the end, the pieces are the whole list. -/
lemma complete (h : Cursor buffer offset pieces) (hend : buffer.drop offset = []) :
    pieces.flatten = buffer := by
  rw [h.flatten_eq, List.take_of_length_le (List.drop_eq_nil_iff.mp hend)]

/-- Handing out the rest brings the cursor to the end. -/
lemma drop_advance_rest (h : Cursor buffer offset pieces) :
    buffer.drop (offset + (buffer.drop offset).length) = [] := by
  have hle := h.offset_le
  rw [List.drop_eq_nil_iff, List.length_drop]
  omega

end Cursor
