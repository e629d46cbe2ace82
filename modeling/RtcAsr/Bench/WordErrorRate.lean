import RtcAsr.Foundation.EditDistance
import RtcAsr.Python.Value

/-!
# The distance of the word error rate

The benchmark script scores a transcript by the distance between the words of the reference and
those of the hypothesis.  `levenshteinDistance` is its dynamic program, which keeps two rows of the
table of distances between prefixes.  It always returns, and it returns the edit distance
(`levenshteinDistance_correct`).
-/

namespace RtcAsr

/-- Element `i` of a list, counted from zero. -/
def listItem {α : Type} (xs : List α) (i : ℕ) : Except PyError α :=
  match xs[i]? with
  | some x => .ok x
  | none => .error (.other "IndexError" "list index out of range")

/-- Element `-1` of a list. -/
def lastItem {α : Type} (xs : List α) : Except PyError α :=
  match xs.getLast? with
  | some x => .ok x
  | none => .error (.other "IndexError" "list index out of range")

/-- The body of the inner loop: the next entry of the current row. -/
def appendEntry (previous : List ℕ) (refWord : String) (current : List ℕ) (hyp : String × ℕ) :
    Except PyError (List ℕ) := do
  let (hypWord, hypIndex) := hyp
  let cost := if refWord = hypWord then 0 else 1
  let above ← listItem previous hypIndex
  let left ← listItem current (hypIndex - 1)
  let diagonal ← listItem previous (hypIndex - 1)
  return current ++ [min (min (above + 1) (left + 1)) (diagonal + cost)]

/-- The body of the outer loop: the row of the next word of the reference. -/
def nextRow (hypothesis : List String) (previous : List ℕ) (ref : String × ℕ) :
    Except PyError (List ℕ) :=
  let (refWord, refIndex) := ref
  (hypothesis.zipIdx 1).foldlM (appendEntry previous refWord) [refIndex]

/-- `levenshtein_distance`. -/
def levenshteinDistance (reference hypothesis : List String) : Except PyError ℕ := do
  let previous := List.range (hypothesis.length + 1)
  let last ← (reference.zipIdx 1).foldlM (nextRow hypothesis) previous
  lastItem last

/-! ## The rows of the table -/

/-- The row of a prefix of the reference: its distances to the prefixes of the hypothesis. -/
def distanceRow (reference hypothesis : List String) : List ℕ :=
  (List.range (hypothesis.length + 1)).map fun j => editDistance reference (hypothesis.take j)

section

variable {reference done rest hypothesis : List String} {word refWord : String}

/-- The first row of the table. -/
lemma distanceRow_nil (hypothesis : List String) :
    distanceRow [] hypothesis = List.range (hypothesis.length + 1) := by
  have hentry : ∀ j ∈ List.range (hypothesis.length + 1),
      editDistance [] (hypothesis.take j) = id j := by
    intro j hj
    rw [editDistance_nil, List.length_take, id]
    have hle := List.mem_range.mp hj
    omega
  rw [distanceRow, List.map_congr_left hentry, List.map_id]

/-- The first entry of a row. -/
lemma distanceRow_first (reference : List String) :
    distanceRow reference [] = [reference.length] := by
  simp [distanceRow, editDistance_to_nil]

/-- A row grows with the hypothesis. -/
lemma distanceRow_concat (reference done : List String) (word : String) :
    distanceRow reference (done ++ [word]) =
      distanceRow reference done ++ [editDistance reference (done ++ [word])] := by
  have hentry : ∀ j ∈ List.range (done.length + 1),
      editDistance reference ((done ++ [word]).take j) = editDistance reference (done.take j) := by
    intro j hj
    rw [List.take_append_of_le_length (Nat.lt_succ_iff.mp (List.mem_range.mp hj))]
  rw [distanceRow, List.length_append, List.length_singleton, List.range_succ, List.map_append,
    List.map_congr_left hentry, List.map_singleton, distanceRow,
    List.take_of_length_le (by simp)]

/-- The entry of a row at a prefix of the hypothesis. -/
lemma listItem_distanceRow (reference done rest : List String) :
    listItem (distanceRow reference (done ++ rest)) done.length =
      .ok (editDistance reference done) := by
  have hlt : done.length < (done ++ rest).length + 1 := by
    rw [List.length_append]
    omega
  rw [listItem, distanceRow, List.getElem?_map, List.getElem?_range hlt]
  simp

/-- The last entry of a row. -/
lemma lastItem_distanceRow (reference hypothesis : List String) :
    lastItem (distanceRow reference hypothesis) = .ok (editDistance reference hypothesis) := by
  simp [lastItem, distanceRow, List.range_succ]

/-! ## The loops -/

/-- One round of the inner loop fills in the next entry. -/
lemma appendEntry_distanceRow (reference done rest : List String) (refWord word : String) :
    appendEntry (distanceRow reference (done ++ word :: rest)) refWord
        (distanceRow (reference ++ [refWord]) done) (word, done.length + 1) =
      .ok (distanceRow (reference ++ [refWord]) (done ++ [word])) := by
  have habove := listItem_distanceRow reference (done ++ [word]) rest
  rw [List.append_assoc, List.singleton_append, List.length_append, List.length_singleton] at habove
  have hleft := listItem_distanceRow (reference ++ [refWord]) done []
  rw [List.append_nil] at hleft
  have hdiagonal := listItem_distanceRow reference done (word :: rest)
  rw [distanceRow_concat, editDistance_concat]
  simp only [appendEntry, Nat.add_sub_cancel, habove, hleft, hdiagonal]
  rfl

/-- The inner loop, from any place of the hypothesis on. -/
lemma foldlM_appendEntry (reference done rest : List String) (refWord : String) :
    (rest.zipIdx (done.length + 1)).foldlM
        (appendEntry (distanceRow reference (done ++ rest)) refWord)
        (distanceRow (reference ++ [refWord]) done) =
      .ok (distanceRow (reference ++ [refWord]) (done ++ rest)) := by
  induction rest generalizing done with
  | nil => simp [pure, Except.pure]
  | cons word rest ih =>
    have hrest := ih (done ++ [word])
    rw [List.length_append, List.length_singleton, List.append_assoc, List.singleton_append]
      at hrest
    rw [List.zipIdx_cons, List.foldlM_cons, appendEntry_distanceRow]
    exact hrest

/-- One round of the outer loop computes the next row. -/
lemma nextRow_distanceRow (reference hypothesis : List String) (refWord : String) :
    nextRow hypothesis (distanceRow reference hypothesis) (refWord, reference.length + 1) =
      .ok (distanceRow (reference ++ [refWord]) hypothesis) := by
  have hloop := foldlM_appendEntry reference [] hypothesis refWord
  rw [distanceRow_first, List.length_append, List.length_singleton] at hloop
  exact hloop

/-- The outer loop, from any place of the reference on. -/
lemma foldlM_nextRow (done rest hypothesis : List String) :
    (rest.zipIdx (done.length + 1)).foldlM (nextRow hypothesis) (distanceRow done hypothesis) =
      .ok (distanceRow (done ++ rest) hypothesis) := by
  induction rest generalizing done with
  | nil => simp [pure, Except.pure]
  | cons word rest ih =>
    have hrest := ih (done ++ [word])
    rw [List.length_append, List.length_singleton, List.append_assoc, List.singleton_append]
      at hrest
    rw [List.zipIdx_cons, List.foldlM_cons, nextRow_distanceRow]
    exact hrest

/-- The dynamic program computes the edit distance. -/
lemma levenshteinDistance_eq (reference hypothesis : List String) :
    levenshteinDistance reference hypothesis = .ok (editDistance reference hypothesis) := by
  have hloop := foldlM_nextRow [] reference hypothesis
  rw [distanceRow_nil, List.nil_append, List.length_nil] at hloop
  rw [levenshteinDistance, hloop]
  exact lastItem_distanceRow reference hypothesis

end

/-- **The dynamic program returns the edit distance.** For every reference and hypothesis it returns
the least number of insertions, deletions and substitutions of words that turn the one into the
other; these numbers are zero for equal lists only, symmetric, at most the longer length, and
satisfy the triangle inequality. -/
theorem levenshteinDistance_correct :
    ∃ distance : List String → List String → ℕ,
      (∀ reference hypothesis,
        levenshteinDistance reference hypothesis = .ok (distance reference hypothesis) ∧
        IsLeast {n | Edits n reference hypothesis} (distance reference hypothesis)) ∧
      (∀ xs ys, distance xs ys = 0 ↔ xs = ys) ∧
      (∀ xs ys, distance xs ys = distance ys xs) ∧
      (∀ xs ys, distance xs ys ≤ max xs.length ys.length) ∧
      (∀ xs ys zs, distance xs zs ≤ distance xs ys + distance ys zs) :=
  ⟨editDistance, fun reference hypothesis =>
      ⟨levenshteinDistance_eq reference hypothesis, isLeast_editDistance reference hypothesis⟩,
    fun _ _ => editDistance_eq_zero, editDistance_comm, editDistance_le_max, editDistance_triangle⟩

/-- A word is deleted and a word is substituted. -/
example : levenshteinDistance ["turn", "on", "the", "light"] ["turn", "of", "light"] = .ok 2 := by
  decide +kernel

end RtcAsr
