import Mathlib.Data.List.Basic
import Mathlib.Data.List.Induction
import Mathlib.Tactic.Common

/-!
# Logs in sections

A log is read from its first entry to its last.  An entry opens a section, adds an item to the last
section, closes it, or says nothing (`Mark`).  What is added to a closed section, or before the
first one, is ignored.

A longer log says the same and more: the sections of a log are sections of every continuation, with
more items (`LogSection.Extends`), and a closed section stays as it is (`Sections.get?_record`).
-/

/-- What an entry of a log does. -/
inductive Mark (κ ε γ : Type*)
  /-- A section begins. -/
  | opens (head : κ)
  /-- An item of the last section. -/
  | item (x : ε)
  /-- The last section ends. -/
  | closes (how : γ)
  | silent

/-- A section of a log. -/
structure LogSection (κ ε γ : Type*) where
  head : κ
  items : List ε := []
  /-- How the section was closed. -/
  closing : Option γ := none

namespace LogSection

variable {κ ε γ : Type*}

/-- An item is added, unless the section is closed. -/
def add (s : LogSection κ ε γ) (x : ε) : LogSection κ ε γ :=
  match s.closing with
  | none => { s with items := s.items ++ [x] }
  | some _ => s

/-- The section is closed, unless it is already. -/
def close (s : LogSection κ ε γ) (how : γ) : LogSection κ ε γ :=
  match s.closing with
  | none => { s with closing := some how }
  | some _ => s

/-- The same section later on: it may have more items, and it is the same if it was closed. -/
structure Extends (s s' : LogSection κ ε γ) : Prop where
  head : s'.head = s.head
  items : s.items <+: s'.items
  closed : s.closing ≠ none → s' = s

variable {s s' s'' : LogSection κ ε γ}

lemma Extends.refl (s : LogSection κ ε γ) : s.Extends s := ⟨rfl, List.prefix_refl _, fun _ => rfl⟩

lemma Extends.trans (h : s.Extends s') (h' : s'.Extends s'') : s.Extends s'' := by
  refine ⟨h'.head.trans h.head, h.items.trans h'.items, fun hclosed => ?_⟩
  have hsame : s' = s := h.closed hclosed
  rw [← hsame] at hclosed
  exact (h'.closed hclosed).trans hsame

lemma extends_add (s : LogSection κ ε γ) (x : ε) : s.Extends (s.add x) := by
  unfold add
  split
  · next hopen => exact ⟨rfl, List.prefix_append _ _, fun hclosed => absurd hopen hclosed⟩
  · exact .refl s

lemma extends_close (s : LogSection κ ε γ) (how : γ) : s.Extends (s.close how) := by
  unfold close
  split
  · next hopen => exact ⟨rfl, List.prefix_refl _, fun hclosed => absurd hopen hclosed⟩
  · exact .refl s

end LogSection

/-- The sections of a log: the last one, and those before it. -/
structure Sections (κ ε γ : Type*) where
  earlier : List (LogSection κ ε γ) := []
  last : Option (LogSection κ ε γ) := none

namespace Sections

variable {α κ ε γ : Type*}

/-- The sections in their order. -/
def all (l : Sections κ ε γ) : List (LogSection κ ε γ) := l.earlier ++ l.last.toList

/-- The number of sections. -/
def count (l : Sections κ ε γ) : ℕ := l.all.length

/-- The section of a number, counted from `0`. -/
def get? (l : Sections κ ε γ) (k : ℕ) : Option (LogSection κ ε γ) := l.all[k]?

/-- One more entry is read. -/
def note (l : Sections κ ε γ) : Mark κ ε γ → Sections κ ε γ
  | .opens head => { earlier := l.all, last := some { head := head } }
  | .item x => { l with last := l.last.map fun s => s.add x }
  | .closes how => { l with last := l.last.map fun s => s.close how }
  | .silent => l

/-- The sections of a log whose entries have the given marks. -/
def record (mark : α → Mark κ ε γ) (log : List α) : Sections κ ε γ :=
  log.foldl (fun l x => l.note (mark x)) {}

variable {mark : α → Mark κ ε γ} {l : Sections κ ε γ} {s : LogSection κ ε γ}

/-- A log with one more entry. -/
lemma record_concat (log : List α) (x : α) :
    record mark (log ++ [x]) = (record mark log).note (mark x) := List.foldl_concat _ _ _ _

/-- The number of sections grows by the ones that are opened. -/
lemma count_note (m : Mark κ ε γ) :
    (l.note m).count = match m with
      | .opens _ => l.count + 1
      | _ => l.count := by
  cases m with
  | opens head => simp [note, count, all, Nat.add_assoc]
  | item x => cases h : l.last <;> simp [note, count, all, h]
  | closes how => cases h : l.last <;> simp [note, count, all, h]
  | silent => rfl

/-- The last section has the last number. -/
lemma get?_of_last (h : l.last = some s) : ∃ k, l.count = k + 1 ∧ l.get? k = some s :=
  ⟨l.earlier.length, by simp [count, all, h], by simp [get?, all, h]⟩

/-- A change of the last section that extends it extends the section of every number. -/
lemma get?_map_last {f : LogSection κ ε γ → LogSection κ ε γ}
    (hf : ∀ s : LogSection κ ε γ, s.Extends (f s)) {k : ℕ}
    (h : l.get? k = some s) :
    ∃ s', get? { l with last := l.last.map f } k = some s' ∧ s.Extends s' := by
  unfold get? all at h ⊢
  rcases Nat.lt_or_ge k l.earlier.length with hk | hk
  · rw [List.getElem?_append_left hk] at h
    exact ⟨s, (List.getElem?_append_left hk).trans h, .refl s⟩
  · rw [List.getElem?_append_right hk] at h
    refine ⟨f s, ?_, hf s⟩
    rw [List.getElem?_append_right hk]
    cases hlast : l.last with
    | none => simp [hlast] at h
    | some t =>
      rw [hlast] at h
      cases hzero : k - l.earlier.length with
      | zero =>
        rw [hzero] at h
        obtain rfl : t = s := by simpa using h
        rfl
      | succ n => simp [hzero] at h

/-- One more entry keeps the sections, up to an extension. -/
lemma get?_note {k : ℕ} (h : l.get? k = some s) (m : Mark κ ε γ) :
    ∃ s', (l.note m).get? k = some s' ∧ s.Extends s' := by
  cases m with
  | opens head =>
    refine ⟨s, ?_, .refl s⟩
    have hk : k < l.all.length := (List.getElem?_eq_some_iff.mp h).1
    exact (List.getElem?_append_left hk).trans h
  | item x => exact get?_map_last (fun s => s.extends_add x) h
  | closes how => exact get?_map_last (fun s => s.extends_close how) h
  | silent => exact ⟨s, h, .refl s⟩

/-- **A longer log says the same and more.** -/
theorem get?_record {log log' : List α} {k : ℕ} (hfirst : log <+: log')
    (h : (record mark log).get? k = some s) :
    ∃ s', (record mark log').get? k = some s' ∧ s.Extends s' := by
  obtain ⟨more, rfl⟩ := hfirst
  induction more using List.reverseRecOn with
  | nil => exact ⟨s, by rwa [List.append_nil], .refl s⟩
  | append_singleton more x ih =>
    obtain ⟨s', hs', hextends⟩ := ih
    obtain ⟨s'', hs'', hextends'⟩ := get?_note hs' (mark x)
    refine ⟨s'', ?_, hextends.trans hextends'⟩
    rw [← List.append_assoc, record_concat]
    exact hs''

/-- A section after one more entry was there before, or the entry opens it. -/
lemma mem_all_note {m : Mark κ ε γ} (h : s ∈ (l.note m).all) :
    (∃ t ∈ l.all, t.head = s.head) ∨ m = .opens s.head := by
  have hlast : ∀ f : LogSection κ ε γ → LogSection κ ε γ,
      (∀ t : LogSection κ ε γ, t.Extends (f t)) →
      s ∈ l.earlier ++ (l.last.map f).toList → ∃ t ∈ l.all, t.head = s.head := by
    intro f hf hs
    unfold all
    rcases List.mem_append.mp hs with hs | hs
    · exact ⟨s, List.mem_append_left _ hs, rfl⟩
    · cases hl : l.last with
      | none => simp [hl] at hs
      | some t =>
        obtain rfl : s = f t := by simpa [hl] using hs
        exact ⟨t, by simp, (hf t).head.symm⟩
  cases m with
  | opens head =>
    rcases List.mem_append.mp h with hs | hs
    · exact Or.inl ⟨s, hs, rfl⟩
    · obtain rfl : s = { head := head } := List.mem_singleton.mp hs
      exact Or.inr rfl
  | item x => exact Or.inl (hlast _ (fun t => t.extends_add x) h)
  | closes how => exact Or.inl (hlast _ (fun t => t.extends_close how) h)
  | silent => exact Or.inl ⟨s, h, rfl⟩

/-- A section is opened by an entry of the log. -/
lemma exists_opens {log : List α} {k : ℕ} (h : (record mark log).get? k = some s) :
    ∃ x ∈ log, mark x = .opens s.head := by
  have hmem : s ∈ (record mark log).all := List.mem_of_getElem? h
  clear h
  induction log using List.reverseRecOn generalizing s with
  | nil => cases hmem
  | append_singleton log x ih =>
    rw [record_concat] at hmem
    rcases mem_all_note hmem with ⟨t, ht, hhead⟩ | hopens
    · obtain ⟨y, hy, hmark⟩ := ih ht
      exact ⟨y, List.mem_append_left _ hy, by rw [hmark, hhead]⟩
    · exact ⟨x, by simp, hopens⟩

/-- An open section was opened by an entry that no entry after it closes, nor opens another. -/
lemma exists_opens_of_last {log : List α} (hlast : (record mark log).last = some s)
    (hopen : s.closing = none) :
    ∃ before x since, log = before ++ x :: since ∧ mark x = .opens s.head ∧
      ∀ y ∈ since, (∀ head, mark y ≠ .opens head) ∧ ∀ how, mark y ≠ .closes how := by
  induction log using List.reverseRecOn generalizing s with
  | nil => cases hlast
  | append_singleton log x ih =>
    rw [record_concat] at hlast
    -- the entry leaves an open section open, under the same head
    have hsame : ∀ t, (record mark log).last = some t → t.head = s.head → t.closing = none →
        (∀ head, mark x ≠ .opens head) → (∀ how, mark x ≠ .closes how) →
        ∃ before y since, log ++ [x] = before ++ y :: since ∧ mark y = .opens s.head ∧
          ∀ z ∈ since, (∀ head, mark z ≠ .opens head) ∧ ∀ how, mark z ≠ .closes how := by
      intro t ht hhead htopen hopens hcloses
      obtain ⟨before, y, since, rfl, hy, hsince⟩ := ih ht htopen
      refine ⟨before, y, since ++ [x], by simp, hy.trans (congrArg _ hhead), fun z hz => ?_⟩
      rcases List.mem_append.mp hz with hz | hz
      · exact hsince z hz
      · obtain rfl := List.mem_singleton.mp hz
        exact ⟨hopens, hcloses⟩
    cases hmark : mark x with
    | opens head =>
      rw [hmark] at hlast
      obtain rfl : { head := head } = s := Option.some.inj hlast
      exact ⟨log, x, [], rfl, hmark, by simp⟩
    | item y =>
      rw [hmark] at hlast
      obtain ⟨t, ht, rfl⟩ := Option.map_eq_some_iff.mp hlast
      have hextends := t.extends_add y
      have htopen : t.closing = none := by
        by_contra hclosed
        rw [hextends.closed hclosed] at hopen
        exact hclosed hopen
      exact hsame t ht hextends.head.symm htopen (by simp [hmark]) (by simp [hmark])
    | closes how =>
      rw [hmark] at hlast
      obtain ⟨t, ht, rfl⟩ := Option.map_eq_some_iff.mp hlast
      unfold LogSection.close at hopen
      split at hopen
      · cases hopen
      · next hclosed => exact absurd hopen (by simp [hclosed])
    | silent =>
      rw [hmark] at hlast
      exact hsame s hlast rfl hopen (by simp [hmark]) (by simp [hmark])

end Sections
