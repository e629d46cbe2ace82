import Mathlib.Data.List.Basic
import Mathlib.Order.Nat
import Mathlib.Tactic.Common

/-!
# Items in a stream

A framing cuts a stream into items: `next` reads the first item, asks for more, or fails, and what
follows in the stream does not change an answer it has given.  `Reads b items outcome` says that `b`
holds the items, and after them an incomplete rest or an error.  Since this is so for one `b` only,
and reading goes on where it stopped (`Reads.append`), a reader that keeps the rest in a buffer
gives the items of the whole stream, however it is cut.
-/

/-- A framing of streams of `β` with items in `α` and errors in `ε`. -/
structure Framing (α β ε : Type*) where
  /-- The first item with what follows it, or `none` if the stream is too short to tell. -/
  next : List β → Except ε (Option (α × List β))
  shorter : ∀ {b a rest}, next b = .ok (some (a, rest)) → rest.length < b.length
  item_append : ∀ {b a rest}, next b = .ok (some (a, rest)) →
    ∀ c, next (b ++ c) = .ok (some (a, rest ++ c))
  error_append : ∀ {b e}, next b = .error e → ∀ c, next (b ++ c) = .error e

namespace Framing

variable {α β ε : Type*} (F : Framing α β ε)

/-- The stream holds these items, and after them an incomplete rest or an error. -/
inductive Reads : List β → List α → Except ε (List β) → Prop
  | more {b : List β} (h : F.next b = .ok none) : Reads b [] (.ok b)
  | error {b : List β} {e : ε} (h : F.next b = .error e) : Reads b [] (.error e)
  | item {b rest : List β} {a : α} {items : List α} {outcome : Except ε (List β)}
      (h : F.next b = .ok (some (a, rest))) (hrest : Reads rest items outcome) :
      Reads b (a :: items) outcome

variable {F} {b c rest : List β} {items items' : List α} {outcome outcome' : Except ε (List β)}
  {e : ε}

/-- What a stream holds is determined. -/
lemma Reads.unique (h : F.Reads b items outcome) (h' : F.Reads b items' outcome') :
    items = items' ∧ outcome = outcome' := by
  induction h generalizing items' outcome' with
  | more hnext =>
    cases h' with
    | more => exact ⟨rfl, rfl⟩
    | error hnext' => cases hnext.symm.trans hnext'
    | item hnext' => cases hnext.symm.trans hnext'
  | error hnext =>
    cases h' with
    | more hnext' => cases hnext.symm.trans hnext'
    | error hnext' =>
      cases hnext.symm.trans hnext'
      exact ⟨rfl, rfl⟩
    | item hnext' => cases hnext.symm.trans hnext'
  | item hnext hrest ih =>
    cases h' with
    | more hnext' => cases hnext.symm.trans hnext'
    | error hnext' => cases hnext.symm.trans hnext'
    | item hnext' hrest' =>
      cases hnext.symm.trans hnext'
      obtain ⟨rfl, rfl⟩ := ih hrest'
      exact ⟨rfl, rfl⟩

/-- Every stream holds something. -/
lemma exists_reads (F : Framing α β ε) (b : List β) : ∃ items outcome, F.Reads b items outcome := by
  induction hn : b.length using Nat.strong_induction_on generalizing b with
  | _ n ih =>
    cases hnext : F.next b with
    | error e => exact ⟨[], .error e, .error hnext⟩
    | ok found =>
      cases found with
      | none => exact ⟨[], .ok b, .more hnext⟩
      | some item =>
        obtain ⟨a, rest⟩ := item
        obtain ⟨items, outcome, hrest⟩ := ih rest.length (hn ▸ F.shorter hnext) rest rfl
        exact ⟨a :: items, outcome, .item hnext hrest⟩

/-- A stream that ends inside its first item is too short. -/
lemma next_eq_none {a : α} (h : F.next (b ++ c) = .ok (some (a, []))) (hc : c ≠ []) :
    F.next b = .ok none := by
  cases hnext : F.next b with
  | error e => cases h.symm.trans (F.error_append hnext c)
  | ok found =>
    cases found with
    | none => rfl
    | some item =>
      obtain ⟨a', rest⟩ := item
      have hwhole := (F.item_append hnext c).symm.trans h
      simp only [Except.ok.injEq, Option.some.injEq, Prod.mk.injEq,
        List.append_eq_nil_iff] at hwhole
      exact absurd hwhole.2.2 hc

/-- After the items, more is needed. -/
lemma Reads.next_rest (h : F.Reads b items (.ok rest)) : F.next rest = .ok none := by
  generalize hr : (Except.ok rest : Except ε (List β)) = r at h
  induction h with
  | more hnext =>
    cases hr
    exact hnext
  | error hnext => cases hr
  | item hnext hrest ih => exact ih hr

/-- The reading goes on where it stopped. -/
lemma Reads.append (h : F.Reads b items (.ok rest)) (h' : F.Reads (rest ++ c) items' outcome) :
    F.Reads (b ++ c) (items ++ items') outcome := by
  generalize hr : (Except.ok rest : Except ε (List β)) = r at h
  induction h with
  | more hnext =>
    cases hr
    exact h'
  | error hnext => cases hr
  | item hnext hrest ih => exact .item (F.item_append hnext c) (ih hr)

/-- An error stays. -/
lemma Reads.append_error (h : F.Reads b items (.error e)) (c : List β) :
    F.Reads (b ++ c) items (.error e) := by
  generalize hr : (Except.error e : Except ε (List β)) = r at h
  induction h with
  | more hnext => cases hr
  | error hnext =>
    cases hr
    exact .error (F.error_append hnext c)
  | item hnext hrest ih => exact .item (F.item_append hnext c) (ih hr)

end Framing
