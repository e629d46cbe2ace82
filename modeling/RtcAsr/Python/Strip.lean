import Mathlib.Data.List.DropRight
import RtcAsr.Python.Value

/-!
# Stripped texts

`str.strip()` removes the white space at both ends of a text.  What it returns has none left, and
neither has a join by single spaces of non-empty stripped texts (`stripped_joinTexts`).
-/

namespace RtcAsr

/-- There is no white space at either end of the text. -/
def Stripped (s : String) : Prop := pyStrip s = s

/-- The texts that are more than white space, stripped. -/
def spokenTexts (texts : List String) : List String := (texts.map pyStrip).filter (· ≠ "")

/-- `" ".join(texts)`. -/
def joinTexts (texts : List String) : String := String.intercalate " " texts

/-! ## Lists of characters -/

section

variable {cs ds : List Char}

/-- The first and the last character are no white space. -/
def EndsDark (cs : List Char) : Prop :=
  (∀ c ∈ cs.head?, ¬ pyIsSpace c = true) ∧ ∀ c ∈ cs.getLast?, ¬ pyIsSpace c = true

lemma stripChars_eq (cs : List Char) :
    stripChars cs = (cs.dropWhile pyIsSpace).rdropWhile pyIsSpace := rfl

/-- A list of characters without white space at its ends is stripped already. -/
lemma stripChars_eq_self (h : EndsDark cs) : stripChars cs = cs := by
  have hfront : cs.dropWhile pyIsSpace = cs := by
    rw [List.dropWhile_eq_self_iff]
    intro hl
    exact h.1 _ (by rw [List.head?_eq_getElem?, List.getElem?_eq_getElem hl]; rfl)
  rw [stripChars_eq, hfront, List.rdropWhile_eq_self_iff]
  intro hl
  exact h.2 _ (List.getLast?_eq_some_getLast hl)

/-- Stripping leaves no white space at the ends. -/
lemma endsDark_stripChars (cs : List Char) : EndsDark (stripChars cs) := by
  rw [stripChars_eq]
  constructor
  · intro c hc
    have hprefix := List.rdropWhile_prefix pyIsSpace (cs.dropWhile pyIsSpace)
    obtain ⟨rest, hrest⟩ := hprefix
    have hhead : (cs.dropWhile pyIsSpace).head? = some c := by
      rw [← hrest, List.head?_append, Option.mem_def.mp hc]
      rfl
    have hdark := List.head?_dropWhile_not pyIsSpace cs
    rw [hhead] at hdark
    rw [Bool.not_eq_true]
    exact hdark
  · intro c hc
    obtain ⟨hne, rfl⟩ := List.mem_getLast?_eq_getLast hc
    exact List.rdropWhile_last_not _ _ hne

/-- Two lists with something between them. -/
lemma EndsDark.append (hc : EndsDark cs) (hd : EndsDark ds) (hcs : cs ≠ []) (hds : ds ≠ [])
    (middle : List Char) : EndsDark (cs ++ (middle ++ ds)) := by
  obtain ⟨c, cs', rfl⟩ := List.exists_cons_of_ne_nil hcs
  refine ⟨hc.1, ?_⟩
  have hlast : (c :: cs' ++ (middle ++ ds)).getLast? = ds.getLast? := by
    rw [← List.append_assoc, List.getLast?_append_of_ne_nil _ hds]
  rw [hlast]
  exact hd.2

end

/-! ## Texts -/

section

variable {s t : String} {texts : List String}

lemma stripped_of_endsDark (h : EndsDark s.toList) : Stripped s := by
  rw [Stripped, pyStrip, stripChars_eq_self h, String.ofList_toList]

lemma Stripped.endsDark (h : Stripped s) : EndsDark s.toList := by
  have hdark := endsDark_stripChars s.toList
  have hchars : stripChars s.toList = s.toList := by
    have hlist := congrArg String.toList h
    rwa [pyStrip, String.toList_ofList] at hlist
  rwa [hchars] at hdark

/-- What `str.strip()` returns is stripped. -/
lemma stripped_pyStrip (s : String) : Stripped (pyStrip s) := by
  refine stripped_of_endsDark ?_
  rw [pyStrip, String.toList_ofList]
  exact endsDark_stripChars s.toList

lemma stripped_empty : Stripped "" := stripped_of_endsDark ⟨by simp, by simp⟩

/-- Two non-empty stripped texts with a space between them. -/
lemma Stripped.join (hs : Stripped s) (ht : Stripped t) (hs' : s ≠ "") (ht' : t ≠ "") :
    Stripped (s ++ " " ++ t) := by
  refine stripped_of_endsDark ?_
  rw [String.toList_append, String.toList_append, List.append_assoc]
  exact hs.endsDark.append ht.endsDark (String.toList_eq_nil_iff.not.mpr hs')
    (String.toList_eq_nil_iff.not.mpr ht') _

/-! ## Joins -/

lemma joinTexts_nil : joinTexts [] = "" := String.intercalate_nil

lemma joinTexts_append (hne : texts ≠ []) (t : String) :
    joinTexts (texts ++ [t]) = joinTexts texts ++ " " ++ t := by
  rw [joinTexts, String.intercalate_append_of_ne_nil hne (List.cons_ne_nil t []),
    String.intercalate_singleton, joinTexts]

/-- The spoken texts are stripped and not empty. -/
lemma spoken_of_mem (h : s ∈ spokenTexts texts) : Stripped s ∧ s ≠ "" := by
  obtain ⟨hmem, hne⟩ := List.mem_filter.mp h
  obtain ⟨t, -, rfl⟩ := List.mem_map.mp hmem
  exact ⟨stripped_pyStrip t, by simpa using hne⟩

lemma spokenTexts_append (texts : List String) (t : String) :
    spokenTexts (texts ++ [t]) =
      spokenTexts texts ++ if pyStrip t = "" then [] else [pyStrip t] := by
  rw [spokenTexts, List.map_append, List.filter_append, spokenTexts]
  by_cases h : pyStrip t = "" <;> simp [h]

/-- A join of non-empty stripped texts is stripped, and empty only if there are none. -/
lemma stripped_joinTexts (htexts : ∀ s ∈ texts, Stripped s ∧ s ≠ "") :
    Stripped (joinTexts texts) ∧ (joinTexts texts = "" ↔ texts = []) := by
  induction texts with
  | nil => exact ⟨stripped_empty, by simp [joinTexts_nil]⟩
  | cons s rest ih =>
    obtain ⟨hs, hs'⟩ := htexts s List.mem_cons_self
    cases rest with
    | nil =>
      rw [joinTexts, String.intercalate_singleton]
      exact ⟨hs, by simpa using hs'⟩
    | cons t rest =>
      obtain ⟨hrest, hempty⟩ := ih fun u hu => htexts u (List.mem_cons_of_mem s hu)
      have hrest' : joinTexts (t :: rest) ≠ "" := hempty.not.mpr (List.cons_ne_nil t rest)
      have hjoin : joinTexts (s :: t :: rest) = s ++ " " ++ joinTexts (t :: rest) :=
        String.intercalate_cons_cons
      refine ⟨hjoin ▸ hs.join hrest hs' hrest', ?_⟩
      rw [hjoin]
      simp [String.append_eq_empty_iff]

/-- The join of the spoken texts is stripped. -/
lemma stripped_spoken (texts : List String) : Stripped (joinTexts (spokenTexts texts)) :=
  (stripped_joinTexts fun _ hs => spoken_of_mem hs).1

/-- It is empty only if nothing is spoken. -/
lemma joinTexts_spoken_eq_empty (texts : List String) :
    joinTexts (spokenTexts texts) = "" ↔ spokenTexts texts = [] :=
  (stripped_joinTexts fun _ hs => spoken_of_mem hs).2

end

end RtcAsr
