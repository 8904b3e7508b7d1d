/-
  MapTheme.Proofs.Text.Blank — what trimming leaves, and what it leaves alone.

  `Trimmed` says that no blank stands at either end; trimming gives such a text (`trimmed_spec`) and keeps
  one as it is (`Trimmed.eq`).
-/

import MapTheme.Text.Blank

namespace MapTheme.Text

variable {s : List Char}

/-- Neither the first nor the last character is blank. -/
structure Trimmed (s : List Char) : Prop where
  head : ∀ c, s.head? = some c → isBlank c = false
  last : ∀ c, s.getLast? = some c → isBlank c = false

theorem dropBlanks_of_head (h : ∀ c, s.head? = some c → isBlank c = false) : dropBlanks s = s := by
  cases s with
  | nil => rfl
  | cons c r => rw [dropBlanks, List.dropWhile_cons, h c rfl, if_neg Bool.false_ne_true]

theorem dropBlanksRight_of_last (h : ∀ c, s.getLast? = some c → isBlank c = false) : dropBlanksRight s = s := by
  have hreverse : dropBlanks s.reverse = s.reverse := by
    apply dropBlanks_of_head
    intro c hc
    rw [List.head?_reverse] at hc
    exact h c hc
  have hreverse : s.reverse.dropWhile isBlank = s.reverse := hreverse
  rw [dropBlanksRight, hreverse, List.reverse_reverse]

theorem head_dropBlanks (s : List Char) {c : Char} (h : (dropBlanks s).head? = some c) : isBlank c = false := by
  have hnot := List.head?_dropWhile_not isBlank s
  rw [show s.dropWhile isBlank = dropBlanks s from rfl, h] at hnot
  exact hnot

theorem last_dropBlanksRight (s : List Char) {c : Char} (h : (dropBlanksRight s).getLast? = some c) :
    isBlank c = false := by
  rw [dropBlanksRight, List.getLast?_reverse] at h
  exact head_dropBlanks s.reverse h

/-- What stays of a text when the blanks at its end go is a start of it. -/
theorem exists_append_of_dropBlanksRight (s : List Char) : ∃ r, dropBlanksRight s ++ r = s := by
  refine ⟨(s.reverse.takeWhile isBlank).reverse, ?_⟩
  rw [dropBlanksRight, ← List.reverse_append, List.takeWhile_append_dropWhile, List.reverse_reverse]

theorem trimmed_spec (s : List Char) : Trimmed (trimmed s) := by
  refine ⟨?_, fun c h => last_dropBlanksRight _ h⟩
  intro c h
  obtain ⟨r, hr⟩ := exists_append_of_dropBlanksRight (dropBlanks s)
  apply head_dropBlanks s
  rw [← hr, List.head?_append]
  exact Option.or_eq_some_iff.mpr (.inl h)

theorem Trimmed.eq (h : Trimmed s) : trimmed s = s := by
  rw [trimmed, dropBlanks_of_head h.head, dropBlanksRight_of_last h.last]

theorem trimmed_iff : Trimmed s ↔ trimmed s = s := ⟨Trimmed.eq, fun h => h ▸ trimmed_spec s⟩

instance : Decidable (Trimmed s) := decidable_of_iff _ trimmed_iff.symm

theorem mem_of_mem_trimmed {c : Char} (h : c ∈ trimmed s) : c ∈ s := by
  have hmem : c ∈ dropBlanks s := by
    obtain ⟨r, hr⟩ := exists_append_of_dropBlanksRight (dropBlanks s)
    rw [← hr]
    exact List.mem_append_left r h
  exact List.dropWhile_sublist _ |>.mem hmem

theorem trimmed_of_plain (h : ∀ c ∈ s, isBlank c = false) : Trimmed s := by
  refine ⟨?_, ?_⟩
  · intro c hc
    exact h c (List.mem_of_mem_head? hc)
  · intro c hc
    exact h c (List.mem_of_getLast? hc)

theorem trim_of_plain {t : String} (h : ∀ c ∈ t.toList, isBlank c = false) : trim t = t := by
  rw [trim, (trimmed_of_plain h).eq, String.ofList_toList]

end MapTheme.Text
