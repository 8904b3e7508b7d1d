/-
  MapTheme.Pattern.Everything — the pattern `.*` accepts every text.

  The anchored source is read as: the start of the text, any characters, the end of the text. From the
  start, each round of the repetition moves on by one character (`mem_reach`), and there are more
  rounds than characters, so the end of the text is among the places reached.
-/

import MapTheme.Pattern.Compilation

namespace MapTheme.Pattern

open Unicode (CharSet)

/-! ## Places -/

theorem mem_mergePlaces {xs ys : Places} {p : Nat} : p ∈ mergePlaces xs ys ↔ p ∈ xs ∨ p ∈ ys := by
  fun_induction mergePlaces xs ys with
  | case1 ys => simp
  | case2 xs _ => simp
  | case3 x xs y ys _ ih => simp only [List.mem_cons, ih, or_assoc]
  | case4 x xs y ys _ _ ih => simp only [List.mem_cons, ih, or_assoc, or_left_comm]
  | case5 x xs y ys h1 h2 ih =>
    obtain rfl : x = y := by omega
    simp only [List.mem_cons, ih, or_assoc, or_left_comm, or_self_left]

theorem subset_reach (step : Places → Places) (count : Nat) (seen fresh : Places) :
    ∀ p ∈ seen, p ∈ reach step count seen fresh := by
  induction count generalizing seen fresh with
  | zero => intro p hp; exact hp
  | succ count ih =>
    intro p hp
    simp only [reach]
    split
    · exact hp
    · exact ih _ _ p (mem_mergePlaces.mpr (Or.inl hp))

/-- A step that moves on by one character reaches a place that is as many rounds away. -/
theorem mem_reach {step : Places → Places} {last : Nat} (hstep : ∀ k < last, step [k] = [k + 1]) {count k : Nat}
    {seen : Places} (hk : k ≤ last) (hcount : last - k ≤ count) (hseen : ∀ p ∈ seen, p ≤ k) (hin : k ∈ seen) :
    last ∈ reach step count seen [k] := by
  induction count generalizing k seen with
  | zero =>
    obtain rfl : k = last := by omega
    exact hin
  | succ count ih =>
    by_cases he : k = last
    · exact he ▸ subset_reach step _ seen [k] k hin
    · have hfresh : newPlaces (step [k]) seen = [k + 1] := by
        have hnew : k + 1 ∉ seen := fun h => by have := hseen _ h; omega
        simp [newPlaces, hstep k (by omega), hnew]
      simp only [reach, List.isEmpty_cons, Bool.false_eq_true, if_false, hfresh]
      refine ih (by omega) (by omega) (fun p hp => ?_) (mem_mergePlaces.mpr (Or.inr (List.mem_singleton.mpr rfl)))
      rcases mem_mergePlaces.mp hp with hp | hp
      · have := hseen p hp; omega
      · have := List.mem_singleton.mp hp; omega

/-! ## Any characters -/

theorem has_univ (c : Char) : CharSet.univ.has c = true := by
  have hc : c.toNat ≤ CharSet.top := by
    rcases c.valid with h | ⟨_, h⟩
    · exact Nat.le_of_lt (Nat.lt_trans h (by decide))
    · exact Nat.le_of_lt_succ h
  simp [CharSet.has, CharSet.univ, hc]

/-- Any characters, from the start to the end of a text. -/
def wholeText : Node :=
  .seq (.assertion .textStart) (.seq (.group false (.rep (.chars CharSet.univ) 0 none)) (.assertion .textEnd))

theorem ends_univ (t : Array Char) {k : Nat} (hk : k < t.size) : ends t (.chars CharSet.univ) [k] = [k + 1] := by
  simp [ends, Array.getElem?_eq_getElem hk, has_univ]

theorem ends_textStart (t : Array Char) : ends t (.assertion .textStart) (List.range (t.size + 1)) = [0] := by
  have later : ∀ p ∈ (List.range t.size).map Nat.succ, ¬ Assertion.textStart.holds (charBefore t p) t[p]? = true := by
    intro p hp
    obtain ⟨q, hq, rfl⟩ := List.mem_map.mp hp
    have hq := List.mem_range.mp hq
    simp [Assertion.holds, charBefore, Array.getElem?_eq_getElem hq]
  rw [List.range_succ_eq_map]
  simp only [ends, List.filter_cons, List.filter_eq_nil_iff.mpr later]
  simp [Assertion.holds, charBefore]

/-- Any number of a node: the places reached from the start of the text. -/
theorem ends_anyNumber (t : Array Char) (n : Node) :
    ends t (.rep n 0 none) [0] = reach (ends t n) (t.size + 1) [0] [0] := by
  simp [ends, rounds, repeatStep]

theorem foundIn_wholeText (text : String) : wholeText.foundIn text = true := by
  let t := text.toList.toArray
  have hany : t.size ∈ ends t (.group false (.rep (.chars CharSet.univ) 0 none)) [0] := by
    rw [ends, ends_anyNumber]
    exact mem_reach (fun k hk => ends_univ t hk) (Nat.zero_le _) (by omega) (by simp) (by simp)
  have hall : t.size ∈ ends t wholeText (List.range (t.size + 1)) := by
    rw [wholeText, ends, ends_textStart, ends, ends]
    exact List.mem_filter.mpr ⟨hany, by simp [Assertion.holds]⟩
  simp only [Node.foundIn, Bool.not_eq_true', List.isEmpty_eq_false_iff]
  exact List.ne_nil_of_mem hall

theorem read?_anchored_everything : read? (anchored ".*") = some wholeText := by decide

/-- What `.*` compiles to is found in every text. -/
theorem foundIn_of_everything {n : Node} (h : compile ".*" = .ok n) (text : String) : n.foundIn text = true := by
  rw [compile, read?_anchored_everything] at h
  simp only at h
  split at h
  · injection h with h
    exact h ▸ foundIn_wholeText text
  · cases h

end MapTheme.Pattern
