/-
  MapTheme.Proofs.Text.Pieces — texts that are put together from pieces come apart into the pieces.

  Pieces with a separator between them are split there again, a text without its start or its end is what stands
  behind or before it, and a scan finds a match at the start of a text before those of the rest.
-/

import MapTheme.Text.Scan

namespace MapTheme.Text

variable {sep : Char} {piece : List Char}

/-! ## Separators -/

theorem cutAt?_append (h : sep ∉ piece) (rest : List Char) : cutAt? sep (piece ++ sep :: rest) = some (piece, rest) := by
  induction piece with
  | nil => simp [cutAt?]
  | cons c r ih =>
    rw [List.mem_cons, not_or] at h
    rw [List.cons_append, cutAt?, if_neg (Ne.symm h.1), ih h.2]
    rfl

/-- Where a text is cut does not depend on what follows it. -/
theorem cutAt?_append_of_some {s a b : List Char} (h : cutAt? sep s = some (a, b)) (t : List Char) :
    cutAt? sep (s ++ t) = some (a, b ++ t) := by
  induction s generalizing a with
  | nil => cases h
  | cons c r ih =>
    rw [List.cons_append, cutAt?]
    rw [cutAt?] at h
    by_cases hc : c = sep
    · rw [if_pos hc] at h ⊢
      cases h
      rfl
    · rw [if_neg hc] at h ⊢
      obtain ⟨⟨x, y⟩, hcut, he⟩ := Option.map_eq_some_iff.mp h
      cases he
      rw [ih hcut]
      rfl

theorem splitAt_of_not_mem (h : sep ∉ piece) : splitAt sep piece = [piece] := by
  induction piece with
  | nil => rfl
  | cons c r ih =>
    rw [List.mem_cons, not_or] at h
    rw [splitAt, if_neg (Ne.symm h.1), ih h.2]

theorem splitAt_ne_nil (s : List Char) : splitAt sep s ≠ [] := by
  cases s with
  | nil => simp [splitAt]
  | cons c r =>
    rw [splitAt]
    split
    · simp
    · split <;> simp

/-- A separator ends a piece, wherever it stands. -/
theorem splitAt_append_sep (s rest : List Char) : splitAt sep (s ++ sep :: rest) = splitAt sep s ++ splitAt sep rest := by
  induction s with
  | nil => simp [splitAt]
  | cons c r ih =>
    rw [List.cons_append, splitAt, splitAt, ih]
    split
    · rfl
    · cases hpieces : splitAt sep r with
      | nil => exact absurd hpieces (splitAt_ne_nil r)
      | cons p ps => rfl

theorem splitAt_append (h : sep ∉ piece) (rest : List Char) :
    splitAt sep (piece ++ sep :: rest) = piece :: splitAt sep rest := by
  rw [splitAt_append_sep, splitAt_of_not_mem h, List.singleton_append]

/-- Pieces without the separator come back, if there is a piece at all. -/
theorem splitAt_intercalate {pieces : List (List Char)} (hne : pieces ≠ []) (h : ∀ p ∈ pieces, sep ∉ p) :
    splitAt sep ([sep].intercalate pieces) = pieces := by
  induction pieces with
  | nil => exact absurd rfl hne
  | cons p rest ih =>
    have hp := h p List.mem_cons_self
    cases rest with
    | nil => simpa using splitAt_of_not_mem hp
    | cons q rest =>
      have hrest := ih (List.cons_ne_nil q rest) fun r hr => h r (List.mem_cons_of_mem p hr)
      rw [List.intercalate_cons_cons, List.append_assoc, List.singleton_append, splitAt_append hp, hrest]

theorem mem_intercalate {pieces : List (List Char)} {c : Char} (h : c ∈ [sep].intercalate pieces) :
    c = sep ∨ ∃ p ∈ pieces, c ∈ p := by
  induction pieces with
  | nil => cases h
  | cons p rest ih =>
    cases rest with
    | nil => exact .inr ⟨p, List.mem_cons_self, by simpa using h⟩
    | cons q rest =>
      rw [List.intercalate_cons_cons, List.append_assoc] at h
      rcases List.mem_append.mp h with h | h
      · exact .inr ⟨p, List.mem_cons_self, h⟩
      · rcases List.mem_append.mp h with h | h
        · exact .inl (List.mem_singleton.mp h)
        · rcases ih h with h | ⟨r, hr, h⟩
          · exact .inl h
          · exact .inr ⟨r, List.mem_cons_of_mem p hr, h⟩

theorem mem_intercalate_of_mem {pieces : List (List Char)} {c : Char} (hpiece : piece ∈ pieces) (hc : c ∈ piece) :
    c ∈ [sep].intercalate pieces := by
  induction pieces with
  | nil => cases hpiece
  | cons p rest ih =>
    cases rest with
    | nil =>
      obtain rfl := List.mem_singleton.mp hpiece
      simpa using hc
    | cons q rest =>
      rw [List.intercalate_cons_cons, List.append_assoc]
      rcases List.mem_cons.mp hpiece with rfl | hrest
      · exact List.mem_append_left _ hc
      · exact List.mem_append_right _ (List.mem_append_right _ (ih hrest))

/-! ## Starts and ends -/

theorem after?_eq_some_iff {start s rest : List Char} : after? start s = some rest ↔ s = start ++ rest := by
  induction start generalizing s with
  | nil => rw [after?, Option.some.injEq, List.nil_append]
  | cons a as ih =>
    cases s with
    | nil => simp [after?]
    | cons c cs =>
      by_cases hc : a = c
      · simp [after?, hc, ih]
      · simp [after?, hc, Ne.symm hc]

theorem withoutStart?_eq_some_iff {start s rest : String} : withoutStart? start s = some rest ↔ s = start ++ rest := by
  unfold withoutStart?
  rw [Option.map_eq_some_iff, ← String.toList_inj, String.toList_append]
  constructor
  · rintro ⟨r, hr, rfl⟩
    rw [after?_eq_some_iff.mp hr, String.toList_ofList]
  · intro hs
    exact ⟨rest.toList, after?_eq_some_iff.mpr hs, String.ofList_toList⟩

theorem withoutEnd?_eq_some_iff {ending s rest : String} : withoutEnd? ending s = some rest ↔ s = rest ++ ending := by
  unfold withoutEnd?
  rw [Option.map_eq_some_iff, ← String.toList_inj, String.toList_append]
  constructor
  · rintro ⟨r, hr, rfl⟩
    rw [String.toList_ofList, ← List.reverse_inj, after?_eq_some_iff.mp hr, List.reverse_append, List.reverse_reverse]
  · intro hs
    refine ⟨rest.toList.reverse, ?_, by rw [List.reverse_reverse, String.ofList_toList]⟩
    rw [after?_eq_some_iff, hs, List.reverse_append]

/-! ## Scans -/

variable {α : Type} {f : Recogniser α}

theorem scan_nil (hf : f.Progresses) : scan f @hf [] = [] := by
  rw [scan.eq_def]

theorem scan_of_some (hf : f.Progresses) {s rest : List Char} {a : α} (h : f s = some (a, rest)) :
    scan f @hf s = a :: scan f @hf rest := by
  cases s with
  | nil => exact absurd (hf h) (Nat.not_lt_zero _)
  | cons c r =>
    rw [scan.eq_def]
    dsimp only
    split
    · rename_i hs
      rw [h] at hs
      cases hs
      rfl
    · rename_i hs
      rw [h] at hs
      cases hs

theorem scan_of_none (hf : f.Progresses) {c : Char} {r : List Char} (h : f (c :: r) = none) :
    scan f @hf (c :: r) = scan f @hf r := by
  rw [scan.eq_def]
  dsimp only
  split
  · rename_i hs
    rw [h] at hs
    cases hs
  · rfl

/-! ## Numbers -/

theorem toString_injective {m n : Nat} (h : toString m = toString n) : m = n := by
  have hdigits : Nat.toDigits 10 m = Nat.toDigits 10 n := String.ofList_injective h
  have hback := congrArg (Nat.ofDigitChars 10 · 0) hdigits
  simpa [Nat.ofDigitChars_toDigits] using hback

end MapTheme.Text
