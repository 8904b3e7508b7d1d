/-
  MapTheme.Text.Scan — finding all matches of a recogniser in a text, from left to right.

  A recogniser answers what stands at the start of a text and the rest after it. Matches do not
  overlap: after one the scan goes on behind it, otherwise one character further.
-/

import MapTheme.Text.Pieces

namespace MapTheme.Text

variable {α : Type}

abbrev Recogniser (α : Type) := List Char → Option (α × List Char)

/-- Every match takes at least one character. -/
def Recogniser.Progresses (f : Recogniser α) : Prop :=
  ∀ {s r : List Char} {a : α}, f s = some (a, r) → r.length < s.length

def scan (f : Recogniser α) (hf : f.Progresses) (s : List Char) : List α :=
  match s with
  | [] => []
  | c :: r =>
    match _h : f (c :: r) with
    | some (a, rest) => a :: scan f hf rest
    | none => scan f hf r
termination_by s.length
decreasing_by
  · exact hf _h
  · simp

theorem length_of_after? {start s r : List Char} (h : after? start s = some r) : s.length = start.length + r.length := by
  induction start generalizing s with
  | nil =>
    simp only [after?, Option.some.injEq] at h
    simp [h]
  | cons a as ih =>
    cases s with
    | nil => simp [after?] at h
    | cons c cs =>
      simp only [after?] at h
      split at h
      · have := ih h
        simp only [List.length_cons]
        omega
      · simp at h

theorem length_of_cutAt? {sep : Char} {s a b : List Char} (h : cutAt? sep s = some (a, b)) : b.length < s.length := by
  induction s generalizing a with
  | nil => simp [cutAt?] at h
  | cons c r ih =>
    simp only [cutAt?] at h
    split at h
    · simp only [Option.some.injEq, Prod.mk.injEq] at h
      simp [← h.2]
    · obtain ⟨⟨x, y⟩, hx, he⟩ := Option.map_eq_some_iff.mp h
      simp only [Prod.mk.injEq] at he
      have := ih (he.2 ▸ hx)
      simp only [List.length_cons]
      omega

theorem length_dropWhile_le (p : Char → Bool) (s : List Char) : (s.dropWhile p).length ≤ s.length :=
  (List.dropWhile_sublist p).length_le

end MapTheme.Text
