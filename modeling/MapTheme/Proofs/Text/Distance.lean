/-
  MapTheme.Proofs.Text.Distance — the distance of two texts is the least number of edits between them.

  `cost` is the recurrence of the table, over texts that are read from their ends: so a row of the table holds the costs
  of one start of the first text against all starts of the second (`row`), and the run over the first text passes
  through these rows (`foldl_nextRow`). The recurrence spells out that many edits (`edits_cost`), and one edit changes
  it by one at most (`cost_le_of_edit`), so no chain of edits is shorter (`cost_le_of_edits`).
-/

import Mathlib.Order.Bounds.Basic
import Mathlib.Order.MinMax
import MapTheme.Text.Distance

namespace MapTheme.Text

variable {a b c : List Char} {m n : Nat}

/-! ## Edits -/

/-- One character is put in, taken out or replaced, somewhere in the text. -/
inductive Edit : List Char → List Char → Prop
  | insert (before after : List Char) (x : Char) : Edit (before ++ after) (before ++ x :: after)
  | delete (before after : List Char) (x : Char) : Edit (before ++ x :: after) (before ++ after)
  | replace (before after : List Char) (x y : Char) : Edit (before ++ x :: after) (before ++ y :: after)

/-- Edits one after the other, and how many. -/
inductive Edits : Nat → List Char → List Char → Prop
  | refl (a : List Char) : Edits 0 a a
  | step {a b c : List Char} {n : Nat} : Edit a b → Edits n b c → Edits (n + 1) a c

theorem Edit.symm (h : Edit a b) : Edit b a := by
  cases h with
  | insert before after x => exact .delete before after x
  | delete before after x => exact .insert before after x
  | replace before after x y => exact .replace before after y x

theorem Edit.cons (x : Char) (h : Edit a b) : Edit (x :: a) (x :: b) := by
  cases h with
  | insert before after y => exact .insert (x :: before) after y
  | delete before after y => exact .delete (x :: before) after y
  | replace before after y z => exact .replace (x :: before) after y z

theorem Edit.reverse (h : Edit a b) : Edit a.reverse b.reverse := by
  cases h with
  | insert before after x => simpa using Edit.insert after.reverse before.reverse x
  | delete before after x => simpa using Edit.delete after.reverse before.reverse x
  | replace before after x y => simpa using Edit.replace after.reverse before.reverse x y

namespace Edits

theorem zero_iff : Edits 0 a b ↔ a = b := by
  constructor
  · intro h
    cases h
    rfl
  · rintro rfl
    exact .refl a

theorem one (h : Edit a b) : Edits 1 a b := .step h (.refl b)

theorem trans (h : Edits m a b) (h' : Edits n b c) : Edits (m + n) a c := by
  induction h with
  | refl a => rwa [Nat.zero_add]
  | @step a b d m hedit _ ih =>
    rw [Nat.add_right_comm]
    exact .step hedit (ih h')

theorem symm (h : Edits n a b) : Edits n b a := by
  induction h with
  | refl a => exact .refl a
  | step hedit _ ih => exact ih.trans (one hedit.symm)

theorem cons (x : Char) (h : Edits n a b) : Edits n (x :: a) (x :: b) := by
  induction h with
  | refl a => exact .refl (x :: a)
  | step hedit _ ih => exact .step (hedit.cons x) ih

/-- Edits of the rest, with an edit of the first character. -/
theorem insert (y : Char) (h : Edits n a b) : Edits (n + 1) a (y :: b) := .step (.insert [] a y) (h.cons y)

theorem delete (x : Char) (h : Edits n a b) : Edits (n + 1) (x :: a) b := .step (.delete [] a x) h

theorem replace (x y : Char) (h : Edits n a b) : Edits (n + 1) (x :: a) (y :: b) :=
  .step (.replace [] a x y) (h.cons y)

theorem reverse (h : Edits n a b) : Edits n a.reverse b.reverse := by
  induction h with
  | refl a => exact .refl a.reverse
  | step hedit _ ih => exact .step hedit.reverse ih

end Edits

/-! ## The recurrence -/

/-- The recurrence of the table. -/
def cost : List Char → List Char → Nat
  | [], b => b.length
  | a, [] => a.length
  | x :: a, y :: b => min (min (cost a b + if x = y then 0 else 1) (cost a (y :: b) + 1)) (cost (x :: a) b + 1)

@[simp] theorem cost_nil_left (b : List Char) : cost [] b = b.length := by
  rw [cost]

@[simp] theorem cost_nil_right (a : List Char) : cost a [] = a.length := by
  cases a <;> simp [cost]

theorem cost_cons (x y : Char) (a b : List Char) : cost (x :: a) (y :: b) =
    min (min (cost a b + if x = y then 0 else 1) (cost a (y :: b) + 1)) (cost (x :: a) b + 1) := by
  rw [cost]

theorem edits_length (b : List Char) : Edits b.length [] b := by
  induction b with
  | nil => exact .refl []
  | cons y b ih => exact ih.insert y

/-- The recurrence counts edits. -/
theorem edits_cost (a b : List Char) : Edits (cost a b) a b := by
  fun_induction cost a b with
  | case1 b => exact edits_length b
  | case2 a => exact (edits_length a).symm
  | case3 x a y b corner up left =>
    have hfirst : Edits (cost a b + if x = y then 0 else 1) (x :: a) (y :: b) := by
      by_cases hxy : x = y
      · subst hxy
        rw [if_pos rfl]
        exact corner.cons x
      · rw [if_neg hxy]
        exact corner.replace x y
    rcases min_choice (min (cost a b + if x = y then 0 else 1) (cost a (y :: b) + 1)) (cost (x :: a) b + 1) with h | h
    · rw [h]
      rcases min_choice (cost a b + if x = y then 0 else 1) (cost a (y :: b) + 1) with h | h
      · rw [h]
        exact hfirst
      · rw [h]
        exact up.delete x
    · rw [h]
      exact left.insert y

/-! ## One edit more -/

theorem cost_le_cons_right (a b : List Char) (y : Char) : cost a (y :: b) ≤ cost a b + 1 := by
  cases a with
  | nil => simp
  | cons x a =>
    rw [cost_cons]
    omega

theorem cost_cons_le (x : Char) (a b : List Char) : cost (x :: a) b ≤ cost a b + 1 := by
  cases b with
  | nil => simp
  | cons y b =>
    rw [cost_cons]
    omega

theorem cost_le_cons (x : Char) (a b : List Char) : cost a b ≤ cost (x :: a) b + 1 := by
  induction b with
  | nil =>
    simp only [cost_nil_right, List.length_cons]
    omega
  | cons y b ih =>
    have hright := cost_le_cons_right a b y
    rw [cost_cons]
    omega

theorem cost_replace_le (x y : Char) (a b : List Char) : cost (x :: a) b ≤ cost (y :: a) b + 1 := by
  induction b with
  | nil => simp
  | cons z b ih =>
    rw [cost_cons, cost_cons]
    split <;> split <;> omega

/-- Texts that are one apart from each other stay so with the same character before them. -/
theorem cost_cons_le_cons (x : Char) (h : ∀ c, cost a c ≤ cost b c + 1) (c : List Char) :
    cost (x :: a) c ≤ cost (x :: b) c + 1 := by
  induction c with
  | nil =>
    have hnil := h []
    simp only [cost_nil_right, List.length_cons] at hnil ⊢
    omega
  | cons y c ih =>
    have hcorner := h c
    have hup := h (y :: c)
    rw [cost_cons, cost_cons]
    omega

/-- One edit makes the way to no text shorter by more than one. -/
theorem cost_le_of_edit (h : Edit a b) (c : List Char) : cost a c ≤ cost b c + 1 := by
  have hbefore : ∀ {a b : List Char}, (∀ c, cost a c ≤ cost b c + 1) →
      ∀ before c, cost (before ++ a) c ≤ cost (before ++ b) c + 1 := by
    intro a b h before
    induction before with
    | nil => exact h
    | cons x before ih => exact cost_cons_le_cons x ih
  cases h with
  | insert before after x => exact hbefore (cost_le_cons x after) before c
  | delete before after x => exact hbefore (cost_cons_le x after) before c
  | replace before after x y => exact hbefore (cost_replace_le x y after) before c

theorem cost_self (a : List Char) : cost a a = 0 := by
  induction a with
  | nil => exact cost_nil_left []
  | cons x a ih => simp [cost_cons, ih]

/-- No chain of edits is shorter than the recurrence says. -/
theorem cost_le_of_edits (h : Edits n a b) : cost a b ≤ n := by
  induction h with
  | refl a => rw [cost_self]
  | @step a b c n hedit _ ih =>
    have hone := cost_le_of_edit hedit c
    omega

/-! ## Rows of the table -/

/-- The costs of a text against `done` and against its continuations along the second text; both are read from
their ends. -/
def row (a : List Char) : (done : List Char) → List Char → List Nat
  | done, [] => [cost a done]
  | done, y :: rest => cost a done :: row a (y :: done) rest

theorem row_eq_cons (a done rest : List Char) : ∃ more, row a done rest = cost a done :: more := by
  cases rest with
  | nil => exact ⟨[], rfl⟩
  | cons y rest => exact ⟨row a (y :: done) rest, rfl⟩

theorem row_nil (done rest : List Char) : row [] done rest = List.range' done.length (rest.length + 1) := by
  induction rest generalizing done with
  | nil => simp [row]
  | cons y rest ih =>
    rw [row, ih, cost_nil_left, List.length_cons, List.length_cons]
    exact List.range'_succ.symm

/-- The rest of a row comes from the row above and the entry before it. -/
theorem rowFrom_row (x : Char) (a done rest : List Char) :
    cost (x :: a) done :: rowFrom x rest (row a done rest) (cost (x :: a) done) = row (x :: a) done rest := by
  induction rest generalizing done with
  | nil => simp [rowFrom, row]
  | cons y rest ih =>
    obtain ⟨more, hmore⟩ := row_eq_cons a (y :: done) rest
    have hnext := ih (y :: done)
    rw [row, row, hmore, rowFrom, ← hmore, ← cost_cons, hnext]

theorem nextRow_row (a b : List Char) (x : Char) : nextRow b (row a [] b) x = row (x :: a) [] b := by
  obtain ⟨more, hmore⟩ := row_eq_cons a [] b
  have hfirst : (row a [] b).headD 0 + 1 = cost (x :: a) [] := by
    rw [hmore]
    simp
  rw [nextRow, hfirst, rowFrom_row]

theorem foldl_nextRow (a done b : List Char) : a.foldl (nextRow b) (row done [] b) = row (a.reverse ++ done) [] b := by
  induction a generalizing done with
  | nil => rfl
  | cons x a ih => rw [List.foldl_cons, nextRow_row, ih, List.reverse_cons, List.append_assoc, List.singleton_append]

theorem getLastD_row (a done rest : List Char) (d : Nat) : (row a done rest).getLastD d = cost a (rest.reverse ++ done) := by
  induction rest generalizing done d with
  | nil => rfl
  | cons y rest ih => rw [row, List.getLastD_cons, ih, List.reverse_cons, List.append_assoc, List.singleton_append]

theorem distanceOf_eq_cost (a b : List Char) : distanceOf a b = cost a.reverse b.reverse := by
  have hstart : List.range (b.length + 1) = row [] [] b := by
    rw [row_nil, List.range_eq_range']
    rfl
  rw [distanceOf, hstart, foldl_nextRow, getLastD_row, List.append_nil, List.append_nil]

/-! ## The distance -/

theorem edits_distanceOf (a b : List Char) : Edits (distanceOf a b) a b := by
  have hedits := (edits_cost a.reverse b.reverse).reverse
  rwa [List.reverse_reverse, List.reverse_reverse, ← distanceOf_eq_cost] at hedits

theorem distanceOf_le_of_edits (h : Edits n a b) : distanceOf a b ≤ n := by
  rw [distanceOf_eq_cost]
  exact cost_le_of_edits h.reverse

/-- The distance is the least number of edits that turn one text into the other; so it is a metric. -/
theorem distance_isLeast (s t : String) :
    IsLeast {n | Edits n s.toList t.toList} (distance s t) ∧
      distance s t = distance t s ∧ (distance s t = 0 ↔ s = t) ∧
      ∀ u, distance s u ≤ distance s t + distance t u := by
  have hway : ∀ s t : String, Edits (distance s t) s.toList t.toList := fun s t => edits_distanceOf _ _
  have hle : ∀ {s t : String} {n : Nat}, Edits n s.toList t.toList → distance s t ≤ n := distanceOf_le_of_edits
  refine ⟨⟨hway s t, fun n hn => hle hn⟩, ?_, ?_, ?_⟩
  · exact Nat.le_antisymm (hle (hway t s).symm) (hle (hway s t).symm)
  · constructor
    · intro hzero
      have hedits := hway s t
      rw [hzero, Edits.zero_iff] at hedits
      exact String.toList_injective hedits
    · rintro rfl
      exact Nat.le_zero.mp (hle (.refl s.toList))
  · exact fun u => hle ((hway s t).trans (hway t u))

example : distance "kitten" "sitting" = 3 := by decide

end MapTheme.Text
