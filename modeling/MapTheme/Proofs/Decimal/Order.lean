/-
  MapTheme.Proofs.Decimal.Order — the order of binary64 numbers.

  NaN has no place on the line and compares with nothing; all other numbers are ordered by their place.
-/

import MapTheme.Decimal.Binary64

namespace MapTheme.Binary64

variable {a b c : Binary64}

/-- The order of places on the extended line: the end first, then the signed magnitude. -/
def Before (x y : Int × Int) : Prop := x.1 < y.1 ∨ (x.1 = y.1 ∧ x.2 < y.2)

theorem lt_iff : a.lt b = true ↔ ∃ x y, a.position? = some x ∧ b.position? = some y ∧ Before x y := by
  unfold lt
  cases a.position? <;> cases b.position? <;> simp [Before]

theorem le_iff : a.le b = true ↔ ∃ x y, a.position? = some x ∧ b.position? = some y ∧ ¬ Before y x := by
  unfold le
  cases a.position? with
  | none => simp
  | some x =>
    cases b.position? with
    | none => simp
    | some y =>
      simp only [Bool.or_eq_true, Bool.and_eq_true, decide_eq_true_eq, beq_iff_eq, Option.some.injEq, Before]
      constructor
      · intro h; exact ⟨x, y, rfl, rfl, by omega⟩
      · rintro ⟨x', y', rfl, rfl, h⟩; omega

theorem eq_iff : a.eq b = true ↔ ∃ x, a.position? = some x ∧ b.position? = some x := by
  unfold eq
  cases a.position? with
  | none => simp
  | some x =>
    cases b.position? with
    | none => simp
    | some y =>
      simp only [beq_iff_eq, Option.some.injEq]
      exact ⟨fun h => ⟨x, rfl, h.symm⟩, fun ⟨_, hx, hy⟩ => hx.trans hy.symm⟩

/-! ## Transitivity -/

theorem le_trans (h1 : a.le b = true) (h2 : b.le c = true) : a.le c = true := by
  obtain ⟨x, y, hx, hy, h1⟩ := le_iff.mp h1
  obtain ⟨y', z, hy', hz, h2⟩ := le_iff.mp h2
  obtain rfl : y = y' := Option.some.inj (hy.symm.trans hy')
  exact le_iff.mpr ⟨x, z, hx, hz, by unfold Before at *; omega⟩

theorem lt_of_lt_of_le (h1 : a.lt b = true) (h2 : b.le c = true) : a.lt c = true := by
  obtain ⟨x, y, hx, hy, h1⟩ := lt_iff.mp h1
  obtain ⟨y', z, hy', hz, h2⟩ := le_iff.mp h2
  obtain rfl : y = y' := Option.some.inj (hy.symm.trans hy')
  exact lt_iff.mpr ⟨x, z, hx, hz, by unfold Before at *; omega⟩

theorem lt_of_le_of_lt (h1 : a.le b = true) (h2 : b.lt c = true) : a.lt c = true := by
  obtain ⟨x, y, hx, hy, h1⟩ := le_iff.mp h1
  obtain ⟨y', z, hy', hz, h2⟩ := lt_iff.mp h2
  obtain rfl : y = y' := Option.some.inj (hy.symm.trans hy')
  exact lt_iff.mpr ⟨x, z, hx, hz, by unfold Before at *; omega⟩

theorem le_of_lt (h : a.lt b = true) : a.le b = true := by
  obtain ⟨x, y, hx, hy, h⟩ := lt_iff.mp h
  exact le_iff.mpr ⟨x, y, hx, hy, by unfold Before at *; omega⟩

/-! ## Equal numbers compare alike -/

theorem position?_of_eq (h : a.eq b = true) : a.position? = b.position? := by
  obtain ⟨x, ha, hb⟩ := eq_iff.mp h
  rw [ha, hb]

theorem lt_congr_left (h : a.eq b = true) (c : Binary64) : a.lt c = b.lt c := by
  unfold lt; rw [position?_of_eq h]

theorem lt_congr_right (h : a.eq b = true) (c : Binary64) : c.lt a = c.lt b := by
  unfold lt; rw [position?_of_eq h]

theorem le_congr_left (h : a.eq b = true) (c : Binary64) : a.le c = b.le c := by
  unfold le; rw [position?_of_eq h]

theorem le_congr_right (h : a.eq b = true) (c : Binary64) : c.le a = c.le b := by
  unfold le; rw [position?_of_eq h]

/-! ## Equal numbers -/

theorem eq_of_le_of_le (h : a.le b = true) (h' : b.le a = true) : a.eq b = true := by
  obtain ⟨x, y, hx, hy, hle⟩ := le_iff.mp h
  obtain ⟨y', x', hy', hx', hle'⟩ := le_iff.mp h'
  obtain rfl := Option.some.inj (hx.symm.trans hx')
  obtain rfl := Option.some.inj (hy.symm.trans hy')
  obtain rfl : x = y := by
    unfold Before at hle hle'
    exact Prod.ext (by omega) (by omega)
  exact eq_iff.mpr ⟨x, hx, hy⟩

theorem lt_eq_false_of_le (h : a.le b = true) : b.lt a = false := by
  rw [Bool.eq_false_iff]
  intro hlt
  obtain ⟨x, y, hx, hy, hle⟩ := le_iff.mp h
  obtain ⟨y', x', hy', hx', hlt⟩ := lt_iff.mp hlt
  obtain rfl := Option.some.inj (hx.symm.trans hx')
  obtain rfl := Option.some.inj (hy.symm.trans hy')
  exact hle hlt

/-- Numbers that are equal are the same number, but for the two zeros. -/
theorem eq_of_eq (h : a.eq b = true) (ha : a ≠ .finite true 0) (hb : b ≠ .finite true 0) : a = b := by
  obtain ⟨place, hplace, hplace'⟩ := eq_iff.mp h
  have he : a.position? = b.position? := hplace.trans hplace'.symm
  cases a with
  | nan => cases hplace
  | infinite s =>
    cases b with
    | nan => cases hplace'
    | finite => cases s <;> simp [position?] at he
    | infinite s' => cases s <;> cases s' <;> simp [position?] at he ⊢
  | finite s m =>
    cases b with
    | nan => cases hplace'
    | infinite s' => cases s' <;> simp [position?] at he
    | finite s' m' =>
      cases s <;> cases s' <;>
        simp only [position?, ne_eq, finite.injEq, Option.some.injEq, Prod.mk.injEq, true_and, Bool.false_eq_true,
          Bool.true_eq_false, false_and, if_true, if_false] at he ha hb ⊢ <;> omega

end MapTheme.Binary64
