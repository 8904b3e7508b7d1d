/-
  MapTheme.Proofs.Filter.Negation — the negation of a leaf, and leaves that negate each other.

  A tag and a test of a value have a negation, and nothing else has one. It holds exactly where the leaf does not, and
  its own negation is the leaf again, as it is written simply: a literal that is not inverted comes back as the tag
  (`simplified_cases`). So a simple leaf and its negation are a pair, in which each negates the other (`Opposite`).
-/

import MapTheme.Proofs.Filter.Meaning

namespace MapTheme

namespace Leaf

variable {a n : Leaf} {key value : String}

/-- Each leaf is the negation of the other one. -/
structure Opposite (a n : Leaf) : Prop where
  negated : a.negated? = some n
  negates : n.negated? = some a

theorem Opposite.symm (h : Opposite a n) : Opposite n a := ⟨h.negates, h.negated⟩

/-- A simplified leaf is the negation of its negation. -/
theorem opposite_of_negated? (h : a.negated? = some n) : Opposite a.simplified n := by
  cases a with
  | tag key value =>
    cases h
    exact ⟨rfl, rfl⟩
  | substituting | comparing => cases h
  | regex key value invert =>
    cases h
    cases key <;> cases value <;> cases invert <;> exact ⟨rfl, rfl⟩

theorem isSome_negated?_iff :
    a.negated?.isSome = true ↔ (∃ key value, a = tag key value) ∨ ∃ key value invert, a = regex key value invert := by
  cases a <;> simp [negated?]

/-! ## Simple leaves -/

/-- Only a literal that is not inverted is written in another way. -/
theorem simplified_cases (l : Leaf) :
    (∃ key value, l = regex (.exact key) (.exact value) false ∧ l.simplified = tag key value) ∨
      ((∀ key value, l ≠ regex (.exact key) (.exact value) false) ∧ l.simplified = l) := by
  unfold simplified
  split
  · rename_i key value
    exact .inl ⟨key, value, rfl, rfl⟩
  · rename_i hother
    exact .inr ⟨hother, rfl⟩

theorem simplified_simplified (l : Leaf) : l.simplified.simplified = l.simplified := by
  rcases simplified_cases l with ⟨key, value, -, hsimple⟩ | ⟨-, hsimple⟩
  · rw [hsimple]
    rfl
  · rw [hsimple, hsimple]

/-- A simplified leaf that fixes a value is a tag. -/
theorem eq_tag_of_fixes? (hsimple : a.simplified = a) (h : a.fixes? = some (key, value)) : a = tag key value := by
  unfold fixes? at h
  split at h
  · cases h
    rfl
  · cases h
    cases hsimple
  · cases h

/-! ## Pairs -/

namespace Opposite

variable (h : Opposite a n)
include h

/-- One of the two is inverted. -/
theorem inverted : (∃ key value, a = regex key value true) ∨ ∃ key value, n = regex key value true := by
  have hneg := h.negated
  cases a with
  | tag key value =>
    cases hneg
    exact .inr ⟨_, _, rfl⟩
  | substituting | comparing => cases hneg
  | regex key value invert =>
    cases invert with
    | true => exact .inl ⟨key, value, rfl⟩
    | false =>
      cases hneg
      exact .inr ⟨key, value, by cases key <;> cases value <;> rfl⟩

theorem simplified_eq : a.simplified = a := by
  have hagain := (opposite_of_negated? h.negated).negates
  rw [h.negates] at hagain
  exact (Option.some.inj hagain).symm

theorem holds_eq (p : Properties) : n.holds p = !a.holds p := holds_of_negated? h.negated p

theorem ne_comparing (key : String) (op : Comparison) (x : Binary64) : a ≠ comparing key op x := by
  rintro rfl
  cases h.negated

theorem singleKey?_eq : n.singleKey? = a.singleKey? := by
  have hneg := h.negated
  cases a with
  | tag => cases hneg; rfl
  | substituting | comparing => cases hneg
  | regex key value invert => cases hneg; cases key <;> cases value <;> cases invert <;> rfl

/-- The negation of presence is a literal. -/
theorem ne_present (hn : n.fixes? = none) : a ≠ present key := by
  rintro rfl
  cases h.negated
  cases hn

theorem ne : a ≠ n := by
  rintro rfl
  have hholds := h.holds_eq .empty
  cases hp : a.holds .empty <;> simp [hp] at hholds

end Opposite

end Leaf

/-! ## Filters -/

namespace Filter

variable {f g : Filter}

theorem negated?_eq_some_iff : f.negated? = some g ↔ ∃ l n : Leaf, f = leaf l ∧ g = leaf n ∧ l.negated? = some n := by
  cases f with
  | leaf l =>
    simp only [negated?, Option.map_eq_some_iff, leaf.injEq]
    constructor
    · rintro ⟨n, hn, rfl⟩
      exact ⟨l, n, rfl, rfl, hn⟩
    · rintro ⟨_, n, rfl, rfl, hn⟩
      exact ⟨n, hn, rfl⟩
  | and | or => simp [negated?]

/-- Tags and tests of values are what has a negation. It holds exactly where the leaf does not, and the negation of it
is the leaf again, but for a literal test, which comes back as the tag. -/
theorem negated?_involutive (f : Filter) :
    (f.negated?.isSome = true ↔ (∃ key value, f = tag key value) ∨ ∃ key value invert, f = leaf (.regex key value invert)) ∧
    ∀ g, f.negated? = some g →
      (∀ p, g.holds p = true ↔ f.holds p = false) ∧
      (∀ key value, f = leaf (.regex (.exact key) (.exact value) false) → g.negated? = some (tag key value)) ∧
      ((∀ key value, f ≠ leaf (.regex (.exact key) (.exact value) false)) → g.negated? = some f) := by
  constructor
  · cases f with
    | leaf l => simp only [negated?, Option.isSome_map, Leaf.isSome_negated?_iff, tag, leaf.injEq]
    | and | or => simp [negated?, tag]
  · intro g hg
    obtain ⟨l, n, rfl, rfl, hn⟩ := negated?_eq_some_iff.mp hg
    have hback : (leaf n).negated? = some (leaf l.simplified) :=
      negated?_eq_some_iff.mpr ⟨n, _, rfl, rfl, (Leaf.opposite_of_negated? hn).negates⟩
    refine ⟨fun p => ?_, ?_, fun hother => ?_⟩
    · rw [holds_of_negated? p hg, Bool.not_eq_true']
    · rintro key value ⟨rfl⟩
      exact hback
    · rcases Leaf.simplified_cases l with ⟨key, value, rfl, -⟩ | ⟨-, hsimple⟩
      · exact absurd rfl (hother key value)
      · rw [hback, hsimple]

/-- A test of any key for a name, and its negation; and a literal test, whose negation gives the tag back. -/
theorem negated?_involutive_name :
    (∃ key : Pattern, key.source = "name:.*" ∧
      (leaf (.regex (.pattern key) (.exact "Bank") false)).negated? = some (leaf (.regex (.pattern key) (.exact "Bank") true)) ∧
      (∀ p, (leaf (.regex (.pattern key) (.exact "Bank") true)).holds p = true ↔
        (leaf (.regex (.pattern key) (.exact "Bank") false)).holds p = false) ∧
      (leaf (.regex (.pattern key) (.exact "Bank") true)).negated? =
        some (leaf (.regex (.pattern key) (.exact "Bank") false))) ∧
    (leaf (.regex (.exact "name") (.exact "") true)).negated? = some (tag "name" "") ∧
    (leaf (.regex (.exact "name") (.exact "") false)).negated? = some (leaf (.regex (.exact "name") (.exact "") true)) := by
  constructor
  · obtain ⟨key, hkey⟩ := Option.isSome_iff_exists.mp
      (show ((Pattern.ofSource "name:.*").toOption.filter (·.source = "name:.*")).isSome = true by decide +kernel)
    obtain ⟨hholds, -, hback⟩ := (negated?_involutive (leaf (.regex (.pattern key) (.exact "Bank") false))).2 _ rfl
    exact ⟨key, of_decide_eq_true (Option.filter_eq_some_iff.mp hkey).2, rfl, hholds, hback (by simp)⟩
  · obtain ⟨-, hliteral, -⟩ := (negated?_involutive (leaf (.regex (.exact "name") (.exact "") false))).2 _ rfl
    exact ⟨hliteral _ _ rfl, rfl⟩

end Filter

end MapTheme
