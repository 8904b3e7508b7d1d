/-
  MapTheme.Proofs.Text.Replacement — replacing texts one after the other, and all at once.

  `Replaced` says what replacing several texts at once gives: read from the left, where one of them begins its
  partner is put in and reading goes on behind it, and everything else is kept. There is no order among the
  pairs in it. Replacing one text after the other comes to the same as long as a text is found later exactly
  where it stood from the beginning.

  - `Replaced.and_then`: one more text is replaced as if it had been there at once, if it does not meet what was
    put in and no other text began inside it.
  - `Replaced.unique`: if no text begins with another, there is one outcome only.
-/

import Mathlib.Data.List.Infix
import MapTheme.Proofs.Text.Pieces

namespace MapTheme.Text

variable {old new s t u x : List Char} {pairs : List (List Char × List Char)}

/-! ## One text -/

theorem isSome_after?_iff : (after? old s).isSome = true ↔ old <+: s := by
  rw [Option.isSome_iff_exists]
  constructor
  · intro h
    obtain ⟨rest, h⟩ := h
    exact ⟨rest, (after?_eq_some_iff.mp h).symm⟩
  · intro h
    obtain ⟨rest, h⟩ := h
    exact ⟨rest, after?_eq_some_iff.mpr h.symm⟩

theorem contains_iff : contains old s = true ↔ old <:+: s := by
  induction s with
  | nil => simp [contains]
  | cons c r ih => rw [contains, Bool.or_eq_true, isSome_after?_iff, ih, List.infix_cons_iff]

theorem replaceFrom_nil (old new : List Char) (skip : Nat) : replaceFrom old new skip [] = [] := by
  rw [replaceFrom]

theorem replaceFrom_skip (old new x s : List Char) : replaceFrom old new x.length (x ++ s) = replaceFrom old new 0 s := by
  induction x with
  | nil => rfl
  | cons c x ih => rw [List.length_cons, List.cons_append, replaceFrom, ih]

theorem replaceFrom_append (h : old ≠ []) (new s : List Char) :
    replaceFrom old new 0 (old ++ s) = new ++ replaceFrom old new 0 s := by
  cases old with
  | nil => exact absurd rfl h
  | cons c x =>
    have hbegins := isSome_after?_iff.mpr (List.prefix_append (c :: x) s)
    rw [List.cons_append] at hbegins ⊢
    rw [replaceFrom, if_pos hbegins, List.length_cons, Nat.add_sub_cancel, replaceFrom_skip]

theorem replaceFrom_self (h : old ≠ []) (new : List Char) : replaceFrom old new 0 old = new := by
  have happend := replaceFrom_append h new []
  rwa [List.append_nil, replaceFrom_nil, List.append_nil] at happend

theorem replaceFrom_cons {c : Char} (h : ¬ old <+: c :: s) (new : List Char) :
    replaceFrom old new 0 (c :: s) = c :: replaceFrom old new 0 s := by
  rw [replaceFrom, if_neg (isSome_after?_iff.not.mpr h)]

/-- A text that is nowhere is not replaced. -/
theorem replaceFrom_of_not_infix (h : ¬ old <:+: s) (new : List Char) : replaceFrom old new 0 s = s := by
  induction s with
  | nil => exact replaceFrom_nil old new 0
  | cons c s ih =>
    rw [List.infix_cons_iff, not_or] at h
    rw [replaceFrom_cons h.1, ih h.2]

/-! ## Texts over each other -/

/-- One of the texts begins with the other. -/
def agree (s t : List Char) : Bool := s.isPrefixOf t || t.isPrefixOf s

theorem agree_iff : agree s t = true ↔ s <+: t ∨ t <+: s := by
  rw [agree, Bool.or_eq_true, List.isPrefixOf_iff_prefix, List.isPrefixOf_iff_prefix]

/-- The texts can be laid over each other, an end of one on the start of the other or one within the other, and
agree on what they share. The empty text shares nothing and meets every other. -/
def meets (s t : List Char) : Bool :=
  (s.tails.any fun x => !x.isEmpty && agree x t) || t.tails.any fun x => !x.isEmpty && agree x s

theorem meets_eq_false_iff : meets s t = false ↔
    (∀ x, x <:+ s → x ≠ [] → agree x t = false) ∧ ∀ x, x <:+ t → x ≠ [] → agree x s = false := by
  simp only [meets, Bool.or_eq_false_iff, List.any_eq_false, List.mem_tails, Bool.and_eq_true, Bool.not_eq_true',
    List.isEmpty_eq_false_iff, not_and, Bool.not_eq_true]

theorem ne_nil_of_meets (h : meets s t = false) (hs : s ≠ []) : t ≠ [] := by
  intro ht
  have hagree := (meets_eq_false_iff.mp h).1 s (List.suffix_refl s) hs
  rw [ht, Bool.eq_false_iff, ne_eq, agree_iff] at hagree
  exact hagree (.inr List.nil_prefix)

/-- Does `s` begin inside a place where `t` stands in the text? -/
def beginsInside (s t text : List Char) : Bool :=
  text.tails.any fun v => t.isPrefixOf v && (List.range t.length).any fun k => s.isPrefixOf (v.drop k)

theorem beginsInside_eq_false_iff {text : List Char} : beginsInside s t text = false ↔
    ∀ v, v <:+ text → t <+: v → ∀ k < t.length, ¬ s <+: v.drop k := by
  simp only [beginsInside, List.any_eq_false, List.mem_tails, Bool.and_eq_true, List.isPrefixOf_iff_prefix,
    List.any_eq_true, List.mem_range, not_and, not_exists]

theorem beginsInside_of_not_infix {text : List Char} (h : ¬ t <:+: text) : beginsInside s t text = false := by
  rw [beginsInside_eq_false_iff]
  intro v hv hbegins
  exact absurd (hbegins.isInfix.trans hv.isInfix) h

/-! ## At once -/

/-- The second text is the first with all old texts of the pairs replaced at once. -/
inductive Replaced (pairs : List (List Char × List Char)) : List Char → List Char → Prop
  | nil : Replaced pairs [] []
  | put {old new s t : List Char} : (old, new) ∈ pairs → Replaced pairs s t → Replaced pairs (old ++ s) (new ++ t)
  | keep {c : Char} {s t : List Char} : (∀ p ∈ pairs, ¬ p.1 <+: c :: s) → Replaced pairs s t →
      Replaced pairs (c :: s) (c :: t)

namespace Replaced

theorem refl (s : List Char) : Replaced [] s s := by
  induction s with
  | nil => exact .nil
  | cons c s ih => exact .keep (fun p hp => absurd hp List.not_mem_nil) ih

/-- The order of the pairs does not matter. -/
theorem congr {others : List (List Char × List Char)} (hmem : ∀ p, p ∈ pairs ↔ p ∈ others) (h : Replaced pairs s t) :
    Replaced others s t := by
  induction h with
  | nil => exact .nil
  | put hp _ ih => exact .put ((hmem _).mp hp) ih
  | keep hno _ ih => exact .keep (fun p hp => hno p ((hmem p).mpr hp)) ih

/-- Where no old text begins, everything is kept. -/
theorem of_kept (h : Replaced pairs (x ++ s) t) (hno : ∀ p ∈ pairs, ∀ k < x.length, ¬ p.1 <+: (x ++ s).drop k) :
    ∃ rest, t = x ++ rest ∧ Replaced pairs s rest := by
  induction x generalizing t with
  | nil => exact ⟨t, rfl, h⟩
  | cons c x ih =>
    generalize hw : c :: x ++ s = w at h
    cases h with
    | nil => cases hw
    | put hp _ => exact absurd (hw ▸ List.prefix_append _ _) (hno _ hp 0 (Nat.zero_lt_succ _))
    | keep _ hrest =>
      rw [List.cons_append] at hw
      obtain ⟨rfl, rfl⟩ := List.cons.inj hw
      obtain ⟨rest, rfl, hr⟩ := ih hrest fun p hp k hk => hno p hp (k + 1) (Nat.succ_lt_succ hk)
      exact ⟨rest, rfl, hr⟩

/-- What stands at the start of the outcome and does not reach into what is put in, stood there before. -/
theorem of_begins (h : Replaced pairs s t) (hx : x <+: t)
    (hno : ∀ p ∈ pairs, p.1 <:+: s → ∀ y, y <:+ x → y ≠ [] → agree y p.2 = false) :
    ∃ before after, s = x ++ before ∧ t = x ++ after ∧ Replaced pairs before after := by
  induction h generalizing x with
  | nil =>
    obtain rfl := List.prefix_nil.mp hx
    exact ⟨[], [], rfl, rfl, .nil⟩
  | @put old new s t hp hrest _ =>
    by_cases hempty : x = []
    · subst hempty
      exact ⟨_, _, rfl, rfl, .put hp hrest⟩
    · have hagree := hno _ hp (List.prefix_append old s).isInfix x (List.suffix_refl x) hempty
      rw [Bool.eq_false_iff, ne_eq, agree_iff] at hagree
      have hor := List.prefix_or_prefix_of_prefix hx (List.prefix_append new t)
      exact absurd hor hagree
  | keep hfirst hrest ih =>
    cases x with
    | nil => exact ⟨_, _, rfl, rfl, .keep hfirst hrest⟩
    | cons c x =>
      obtain ⟨rfl, hxt⟩ := List.cons_prefix_cons.mp hx
      obtain ⟨before, after, rfl, rfl, h⟩ := ih hxt fun p hp hin y hy =>
        hno p hp (hin.trans (List.suffix_cons c _).isInfix) y (hy.trans (List.suffix_cons c x))
      exact ⟨before, after, rfl, rfl, h⟩

/-- An old text is left over only if it was the whole text. -/
theorem eq_of_old (h : Replaced pairs s old) (hmeets : ∀ p ∈ pairs, p.1 <:+: s → meets old p.2 = false)
    (hold : old ≠ []) : s = old := by
  obtain ⟨before, after, rfl, hafter, hrest⟩ := h.of_begins (List.prefix_refl old) fun p hp hin =>
    (meets_eq_false_iff.mp (hmeets p hp hin)).1
  obtain rfl := List.self_eq_append_right.mp hafter
  generalize hw : ([] : List Char) = w at hrest
  cases hrest with
  | nil => exact List.append_nil old
  | @put first put s t hp _ =>
    have hin : first <:+: old ++ (first ++ s) := List.infix_append' old first s
    exact absurd (List.append_eq_nil_iff.mp hw.symm).1 (ne_nil_of_meets (hmeets _ hp hin) hold)
  | keep _ _ => cases hw

end Replaced

/-- What does not meet the text is passed over. -/
theorem replaceFrom_pass (h : ∀ y, y <:+ x → y ≠ [] → agree y old = false) (new s : List Char) :
    replaceFrom old new 0 (x ++ s) = x ++ replaceFrom old new 0 s := by
  induction x with
  | nil => rfl
  | cons c x ih =>
    have hno : ¬ old <+: c :: (x ++ s) := by
      intro hold
      have hagree := h (c :: x) (List.suffix_refl _) (List.cons_ne_nil c x)
      rw [Bool.eq_false_iff, ne_eq, agree_iff] at hagree
      have hor := List.prefix_or_prefix_of_prefix (List.prefix_append (c :: x) s) hold
      exact hagree hor
    rw [List.cons_append, replaceFrom_cons hno, ih fun y hy => h y (hy.trans (List.suffix_cons c x)), List.cons_append]

/-- One more text, replaced after the others, is replaced at once with them: it does not meet what they put in, so it
is found only where it stood, and none of them begins inside it, so it still stands there. -/
theorem Replaced.and_then (h : Replaced pairs s t) (hpairs : ∀ p ∈ pairs, p.1 ≠ []) (hold : old ≠ [])
    (hmeets : ∀ p ∈ pairs, p.1 <:+: s → meets old p.2 = false) (hinside : ∀ p ∈ pairs, beginsInside p.1 old s = false)
    (new : List Char) : Replaced (pairs ++ [(old, new)]) s (replaceFrom old new 0 t) := by
  induction hn : s.length using Nat.strong_induction_on generalizing s t with
  | h n ih =>
    -- the rest of a text is shorter, and nothing begins inside the old text there that did not before
    have hrest {before after : List Char} (hr : Replaced pairs before after) (hsuffix : before <:+ s)
        (hlt : before.length < s.length) :
        Replaced (pairs ++ [(old, new)]) before (replaceFrom old new 0 after) :=
      ih before.length (hn ▸ hlt) hr (fun p hp hin => hmeets p hp (hin.trans hsuffix.isInfix))
        (fun p hp => beginsInside_eq_false_iff.mpr fun v hv =>
          beginsInside_eq_false_iff.mp (hinside p hp) v (hv.trans hsuffix)) rfl
    cases h with
    | nil =>
      rw [replaceFrom_nil]
      exact .nil
    | @put first put s t hp hr =>
      rw [replaceFrom_pass (meets_eq_false_iff.mp (hmeets _ hp (List.prefix_append first s).isInfix)).2]
      have hlength : 0 < first.length := List.length_pos_iff.mpr (hpairs _ hp)
      refine .put (List.mem_append_left _ hp) (hrest hr (List.suffix_append first s) ?_)
      rw [List.length_append]
      omega
    | @keep c s t hno hr =>
      by_cases hbegins : old <+: c :: t
      · obtain ⟨before, after, hs, ht, hr⟩ := (Replaced.keep hno hr).of_begins hbegins fun p hp hin =>
          (meets_eq_false_iff.mp (hmeets p hp hin)).1
        have hlength := List.length_pos_iff.mpr hold
        have hr := hrest hr (hs ▸ List.suffix_append old before) (by rw [hs, List.length_append]; omega)
        rw [hs, ht, replaceFrom_append hold]
        exact .put (List.mem_append_right _ (List.mem_singleton.mpr rfl)) hr
      · rw [replaceFrom_cons hbegins]
        refine .keep ?_ (hrest hr (List.suffix_cons c s) (Nat.lt_succ_self _))
        intro p hp
        rcases List.mem_append.mp hp with hp | hp
        · exact hno p hp
        · rw [List.mem_singleton.mp hp]
          intro hstood
          obtain ⟨before, hs⟩ := hstood
          have hkept : ∀ p ∈ pairs, ∀ k < old.length, ¬ p.1 <+: (c :: s).drop k := fun p hp =>
            beginsInside_eq_false_iff.mp (hinside p hp) (c :: s) (List.suffix_refl _) ⟨before, hs⟩
          obtain ⟨rest, ht, -⟩ := of_kept (hs ▸ Replaced.keep hno hr) (hs ▸ hkept)
          exact hbegins (ht ▸ List.prefix_append old rest)

/-- Where no old text begins with another, there is one outcome. -/
theorem Replaced.unique (h : Replaced pairs s t) (hpairs : ∀ p ∈ pairs, p.1 ≠ [])
    (hapart : ∀ p ∈ pairs, ∀ q ∈ pairs, p.1 <+: q.1 → p = q) (hu : Replaced pairs s u) : u = t := by
  induction h generalizing u with
  | nil =>
    generalize hw : ([] : List Char) = w at hu
    cases hu with
    | nil => rfl
    | put hp _ => exact absurd (List.append_eq_nil_iff.mp hw.symm).1 (hpairs _ hp)
    | keep _ _ => cases hw
  | @put old new s t hp _ ih =>
    generalize hw : old ++ s = w at hu
    cases hu with
    | nil => exact absurd (List.append_eq_nil_iff.mp hw).1 (hpairs _ hp)
    | @put old' new' s' t' hq hrest =>
      have hsame : (old, new) = (old', new') := by
        rcases List.prefix_or_prefix_of_prefix (List.prefix_append old s) (hw ▸ List.prefix_append old' s') with hle | hle
        · exact hapart _ hp _ hq hle
        · exact (hapart _ hq _ hp hle).symm
      obtain ⟨rfl, rfl⟩ := Prod.mk.inj hsame
      obtain rfl := List.append_cancel_left hw
      rw [ih hrest]
    | keep hno _ => exact absurd (hw ▸ List.prefix_append old s) (hno _ hp)
  | @keep c s t hno _ ih =>
    generalize hw : c :: s = w at hu
    cases hu with
    | nil => cases hw
    | put hq _ => exact absurd (hw ▸ List.prefix_append _ _) (hno _ hq)
    | keep _ hrest =>
      obtain ⟨rfl, rfl⟩ := List.cons.inj hw
      rw [ih hrest]

end MapTheme.Text
