/-
  MapTheme.Proofs.Filter.Fixpoint — how far the passes over a filter are from a fixpoint.

  A pass over the whole tree makes a filter lighter, or gives one that the next pass gives back
  (`optimiseOnce_lighter`). So as many passes as the filter weighs always reach a fixpoint. The number of
  passes is bounded, and a simplified filter is simplified to itself exactly if the bound was enough
  (`optimise_again`).
-/

import MapTheme.Proofs.Filter.Factoring

namespace MapTheme.Filter

/-! ## One pass -/

/-- A pass over the whole filter gives it back. -/
def Fixed (f : Filter) : Prop := f.optimiseOnce = .filter f

theorem optimiseLeaf_fixed {l : Leaf} {g : Filter} (h : optimiseLeaf l = .filter g) :
    ∃ l', g = leaf l' ∧ optimiseLeaf l' = .filter (leaf l') ∧ (l' = l ∨ l' = l.simplified) := by
  unfold optimiseLeaf at h
  split at h
  · rename_i key p invert
    split at h
    · unfold Optimised.ofBool at h
      split at h <;> cases h
    · rename_i hsource
      cases h
      exact ⟨_, rfl, by simp [optimiseLeaf, hsource], .inl rfl⟩
  · rename_i hpattern
    cases h
    refine ⟨_, rfl, ?_, .inr rfl⟩
    cases l with
    | tag | substituting | comparing => rfl
    | regex key value invert =>
      cases key with
      | pattern p => cases value <;> rfl
      | exact key =>
        cases value with
        | pattern p => exact absurd rfl (hpattern key p invert)
        | exact value => cases invert <;> rfl

theorem optimiseConjuncts_of_fixed {fs : List Filter} (h : ∀ f ∈ fs, Fixed f) : optimiseConjuncts fs = some fs := by
  induction fs with
  | nil => rfl
  | cons f fs ih =>
    obtain ⟨hf, hrest⟩ := List.forall_mem_cons.mp h
    have hf : f.optimiseOnce = .filter f := hf
    simp only [optimiseConjuncts, hf, ih hrest, Option.map_some]

theorem optimiseBranches_of_fixed {fs : List Filter} (h : ∀ f ∈ fs, Fixed f) : optimiseBranches fs = some fs := by
  induction fs with
  | nil => rfl
  | cons f fs ih =>
    obtain ⟨hf, hrest⟩ := List.forall_mem_cons.mp h
    have hf : f.optimiseOnce = .filter f := hf
    simp only [optimiseBranches, hf, ih hrest, Option.map_some]

/-- What a pass over each of some terms gives: terms that are lighter, or as heavy and all fixed. -/
structure Passed (P : Leaf → Prop) (before after : List Filter) : Prop where
  within : ∀ f ∈ after, Within P 2 f
  lighter : total after < total before ∨ (total after = total before ∧ ∀ f ∈ after, Fixed f)

namespace Passed

variable {P : Leaf → Prop} {fs gs : List Filter} {f g : Filter}

theorem nil : Passed P [] [] := ⟨by simp, .inr ⟨rfl, by simp⟩⟩

theorem skip (h : Passed P fs gs) : Passed P (f :: fs) gs := by
  refine ⟨h.within, .inl ?_⟩
  have hpos := weight_pos f
  rw [total]
  rcases h.lighter with hlt | ⟨he, -⟩ <;> omega

theorem cons (h : Passed P fs gs) (hg : Within P 2 g)
    (hlighter : g.weight < f.weight ∨ (g.weight = f.weight ∧ Fixed g)) : Passed P (f :: fs) (g :: gs) := by
  refine ⟨List.forall_mem_cons.mpr ⟨hg, h.within⟩, ?_⟩
  rw [total, total]
  rcases hlighter with hlt | ⟨he, hfixed⟩
  · rcases h.lighter with hlt' | ⟨he, -⟩ <;> exact .inl (by omega)
  · rcases h.lighter with hlt | ⟨he', hall⟩
    · exact .inl (by omega)
    · exact .inr ⟨by omega, List.forall_mem_cons.mpr ⟨hfixed, hall⟩⟩

/-- A combination of what a pass over the terms gave, if it is fixed where they are. -/
theorem combine (h : Passed P fs gs)
    (hg : g.weight < total gs + 1 ∨ (g.weight = total gs + 1 ∧ ((∀ f ∈ gs, Fixed f) → Fixed g))) :
    g.weight < total fs + 1 ∨ (g.weight = total fs + 1 ∧ Fixed g) := by
  rcases h.lighter with hlt | ⟨he, hall⟩
  · rcases hg with hlt' | ⟨he, -⟩ <;> exact .inl (by omega)
  · rcases hg with hlt | ⟨he', hfixed⟩
    · exact .inl (by omega)
    · exact .inr ⟨by omega, hfixed hall⟩

end Passed

theorem fixed_of_simplifyAnd {P : Leaf → Prop} {terms : List Filter} {g : Filter} (h : ∀ f ∈ terms, Within P 2 f)
    (hg : simplifyAnd terms = .filter g) :
    g.weight < total terms + 1 ∨ (g.weight = total terms + 1 ∧ ((∀ f ∈ terms, Fixed f) → Fixed g)) := by
  rcases simplifyAnd_lighter h hg with hlt | ⟨gs, rfl, hperm, hkept⟩
  · exact .inl hlt
  · refine .inr ⟨by rw [weight, total_of_perm hperm], fun hall => ?_⟩
    rw [Fixed, optimiseOnce, optimiseConjuncts_of_fixed fun f hf => hall f (hperm.mem_iff.mp hf)]
    exact hkept

theorem fixed_of_simplifyOr {P : Leaf → Prop} {terms : List Filter} {g : Filter} (h : ∀ f ∈ terms, Within P 2 f)
    (hg : simplifyOr terms = .filter g) :
    g.weight < total terms + 1 ∨ (g.weight = total terms + 1 ∧ ((∀ f ∈ terms, Fixed f) → Fixed g)) := by
  rcases simplifyOr_lighter h hg with hlt | ⟨gs, rfl, hperm, hkept⟩
  · exact .inl hlt
  · refine .inr ⟨by rw [weight, total_of_perm hperm], fun hall => ?_⟩
    rw [Fixed, optimiseOnce, optimiseBranches_of_fixed fun f hf => hall f (hperm.mem_iff.mp hf)]
    exact hkept

/-- What a pass makes of a leaf with `Q` has `P`. -/
def Carries (Q P : Leaf → Prop) : Prop := ∀ {l l' : Leaf}, Q l → optimiseLeaf l = .filter (leaf l') → P l'

section OnePass

variable {P Q : Leaf → Prop}

mutual

/-- A pass makes a filter lighter, or gives one of the same weight that is fixed. -/
theorem optimiseOnce_lighter (hleaf : Carries Q P) : ∀ {f g : Filter}, Within Q 0 f → f.optimiseOnce = .filter g →
    Within P 2 g ∧ (g.weight < f.weight ∨ (g.weight = f.weight ∧ Fixed g))
  | leaf l, g, hf, h => by
    rw [optimiseOnce] at h
    obtain ⟨l', rfl, hfixed, -⟩ := optimiseLeaf_fixed h
    refine ⟨within_leaf.mpr (hleaf (within_leaf.mp hf) h), .inr ⟨by rw [weight, weight], ?_⟩⟩
    rw [Fixed, optimiseOnce]
    exact hfixed
  | and fs, g, hf, h => by
    obtain ⟨terms, hterms, hg⟩ := of_optimiseOnce_and h
    have hpassed := optimiseConjuncts_passed hleaf (within_and.mp hf).2 hterms
    rw [weight]
    exact ⟨(simplifyAnd_weight hpassed.within hg).1, hpassed.combine (fixed_of_simplifyAnd hpassed.within hg)⟩
  | or fs, g, hf, h => by
    obtain ⟨terms, hterms, hg⟩ := of_optimiseOnce_or h
    have hpassed := optimiseBranches_passed hleaf (within_or.mp hf).2 hterms
    rw [weight]
    exact ⟨(simplifyOr_simplifies P hpassed.within hg).1, hpassed.combine (fixed_of_simplifyOr hpassed.within hg)⟩

theorem optimiseConjuncts_passed (hleaf : Carries Q P) : ∀ {fs gs : List Filter}, (∀ f ∈ fs, Within Q 0 f) →
    optimiseConjuncts fs = some gs → Passed P fs gs
  | [], gs, _, h => by
    cases h
    exact .nil
  | f :: fs, gs, hf, h => by
    rw [List.forall_mem_cons] at hf
    rcases of_optimiseConjuncts_cons h with ⟨-, hrest⟩ | ⟨g, more, hg, hmore, rfl⟩
    · exact (optimiseConjuncts_passed hleaf hf.2 hrest).skip
    · obtain ⟨hwithin, hlighter⟩ := optimiseOnce_lighter hleaf hf.1 hg
      exact (optimiseConjuncts_passed hleaf hf.2 hmore).cons hwithin hlighter

theorem optimiseBranches_passed (hleaf : Carries Q P) : ∀ {fs gs : List Filter}, (∀ f ∈ fs, Within Q 0 f) →
    optimiseBranches fs = some gs → Passed P fs gs
  | [], gs, _, h => by
    cases h
    exact .nil
  | f :: fs, gs, hf, h => by
    rw [List.forall_mem_cons] at hf
    rcases of_optimiseBranches_cons h with ⟨-, hrest⟩ | ⟨g, more, hg, hmore, rfl⟩
    · exact (optimiseBranches_passed hleaf hf.2 hrest).skip
    · obtain ⟨hwithin, hlighter⟩ := optimiseOnce_lighter hleaf hf.1 hg
      exact (optimiseBranches_passed hleaf hf.2 hmore).cons hwithin hlighter

end

end OnePass

/-! ## More passes -/

variable {P : Leaf → Prop} {f g h : Filter}

mutual

theorem Within.mono {m n : Nat} (hmn : m ≤ n) : ∀ {f : Filter}, Within P n f → Within P m f
  | leaf _, h => within_leaf.mpr (within_leaf.mp h)
  | and fs, h => by
    rw [within_and] at h ⊢
    exact ⟨by omega, within_each_mono hmn h.2⟩
  | or fs, h => by
    rw [within_or] at h ⊢
    exact ⟨by omega, within_each_mono hmn h.2⟩

theorem within_each_mono {m n : Nat} (hmn : m ≤ n) : ∀ {fs : List Filter}, (∀ f ∈ fs, Within P n f) →
    ∀ f ∈ fs, Within P m f
  | [], _ => by simp
  | f :: fs, h => by
    rw [List.forall_mem_cons] at h ⊢
    exact ⟨h.1.mono hmn, within_each_mono hmn h.2⟩

end

mutual

theorem same_self (hsame : ∀ {l}, P l → l.same l = true) {n : Nat} : ∀ {f : Filter}, Within P n f → f.same f = true
  | leaf _, h => by
    rw [same]
    exact hsame (within_leaf.mp h)
  | and fs, h => by
    rw [same]
    exact sameEach_self hsame (within_and.mp h).2
  | or fs, h => by
    rw [same]
    exact sameEach_self hsame (within_or.mp h).2

theorem sameEach_self (hsame : ∀ {l}, P l → l.same l = true) {n : Nat} : ∀ {fs : List Filter},
    (∀ f ∈ fs, Within P n f) → sameEach fs fs = true
  | [], _ => rfl
  | f :: fs, h => by
    rw [List.forall_mem_cons] at h
    rw [sameEach, same_self hsame h.1, sameEach_self hsame h.2, Bool.and_self]

end

mutual

theorem within_of_parts : ∀ {f : Filter}, (∀ l, leaf l ∈ f.parts → P l) → Within P 0 f
  | leaf l, h => within_leaf.mpr (h l (by simp [parts]))
  | and fs, h => within_and.mpr ⟨Nat.zero_le _, within_of_partsOfEach fun l hl => h l (by simp [parts, hl])⟩
  | or fs, h => within_or.mpr ⟨Nat.zero_le _, within_of_partsOfEach fun l hl => h l (by simp [parts, hl])⟩

theorem within_of_partsOfEach : ∀ {fs : List Filter}, (∀ l, leaf l ∈ partsOfEach fs → P l) →
    ∀ f ∈ fs, Within P 0 f
  | [], _ => by simp
  | f :: fs, h => by
    refine List.forall_mem_cons.mpr ⟨?_, ?_⟩
    · exact within_of_parts fun l hl => h l (by simp [partsOfEach, hl])
    · exact within_of_partsOfEach fun l hl => h l (by simp [partsOfEach, hl])

end

theorem same_of_fixed (hsame : ∀ {l}, P l → l.same l = true) {n : Nat} (hf : Within P n f) (hfixed : Fixed f) :
    f.optimiseOnce.same (.filter f) = true := by
  have hfixed : f.optimiseOnce = .filter f := hfixed
  rw [hfixed]
  exact same_self hsame hf

theorem optimiseMore_of_fixed (passes : Nat) (hf : Fixed f) : optimiseMore passes (.filter f) = .filter f := by
  induction passes with
  | zero => rfl
  | succ passes ih =>
    have hf : f.optimiseOnce = .filter f := hf
    simp only [optimiseMore, hf, ih, ite_self]

/-- More passes give a filter within the same bounds that is not heavier. -/
theorem optimiseMore_weight (hP : Carries P P) (passes : Nat) (hg : Within P 2 g)
    (hmore : optimiseMore passes (.filter g) = .filter h) : Within P 2 h ∧ h.weight ≤ g.weight := by
  refine optimiseMore_keeps (fun f => Within P 2 f ∧ f.weight ≤ g.weight) ?_ ⟨hg, Nat.le_refl _⟩ hmore
  intro f next hf hnext
  obtain ⟨hwithin, hlighter⟩ := optimiseOnce_lighter hP (hf.1.mono (Nat.zero_le 2)) hnext
  refine ⟨hwithin, Nat.le_trans ?_ hf.2⟩
  rcases hlighter with hlt | ⟨he, -⟩ <;> omega

/-- So many passes as a filter weighs are enough: a further one gives back what they gave. -/
theorem fixed_of_optimiseMore (hP : Carries P P) (hsame : ∀ {l}, P l → l.same l = true) {passes : Nat}
    (hg : Within P 2 g) (hpasses : g.weight ≤ passes + 2) (hmore : optimiseMore passes (.filter g) = .filter h) :
    h.optimiseOnce.same (.filter h) = true := by
  induction passes generalizing g with
  | zero =>
    have := three_le_weight hg
    omega
  | succ passes ih =>
    rcases of_optimiseMore_succ hmore with ⟨hstop, rfl⟩ | ⟨next, hnext, hmore⟩
    · exact hstop
    · obtain ⟨hwithin, hlighter⟩ := optimiseOnce_lighter hP (hg.mono (Nat.zero_le 2)) hnext
      rcases hlighter with hlt | ⟨-, hfixed⟩
      · exact ih hwithin (by omega) hmore
      · rw [optimiseMore_of_fixed passes hfixed] at hmore
        cases hmore
        exact same_of_fixed hsame hwithin hfixed

/-- A filter is simplified to itself exactly if a single pass gives it back. -/
theorem same_optimise_iff (hP : Carries P P) (hg : Within P 2 g) :
    g.optimise.same (.filter g) = true ↔ g.optimiseOnce.same (.filter g) = true := by
  cases honce : g.optimiseOnce with
  | always | never => simp [optimise, honce, optimiseMore, Optimised.same]
  | filter next =>
    obtain ⟨hwithin, hlighter⟩ := optimiseOnce_lighter hP (hg.mono (Nat.zero_le 2)) honce
    have hrun : g.optimise = optimiseMore maxPasses (.filter next) := by rw [optimise, honce]
    rcases hlighter with hlt | ⟨-, hfixed⟩
    · constructor
      · intro hs
        cases hdone : optimiseMore maxPasses (.filter next) with
        | always | never =>
          rw [hrun, hdone] at hs
          simp only [Optimised.same, Bool.false_eq_true] at hs
        | filter done =>
          rw [hrun, hdone] at hs
          have hle := (optimiseMore_weight hP maxPasses hwithin hdone).2
          have he := weight_of_same hs
          omega
      · intro hs
        have he := weight_of_same hs
        omega
    · rw [hrun, optimiseMore_of_fixed maxPasses hfixed]

/-! ## Repeated simplification -/

theorem carries_same : Carries (fun l => l.same l = true) fun l => l.same l = true := by
  intro l l' hl h
  obtain ⟨l'', he, -, hl'⟩ := optimiseLeaf_fixed h
  obtain rfl := leaf.inj he
  rcases hl' with rfl | rfl
  · exact hl
  · unfold Leaf.simplified
    split
    · simp [Leaf.same]
    · exact hl

theorem same_self_of_ne_nan {l : Leaf} (h : ∀ key op, l ≠ .comparing key op .nan) : l.same l = true := by
  cases l with
  | comparing key op bound =>
    have hbound : bound ≠ .nan := fun he => h key op (he ▸ rfl)
    simp [Leaf.same, Binary64.eq_self_iff.mpr hbound]
  | tag | substituting | regex => simp [Leaf.same]

theorem within_of_ne_nan (hnan : ∀ key op, leaf (.comparing key op .nan) ∉ f.parts) :
    Within (fun l => l.same l = true) 0 f := by
  apply within_of_parts
  intro l hl
  apply same_self_of_ne_nan
  rintro key op rfl
  exact hnan key op hl

theorem within_optimise (hnan : ∀ key op, leaf (.comparing key op .nan) ∉ f.parts) (hg : f.optimise = .filter g) :
    Within (fun l => l.same l = true) 2 g := by
  obtain ⟨first, honce, hmore⟩ := of_optimise hg
  have hfirst := (optimiseOnce_lighter carries_same (within_of_ne_nan hnan) honce).1
  exact (optimiseMore_weight carries_same maxPasses hfirst hmore).1

/-- Simplifying again changes nothing exactly if one more pass would have changed nothing. It is so for every
filter that weighs little enough, and for every filter with as many passes as it weighs. -/
theorem optimise_again (hnan : ∀ key op, leaf (.comparing key op .nan) ∉ f.parts) (hg : f.optimise = .filter g) :
    (g.optimise.same (.filter g) = true ↔ g.optimiseOnce.same (.filter g) = true) ∧
      (f.weight ≤ maxPasses + 3 → g.optimise.same (.filter g) = true) ∧
      ∀ passes k, f.weight ≤ passes + 3 → optimiseMore passes f.optimiseOnce = .filter k →
        k.optimise.same (.filter k) = true := by
  refine ⟨same_optimise_iff carries_same (within_optimise hnan hg), ?_⟩
  cases honce : f.optimiseOnce with
  | always | never =>
    rw [optimise, honce] at hg
    cases hg
  | filter first =>
    obtain ⟨hfirst, hlighter⟩ := optimiseOnce_lighter carries_same (within_of_ne_nan hnan) honce
    have henough : ∀ passes k, f.weight ≤ passes + 3 → optimiseMore passes (.filter first) = .filter k →
        k.optimise.same (.filter k) = true := by
      intro passes k hpasses hk
      have hwithin := (optimiseMore_weight carries_same passes hfirst hk).1
      rw [same_optimise_iff carries_same hwithin]
      rcases hlighter with hlt | ⟨-, hfixed⟩
      · exact fixed_of_optimiseMore carries_same id hfirst (by omega) hk
      · rw [optimiseMore_of_fixed passes hfixed] at hk
        cases hk
        exact same_of_fixed id hfirst hfixed
    rw [optimise, honce] at hg
    exact ⟨fun hweight => henough maxPasses g hweight hg, henough⟩

def benchMatch : Filter := leaf (.regex (.exact "amenity") (.exact "bench") false)

/-- A literal match comes down to a tag, and that stays. -/
theorem optimise_again_bench :
    (∀ key op, leaf (.comparing key op .nan) ∉ benchMatch.parts) ∧
      benchMatch.optimise = .filter (tag "amenity" "bench") ∧ benchMatch.weight ≤ maxPasses + 3 ∧
      (tag "amenity" "bench").optimise.same (.filter (tag "amenity" "bench")) = true := by
  have hnan : ∀ key op, leaf (.comparing key op .nan) ∉ benchMatch.parts := by simp [benchMatch, parts]
  have hbench : benchMatch.optimise = .filter (tag "amenity" "bench") := by
    rw [optimise]
    exact optimiseMore_of_fixed maxPasses rfl
  have hweight : benchMatch.weight ≤ maxPasses + 3 := by decide
  exact ⟨hnan, hbench, hweight, (optimise_again hnan hbench).2.1 hweight⟩

end MapTheme.Filter
