/-
  MapTheme.Proofs.Filter.Reduction — no rewrite makes terms heavier, and one that changes them makes them lighter.

  For each rewrite of a list of terms: what is left is lighter, or the very same list. Only sorting changes the
  order alone, and sorted terms stay. So repeated passes make terms lighter, or sort them and then change nothing
  more (`settle_lighter`); and so it is with a conjunction (`simplifyAnd_lighter`).
-/

import MapTheme.Proofs.Filter.Weight

namespace MapTheme.Filter

variable {P : Leaf → Prop} {fs gs hs : List Filter}

/-- What is left of terms that are within bounds is so too, and is lighter unless it is the same list. -/
structure Reduces (P : Leaf → Prop) (before after : List Filter) : Prop where
  within : ∀ f ∈ after, Within P 2 f
  lighter : total after < total before ∨ after = before

namespace Reduces

theorem refl (h : ∀ f ∈ fs, Within P 2 f) : Reduces P fs fs := ⟨h, .inr rfl⟩

theorem trans (h : Reduces P fs gs) (h' : Reduces P gs hs) : Reduces P fs hs := by
  refine ⟨h'.within, ?_⟩
  rcases h'.lighter with hlt | rfl
  · rcases h.lighter with hlt' | rfl
    · exact .inl (by omega)
    · exact .inl hlt
  · exact h.lighter

theorem le (h : Reduces P fs gs) : total gs ≤ total fs := by
  rcases h.lighter with hlt | rfl <;> omega

theorem of_lt (h : ∀ f ∈ gs, Within P 2 f) (hlt : total gs < total fs) : Reduces P fs gs := ⟨h, .inl hlt⟩

theorem of_sublist (h : ∀ f ∈ fs, Within P 2 f) (hs : gs.Sublist fs) : Reduces P fs gs :=
  ⟨fun f hf => h f (hs.subset hf), total_of_sublist hs⟩

/-- A term in front that becomes another one. -/
theorem cons {f g : Filter} (h : Reduces P fs gs) (hg : Within P 2 g) (hfg : g.weight < f.weight ∨ g = f) :
    Reduces P (f :: fs) (g :: gs) := by
  refine ⟨List.forall_mem_cons.mpr ⟨hg, h.within⟩, ?_⟩
  have hle := h.le
  rw [total, total]
  rcases hfg with hlt | rfl
  · exact .inl (by omega)
  · rcases h.lighter with hlt | rfl
    · exact .inl (by omega)
    · exact .inr rfl

/-- A term in front that becomes several lighter ones, or none. -/
theorem append {f : Filter} {more : List Filter} (h : Reduces P fs gs) (hmore : ∀ g ∈ more, Within P 2 g)
    (hlt : total more < f.weight) : Reduces P (f :: fs) (more ++ gs) := by
  refine .of_lt (List.forall_mem_append.mpr ⟨hmore, h.within⟩) ?_
  have hle := h.le
  rw [total_append, total]
  omega

theorem skip {f : Filter} (h : Reduces P fs gs) : Reduces P (f :: fs) gs :=
  h.append (List.forall_mem_nil _) (weight_pos f)

end Reduces

/-! ## Lists of terms -/

theorem flattenAnds_reduces (h : ∀ f ∈ fs, Within P 2 f) : Reduces P fs (flattenAnds fs) := by
  fun_induction flattenAnds fs with
  | case1 => exact .refl h
  | case2 inner rest ih =>
    rw [List.forall_mem_cons] at h
    exact (ih h.2).append (within_and.mp h.1).2 (by simp [weight])
  | case3 f rest _ ih =>
    rw [List.forall_mem_cons] at h
    exact (ih h.2).cons h.1 (.inr rfl)

theorem flattenOrs_reduces (h : ∀ f ∈ fs, Within P 2 f) : Reduces P fs (flattenOrs fs) := by
  fun_induction flattenOrs fs with
  | case1 => exact .refl h
  | case2 inner rest ih =>
    rw [List.forall_mem_cons] at h
    exact (ih h.2).append (within_or.mp h.1).2 (by simp [weight])
  | case3 f rest _ ih =>
    rw [List.forall_mem_cons] at h
    exact (ih h.2).cons h.1 (.inr rfl)

theorem flattenAnds_eq_flatMap (fs : List Filter) :
    flattenAnds fs = fs.flatMap fun | and inner => inner | f => [f] := by
  fun_induction flattenAnds fs with
  | case1 => rfl
  | case2 inner rest ih => rw [List.flatMap_cons, ih]
  | case3 f rest hne ih =>
    cases f with
    | and inner => exact absurd rfl (hne inner)
    | leaf l | or inner => rw [List.flatMap_cons, ih]; rfl

theorem flattenOrs_eq_flatMap (fs : List Filter) :
    flattenOrs fs = fs.flatMap fun | or inner => inner | f => [f] := by
  fun_induction flattenOrs fs with
  | case1 => rfl
  | case2 inner rest ih => rw [List.flatMap_cons, ih]
  | case3 f rest hne ih =>
    cases f with
    | or inner => exact absurd rfl (hne inner)
    | leaf l | and inner => rw [List.flatMap_cons, ih]; rfl

theorem perm_flattenAnds (h : fs.Perm gs) : (flattenAnds fs).Perm (flattenAnds gs) := by
  rw [flattenAnds_eq_flatMap, flattenAnds_eq_flatMap]
  exact h.flatMap_right _

theorem perm_flattenOrs (h : fs.Perm gs) : (flattenOrs fs).Perm (flattenOrs gs) := by
  rw [flattenOrs_eq_flatMap, flattenOrs_eq_flatMap]
  exact h.flatMap_right _

/-- Terms with nothing to flatten have nothing to flatten in any order. -/
theorem flattenAnds_of_perm (h : ∀ f ∈ gs, Within P 2 f) (hp : gs.Perm fs) (hflat : flattenAnds fs = fs) :
    flattenAnds gs = gs := by
  have htotal := total_of_perm (perm_flattenAnds hp)
  rw [hflat, ← total_of_perm hp] at htotal
  rcases (flattenAnds_reduces h).lighter with hlt | he
  · omega
  · exact he

theorem flattenOrs_of_perm (h : ∀ f ∈ gs, Within P 2 f) (hp : gs.Perm fs) (hflat : flattenOrs fs = fs) :
    flattenOrs gs = gs := by
  have htotal := total_of_perm (perm_flattenOrs hp)
  rw [hflat, ← total_of_perm hp] at htotal
  rcases (flattenOrs_reduces h).lighter with hlt | he
  · omega
  · exact he

theorem dedup_reduces (h : ∀ f ∈ fs, Within P 2 f) : Reduces P fs (dedup fs) := .of_sublist h (dedup_sublist fs)

theorem removeRedundantAfter_sublist (redundant : Filter → Filter → Bool) (kept fs : List Filter) :
    (removeRedundantAfter redundant kept fs).Sublist (kept ++ fs) := by
  fun_induction removeRedundantAfter redundant kept fs with
  | case1 kept => exact List.sublist_append_left kept []
  | case2 kept f rest _ ih => exact ih.trans (List.Sublist.append_left (List.sublist_cons_self f rest) kept)
  | case3 kept f rest _ ih =>
    rw [List.append_assoc] at ih
    exact ih

theorem removeRedundant_reduces (redundant : Filter → Filter → Bool) (h : ∀ f ∈ fs, Within P 2 f) :
    Reduces P fs (removeRedundant redundant fs) :=
  .of_sublist h (removeRedundantAfter_sublist redundant [] fs)

theorem eq_of_conjunctionOf {g : Filter} (h : conjunctionOf fs = .filter g) :
    fs = [g] ∨ (2 ≤ fs.length ∧ g = and fs) := by
  match fs, h with
  | [f], h => exact .inl (by cases h; rfl)
  | f :: f' :: rest, h => exact .inr ⟨by simp, by cases h; rfl⟩

theorem eq_of_alternativeOf {g : Filter} (h : alternativeOf fs = .filter g) :
    fs = [g] ∨ (2 ≤ fs.length ∧ g = or fs) := by
  match fs, h with
  | [f], h => exact .inl (by cases h; rfl)
  | f :: f' :: rest, h => exact .inr ⟨by simp, by cases h; rfl⟩

theorem weight_of_conjunctionOf {g : Filter} (h : conjunctionOf fs = .filter g) : g.weight ≤ total fs + 1 := by
  rcases eq_of_conjunctionOf h with rfl | ⟨-, rfl⟩
  · simp only [total]
    omega
  · simp [weight]

theorem conjunctionOf_eq_and (hnone : fs ≠ []) (hsingle : ∀ f, fs ≠ [f]) : conjunctionOf fs = .filter (and fs) := by
  match fs with
  | [] => exact absurd rfl hnone
  | [f] => exact absurd rfl (hsingle f)
  | f :: f' :: rest => rfl

theorem conjunctionOf_of_two_le (h : 2 ≤ fs.length) : conjunctionOf fs = .filter (and fs) := by
  match fs with
  | [] | [f] => simp at h
  | f :: f' :: rest => rfl

/-- A conjunction of what is left of terms is lighter than theirs, or the same. -/
theorem Reduces.conjunctionOf {g : Filter} (h : Reduces P fs gs) (hg : conjunctionOf gs = .filter g) :
    Within P 2 g ∧ (g.weight < (and fs).weight ∨ g = and fs) := by
  have hle := h.le
  rcases eq_of_conjunctionOf hg with rfl | ⟨hlength, rfl⟩
  · refine ⟨h.within g (List.mem_singleton_self g), .inl ?_⟩
    rw [total, total] at hle
    rw [weight]
    omega
  · refine ⟨within_and.mpr ⟨hlength, h.within⟩, ?_⟩
    rw [weight, weight]
    rcases h.lighter with hlt | rfl
    · exact .inl (by omega)
    · exact .inr rfl

theorem weight_of_alternativeOf {g : Filter} (h : alternativeOf fs = .filter g) : g.weight ≤ total fs + 1 := by
  rcases eq_of_alternativeOf h with rfl | ⟨-, rfl⟩
  · simp only [total]
    omega
  · simp [weight]

theorem alternativeOf_of_two_le (h : 2 ≤ fs.length) : alternativeOf fs = .filter (or fs) := by
  match fs with
  | [] | [f] => simp at h
  | f :: f' :: rest => rfl

theorem Reduces.alternativeOf {g : Filter} (h : Reduces P fs gs) (hg : alternativeOf gs = .filter g) :
    Within P 2 g ∧ (g.weight < (or fs).weight ∨ g = or fs) := by
  have hle := h.le
  rcases eq_of_alternativeOf hg with rfl | ⟨hlength, rfl⟩
  · refine ⟨h.within g (List.mem_singleton_self g), .inl ?_⟩
    rw [total, total] at hle
    rw [weight]
    omega
  · refine ⟨within_or.mpr ⟨hlength, h.within⟩, ?_⟩
    rw [weight, weight]
    rcases h.lighter with hlt | rfl
    · exact .inl (by omega)
    · exact .inr rfl

/-! ## Known values -/

theorem eq_of_assumeLeaf {known : Known} {l : Leaf} {g : Filter} (h : assumeLeaf known l = .filter g) : g = leaf l := by
  unfold assumeLeaf at h
  split at h
  · cases h
    rfl
  · split at h
    · cases h
      rfl
    · unfold Optimised.ofBool at h
      split at h <;> cases h

mutual

theorem assume_reduces (known : Known) : ∀ {f g : Filter}, Within P 2 f → assume known f = .filter g →
    Within P 2 g ∧ (g.weight < f.weight ∨ g = f)
  | leaf l, g, hf, h => by
    rw [assume] at h
    obtain rfl := eq_of_assumeLeaf h
    exact ⟨hf, .inr rfl⟩
  | and fs, g, hf, h => by
    obtain ⟨kept, hkept, hg⟩ := of_assume_and h
    exact (assumeAll_reduces known (within_and.mp hf).2 hkept).conjunctionOf hg
  | or fs, g, hf, h => by
    obtain ⟨kept, hkept, hg⟩ := of_assume_or h
    exact (assumeAny_reduces known (within_or.mp hf).2 hkept).alternativeOf hg

theorem assumeAll_reduces (known : Known) : ∀ {fs kept : List Filter}, (∀ f ∈ fs, Within P 2 f) →
    assumeAll known fs = some kept → Reduces P fs kept
  | [], kept, h, hkept => by
    cases hkept
    exact .refl h
  | f :: fs, kept, h, hkept => by
    rw [List.forall_mem_cons] at h
    rcases of_assumeAll_cons hkept with ⟨-, hrest⟩ | ⟨g, more, hf, hmore, rfl⟩
    · exact (assumeAll_reduces known h.2 hrest).skip
    · obtain ⟨hg, hlighter⟩ := assume_reduces known h.1 hf
      exact (assumeAll_reduces known h.2 hmore).cons hg hlighter

theorem assumeAny_reduces (known : Known) : ∀ {fs kept : List Filter}, (∀ f ∈ fs, Within P 2 f) →
    assumeAny known fs = some kept → Reduces P fs kept
  | [], kept, h, hkept => by
    cases hkept
    exact .refl h
  | f :: fs, kept, h, hkept => by
    rw [List.forall_mem_cons] at h
    rcases of_assumeAny_cons hkept with ⟨-, hrest⟩ | ⟨g, more, hf, hmore, rfl⟩
    · exact (assumeAny_reduces known h.2 hrest).skip
    · obtain ⟨hg, hlighter⟩ := assume_reduces known h.1 hf
      exact (assumeAny_reduces known h.2 hmore).cons hg hlighter

end

theorem applyKnown_reduces (known : Known) {kept : List Filter} (h : ∀ f ∈ fs, Within P 2 f)
    (hkept : applyKnown known fs = some kept) : Reduces P fs kept := by
  fun_induction applyKnown known fs generalizing kept with
  | case1 =>
    cases hkept
    exact .refl h
  | case2 key value rest ih =>
    rw [List.forall_mem_cons] at h
    obtain ⟨more, hmore, rfl⟩ := Option.map_eq_some_iff.mp hkept
    exact (ih h.2 hmore).cons h.1 (.inr rfl)
  | case3 f rest _ _ ih =>
    rw [List.forall_mem_cons] at h
    exact (ih h.2 hkept).skip
  | case4 => cases hkept
  | case5 f rest _ g hf ih =>
    rw [List.forall_mem_cons] at h
    obtain ⟨more, hmore, rfl⟩ := Option.map_eq_some_iff.mp hkept
    obtain ⟨hg, hlighter⟩ := assume_reduces known h.1 hf
    exact (ih h.2 hmore).cons hg hlighter

/-! ## Pruning -/

theorem pruneBy_reduces (negations : List Filter) {kept : List Filter} (h : ∀ f ∈ fs, Within P 2 f)
    (hkept : pruneBy negations fs = some kept) : Reduces P fs kept := by
  fun_induction pruneBy negations fs generalizing kept with
  | case1 =>
    cases hkept
    exact .refl h
  | case2 => cases hkept
  | case3 conjuncts rest inner hfilter ih =>
    rw [List.forall_mem_cons] at h
    obtain ⟨more, hmore, rfl⟩ := Option.map_eq_some_iff.mp hkept
    have hmem : or inner ∈ conjuncts := (List.mem_filter.mp (hfilter ▸ List.mem_singleton_self (or inner))).1
    have hle := weight_le_total hmem
    refine (ih h.2 hmore).append (within_or.mp ((within_and.mp h.1).2 _ hmem)).2 ?_
    rw [weight] at hle
    rw [weight]
    omega
  | case4 conjuncts rest single _ hfilter ih =>
    rw [List.forall_mem_cons] at h
    obtain ⟨more, hmore, rfl⟩ := Option.map_eq_some_iff.mp hkept
    have hmem : single ∈ conjuncts := (List.mem_filter.mp (hfilter ▸ List.mem_singleton_self single)).1
    have hle := weight_le_total hmem
    refine (ih h.2 hmore).cons ((within_and.mp h.1).2 _ hmem) (.inl ?_)
    rw [weight]
    omega
  | case5 conjuncts rest hnone _ hsingle ih =>
    rw [List.forall_mem_cons] at h
    obtain ⟨more, hmore, rfl⟩ := Option.map_eq_some_iff.mp hkept
    have hkept := Reduces.of_sublist (within_and.mp h.1).2
      (List.filter_sublist (p := fun c => !negations.any (·.implies c)))
    obtain ⟨hwithin, hlighter⟩ := hkept.conjunctionOf (conjunctionOf_eq_and hnone hsingle)
    exact (ih h.2 hmore).cons hwithin hlighter
  | case6 f rest _ ih =>
    rw [List.forall_mem_cons] at h
    obtain ⟨more, hmore, rfl⟩ := Option.map_eq_some_iff.mp hkept
    exact (ih h.2 hmore).cons h.1 (.inr rfl)

theorem pruneKnownFalse_reduces {kept : List Filter} (h : ∀ f ∈ fs, Within P 2 f)
    (hkept : pruneKnownFalse fs = some kept) : Reduces P fs kept := by
  rcases of_pruneKnownFalse hkept with ⟨-, rfl⟩ | hpruned
  · exact .refl h
  · exact pruneBy_reduces _ h hpruned

/-! ## Passes -/

/-- A pass over terms drops those that are there twice, changes the others, and sorts what is left. -/
def Pass (P : Leaf → Prop) (step : List Filter → Option (List Filter)) : Prop :=
  ∀ {fs gs : List Filter}, (∀ f ∈ fs, Within P 2 f) → step fs = some gs →
    ∃ kept, Reduces P (dedup fs) kept ∧ gs = sort kept

section Passes

variable {step : List Filter → Option (List Filter)}

theorem Pass.within (hstep : Pass P step) (h : ∀ f ∈ fs, Within P 2 f) (hs : step fs = some gs) :
    (∀ g ∈ gs, Within P 2 g) ∧ total gs ≤ total (dedup fs) := by
  obtain ⟨kept, hkept, rfl⟩ := hstep h hs
  refine ⟨fun g hg => hkept.within g ((perm_sort kept).mem_iff.mp hg), ?_⟩
  rw [total_of_perm (perm_sort kept)]
  exact hkept.le

theorem Pass.lighter (hstep : Pass P step) (h : ∀ f ∈ fs, Within P 2 f) (hs : step fs = some gs) :
    total gs < total fs ∨ (gs = sort fs ∧ Apart fs) := by
  obtain ⟨kept, hkept, rfl⟩ := hstep h hs
  rw [total_of_perm (perm_sort kept)]
  have hdedup := total_of_sublist (dedup_sublist fs)
  rcases hkept.lighter with hlt | rfl
  · have hle := total_le_of_sublist (dedup_sublist fs)
    exact .inl (by omega)
  · rcases hdedup with hlt | he
    · exact .inl hlt
    · exact .inr ⟨by rw [he], he ▸ apart_dedup fs⟩

theorem total_dedup_le (fs : List Filter) : total (dedup fs) ≤ total fs := total_le_of_sublist (dedup_sublist fs)

theorem within_settle (hstep : Pass P step) (passes : Nat) (h : ∀ f ∈ fs, Within P 2 f)
    (hs : settle step passes fs = some gs) : (∀ g ∈ gs, Within P 2 g) ∧ total gs ≤ total fs := by
  refine settle_keeps (fun terms => (∀ g ∈ terms, Within P 2 g) ∧ total terms ≤ total fs) ?_ ⟨h, Nat.le_refl _⟩ hs
  intro terms next hterms hnext
  obtain ⟨hwithin, hle⟩ := hstep.within hterms.1 hnext
  have hle' := total_dedup_le terms
  have hle'' := hterms.2
  exact ⟨hwithin, by omega⟩

/-- After the first pass only what it leaves counts. -/
theorem total_settle_le_of_step (hstep : Pass P step) {passes : Nat} {next : List Filter}
    (h : ∀ f ∈ fs, Within P 2 f) (hnext : step fs = some next) (hs : settle step (passes + 1) fs = some gs) :
    total gs ≤ total next := by
  obtain ⟨next', hnext', hend⟩ := of_settle_succ hs
  obtain rfl := Option.some.inj (hnext.symm.trans hnext')
  rcases hend with ⟨-, rfl⟩ | ⟨-, hrest⟩
  · exact Nat.le_refl _
  · exact (within_settle hstep passes (hstep.within h hnext).1 hrest).2

/-- So no term counts twice. -/
theorem total_settle_le (hstep : Pass P step) {passes : Nat} (hpasses : 1 ≤ passes) (h : ∀ f ∈ fs, Within P 2 f)
    (hs : settle step passes fs = some gs) : total gs ≤ total (dedup fs) := by
  obtain ⟨passes, rfl⟩ := Nat.exists_eq_add_of_le' hpasses
  obtain ⟨next, hnext, -⟩ := of_settle_succ hs
  exact Nat.le_trans (total_settle_le_of_step hstep h hnext hs) (hstep.within h hnext).2

/-- Repeated passes make sorted terms lighter, or change nothing. -/
theorem settle_sorted (hstep : Pass P step) {passes : Nat} (h : ∀ f ∈ fs, Within P 2 f) (hsorted : sort fs = fs)
    (hs : settle step (passes + 1) fs = some gs) : total gs < total fs ∨ (gs = fs ∧ step fs = some fs) := by
  obtain ⟨next, hnext, -⟩ := of_settle_succ hs
  have hle := total_settle_le_of_step hstep h hnext hs
  rcases hstep.lighter h hnext with hlt | ⟨rfl, -⟩
  · exact .inl (by omega)
  · rw [hsorted] at hnext
    rw [settle_of_fixed _ hnext] at hs
    exact .inr ⟨(Option.some.inj hs).symm, hnext⟩

/-- Repeated passes make terms lighter, or put them into an order that a further pass does not change. -/
theorem settle_lighter (hstep : Pass P step) {passes : Nat} (hpasses : 2 ≤ passes) (h : ∀ f ∈ fs, Within P 2 f)
    (hs : settle step passes fs = some gs) : total gs < total fs ∨ (gs.Perm fs ∧ step gs = some gs) := by
  obtain ⟨passes, rfl⟩ := Nat.exists_eq_add_of_le' hpasses
  obtain ⟨next, hnext, hend⟩ := of_settle_succ hs
  have hle := total_settle_le_of_step hstep h hnext hs
  rcases hstep.lighter h hnext with hlt | ⟨rfl, hapart⟩
  · exact .inl (by omega)
  have hperm := perm_sort fs
  rcases hend with ⟨hsame, rfl⟩ | ⟨-, hrest⟩
  · rw [eq_of_sameEach_of_perm hapart hperm hsame] at hnext ⊢
    exact .inr ⟨.refl fs, hnext⟩
  · have htotal := total_of_perm hperm
    rcases settle_sorted hstep (hstep.within h hnext).1 (sort_sort fs) hrest with hlt | ⟨rfl, hfixed⟩
    · exact .inl (by omega)
    · exact .inr ⟨hperm, hfixed⟩

/-- Terms of which nested ones were flattened before the passes become lighter, or are the same, in another order. -/
theorem settle_flattened (hstep : Pass P step) {flat : List Filter} (hflat : Reduces P fs flat)
    (hs : settle step maxPasses flat = some gs) :
    total gs < total fs ∨ (flat = fs ∧ gs.Perm fs ∧ step gs = some gs) := by
  rcases settle_lighter hstep (by decide) hflat.within hs with hlt | ⟨hperm, hfixed⟩
  · have hle := hflat.le
    exact .inl (by omega)
  · have htotal := total_of_perm hperm
    rcases hflat.lighter with hlt | rfl
    · exact .inl (by omega)
    · exact .inr ⟨rfl, hperm, hfixed⟩

end Passes

/-! ## Conjunctions -/

theorem andPass_pass : Pass P andPass := by
  intro fs gs h hs
  obtain ⟨known, next, happly, rfl⟩ := of_andPass hs
  have happlied := applyKnown_reduces known (dedup_reduces h).within happly
  have hflat := flattenAnds_reduces happlied.within
  have htwice := dedup_reduces hflat.within
  have hkept := removeRedundant_reduces (fun candidate other => other.implies candidate) htwice.within
  exact ⟨_, ((happlied.trans hflat).trans htwice).trans hkept, rfl⟩

theorem simplifyAnd_weight {g : Filter} (h : ∀ f ∈ fs, Within P 2 f) (hg : simplifyAnd fs = .filter g) :
    Within P 2 g ∧ g.weight ≤ total (dedup (flattenAnds fs)) + 1 := by
  have hflat := flattenAnds_reduces h
  obtain ⟨gs, hs, hg⟩ := of_simplifyAnd hg
  have hwithin := (within_settle andPass_pass maxPasses hflat.within hs).1
  have hle := total_settle_le andPass_pass (by decide) hflat.within hs
  have hweight := weight_of_conjunctionOf hg
  exact ⟨((Reduces.refl hwithin).conjunctionOf hg).1, by omega⟩

/-- A conjunction becomes lighter, or a conjunction of the same terms that stays as it is. -/
theorem simplifyAnd_lighter {g : Filter} (h : ∀ f ∈ fs, Within P 2 f) (hg : simplifyAnd fs = .filter g) :
    g.weight < total fs + 1 ∨ ∃ gs, g = and gs ∧ gs.Perm fs ∧ simplifyAnd gs = .filter g := by
  have hflat := flattenAnds_reduces h
  obtain ⟨gs, hs, hg⟩ := of_simplifyAnd hg
  have hle := weight_of_conjunctionOf hg
  rcases settle_flattened andPass_pass hflat hs with hlt | ⟨he, hperm, hfixed⟩
  · exact .inl (by omega)
  · rcases eq_of_conjunctionOf hg with rfl | ⟨-, rfl⟩
    · have htotal := total_of_perm hperm
      simp only [total] at htotal
      exact .inl (by omega)
    · have hwithin := (within_settle andPass_pass maxPasses hflat.within hs).1
      refine .inr ⟨gs, rfl, hperm, ?_⟩
      rw [simplifyAnd, flattenAnds_of_perm hwithin hperm he, settle_of_fixed maxPasses hfixed]
      exact hg

end MapTheme.Filter
