/-
  MapTheme.Proofs.Filter.Shape — a simplified filter has no more leaves, and no combination of fewer than two.

  No step invents a leaf. Flattening and sorting move leaves, and the other steps leave some out: also factoring,
  which writes once what stood in every branch. So, counted with repetition, the leaves of what is left are among
  those that there were (`settle_leaves`, `simplifyAnd_leaves`, `simplifyOr_leaves`). Only a pass over a leaf
  changes it, and then once: a literal match becomes a tag (`optimise_leaves`). So no key is read that was not read
  before (`optimise_keysRead`).

  That every combination keeps two terms holds wherever combinations are built, and what a pass over a leaf gives
  stays as it is in the next pass (`within_simple`).
-/

import MapTheme.Proofs.Filter.Opposites
import Mathlib.Data.List.Flatten
import Mathlib.Data.List.Perm.Subperm

namespace MapTheme.Filter

/-! ## Leaves -/

mutual

/-- The leaves of a filter from left to right, each as often as it is there. -/
def leaves : Filter → List Leaf
  | leaf l => [l]
  | and fs => leavesOfEach fs
  | or fs => leavesOfEach fs

def leavesOfEach : List Filter → List Leaf
  | [] => []
  | f :: fs => leaves f ++ leavesOfEach fs

end

variable {fs gs hs : List Filter} {f g : Filter} {known : Known}

mutual

theorem mem_leaves {l : Leaf} : ∀ {f : Filter}, l ∈ f.leaves ↔ leaf l ∈ f.parts
  | leaf m => by simp [leaves, parts]
  | and fs => by simp [leaves, parts, mem_leavesOfEach]
  | or fs => by simp [leaves, parts, mem_leavesOfEach]

theorem mem_leavesOfEach {l : Leaf} : ∀ {fs : List Filter}, l ∈ leavesOfEach fs ↔ leaf l ∈ partsOfEach fs
  | [] => by simp [leavesOfEach, partsOfEach]
  | f :: fs => by rw [leavesOfEach, partsOfEach, List.mem_append, List.mem_append, mem_leaves, mem_leavesOfEach]

end

theorem leavesOfEach_eq_flatMap (fs : List Filter) : leavesOfEach fs = fs.flatMap leaves := by
  induction fs with
  | nil => rfl
  | cons f fs ih => rw [leavesOfEach, ih, List.flatMap_cons]

@[simp] theorem leavesOfEach_append (fs gs : List Filter) :
    leavesOfEach (fs ++ gs) = leavesOfEach fs ++ leavesOfEach gs := by
  simp only [leavesOfEach_eq_flatMap, List.flatMap_append]

theorem leavesOfEach_singleton (f : Filter) : leavesOfEach [f] = f.leaves := by
  rw [leavesOfEach, leavesOfEach, List.append_nil]

theorem leavesOfEach_sublist (h : fs.Sublist gs) : (leavesOfEach fs).Sublist (leavesOfEach gs) := by
  rw [leavesOfEach_eq_flatMap, leavesOfEach_eq_flatMap]
  exact h.flatMap leaves

theorem leavesOfEach_subperm (h : fs.Subperm gs) : (leavesOfEach fs).Subperm (leavesOfEach gs) := by
  obtain ⟨hs, hperm, hsub⟩ := h
  refine List.Subperm.trans ?_ (leavesOfEach_sublist hsub).subperm
  rw [leavesOfEach_eq_flatMap, leavesOfEach_eq_flatMap]
  exact (hperm.symm.flatMap_right leaves).subperm

theorem leavesOfEach_perm (h : fs.Perm gs) : (leavesOfEach fs).Perm (leavesOfEach gs) := by
  rw [leavesOfEach_eq_flatMap, leavesOfEach_eq_flatMap]
  exact h.flatMap_right leaves

theorem leavesOfEach_flattenAnds (fs : List Filter) : leavesOfEach (flattenAnds fs) = leavesOfEach fs := by
  fun_induction flattenAnds fs with
  | case1 => rfl
  | case2 inner rest ih => rw [leavesOfEach_append, ih, leavesOfEach, leaves]
  | case3 f rest _ ih => rw [leavesOfEach, ih, leavesOfEach]

theorem leavesOfEach_flattenOrs (fs : List Filter) : leavesOfEach (flattenOrs fs) = leavesOfEach fs := by
  fun_induction flattenOrs fs with
  | case1 => rfl
  | case2 inner rest ih => rw [leavesOfEach_append, ih, leavesOfEach, leaves]
  | case3 f rest _ ih => rw [leavesOfEach, ih, leavesOfEach]

theorem leaves_of_conjunctionOf (h : conjunctionOf fs = .filter g) : g.leaves = leavesOfEach fs := by
  rcases eq_of_conjunctionOf h with rfl | ⟨-, rfl⟩
  · rw [leavesOfEach_singleton]
  · rw [leaves]

theorem leaves_of_alternativeOf (h : alternativeOf fs = .filter g) : g.leaves = leavesOfEach fs := by
  rcases eq_of_alternativeOf h with rfl | ⟨-, rfl⟩
  · rw [leavesOfEach_singleton]
  · rw [leaves]

/-! ## Known values -/

mutual

theorem assume_leaves (known : Known) : ∀ {f g : Filter}, assume known f = .filter g → g.leaves.Sublist f.leaves
  | leaf l, g, h => by
    rw [assume] at h
    rw [eq_of_assumeLeaf h]
  | and fs, g, h => by
    obtain ⟨kept, hkept, hg⟩ := of_assume_and h
    rw [leaves_of_conjunctionOf hg, leaves]
    exact assumeAll_leaves known hkept
  | or fs, g, h => by
    obtain ⟨kept, hkept, hg⟩ := of_assume_or h
    rw [leaves_of_alternativeOf hg, leaves]
    exact assumeAny_leaves known hkept

theorem assumeAll_leaves (known : Known) : ∀ {fs kept : List Filter}, assumeAll known fs = some kept →
    (leavesOfEach kept).Sublist (leavesOfEach fs)
  | [], kept, h => by
    cases h
    exact .refl _
  | f :: fs, kept, h => by
    rw [leavesOfEach]
    rcases of_assumeAll_cons h with ⟨-, hrest⟩ | ⟨g, more, hf, hmore, rfl⟩
    · exact (assumeAll_leaves known hrest).trans (List.sublist_append_right _ _)
    · exact (assume_leaves known hf).append (assumeAll_leaves known hmore)

theorem assumeAny_leaves (known : Known) : ∀ {fs kept : List Filter}, assumeAny known fs = some kept →
    (leavesOfEach kept).Sublist (leavesOfEach fs)
  | [], kept, h => by
    cases h
    exact .refl _
  | f :: fs, kept, h => by
    rw [leavesOfEach]
    rcases of_assumeAny_cons h with ⟨-, hrest⟩ | ⟨g, more, hf, hmore, rfl⟩
    · exact (assumeAny_leaves known hrest).trans (List.sublist_append_right _ _)
    · exact (assume_leaves known hf).append (assumeAny_leaves known hmore)

end

theorem applyKnown_leaves (h : applyKnown known fs = some gs) : (leavesOfEach gs).Sublist (leavesOfEach fs) := by
  fun_induction applyKnown known fs generalizing gs with
  | case1 =>
    cases h
    exact .refl _
  | case2 key value rest ih =>
    obtain ⟨more, hmore, rfl⟩ := Option.map_eq_some_iff.mp h
    exact (List.Sublist.refl _).append (ih hmore)
  | case3 f rest _ _ ih => exact (ih h).trans (List.sublist_append_right _ _)
  | case4 => cases h
  | case5 f rest _ g hf ih =>
    obtain ⟨more, hmore, rfl⟩ := Option.map_eq_some_iff.mp h
    exact (assume_leaves known hf).append (ih hmore)

/-! ## Pruning -/

theorem pruneBy_leaves {negations : List Filter} (h : pruneBy negations fs = some gs) :
    (leavesOfEach gs).Sublist (leavesOfEach fs) := by
  fun_induction pruneBy negations fs generalizing gs with
  | case1 =>
    cases h
    exact .refl _
  | case2 => cases h
  | case3 conjuncts rest inner hfilter ih =>
    obtain ⟨more, hmore, rfl⟩ := Option.map_eq_some_iff.mp h
    have hsub := leavesOfEach_sublist (hfilter ▸ List.filter_sublist (l := conjuncts))
    rw [leavesOfEach_singleton, leaves] at hsub
    rw [leavesOfEach_append, leavesOfEach, leaves]
    exact hsub.append (ih hmore)
  | case4 conjuncts rest single _ hfilter ih =>
    obtain ⟨more, hmore, rfl⟩ := Option.map_eq_some_iff.mp h
    have hsub := leavesOfEach_sublist (hfilter ▸ List.filter_sublist (l := conjuncts))
    rw [leavesOfEach_singleton] at hsub
    rw [leavesOfEach, leavesOfEach, leaves]
    exact hsub.append (ih hmore)
  | case5 conjuncts rest _ _ _ ih =>
    obtain ⟨more, hmore, rfl⟩ := Option.map_eq_some_iff.mp h
    rw [leavesOfEach, leavesOfEach, leaves, leaves]
    exact (leavesOfEach_sublist List.filter_sublist).append (ih hmore)
  | case6 f rest _ ih =>
    obtain ⟨more, hmore, rfl⟩ := Option.map_eq_some_iff.mp h
    exact (List.Sublist.refl _).append (ih hmore)

theorem pruneKnownFalse_leaves (h : pruneKnownFalse fs = some gs) :
    (leavesOfEach gs).Sublist (leavesOfEach fs) := by
  rcases of_pruneKnownFalse h with ⟨-, rfl⟩ | hpruned
  · exact .refl _
  · exact pruneBy_leaves hpruned

/-! ## Passes -/

/-- What is left of terms has, counted with repetition, only leaves that they have. -/
def Keeps (step : List Filter → Option (List Filter)) : Prop :=
  ∀ {fs gs : List Filter}, step fs = some gs → (leavesOfEach gs).Subperm (leavesOfEach fs)

theorem settle_leaves {step : List Filter → Option (List Filter)} (hstep : Keeps step) (passes : Nat)
    (h : settle step passes fs = some gs) : (leavesOfEach gs).Subperm (leavesOfEach fs) :=
  settle_keeps (fun terms => (leavesOfEach terms).Subperm (leavesOfEach fs))
    (fun hkept hnext => (hstep hnext).trans hkept) (.refl _) h

theorem andPass_leaves : Keeps andPass := by
  intro fs gs h
  obtain ⟨known, next, happly, rfl⟩ := of_andPass h
  have hkept := removeRedundantAfter_sublist (fun candidate other => other.implies candidate) []
    (dedup (flattenAnds next))
  have hleft := leavesOfEach_sublist (hkept.trans (dedup_sublist _))
  rw [leavesOfEach_flattenAnds] at hleft
  have hdedup := leavesOfEach_sublist (dedup_sublist fs)
  exact (leavesOfEach_perm (perm_sort _)).subperm.trans ((hleft.trans (applyKnown_leaves happly)).trans hdedup).subperm

theorem simplifyAnd_leaves (h : simplifyAnd fs = .filter g) : g.leaves.Subperm (leavesOfEach fs) := by
  obtain ⟨terms, hterms, hg⟩ := of_simplifyAnd h
  rw [leaves_of_conjunctionOf hg, ← leavesOfEach_flattenAnds fs]
  exact settle_leaves andPass_leaves maxPasses hterms

/-! ## Factoring -/

theorem perm_plain_append (terms : List Filter) :
    (terms.filter (!·.isAnd) ++ terms.filter (·.isAnd)).Perm terms :=
  List.perm_append_comm.trans (List.filter_append_perm isAnd terms)

theorem leavesOfEach_conjunctions (terms : List Filter) :
    leavesOfEach (terms.filter (·.isAnd)) = leavesOfEach (terms.filterMap conjunctsOf?).flatten := by
  induction terms with
  | nil => rfl
  | cons f rest ih =>
    cases f with
    | leaf l | or inner => exact ih
    | and inner =>
      have hfilter : (and inner :: rest).filter (·.isAnd) = and inner :: rest.filter (·.isAnd) := rfl
      have hlists : (and inner :: rest).filterMap conjunctsOf? = inner :: rest.filterMap conjunctsOf? := rfl
      rw [hfilter, hlists, List.flatten_cons, leavesOfEach_append, leavesOfEach, leaves, ih]

/-- What all lists have and what the first one has beside it is in the first one. -/
theorem common_append_rest {first : List Filter} {others : List (List Filter)}
    (hself : ∀ c ∈ commonOf (first :: others), c.same c = true) :
    (commonOf (first :: others) ++ first.filter (!memberOf (commonOf (first :: others)) ·)).Subperm first := by
  generalize hcommon : commonOf (first :: others) = common at hself ⊢
  have hmember : ∀ c ∈ common, memberOf common c = true := fun c hc => memberOf_iff.mpr ⟨c, hc, hself c hc⟩
  have hsub : common.Sublist (first.filter (memberOf common ·)) := by
    have hfirst := (hcommon ▸ List.filter_sublist : common.Sublist first).filter (memberOf common ·)
    rwa [List.filter_eq_self.mpr hmember] at hfirst
  exact (hsub.append (.refl _)).subperm.trans (List.filter_append_perm (memberOf common) first).subperm

/-- Factoring takes what is common from the first branch, and leaves of each branch the rest. -/
theorem factored_leaves {f : Factored} (h : factorCommonConjuncts fs = some f) :
    (leavesOfEach (f.plain ++ (f.common ++ f.rests.flatten))).Subperm (leavesOfEach fs) := by
  have hform := factoredFrom_of_eq h
  have hself : ∀ c ∈ f.common, c.same c = true := fun c hc => hform.same_self hc
  have hlists : (f.common ++ f.rests.flatten).Subperm (fs.filterMap conjunctsOf?).flatten := by
    have hseveral := hform.several
    rw [hform.rests]
    rw [hform.common] at hself ⊢
    generalize fs.filterMap conjunctsOf? = lists at *
    cases lists with
    | nil => cases hseveral
    | cons first others =>
      rw [List.map_cons, List.flatten_cons, List.flatten_cons, ← List.append_assoc]
      refine (common_append_rest hself).append (List.Sublist.subperm ?_)
      rw [← List.flatMap_def, List.flatten_eq_flatMap]
      exact List.Sublist.flatMap_right _ fun conjuncts _ => List.filter_sublist
  have hterms := leavesOfEach_perm (perm_plain_append fs)
  rw [leavesOfEach_append, leavesOfEach_conjunctions] at hterms
  rw [leavesOfEach_append, hform.plain]
  exact ((List.subperm_append_left _).mpr (leavesOfEach_subperm hlists)).trans hterms.subperm

/-- The alternatives that simplified conjunctions leave have only leaves of these. -/
theorem alternatives_leaves (rests : List (List Filter)) :
    (leavesOfEach ((rests.map simplifyAnd).filterMap filterOf?)).Subperm (leavesOfEach rests.flatten) := by
  induction rests with
  | nil => exact .refl _
  | cons rest rests ih =>
    rw [List.map_cons, List.flatten_cons, leavesOfEach_append]
    cases hrest : simplifyAnd rest with
    | always | never =>
      rw [List.filterMap_cons_none rfl]
      exact ih.trans (List.sublist_append_right _ _).subperm
    | filter g =>
      have hcons : (Optimised.filter g :: rests.map simplifyAnd).filterMap filterOf? =
          g :: (rests.map simplifyAnd).filterMap filterOf? := rfl
      rw [hcons, leavesOfEach]
      exact (simplifyAnd_leaves hrest).append ih

theorem leavesOfEach_asBranches (f : Filter) : leavesOfEach (asBranches f) = f.leaves := by
  cases f with
  | or inner => rfl
  | leaf | and => exact leavesOfEach_singleton _

/-- A simplification of alternatives that keeps to their leaves. -/
def KeepsOr (simplifyOr : List Filter → Optimised) : Prop :=
  ∀ {fs : List Filter} {g : Filter}, simplifyOr fs = .filter g → g.leaves.Subperm (leavesOfEach fs)

section Factoring

variable {simplifyOr : List Filter → Optimised} (hor : KeepsOr simplifyOr)
include hor

theorem factoredAnd_leaves {common : List Filter} {rests : List (List Filter)}
    (h : factoredAnd simplifyOr common rests = .filter g) :
    g.leaves.Subperm (leavesOfEach (common ++ rests.flatten)) := by
  rw [leavesOfEach_append]
  rcases of_factoredAnd h with h | ⟨rest, hrest, h⟩
  · exact (simplifyAnd_leaves h).trans (List.sublist_append_left _ _).subperm
  · have hleft := simplifyAnd_leaves h
    rw [leavesOfEach_append, leavesOfEach_singleton] at hleft
    exact hleft.trans ((List.subperm_append_left _).mpr ((hor hrest).trans (alternatives_leaves rests)))

theorem factorTerms_leaves : Keeps (factorTerms simplifyOr) := by
  intro fs gs h
  rcases of_factorTerms h with rfl | ⟨form, hform, hgs⟩
  · exact .refl _
  have hall := factored_leaves hform
  rw [leavesOfEach_append] at hall
  rcases hgs with rfl | ⟨g, hg, rfl⟩
  · exact (leavesOfEach_sublist (dedup_sublist _)).subperm.trans ((List.sublist_append_left _ _).subperm.trans hall)
  · refine (leavesOfEach_sublist (dedup_sublist _)).subperm.trans ?_
    rw [leavesOfEach_append, leavesOfEach_asBranches]
    exact ((List.subperm_append_left _).mpr (factoredAnd_leaves hor hg)).trans hall

end Factoring

/-! ## Alternatives -/

theorem orPass_leaves {factor : List Filter → Option (List Filter)} (hfactor : Keeps factor) :
    Keeps (orPass factor) := by
  intro fs gs h
  obtain ⟨kept, left, hpruned, hleft, rfl⟩ := of_orPass h
  have hkept := removeRedundantAfter_sublist (fun candidate other => candidate.implies other) [] (dedup fs)
  have hleaves := (pruneKnownFalse_leaves hpruned).trans (leavesOfEach_sublist (hkept.trans (dedup_sublist fs)))
  exact (leavesOfEach_perm (perm_sort _)).subperm.trans ((hfactor hleft).trans hleaves.subperm)

theorem settledOr_leaves {factor : List Filter → Option (List Filter)} (hfactor : Keeps factor) :
    KeepsOr (settledOr factor) := by
  intro fs g h
  obtain ⟨terms, hterms, hg⟩ := of_settledOr h
  rw [leaves_of_alternativeOf hg, ← leavesOfEach_flattenOrs fs]
  exact settle_leaves (orPass_leaves hfactor) maxPasses hterms

theorem simplifyOrWithin_leaves (room : Nat) : KeepsOr (simplifyOrWithin room) := by
  induction room with
  | zero =>
    refine settledOr_leaves ?_
    intro fs gs h
    obtain rfl := Option.some.inj h
    exact .refl _
  | succ room ih => exact settledOr_leaves (factorTerms_leaves ih)

theorem simplifyOr_leaves : KeepsOr simplifyOr := simplifyOrWithin_leaves maxFactoring

/-! ## Whole filters -/

theorem subperm_map {ls ms : List Leaf} (h : ls.Subperm ms) :
    (ls.map Leaf.simplified).Subperm (ms.map Leaf.simplified) := by
  obtain ⟨ns, hperm, hsub⟩ := h
  exact ⟨_, hperm.map Leaf.simplified, hsub.map Leaf.simplified⟩

mutual

/-- A pass over the whole filter has, counted with repetition, only its leaves, each simplified. -/
theorem optimiseOnce_leaves : ∀ {f g : Filter}, f.optimiseOnce = .filter g →
    g.leaves.Subperm (f.leaves.map Leaf.simplified)
  | leaf l, g, h => by
    rw [optimiseOnce] at h
    rw [eq_simplified_of_optimiseLeaf h, leaves, leaves, List.map_singleton]
  | and fs, g, h => by
    obtain ⟨terms, hterms, hg⟩ := of_optimiseOnce_and h
    exact (simplifyAnd_leaves hg).trans (optimiseConjuncts_leaves hterms)
  | or fs, g, h => by
    obtain ⟨terms, hterms, hg⟩ := of_optimiseOnce_or h
    exact (simplifyOr_leaves hg).trans (optimiseBranches_leaves hterms)

theorem optimiseConjuncts_leaves : ∀ {fs gs : List Filter}, optimiseConjuncts fs = some gs →
    (leavesOfEach gs).Subperm ((leavesOfEach fs).map Leaf.simplified)
  | [], gs, h => by
    cases h
    exact .refl _
  | f :: fs, gs, h => by
    rw [leavesOfEach, List.map_append]
    rcases of_optimiseConjuncts_cons h with ⟨-, hrest⟩ | ⟨g, more, hf, hmore, rfl⟩
    · exact (optimiseConjuncts_leaves hrest).trans (List.sublist_append_right _ _).subperm
    · exact (optimiseOnce_leaves hf).append (optimiseConjuncts_leaves hmore)

theorem optimiseBranches_leaves : ∀ {fs gs : List Filter}, optimiseBranches fs = some gs →
    (leavesOfEach gs).Subperm ((leavesOfEach fs).map Leaf.simplified)
  | [], gs, h => by
    cases h
    exact .refl _
  | f :: fs, gs, h => by
    rw [leavesOfEach, List.map_append]
    rcases of_optimiseBranches_cons h with ⟨-, hrest⟩ | ⟨g, more, hf, hmore, rfl⟩
    · exact (optimiseBranches_leaves hrest).trans (List.sublist_append_right _ _).subperm
    · exact (optimiseOnce_leaves hf).append (optimiseBranches_leaves hmore)

end

/-- What one pass does once to a leaf, further passes do not undo or do again. -/
theorem optimiseMore_leaves {ls : List Leaf} (passes : Nat) (h : f.leaves.Subperm (ls.map Leaf.simplified))
    (hmore : optimiseMore passes (.filter f) = .filter g) : g.leaves.Subperm (ls.map Leaf.simplified) := by
  refine optimiseMore_keeps (fun f => f.leaves.Subperm (ls.map Leaf.simplified)) (fun {f next} hf hnext => ?_) h hmore
  have hagain := subperm_map hf
  rw [List.map_map, Function.comp_def] at hagain
  simp only [Leaf.simplified_simplified] at hagain
  exact (optimiseOnce_leaves hnext).trans hagain

theorem optimise_leaves (h : f.optimise = .filter g) : g.leaves.Subperm (f.leaves.map Leaf.simplified) := by
  obtain ⟨next, honce, hmore⟩ := of_optimise h
  exact optimiseMore_leaves maxPasses (optimiseOnce_leaves honce) hmore

/-! ## Shape -/

/-- A pass over the leaf gives it back. -/
def Simple (l : Leaf) : Prop := optimiseLeaf l = .filter (leaf l)

theorem carries_simple (Q : Leaf → Prop) : Carries Q Simple := by
  intro l l' _ h
  obtain ⟨l'', he, hsimple, -⟩ := optimiseLeaf_fixed h
  obtain rfl := leaf.inj he
  exact hsimple

theorem within_simple (h : f.optimise = .filter g) : Within Simple 2 g := by
  obtain ⟨next, honce, hmore⟩ := of_optimise h
  have hf : Within (fun _ => True) 0 f := within_of_parts fun _ _ => trivial
  have hnext := (optimiseOnce_lighter (carries_simple fun _ => True) hf honce).1
  exact (optimiseMore_weight (carries_simple Simple) maxPasses hnext hmore).1

mutual

theorem within_of_mem_parts {P : Leaf → Prop} {n : Nat} : ∀ {f : Filter}, Within P n f → g ∈ f.parts → Within P n g
  | leaf l, hf, hg => by
    rw [parts, List.mem_singleton] at hg
    exact hg ▸ hf
  | and fs, hf, hg => by
    rw [parts, List.mem_cons] at hg
    rcases hg with rfl | hg
    · exact hf
    · exact within_of_mem_partsOfEach (within_and.mp hf).2 hg
  | or fs, hf, hg => by
    rw [parts, List.mem_cons] at hg
    rcases hg with rfl | hg
    · exact hf
    · exact within_of_mem_partsOfEach (within_or.mp hf).2 hg

theorem within_of_mem_partsOfEach {P : Leaf → Prop} {n : Nat} : ∀ {fs : List Filter}, (∀ f ∈ fs, Within P n f) →
    g ∈ partsOfEach fs → Within P n g
  | [], _, hg => by cases hg
  | f :: fs, hf, hg => by
    rw [List.forall_mem_cons] at hf
    rw [partsOfEach, List.mem_append] at hg
    rcases hg with hg | hg
    · exact within_of_mem_parts hf.1 hg
    · exact within_of_mem_partsOfEach hf.2 hg

end

mutual

/-- A filter reads only some keys exactly if its leaves do. -/
theorem keysRead_subset_iff {keys : List String} : ∀ {f : Filter}, (∃ ks, f.keysRead? = some ks ∧ ks ⊆ keys) ↔
    ∀ l ∈ f.leaves, ∃ ks, Leaf.usedKeys? l = some ks ∧ ks ⊆ keys
  | leaf l => by rw [keysRead?, leaves, List.forall_mem_singleton]
  | and fs => by rw [keysRead?, leaves, keysReadByEach_subset_iff]
  | or fs => by rw [keysRead?, leaves, keysReadByEach_subset_iff]

theorem keysReadByEach_subset_iff {keys : List String} : ∀ {fs : List Filter},
    (∃ ks, keysReadByEach? fs = some ks ∧ ks ⊆ keys) ↔
      ∀ l ∈ leavesOfEach fs, ∃ ks, Leaf.usedKeys? l = some ks ∧ ks ⊆ keys
  | [] => by simp [keysReadByEach?, leavesOfEach]
  | f :: fs => by
    rw [leavesOfEach, List.forall_mem_append, ← keysRead_subset_iff, ← keysReadByEach_subset_iff]
    simp only [keysReadByEach?, Option.bind_eq_some_iff, Option.map_eq_some_iff]
    constructor
    · rintro ⟨_, ⟨first, hfirst, rest, hrest, rfl⟩, hsub⟩
      exact ⟨⟨first, hfirst, (List.append_subset.mp hsub).1⟩, rest, hrest, (List.append_subset.mp hsub).2⟩
    · rintro ⟨⟨first, hfirst, hsub⟩, rest, hrest, hsub'⟩
      exact ⟨_, ⟨first, hfirst, rest, hrest, rfl⟩, List.append_subset.mpr ⟨hsub, hsub'⟩⟩

end

/-- A simplified filter reads no key that the filter did not. -/
theorem optimise_keysRead {keys : List String} (h : f.optimise = .filter g) (hkeys : f.keysRead? = some keys) :
    ∃ ks, g.keysRead? = some ks ∧ ks ⊆ keys := by
  rw [keysRead_subset_iff]
  intro l hl
  obtain ⟨m, hm, rfl⟩ := List.mem_map.mp ((optimise_leaves h).subset hl)
  have hread := keysRead_subset_iff.mp ⟨keys, hkeys, List.Subset.refl keys⟩ m hm
  rcases Leaf.simplified_cases m with ⟨key, value, rfl, he⟩ | ⟨-, he⟩
  · rw [he]
    exact hread
  · rwa [he]

/-- In a simplified filter every combination has at least two terms, no leaf is a literal match that is not inverted or
a match of one key with the pattern that accepts everything, every leaf is one of the filter or the tag for a literal
match of it, there are no more leaves than before, and no key is read that was not. -/
theorem optimise_shape (h : f.optimise = .filter g) :
    (∀ fs, and fs ∈ g.parts ∨ or fs ∈ g.parts → 2 ≤ fs.length) ∧
      (∀ key value, leaf (.regex (.exact key) (.exact value) false) ∉ g.parts) ∧
      (∀ key p invert, leaf (.regex (.exact key) (.pattern p) invert) ∈ g.parts → p.source ≠ ".*") ∧
      (∀ l ∈ g.leaves, l ∈ f.leaves ∨
        ∃ key value, Leaf.regex (.exact key) (.exact value) false ∈ f.leaves ∧ l = .tag key value) ∧
      g.leaves.length ≤ f.leaves.length ∧
      ∀ keys, f.keysRead? = some keys → ∃ ks, g.keysRead? = some ks ∧ ks ⊆ keys := by
  have hwithin := within_simple h
  have hleaves := optimise_leaves h
  have hsimple : ∀ {l}, leaf l ∈ g.parts → Simple l := fun hl => within_leaf.mp (within_of_mem_parts hwithin hl)
  refine ⟨?_, ?_, ?_, ?_, ?_, fun keys => optimise_keysRead h⟩
  · rintro fs (hfs | hfs)
    · exact (within_and.mp (within_of_mem_parts hwithin hfs)).1
    · exact (within_or.mp (within_of_mem_parts hwithin hfs)).1
  · intro key value hl
    cases hsimple hl
  · intro key p invert hl hsource
    have hverdict := hsimple hl
    rw [Simple, optimiseLeaf, if_pos hsource, Optimised.ofBool] at hverdict
    split at hverdict <;> cases hverdict
  · intro l hl
    obtain ⟨m, hm, rfl⟩ := List.mem_map.mp (hleaves.subset hl)
    rcases Leaf.simplified_cases m with ⟨key, value, rfl, he⟩ | ⟨-, he⟩
    · exact .inr ⟨key, value, hm, he⟩
    · exact .inl (he.symm ▸ hm)
  · simpa using hleaves.length_le

/-- Gravel, matched literally, or sand. -/
def rough : Filter := or [leaf (surface (.exact "gravel") false), tag "surface" "sand"]

theorem optimise_shape_rough : rough.optimise = .filter dry ∧ 2 ≤ dry.children.length ∧
    leaf (surface (.exact "gravel") false) ∉ dry.parts ∧ dry.leaves.length ≤ rough.leaves.length ∧
    ∃ ks, dry.keysRead? = some ks ∧ ks ⊆ ["surface", "surface"] := by
  have hfixed : Fixed dry := fixed_either (by decide) (by decide) (by decide) (by decide)
  have hrough : rough.optimise = .filter dry := by
    have honce : rough.optimiseOnce = dry.optimiseOnce := rfl
    rw [optimise, honce, hfixed]
    exact optimiseMore_of_fixed maxPasses hfixed
  obtain ⟨hlength, hliteral, -, -, hcount, hkeys⟩ := optimise_shape hrough
  exact ⟨hrough, hlength _ (.inr List.mem_cons_self), hliteral "surface" "gravel", hcount, hkeys _ rfl⟩

end MapTheme.Filter
