/-
  MapTheme.Proofs.Filter.Factoring — factoring makes alternatives lighter.

  What the conjunctions of an alternative have in common stands in each of them, so in the factored form it counts
  once instead of twice or more often (`splits_of_factored`, `factoredAnd_weight`). With that a pass over an
  alternative makes it lighter, or sorts it and then changes nothing more, however deep factoring may nest
  (`simplifyOr_lighter`).
-/

import MapTheme.Proofs.Filter.Reduction
import Mathlib.Algebra.Order.BigOperators.Group.List
import Mathlib.Algebra.Order.Ring.Nat

namespace MapTheme.Filter

variable {P : Leaf → Prop} {fs gs : List Filter}

/-! ## Terms and their equals -/

theorem total_filter_add (p : Filter → Bool) (fs : List Filter) :
    total (fs.filter p) + total (fs.filter (!p ·)) = total fs := by
  induction fs with
  | nil => rfl
  | cons f fs ih =>
    cases hp : p f <;> simp only [List.filter_cons, hp, Bool.not_true, Bool.not_false, if_true, if_false,
      Bool.false_eq_true, total] <;> omega

/-- The weight of the conjunctions among the terms is that of their terms, and one for each. -/
theorem total_plain_add (terms : List Filter) :
    total (terms.filter (!·.isAnd)) + ((terms.filterMap conjunctsOf?).map (total · + 1)).sum = total terms := by
  induction terms with
  | nil => rfl
  | cons f rest ih =>
    by_cases hf : f.isAnd = true
    · cases f with
      | and inner =>
        have hplain : (and inner :: rest).filter (!·.isAnd) = rest.filter (!·.isAnd) := rfl
        have hlists : (and inner :: rest).filterMap conjunctsOf? = inner :: rest.filterMap conjunctsOf? := rfl
        rw [hplain, hlists, List.map_cons, List.sum_cons, total, weight]
        omega
      | leaf l | or inner => cases hf
    · have hnone : conjunctsOf? f = none := by
        cases f with
        | and inner => exact absurd rfl hf
        | leaf l | or inner => rfl
      rw [List.filter_cons_of_pos (by simpa using hf), List.filterMap_cons_none hnone, total, total]
      omega

theorem dedup_append_le (fs gs : List Filter) : total (dedup (fs ++ gs)) ≤ total (dedup fs) + total gs := by
  have hafter : ∀ kept : List Filter, dedupAfter kept (fs ++ gs) = dedupAfter (dedupAfter kept fs) gs := by
    induction fs with
    | nil => intro kept; rfl
    | cons f fs ih =>
      intro kept
      simp only [List.cons_append, dedupAfter]
      split <;> exact ih _
  obtain ⟨more, he, hsub⟩ := dedupAfter_append (dedup fs) gs
  rw [dedup, hafter, ← dedup, he, total_append]
  have := total_le_of_sublist hsub
  omega

theorem memberOf_dedupAfter {kept : List Filter} {f : Filter} (hf : f.same f = true)
    (h : f ∈ fs ∨ memberOf kept f = true) : memberOf (dedupAfter kept fs) f = true := by
  fun_induction dedupAfter kept fs with
  | case1 kept => simpa using h
  | case2 kept g rest hmem ih =>
    apply ih
    rcases h with h | h
    · rcases List.mem_cons.mp h with rfl | h
      · exact .inr hmem
      · exact .inl h
    · exact .inr h
  | case3 kept g rest _ ih =>
    apply ih
    rw [memberOf_iff]
    rcases h with h | h
    · rcases List.mem_cons.mp h with rfl | h
      · exact .inr ⟨f, by simp, hf⟩
      · exact .inl h
    · obtain ⟨g', hg', hs⟩ := memberOf_iff.mp h
      exact .inr ⟨g', List.mem_append_left _ hg', hs⟩

theorem memberOf_dedup {f : Filter} (hf : f.same f = true) (h : f ∈ fs) : memberOf (dedup fs) f = true :=
  memberOf_dedupAfter hf (.inl h)

theorem mem_flattenAnds {f : Filter} :
    f ∈ flattenAnds fs ↔ (∃ inner, and inner ∈ fs ∧ f ∈ inner) ∨ (f ∈ fs ∧ f.isAnd = false) := by
  rw [flattenAnds_eq_flatMap, List.mem_flatMap]
  constructor
  · rintro ⟨g, hg, hf⟩
    cases g with
    | and inner => exact .inl ⟨inner, hg, hf⟩
    | leaf | or =>
      obtain rfl := List.mem_singleton.mp hf
      exact .inr ⟨hg, rfl⟩
  · rintro (⟨inner, hinner, hf⟩ | ⟨hf, hand⟩)
    · exact ⟨and inner, hinner, hf⟩
    · refine ⟨f, hf, ?_⟩
      cases f with
      | and => cases hand
      | leaf | or => exact List.mem_singleton_self _

theorem memberOf_of_sameEach {f : Filter} (h : sameEach fs gs = true) (hf : f ∈ gs) : memberOf fs f = true := by
  induction gs generalizing fs with
  | nil => cases hf
  | cons g gs ih =>
    cases fs with
    | nil => simp only [sameEach, Bool.false_eq_true] at h
    | cons f' fs =>
      simp only [sameEach, Bool.and_eq_true] at h
      rcases List.mem_cons.mp hf with rfl | hf
      · exact memberOf_iff.mpr ⟨f', List.mem_cons_self, h.1⟩
      · obtain ⟨g', hg', hs⟩ := memberOf_iff.mp (ih h.2 hf)
        exact memberOf_iff.mpr ⟨g', List.mem_cons_of_mem _ hg', hs⟩

/-- Terms that have each other's equals have them also after flattening. -/
theorem memberOf_flattenAnds (h : ∀ f ∈ fs, memberOf gs f = true) {f : Filter} (hf : f ∈ flattenAnds fs) :
    memberOf (flattenAnds gs) f = true := by
  rw [memberOf_iff]
  rcases mem_flattenAnds.mp hf with ⟨inner, hinner, hf⟩ | ⟨hf, hand⟩
  · obtain ⟨g, hg, hs⟩ := memberOf_iff.mp (h _ hinner)
    cases g with
    | and inner' =>
      rw [same] at hs
      obtain ⟨f', hf', hs'⟩ := memberOf_iff.mp (memberOf_of_sameEach hs hf)
      exact ⟨f', mem_flattenAnds.mpr (.inl ⟨inner', hg, hf'⟩), hs'⟩
    | leaf l | or inner' => simp only [same, Bool.false_eq_true] at hs
  · obtain ⟨g, hg, hs⟩ := memberOf_iff.mp (h f hf)
    refine ⟨g, mem_flattenAnds.mpr (.inr ⟨hg, ?_⟩), hs⟩
    cases g with
    | and inner =>
      cases f with
      | and inner' => cases hand
      | leaf l | or inner' => simp only [same, Bool.false_eq_true] at hs
    | leaf l | or inner => rfl

/-- Of terms with equals, only those count that are left without duplicates. -/
theorem total_dedup_flattenAnds_le (h : ∀ f ∈ fs, Within P 2 f) (hsame : ∀ f ∈ fs, f.same f = true) :
    total (dedup (flattenAnds fs)) ≤ total (dedup fs) := by
  have hcovered : ∀ f ∈ dedup (flattenAnds fs), memberOf (flattenAnds (dedup fs)) f = true := by
    intro f hf
    exact memberOf_flattenAnds (fun g hg => memberOf_dedup (hsame g hg) hg) ((dedup_sublist _).subset hf)
  have hle := total_le_of_covered (apart_dedup _) hcovered
  have hflat := (flattenAnds_reduces (dedup_reduces h).within).le
  omega

/-! ## The factored form -/

theorem within_conjuncts (h : ∀ f ∈ fs, Within P 2 f) {conjuncts : List Filter}
    (hmem : conjuncts ∈ fs.filterMap conjunctsOf?) : ∀ c ∈ conjuncts, Within P 2 c := by
  obtain ⟨f, hf, hconjuncts⟩ := List.mem_filterMap.mp hmem
  cases f with
  | and inner =>
    obtain rfl := Option.some.inj hconjuncts
    exact (within_and.mp (h _ hf)).2
  | leaf | or => cases hconjuncts

section FactoredFrom

variable {form : Factored} {c : Filter} {conjuncts : List Filter}

theorem FactoredFrom.exists_mem (hform : FactoredFrom fs form) (hc : c ∈ form.common) :
    ∃ conjuncts ∈ fs.filterMap conjunctsOf?, c ∈ conjuncts := by
  rw [hform.common] at hc
  generalize fs.filterMap conjunctsOf? = lists at *
  cases lists with
  | nil => cases hc
  | cons first others => exact ⟨first, List.mem_cons_self, (List.mem_filter.mp hc).1⟩

/-- What is common has an equal in each conjunction; in the first one it is its own, as the second one has its
equal. -/
theorem FactoredFrom.exists_same (hform : FactoredFrom fs form) (hc : c ∈ form.common)
    (hmem : conjuncts ∈ fs.filterMap conjunctsOf?) : ∃ d ∈ conjuncts, d.same c = true := by
  have hseveral := hform.several
  rw [hform.common] at hc
  generalize fs.filterMap conjunctsOf? = lists at *
  cases lists with
  | nil => cases hmem
  | cons first others =>
    obtain ⟨hfirst, hothers⟩ := List.mem_filter.mp hc
    rw [List.all_eq_true] at hothers
    rcases List.mem_cons.mp hmem with rfl | hmem
    · obtain ⟨second, hsecond⟩ := List.exists_mem_of_length_pos (Nat.le_of_succ_le_succ hseveral)
      obtain ⟨d, -, hs⟩ := memberOf_iff.mp (hothers second hsecond)
      exact ⟨c, hfirst, same_trans (same_symm hs) hs⟩
    · exact memberOf_iff.mp (hothers conjuncts hmem)

theorem FactoredFrom.same_self (hform : FactoredFrom fs form) (hc : c ∈ form.common) : c.same c = true := by
  obtain ⟨conjuncts, hmem, -⟩ := hform.exists_mem hc
  obtain ⟨d, -, hs⟩ := hform.exists_same hc hmem
  exact same_trans (same_symm hs) hs

theorem FactoredFrom.common_within (hform : FactoredFrom fs form) (h : ∀ f ∈ fs, Within P 2 f) :
    ∀ c ∈ form.common, Within P 2 c := by
  intro c hc
  obtain ⟨conjuncts, hmem, hc⟩ := hform.exists_mem hc
  exact within_conjuncts h hmem c hc

theorem FactoredFrom.heavy (hform : FactoredFrom fs form) (h : ∀ f ∈ fs, Within P 2 f) :
    3 ≤ total (dedup form.common) := by
  obtain ⟨c, hc⟩ := List.exists_mem_of_ne_nil form.common hform.shared
  obtain ⟨d, hd, -⟩ := memberOf_iff.mp (memberOf_dedup (hform.same_self hc) hc)
  have hthree := three_le_weight (hform.common_within h d ((dedup_sublist form.common).subset hd))
  exact Nat.le_trans hthree (weight_le_total hd)

/-- A conjunction weighs at least what is common and its rest. -/
theorem FactoredFrom.total_rest_le (hform : FactoredFrom fs form) (hmem : conjuncts ∈ fs.filterMap conjunctsOf?) :
    total (dedup form.common) + total (conjuncts.filter (!memberOf form.common ·)) ≤ total conjuncts := by
  have hcovered : ∀ c ∈ dedup form.common, memberOf (conjuncts.filter (memberOf form.common ·)) c = true := by
    intro c hc
    have hc := (dedup_sublist form.common).subset hc
    obtain ⟨d, hd, hs⟩ := hform.exists_same hc hmem
    exact memberOf_iff.mpr ⟨d, List.mem_filter.mpr ⟨hd, memberOf_iff.mpr ⟨c, hc, same_symm hs⟩⟩, hs⟩
  have hle := total_le_of_covered (apart_dedup form.common) hcovered
  have hadd : total (conjuncts.filter (memberOf form.common ·)) +
      total (conjuncts.filter (!memberOf form.common ·)) = total conjuncts :=
    total_filter_add (memberOf form.common) conjuncts
  omega

end FactoredFrom

/-- What the factored form of an alternative has, and what it weighs. -/
structure Splits (P : Leaf → Prop) (terms : List Filter) (f : Factored) : Prop where
  plain : ∀ g ∈ f.plain, Within P 2 g
  common : ∀ c ∈ f.common, Within P 2 c ∧ c.same c = true
  rests : ∀ rest ∈ f.rests, ∀ g ∈ rest, Within P 2 g
  several : 2 ≤ f.rests.length
  heavy : 3 ≤ total (dedup f.common)
  weight : total f.plain + (f.rests.map fun rest => total (dedup f.common) + total rest + 1).sum ≤ total terms

theorem splits_of_factored {f : Factored} (h : ∀ g ∈ fs, Within P 2 g) (hf : factorCommonConjuncts fs = some f) :
    Splits P fs f := by
  have hform := factoredFrom_of_eq hf
  refine ⟨?_, fun c hc => ⟨hform.common_within h c hc, hform.same_self hc⟩, ?_, ?_, hform.heavy h, ?_⟩
  · rw [hform.plain]
    exact fun g hg => h g (List.mem_filter.mp hg).1
  · rw [hform.rests]
    intro rest hrest g hg
    obtain ⟨conjuncts, hconjuncts, rfl⟩ := List.mem_map.mp hrest
    exact within_conjuncts h hconjuncts g (List.mem_filter.mp hg).1
  · rw [hform.rests, List.length_map]
    exact hform.several
  · have hsum := List.sum_le_sum fun (conjuncts : List Filter) hconjuncts =>
      Nat.add_le_add_right (hform.total_rest_le hconjuncts) 1
    have htotal := total_plain_add fs
    rw [hform.plain, hform.rests, List.map_map]
    dsimp only [Function.comp_def]
    omega

/-- What simplified alternatives weigh. -/
def Simplifies (P : Leaf → Prop) (simplifyOr : List Filter → Optimised) : Prop :=
  ∀ {fs : List Filter} {g : Filter}, (∀ f ∈ fs, Within P 2 f) → simplifyOr fs = .filter g →
    Within P 2 g ∧ g.weight ≤ total fs + 1

theorem total_alternatives_le {rests : List (List Filter)} (h : ∀ rest ∈ rests, ∀ g ∈ rest, Within P 2 g) :
    (∀ g ∈ (rests.map simplifyAnd).filterMap filterOf?, Within P 2 g) ∧
      total ((rests.map simplifyAnd).filterMap filterOf?) ≤ (rests.map fun rest => total rest + 1).sum := by
  induction rests with
  | nil => exact ⟨by simp, Nat.le_refl _⟩
  | cons rest rests ih =>
    rw [List.forall_mem_cons] at h
    obtain ⟨hwithin, hle⟩ := ih h.2
    rw [List.map_cons, List.map_cons, List.sum_cons]
    cases hg : simplifyAnd rest with
    | always | never =>
      rw [List.filterMap_cons_none rfl]
      exact ⟨hwithin, by omega⟩
    | filter g =>
      have hcons : (Optimised.filter g :: rests.map simplifyAnd).filterMap filterOf? =
          g :: (rests.map simplifyAnd).filterMap filterOf? := rfl
      rw [hcons]
      obtain ⟨hg, hweight⟩ := simplifyAnd_weight h.1 hg
      have hdedup := total_dedup_le (flattenAnds rest)
      have hflat := (flattenAnds_reduces h.1).le
      refine ⟨List.forall_mem_cons.mpr ⟨hg, hwithin⟩, ?_⟩
      rw [total]
      omega

theorem sum_map_add (c : Nat) (rests : List (List Filter)) :
    (rests.map fun rest => c + total rest + 1).sum =
      rests.length * c + (rests.map fun rest => total rest + 1).sum := by
  induction rests with
  | nil => simp
  | cons rest rests ih =>
    rw [List.map_cons, List.map_cons, List.sum_cons, List.sum_cons, ih, List.length_cons, Nat.succ_mul]
    omega

theorem length_le_sum (rests : List (List Filter)) : rests.length ≤ (rests.map fun rest => total rest + 1).sum := by
  induction rests with
  | nil => exact Nat.le_refl _
  | cons rest rests ih =>
    rw [List.map_cons, List.sum_cons, List.length_cons]
    omega

/-- The factored form is lighter: what is common stands there once instead of twice or more often. -/
theorem factoredAnd_weight {simplifyOr : List Filter → Optimised} (hor : Simplifies P simplifyOr) {f : Factored}
    (hf : Splits P fs f) {g : Filter} (hg : factoredAnd simplifyOr f.common f.rests = .filter g) :
    Within P 2 g ∧ total f.plain + g.weight < total fs := by
  have hwithin : ∀ c ∈ f.common, Within P 2 c := fun c hc => (hf.common c hc).1
  have hcommon := total_dedup_flattenAnds_le hwithin fun c hc => (hf.common c hc).2
  have hheavy := hf.heavy
  have hsum := hf.weight
  rw [sum_map_add] at hsum
  have htwice : 2 * total (dedup f.common) ≤ f.rests.length * total (dedup f.common) :=
    Nat.mul_le_mul_right _ hf.several
  have hlength := length_le_sum f.rests
  have hseveral := hf.several
  obtain ⟨halternatives, htotal⟩ := total_alternatives_le hf.rests
  rcases of_factoredAnd hg with hg | ⟨rest, hrest, hg⟩
  · obtain ⟨hg, hweight⟩ := simplifyAnd_weight hwithin hg
    exact ⟨hg, by omega⟩
  · obtain ⟨hrest, hweight⟩ := hor halternatives hrest
    have hboth : ∀ c ∈ f.common ++ [rest], Within P 2 c :=
      List.forall_mem_append.mpr ⟨hwithin, List.forall_mem_singleton.mpr hrest⟩
    obtain ⟨hg, hweight'⟩ := simplifyAnd_weight hboth hg
    have hone := (flattenAnds_reduces (List.forall_mem_singleton.mpr hrest)).le
    rw [flattenAnds_eq_flatMap, List.flatMap_append, ← flattenAnds_eq_flatMap, ← flattenAnds_eq_flatMap] at hweight'
    have happend := dedup_append_le (flattenAnds f.common) (flattenAnds [rest])
    simp only [total] at hone
    exact ⟨hg, by omega⟩

theorem Splits.plain_lt {f : Factored} (hf : Splits P fs f) : total f.plain < total fs := by
  have hsum := hf.weight
  rw [sum_map_add] at hsum
  have hlength := length_le_sum f.rests
  have hseveral := hf.several
  omega

theorem within_asBranches {g : Filter} (h : Within P 2 g) : ∀ b ∈ asBranches g, Within P 2 b := by
  cases g with
  | or inner => exact (within_or.mp h).2
  | leaf | and => exact List.forall_mem_singleton.mpr h

theorem total_asBranches_le (g : Filter) : total (asBranches g) ≤ g.weight := by
  cases g <;> simp [asBranches, total, weight]

theorem factorTerms_reduces {simplifyOr : List Filter → Optimised} (hor : Simplifies P simplifyOr)
    (h : ∀ f ∈ fs, Within P 2 f) (hs : factorTerms simplifyOr fs = some gs) : Reduces P fs gs := by
  rcases of_factorTerms hs with rfl | ⟨form, hfactored, hgs⟩
  · exact .refl h
  have hform := splits_of_factored h hfactored
  rcases hgs with rfl | ⟨g, hg, rfl⟩
  · refine .of_lt (fun f hf => hform.plain f ((dedup_sublist _).subset hf)) ?_
    exact Nat.lt_of_le_of_lt (total_dedup_le _) hform.plain_lt
  · obtain ⟨hg, hlt⟩ := factoredAnd_weight hor hform hg
    have hall := List.forall_mem_append.mpr ⟨hform.plain, within_asBranches hg⟩
    refine .of_lt (fun f hf => hall f ((dedup_sublist _).subset hf)) ?_
    have hle := total_dedup_le (form.plain ++ asBranches g)
    have hbranches := total_asBranches_le g
    rw [total_append] at hle
    omega

/-! ## Alternatives -/

section Alternatives

variable {factor : List Filter → Option (List Filter)}

theorem orPass_pass
    (hfactor : ∀ {fs gs : List Filter}, (∀ f ∈ fs, Within P 2 f) → factor fs = some gs → Reduces P fs gs) :
    Pass P (orPass factor) := by
  intro fs gs h hs
  have hkept := removeRedundant_reduces (fun candidate other => candidate.implies other) (dedup_reduces h).within
  obtain ⟨pruned, left, hpruned, hleft, rfl⟩ := of_orPass hs
  have hprunes := pruneKnownFalse_reduces hkept.within hpruned
  exact ⟨left, (hkept.trans hprunes).trans (hfactor hprunes.within hleft), rfl⟩

variable (hpass : Pass P (orPass factor))
include hpass

theorem settledOr_simplifies : Simplifies P (settledOr factor) := by
  intro fs g h hg
  have hflat := flattenOrs_reduces h
  obtain ⟨gs, hs, hg⟩ := of_settledOr hg
  obtain ⟨hwithin, hle⟩ := within_settle hpass maxPasses hflat.within hs
  have hle' := hflat.le
  have hweight := weight_of_alternativeOf hg
  exact ⟨((Reduces.refl hwithin).alternativeOf hg).1, by omega⟩

/-- An alternative becomes lighter, or an alternative of the same terms that stays as it is. -/
theorem settledOr_lighter {g : Filter} (h : ∀ f ∈ fs, Within P 2 f) (hg : settledOr factor fs = .filter g) :
    g.weight < total fs + 1 ∨ ∃ gs, g = or gs ∧ gs.Perm fs ∧ settledOr factor gs = .filter g := by
  have hflat := flattenOrs_reduces h
  obtain ⟨gs, hs, hg⟩ := of_settledOr hg
  have hle := weight_of_alternativeOf hg
  rcases settle_flattened hpass hflat hs with hlt | ⟨he, hperm, hfixed⟩
  · exact .inl (by omega)
  · rcases eq_of_alternativeOf hg with rfl | ⟨-, rfl⟩
    · have htotal := total_of_perm hperm
      simp only [total] at htotal
      exact .inl (by omega)
    · have hwithin := (within_settle hpass maxPasses hflat.within hs).1
      refine .inr ⟨gs, rfl, hperm, ?_⟩
      rw [settledOr, flattenOrs_of_perm hwithin hperm he, settle_of_fixed maxPasses hfixed]
      exact hg

end Alternatives

/-- However deep factoring may nest, alternatives are simplified by passes that make them lighter. -/
theorem exists_factor (P : Leaf → Prop) (room : Nat) :
    ∃ factor, Pass P (orPass factor) ∧ simplifyOrWithin room = settledOr factor := by
  induction room with
  | zero =>
    refine ⟨some, orPass_pass ?_, rfl⟩
    intro fs gs h hs
    obtain rfl := Option.some.inj hs
    exact .refl h
  | succ room ih =>
    obtain ⟨factor, hpass, he⟩ := ih
    have hsimplifies : Simplifies P (simplifyOrWithin room) := he ▸ settledOr_simplifies hpass
    exact ⟨factorTerms (simplifyOrWithin room), orPass_pass (factorTerms_reduces hsimplifies), rfl⟩

theorem simplifyOr_simplifies (P : Leaf → Prop) : Simplifies P simplifyOr := by
  obtain ⟨factor, hpass, he⟩ := exists_factor P maxFactoring
  intro fs g h hg
  rw [simplifyOr, he] at hg
  exact settledOr_simplifies hpass h hg

theorem simplifyOr_lighter {g : Filter} (h : ∀ f ∈ fs, Within P 2 f) (hg : simplifyOr fs = .filter g) :
    g.weight < total fs + 1 ∨ ∃ gs, g = or gs ∧ gs.Perm fs ∧ simplifyOr gs = .filter g := by
  obtain ⟨factor, hpass, he⟩ := exists_factor P maxFactoring
  rw [simplifyOr, he] at hg
  simp only [simplifyOr, he]
  exact settledOr_lighter hpass h hg

end MapTheme.Filter
