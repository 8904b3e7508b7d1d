/-
  MapTheme.Proofs.Filter.Optimise — simplified filters mean what they meant.

  Fix properties `p`. A list of terms means a conjunction (`all`) or an alternative (`any`), and each
  rewrite of a list is shown to keep that meaning; where it leaves no list, the meaning is its verdict
  (`allLeft`, `anyLeft`). A step that keeps the meaning still does when it is repeated
  (`elim_settle`), so nothing hangs on how often: the passes and the depth of factoring only bound
  the work.
-/

import MapTheme.Proofs.Filter.Implication
import MapTheme.Proofs.Filter.Passes

namespace MapTheme

variable [Pattern.Engine]

theorem Optimised.holds_ofBool (p : Properties) (b : Bool) : (ofBool b).holds p = b := by
  cases b <;> rfl

theorem Optimised.holds_toFilter (p : Properties) (o : Optimised) : o.toFilter.holds p = o.holds p := by
  cases o <;> simp [toFilter, holds]

theorem Optimised.holds_of_same (p : Properties) {a b : Optimised} (h : a.same b = true) : a.holds p = b.holds p := by
  cases a <;> cases b <;> simp only [same, Bool.false_eq_true] at h
  case always.always => rfl
  case never.never => rfl
  case filter.filter f g => exact Filter.holds_of_same p h

namespace Filter

variable (p : Properties)

/-! ## Lists of terms -/

theorem holds_conjunctionOf (fs : List Filter) : (conjunctionOf fs).holds p = fs.all (holds p) := by
  unfold conjunctionOf
  split <;> simp [Optimised.holds]

theorem holds_alternativeOf (fs : List Filter) : (alternativeOf fs).holds p = fs.any (holds p) := by
  unfold alternativeOf
  split <;> simp [Optimised.holds]

theorem all_flattenAnds (fs : List Filter) : (flattenAnds fs).all (holds p) = fs.all (holds p) := by
  fun_induction flattenAnds fs with
  | case1 => rfl
  | case2 inner rest ih => rw [List.all_append, ih, List.all_cons, holds_and]
  | case3 f rest _ ih => rw [List.all_cons, ih, List.all_cons]

theorem any_flattenOrs (fs : List Filter) : (flattenOrs fs).any (holds p) = fs.any (holds p) := by
  fun_induction flattenOrs fs with
  | case1 => rfl
  | case2 inner rest ih => rw [List.any_append, ih, List.any_cons, holds_or]
  | case3 f rest _ ih => rw [List.any_cons, ih, List.any_cons]

theorem exists_same_of_memberOf {fs : List Filter} {f : Filter} (h : memberOf fs f = true) :
    ∃ g ∈ fs, g.holds p = f.holds p := by
  obtain ⟨g, hg, hs⟩ := List.any_eq_true.mp h
  exact ⟨g, hg, holds_of_same p hs⟩

/-- The meaning of what is left of a conjunction; of one that never holds nothing is left. -/
def allLeft (terms : Option (List Filter)) : Bool := terms.elim false (·.all (holds p))

/-- The meaning of what is left of an alternative; of one that always holds nothing is left. -/
def anyLeft (terms : Option (List Filter)) : Bool := terms.elim true (·.any (holds p))

@[simp] theorem allLeft_none : allLeft p none = false := rfl
@[simp] theorem anyLeft_none : anyLeft p none = true := rfl
@[simp] theorem allLeft_some (fs : List Filter) : allLeft p (some fs) = fs.all (holds p) := rfl
@[simp] theorem anyLeft_some (fs : List Filter) : anyLeft p (some fs) = fs.any (holds p) := rfl

@[simp] theorem allLeft_map_cons (f : Filter) (terms : Option (List Filter)) :
    allLeft p (terms.map (f :: ·)) = (f.holds p && allLeft p terms) := by
  cases terms <;> simp

@[simp] theorem anyLeft_map_cons (f : Filter) (terms : Option (List Filter)) :
    anyLeft p (terms.map (f :: ·)) = (f.holds p || anyLeft p terms) := by
  cases terms <;> simp

@[simp] theorem anyLeft_map_append (fs : List Filter) (terms : Option (List Filter)) :
    anyLeft p (terms.map (fs ++ ·)) = (fs.any (holds p) || anyLeft p terms) := by
  cases terms <;> simp

/-- The truth values that occur are the same with and without duplicates. -/
theorem mem_map_dedupAfter (b : Bool) (kept fs : List Filter) :
    b ∈ (dedupAfter kept fs).map (holds p) ↔ b ∈ kept.map (holds p) ∨ b ∈ fs.map (holds p) := by
  fun_induction dedupAfter kept fs with
  | case1 kept => simp
  | case2 kept f rest hm ih =>
    rw [ih, List.map_cons, List.mem_cons]
    obtain ⟨g, hg, he⟩ := exists_same_of_memberOf p hm
    constructor
    · exact fun h => h.imp_right Or.inr
    · rintro (h | rfl | h)
      · exact Or.inl h
      · exact Or.inl (he ▸ List.mem_map_of_mem hg)
      · exact Or.inr h
  | case3 kept f rest _ ih => simp [ih, or_assoc]

theorem mem_map_dedup (b : Bool) (fs : List Filter) : b ∈ (dedup fs).map (holds p) ↔ b ∈ fs.map (holds p) := by
  simp [dedup, mem_map_dedupAfter]

theorem all_eq_of_truths {fs gs : List Filter} (h : false ∈ fs.map (holds p) ↔ false ∈ gs.map (holds p)) :
    fs.all (holds p) = gs.all (holds p) := by
  rw [← Bool.not_inj_iff, Bool.eq_iff_iff]
  simpa using h

theorem any_eq_of_truths {fs gs : List Filter} (h : true ∈ fs.map (holds p) ↔ true ∈ gs.map (holds p)) :
    fs.any (holds p) = gs.any (holds p) := by
  rw [Bool.eq_iff_iff]
  simpa using h

theorem all_dedup (fs : List Filter) : (dedup fs).all (holds p) = fs.all (holds p) :=
  all_eq_of_truths p (mem_map_dedup p false fs)

theorem any_dedup (fs : List Filter) : (dedup fs).any (holds p) = fs.any (holds p) :=
  any_eq_of_truths p (mem_map_dedup p true fs)

theorem perm_sort (fs : List Filter) : (sort fs).Perm fs := by
  unfold sort
  refine ((List.mergeSort_perm _ _).map _).trans ?_
  simp [Function.comp_def]

theorem all_sort (fs : List Filter) : (sort fs).all (holds p) = fs.all (holds p) :=
  all_eq_of_truths p ((perm_sort fs).map _).mem_iff

theorem any_sort (fs : List Filter) : (sort fs).any (holds p) = fs.any (holds p) :=
  any_eq_of_truths p ((perm_sort fs).map _).mem_iff

/-- A term of a conjunction is redundant beside one that it holds with. -/
theorem all_removeRedundantAfter {redundant : Filter → Filter → Bool}
    (hr : ∀ f g, redundant f g = true → g.holds p = true → f.holds p = true) (kept fs : List Filter) :
    (removeRedundantAfter redundant kept fs).all (holds p) = (kept ++ fs).all (holds p) := by
  fun_induction removeRedundantAfter redundant kept fs with
  | case1 kept => simp
  | case2 kept f rest hany ih =>
    obtain ⟨g, hg, hfg⟩ := List.any_eq_true.mp hany
    rw [ih, List.perm_middle.all_eq, List.all_cons]
    cases hall : (kept ++ rest).all (holds p) with
    | true => rw [hr f g hfg (List.all_eq_true.mp hall g hg), Bool.and_self]
    | false => rw [Bool.and_false]
  | case3 kept f rest _ ih => simp [ih]

/-- A term of an alternative is redundant beside one that holds with it. -/
theorem any_removeRedundantAfter {redundant : Filter → Filter → Bool}
    (hr : ∀ f g, redundant f g = true → f.holds p = true → g.holds p = true) (kept fs : List Filter) :
    (removeRedundantAfter redundant kept fs).any (holds p) = (kept ++ fs).any (holds p) := by
  fun_induction removeRedundantAfter redundant kept fs with
  | case1 kept => simp
  | case2 kept f rest hany ih =>
    obtain ⟨g, hg, hfg⟩ := List.any_eq_true.mp hany
    rw [ih, List.perm_middle.any_eq, List.any_cons]
    cases hf : f.holds p with
    | true => exact List.any_eq_true.mpr ⟨g, hg, hr f g hfg hf⟩
    | false => rw [Bool.false_or]
  | case3 kept f rest _ ih => simp [ih]

/-- The terms beside a term are terms of the list. -/
theorem mem_withOthers {before fs : List Filter} {f : Filter} {others : List Filter}
    (h : (f, others) ∈ withOthers before fs) : f ∈ fs ∧ ∀ g ∈ others, g ∈ before ++ fs := by
  induction fs generalizing before with
  | nil => simp [withOthers] at h
  | cons e rest ih =>
    rcases List.mem_cons.mp h with h | h
    · cases h
      refine ⟨List.mem_cons_self .., fun g hg => ?_⟩
      rcases List.mem_append.mp hg with hg | hg
      · exact List.mem_append_left _ hg
      · exact List.mem_append_right _ (List.mem_cons_of_mem _ hg)
    · obtain ⟨h1, h2⟩ := ih h
      exact ⟨List.mem_cons_of_mem _ h1, fun g hg => by simpa using h2 g hg⟩

/-! ## Known values -/

/-- The properties have the known values. -/
def Agrees (known : Known) : Prop := ∀ key value, known.lookup key = some value → p.value key = value

/-- The properties have the values of all literal tags among the terms. -/
def FitsTags (terms : List Filter) : Prop := ∀ key value, tag key value ∈ terms → p.value key = value

theorem fitsTags_of_all {terms : List Filter} (h : terms.all (holds p) = true) : FitsTags p terms := by
  intro key value hm
  simpa [tag, Leaf.holds] using List.all_eq_true.mp h _ hm

/-- Properties that fit the literal tags agree with the values that they fix. -/
theorem agrees_of_knownValues {terms : List Filter} {known : Known} (h : knownValues terms = some known)
    (hfit : FitsTags p terms) : Agrees p known := by
  fun_induction knownValues terms generalizing known with
  | case1 => cases h; intro key value hl; cases hl
  | case2 key value rest _ => cases h
  | case3 key rest known' hk other hl ih =>
    cases h
    exact ih hk fun k v hm => hfit k v (List.mem_cons_of_mem _ hm)
  | case4 key value rest known' hk other hl he => cases h
  | case5 key value rest known' hk hl ih =>
    cases h
    intro k v hv
    rw [List.lookup_cons] at hv
    split at hv
    · rename_i he
      cases hv
      rw [eq_of_beq he]
      exact hfit key value (List.mem_cons_self ..)
    · exact ih hk (fun k v hm => hfit k v (List.mem_cons_of_mem _ hm)) k v hv
  | case6 f rest _ ih => exact ih h fun k v hm => hfit k v (List.mem_cons_of_mem _ hm)

/-- No properties fit literal tags that disagree. -/
theorem not_fitsTags_of_knownValues {terms : List Filter} (h : knownValues terms = none) : ¬ FitsTags p terms := by
  fun_induction knownValues terms with
  | case1 => cases h
  | case2 key value rest hk ih => exact fun hfit => ih hk fun k v hm => hfit k v (List.mem_cons_of_mem _ hm)
  | case3 => cases h
  | case4 key value rest known hk other hl he =>
    intro hfit
    have h1 := agrees_of_knownValues p hk (fun k v hm => hfit k v (List.mem_cons_of_mem _ hm)) key other hl
    exact he (h1.symm.trans (hfit key value (List.mem_cons_self ..)))
  | case5 => cases h
  | case6 f rest _ ih => exact fun hfit => ih h fun k v hm => hfit k v (List.mem_cons_of_mem _ hm)

theorem holds_assumeLeaf {known : Known} (hk : Agrees p known) (l : Leaf) : (assumeLeaf known l).holds p = l.holds p := by
  unfold assumeLeaf
  split
  · exact holds_leaf p l
  · rename_i key hs
    split
    · exact holds_leaf p l
    · rename_i value hl
      rw [Optimised.holds_ofBool, Leaf.holds_assigned hs (hk key value hl)]

mutual

/-- Assuming values that the properties have changes no meaning. -/
theorem holds_assume {known : Known} (hk : Agrees p known) : ∀ f : Filter, (assume known f).holds p = f.holds p
  | leaf l => by rw [assume, holds_assumeLeaf p hk, holds_leaf]
  | and fs => by
    rw [holds_and, ← allLeft_assumeAll hk fs, assume]
    cases assumeAll known fs with
    | none => rfl
    | some kept => exact holds_conjunctionOf p kept
  | or fs => by
    rw [holds_or, ← anyLeft_assumeAny hk fs, assume]
    cases assumeAny known fs with
    | none => rfl
    | some kept => exact holds_alternativeOf p kept

theorem allLeft_assumeAll {known : Known} (hk : Agrees p known) :
    ∀ fs : List Filter, allLeft p (assumeAll known fs) = fs.all (holds p)
  | [] => rfl
  | f :: fs => by
    rw [List.all_cons, ← holds_assume hk f, ← allLeft_assumeAll hk fs, assumeAll]
    cases assume known f <;> simp [Optimised.holds]

theorem anyLeft_assumeAny {known : Known} (hk : Agrees p known) :
    ∀ fs : List Filter, anyLeft p (assumeAny known fs) = fs.any (holds p)
  | [] => rfl
  | f :: fs => by
    rw [List.any_cons, ← holds_assume hk f, ← anyLeft_assumeAny hk fs, assumeAny]
    cases assume known f <;> simp [Optimised.holds]

end

theorem allLeft_applyKnown {known : Known} (hk : Agrees p known) (terms : List Filter) :
    allLeft p (applyKnown known terms) = terms.all (holds p) := by
  fun_induction applyKnown known terms with
  | case1 => rfl
  | case2 key value rest ih => rw [allLeft_map_cons, ih, List.all_cons]; rfl
  | case3 f rest _ ha ih => simp [ih, ← holds_assume p hk f, ha, Optimised.holds]
  | case4 f rest _ ha => simp [← holds_assume p hk f, ha, Optimised.holds]
  | case5 f rest _ g ha ih => simp [ih, ← holds_assume p hk f, ha, Optimised.holds]

/-- Literal tags stay in a conjunction. -/
theorem mem_applyKnown {known : Known} {terms next : List Filter} (h : applyKnown known terms = some next)
    {key value : String} (hm : tag key value ∈ terms) : tag key value ∈ next := by
  fun_induction applyKnown known terms generalizing next with
  | case1 => cases hm
  | case2 k v rest ih =>
    obtain ⟨next', hn, rfl⟩ := Option.map_eq_some_iff.mp h
    rcases List.mem_cons.mp hm with he | hm
    · cases he; exact List.mem_cons_self ..
    · exact List.mem_cons_of_mem _ (ih hn hm)
  | case3 f rest hne _ ih =>
    rcases List.mem_cons.mp hm with he | hm
    · exact absurd he.symm (hne key value)
    · exact ih h hm
  | case4 f rest _ _ => cases h
  | case5 f rest hne g _ ih =>
    obtain ⟨next', hn, rfl⟩ := Option.map_eq_some_iff.mp h
    rcases List.mem_cons.mp hm with he | hm
    · exact absurd he.symm (hne key value)
    · exact List.mem_cons_of_mem _ (ih hn hm)

/-- A conjunction under its own literal tags. Where the properties do not fit the tags, the conjunction
holds neither before nor after. -/
theorem allLeft_known (terms : List Filter) :
    allLeft p ((knownValues terms).bind (applyKnown · terms)) = terms.all (holds p) := by
  have unfit : ∀ {fs : List Filter}, ¬ FitsTags p fs → fs.all (holds p) = false := fun h =>
    Bool.eq_false_iff.mpr fun hall => h (fitsTags_of_all p hall)
  cases hk : knownValues terms with
  | none => exact (unfit (not_fitsTags_of_knownValues p hk)).symm
  | some known =>
    by_cases hfit : FitsTags p terms
    · exact allLeft_applyKnown p (agrees_of_knownValues p hk hfit) terms
    · rw [unfit hfit, Option.bind_some]
      cases ha : applyKnown known terms with
      | none => rfl
      | some next => exact unfit fun h => hfit fun key value hm => h key value (mem_applyKnown ha hm)

/-! ## Contradictions and tautologies -/

theorem all_of_hasContradiction {fs : List Filter} (h : hasContradiction fs = true) : fs.all (holds p) = false := by
  obtain ⟨⟨b, others⟩, hb, h⟩ := List.any_eq_true.mp h
  obtain ⟨hb, hothers⟩ := mem_withOthers hb
  simp only at h
  split at h
  · rename_i notB hn
    obtain ⟨a, ha, himp⟩ := List.any_eq_true.mp h
    rw [Bool.eq_false_iff]
    intro hall
    rw [List.all_eq_true] at hall
    have hnot := holds_of_implies himp (hall a (hothers a ha))
    rw [holds_of_negated? p hn, hall b hb] at hnot
    cases hnot
  · cases h

theorem any_of_isTautology {fs : List Filter} (h : isTautology fs = true) : fs.any (holds p) = true := by
  obtain ⟨⟨a, others⟩, ha, h⟩ := List.any_eq_true.mp h
  obtain ⟨ha, hothers⟩ := mem_withOthers ha
  simp only at h
  split at h
  · rename_i notA hn
    obtain ⟨b, hb, himp⟩ := List.any_eq_true.mp h
    rw [List.any_eq_true]
    cases hhold : a.holds p
    · exact ⟨b, hothers b hb, holds_of_implies himp (by rw [holds_of_negated? p hn, hhold]; rfl)⟩
    · exact ⟨a, ha, hhold⟩
  · cases h

/-! ## Pruning -/

/-- Where all negations hold, what follows from one of them does not matter to a conjunction. -/
theorem all_filter_implied {negations : List Filter} (hn : ∀ n ∈ negations, n.holds p = true) (conjuncts : List Filter) :
    (conjuncts.filter fun c => !negations.any (·.implies c)).all (holds p) = conjuncts.all (holds p) := by
  rw [Bool.eq_iff_iff, List.all_eq_true, List.all_eq_true]
  constructor
  · intro h c hc
    by_cases hi : negations.any (·.implies c) = true
    · obtain ⟨n, hm, himp⟩ := List.any_eq_true.mp hi
      exact holds_of_implies himp (hn n hm)
    · exact h c (List.mem_filter.mpr ⟨hc, by simpa using hi⟩)
  · exact fun h c hc => h c (List.mem_filter.mp hc).1

theorem anyLeft_pruneBy {negations : List Filter} (hn : ∀ n ∈ negations, n.holds p = true) (terms : List Filter) :
    anyLeft p (pruneBy negations terms) = terms.any (holds p) := by
  fun_induction pruneBy negations terms with
  | case1 => rfl
  | case2 conjuncts rest hf => rw [List.any_cons, holds_and, ← all_filter_implied p hn conjuncts, hf]; rfl
  | case3 conjuncts rest inner hf ih =>
    rw [List.any_cons, holds_and, ← all_filter_implied p hn conjuncts, hf, anyLeft_map_append, ih]
    simp
  | case4 conjuncts rest single _ hf ih =>
    rw [List.any_cons, holds_and, ← all_filter_implied p hn conjuncts, hf, anyLeft_map_cons, ih]
    simp
  | case5 conjuncts rest _ _ _ ih =>
    rw [List.any_cons, holds_and, ← all_filter_implied p hn conjuncts, anyLeft_map_cons, ih, holds_and]
  | case6 f rest _ ih => rw [List.any_cons, anyLeft_map_cons, ih]

/-- Plain terms stay. -/
theorem mem_pruneBy {negations terms next : List Filter} (h : pruneBy negations terms = some next) {f : Filter}
    (hm : f ∈ terms) (hf : f.isAnd = false) : f ∈ next := by
  fun_induction pruneBy negations terms generalizing next with
  | case1 => cases hm
  | case2 conjuncts rest _ => cases h
  | case3 conjuncts rest inner _ ih =>
    obtain ⟨next', hn, rfl⟩ := Option.map_eq_some_iff.mp h
    rcases List.mem_cons.mp hm with rfl | hm
    · cases hf
    · exact List.mem_append_right _ (ih hn hm)
  | case4 conjuncts rest single _ _ ih =>
    obtain ⟨next', hn, rfl⟩ := Option.map_eq_some_iff.mp h
    rcases List.mem_cons.mp hm with rfl | hm
    · cases hf
    · exact List.mem_cons_of_mem _ (ih hn hm)
  | case5 conjuncts rest _ _ _ ih =>
    obtain ⟨next', hn, rfl⟩ := Option.map_eq_some_iff.mp h
    rcases List.mem_cons.mp hm with rfl | hm
    · cases hf
    · exact List.mem_cons_of_mem _ (ih hn hm)
  | case6 g rest _ ih =>
    obtain ⟨next', hn, rfl⟩ := Option.map_eq_some_iff.mp h
    rcases List.mem_cons.mp hm with rfl | hm
    · exact List.mem_cons_self ..
    · exact List.mem_cons_of_mem _ (ih hn hm)

/-- Inside an alternative, plain terms may be taken as false: one that holds decides the whole. -/
theorem anyLeft_pruneKnownFalse (terms : List Filter) : anyLeft p (pruneKnownFalse terms) = terms.any (holds p) := by
  unfold pruneKnownFalse
  simp only
  split
  · rfl
  · by_cases hplain : ∃ f ∈ terms, f.isAnd = false ∧ f.holds p = true
    · obtain ⟨f, hf, hand, hhold⟩ := hplain
      rw [List.any_eq_true.mpr ⟨f, hf, hhold⟩]
      cases hprune : pruneBy ((terms.filter (!·.isAnd)).filterMap negated?) terms with
      | none => rfl
      | some next => exact List.any_eq_true.mpr ⟨f, mem_pruneBy hprune hf hand, hhold⟩
    · refine anyLeft_pruneBy p (fun n hn => ?_) terms
      obtain ⟨f, hf, hneg⟩ := List.mem_filterMap.mp hn
      obtain ⟨hf, hand⟩ := List.mem_filter.mp hf
      rw [holds_of_negated? p hneg]
      simp only [Bool.not_eq_true'] at hand ⊢
      rw [Bool.eq_false_iff]
      exact fun hhold => hplain ⟨f, hf, hand, hhold⟩

/-! ## Repetition -/

/-- A step that keeps a meaning, with a verdict where it leaves nothing, still does when repeated. -/
theorem elim_settle {m : List Filter → Bool} {verdict : Bool} {step : List Filter → Option (List Filter)}
    (h : ∀ terms, (step terms).elim verdict m = m terms) (passes : Nat) (terms : List Filter) :
    (settle step passes terms).elim verdict m = m terms := by
  induction passes generalizing terms with
  | zero => rfl
  | succ passes ih =>
    have hstep := h terms
    unfold settle
    cases hs : step terms with
    | none => rw [hs] at hstep; exact hstep
    | some next =>
      rw [hs] at hstep
      simp only [Option.elim_some] at hstep ⊢
      split
      · exact hstep
      · exact (ih next).trans hstep

/-! ## Conjunctions -/

theorem allLeft_andPass (terms : List Filter) : allLeft p (andPass terms) = terms.all (holds p) := by
  have hknown := allLeft_known p (dedup terms)
  rw [all_dedup] at hknown
  rw [andPass_eq_bind]
  cases hnext : (knownValues (dedup terms)).bind (applyKnown · (dedup terms)) with
  | none =>
    rw [hnext] at hknown
    exact hknown
  | some next =>
    rw [hnext, allLeft_some] at hknown
    have hkept : (removeRedundant (fun candidate other => other.implies candidate) (dedup (flattenAnds next))).all (holds p)
        = terms.all (holds p) := by
      rw [removeRedundant, all_removeRedundantAfter p fun f g h => holds_of_implies h, List.nil_append, all_dedup,
        all_flattenAnds, hknown]
    rw [Option.bind_some]
    dsimp only
    split
    · rename_i hc
      rw [allLeft_none, ← hkept, all_of_hasContradiction p hc]
    · rw [allLeft_some, all_sort, hkept]

theorem holds_simplifyAnd (terms : List Filter) : (simplifyAnd terms).holds p = terms.all (holds p) := by
  have h := elim_settle (allLeft_andPass p) maxPasses (flattenAnds terms)
  rw [all_flattenAnds] at h
  rw [simplifyAnd_eq]
  cases hs : settle andPass maxPasses (flattenAnds terms) with
  | none => rwa [hs] at h
  | some fs =>
    rw [hs] at h
    exact (holds_conjunctionOf p fs).trans h

/-! ## Factoring -/

/-- An alternative is its plain terms and its conjunctions. -/
theorem any_plain_or_conjuncts (terms : List Filter) :
    terms.any (holds p) =
      ((terms.filter (!·.isAnd)).any (holds p) || (terms.filterMap conjunctsOf?).any (·.all (holds p))) := by
  induction terms with
  | nil => rfl
  | cons f rest ih =>
    cases f <;> simp [ih, isAnd, conjunctsOf?, Bool.or_assoc, Bool.or_left_comm]

/-- A conjunction as conjuncts that all occur in it and the rest. -/
theorem all_common_and_rest {common conjuncts : List Filter}
    (h : ∀ c ∈ common, ∃ g ∈ conjuncts, g.holds p = c.holds p) :
    conjuncts.all (holds p) = (common.all (holds p) && (conjuncts.filter (!memberOf common ·)).all (holds p)) := by
  rw [Bool.eq_iff_iff, Bool.and_eq_true, List.all_eq_true, List.all_eq_true, List.all_eq_true]
  constructor
  · refine fun hall => ⟨fun c hc => ?_, fun c hc => hall c (List.mem_filter.mp hc).1⟩
    obtain ⟨g, hg, he⟩ := h c hc
    exact he ▸ hall g hg
  · rintro ⟨hcommon, hrest⟩ c hc
    by_cases hm : memberOf common c = true
    · obtain ⟨d, hd, he⟩ := exists_same_of_memberOf p hm
      exact he ▸ hcommon d hd
    · exact hrest c (List.mem_filter.mpr ⟨hc, by simpa using hm⟩)

/-- What all lists have means in each of them what it means. -/
theorem common_occurs {lists : List (List Filter)} {conjuncts : List Filter} (h : conjuncts ∈ lists) :
    ∀ c ∈ commonOf lists, ∃ g ∈ conjuncts, g.holds p = c.holds p := by
  intro c hc
  cases lists with
  | nil => cases h
  | cons first others =>
    obtain ⟨hfirst, hothers⟩ := List.mem_filter.mp hc
    rcases List.mem_cons.mp h with rfl | h
    · exact ⟨c, hfirst, rfl⟩
    · exact exists_same_of_memberOf p (List.all_eq_true.mp hothers conjuncts h)

/-- Factoring changes the form, not the meaning. -/
theorem any_of_factored {terms : List Filter} {f : Factored} (h : factorCommonConjuncts terms = some f) :
    terms.any (holds p) =
      (f.plain.any (holds p) || (f.common.all (holds p) && f.rests.any (·.all (holds p)))) := by
  have hf := factoredFrom_of_eq h
  have heach := List.map_congr_left fun conjuncts (hc : conjuncts ∈ terms.filterMap conjunctsOf?) =>
    all_common_and_rest p (hf.common ▸ common_occurs p hc)
  have hany := congrArg (List.any · id) heach
  simp only [List.any_map, Function.id_comp] at hany
  rw [any_plain_or_conjuncts, hf.plain, hf.rests, List.any_map, List.and_any_distrib_left]
  exact congrArg _ hany

/-- Where nothing always holds, an alternative is the filters in it. -/
theorem any_filters {found : List Optimised} (h : found.any (·.same .always) = false) :
    (found.filterMap filterOf?).any (holds p) = found.any (·.holds p) := by
  induction found with
  | nil => rfl
  | cons o rest ih =>
    rw [List.any_cons, Bool.or_eq_false_iff] at h
    cases o with
    | always => cases h.1
    | never =>
      rw [List.any_cons, ← ih h.2]
      rfl
    | filter f =>
      rw [List.any_cons, ← ih h.2]
      rfl

theorem holds_factoredAnd {simplifyOr : List Filter → Optimised}
    (hor : ∀ terms, (simplifyOr terms).holds p = terms.any (holds p)) (common : List Filter)
    (rests : List (List Filter)) :
    (factoredAnd simplifyOr common rests).holds p = (common.all (holds p) && rests.any (·.all (holds p))) := by
  have hrests : (rests.map simplifyAnd).any (·.holds p) = rests.any (·.all (holds p)) := by
    simp [List.any_map, Function.comp_def, holds_simplifyAnd]
  rw [← hrests, factoredAnd_eq_ite]
  split
  · rename_i hany
    obtain ⟨o, ho, hs⟩ := List.any_eq_true.mp hany
    have htrue : (rests.map simplifyAnd).any (·.holds p) = true :=
      List.any_eq_true.mpr ⟨o, ho, (Optimised.holds_of_same p hs).trans rfl⟩
    rw [holds_simplifyAnd, htrue, Bool.and_true]
  · rename_i hany
    have hfound := any_filters p (Bool.eq_false_iff.mpr hany)
    split
    · rename_i ho
      rw [← (congrArg (Optimised.holds p) ho).symm.trans ((hor _).trans hfound), holds_simplifyAnd]
      simp [Optimised.holds]
    · rename_i ho
      rw [← (congrArg (Optimised.holds p) ho).symm.trans ((hor _).trans hfound)]
      simp [Optimised.holds]
    · rename_i f ho
      rw [← (congrArg (Optimised.holds p) ho).symm.trans ((hor _).trans hfound), holds_simplifyAnd]
      simp [Optimised.holds]

/-! ## Alternatives -/

theorem any_asBranches (f : Filter) : (asBranches f).any (holds p) = f.holds p := by
  cases f with
  | or inner => exact (holds_or p inner).symm
  | leaf | and => simp [asBranches]

theorem anyLeft_factorTerms {simplifyOr : List Filter → Optimised}
    (hor : ∀ terms, (simplifyOr terms).holds p = terms.any (holds p)) (terms : List Filter) :
    anyLeft p (factorTerms simplifyOr terms) = terms.any (holds p) := by
  rw [factorTerms_eq]
  cases hf : factorCommonConjuncts terms with
  | none => rfl
  | some form =>
    rw [any_of_factored p hf, ← holds_factoredAnd p hor]
    dsimp only
    cases factoredAnd simplifyOr form.common form.rests with
    | always => simp [Optimised.holds]
    | never => simp [Optimised.holds, any_dedup]
    | filter g => simp [Optimised.holds, any_dedup, any_asBranches]

theorem anyLeft_orPass {factor : List Filter → Option (List Filter)}
    (hfactor : ∀ terms, anyLeft p (factor terms) = terms.any (holds p)) (terms : List Filter) :
    anyLeft p (orPass factor terms) = terms.any (holds p) := by
  have hkept : (removeRedundant (fun candidate other => candidate.implies other) (dedup terms)).any (holds p)
      = terms.any (holds p) := by
    rw [removeRedundant, any_removeRedundantAfter p fun f g h => holds_of_implies h, List.nil_append, any_dedup]
  rw [← hkept, ← anyLeft_pruneKnownFalse, orPass_eq_bind]
  cases pruneKnownFalse (removeRedundant (fun candidate other => candidate.implies other) (dedup terms)) with
  | none => rfl
  | some pruned =>
    rw [Option.bind_some]
    split
    · rename_i ht
      exact (any_of_isTautology p ht).symm
    · rw [anyLeft_some, ← hfactor pruned]
      cases factor pruned with
      | none => rfl
      | some next => exact any_sort p next

theorem holds_settledOr {factor : List Filter → Option (List Filter)}
    (hfactor : ∀ terms, anyLeft p (factor terms) = terms.any (holds p)) (terms : List Filter) :
    (settledOr factor terms).holds p = terms.any (holds p) := by
  have h := elim_settle (anyLeft_orPass p hfactor) maxPasses (flattenOrs terms)
  rw [any_flattenOrs] at h
  rw [settledOr_eq]
  cases hs : settle (orPass factor) maxPasses (flattenOrs terms) with
  | none => rwa [hs] at h
  | some fs =>
    rw [hs] at h
    exact (holds_alternativeOf p fs).trans h

/-- However deep factoring may nest, the meaning stays. -/
theorem holds_simplifyOrWithin (room : Nat) (terms : List Filter) :
    (simplifyOrWithin room terms).holds p = terms.any (holds p) := by
  induction room generalizing terms with
  | zero => exact holds_settledOr p (fun _ => rfl) terms
  | succ room ih => exact holds_settledOr p (anyLeft_factorTerms p ih) terms

/-! ## Whole filters -/

theorem holds_optimiseLeaf (l : Leaf) : (optimiseLeaf l).holds p = l.holds p := by
  unfold optimiseLeaf
  split
  · rename_i key pattern invert
    split
    · rename_i hs
      rw [Optimised.holds_ofBool, Leaf.holds, Matcher.accepts, Pattern.accepts_of_everything hs, Bool.true_bne]
    · exact holds_leaf p (.regex (.exact key) (.pattern pattern) invert)
  · exact (holds_leaf p _).trans (Leaf.holds_simplified l p)

mutual

theorem holds_optimiseOnce : ∀ f : Filter, f.optimiseOnce.holds p = f.holds p
  | leaf l => by rw [optimiseOnce, holds_optimiseLeaf, holds_leaf]
  | and fs => by
    rw [holds_and, ← allLeft_optimiseConjuncts fs, optimiseOnce]
    cases optimiseConjuncts fs with
    | none => rfl
    | some terms => exact holds_simplifyAnd p terms
  | or fs => by
    rw [holds_or, ← anyLeft_optimiseBranches fs, optimiseOnce]
    cases optimiseBranches fs with
    | none => rfl
    | some terms => exact holds_simplifyOrWithin p maxFactoring terms

theorem allLeft_optimiseConjuncts : ∀ fs : List Filter, allLeft p (optimiseConjuncts fs) = fs.all (holds p)
  | [] => rfl
  | f :: fs => by
    rw [List.all_cons, ← holds_optimiseOnce f, ← allLeft_optimiseConjuncts fs, optimiseConjuncts]
    cases optimiseOnce f <;> simp [Optimised.holds]

theorem anyLeft_optimiseBranches : ∀ fs : List Filter, anyLeft p (optimiseBranches fs) = fs.any (holds p)
  | [] => rfl
  | f :: fs => by
    rw [List.any_cons, ← holds_optimiseOnce f, ← anyLeft_optimiseBranches fs, optimiseBranches]
    cases optimiseOnce f <;> simp [Optimised.holds]

end

theorem holds_optimiseMore (passes : Nat) (o : Optimised) : (optimiseMore passes o).holds p = o.holds p := by
  fun_induction optimiseMore passes o with
  | case1 passes f next hs => rfl
  | case2 passes f next _ ih => rw [ih]; exact holds_optimiseOnce p f
  | case3 => rfl

/-- Simplifying a filter does not change which properties it holds of. -/
theorem holds_optimise (f : Filter) : f.optimise.holds p = f.holds p :=
  (holds_optimiseMore p maxPasses f.optimiseOnce).trans (holds_optimiseOnce p f)

/-- A filter, its simplified form and the filter that stands for a verdict hold of the same properties. -/
theorem optimise_keeps_meaning (f : Filter) (p : Properties) :
    f.optimise.holds p = f.holds p ∧ f.optimise.toFilter.holds p = f.holds p := by
  have h := holds_optimise p f
  exact ⟨h, (Optimised.holds_toFilter p f.optimise).trans h⟩

end Filter

end MapTheme
