/-
  MapTheme.Proofs.Filter.Passes — what each step of simplifying gives.

  The steps are matches on what the step before them gave. Here each of them is opened once: its result as an
  equation (`orPass_eq_bind`, `factorTerms_eq`), or what a result shows of the steps in it (`of_andPass`,
  `of_simplifyAnd`, `of_factoredAnd`, and `of_optimiseOnce_and` for a whole filter). What one pass keeps, repeated
  passes keep (`settle_keeps`, `optimiseMore_keeps`).
-/

import MapTheme.Filter.Optimise

namespace MapTheme.Filter

variable [Pattern.Engine] {fs gs : List Filter} {g : Filter}

/-! ## Repetition -/

section Repetition

variable {step : List Filter → Option (List Filter)} {passes : Nat}

theorem settle_of_none (h : step fs = none) : settle step (passes + 1) fs = none := by
  rw [settle, h]

/-- The first pass is the last one, or others follow it. -/
theorem of_settle_succ (h : settle step (passes + 1) fs = some gs) :
    ∃ next, step fs = some next ∧
      ((sameEach next fs = true ∧ gs = next) ∨ (sameEach next fs = false ∧ settle step passes next = some gs)) := by
  rw [settle] at h
  split at h
  · cases h
  · rename_i next hnext
    refine ⟨next, hnext, ?_⟩
    split at h
    · rename_i hsame
      exact .inl ⟨hsame, (Option.some.inj h).symm⟩
    · rename_i hchanged
      exact .inr ⟨Bool.eq_false_iff.mpr hchanged, h⟩

theorem settle_keeps (kept : List Filter → Prop)
    (hstep : ∀ {terms next : List Filter}, kept terms → step terms = some next → kept next)
    (h : kept fs) (hs : settle step passes fs = some gs) : kept gs := by
  induction passes generalizing fs with
  | zero =>
    cases hs
    exact h
  | succ passes ih =>
    obtain ⟨next, hnext, ⟨-, rfl⟩ | ⟨-, hrest⟩⟩ := of_settle_succ hs
    · exact hstep h hnext
    · exact ih (hstep h hnext) hrest

theorem settle_of_fixed (passes : Nat) (h : step fs = some fs) : settle step passes fs = some fs := by
  induction passes with
  | zero => rfl
  | succ passes ih =>
    simp only [settle, h, ih]
    split <;> rfl

/-- A pass whose outcome stays. -/
theorem settle_of_step (passes : Nat) (h : step fs = some gs) (hfixed : step gs = some gs) :
    settle step (passes + 1) fs = some gs := by
  rw [settle, h]
  dsimp only
  rw [settle_of_fixed passes hfixed, ite_self]

end Repetition

/-! ## Known values -/

section Known

variable {known : Known} {f : Filter}

theorem of_assume_and (h : assume known (and fs) = .filter g) :
    ∃ kept, assumeAll known fs = some kept ∧ conjunctionOf kept = .filter g := by
  rw [assume] at h
  split at h
  · cases h
  · exact ⟨_, ‹_›, h⟩

theorem of_assume_or (h : assume known (or fs) = .filter g) :
    ∃ kept, assumeAny known fs = some kept ∧ alternativeOf kept = .filter g := by
  rw [assume] at h
  split at h
  · cases h
  · exact ⟨_, ‹_›, h⟩

theorem of_assumeAll_cons (h : assumeAll known (f :: fs) = some gs) :
    (assume known f = .always ∧ assumeAll known fs = some gs) ∨
      ∃ g more, assume known f = .filter g ∧ assumeAll known fs = some more ∧ gs = g :: more := by
  rw [assumeAll] at h
  split at h
  · exact .inl ⟨‹_›, h⟩
  · cases h
  · obtain ⟨more, hmore, rfl⟩ := Option.map_eq_some_iff.mp h
    exact .inr ⟨_, more, ‹_›, hmore, rfl⟩

theorem of_assumeAny_cons (h : assumeAny known (f :: fs) = some gs) :
    (assume known f = .never ∧ assumeAny known fs = some gs) ∨
      ∃ g more, assume known f = .filter g ∧ assumeAny known fs = some more ∧ gs = g :: more := by
  rw [assumeAny] at h
  split at h
  · cases h
  · exact .inl ⟨‹_›, h⟩
  · obtain ⟨more, hmore, rfl⟩ := Option.map_eq_some_iff.mp h
    exact .inr ⟨_, more, ‹_›, hmore, rfl⟩

end Known

/-! ## Pruning -/

/-- There is nothing to prune by, or the negations of the plain terms. -/
theorem of_pruneKnownFalse (h : pruneKnownFalse fs = some gs) :
    ((fs.filter (!·.isAnd)).filterMap negated? = [] ∧ gs = fs) ∨
      pruneBy ((fs.filter (!·.isAnd)).filterMap negated?) fs = some gs := by
  unfold pruneKnownFalse at h
  dsimp only at h
  split at h
  · rename_i hnone
    exact .inl ⟨List.isEmpty_iff.mp hnone, (Option.some.inj h).symm⟩
  · exact .inr h

/-! ## Conjunctions -/

theorem andPass_eq_bind (terms : List Filter) : andPass terms =
    ((knownValues (dedup terms)).bind (applyKnown · (dedup terms))).bind fun next =>
      let kept := removeRedundant (fun candidate other => other.implies candidate) (dedup (flattenAnds next))
      if hasContradiction kept then none else some (sort kept) := by
  unfold andPass
  dsimp only
  cases (knownValues (dedup terms)).bind (applyKnown · (dedup terms)) <;> rfl

theorem of_andPass (h : andPass fs = some gs) : ∃ known next, applyKnown known (dedup fs) = some next ∧
    gs = sort (removeRedundant (fun candidate other => other.implies candidate) (dedup (flattenAnds next))) := by
  rw [andPass_eq_bind] at h
  obtain ⟨next, hnext, h⟩ := Option.bind_eq_some_iff.mp h
  obtain ⟨known, -, happly⟩ := Option.bind_eq_some_iff.mp hnext
  dsimp only at h
  split at h
  · cases h
  · exact ⟨known, next, happly, (Option.some.inj h).symm⟩

theorem simplifyAnd_eq (terms : List Filter) :
    simplifyAnd terms = (settle andPass maxPasses (flattenAnds terms)).elim .never conjunctionOf := by
  unfold simplifyAnd
  cases settle andPass maxPasses (flattenAnds terms) <;> rfl

theorem of_simplifyAnd (h : simplifyAnd fs = .filter g) :
    ∃ gs, settle andPass maxPasses (flattenAnds fs) = some gs ∧ conjunctionOf gs = .filter g := by
  rw [simplifyAnd_eq] at h
  cases hs : settle andPass maxPasses (flattenAnds fs) with
  | none =>
    rw [hs] at h
    cases h
  | some gs =>
    rw [hs] at h
    exact ⟨gs, rfl, h⟩

/-! ## Factoring -/

/-- What every list of conjuncts has, in the order of the first. -/
def commonOf : List (List Filter) → List Filter
  | [] => []
  | first :: others => first.filter fun c => others.all (memberOf · c)

theorem factorCommonConjuncts_eq (terms : List Filter) : factorCommonConjuncts terms =
    if (terms.filterMap conjunctsOf?).length < 2 ∨ (commonOf (terms.filterMap conjunctsOf?)).isEmpty then none
    else some ⟨terms.filter (!·.isAnd), commonOf (terms.filterMap conjunctsOf?),
      (terms.filterMap conjunctsOf?).map (·.filter (!memberOf (commonOf (terms.filterMap conjunctsOf?)) ·))⟩ := by
  unfold factorCommonConjuncts
  cases terms.filterMap conjunctsOf? with
  | nil => rfl
  | cons first rest =>
    cases rest with
    | nil => rfl
    | cons second others =>
      have hmany : ¬ (first :: second :: others).length < 2 := by simp
      simp only [hmany, false_or, commonOf]

/-- A factored form comes from at least two conjunctions that have something in common. -/
structure FactoredFrom (terms : List Filter) (form : Factored) : Prop where
  several : 2 ≤ (terms.filterMap conjunctsOf?).length
  shared : form.common ≠ []
  plain : form.plain = terms.filter (!·.isAnd)
  common : form.common = commonOf (terms.filterMap conjunctsOf?)
  rests : form.rests = (terms.filterMap conjunctsOf?).map (·.filter (!memberOf form.common ·))

theorem factoredFrom_of_eq {form : Factored} (h : factorCommonConjuncts fs = some form) : FactoredFrom fs form := by
  rw [factorCommonConjuncts_eq] at h
  split at h
  · cases h
  · rename_i hmany
    obtain ⟨hmany, hshared⟩ := not_or.mp hmany
    obtain rfl := Option.some.inj h
    exact ⟨Nat.le_of_not_lt hmany, by simpa using hshared, rfl, rfl, rfl⟩

def filterOf? : Optimised → Option Filter
  | .filter f => some f
  | _ => none

section Factoring

variable {simplifyOr : List Filter → Optimised} {common : List Filter} {rests : List (List Filter)}

theorem factoredAnd_eq_ite (simplifyOr : List Filter → Optimised) (common : List Filter) (rests : List (List Filter)) :
    factoredAnd simplifyOr common rests =
      if (rests.map simplifyAnd).any (·.same .always) then simplifyAnd common
      else match simplifyOr ((rests.map simplifyAnd).filterMap filterOf?) with
        | .always => simplifyAnd common
        | .never => .never
        | .filter rest => simplifyAnd (common ++ [rest]) := rfl

/-- What is common stays alone, or beside the alternative of the rests. -/
theorem of_factoredAnd (h : factoredAnd simplifyOr common rests = .filter g) :
    simplifyAnd common = .filter g ∨
      ∃ rest, simplifyOr ((rests.map simplifyAnd).filterMap filterOf?) = .filter rest ∧
        simplifyAnd (common ++ [rest]) = .filter g := by
  rw [factoredAnd_eq_ite] at h
  split at h
  · exact .inl h
  · split at h
    · exact .inl h
    · cases h
    · rename_i rest hrest
      exact .inr ⟨rest, hrest, h⟩

/-- A filter as terms of an alternative: an alternative gives its own. -/
def asBranches : Filter → List Filter
  | or inner => inner
  | f => [f]

theorem factorTerms_eq (simplifyOr : List Filter → Optimised) (terms : List Filter) : factorTerms simplifyOr terms =
    match factorCommonConjuncts terms with
    | none => some terms
    | some form =>
      match factoredAnd simplifyOr form.common form.rests with
      | .always => none
      | .never => some (dedup form.plain)
      | .filter g => some (dedup (form.plain ++ asBranches g)) := by
  unfold factorTerms
  cases factorCommonConjuncts terms with
  | none => rfl
  | some form =>
    dsimp only
    cases factoredAnd simplifyOr form.common form.rests with
    | always | never => rfl
    | filter g => cases g <;> rfl

/-- Nothing is factored out, or the plain terms stay, alone or beside what the factored form becomes. -/
theorem of_factorTerms (h : factorTerms simplifyOr fs = some gs) :
    gs = fs ∨ ∃ form, factorCommonConjuncts fs = some form ∧
      (gs = dedup form.plain ∨
        ∃ g, factoredAnd simplifyOr form.common form.rests = .filter g ∧ gs = dedup (form.plain ++ asBranches g)) := by
  rw [factorTerms_eq] at h
  split at h
  · exact .inl (Option.some.inj h).symm
  · rename_i form hform
    refine .inr ⟨form, hform, ?_⟩
    split at h
    · cases h
    · exact .inl (Option.some.inj h).symm
    · rename_i g hg
      exact .inr ⟨g, hg, (Option.some.inj h).symm⟩

end Factoring

/-! ## Alternatives -/

section Alternatives

variable {factor : List Filter → Option (List Filter)}

theorem orPass_eq_bind (factor : List Filter → Option (List Filter)) (terms : List Filter) : orPass factor terms =
    (pruneKnownFalse (removeRedundant (fun candidate other => candidate.implies other) (dedup terms))).bind fun kept =>
      if isTautology kept then none else (factor kept).map sort := by
  unfold orPass
  dsimp only
  cases pruneKnownFalse (removeRedundant (fun candidate other => candidate.implies other) (dedup terms)) <;> rfl

theorem of_orPass (h : orPass factor fs = some gs) : ∃ kept left,
    pruneKnownFalse (removeRedundant (fun candidate other => candidate.implies other) (dedup fs)) = some kept ∧
      factor kept = some left ∧ gs = sort left := by
  rw [orPass_eq_bind] at h
  obtain ⟨kept, hkept, h⟩ := Option.bind_eq_some_iff.mp h
  split at h
  · cases h
  · obtain ⟨left, hleft, rfl⟩ := Option.map_eq_some_iff.mp h
    exact ⟨kept, left, hkept, hleft, rfl⟩

theorem settledOr_eq (factor : List Filter → Option (List Filter)) (terms : List Filter) :
    settledOr factor terms = (settle (orPass factor) maxPasses (flattenOrs terms)).elim .always alternativeOf := by
  unfold settledOr
  cases settle (orPass factor) maxPasses (flattenOrs terms) <;> rfl

theorem of_settledOr (h : settledOr factor fs = .filter g) :
    ∃ gs, settle (orPass factor) maxPasses (flattenOrs fs) = some gs ∧ alternativeOf gs = .filter g := by
  rw [settledOr_eq] at h
  cases hs : settle (orPass factor) maxPasses (flattenOrs fs) with
  | none =>
    rw [hs] at h
    cases h
  | some gs =>
    rw [hs] at h
    exact ⟨gs, rfl, h⟩

end Alternatives

/-! ## Whole filters -/

theorem eq_simplified_of_optimiseLeaf {l : Leaf} (h : optimiseLeaf l = .filter g) : g = leaf l.simplified := by
  unfold optimiseLeaf at h
  split at h
  · split at h
    · unfold Optimised.ofBool at h
      split at h <;> cases h
    · cases h
      rfl
  · cases h
    rfl

theorem of_optimiseOnce_and (h : (and fs).optimiseOnce = .filter g) :
    ∃ terms, optimiseConjuncts fs = some terms ∧ simplifyAnd terms = .filter g := by
  rw [optimiseOnce] at h
  split at h
  · cases h
  · exact ⟨_, ‹_›, h⟩

theorem of_optimiseOnce_or (h : (or fs).optimiseOnce = .filter g) :
    ∃ terms, optimiseBranches fs = some terms ∧ simplifyOr terms = .filter g := by
  rw [optimiseOnce] at h
  split at h
  · cases h
  · exact ⟨_, ‹_›, h⟩

theorem of_optimiseConjuncts_cons {f : Filter} (h : optimiseConjuncts (f :: fs) = some gs) :
    (f.optimiseOnce = .always ∧ optimiseConjuncts fs = some gs) ∨
      ∃ g more, f.optimiseOnce = .filter g ∧ optimiseConjuncts fs = some more ∧ gs = g :: more := by
  rw [optimiseConjuncts] at h
  split at h
  · exact .inl ⟨‹_›, h⟩
  · cases h
  · obtain ⟨more, hmore, rfl⟩ := Option.map_eq_some_iff.mp h
    exact .inr ⟨_, more, ‹_›, hmore, rfl⟩

theorem of_optimiseBranches_cons {f : Filter} (h : optimiseBranches (f :: fs) = some gs) :
    (f.optimiseOnce = .never ∧ optimiseBranches fs = some gs) ∨
      ∃ g more, f.optimiseOnce = .filter g ∧ optimiseBranches fs = some more ∧ gs = g :: more := by
  rw [optimiseBranches] at h
  split at h
  · cases h
  · exact .inl ⟨‹_›, h⟩
  · obtain ⟨more, hmore, rfl⟩ := Option.map_eq_some_iff.mp h
    exact .inr ⟨_, more, ‹_›, hmore, rfl⟩

/-- A constant stays, so what is left at the end was left after each pass. -/
theorem of_optimiseMore {passes : Nat} {o : Optimised} (h : optimiseMore passes o = .filter g) :
    ∃ f, o = .filter f := by
  cases o with
  | filter f => exact ⟨f, rfl⟩
  | always | never => cases passes <;> cases h

/-- The filter stays as it is, or there is a further pass. -/
theorem of_optimiseMore_succ {passes : Nat} {f : Filter} (h : optimiseMore (passes + 1) (.filter f) = .filter g) :
    (f.optimiseOnce.same (.filter f) = true ∧ g = f) ∨
      ∃ next, f.optimiseOnce = .filter next ∧ optimiseMore passes (.filter next) = .filter g := by
  rw [optimiseMore] at h
  split at h
  · rename_i hstop
    exact .inl ⟨hstop, (Optimised.filter.inj h).symm⟩
  · obtain ⟨next, hnext⟩ := of_optimiseMore h
    exact .inr ⟨next, hnext, hnext ▸ h⟩

theorem of_optimise {f : Filter} (h : f.optimise = .filter g) :
    ∃ next, f.optimiseOnce = .filter next ∧ optimiseMore maxPasses (.filter next) = .filter g := by
  rw [optimise] at h
  obtain ⟨next, hnext⟩ := of_optimiseMore h
  exact ⟨next, hnext, hnext ▸ h⟩

theorem optimiseMore_keeps (kept : Filter → Prop)
    (hstep : ∀ {f next : Filter}, kept f → f.optimiseOnce = .filter next → kept next) {passes : Nat} {f : Filter}
    (hf : kept f) (h : optimiseMore passes (.filter f) = .filter g) : kept g := by
  induction passes generalizing f with
  | zero =>
    cases h
    exact hf
  | succ passes ih =>
    rcases of_optimiseMore_succ h with ⟨-, rfl⟩ | ⟨next, hnext, hmore⟩
    · exact hf
    · exact ih (hstep hf hnext) hmore

end MapTheme.Filter
