/-
  MapTheme.Proofs.Filter.Opposites — a leaf and its opposite, side by side.

  A conjunction with both never holds and an alternative with both always does. A pass looks for such pairs, but only
  after it has dropped what is redundant: a conjunction drops a leaf that another term implies, an alternative one that
  implies another term. A term that is left stands for a leaf that made way, so the pair is found as long as one of the
  two is left (`hasContradiction_of_opposite`, `orPass_of_opposite`). And where a conjunction keeps a literal value
  instead of a leaf, the next pass finds that this refutes what is left of the opposite (`andPass_of_leaf`).

  So a pair is missed only where both leaves have made way: of a conjunction for combinations, of an alternative for other
  terms of which one is a combination (`optimise_opposites`). Both can happen: of `stools`, an alternative with a tag and
  its opposite, an alternative is left (`optimise_stools`), and of `lawn`, a conjunction with a pattern and its opposite,
  a conjunction (`optimise_lawn`).
-/

import MapTheme.Proofs.Filter.Negation
import MapTheme.Proofs.Filter.Redundancy

namespace MapTheme

/-! ## Leaves -/

namespace Leaf

variable {a b n : Leaf} {key value : String}

/-- An inverted leaf implies no other one. -/
theorem eq_of_inverted_implies {key value : Matcher} (h : (regex key value true).implies b = true) :
    b = regex key value true := by
  have hfixes : (regex key value true).fixes? = none := by cases key <;> cases value <;> rfl
  rcases (implies_iff_of_open hfixes (by simp)).mp h with he | ⟨_, _, he, -⟩
  · exact he.symm
  · cases he

namespace Opposite

variable (h : Opposite a n)
include h

/-- A leaf does not imply its opposite. -/
theorem implies_eq_false : a.implies n = false := by
  rw [Bool.eq_false_iff]
  intro himp
  cases hfixes : a.fixes? with
  | some fixed =>
    have hholds := holds_of_fixes? hfixes
    have hnot := holds_of_implies himp hholds
    rw [h.holds_eq, hholds] at hnot
    cases hnot
  | none =>
    rcases (implies_iff_of_open hfixes h.ne_comparing).mp himp with he | ⟨key, value, rfl, hempty, rfl⟩
    · exact h.ne he
    · exact h.symm.ne_present hfixes rfl

/-- Only a literal value implies another leaf whose opposite is not literal. -/
theorem exists_fixes?_of_implies (ha : a.fixes? = none) (hn : n.fixes? = none) (himp : b.implies a = true) (hne : b ≠ a) :
    ∃ key value, b.fixes? = some (key, value) := by
  cases hfixes : b.fixes? with
  | some fixed => exact ⟨fixed.1, fixed.2, rfl⟩
  | none =>
    by_cases hbound : ∃ key op x, b = comparing key op x
    · obtain ⟨key, op, x, rfl⟩ := hbound
      rcases comparing_implies_iff.mp himp with ⟨op', y, rfl, -⟩ | rfl
      · exact absurd rfl (h.ne_comparing key op' y)
      · exact absurd rfl (h.ne_present hn)
    · rcases (implies_iff_of_open hfixes (by simpa using hbound)).mp himp with rfl | ⟨key, value, -, -, rfl⟩
      · exact absurd rfl hne
      · exact absurd rfl (h.ne_present hn)

/-- Of two opposite leaves one at most implies other leaves. -/
theorem eq_or_eq_of_implies {x y : Leaf} (hx : a.implies x = true) (hy : n.implies y = true) : x = a ∨ y = n := by
  rcases h.inverted with ⟨key, value, rfl⟩ | ⟨key, value, rfl⟩
  · exact .inl (eq_of_inverted_implies hx)
  · exact .inr (eq_of_inverted_implies hy)

end Opposite

end Leaf

namespace Filter

variable {fs gs : List Filter} {f g : Filter} {a n : Leaf} {known : Known} {key value : String}

/-! ## What makes way -/

/-- The terms of a conjunction make both leaves redundant, and not by a literal value: each is implied by a combination,
and neither is a literal itself. -/
structure ImpliedAside (a n : Leaf) (terms : List Filter) : Prop where
  notLiteral : a.fixes? = none ∧ n.fixes? = none
  first : ∃ x ∈ terms, x.isLeaf = false ∧ x.implies (leaf a) = true
  second : ∃ y ∈ terms, y.isLeaf = false ∧ y.implies (leaf n) = true

/-- The terms of an alternative make both leaves redundant, and not both by leaves. -/
def ImpliesAside (a n : Leaf) (terms : List Filter) : Prop :=
  ∃ x ∈ terms, ∃ y ∈ terms, x ≠ leaf a ∧ y ≠ leaf n ∧ (x.isLeaf = false ∨ y.isLeaf = false) ∧
    (leaf a).implies x = true ∧ (leaf n).implies y = true

/-! ## What is found -/

theorem exists_others_of_mem (before : List Filter) (hf : f ∈ fs) (hg : g ∈ before ++ fs) (hne : f ≠ g) :
    ∃ others, (f, others) ∈ withOthers before fs ∧ g ∈ others := by
  induction fs generalizing before with
  | nil => cases hf
  | cons e rest ih =>
    by_cases he : f = e
    · subst he
      refine ⟨before ++ rest, List.mem_cons_self, ?_⟩
      rw [List.perm_middle.mem_iff, List.mem_cons] at hg
      exact hg.resolve_left hne.symm
    · rw [List.append_cons] at hg
      obtain ⟨others, hmem, hothers⟩ := ih _ ((List.mem_cons.mp hf).resolve_left he) hg
      exact ⟨others, List.mem_cons_of_mem _ hmem, hothers⟩

section Pair

variable (ho : Leaf.Opposite a n)
include ho

theorem leaf_not_implies_opposite : (leaf a).implies (leaf n) = false := by
  rw [leaf_implies_leaf, ho.implies_eq_false]

theorem leaf_implies_self : (leaf a).implies (leaf a) = true :=
  implies_of_same (by rw [same]; exact Leaf.same_iff.mpr (.inr ⟨ho.ne_comparing, rfl⟩))

/-- A leaf and a term that implies its opposite are a contradiction. -/
theorem hasContradiction_of_opposite (ha : leaf a ∈ fs) (hg : g ∈ fs) (himp : g.implies (leaf n) = true) :
    hasContradiction fs = true := by
  have hne : leaf a ≠ g := by
    rintro rfl
    rw [leaf_not_implies_opposite ho] at himp
    cases himp
  obtain ⟨others, hmem, hothers⟩ := exists_others_of_mem [] ha hg hne
  refine List.any_eq_true.mpr ⟨_, hmem, ?_⟩
  simp only [negated?, ho.negated, Option.map_some]
  exact List.any_eq_true.mpr ⟨g, hothers, himp⟩

/-- A leaf and a term that its opposite implies are a tautology. -/
theorem isTautology_of_opposite (ha : leaf a ∈ fs) (hg : g ∈ fs) (himp : (leaf n).implies g = true) :
    isTautology fs = true := by
  have hne : leaf a ≠ g := by
    rintro rfl
    rw [leaf_not_implies_opposite ho.symm] at himp
    cases himp
  obtain ⟨others, hmem, hothers⟩ := exists_others_of_mem [] ha hg hne
  refine List.any_eq_true.mpr ⟨_, hmem, ?_⟩
  simp only [negated?, ho.negated, Option.map_some]
  exact List.any_eq_true.mpr ⟨g, hothers, himp⟩

/-! ## Conjunctions -/

/-- Both leaves are there when the terms are compared, and none is a literal: otherwise the value of their key would be
known and refute one of the two. -/
theorem mem_compared_of_opposite (ha : leaf a ∈ fs) (hn : leaf n ∈ fs) (hterms : compared? fs = some gs) :
    leaf a ∈ gs ∧ a.fixes? = none := by
  obtain ⟨known, next, hknown, happly, rfl⟩ := compared?_eq_some hterms
  have ha : leaf a ∈ dedup fs := leaf_mem_dedup ho.ne_comparing ha
  have hn : leaf n ∈ dedup fs := leaf_mem_dedup ho.symm.ne_comparing hn
  have hunknown : ∀ key, a.singleKey? = some key → known.lookup key = none := by
    intro key hkey
    rw [Option.eq_none_iff_forall_ne_some]
    intro value hlookup
    have hholds := holds_of_applyKnown hknown happly hlookup ha (leaf_implies_self ho) hkey
    have hnot := holds_of_applyKnown hknown happly hlookup hn (leaf_implies_self ho.symm) (ho.singleKey?_eq.trans hkey)
    rw [ho.holds_eq, hholds] at hnot
    cases hnot
  have hfixes : a.fixes? = none := by
    rw [Option.eq_none_iff_forall_ne_some]
    rintro ⟨key, value⟩ hfixes
    have hlookup := lookup_of_knownValues hknown (Leaf.eq_tag_of_fixes? ho.simplified_eq hfixes ▸ ha)
    rw [hunknown key (Leaf.singleKey?_of_fixes? hfixes)] at hlookup
    cases hlookup
  have hstays : assume known (leaf a) = .filter (leaf a) := by
    rw [assume, assumeLeaf]
    cases hkey : a.singleKey? with
    | none => rfl
    | some key => simp only [hunknown key hkey]
  have hne : ∀ key value, leaf a ≠ tag key value := by
    intro key value he
    cases he
    cases hfixes
  refine ⟨leaf_mem_dedup ho.ne_comparing (mem_flattenAnds.mpr (.inr ⟨?_, rfl⟩)), hfixes⟩
  rcases mem_applyKnown_of_assume happly ha hne with he | ⟨g, hg, he⟩
  · rw [hstays] at he
    cases he
  · rw [hstays] at he
    cases he
    exact hg

/-- If a leaf made way for another one, then that fixes a value, which refutes what is left of the opposite. -/
theorem andPass_of_leaf {l : Leaf} (ha : a.fixes? = none) (hn : n.fixes? = none) (hmem : leaf l ∈ fs)
    (hsimple : l.simplified = l) (himp : l.implies a = true) (hne : l ≠ a) (hg : g ∈ fs)
    (himp' : g.implies (leaf n) = true) : andPass fs = none := by
  obtain ⟨key, value, hfixes⟩ := ho.exists_fixes?_of_implies ha hn himp hne
  obtain ⟨hkey, hholds⟩ := (Leaf.implies_iff_of_fixes? hfixes).mp himp
  refine andPass_of_refuted (Leaf.eq_tag_of_fixes? hsimple hfixes ▸ hmem) hg himp' (ho.singleKey?_eq.trans hkey) ?_
  rw [ho.holds_eq, hholds]
  rfl

/-- The first pass finds the pair, or the second one does, or both leaves have made way for combinations. -/
theorem andPass_opposites (hsimple : ∀ f ∈ fs, Within (fun l => l.simplified = l) 2 f) (ha : leaf a ∈ fs)
    (hn : leaf n ∈ fs) : andPass fs = none ∨ (∃ terms, compared? fs = some terms ∧ ImpliedAside a n terms) ∨
      ∃ next, andPass fs = some next ∧ leaf a ∉ next ∧ andPass next = none := by
  cases hterms : compared? fs with
  | none => exact .inl (by rw [andPass_eq, hterms]; rfl)
  | some terms =>
    obtain ⟨ha', hfixes⟩ := mem_compared_of_opposite ho ha hn hterms
    obtain ⟨hn', hfixes'⟩ := mem_compared_of_opposite ho.symm hn ha hterms
    obtain ⟨x, hx, hxa⟩ := exists_needed_implying ha' (leaf_implies_self ho)
    obtain ⟨y, hy, hyn⟩ := exists_needed_implying hn' (leaf_implies_self ho.symm)
    rw [andPass_eq, hterms, Option.bind_some]
    cases hfound : hasContradiction (needed terms) with
    | true => exact .inl rfl
    | false =>
      have hdropped : ∀ {l m : Leaf} {g}, Leaf.Opposite l m → g ∈ needed terms → g.implies (leaf m) = true →
          leaf l ∉ needed terms := by
        intro l m g hlm hg himp hl
        rw [hasContradiction_of_opposite hlm hl hg himp] at hfound
        cases hfound
      have ha : leaf a ∉ needed terms := hdropped ho hy hyn
      have hn : leaf n ∉ needed terms := hdropped ho.symm hx hxa
      have hsort : ∀ {f}, f ∈ sort (needed terms) ↔ f ∈ needed terms := (perm_sort _).mem_iff
      have hleaf : ∀ {l}, leaf l ∈ needed terms → l.simplified = l := by
        intro l hl
        have hwithin := compared_within hsimple hterms _ (mem_of_mem_removeRedundant hl)
        rwa [within_leaf] at hwithin
      refine .inr ?_
      -- Both leaves made way. If for another leaf, that is a literal tag, and the next pass knows its value.
      cases x with
      | leaf l =>
        rw [leaf_implies_leaf] at hxa
        have hne : l ≠ a := fun he => ha (he ▸ hx)
        exact .inr ⟨_, rfl, fun hmem => ha (hsort.mp hmem),
          andPass_of_leaf ho hfixes hfixes' (hsort.mpr hx) (hleaf hx) hxa hne (hsort.mpr hy) hyn⟩
      | and | or =>
        cases y with
        | leaf l =>
          rw [leaf_implies_leaf] at hyn
          have hne : l ≠ n := fun he => hn (he ▸ hy)
          exact .inr ⟨_, rfl, fun hmem => ha (hsort.mp hmem),
            andPass_of_leaf ho.symm hfixes' hfixes (hsort.mpr hy) (hleaf hy) hyn hne (hsort.mpr hx) hxa⟩
        | and | or =>
          exact .inl ⟨_, rfl, ⟨hfixes, hfixes'⟩, ⟨_, mem_of_mem_removeRedundant hx, rfl, hxa⟩,
            ⟨_, mem_of_mem_removeRedundant hy, rfl, hyn⟩⟩

theorem simplifyAnd_opposites (hsimple : ∀ f ∈ fs, Within (fun l => l.simplified = l) 2 f) (ha : leaf a ∈ fs)
    (hn : leaf n ∈ fs) :
    simplifyAnd fs = .never ∨ ∃ terms, compared? (flattenAnds fs) = some terms ∧ ImpliedAside a n terms := by
  have hsettle : ∀ {terms}, settle andPass maxPasses terms = none → flattenAnds fs = terms → simplifyAnd fs = .never := by
    intro terms hnone hterms
    rw [simplifyAnd, hterms, hnone]
  have ha' : leaf a ∈ flattenAnds fs := mem_flattenAnds.mpr (.inr ⟨ha, rfl⟩)
  have hn' : leaf n ∈ flattenAnds fs := mem_flattenAnds.mpr (.inr ⟨hn, rfl⟩)
  rcases andPass_opposites ho (flattenAnds_reduces hsimple).within ha' hn' with hnone | haside | ⟨next, hnext, hgone, hnone⟩
  · exact .inl (hsettle (settle_of_none hnone) rfl)
  · exact .inr haside
  · refine .inl (hsettle ?_ rfl)
    have hchanged : sameEach next (flattenAnds fs) = false := by
      rw [Bool.eq_false_iff]
      intro hsame
      obtain ⟨f, hf, hfa⟩ := memberOf_iff.mp (memberOf_of_sameEach hsame ha')
      exact hgone (eq_leaf_of_same ho.ne_comparing hfa ▸ hf)
    rw [maxPasses, settle, hnext]
    dsimp only
    rw [hchanged, settle, hnone]
    rfl

/-! ## Alternatives -/

/-- A leaf that is left and a term that its opposite implies make an alternative true. -/
theorem orPass_of_opposite (factor : List Filter → Option (List Filter)) (ha : leaf a ∈ widest (dedup fs))
    (hg : g ∈ widest (dedup fs)) (himp : (leaf n).implies g = true) : orPass factor fs = none := by
  rw [orPass_eq_bind, ← widest]
  generalize widest (dedup fs) = kept at ha hg
  cases hkept : pruneKnownFalse kept with
  | none => rfl
  | some pruned =>
    have hnegation : leaf n ∈ (kept.filter (!·.isAnd)).filterMap negated? :=
      List.mem_filterMap.mpr ⟨leaf a, List.mem_filter.mpr ⟨ha, rfl⟩, by rw [negated?, ho.negated, Option.map_some]⟩
    rcases of_pruneKnownFalse hkept with ⟨hnone, -⟩ | hpruned
    · rw [hnone] at hnegation
      cases hnegation
    -- A conjunction that the opposite implies would be pruned to nothing; any other term stays beside the leaf.
    have hplain : g.isAnd = false := by
      cases g with
      | leaf | or => rfl
      | and conjuncts =>
        rcases implies_and_iff.mp himp with hsame | hall
        · simp only [same, Bool.false_eq_true] at hsame
        · rw [pruneBy_of_implied hnegation hall hg] at hpruned
          cases hpruned
    have htautology : isTautology pruned = true :=
      isTautology_of_opposite ho (mem_pruneBy hpruned ha rfl) (mem_pruneBy hpruned hg hplain) himp
    rw [Option.bind_some, if_pos htautology]

/-- The pass finds the pair, or both leaves have made way for other terms. -/
theorem orPass_opposites (factor : List Filter → Option (List Filter)) (ha : leaf a ∈ fs) (hn : leaf n ∈ fs) :
    orPass factor fs = none ∨ ImpliesAside a n (dedup fs) := by
  obtain ⟨x, hx, hax⟩ := exists_widest_implied (leaf_mem_dedup ho.ne_comparing ha) (leaf_implies_self ho)
  obtain ⟨y, hy, hny⟩ := exists_widest_implied (leaf_mem_dedup ho.symm.ne_comparing hn) (leaf_implies_self ho.symm)
  by_cases hxa : x = leaf a
  · exact .inl (orPass_of_opposite ho factor (hxa ▸ hx) hy hny)
  by_cases hyn : y = leaf n
  · exact .inl (orPass_of_opposite ho.symm factor (hyn ▸ hy) hx hax)
  refine .inr ⟨x, mem_of_mem_removeRedundant hx, y, mem_of_mem_removeRedundant hy, hxa, hyn, ?_, hax, hny⟩
  cases x with
  | and | or => exact .inl rfl
  | leaf x =>
    cases y with
    | and | or => exact .inr rfl
    | leaf y =>
      rw [leaf_implies_leaf] at hax hny
      rcases ho.eq_or_eq_of_implies hax hny with rfl | rfl
      · exact absurd rfl hxa
      · exact absurd rfl hyn

theorem simplifyOr_opposites (ha : leaf a ∈ fs) (hn : leaf n ∈ fs) :
    simplifyOr fs = .always ∨ ImpliesAside a n (dedup (flattenOrs fs)) := by
  have hflat : ∀ {l}, leaf l ∈ fs → leaf l ∈ flattenOrs fs := by
    intro l hl
    rw [flattenOrs_eq_flatMap]
    exact List.mem_flatMap.mpr ⟨leaf l, hl, List.mem_singleton_self _⟩
  rcases orPass_opposites ho (factorTerms (simplifyOrWithin (maxFactoring - 1))) (hflat ha) (hflat hn)
    with hnone | haside
  · left
    rw [simplifyOr_eq, settledOr_eq, maxPasses, settle_of_none hnone]
    rfl
  · exact .inr haside

end Pair

/-! ## Whole filters -/

/-- A leaf and its opposite are simplified, or a pattern `.*` makes constants of both, of which one is false. -/
theorem optimiseLeaf_opposites (h : a.negated? = some n) :
    (optimiseLeaf a = .filter (leaf a.simplified) ∧ optimiseLeaf n = .filter (leaf n)) ∨
      ∃ b, optimiseLeaf a = .ofBool b ∧ optimiseLeaf n = .ofBool !b := by
  cases a with
  | tag =>
    cases h
    exact .inl ⟨rfl, rfl⟩
  | substituting | comparing => cases h
  | regex key value invert =>
    cases h
    cases key with
    | pattern => exact .inl ⟨rfl, rfl⟩
    | exact key =>
      cases value with
      | exact => cases invert <;> exact .inl ⟨rfl, rfl⟩
      | pattern p =>
        by_cases hsource : p.source = ".*"
        · exact .inr ⟨!invert, by simp [optimiseLeaf, hsource], by simp [optimiseLeaf, Leaf.simplified, hsource]⟩
        · exact .inl ⟨by simp [optimiseLeaf, Leaf.simplified, hsource], by simp [optimiseLeaf, Leaf.simplified, hsource]⟩

/-- Both leaves are among the simplified terms, unless they are constants that decide the conjunction or alternative. -/
theorem mem_simplifiedEach_of_opposites (hneg : a.negated? = some n) (ha : leaf a ∈ fs) (hn : leaf n ∈ fs)
    (hundecided : (∀ f ∈ fs, f.optimiseOnce ≠ .never) ∨ ∀ f ∈ fs, f.optimiseOnce ≠ .always) :
    leaf a.simplified ∈ simplifiedEach fs ∧ leaf n ∈ simplifiedEach fs := by
  rcases optimiseLeaf_opposites hneg with ⟨he, he'⟩ | ⟨b, he, he'⟩
  · exact ⟨mem_simplifiedEach ha he, mem_simplifiedEach hn he'⟩
  · have hboth : (leaf a).optimiseOnce = .ofBool b ∧ (leaf n).optimiseOnce = .ofBool !b := ⟨he, he'⟩
    rcases hundecided with hall | hall <;> cases b
    · exact absurd hboth.1 (hall _ ha)
    · exact absurd hboth.2 (hall _ hn)
    · exact absurd hboth.2 (hall _ hn)
    · exact absurd hboth.1 (hall _ ha)

theorem carries_simplified : Carries (fun _ => True) fun l => l.simplified = l := by
  intro l l' _ h
  obtain rfl := leaf.inj (eq_simplified_of_optimiseLeaf h)
  exact Leaf.simplified_simplified l

/-- The terms of a conjunction as its first pass compares them: simplified, and under the values of its literal tags. -/
def comparedConjuncts? (fs : List Filter) : Option (List Filter) :=
  (optimiseConjuncts fs).bind fun terms => compared? (flattenAnds terms)

/-- The terms of an alternative as its first pass compares them. -/
def comparedBranches? (fs : List Filter) : Option (List Filter) :=
  (optimiseBranches fs).map fun terms => dedup (flattenOrs terms)

theorem optimise_and_opposites (hneg : a.negated? = some n) (ha : leaf a ∈ fs) (hn : leaf n ∈ fs) :
    (and fs).optimise = .never ∨
      ∃ terms, comparedConjuncts? fs = some terms ∧ ImpliedAside a.simplified n terms := by
  have hnever : (and fs).optimiseOnce = .never → (and fs).optimise = .never := fun h => by rw [optimise, h]; rfl
  rw [optimiseOnce] at hnever
  cases hterms : optimiseConjuncts fs with
  | none => exact .inl (hnever (by rw [hterms]))
  | some terms =>
    rw [hterms] at hnever
    obtain ⟨rfl, hundecided⟩ := optimiseConjuncts_eq_some hterms
    obtain ⟨ha, hn⟩ := mem_simplifiedEach_of_opposites hneg ha hn (.inl hundecided)
    have hpassed := optimiseConjuncts_passed carries_simplified (fun f _ => within_of_parts fun _ _ => trivial) hterms
    refine (simplifyAnd_opposites (Leaf.opposite_of_negated? hneg) hpassed.within ha hn).imp hnever fun haside => ?_
    rwa [comparedConjuncts?, hterms]

theorem optimise_or_opposites (hneg : a.negated? = some n) (ha : leaf a ∈ fs) (hn : leaf n ∈ fs) :
    (or fs).optimise = .always ∨
      ∃ terms, comparedBranches? fs = some terms ∧ ImpliesAside a.simplified n terms := by
  have halways : (or fs).optimiseOnce = .always → (or fs).optimise = .always := fun h => by rw [optimise, h]; rfl
  rw [optimiseOnce] at halways
  cases hterms : optimiseBranches fs with
  | none => exact .inl (halways (by rw [hterms]))
  | some terms =>
    rw [hterms] at halways
    obtain ⟨rfl, hundecided⟩ := optimiseBranches_eq_some hterms
    obtain ⟨ha, hn⟩ := mem_simplifiedEach_of_opposites hneg ha hn (.inr hundecided)
    refine (simplifyOr_opposites (Leaf.opposite_of_negated? hneg) ha hn).imp halways fun haside => ⟨_, ?_, haside⟩
    rw [comparedBranches?, hterms, Option.map_some]

/-! ### Lists of leaves -/

theorem plain_of_isLeaf (hf : f.isLeaf = true) : f.isAnd = false ∧ f.isOr = false := by
  cases f with
  | leaf => exact ⟨rfl, rfl⟩
  | and | or => cases hf

theorem isLeaf_simplifiedEach (h : ∀ f ∈ fs, f.isLeaf = true) : ∀ g ∈ simplifiedEach fs, g.isLeaf = true := by
  intro g hg
  obtain ⟨f, hf, he⟩ := List.mem_filterMap.mp hg
  have hleaf := h f hf
  cases f with
  | and | or => cases hleaf
  | leaf l =>
    rw [optimiseOnce] at he
    cases hl : optimiseLeaf l with
    | always | never =>
      rw [hl] at he
      cases he
    | filter g' =>
      rw [hl] at he
      obtain ⟨l', rfl, -⟩ := optimiseLeaf_fixed hl
      cases he
      rfl

theorem isLeaf_applyKnown (h : ∀ f ∈ fs, f.isLeaf = true) (hterms : applyKnown known fs = some gs) :
    ∀ g ∈ gs, g.isLeaf = true := by
  fun_induction applyKnown known fs generalizing gs with
  | case1 =>
    cases hterms
    simp
  | case2 key value rest ih =>
    obtain ⟨more, hmore, rfl⟩ := Option.map_eq_some_iff.mp hterms
    exact List.forall_mem_cons.mpr ⟨rfl, ih (List.forall_mem_cons.mp h).2 hmore⟩
  | case3 f rest _ _ ih => exact ih (List.forall_mem_cons.mp h).2 hterms
  | case4 => cases hterms
  | case5 f rest _ g hg ih =>
    obtain ⟨hf, hrest⟩ := List.forall_mem_cons.mp h
    obtain ⟨more, hmore, rfl⟩ := Option.map_eq_some_iff.mp hterms
    refine List.forall_mem_cons.mpr ⟨?_, ih hrest hmore⟩
    cases f with
    | and | or => cases hf
    | leaf l =>
      rw [assume] at hg
      rw [eq_of_assumeLeaf hg]
      rfl

theorem isLeaf_dedup (h : ∀ f ∈ fs, f.isLeaf = true) : ∀ f ∈ dedup fs, f.isLeaf = true :=
  fun f hf => h f ((dedup_sublist fs).subset hf)

theorem isLeaf_comparedConjuncts (h : ∀ f ∈ fs, f.isLeaf = true) (hterms : comparedConjuncts? fs = some gs) :
    ∀ g ∈ gs, g.isLeaf = true := by
  obtain ⟨terms, hconjuncts, hcompared⟩ := Option.bind_eq_some_iff.mp hterms
  obtain ⟨rfl, -⟩ := optimiseConjuncts_eq_some hconjuncts
  obtain ⟨known, next, -, happly, rfl⟩ := compared?_eq_some hcompared
  have hleaves := isLeaf_simplifiedEach h
  rw [flattenAnds_of_plain fun f hf => (plain_of_isLeaf (hleaves f hf)).1] at happly
  have hnext := isLeaf_applyKnown (isLeaf_dedup hleaves) happly
  rw [flattenAnds_of_plain fun f hf => (plain_of_isLeaf (hnext f hf)).1]
  exact isLeaf_dedup hnext

theorem isLeaf_comparedBranches (h : ∀ f ∈ fs, f.isLeaf = true) (hterms : comparedBranches? fs = some gs) :
    ∀ g ∈ gs, g.isLeaf = true := by
  obtain ⟨terms, hbranches, rfl⟩ := Option.map_eq_some_iff.mp hterms
  obtain ⟨rfl, -⟩ := optimiseBranches_eq_some hbranches
  have hleaves := isLeaf_simplifiedEach h
  rw [flattenOrs_of_plain fun f hf => (plain_of_isLeaf (hleaves f hf)).2]
  exact isLeaf_dedup hleaves

/-! ### Both combinations -/

/-- A conjunction of a leaf and its opposite never holds, and an alternative of them always does. A pass says so, unless
both leaves make way for other terms before it looks; which does not happen among leaves. -/
theorem optimise_opposites (hneg : a.negated? = some n) (ha : leaf a ∈ fs) (hn : leaf n ∈ fs) :
    ((and fs).optimise = .never ∨
      ∃ terms, comparedConjuncts? fs = some terms ∧ ImpliedAside a.simplified n terms) ∧
    ((or fs).optimise = .always ∨
      ∃ terms, comparedBranches? fs = some terms ∧ ImpliesAside a.simplified n terms) ∧
    ((∀ f ∈ fs, f.isLeaf = true) → (and fs).optimise = .never ∧ (or fs).optimise = .always) := by
  have hand := optimise_and_opposites hneg ha hn
  have hor := optimise_or_opposites hneg ha hn
  refine ⟨hand, hor, fun hleaves => ⟨hand.resolve_right ?_, hor.resolve_right ?_⟩⟩
  · rintro ⟨terms, hterms, haside⟩
    obtain ⟨x, hx, hcombination, -⟩ := haside.first
    rw [isLeaf_comparedConjuncts hleaves hterms x hx] at hcombination
    cases hcombination
  · rintro ⟨terms, hterms, x, hx, y, hy, -, -, hcombination, -⟩
    have hall := isLeaf_comparedBranches hleaves hterms
    rcases hcombination with hcombination | hcombination
    · rw [hall x hx] at hcombination
      cases hcombination
    · rw [hall y hy] at hcombination
      cases hcombination

def five : Leaf := .tag "seats" "5"
def notFive : Leaf := .regex (.exact "seats") (.exact "5") true

/-- Among leaves, whatever their order, the pair is found. -/
theorem optimise_opposites_seats : five.negated? = some notFive ∧
    leaf five ∈ [leaf notFive, tag "backrest" "yes", leaf five] ∧
    leaf notFive ∈ [leaf notFive, tag "backrest" "yes", leaf five] ∧
    (∀ f ∈ [leaf notFive, tag "backrest" "yes", leaf five], f.isLeaf = true) ∧
    (and [leaf notFive, tag "backrest" "yes", leaf five]).optimise = .never ∧
    (or [leaf notFive, tag "backrest" "yes", leaf five]).optimise = .always := by
  have hneg : five.negated? = some notFive := rfl
  have hfive : leaf five ∈ [leaf notFive, tag "backrest" "yes", leaf five] := by simp
  have hnotFive : leaf notFive ∈ [leaf notFive, tag "backrest" "yes", leaf five] := by simp
  have hleaves : ∀ f ∈ [leaf notFive, tag "backrest" "yes", leaf five], f.isLeaf = true := by simp [isLeaf, tag]
  exact ⟨hneg, hfive, hnotFive, hleaves, (optimise_opposites hneg hfive hnotFive).2.2 hleaves⟩

/-! ### Pairs that are missed -/

theorem sort_pair_of_le (hle : termLe f g = true) : sort [f, g] = [f, g] := by
  rw [sort_eq_mergeSort]
  exact List.mergeSort_of_pairwise (List.pairwise_pair.mpr hle)

/-- A pass gives back an alternative of two leaves that have nothing to do with each other. -/
theorem fixed_pair {l m : Leaf} {p : Properties} (hl : Fixed (leaf l)) (hm : Fixed (leaf m))
    (hlm : l.implies m = false) (hml : m.implies l = false) (hnone : l.holds p = false ∧ m.holds p = false)
    (hle : termLe (leaf l) (leaf m) = true) : Fixed (or [leaf l, leaf m]) := by
  have hind : Independent [leaf l, leaf m] :=
    List.pairwise_pair.mpr ⟨by rw [leaf_implies_leaf, hlm], by rw [leaf_implies_leaf, hml]⟩
  have hprune : pruneKnownFalse [leaf l, leaf m] = some [leaf l, leaf m] := by simp [pruneKnownFalse, pruneBy]
  have hor : simplifyOr [leaf l, leaf m] = .filter (or [leaf l, leaf m]) :=
    simplifyOr_of_independent (p := p) (by simp [hnone]) (by simp [isOr]) hind (by simp) hprune rfl
      (sort_pair_of_le hle)
  rw [Fixed, optimiseOnce, optimiseBranches_of_fixed (by simp [hl, hm])]
  exact hor

/-! #### In an alternative -/

def seated : Filter := leaf (.comparing "seats" .greater (.finite false 0))

def unlessFive (key : String) : Filter := or [tag key "yes", leaf notFive]

def shelter : Filter := and [unlessFive "backrest", unlessFive "covered"]

/-- Five seats are some seats, and without five seats both parts of the conjunction hold; so the tag and its opposite are
redundant before a pass looks for them. -/
def stools : List Filter := [leaf five, leaf notFive, seated, shelter]

theorem fixed_unlessFive {key : String} (hkey : key ≠ "seats") : Fixed (unlessFive key) := by
  refine fixed_pair (p := ⟨[("seats", "5")], by simp⟩) rfl rfl ?_ ?_ ⟨?_, by decide⟩ ?_
  · simp [notFive, Leaf.implies, Leaf.same, Leaf.impliesOther, Leaf.fixes?, Leaf.singleKey?, hkey.symm]
  · simp [notFive, Leaf.implies, Leaf.same, Leaf.impliesOther, Leaf.fixes?]
  · simp [Leaf.holds, Properties.value, Properties.get?, List.lookup_cons, beq_false_of_ne hkey]
  · simp [termLe, keyLe, rank, notFive]

theorem fixed_shelter : Fixed shelter := by
  have hsort : sort [unlessFive "backrest", unlessFive "covered"] = [unlessFive "backrest", unlessFive "covered"] :=
    sort_pair_of_le (by decide)
  have hind : Independent [unlessFive "backrest", unlessFive "covered"] :=
    List.pairwise_pair.mpr ⟨by decide, by decide⟩
  have hstays : ∀ known, Knows [unlessFive "backrest", unlessFive "covered"] known →
      ∀ f ∈ [unlessFive "backrest", unlessFive "covered"], Becomes known f f := by
    intro known hknows
    have hnone : ∀ key, known.lookup key = none := fun key =>
      hknows.lookup_eq_none (by simp [tag, unlessFive])
    simp [Becomes, unlessFive, tag, notFive, assume, assumeAny, assumeLeaf, Leaf.singleKey?, hnone, alternativeOf]
  have hand : simplifyAnd [unlessFive "backrest", unlessFive "covered"] = .filter shelter := by
    rw [simplifyAnd_of_independent (p := .empty) (by simp [unlessFive, notFive, Leaf.holds, Matcher.accepts]; decide)
      (by simp [unlessFive, isAnd]) hind (by simp) hstays, hsort, shelter]
  have hbackrest : Fixed (unlessFive "backrest") := fixed_unlessFive (by decide)
  have hcovered : Fixed (unlessFive "covered") := fixed_unlessFive (by decide)
  rw [Fixed, shelter, optimiseOnce, optimiseConjuncts_of_fixed (by simp [hbackrest, hcovered])]
  exact hand

/-- Five seats are some seats, and other than five seats make a shelter; nothing else follows. -/
theorem widest_stools : widest (dedup stools) = [seated, shelter] ∧ widest (dedup [seated, shelter]) = [seated, shelter] := by
  have hfive : (leaf five).implies seated = true := by decide +kernel
  have hnotFive : (leaf notFive).implies shelter = true := by decide
  have hnotSeated : (leaf notFive).implies seated = false := by decide
  have hind : Independent [seated, shelter] := List.pairwise_pair.mpr ⟨by decide, by decide⟩
  have hall : widest [seated, shelter] = [seated, shelter] := removeRedundant_implying hind
  have hdedup : dedup stools = stools := rfl
  refine ⟨?_, by rw [dedup_of_apart hind.apart, hall]⟩
  rw [hdedup, ← hall]
  simp [widest, removeRedundant, removeRedundantAfter, stools, hfive, hnotFive, hnotSeated]

theorem optimise_stools : (or stools).optimise = .filter (or [seated, shelter]) := by
  have hsort : sort [seated, shelter] = [seated, shelter] := sort_pair_of_le rfl
  have hpass : ∀ {terms}, widest (dedup terms) = [seated, shelter] →
      orPass (factorTerms (simplifyOrWithin (maxFactoring - 1))) terms = some [seated, shelter] := by
    intro terms hterms
    have hprune : pruneKnownFalse [seated, shelter] = some [seated, shelter] := rfl
    have htautology : isTautology [seated, shelter] = false := rfl
    have hfactor : factorTerms (simplifyOrWithin (maxFactoring - 1)) [seated, shelter] = some [seated, shelter] := rfl
    rw [orPass_eq_bind, ← widest, hterms, hprune, Option.bind_some, htautology, hfactor]
    simp [hsort]
  have hagain := hpass widest_stools.2
  have hsettled : ∀ {terms}, flattenOrs terms = terms → widest (dedup terms) = [seated, shelter] →
      simplifyOr terms = .filter (or [seated, shelter]) := by
    intro terms hflat hterms
    rw [simplifyOr_eq, settledOr, hflat, maxPasses, settle_of_step _ (hpass hterms) hagain]
    rfl
  have hseated : Fixed seated := rfl
  have hfixed : Fixed (or [seated, shelter]) := by
    rw [Fixed, optimiseOnce, optimiseBranches_of_fixed (by simp [hseated, fixed_shelter])]
    exact hsettled rfl widest_stools.2
  have honce : (or stools).optimiseOnce = .filter (or [seated, shelter]) := by
    have hfive : Fixed (leaf five) := rfl
    have hnotFive : Fixed (leaf notFive) := rfl
    rw [optimiseOnce, optimiseBranches_of_fixed (by simp [stools, hfive, hnotFive, hseated, fixed_shelter])]
    exact hsettled rfl widest_stools.1
  rw [optimise, honce]
  exact optimiseMore_of_fixed maxPasses hfixed

/-! #### In a conjunction -/

def surface (value : Matcher) (invert : Bool) : Leaf := .regex (.exact "surface") value invert

def either (u v : String) : Filter := or [tag "surface" u, tag "surface" v]

def green : Filter := either "grass" "grass_paver"
def dry : Filter := either "gravel" "sand"

/-- A surface that is like grass and is not, while it is one of two greens and one of two others. -/
def lawn (p : Pattern) : List Filter := [leaf (surface (.pattern p) false), leaf (surface (.pattern p) true), green, dry]

theorem fixed_either {u v : String} (hne : u ≠ v) (hle : termLe (tag "surface" u) (tag "surface" v) = true)
    (hu : u ≠ "") (hv : v ≠ "") : Fixed (either u v) := by
  refine fixed_pair (p := .empty) rfl rfl ?_ ?_ ⟨?_, ?_⟩ hle
  · simp [Leaf.implies, Leaf.same, Leaf.impliesOther, Leaf.fixes?, Leaf.singleKey?, Leaf.holds, hne]
  · simp [Leaf.implies, Leaf.same, Leaf.impliesOther, Leaf.fixes?, Leaf.singleKey?, Leaf.holds, hne.symm]
  · simpa [Leaf.holds, Properties.value, Properties.get?, Properties.empty] using hu.symm
  · simpa [Leaf.holds, Properties.value, Properties.get?, Properties.empty] using hv.symm

theorem either_implies {u v : String} {l : Leaf} (hkey : l.singleKey? = some "surface")
    (hu : l.holds (.assigned "surface" u) = true) (hv : l.holds (.assigned "surface" v) = true) :
    (either u v).implies (leaf l) = true := by
  refine (or_implies_iff rfl).mpr (.inr ?_)
  simp only [List.forall_mem_cons, tag, leaf_implies_leaf]
  exact ⟨(Leaf.implies_iff_of_fixes? rfl).mpr ⟨hkey, hu⟩, (Leaf.implies_iff_of_fixes? rfl).mpr ⟨hkey, hv⟩, by simp⟩

/-- No value is known, so the terms are compared as they are. -/
theorem compared_lawn (p : Pattern) :
    compared? (lawn p) = some (lawn p) ∧ compared? [green, dry] = some [green, dry] := by
  have hlawn : dedup (lawn p) = lawn p := by
    refine dedup_of_apart ?_
    simp only [Apart, lawn, List.pairwise_cons, List.forall_mem_cons, List.not_mem_nil, IsEmpty.forall_iff, implies_true,
      List.Pairwise.nil, and_true]
    simp [surface, green, dry, either, tag, same, sameEach, Leaf.same]
  have hpair : dedup [green, dry] = [green, dry] := rfl
  have happly : applyKnown [] (lawn p) = some (lawn p) := rfl
  have hflat : flattenAnds (lawn p) = lawn p := rfl
  constructor
  · rw [compared?, hlawn]
    exact congrArg some (show dedup (flattenAnds (lawn p)) = lawn p by rw [hflat, hlawn])
  · rw [compared?, hpair]
    rfl

/-- The greens are like grass and the others are not; nothing else follows. -/
theorem needed_lawn {p : Pattern} (hgreen : p.accepts "grass" = true ∧ p.accepts "grass_paver" = true)
    (hdry : p.accepts "gravel" = false ∧ p.accepts "sand" = false) :
    needed (lawn p) = [green, dry] ∧ needed [green, dry] = [green, dry] := by
  have hlike : green.implies (leaf (surface (.pattern p) false)) = true := by
    refine either_implies rfl ?_ ?_ <;> simp [surface, Leaf.holds, Matcher.accepts, hgreen]
  have hunlike : dry.implies (leaf (surface (.pattern p) true)) = true := by
    refine either_implies rfl ?_ ?_ <;> simp [surface, Leaf.holds, Matcher.accepts, hdry]
  have hind : Independent [green, dry] := List.pairwise_pair.mpr ⟨by decide, by decide⟩
  have hall : needed [green, dry] = [green, dry] := removeRedundant_implied hind
  refine ⟨?_, hall⟩
  rw [← hall]
  simp [needed, removeRedundant, removeRedundantAfter, lawn, hlike, hunlike]

theorem optimise_lawn {p : Pattern} (hsource : p.source ≠ ".*")
    (hgreen : p.accepts "grass" = true ∧ p.accepts "grass_paver" = true)
    (hdry : p.accepts "gravel" = false ∧ p.accepts "sand" = false) :
    (and (lawn p)).optimise = .filter (and [green, dry]) := by
  obtain ⟨hcompared, hcompared'⟩ := compared_lawn p
  obtain ⟨hneeded, hneeded'⟩ := needed_lawn hgreen hdry
  have hsort : sort [green, dry] = [green, dry] := sort_pair_of_le (by decide)
  have hfound : hasContradiction [green, dry] = false := rfl
  have hpass : ∀ {terms}, compared? terms = some terms → needed terms = [green, dry] →
      andPass terms = some [green, dry] := by
    intro terms hterms hleft
    rw [andPass_eq, hterms, Option.bind_some, hleft, hfound, hsort]
    rfl
  have hsettled : ∀ {terms}, flattenAnds terms = terms → andPass terms = some [green, dry] →
      simplifyAnd terms = .filter (and [green, dry]) := by
    intro terms hflat hterms
    rw [simplifyAnd, hflat, maxPasses, settle_of_step _ hterms (hpass hcompared' hneeded')]
    rfl
  have hgreenFixed : Fixed green := fixed_either (by decide) (by decide) (by decide) (by decide)
  have hdryFixed : Fixed dry := fixed_either (by decide) (by decide) (by decide) (by decide)
  have hfixed : Fixed (and [green, dry]) := by
    rw [Fixed, optimiseOnce, optimiseConjuncts_of_fixed (by simp [hgreenFixed, hdryFixed])]
    exact hsettled rfl (hpass hcompared' hneeded')
  have honce : (and (lawn p)).optimiseOnce = .filter (and [green, dry]) := by
    have hleaf : ∀ invert, Fixed (leaf (surface (.pattern p) invert)) := by
      simp [Fixed, optimiseOnce, optimiseLeaf, surface, hsource]
    rw [optimiseOnce, optimiseConjuncts_of_fixed (by simp [lawn, hleaf, hgreenFixed, hdryFixed])]
    exact hsettled rfl (hpass hcompared hneeded)
  rw [optimise, honce]
  exact optimiseMore_of_fixed maxPasses hfixed

/-- Passes drop both leaves, be it from a conjunction or from an alternative. -/
theorem opposites_missed :
    (∃ (a n : Leaf) (fs : List Filter), a.negated? = some n ∧ leaf a ∈ fs ∧ leaf n ∈ fs ∧ (and fs).optimise ≠ .never) ∧
      ∃ (a n : Leaf) (fs : List Filter), a.negated? = some n ∧ leaf a ∈ fs ∧ leaf n ∈ fs ∧ (or fs).optimise ≠ .always := by
  constructor
  · obtain ⟨p, hp⟩ := Option.isSome_iff_exists.mp (show ((Pattern.ofSource "grass.*").toOption.filter fun p =>
      p.source ≠ ".*" ∧ (p.accepts "grass" ∧ p.accepts "grass_paver") ∧ p.accepts "gravel" = false ∧
        p.accepts "sand" = false).isSome = true by decide +kernel)
    obtain ⟨hsource, hgreen, hdry⟩ := of_decide_eq_true (Option.filter_eq_some_iff.mp hp).2
    refine ⟨surface (.pattern p) false, surface (.pattern p) true, lawn p, rfl, by simp [lawn], by simp [lawn], ?_⟩
    rw [optimise_lawn hsource hgreen hdry]
    simp
  · refine ⟨five, notFive, stools, rfl, by simp [stools], by simp [stools], ?_⟩
    rw [optimise_stools]
    simp

end Filter

end MapTheme
