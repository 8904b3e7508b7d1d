/-
  MapTheme.Proofs.Filter.Independent — terms that a pass has nothing to say about.

  Where no term implies another one, none is dropped. Where all terms of a conjunction hold of some feature, no
  contradiction is found, and where no term of an alternative holds of some feature, no tautology. So a pass over
  such terms does no more than sort them, and put in what the known values make of each (`simplifyAnd_map`,
  `simplifyOr_of_independent`).
-/

import MapTheme.Proofs.Filter.Implication
import MapTheme.Proofs.Filter.Factoring

namespace MapTheme.Filter

variable {fs gs : List Filter} {p : Properties}

/-! ## Independent terms -/

/-- No term implies another one. -/
def Independent (fs : List Filter) : Prop := fs.Pairwise fun f g => f.implies g = false ∧ g.implies f = false

/-- A feature of which one filter holds and another one does not tells them apart. -/
theorem implies_eq_false {f g : Filter} (p : Properties) (hf : f.holds p = true) (hg : g.holds p = false) :
    f.implies g = false := by
  rw [Bool.eq_false_iff]
  intro h
  rw [holds_of_implies h hf] at hg
  cases hg

theorem implies_of_same {f g : Filter} (h : f.same g = true) : f.implies g = true := by
  cases f <;> cases g <;> simp only [same, Bool.false_eq_true] at h <;>
    simp [implies, impliedByLeaf, impliedByParts, Leaf.implies, same, h]

theorem Independent.of_perm (h : Independent fs) (hp : gs.Perm fs) : Independent gs :=
  (hp.pairwise_iff fun hfg => hfg.symm).mpr h

theorem Independent.apart (h : Independent fs) : Apart fs := by
  refine h.imp ?_
  rintro f g ⟨hfg, -⟩
  rw [Bool.eq_false_iff]
  intro hsame
  rw [implies_of_same hsame] at hfg
  cases hfg

theorem dedupAfter_of_apart {kept fs : List Filter} (h : Apart (kept ++ fs)) : dedupAfter kept fs = kept ++ fs := by
  induction fs generalizing kept with
  | nil => rw [dedupAfter, List.append_nil]
  | cons f rest ih =>
    have hnew : memberOf kept f = false := by
      rw [memberOf, List.any_eq_false]
      intro g hg
      rw [(List.pairwise_append.mp h).2.2 g hg f List.mem_cons_self]
      simp
    rw [List.append_cons] at h ⊢
    rw [dedupAfter, hnew]
    exact ih h

theorem dedup_of_apart (h : Apart fs) : dedup fs = fs := dedupAfter_of_apart h

theorem removeRedundantAfter_of_none {redundant : Filter → Filter → Bool} {kept fs : List Filter}
    (h : (kept ++ fs).Pairwise fun f g => redundant f g = false ∧ redundant g f = false) :
    removeRedundantAfter redundant kept fs = kept ++ fs := by
  induction fs generalizing kept with
  | nil => rw [removeRedundantAfter, List.append_nil]
  | cons f rest ih =>
    have hneeded : (kept ++ rest).any (redundant f) = false := by
      obtain ⟨-, hfirst, hacross⟩ := List.pairwise_append.mp h
      rw [List.any_eq_false]
      intro g hg
      rcases List.mem_append.mp hg with hg | hg
      · rw [(hacross g hg f List.mem_cons_self).2]
        simp
      · rw [((List.pairwise_cons.mp hfirst).1 g hg).1]
        simp
    rw [List.append_cons] at h ⊢
    rw [removeRedundantAfter, hneeded]
    exact ih h

theorem removeRedundant_implied (h : Independent fs) :
    removeRedundant (fun candidate other => other.implies candidate) fs = fs :=
  removeRedundantAfter_of_none (h.imp fun hfg => hfg.symm)

theorem removeRedundant_implying (h : Independent fs) :
    removeRedundant (fun candidate other => candidate.implies other) fs = fs :=
  removeRedundantAfter_of_none h

theorem hasContradiction_of_all (h : ∀ f ∈ fs, f.holds p = true) : hasContradiction fs = false := by
  rw [Bool.eq_false_iff]
  intro hfound
  have hall : fs.all (holds p) = true := List.all_eq_true.mpr h
  rw [all_of_hasContradiction p hfound] at hall
  cases hall

theorem isTautology_of_none (h : ∀ f ∈ fs, f.holds p = false) : isTautology fs = false := by
  rw [Bool.eq_false_iff]
  intro hfound
  obtain ⟨f, hf, hholds⟩ := List.any_eq_true.mp (any_of_isTautology p hfound)
  rw [h f hf] at hholds
  cases hholds

theorem flattenAnds_of_plain (h : ∀ f ∈ fs, f.isAnd = false) : flattenAnds fs = fs := by
  induction fs with
  | nil => rfl
  | cons f rest ih =>
    obtain ⟨hf, hrest⟩ := List.forall_mem_cons.mp h
    cases f with
    | leaf | or => rw [flattenAnds, ih hrest]; simp
    | and => cases hf

theorem flattenOrs_of_plain (h : ∀ f ∈ fs, f.isOr = false) : flattenOrs fs = fs := by
  induction fs with
  | nil => rfl
  | cons f rest ih =>
    obtain ⟨hf, hrest⟩ := List.forall_mem_cons.mp h
    cases f with
    | leaf | and => rw [flattenOrs, ih hrest]; simp
    | or => cases hf

/-- Terms in the order of their ranks are sorted. -/
theorem sort_of_ranks (h : fs.Pairwise fun f g => f.rank < g.rank) : sort fs = fs := by
  rw [sort_eq_mergeSort]
  refine List.mergeSort_of_pairwise (h.imp ?_)
  intro f g hfg
  rw [termLe, keyLe_iff]
  exact .inl hfg

/-! ## Known values -/

/-- The known values are those of the literal tags among the terms. -/
def Knows (terms : List Filter) (known : Known) : Prop :=
  ∀ key value, known.lookup key = some value ↔ tag key value ∈ terms

theorem Knows.lookup_eq_none {terms : List Filter} {known : Known} (h : Knows terms known) {key : String}
    (hterms : ∀ value, tag key value ∉ terms) : known.lookup key = none := by
  rw [Option.eq_none_iff_forall_ne_some]
  intro value hvalue
  exact hterms value ((h key value).mp hvalue)

theorem Knows.cons {terms : List Filter} {known : Known} {f : Filter} (h : Knows terms known)
    (hne : ∀ key value, f ≠ tag key value) : Knows (f :: terms) known := by
  intro key value
  rw [h key value, List.mem_cons, or_iff_right (hne key value).symm]

theorem Knows.cons_again {terms : List Filter} {known : Known} {key value : String} (h : Knows terms known)
    (hlookup : known.lookup key = some value) : Knows (tag key value :: terms) known := by
  intro key' value'
  rw [h key' value', List.mem_cons]
  refine (or_iff_right_of_imp ?_).symm
  rintro he
  cases he
  exact (h key value).mp hlookup

theorem Knows.cons_new {terms : List Filter} {known : Known} {key : String} (h : Knows terms known)
    (hlookup : known.lookup key = none) (value : String) : Knows (tag key value :: terms) ((key, value) :: known) := by
  intro key' value'
  rw [List.lookup_cons, List.mem_cons]
  by_cases hkey : key' = key
  · subst hkey
    have hnew : tag key' value' ∉ terms := by
      rw [← h, hlookup]
      simp
    rw [or_iff_left hnew, beq_self_eq_true]
    simp [tag, eq_comm]
  · have hne : tag key' value' ≠ tag key value := by simp [tag, hkey]
    rw [or_iff_right hne, beq_false_of_ne hkey, ← h]

/-- The literal tags of terms that all hold of some feature do not disagree. -/
theorem knownValues_of_all (h : ∀ f ∈ fs, f.holds p = true) : ∃ known, knownValues fs = some known ∧ Knows fs known := by
  induction fs with
  | nil => exact ⟨[], rfl, by simp [Knows]⟩
  | cons f rest ih =>
    obtain ⟨hf, hrest⟩ := List.forall_mem_cons.mp h
    obtain ⟨known, hknown, hknows⟩ := ih hrest
    by_cases htag : ∃ key value, f = tag key value
    · obtain ⟨key, value, rfl⟩ := htag
      have htrue : ∀ {value}, (tag key value).holds p = true → p.value key = value := by
        simp [tag, Leaf.holds]
      cases hlookup : known.lookup key with
      | none => exact ⟨_, by simp [tag, knownValues, hknown, hlookup], hknows.cons_new hlookup value⟩
      | some other =>
        have hsame : other = value := (htrue (hrest _ ((hknows key other).mp hlookup))).symm.trans (htrue hf)
        subst hsame
        exact ⟨known, by simp [tag, knownValues, hknown, hlookup], hknows.cons_again hlookup⟩
    · have hne : ∀ key value, f ≠ tag key value := fun key value he => htag ⟨key, value, he⟩
      refine ⟨known, ?_, hknows.cons hne⟩
      rw [knownValues, hknown]
      exact hne

/-- What a term becomes beside known values: a literal tag stays. -/
def Becomes (known : Known) (f g : Filter) : Prop :=
  (∃ key value, f = tag key value ∧ g = f) ∨ ((∀ key value, f ≠ tag key value) ∧ assume known f = .filter g)

variable {ι : Type} {is : List ι} {s t : ι → Filter} {known : Known}

theorem applyKnown_map (h : ∀ i ∈ is, Becomes known (s i) (t i)) : applyKnown known (is.map s) = some (is.map t) := by
  induction is with
  | nil => rfl
  | cons i rest ih =>
    obtain ⟨hi, hrest⟩ := List.forall_mem_cons.mp h
    rw [List.map_cons, List.map_cons]
    rcases hi with ⟨key, value, hs, ht⟩ | ⟨hs, ht⟩
    · rw [ht, hs, tag, applyKnown, ih hrest]
      rfl
    · rw [applyKnown, ht, ih hrest]
      · rfl
      · exact hs

/-! ## Conjunctions -/

/-- A pass puts in what the known values make of the terms, and sorts. -/
theorem andPass_map (hs : ∀ i ∈ is, (s i).holds p = true) (ht : ∀ i ∈ is, (t i).holds p = true)
    (hplain : ∀ i ∈ is, (t i).isAnd = false) (hapart : Apart (is.map s)) (hind : Independent (is.map t))
    (hbecomes : ∀ known, Knows (is.map s) known → ∀ i ∈ is, Becomes known (s i) (t i)) :
    andPass (is.map s) = some (sort (is.map t)) := by
  obtain ⟨known, hknown, hknows⟩ := knownValues_of_all (List.forall_mem_map.mpr hs)
  rw [andPass_eq_bind, dedup_of_apart hapart, hknown, Option.bind_some, applyKnown_map (hbecomes known hknows),
    Option.bind_some]
  dsimp only
  rw [flattenAnds_of_plain (List.forall_mem_map.mpr hplain), dedup_of_apart hind.apart, removeRedundant_implied hind,
    hasContradiction_of_all (List.forall_mem_map.mpr ht)]
  rfl

theorem exists_perm_of_perm_map (h : gs.Perm (is.map t)) : ∃ js : List ι, js.Perm is ∧ gs = js.map t := by
  generalize hm : is.map t = ms at h
  induction h generalizing is with
  | nil =>
    obtain rfl := List.map_eq_nil_iff.mp hm
    exact ⟨[], .refl _, rfl⟩
  | cons x _ ih =>
    obtain ⟨i, rest, rfl, rfl, hrest⟩ := List.map_eq_cons_iff.mp hm
    obtain ⟨js, hjs, rfl⟩ := ih hrest
    exact ⟨i :: js, hjs.cons i, rfl⟩
  | swap x y rest =>
    obtain ⟨i, more, rfl, rfl, hmore⟩ := List.map_eq_cons_iff.mp hm
    obtain ⟨j, more, rfl, rfl, rfl⟩ := List.map_eq_cons_iff.mp hmore
    exact ⟨j :: i :: more, .swap i j more, rfl⟩
  | trans _ _ ih ih' =>
    obtain ⟨js, hjs, rfl⟩ := ih' hm
    obtain ⟨ks, hks, rfl⟩ := ih rfl
    exact ⟨ks, hks.trans hjs, rfl⟩

/-- A conjunction in which the known values change some terms, and nothing of what is left. -/
theorem simplifyAnd_map (hs : ∀ i ∈ is, (s i).holds p = true) (ht : ∀ i ∈ is, (t i).holds p = true)
    (hplain : ∀ i ∈ is, (s i).isAnd = false ∧ (t i).isAnd = false) (hapart : Apart (is.map s))
    (hind : Independent (is.map t)) (hlength : 2 ≤ is.length)
    (hbecomes : ∀ known, Knows (is.map s) known → ∀ i ∈ is, Becomes known (s i) (t i))
    (hstays : ∀ known, Knows (is.map t) known → ∀ i ∈ is, Becomes known (t i) (t i)) :
    simplifyAnd (is.map s) = .filter (and (sort (is.map t))) := by
  have hflat : flattenAnds (is.map s) = is.map s :=
    flattenAnds_of_plain (List.forall_mem_map.mpr fun i hi => (hplain i hi).1)
  have hpass := andPass_map hs ht (fun i hi => (hplain i hi).2) hapart hind hbecomes
  obtain ⟨js, hjs, hsorted⟩ := exists_perm_of_perm_map (perm_sort (is.map t))
  have hagain : andPass (sort (is.map t)) = some (sort (is.map t)) := by
    have hmem : ∀ {j}, j ∈ js → j ∈ is := fun hj => hjs.mem_iff.mp hj
    have hindj : Independent (js.map t) := hind.of_perm (hjs.map t)
    have hpassj : andPass (js.map t) = some (sort (js.map t)) := by
      refine andPass_map (fun j hj => ht j (hmem hj)) (fun j hj => ht j (hmem hj)) (fun j hj => (hplain j (hmem hj)).2)
        hindj.apart hindj ?_
      intro known hknows j hj
      refine hstays known (fun key value => ?_) j (hmem hj)
      rw [hknows, (hjs.map t).mem_iff]
    rw [hsorted, hpassj, ← hsorted, sort_sort]
  have hsettle : settle andPass maxPasses (is.map s) = some (sort (is.map t)) := settle_of_step _ hpass hagain
  have hmany : 2 ≤ (sort (is.map t)).length := by rw [(perm_sort (is.map t)).length_eq, List.length_map]; exact hlength
  rw [simplifyAnd, hflat, hsettle]
  exact conjunctionOf_of_two_le hmany

/-- Terms of which the known values change none stay, in order. -/
theorem simplifyAnd_of_independent (hall : ∀ f ∈ fs, f.holds p = true) (hplain : ∀ f ∈ fs, f.isAnd = false)
    (hind : Independent fs) (hlength : 2 ≤ fs.length)
    (hstays : ∀ known, Knows fs known → ∀ f ∈ fs, Becomes known f f) : simplifyAnd fs = .filter (and (sort fs)) := by
  have hid : fs.map id = fs := List.map_id fs
  have hrun := simplifyAnd_map (s := id) (t := id) hall hall (fun f hf => ⟨hplain f hf, hplain f hf⟩)
    (hid.symm ▸ hind.apart) (hid.symm ▸ hind) hlength (hid.symm ▸ hstays) (hid.symm ▸ hstays)
  rwa [hid] at hrun

theorem optimiseConjuncts_map (h : ∀ i ∈ is, (s i).optimiseOnce = .filter (t i)) :
    optimiseConjuncts (is.map s) = some (is.map t) := by
  induction is with
  | nil => rfl
  | cons i rest ih =>
    obtain ⟨hi, hrest⟩ := List.forall_mem_cons.mp h
    simp only [List.map_cons, optimiseConjuncts, hi, ih hrest, Option.map_some]

/-! ## Alternatives -/

theorem simplifyOr_eq (fs : List Filter) :
    simplifyOr fs = settledOr (factorTerms (simplifyOrWithin (maxFactoring - 1))) fs := rfl

/-- An alternative of which nothing is pruned and nothing can be factored out, and which is sorted. -/
theorem simplifyOr_of_independent (hnone : ∀ f ∈ fs, f.holds p = false) (hplain : ∀ f ∈ fs, f.isOr = false)
    (hind : Independent fs) (hlength : 2 ≤ fs.length) (hprune : pruneKnownFalse fs = some fs)
    (hfactor : factorCommonConjuncts fs = none) (hsort : sort fs = fs) : simplifyOr fs = .filter (or fs) := by
  have hpass : orPass (factorTerms (simplifyOrWithin (maxFactoring - 1))) fs = some fs := by
    rw [orPass_eq_bind, dedup_of_apart hind.apart, removeRedundant_implying hind, hprune, Option.bind_some,
      isTautology_of_none hnone, factorTerms_eq, hfactor]
    simp only [Bool.false_eq_true, if_false, Option.map_some, hsort]
  rw [simplifyOr_eq, settledOr, flattenOrs_of_plain hplain, settle_of_fixed _ hpass]
  exact alternativeOf_of_two_le hlength

end MapTheme.Filter
