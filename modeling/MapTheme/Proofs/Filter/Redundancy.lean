/-
  MapTheme.Proofs.Filter.Redundancy — what stands for the terms that a pass drops.

  A pass drops a term of a conjunction that another one implies, and a term of an alternative that implies another one.
  Implication is transitive, so a term that is left stands for every one that made way, be it for a term that was dropped
  later (`thinned_after`); and what stays when its turn comes stays needed (`pairwise_after`). So the pass leaves a
  reduct of the terms (`removeRedundant_isReduct`), in which each term finds one that stands for it
  (`exists_needed_implying`, `exists_widest_implied`). Of equals one is left, which implies what they imply
  (`exists_implying_dedup`).

  The values of literal tags decide what implies a test of their keys: where the value refutes the test, nothing is left
  (`assume_of_implies`), so a conjunction with such a term comes to nothing (`andPass_of_refuted`).
-/

import MapTheme.Proofs.Filter.Preorder

namespace MapTheme.Filter

variable {fs gs : List Filter} {f g : Filter} {a : Leaf} {known : Known} {key value : String}

/-! ## What is redundant -/

theorem mem_of_mem_removeRedundant {redundant : Filter → Filter → Bool} (h : f ∈ removeRedundant redundant fs) :
    f ∈ fs :=
  (removeRedundantAfter_sublist redundant [] fs).subset h

/-- The filters of a list without some of them, for each of which `P` holds. -/
inductive Thinned (P : Filter → Prop) : List Filter → List Filter → Prop
  | nil : Thinned P [] []
  | keep {out fs : List Filter} (f : Filter) : Thinned P out fs → Thinned P (f :: out) (f :: fs)
  | drop {out fs : List Filter} {f : Filter} : P f → Thinned P out fs → Thinned P out (f :: fs)

theorem Thinned.mem_or {P : Filter → Prop} {out : List Filter} (h : Thinned P out fs) (hf : f ∈ fs) : f ∈ out ∨ P f := by
  induction h with
  | nil => cases hf
  | keep g _ ih =>
    rcases List.mem_cons.mp hf with rfl | hf
    · exact .inl List.mem_cons_self
    · exact (ih hf).imp_left (List.mem_cons_of_mem g)
  | drop hg _ ih =>
    rcases List.mem_cons.mp hf with rfl | hf
    · exact .inr hg
    · exact ih hf

/-- Every term that is dropped is redundant beside one that stays: if the one that it made way for is dropped as well,
then beside what that makes way for. -/
theorem thinned_after {redundant : Filter → Filter → Bool}
    (htrans : ∀ f g h, redundant f g = true → redundant g h = true → redundant f h = true) (kept fs : List Filter) :
    ∃ more, removeRedundantAfter redundant kept fs = kept ++ more ∧
      Thinned (fun f => ∃ g ∈ kept ++ more, redundant f g = true) more fs := by
  fun_induction removeRedundantAfter redundant kept fs with
  | case1 kept => exact ⟨[], (List.append_nil kept).symm, .nil⟩
  | case2 kept f rest hany ih =>
    obtain ⟨more, hout, hthinned⟩ := ih
    refine ⟨more, hout, .drop ?_ hthinned⟩
    obtain ⟨g, hg, hfg⟩ := List.any_eq_true.mp hany
    rcases List.mem_append.mp hg with hg | hg
    · exact ⟨g, List.mem_append_left more hg, hfg⟩
    · rcases hthinned.mem_or hg with hg | ⟨h, hh, hgh⟩
      · exact ⟨g, List.mem_append_right kept hg, hfg⟩
      · exact ⟨h, hh, htrans f g h hfg hgh⟩
  | case3 kept f rest _ ih =>
    obtain ⟨more, hout, hthinned⟩ := ih
    rw [List.append_assoc] at hout hthinned
    exact ⟨f :: more, hout, .keep f hthinned⟩

theorem exists_covering_after {redundant : Filter → Filter → Bool}
    (htrans : ∀ f g h, redundant f g = true → redundant g h = true → redundant f h = true) (kept fs : List Filter) :
    ∀ f ∈ kept ++ fs, f ∈ removeRedundantAfter redundant kept fs ∨
      ∃ g ∈ removeRedundantAfter redundant kept fs, redundant f g = true := by
  obtain ⟨more, hout, hthinned⟩ := thinned_after htrans kept fs
  rw [hout]
  intro f hf
  rcases List.mem_append.mp hf with hf | hf
  · exact .inl (List.mem_append_left more hf)
  · exact (hthinned.mem_or hf).imp_left (List.mem_append_right kept)

theorem exists_covering_of_mem (redundant : Filter → Filter → Bool)
    (htrans : ∀ f g h, redundant f g = true → redundant g h = true → redundant f h = true) (hf : f ∈ fs)
    (hself : redundant f f = true) : ∃ g ∈ removeRedundant redundant fs, redundant f g = true := by
  rcases exists_covering_after htrans [] fs f hf with hf | hcovering
  · exact ⟨f, hf, hself⟩
  · exact hcovering

/-- What was needed when it was looked at stays needed, since the list only shrinks. -/
theorem pairwise_after {redundant : Filter → Filter → Bool} (kept fs : List Filter)
    (hkept : kept.Pairwise fun f g => redundant f g = false ∧ redundant g f = false)
    (hrest : ∀ f ∈ kept, ∀ g ∈ fs, redundant f g = false) :
    (removeRedundantAfter redundant kept fs).Pairwise fun f g => redundant f g = false ∧ redundant g f = false := by
  fun_induction removeRedundantAfter redundant kept fs with
  | case1 kept => exact hkept
  | case2 kept f rest _ ih => exact ih hkept fun g hg h hh => hrest g hg h (List.mem_cons_of_mem f hh)
  | case3 kept f rest hany ih =>
    have hneeded : ∀ g ∈ kept ++ rest, redundant f g = false := by simpa [or_imp, forall_and] using hany
    apply ih
    · rw [List.pairwise_append]
      refine ⟨hkept, List.pairwise_singleton _ _, ?_⟩
      intro g hg f' hf'
      obtain rfl := List.mem_singleton.mp hf'
      exact ⟨hrest g hg f' List.mem_cons_self, hneeded g (List.mem_append_left rest hg)⟩
    · intro g hg h hh
      rcases List.mem_append.mp hg with hg | hg
      · exact hrest g hg h (List.mem_cons_of_mem f hh)
      · obtain rfl := List.mem_singleton.mp hg
        exact hneeded h (List.mem_append_right kept hh)

/-- `out` are the terms of `fs` in their order, without those that are redundant beside one of `out`; in `out` none is
redundant beside another one. -/
structure IsReduct (redundant : Filter → Filter → Bool) (fs out : List Filter) : Prop where
  sublist : out.Sublist fs
  pairwise : out.Pairwise fun f g => redundant f g = false ∧ redundant g f = false
  thinned : Thinned (fun f => ∃ g ∈ out, redundant f g = true) out fs

theorem isReduct_removeRedundant {redundant : Filter → Filter → Bool}
    (htrans : ∀ f g h, redundant f g = true → redundant g h = true → redundant f h = true) (fs : List Filter) :
    IsReduct redundant fs (removeRedundant redundant fs) := by
  obtain ⟨more, hout, hthinned⟩ := thinned_after htrans [] fs
  have hout : removeRedundant redundant fs = more := hout
  refine ⟨removeRedundantAfter_sublist redundant [] fs, pairwise_after [] fs .nil (by simp), ?_⟩
  rw [hout]
  exact hthinned

/-- The passes over conjunctions and over alternatives leave a reduct of the terms, be there NaN in them or not. So of
terms that imply each other at most one is left, and none only where another term that is left stands for all of them. -/
theorem removeRedundant_isReduct (fs : List Filter) :
    IsReduct (fun candidate other => other.implies candidate) fs
        (removeRedundant (fun candidate other => other.implies candidate) fs) ∧
      IsReduct (fun candidate other => candidate.implies other) fs
        (removeRedundant (fun candidate other => candidate.implies other) fs) := by
  refine ⟨isReduct_removeRedundant ?_ fs, isReduct_removeRedundant ?_ fs⟩
  · intro f g h hgf hhg
    exact implies_trans hhg hgf
  · intro f g h hfg hgh
    exact implies_trans hfg hgh

/-- The first bound makes way for the second, which makes way for the third. -/
example : let above n : Filter := leaf (.comparing "width" .greater (.finite false n))
    (removeRedundant (fun candidate other => other.implies candidate) [above 1, above 2, above 3]).length = 1 ∧
      (above 3).implies (above 1) = true := by
  decide

/-- The terms of a conjunction that no other one implies. -/
def needed (terms : List Filter) : List Filter := removeRedundant (fun candidate other => other.implies candidate) terms

/-- The terms of an alternative that imply no other one. -/
def widest (terms : List Filter) : List Filter := removeRedundant (fun candidate other => candidate.implies other) terms

theorem exists_needed_implying (hf : f ∈ fs) (hself : f.implies f = true) : ∃ g ∈ needed fs, g.implies f = true :=
  exists_covering_of_mem (fun candidate other => other.implies candidate) (fun _ _ _ hgf hhg => implies_trans hhg hgf) hf
    hself

theorem exists_widest_implied (hf : f ∈ fs) (hself : f.implies f = true) : ∃ g ∈ widest fs, f.implies g = true :=
  exists_covering_of_mem implies (fun _ _ _ => implies_trans) hf hself

/-! ## Equals -/

/-- Only a comparison is the same as another leaf. -/
theorem eq_leaf_of_same (ha : ∀ key op x, a ≠ .comparing key op x) (h : f.same (leaf a) = true) : f = leaf a := by
  cases f with
  | leaf b =>
    rw [same] at h
    rcases Leaf.same_iff.mp (Leaf.same_symm h) with ⟨key, op, x, -, he, -⟩ | ⟨-, rfl⟩
    · exact absurd he (ha key op x)
    · rfl
  | and | or => simp only [same, Bool.false_eq_true] at h

theorem leaf_mem_dedup (ha : ∀ key op x, a ≠ .comparing key op x) (h : leaf a ∈ fs) : leaf a ∈ dedup fs := by
  have hself : (leaf a).same (leaf a) = true := by
    rw [same]
    exact Leaf.same_iff.mpr (.inr ⟨ha, rfl⟩)
  obtain ⟨f, hf, hsame⟩ := memberOf_iff.mp (memberOf_dedup hself h)
  rwa [← eq_leaf_of_same ha hsame]

/-- What a term implies is implied by the one of its equals that stays. -/
theorem exists_implying_after (kept fs : List Filter) : ∀ f ∈ kept ++ fs, f.implies g = true →
    ∃ f' ∈ dedupAfter kept fs, f'.implies g = true := by
  fun_induction dedupAfter kept fs with
  | case1 kept =>
    intro f hf himp
    rw [List.append_nil] at hf
    exact ⟨f, hf, himp⟩
  | case2 kept e rest hmember ih =>
    intro f hf himp
    rw [List.perm_middle.mem_iff, List.mem_cons] at hf
    rcases hf with rfl | hf
    · obtain ⟨f', hf', hsame⟩ := memberOf_iff.mp hmember
      exact ih f' (List.mem_append_left _ hf') (implies_of_same_left hsame himp)
    · exact ih f hf himp
  | case3 kept e rest _ ih =>
    rw [List.append_cons]
    exact ih

theorem exists_implying_dedup (hf : f ∈ fs) (himp : f.implies g = true) : ∃ f' ∈ dedup fs, f'.implies g = true :=
  exists_implying_after [] fs f hf himp

/-! ## Known values -/

theorem lookup_of_knownValues (h : knownValues fs = some known) (hmem : tag key value ∈ fs) :
    known.lookup key = some value := by
  fun_induction knownValues fs generalizing known with
  | case1 => cases hmem
  | case2 => cases h
  | case3 k rest known' hknown other hlookup ih =>
    cases h
    rcases List.mem_cons.mp hmem with he | hmem
    · cases he
      exact hlookup
    · exact ih hknown hmem
  | case4 => cases h
  | case5 k v rest known' hknown hlookup ih =>
    cases h
    rcases List.mem_cons.mp hmem with he | hmem
    · cases he
      rw [List.lookup_cons, beq_self_eq_true]
    · have hrest := ih hknown hmem
      have hne : key ≠ k := by
        rintro rfl
        rw [hlookup] at hrest
        cases hrest
      rw [List.lookup_cons, beq_false_of_ne hne]
      exact hrest
  | case6 e rest hne ih =>
    refine ih h ((List.mem_cons.mp hmem).resolve_left ?_)
    rintro rfl
    exact hne key value rfl

/-- What the known values make of a term is there, unless that always holds. -/
theorem mem_applyKnown_of_assume (h : applyKnown known fs = some gs) (hf : f ∈ fs)
    (hne : ∀ key value, f ≠ tag key value) :
    assume known f = .always ∨ ∃ g ∈ gs, assume known f = .filter g := by
  fun_induction applyKnown known fs generalizing gs with
  | case1 => cases hf
  | case2 k v rest ih =>
    obtain ⟨more, hmore, rfl⟩ := Option.map_eq_some_iff.mp h
    rcases ih hmore ((List.mem_cons.mp hf).resolve_left (hne k v)) with halways | ⟨g, hg, he⟩
    · exact .inl halways
    · exact .inr ⟨g, List.mem_cons_of_mem _ hg, he⟩
  | case3 e rest _ hassume ih =>
    rcases List.mem_cons.mp hf with rfl | hf
    · exact .inl hassume
    · exact ih h hf
  | case4 => cases h
  | case5 e rest _ g hassume ih =>
    obtain ⟨more, hmore, rfl⟩ := Option.map_eq_some_iff.mp h
    rcases List.mem_cons.mp hf with rfl | hf
    · exact .inr ⟨g, List.mem_cons_self, hassume⟩
    · rcases ih hmore hf with halways | ⟨g', hg', he⟩
      · exact .inl halways
      · exact .inr ⟨g', List.mem_cons_of_mem _ hg', he⟩

mutual

/-- Where the known value of its key refutes a leaf, nothing is left of what implies the leaf. -/
theorem assume_of_implies {l : Leaf} (hkey : l.singleKey? = some key) (hlookup : known.lookup key = some value)
    (hfalse : l.holds (.assigned key value) = false) : ∀ {f : Filter}, f.implies (leaf l) = true →
    assume known f = .never
  | leaf m, h => by
    rw [leaf_implies_leaf] at h
    have hm : m.holds (.assigned key value) = false := by
      rw [Bool.eq_false_iff]
      intro hm
      rw [Leaf.holds_of_implies h hm] at hfalse
      cases hfalse
    simp only [assume, assumeLeaf, Leaf.singleKey?_of_implied h hkey, hlookup, hm]
    rfl
  | and fs, h => by
    rw [assume]
    rcases (and_implies_iff rfl).mp h with hsame | hpart
    · simp only [same, Bool.false_eq_true] at hsame
    · rw [assumeAll_of_implies hkey hlookup hfalse hpart]
  | or fs, h => by
    rw [assume]
    rcases (or_implies_iff rfl).mp h with hsame | hall
    · simp only [same, Bool.false_eq_true] at hsame
    · rw [assumeAny_of_implies hkey hlookup hfalse hall]
      rfl

theorem assumeAll_of_implies {l : Leaf} (hkey : l.singleKey? = some key) (hlookup : known.lookup key = some value)
    (hfalse : l.holds (.assigned key value) = false) : ∀ {fs : List Filter},
    (∃ f ∈ fs, f.implies (leaf l) = true) → assumeAll known fs = none
  | [], h => by simp at h
  | f :: fs, h => by
    rw [assumeAll]
    rcases List.exists_mem_cons_iff .. |>.mp h with h | h
    · rw [assume_of_implies hkey hlookup hfalse h]
    · rw [assumeAll_of_implies hkey hlookup hfalse h]
      cases assume known f <;> rfl

theorem assumeAny_of_implies {l : Leaf} (hkey : l.singleKey? = some key) (hlookup : known.lookup key = some value)
    (hfalse : l.holds (.assigned key value) = false) : ∀ {fs : List Filter},
    (∀ f ∈ fs, f.implies (leaf l) = true) → assumeAny known fs = some []
  | [], _ => rfl
  | f :: fs, h => by
    obtain ⟨hf, hrest⟩ := List.forall_mem_cons.mp h
    rw [assumeAny, assume_of_implies hkey hlookup hfalse hf]
    exact assumeAny_of_implies hkey hlookup hfalse hrest

end

/-- Terms from which known values leave something imply only what is true of these values. -/
theorem holds_of_applyKnown {l : Leaf} (hknown : knownValues fs = some known) (happly : applyKnown known fs = some gs)
    (hlookup : known.lookup key = some value) (hf : f ∈ fs) (himp : f.implies (leaf l) = true)
    (hkey : l.singleKey? = some key) : l.holds (.assigned key value) = true := by
  rw [← Bool.not_eq_false]
  intro hfalse
  have hnever : assume known f = .never := assume_of_implies hkey hlookup hfalse himp
  by_cases htag : ∃ key' value', f = tag key' value'
  · -- A literal tag of the key has the known value.
    obtain ⟨key', value', rfl⟩ := htag
    rw [tag, leaf_implies_leaf, Leaf.implies_iff_of_fixes? rfl, hkey] at himp
    obtain ⟨he, htrue⟩ := himp
    cases he
    rw [lookup_of_knownValues hknown hf] at hlookup
    cases hlookup
    rw [hfalse] at htrue
    cases htrue
  · rcases mem_applyKnown_of_assume happly hf (by simpa using htag) with he | ⟨g, -, he⟩ <;> rw [hnever] at he <;>
      cases he

/-! ## Passes -/

/-- The terms of a conjunction as a pass compares them with one another: under the values of its literal tags. -/
def compared? (terms : List Filter) : Option (List Filter) :=
  ((knownValues (dedup terms)).bind (applyKnown · (dedup terms))).map fun next => dedup (flattenAnds next)

theorem andPass_eq (terms : List Filter) : andPass terms =
    (compared? terms).bind fun terms => if hasContradiction (needed terms) then none else some (sort (needed terms)) := by
  rw [andPass_eq_bind, compared?]
  cases (knownValues (dedup terms)).bind (applyKnown · (dedup terms)) <;> rfl

theorem compared?_eq_some (h : compared? fs = some gs) : ∃ known next, knownValues (dedup fs) = some known ∧
    applyKnown known (dedup fs) = some next ∧ gs = dedup (flattenAnds next) := by
  obtain ⟨next, hnext, rfl⟩ := Option.map_eq_some_iff.mp h
  obtain ⟨known, hknown, happly⟩ := Option.bind_eq_some_iff.mp hnext
  exact ⟨known, next, hknown, happly, rfl⟩

theorem compared_within {P : Leaf → Prop} (h : ∀ f ∈ fs, Within P 2 f) (hterms : compared? fs = some gs) :
    ∀ g ∈ gs, Within P 2 g := by
  obtain ⟨known, next, -, happly, rfl⟩ := compared?_eq_some hterms
  exact (dedup_reduces (flattenAnds_reduces (applyKnown_reduces known (dedup_reduces h).within happly).within).within).within

/-- A literal tag and a term that its value refutes leave nothing of a conjunction. -/
theorem andPass_of_refuted {l : Leaf} (htag : tag key value ∈ fs) (hf : f ∈ fs) (himp : f.implies (leaf l) = true)
    (hkey : l.singleKey? = some key) (hfalse : l.holds (.assigned key value) = false) : andPass fs = none := by
  obtain ⟨f', hf', himp⟩ := exists_implying_dedup hf himp
  rw [andPass_eq]
  cases hterms : compared? fs with
  | none => rfl
  | some terms =>
    obtain ⟨known, next, hknown, happly, -⟩ := compared?_eq_some hterms
    have hlookup := lookup_of_knownValues hknown (leaf_mem_dedup (by simp) htag)
    rw [holds_of_applyKnown hknown happly hlookup hf' himp hkey] at hfalse
    cases hfalse

/-- A conjunction of which every part is implied leaves nothing to prune the rest of. -/
theorem pruneBy_of_implied {negations conjuncts : List Filter} (hn : f ∈ negations)
    (himp : ∀ c ∈ conjuncts, f.implies c = true) (hmem : and conjuncts ∈ fs) : pruneBy negations fs = none := by
  have hnothing : (conjuncts.filter fun c => !negations.any (·.implies c)) = [] := by
    rw [List.filter_eq_nil_iff]
    intro c hc
    rw [List.any_eq_true.mpr ⟨f, hn, himp c hc⟩]
    simp
  have hrest : ∀ {e rest}, and conjuncts ∈ e :: rest → e ≠ and conjuncts → and conjuncts ∈ rest := fun hmem hne =>
    (List.mem_cons.mp hmem).resolve_left (Ne.symm hne)
  fun_induction pruneBy negations fs with
  | case1 => cases hmem
  | case2 => rfl
  | case3 conjuncts' rest inner hfilter ih | case4 conjuncts' rest single _ hfilter ih =>
    rw [ih (hrest hmem ?_)]
    · rfl
    · intro he
      cases he
      rw [hnothing] at hfilter
      cases hfilter
  | case5 conjuncts' rest hnone _ _ ih =>
    rw [ih (hrest hmem ?_)]
    · rfl
    · intro he
      cases he
      exact hnone hnothing
  | case6 e rest hne ih =>
    rw [ih (hrest hmem (hne conjuncts))]
    rfl

/-! ## Terms one by one -/

/-- What one pass makes of each term, constants left out. -/
def simplifiedEach (fs : List Filter) : List Filter := fs.filterMap fun f => filterOf? f.optimiseOnce

theorem optimiseConjuncts_eq_some (h : optimiseConjuncts fs = some gs) :
    gs = simplifiedEach fs ∧ ∀ f ∈ fs, f.optimiseOnce ≠ .never := by
  induction fs generalizing gs with
  | nil =>
    cases h
    exact ⟨rfl, by simp⟩
  | cons f rest ih =>
    rw [simplifiedEach, List.filterMap_cons, List.forall_mem_cons]
    rcases of_optimiseConjuncts_cons h with ⟨hf, hrest⟩ | ⟨g, more, hf, hmore, rfl⟩
    · obtain ⟨rfl, hundecided⟩ := ih hrest
      rw [hf]
      exact ⟨rfl, by simp, hundecided⟩
    · obtain ⟨rfl, hundecided⟩ := ih hmore
      rw [hf]
      exact ⟨rfl, by simp, hundecided⟩

theorem optimiseBranches_eq_some (h : optimiseBranches fs = some gs) :
    gs = simplifiedEach fs ∧ ∀ f ∈ fs, f.optimiseOnce ≠ .always := by
  induction fs generalizing gs with
  | nil =>
    cases h
    exact ⟨rfl, by simp⟩
  | cons f rest ih =>
    rw [simplifiedEach, List.filterMap_cons, List.forall_mem_cons]
    rcases of_optimiseBranches_cons h with ⟨hf, hrest⟩ | ⟨g, more, hf, hmore, rfl⟩
    · obtain ⟨rfl, hundecided⟩ := ih hrest
      rw [hf]
      exact ⟨rfl, by simp, hundecided⟩
    · obtain ⟨rfl, hundecided⟩ := ih hmore
      rw [hf]
      exact ⟨rfl, by simp, hundecided⟩

theorem mem_simplifiedEach (hf : f ∈ fs) (h : f.optimiseOnce = .filter g) : g ∈ simplifiedEach fs :=
  List.mem_filterMap.mpr ⟨f, hf, by rw [h]; rfl⟩

end MapTheme.Filter
