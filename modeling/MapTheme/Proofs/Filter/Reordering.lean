/-
  MapTheme.Proofs.Filter.Reordering — what the steps make of terms that come in another order.

  Equal terms are one term to every step, if no bound is NaN or the negative zero (`eq_of_same`). Then each step gives
  the same verdict for another order of the terms, or the same terms in another order: known values and pruning
  look at one term at a time (`gather_perm`), contradictions and tautologies at pairs (`anyOther_perm`), factoring
  at what is in every branch (`factored_alike`).

  Two steps need more. Of terms that imply each other only the last is left, so that no two may do so
  (`removeRedundant_perm`); and terms with one text stay in the order in which they come, so that no two may have one
  (`sort_eq_of_perm`).
-/

import MapTheme.Proofs.Filter.Opposites

namespace MapTheme

namespace Leaf

/-- The bound, if there is one, equals itself and no other number. -/
def Definite (l : Leaf) : Prop := ∀ key op bound, l = comparing key op bound → bound ≠ .nan ∧ bound ≠ .finite true 0

variable {a b : Leaf}

theorem Definite.same_self (h : a.Definite) : a.same a = true :=
  Filter.same_self_of_ne_nan fun key op he => (h key op .nan he).1 rfl

theorem Definite.eq_of_same (ha : a.Definite) (hb : b.Definite) (h : a.same b = true) : a = b := by
  rcases same_iff.mp h with ⟨key, op, x, y, rfl, rfl, he⟩ | ⟨-, rfl⟩
  · rw [Binary64.eq_of_eq he (ha key op x rfl).2 (hb key op y rfl).2]
  · rfl

end Leaf

namespace Filter

variable {fs gs hs : List Filter} {f g : Filter} {known known' : Known}

/-! ## Equal terms -/

mutual

theorem eq_of_same {n : Nat} : ∀ {a b : Filter}, Within Leaf.Definite n a → Within Leaf.Definite n b →
    a.same b = true → a = b
  | leaf a, leaf b, ha, hb, h => by
    rw [same] at h
    rw [(within_leaf.mp ha).eq_of_same (within_leaf.mp hb) h]
  | and as, and bs, ha, hb, h => by
    rw [same] at h
    rw [eq_of_sameEach (within_and.mp ha).2 (within_and.mp hb).2 h]
  | or as, or bs, ha, hb, h => by
    rw [same] at h
    rw [eq_of_sameEach (within_or.mp ha).2 (within_or.mp hb).2 h]
  | leaf _, and _, _, _, h | leaf _, or _, _, _, h | and _, leaf _, _, _, h | and _, or _, _, _, h
  | or _, leaf _, _, _, h | or _, and _, _, _, h => by simp only [same, Bool.false_eq_true] at h

theorem eq_of_sameEach {n : Nat} : ∀ {as bs : List Filter}, (∀ a ∈ as, Within Leaf.Definite n a) →
    (∀ b ∈ bs, Within Leaf.Definite n b) → sameEach as bs = true → as = bs
  | [], [], _, _, _ => rfl
  | a :: as, b :: bs, ha, hb, h => by
    rw [List.forall_mem_cons] at ha hb
    simp only [sameEach, Bool.and_eq_true] at h
    rw [eq_of_same ha.1 hb.1 h.1, eq_of_sameEach ha.2 hb.2 h.2]
  | [], _ :: _, _, _, h | _ :: _, [], _, _, h => by simp only [sameEach, Bool.false_eq_true] at h

end

theorem same_self_of_definite {n : Nat} (h : Within Leaf.Definite n f) : f.same f = true :=
  same_self (fun hl => Leaf.Definite.same_self hl) h

theorem memberOf_iff_mem (hfs : ∀ f ∈ fs, Within Leaf.Definite 2 f) (hf : Within Leaf.Definite 2 f) :
    memberOf fs f = true ↔ f ∈ fs := by
  rw [memberOf_iff]
  constructor
  · rintro ⟨g, hg, hsame⟩
    exact eq_of_same (hfs g hg) hf hsame ▸ hg
  · exact fun hmem => ⟨f, hmem, same_self_of_definite hf⟩

theorem mem_dedup (hfs : ∀ f ∈ fs, Within Leaf.Definite 2 f) : f ∈ dedup fs ↔ f ∈ fs := by
  have hsub := (dedup_sublist fs).subset
  refine ⟨fun h => hsub h, fun h => ?_⟩
  have hf := hfs f h
  exact (memberOf_iff_mem (fun g hg => hfs g (hsub hg)) hf).mp (memberOf_dedup (same_self_of_definite hf) h)

theorem nodup_dedup (hfs : ∀ f ∈ fs, Within Leaf.Definite 2 f) : (dedup fs).Nodup := by
  refine (apart_dedup fs).imp_of_mem ?_
  rintro f g hf - hne rfl
  rw [same_self_of_definite (hfs f ((dedup_sublist fs).subset hf))] at hne
  cases hne

/-- Without duplicates, lists with the same terms differ in the order only. -/
theorem dedup_perm (hfs : ∀ f ∈ fs, Within Leaf.Definite 2 f) (h : ∀ f, f ∈ fs ↔ f ∈ gs) :
    (dedup fs).Perm (dedup gs) := by
  have hgs : ∀ f ∈ gs, Within Leaf.Definite 2 f := fun f hf => hfs f ((h f).mpr hf)
  rw [List.perm_ext_iff_of_nodup (nodup_dedup hfs) (nodup_dedup hgs)]
  intro f
  rw [mem_dedup hfs, mem_dedup hgs, h]

/-! ## Redundant terms -/

/-- No two terms imply each other. -/
def NoEquivalents (terms : List Filter) : Prop :=
  ∀ f ∈ terms, ∀ g ∈ terms, f.implies g = true → g.implies f = true → f = g

/-- A term that is left is redundant beside no other one that is left. -/
theorem eq_of_kept {redundant : Filter → Filter → Bool} (kept fs : List Filter) :
    ∀ f ∈ removeRedundantAfter redundant kept fs, f ∈ kept ∨
      ∀ g ∈ removeRedundantAfter redundant kept fs, redundant f g = true → g = f := by
  fun_induction removeRedundantAfter redundant kept fs with
  | case1 kept => exact fun f hf => .inl hf
  | case2 kept e rest _ ih => exact ih
  | case3 kept e rest hnone ih =>
    intro f hf
    rcases ih f hf with hmem | hother
    · rw [List.mem_append, List.mem_singleton] at hmem
      refine hmem.imp id ?_
      rintro rfl g hg hred
      by_contra hne
      have hg := (removeRedundantAfter_sublist redundant _ _).subset hg
      rw [List.append_assoc, List.singleton_append, List.perm_middle.mem_iff, List.mem_cons] at hg
      exact hnone (List.any_eq_true.mpr ⟨g, hg.resolve_left hne, hred⟩)
    · exact .inr hother

section Redundant

variable {redundant : Filter → Filter → Bool}
  (htrans : ∀ f g h, redundant f g = true → redundant g h = true → redundant f h = true)
include htrans

/-- Where no two terms are redundant beside each other, those are left that are redundant beside no other one. -/
theorem mem_removeRedundant_iff
    (hanti : ∀ f ∈ fs, ∀ g ∈ fs, redundant f g = true → redundant g f = true → f = g) :
    f ∈ removeRedundant redundant fs ↔ f ∈ fs ∧ ∀ g ∈ fs, redundant f g = true → g = f := by
  have hcovering := exists_covering_after htrans [] fs
  constructor
  · intro hf
    refine ⟨mem_of_mem_removeRedundant hf, fun g hg hred => ?_⟩
    have hkept := (eq_of_kept [] fs f hf).resolve_left List.not_mem_nil
    rcases hcovering g hg with hmem | ⟨h, hh, hgh⟩
    · exact hkept g hmem hred
    · obtain rfl := hkept h hh (htrans f g h hred hgh)
      exact hanti g hg h (mem_of_mem_removeRedundant hf) hgh hred
  · rintro ⟨hf, hnone⟩
    rcases hcovering f hf with hmem | ⟨g, hg, hred⟩
    · exact hmem
    · exact hnone g (mem_of_mem_removeRedundant hg) hred ▸ hg

theorem removeRedundant_perm (hnodup : fs.Nodup) (hperm : fs.Perm gs)
    (hanti : ∀ f ∈ fs, ∀ g ∈ fs, redundant f g = true → redundant g f = true → f = g) :
    (removeRedundant redundant fs).Perm (removeRedundant redundant gs) := by
  have hsub : ∀ {terms : List Filter}, terms.Nodup → (removeRedundant redundant terms).Nodup :=
    fun h => h.sublist (removeRedundantAfter_sublist redundant [] _)
  rw [List.perm_ext_iff_of_nodup (hsub hnodup) (hsub (hperm.nodup_iff.mp hnodup))]
  intro f
  have hanti' : ∀ f ∈ gs, ∀ g ∈ gs, redundant f g = true → redundant g f = true → f = g := fun f hf g hg =>
    hanti f (hperm.mem_iff.mpr hf) g (hperm.mem_iff.mpr hg)
  rw [mem_removeRedundant_iff htrans hanti, mem_removeRedundant_iff htrans hanti', hperm.mem_iff]
  simp only [hperm.mem_iff]

end Redundant

theorem needed_perm (hnodup : fs.Nodup) (hperm : fs.Perm gs) (hdistinct : NoEquivalents fs) :
    (needed fs).Perm (needed gs) :=
  removeRedundant_perm (fun _ _ _ hgf hhg => implies_trans hhg hgf) hnodup hperm fun f hf g hg hgf hfg =>
    hdistinct f hf g hg hfg hgf

theorem widest_perm (hnodup : fs.Nodup) (hperm : fs.Perm gs) (hdistinct : NoEquivalents fs) :
    (widest fs).Perm (widest gs) :=
  removeRedundant_perm (fun _ _ _ => implies_trans) hnodup hperm hdistinct

/-! ## Sorting -/

/-- No two terms stand at the same place of the order. -/
def NoNamesakes (terms : List Filter) : Prop :=
  ∀ f ∈ terms, ∀ g ∈ terms, f.rank = g.rank → f.toText = g.toText → f = g

theorem sort_eq_of_perm (hperm : fs.Perm gs) (hnames : NoNamesakes fs) : sort fs = sort gs := by
  rw [sort_eq_mergeSort, sort_eq_mergeSort]
  have hfs : (fs.mergeSort termLe).Perm fs := List.mergeSort_perm fs termLe
  have hgs : (gs.mergeSort termLe).Perm gs := List.mergeSort_perm gs termLe
  refine List.Perm.eq_of_pairwise ?_ (List.pairwise_mergeSort termLe_trans termLe_total fs)
    (List.pairwise_mergeSort termLe_trans termLe_total gs) (hfs.trans (hperm.trans hgs.symm))
  intro f g hf hg hfg hgf
  rw [termLe, keyLe_iff] at hfg hgf
  dsimp only at hfg hgf
  refine hnames f (hfs.mem_iff.mp hf) g (hperm.mem_iff.mpr (hgs.mem_iff.mp hg)) (by omega) ?_
  refine String.le_antisymm ?_ ?_
  · exact (hfg.resolve_left (by omega)).2
  · exact (hgf.resolve_left (by omega)).2

/-! ## Terms one at a time -/

/-- What a step makes of each term, in order; none when it makes nothing of one. -/
def gather (step : Filter → Option (List Filter)) : List Filter → Option (List Filter)
  | [] => some []
  | f :: fs => (step f).bind fun first => (gather step fs).map (first ++ ·)

section Outcomes

variable {as bs cs : Option (List Filter)}

theorem rel_trans (h : Option.Rel List.Perm as bs) (h' : Option.Rel List.Perm bs cs) : Option.Rel List.Perm as cs := by
  cases h with
  | none => exact h'
  | some hperm =>
    cases h' with
    | some hperm' => exact .some (hperm.trans hperm')

theorem rel_map {step : List Filter → List Filter} (h : Option.Rel List.Perm as bs)
    (hstep : ∀ a b, as = some a → a.Perm b → (step a).Perm (step b)) :
    Option.Rel List.Perm (as.map step) (bs.map step) := by
  cases h with
  | none => exact .none
  | some hperm => exact .some (hstep _ _ rfl hperm)

/-- What does not hang on the order is the same after outcomes that differ in the order. -/
theorem bind_eq_of_rel {α : Type} {next : List Filter → Option α} (h : Option.Rel List.Perm as bs)
    (hnext : ∀ a b, as = some a → a.Perm b → next a = next b) : as.bind next = bs.bind next := by
  cases h with
  | none => rfl
  | some hperm => exact hnext _ _ rfl hperm

end Outcomes

theorem gather_perm (step : Filter → Option (List Filter)) (h : fs.Perm gs) :
    Option.Rel List.Perm (gather step fs) (gather step gs) := by
  induction h with
  | nil => exact .some (.refl [])
  | cons f _ ih =>
    rw [gather, gather]
    cases step f with
    | none => exact .none
    | some first => exact rel_map ih fun _ _ _ hperm => hperm.append_left first
  | swap f g rest =>
    simp only [gather]
    cases step f with
    | none => cases step g <;> exact .none
    | some first =>
      cases step g with
      | none => exact .none
      | some second =>
        cases gather step rest with
        | none => exact .none
        | some more =>
          refine .some ?_
          simp only [← List.append_assoc]
          exact List.perm_append_comm.append_right more
  | trans _ _ ih ih' => exact rel_trans ih ih'

/-- A verdict on a term of a conjunction, as the terms that are left of it. -/
def conjunctsOf : Optimised → Option (List Filter)
  | .always => some []
  | .never => none
  | .filter g => some [g]

/-- A verdict on a term of an alternative, as the terms that are left of it. -/
def branchesOf : Optimised → Option (List Filter)
  | .always => none
  | .never => some []
  | .filter g => some [g]

theorem optimiseConjuncts_eq_gather (fs : List Filter) :
    optimiseConjuncts fs = gather (fun f => conjunctsOf f.optimiseOnce) fs := by
  induction fs with
  | nil => rfl
  | cons f rest ih =>
    rw [optimiseConjuncts, gather, ih]
    cases f.optimiseOnce <;> simp [conjunctsOf]

theorem optimiseBranches_eq_gather (fs : List Filter) :
    optimiseBranches fs = gather (fun f => branchesOf f.optimiseOnce) fs := by
  induction fs with
  | nil => rfl
  | cons f rest ih =>
    rw [optimiseBranches, gather, ih]
    cases f.optimiseOnce <;> simp [branchesOf]

/-! ## Known values -/

theorem knows_of_knownValues (h : knownValues fs = some known) : Knows fs known := by
  refine fun key value => ⟨fun hlookup => ?_, lookup_of_knownValues h⟩
  fun_induction knownValues fs generalizing known with
  | case1 =>
    cases h
    cases hlookup
  | case2 => cases h
  | case3 k rest known' hknown other _ ih =>
    cases h
    exact List.mem_cons_of_mem _ (ih hknown hlookup)
  | case4 => cases h
  | case5 k v rest known' hknown _ ih =>
    cases h
    rw [List.lookup_cons] at hlookup
    split at hlookup
    · rename_i hkey
      obtain rfl := beq_iff_eq.mp hkey
      obtain rfl := Option.some.inj hlookup
      exact List.mem_cons_self
    · exact List.mem_cons_of_mem _ (ih hknown hlookup)
  | case6 e rest _ ih => exact List.mem_cons_of_mem _ (ih h hlookup)

/-- Literal tags that agree on their keys fix values. -/
theorem exists_knownValues (h : ∀ key v v', tag key v ∈ fs → tag key v' ∈ fs → v = v') :
    ∃ known, knownValues fs = some known := by
  have hrest : ∀ {f rest}, (∀ key v v', tag key v ∈ f :: rest → tag key v' ∈ f :: rest → v = v') →
      ∀ key v v', tag key v ∈ rest → tag key v' ∈ rest → v = v' := fun h key v v' hv hv' =>
    h key v v' (List.mem_cons_of_mem _ hv) (List.mem_cons_of_mem _ hv')
  fun_induction knownValues fs with
  | case1 => exact ⟨[], rfl⟩
  | case2 key value rest hnone ih =>
    obtain ⟨known, hknown⟩ := ih (hrest h)
    rw [hnone] at hknown
    cases hknown
  | case3 key rest known hknown other hlookup => exact ⟨known, rfl⟩
  | case4 key value rest known hknown other hlookup hne =>
    have hmem := (knows_of_knownValues hknown key other).mp hlookup
    exact absurd (h key other value (List.mem_cons_of_mem _ hmem) List.mem_cons_self) hne
  | case5 key value rest known => exact ⟨(key, value) :: known, rfl⟩
  | case6 e rest _ ih => exact ih (hrest h)

mutual

theorem assume_congr (h : ∀ key, known.lookup key = known'.lookup key) : ∀ f : Filter, assume known f = assume known' f
  | leaf l => by
    rw [assume, assume, assumeLeaf, assumeLeaf]
    cases l.singleKey? with
    | none => rfl
    | some key => simp only [h key]
  | and fs => by rw [assume, assume, assumeAll_congr h fs]
  | or fs => by rw [assume, assume, assumeAny_congr h fs]

theorem assumeAll_congr (h : ∀ key, known.lookup key = known'.lookup key) : ∀ fs : List Filter,
    assumeAll known fs = assumeAll known' fs
  | [] => rfl
  | f :: fs => by rw [assumeAll, assumeAll, assume_congr h f, assumeAll_congr h fs]

theorem assumeAny_congr (h : ∀ key, known.lookup key = known'.lookup key) : ∀ fs : List Filter,
    assumeAny known fs = assumeAny known' fs
  | [] => rfl
  | f :: fs => by rw [assumeAny, assumeAny, assume_congr h f, assumeAny_congr h fs]

end

/-- What known values leave of a term of the conjunction that fixes them. -/
def underKnown (known : Known) : Filter → Option (List Filter)
  | leaf (.tag key value) => some [tag key value]
  | f => conjunctsOf (assume known f)

theorem applyKnown_eq_gather (known : Known) (fs : List Filter) :
    applyKnown known fs = gather (underKnown known) fs := by
  fun_induction applyKnown known fs with
  | case1 => rfl
  | case2 key value rest ih =>
    rw [gather, ← ih]
    rfl
  | case3 f rest hne hassume ih =>
    rw [gather, underKnown, hassume, ← ih]
    · simp [conjunctsOf]
    · exact hne
  | case4 f rest hne hassume =>
    rw [gather, underKnown, hassume]
    · rfl
    · exact hne
  | case5 f rest hne g hassume ih =>
    rw [gather, underKnown, hassume, ← ih]
    · rfl
    · exact hne

theorem underKnown_congr (h : ∀ key, known.lookup key = known'.lookup key) : underKnown known = underKnown known' := by
  funext f
  unfold underKnown
  split
  · rfl
  · rw [assume_congr h]

/-- The terms that a pass compares are the same in another order. -/
theorem compared_perm (hfs : ∀ f ∈ fs, Within Leaf.Definite 2 f) (h : ∀ f, f ∈ fs ↔ f ∈ gs) :
    Option.Rel List.Perm (compared? fs) (compared? gs) := by
  have hperm := dedup_perm hfs h
  have hdedup : ∀ f ∈ dedup fs, Within Leaf.Definite 2 f := fun f hf => hfs f ((dedup_sublist fs).subset hf)
  have hagree : ∀ {as bs : List Filter}, as.Perm bs → knownValues as = none → knownValues bs = none := by
    intro as bs hperm hnone
    rw [Option.eq_none_iff_forall_ne_some]
    intro known hknown
    have hknows := knows_of_knownValues hknown
    have hvalue : ∀ key v v', tag key v ∈ as → tag key v' ∈ as → v = v' := by
      intro key v v' hv hv'
      have hlookup := (hknows key v).mpr (hperm.mem_iff.mp hv)
      rw [(hknows key v').mpr (hperm.mem_iff.mp hv')] at hlookup
      exact (Option.some.inj hlookup).symm
    obtain ⟨known', hknown'⟩ := exists_knownValues hvalue
    rw [hnone] at hknown'
    cases hknown'
  unfold compared?
  cases hknown : knownValues (dedup fs) with
  | none =>
    rw [hagree hperm hknown]
    exact .none
  | some known =>
    cases hknown' : knownValues (dedup gs) with
    | none =>
      rw [hagree hperm.symm hknown'] at hknown
      cases hknown
    | some known' =>
      have hlookup : ∀ key, known'.lookup key = known.lookup key := by
        intro key
        have hknows := knows_of_knownValues hknown key
        have hknows' := knows_of_knownValues hknown' key
        rw [Option.ext_iff]
        intro value
        rw [hknows, hknows', hperm.mem_iff]
      rw [Option.bind_some, Option.bind_some, applyKnown_eq_gather, applyKnown_eq_gather, underKnown_congr hlookup]
      refine rel_map (gather_perm _ hperm) fun next next' hnext hp => ?_
      have hwithin := (applyKnown_reduces known hdedup (applyKnown_eq_gather known _ ▸ hnext)).within
      exact dedup_perm (flattenAnds_reduces hwithin).within fun f => (perm_flattenAnds hp).mem_iff

/-! ## Pairs of terms -/

/-- No term stands in a relation to another one. -/
theorem withOthers_none_iff (test : Filter → Filter → Bool) (before fs : List Filter) :
    (∀ entry ∈ withOthers before fs, entry.2.any (test entry.1) = false) ↔
      (∀ f ∈ fs, ∀ b ∈ before, test f b = false) ∧ fs.Pairwise fun f g => test f g = false ∧ test g f = false := by
  induction fs generalizing before with
  | nil => simp [withOthers]
  | cons f rest ih =>
    rw [withOthers, List.forall_mem_cons, ih, List.any_append, Bool.or_eq_false_iff, List.pairwise_cons,
      List.forall_mem_cons]
    simp only [List.any_eq_false, Bool.not_eq_true, List.forall_mem_append, List.forall_mem_singleton]
    constructor
    · rintro ⟨⟨hbefore, hafter⟩, hrest, hpairs⟩
      exact ⟨⟨hbefore, fun g hg => (hrest g hg).1⟩, fun g hg => ⟨hafter g hg, (hrest g hg).2⟩, hpairs⟩
    · rintro ⟨⟨hbefore, hrest⟩, hfirst, hpairs⟩
      exact ⟨⟨hbefore, fun g hg => (hfirst g hg).1⟩, fun g hg => ⟨hrest g hg, (hfirst g hg).2⟩, hpairs⟩

theorem anyOther_perm (test : Filter → Filter → Bool) (h : fs.Perm gs) :
    ((withOthers [] fs).any fun entry => entry.2.any (test entry.1)) =
      (withOthers [] gs).any fun entry => entry.2.any (test entry.1) := by
  have hnone : ∀ terms : List Filter, ((withOthers [] terms).any fun entry => entry.2.any (test entry.1)) = false ↔
      terms.Pairwise fun f g => test f g = false ∧ test g f = false := by
    intro terms
    have hiff := withOthers_none_iff test [] terms
    simp only [List.not_mem_nil, IsEmpty.forall_iff, implies_true, true_and] at hiff
    rw [← hiff, List.any_eq_false]
    simp only [Bool.not_eq_true]
  rw [Bool.eq_iff_iff, ← not_iff_not, Bool.not_eq_true, Bool.not_eq_true, hnone, hnone]
  exact h.pairwise_iff fun hfg => hfg.symm

/-- The second filter implies the negation of the first. -/
def refutedBy (f g : Filter) : Bool :=
  match f.negated? with
  | some n => g.implies n
  | none => false

/-- The negation of the first filter implies the second. -/
def completedBy (f g : Filter) : Bool :=
  match f.negated? with
  | some n => n.implies g
  | none => false

theorem hasContradiction_perm (h : fs.Perm gs) : hasContradiction fs = hasContradiction gs := by
  have hpairs : ∀ terms, hasContradiction terms =
      (withOthers [] terms).any fun entry => entry.2.any (refutedBy entry.1) := by
    intro terms
    refine congrArg (List.any _) (funext fun ⟨f, others⟩ => ?_)
    dsimp only
    unfold refutedBy
    cases f.negated? <;> simp
  rw [hpairs, hpairs, anyOther_perm refutedBy h]

theorem isTautology_perm (h : fs.Perm gs) : isTautology fs = isTautology gs := by
  have hpairs : ∀ terms, isTautology terms =
      (withOthers [] terms).any fun entry => entry.2.any (completedBy entry.1) := by
    intro terms
    refine congrArg (List.any _) (funext fun ⟨f, others⟩ => ?_)
    dsimp only
    unfold completedBy
    cases f.negated? <;> simp
  rw [hpairs, hpairs, anyOther_perm completedBy h]

/-! ## Pruning -/

/-- What is left of a term when the conjuncts are dropped that follow from one of the negations. -/
def prunedTerm (negations : List Filter) : Filter → Option (List Filter)
  | and conjuncts =>
    match conjuncts.filter fun c => !negations.any (·.implies c) with
    | [] => none
    | [or inner] => some inner
    | [single] => some [single]
    | kept => some [and kept]
  | f => some [f]

theorem pruneBy_eq_gather (negations fs : List Filter) : pruneBy negations fs = gather (prunedTerm negations) fs := by
  fun_induction pruneBy negations fs with
  | case1 => rfl
  | case2 conjuncts rest hfilter => simp only [gather, prunedTerm, hfilter, Option.bind_none]
  | case3 conjuncts rest inner hfilter ih => simp only [gather, prunedTerm, hfilter, Option.bind_some, ih]
  | case4 conjuncts rest single hne hfilter ih =>
    rw [gather, prunedTerm, hfilter, ← ih]
    cases single with
    | or inner => exact absurd rfl (hne inner)
    | leaf | and => rfl
  | case5 conjuncts rest hnone hor hsingle ih =>
    rw [gather, prunedTerm, ← ih]
    split
    · rename_i hfilter
      exact absurd hfilter hnone
    · rename_i inner hfilter
      exact absurd hfilter (hor inner)
    · rename_i single _ hfilter
      exact absurd hfilter (hsingle single)
    · rfl
  | case6 f rest hne ih =>
    cases f with
    | and conjuncts => exact absurd rfl (hne conjuncts)
    | leaf | or => simp [gather, prunedTerm, ← ih]

theorem pruneKnownFalse_perm (h : fs.Perm gs) : Option.Rel List.Perm (pruneKnownFalse fs) (pruneKnownFalse gs) := by
  have hnegations := (h.filter (!·.isAnd)).filterMap negated?
  unfold pruneKnownFalse
  dsimp only
  rw [hnegations.isEmpty_eq]
  split
  · exact .some h
  · have hterm : prunedTerm ((fs.filter (!·.isAnd)).filterMap negated?) =
        prunedTerm ((gs.filter (!·.isAnd)).filterMap negated?) := by
      funext f
      cases f with
      | leaf | or => rfl
      | and conjuncts => simp only [prunedTerm, hnegations.any_eq]
    rw [pruneBy_eq_gather, pruneBy_eq_gather, hterm]
    exact gather_perm _ h

/-! ## Factoring -/

theorem mem_commonOf {lists : List (List Filter)} (hlists : ∀ cs ∈ lists, ∀ c ∈ cs, Within Leaf.Definite 2 c)
    (hsome : lists ≠ []) : f ∈ commonOf lists ↔ ∀ cs ∈ lists, f ∈ cs := by
  cases lists with
  | nil => exact absurd rfl hsome
  | cons first others =>
    rw [List.forall_mem_cons] at hlists
    rw [commonOf, List.mem_filter, List.forall_mem_cons, List.all_eq_true]
    refine and_congr_right fun hf => forall₂_congr fun cs hcs => ?_
    exact memberOf_iff_mem (hlists.2 cs hcs) (hlists.1 f hf)

section Common

variable {lists lists' : List (List Filter)} (hlists : ∀ cs ∈ lists, ∀ c ∈ cs, Within Leaf.Definite 2 c)
include hlists

theorem within_commonOf : ∀ c ∈ commonOf lists, Within Leaf.Definite 2 c := by
  intro c hc
  cases lists with
  | nil => cases hc
  | cons first others => exact hlists first List.mem_cons_self c (List.mem_filter.mp hc).1

theorem mem_commonOf_perm (h : lists.Perm lists') (c : Filter) : c ∈ commonOf lists ↔ c ∈ commonOf lists' := by
  by_cases hsome : lists = []
  · subst hsome
    rw [List.nil_perm.mp h]
  · have hsome' : lists' ≠ [] := fun hnil => hsome (List.perm_nil.mp (hnil ▸ h))
    have hlists' : ∀ cs ∈ lists', ∀ c ∈ cs, Within Leaf.Definite 2 c := fun cs hcs => hlists cs (h.mem_iff.mpr hcs)
    rw [mem_commonOf hlists hsome, mem_commonOf hlists' hsome']
    simp only [h.mem_iff]

theorem isEmpty_commonOf_perm (h : lists.Perm lists') : (commonOf lists).isEmpty = (commonOf lists').isEmpty := by
  rw [Bool.eq_iff_iff, List.isEmpty_iff, List.isEmpty_iff, List.eq_nil_iff_forall_not_mem,
    List.eq_nil_iff_forall_not_mem]
  simp only [mem_commonOf_perm hlists h]

theorem memberOf_commonOf_perm (h : lists.Perm lists') (hf : Within Leaf.Definite 2 f) :
    memberOf (commonOf lists) f = memberOf (commonOf lists') f := by
  have hcommon := within_commonOf hlists
  have hcommon' : ∀ c ∈ commonOf lists', Within Leaf.Definite 2 c := fun c hc =>
    hcommon c ((mem_commonOf_perm hlists h c).mpr hc)
  rw [Bool.eq_iff_iff, memberOf_iff_mem hcommon hf, memberOf_iff_mem hcommon' hf, mem_commonOf_perm hlists h]

end Common

/-- Two factored forms with the same parts, in another order. -/
structure FactoredAlike (f g : Factored) : Prop where
  plain : f.plain.Perm g.plain
  common : ∀ c, c ∈ f.common ↔ c ∈ g.common
  rests : f.rests.Perm g.rests

theorem factored_alike (hfs : ∀ f ∈ fs, Within Leaf.Definite 2 f) (h : fs.Perm gs) :
    Option.Rel FactoredAlike (factorCommonConjuncts fs) (factorCommonConjuncts gs) := by
  have hperm := h.filterMap conjunctsOf?
  have hlists : ∀ cs ∈ fs.filterMap conjunctsOf?, ∀ c ∈ cs, Within Leaf.Definite 2 c := fun cs hcs =>
    within_conjuncts hfs hcs
  rw [factorCommonConjuncts_eq, factorCommonConjuncts_eq, hperm.length_eq, isEmpty_commonOf_perm hlists hperm]
  split
  · exact .none
  · refine .some ⟨h.filter _, mem_commonOf_perm hlists hperm, ?_⟩
    have hrests := List.map_congr_left fun cs hcs => List.filter_congr (l := cs) fun c hc =>
      congrArg (!·) (memberOf_commonOf_perm hlists hperm (hlists cs hcs c hc))
    exact hrests ▸ hperm.map _

/-! ## Repeated steps -/

/-- A step that gives back its terms may as well be repeated. -/
theorem settle_succ {step : List Filter → Option (List Filter)} (passes : Nat)
    (hsame : ∀ next, step fs = some next → sameEach next fs = true → next = fs) :
    settle step (passes + 1) fs = (step fs).bind (settle step passes) := by
  rw [settle]
  cases hnext : step fs with
  | none => rfl
  | some next =>
    dsimp only
    rw [Option.bind_some]
    split
    · rename_i hstop
      obtain rfl := hsame next hnext hstop
      rw [settle_of_fixed passes hnext]
    · rfl

end Filter

end MapTheme
