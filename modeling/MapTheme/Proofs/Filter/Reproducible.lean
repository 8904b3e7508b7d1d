/-
  MapTheme.Proofs.Filter.Reproducible — when a simplified combination does not hang on the order of its terms.

  Only the first pass sees the order of the input; the next ones see what it has sorted. So it is enough that the
  first pass can tell apart what it compares and what it sorts: no two terms imply each other, and no two have one
  rank and one text. Of a conjunction that is one list of terms (`ConjunctsToldApart`). Of an alternative it is one, and
  one for each combination that factoring makes on the way (`BranchesToldApart`). Leaves that can be written down are
  always told apart (`conjunctsToldApart_of_leaves`, `branchesToldApart_of_leaves`).

  Combinations are not (`optimise_order_counts`): an alternative can be one more branch of itself, and a text can be
  that of two alternatives, as a value may have a bar in it.
-/

import MapTheme.Proofs.Filter.Reordering
import MapTheme.Proofs.Filter.Shape
import MapTheme.Proofs.Filter.Written
import Mathlib.Data.List.Pairwise

namespace MapTheme

namespace Filter

variable {fs gs : List Filter} {f g : Filter}

/-! ## Conjunctions -/

/-- The first pass over a conjunction tells apart the terms that it compares, and those that it sorts. -/
def ConjunctsToldApart (terms : List Filter) : Prop :=
  ∀ compared, compared? (flattenAnds terms) = some compared → NoEquivalents compared ∧ NoNamesakes (needed compared)

theorem andPass_congr (hfs : ∀ f ∈ fs, Within Leaf.Definite 2 f) (h : ∀ f, f ∈ fs ↔ f ∈ gs)
    (happart : ∀ compared, compared? fs = some compared → NoEquivalents compared ∧ NoNamesakes (needed compared)) :
    andPass fs = andPass gs := by
  rw [andPass_eq, andPass_eq]
  refine bind_eq_of_rel (compared_perm hfs h) fun compared compared' hcompared hperm => ?_
  obtain ⟨hdistinct, hnames⟩ := happart compared hcompared
  have hnodup : compared.Nodup := by
    obtain ⟨known, next, -, happly, rfl⟩ := compared?_eq_some hcompared
    have hnext := (applyKnown_reduces known (dedup_reduces hfs).within happly).within
    exact nodup_dedup (flattenAnds_reduces hnext).within
  have hneeded := needed_perm hnodup hperm hdistinct
  rw [hasContradiction_perm hneeded, sort_eq_of_perm hneeded hnames]

theorem mem_flattenAnds_congr (h : ∀ f, f ∈ fs ↔ f ∈ gs) (f : Filter) : f ∈ flattenAnds fs ↔ f ∈ flattenAnds gs := by
  rw [mem_flattenAnds, mem_flattenAnds]
  simp only [h]

/-- Conjunctions of the same terms have one simplified form. -/
theorem simplifyAnd_congr (hfs : ∀ f ∈ fs, Within Leaf.Definite 2 f) (h : ∀ f, f ∈ fs ↔ f ∈ gs)
    (happart : ConjunctsToldApart fs) : simplifyAnd fs = simplifyAnd gs := by
  have hgs : ∀ f ∈ gs, Within Leaf.Definite 2 f := fun f hf => hfs f ((h f).mpr hf)
  have hpass := andPass_congr (flattenAnds_reduces hfs).within (mem_flattenAnds_congr h) happart
  have hsettle : ∀ {terms : List Filter}, (∀ f ∈ terms, Within Leaf.Definite 2 f) →
      settle andPass maxPasses terms = (andPass terms).bind (settle andPass (maxPasses - 1)) := fun hterms =>
    settle_succ _ fun next hnext hsame => eq_of_sameEach (andPass_pass.within hterms hnext).1 hterms hsame
  rw [simplifyAnd, simplifyAnd, hsettle (flattenAnds_reduces hfs).within, hsettle (flattenAnds_reduces hgs).within,
    hpass]

/-! ## Alternatives -/

/-- The terms that a pass over an alternative has left when it factors. -/
def pruned? (terms : List Filter) : Option (List Filter) := pruneKnownFalse (widest (dedup terms))

/-- What is an alternative again of the simplified rests of factored conjunctions. -/
def alternativesOf (rests : List (List Filter)) : List Filter := (rests.map simplifyAnd).filterMap filterOf?

/-- The first pass over an alternative tells apart the terms that it compares, and those that it sorts; and so it is
with the combinations that it makes where it factors: what is common, the alternative of the rests, and both. -/
def BranchesToldApart : (room : Nat) → List Filter → Prop
  | 0, terms =>
    NoEquivalents (dedup (flattenOrs terms)) ∧
      ∀ kept, pruned? (flattenOrs terms) = some kept → NoNamesakes kept
  | room + 1, terms =>
    NoEquivalents (dedup (flattenOrs terms)) ∧ ∀ kept, pruned? (flattenOrs terms) = some kept →
      (∀ left, factorTerms (simplifyOrWithin room) kept = some left → NoNamesakes left) ∧
        ∀ form, factorCommonConjuncts kept = some form →
          ConjunctsToldApart form.common ∧ BranchesToldApart room (alternativesOf form.rests) ∧
            ∀ g, simplifyOrWithin room (alternativesOf form.rests) = .filter g →
              ConjunctsToldApart (form.common ++ [g])

/-- Only what is left of the alternative without nested ones counts. -/
theorem branchesToldApart_congr (room : Nat) (h : flattenOrs fs = flattenOrs gs) :
    BranchesToldApart room fs ↔ BranchesToldApart room gs := by
  cases room <;> simp only [BranchesToldApart, h]

theorem orPass_eq (factor : List Filter → Option (List Filter)) (terms : List Filter) : orPass factor terms =
    (pruned? terms).bind fun kept => if isTautology kept then none else (factor kept).map sort := by
  rw [orPass_eq_bind, pruned?, widest]

theorem pruned_perm (hfs : ∀ f ∈ fs, Within Leaf.Definite 2 f) (h : fs.Perm gs)
    (hdistinct : NoEquivalents (dedup fs)) : Option.Rel List.Perm (pruned? fs) (pruned? gs) :=
  pruneKnownFalse_perm (widest_perm (nodup_dedup hfs) (dedup_perm hfs fun _ => h.mem_iff) hdistinct)

theorem pruned_within {P : Leaf → Prop} (hfs : ∀ f ∈ fs, Within P 2 f) (h : pruned? fs = some gs) :
    ∀ g ∈ gs, Within P 2 g :=
  (pruneKnownFalse_reduces (removeRedundant_reduces _ (dedup_reduces hfs).within).within h).within

section Passes

variable {factor : List Filter → Option (List Filter)}

theorem orPass_congr (hfs : ∀ f ∈ fs, Within Leaf.Definite 2 f) (h : fs.Perm gs)
    (hdistinct : NoEquivalents (dedup fs))
    (hfactor : ∀ kept kept', pruned? fs = some kept → kept.Perm kept' →
      Option.Rel List.Perm (factor kept) (factor kept'))
    (hnames : ∀ kept left, pruned? fs = some kept → factor kept = some left → NoNamesakes left) :
    orPass factor fs = orPass factor gs := by
  rw [orPass_eq, orPass_eq]
  refine bind_eq_of_rel (pruned_perm hfs h hdistinct) fun kept kept' hkept hperm => ?_
  have hsorted : (factor kept).map sort = (factor kept').map sort := by
    rw [Option.map_eq_bind, Option.map_eq_bind]
    refine bind_eq_of_rel (hfactor kept kept' hkept hperm) fun left left' hleft hperm => ?_
    rw [Function.comp, Function.comp, sort_eq_of_perm hperm (hnames kept left hkept hleft)]
  rw [isTautology_perm hperm, hsorted]

theorem settledOr_congr (hpass : Pass Leaf.Definite (orPass factor)) (hfs : ∀ f ∈ fs, Within Leaf.Definite 2 f)
    (h : fs.Perm gs) (hfirst : orPass factor (flattenOrs fs) = orPass factor (flattenOrs gs)) :
    settledOr factor fs = settledOr factor gs := by
  have hgs : ∀ f ∈ gs, Within Leaf.Definite 2 f := fun f hf => hfs f (h.mem_iff.mpr hf)
  have hsettle : ∀ {terms : List Filter}, (∀ f ∈ terms, Within Leaf.Definite 2 f) →
      settle (orPass factor) maxPasses terms = (orPass factor terms).bind (settle (orPass factor) (maxPasses - 1)) :=
    fun hterms => settle_succ _ fun next hnext hsame => eq_of_sameEach (hpass.within hterms hnext).1 hterms hsame
  rw [settledOr, settledOr, hsettle (flattenOrs_reduces hfs).within, hsettle (flattenOrs_reduces hgs).within, hfirst]

end Passes

/-! ### Factoring -/

section Factoring

variable {simplifyOr : List Filter → Optimised} {form form' : Factored}

theorem alternativesOf_perm {rests rests' : List (List Filter)} (h : rests.Perm rests') :
    (alternativesOf rests).Perm (alternativesOf rests') := (h.map simplifyAnd).filterMap filterOf?

theorem factoredAnd_congr (hor : Simplifies Leaf.Definite simplifyOr) (hform : Splits Leaf.Definite fs form)
    (h : FactoredAlike form form') (hcommon : ConjunctsToldApart form.common)
    (hrests : simplifyOr (alternativesOf form.rests) = simplifyOr (alternativesOf form'.rests))
    (hboth : ∀ g, simplifyOr (alternativesOf form.rests) = .filter g → ConjunctsToldApart (form.common ++ [g])) :
    factoredAnd simplifyOr form.common form.rests = factoredAnd simplifyOr form'.common form'.rests := by
  have hwithin : ∀ c ∈ form.common, Within Leaf.Definite 2 c := fun c hc => (hform.common c hc).1
  rw [factoredAnd_eq_ite, factoredAnd_eq_ite, (h.rests.map simplifyAnd).any_eq, ← alternativesOf, ← alternativesOf,
    ← hrests, simplifyAnd_congr hwithin h.common hcommon]
  cases hsimplified : simplifyOr (alternativesOf form.rests) with
  | always | never => rfl
  | filter g =>
    have hg := (hor (total_alternatives_le hform.rests).1 hsimplified).1
    have hall : ∀ c ∈ form.common ++ [g], Within Leaf.Definite 2 c :=
      List.forall_mem_append.mpr ⟨hwithin, List.forall_mem_singleton.mpr hg⟩
    have hmem : ∀ c, c ∈ form.common ++ [g] ↔ c ∈ form'.common ++ [g] := fun c => by
      rw [List.mem_append, List.mem_append, h.common]
    dsimp only
    rw [simplifyAnd_congr hall hmem (hboth g hsimplified)]

theorem factorTerms_perm (hor : Simplifies Leaf.Definite simplifyOr) (hfs : ∀ f ∈ fs, Within Leaf.Definite 2 f)
    (h : fs.Perm gs)
    (hform : ∀ form, factorCommonConjuncts fs = some form → ConjunctsToldApart form.common ∧
      (∀ rests, form.rests.Perm rests → simplifyOr (alternativesOf form.rests) = simplifyOr (alternativesOf rests)) ∧
      ∀ g, simplifyOr (alternativesOf form.rests) = .filter g → ConjunctsToldApart (form.common ++ [g])) :
    Option.Rel List.Perm (factorTerms simplifyOr fs) (factorTerms simplifyOr gs) := by
  have halike := factored_alike hfs h
  rw [factorTerms_eq, factorTerms_eq]
  cases hfactored : factorCommonConjuncts fs with
  | none =>
    rw [hfactored] at halike
    generalize factorCommonConjuncts gs = other at halike ⊢
    cases halike
    exact .some h
  | some form =>
    obtain ⟨hcommon, hrests, hboth⟩ := hform form hfactored
    have hsplits := splits_of_factored hfs hfactored
    rw [hfactored] at halike
    generalize factorCommonConjuncts gs = other at halike ⊢
    cases halike with
    | @some _ form' halike =>
      have hequal := factoredAnd_congr hor hsplits halike hcommon (hrests form'.rests halike.rests) hboth
      dsimp only
      rw [← hequal]
      cases hg : factoredAnd simplifyOr form.common form.rests with
      | always => exact .none
      | never => exact .some (dedup_perm hsplits.plain fun _ => halike.plain.mem_iff)
      | filter g =>
        have hwithin := within_asBranches (factoredAnd_weight hor hsplits hg).1
        exact .some (dedup_perm (List.forall_mem_append.mpr ⟨hsplits.plain, hwithin⟩) fun _ =>
          (halike.plain.append_right _).mem_iff)

end Factoring

/-- Alternatives of the same terms have one simplified form, however deep factoring may nest. -/
theorem simplifyOrWithin_congr (room : Nat) (hfs : ∀ f ∈ fs, Within Leaf.Definite 2 f) (h : fs.Perm gs)
    (happart : BranchesToldApart room fs) : simplifyOrWithin room fs = simplifyOrWithin room gs := by
  induction room generalizing fs gs with
  | zero =>
    obtain ⟨hdistinct, hnames⟩ := happart
    have hkeep : ∀ {fs gs : List Filter}, (∀ f ∈ fs, Within Leaf.Definite 2 f) → some fs = some gs →
        Reduces Leaf.Definite fs gs := fun h he => Option.some.inj he ▸ .refl h
    refine settledOr_congr (orPass_pass hkeep) hfs h ?_
    refine orPass_congr (flattenOrs_reduces hfs).within (perm_flattenOrs h) hdistinct
      (fun _ _ _ hperm => .some hperm) fun kept left hkept hleft => ?_
    exact Option.some.inj hleft ▸ hnames kept hkept
  | succ room ih =>
    obtain ⟨hdistinct, hkept⟩ := happart
    have hor : Simplifies Leaf.Definite (simplifyOrWithin room) := by
      obtain ⟨factor, hpass, he⟩ := exists_factor Leaf.Definite room
      exact he ▸ settledOr_simplifies hpass
    have hflat := (flattenOrs_reduces hfs).within
    refine settledOr_congr (orPass_pass (factorTerms_reduces hor)) hfs h ?_
    refine orPass_congr hflat (perm_flattenOrs h) hdistinct ?_ fun kept left hpruned => (hkept kept hpruned).1 left
    intro kept kept' hpruned hperm
    have hwithin := pruned_within hflat hpruned
    refine factorTerms_perm hor hwithin hperm fun form hform => ?_
    obtain ⟨hcommon, hrests, hboth⟩ := (hkept kept hpruned).2 form hform
    refine ⟨hcommon, fun rests hp => ?_, hboth⟩
    exact ih (total_alternatives_le (splits_of_factored hwithin hform).rests).1 (alternativesOf_perm hp) hrests

/-! ## Whole filters -/

theorem carries_definite : Carries Leaf.Definite Leaf.Definite := by
  intro l l' hl h
  obtain rfl := leaf.inj (eq_simplified_of_optimiseLeaf h)
  rcases Leaf.simplified_cases l with ⟨key, value, -, he⟩ | ⟨-, he⟩
  · rw [he]
    rintro _ _ _ ⟨⟩
  · rwa [he]

theorem optimise_and_congr (h : fs.Perm gs) (hfs : ∀ f ∈ fs, Within Leaf.Definite 0 f)
    (happart : ∀ terms, optimiseConjuncts fs = some terms → ConjunctsToldApart terms) :
    (and fs).optimise = (and gs).optimise := by
  have hterms := gather_perm (fun f => conjunctsOf f.optimiseOnce) h
  rw [← optimiseConjuncts_eq_gather, ← optimiseConjuncts_eq_gather] at hterms
  rw [optimise, optimise, optimiseOnce, optimiseOnce]
  cases hconjuncts : optimiseConjuncts fs with
  | none =>
    rw [hconjuncts] at hterms
    generalize optimiseConjuncts gs = other at hterms
    cases hterms
    rfl
  | some terms =>
    rw [hconjuncts] at hterms
    have hwithin := (optimiseConjuncts_passed carries_definite hfs hconjuncts).within
    generalize optimiseConjuncts gs = other at hterms
    cases hterms with
    | some hperm =>
      dsimp only
      rw [simplifyAnd_congr hwithin (fun _ => hperm.mem_iff) (happart terms hconjuncts)]

theorem optimise_or_congr (h : fs.Perm gs) (hfs : ∀ f ∈ fs, Within Leaf.Definite 0 f)
    (happart : ∀ terms, optimiseBranches fs = some terms → BranchesToldApart maxFactoring terms) :
    (or fs).optimise = (or gs).optimise := by
  have hterms := gather_perm (fun f => branchesOf f.optimiseOnce) h
  rw [← optimiseBranches_eq_gather, ← optimiseBranches_eq_gather] at hterms
  rw [optimise, optimise, optimiseOnce, optimiseOnce]
  cases hbranches : optimiseBranches fs with
  | none =>
    rw [hbranches] at hterms
    generalize optimiseBranches gs = other at hterms
    cases hterms
    rfl
  | some terms =>
    rw [hbranches] at hterms
    have hwithin := (optimiseBranches_passed carries_definite hfs hbranches).within
    generalize optimiseBranches gs = other at hterms
    cases hterms with
    | some hperm =>
      dsimp only
      rw [simplifyOr, simplifyOr, simplifyOrWithin_congr maxFactoring hwithin hperm (happart terms hbranches)]

/-! ## Lists of leaves -/

end Filter

namespace Comparison

variable {op op' : Comparison} {x y : Binary64}

/-- Bounds that imply each other are one bound. -/
theorem eq_of_implies (h : op.implies x op' y = true) (h' : op'.implies y op x = true) : op = op' ∧ x.eq y = true := by
  cases op <;> cases op' <;> simp only [implies, Bool.false_eq_true] at h h'
  case less.less | atMost.atMost => exact ⟨rfl, Binary64.eq_of_le_of_le h h'⟩
  case greater.greater | atLeast.atLeast => exact ⟨rfl, Binary64.eq_of_le_of_le h' h⟩
  case less.atMost | greater.atLeast =>
    rw [Binary64.lt_eq_false_of_le h] at h'
    cases h'
  case atMost.less | atLeast.greater =>
    rw [Binary64.lt_eq_false_of_le h'] at h
    cases h

end Comparison

namespace Leaf

variable {a b : Leaf}

/-- Simplified leaves that imply each other are one leaf. -/
theorem eq_of_implies (ha : a.simplified = a ∧ a.Definite) (hb : b.simplified = b ∧ b.Definite)
    (h : a.implies b = true) (h' : b.implies a = true) : a = b := by
  have hliteral : ∀ {l m : Leaf} {key value}, l.simplified = l → m.simplified = m → l.fixes? = some (key, value) →
      l.implies m = true → m.implies l = true → l = m := by
    intro l m key value hl hm hfixes hlm hml
    obtain rfl := eq_tag_of_fixes? hl hfixes
    cases hfixes' : m.fixes? with
    | some fixed =>
      obtain rfl := eq_tag_of_fixes? hm hfixes'
      obtain ⟨hkey, hholds⟩ := (implies_iff_of_fixes? hfixes).mp hlm
      cases hkey
      simp [holds] at hholds
      rw [hholds]
    | none =>
      by_cases hbound : ∃ key op x, m = comparing key op x
      · obtain ⟨key', op, x, rfl⟩ := hbound
        rcases comparing_implies_iff.mp hml with ⟨_, _, he, -⟩ | he <;> cases he
      · rcases (implies_iff_of_open hfixes' (by simpa using hbound)).mp hml with he | ⟨_, _, -, -, he⟩
        · exact he.symm
        · cases he
  cases hfixes : a.fixes? with
  | some fixed => exact hliteral ha.1 hb.1 hfixes h h'
  | none =>
    cases hfixes' : b.fixes? with
    | some fixed => exact (hliteral hb.1 ha.1 hfixes' h' h).symm
    | none =>
      by_cases hbound : ∃ key op x, a = comparing key op x
      · obtain ⟨key, op, x, rfl⟩ := hbound
        rcases comparing_implies_iff.mp h with ⟨op', y, rfl, hop⟩ | rfl
        · rcases comparing_implies_iff.mp h' with ⟨_, _, he, hop'⟩ | he
          · cases he
            obtain ⟨rfl, heq⟩ := Comparison.eq_of_implies hop hop'
            rw [Binary64.eq_of_eq heq (ha.2 key op x rfl).2 (hb.2 key op y rfl).2]
          · cases he
        · rw [present_implies_iff] at h'
          cases h'
      · rcases (implies_iff_of_open hfixes (by simpa using hbound)).mp h with he | ⟨key, value, -, -, rfl⟩
        · exact he
        · exact present_implies_iff.mp h'

end Leaf

namespace Filter

variable {fs gs : List Filter} {f g : Filter}

/-- The terms are simplified leaves that can be written down. -/
def SimpleLeaves (terms : List Filter) : Prop :=
  ∀ f ∈ terms, ∃ l, f = leaf l ∧ l.simplified = l ∧ l.Definite ∧ l.Writable

namespace SimpleLeaves

variable {terms : List Filter} (h : SimpleLeaves terms)
include h

theorem mono (hsub : fs ⊆ terms) : SimpleLeaves fs := fun f hf => h f (hsub hf)

theorem isLeaf (hf : f ∈ terms) : f.isLeaf = true := by
  obtain ⟨l, rfl, -⟩ := h f hf
  rfl

theorem noEquivalents : NoEquivalents terms := by
  intro f hf g hg hfg hgf
  obtain ⟨l, rfl, hl, hdefinite, -⟩ := h f hf
  obtain ⟨m, rfl, hm, hdefinite', -⟩ := h g hg
  rw [leaf_implies_leaf] at hfg hgf
  rw [Leaf.eq_of_implies ⟨hl, hdefinite⟩ ⟨hm, hdefinite'⟩ hfg hgf]

/-- The text of a leaf is read back as that leaf, so another leaf has another text. -/
theorem noNamesakes : NoNamesakes terms := by
  intro f hf g hg _ htext
  obtain ⟨l, rfl, -, -, hl⟩ := h f hf
  obtain ⟨m, rfl, -, -, hm⟩ := h g hg
  rw [toText, toText] at htext
  have hread := hl.read_toText
  rw [htext, hm.read_toText] at hread
  exact (Except.ok.inj hread).symm

end SimpleLeaves

theorem applyKnown_subset {known : Known} (h : ∀ f ∈ fs, f.isLeaf = true) (happly : applyKnown known fs = some gs) :
    gs ⊆ fs := by
  fun_induction applyKnown known fs generalizing gs with
  | case1 =>
    cases happly
    exact List.Subset.refl _
  | case2 key value rest ih =>
    obtain ⟨more, hmore, rfl⟩ := Option.map_eq_some_iff.mp happly
    exact List.cons_subset_cons _ (ih (List.forall_mem_cons.mp h).2 hmore)
  | case3 f rest _ _ ih => exact List.subset_cons_of_subset _ (ih (List.forall_mem_cons.mp h).2 happly)
  | case4 => cases happly
  | case5 f rest _ g hg ih =>
    obtain ⟨hf, hrest⟩ := List.forall_mem_cons.mp h
    obtain ⟨more, hmore, rfl⟩ := Option.map_eq_some_iff.mp happly
    cases f with
    | and | or => cases hf
    | leaf l =>
      rw [assume] at hg
      rw [eq_of_assumeLeaf hg]
      exact List.cons_subset_cons _ (ih hrest hmore)

theorem conjunctsToldApart_of_leaves (h : SimpleLeaves fs) : ConjunctsToldApart fs := by
  intro compared hcompared
  have hplain : ∀ {terms : List Filter}, terms ⊆ fs → flattenAnds terms = terms := fun hsub =>
    flattenAnds_of_plain fun f hf => (plain_of_isLeaf (h.isLeaf (hsub hf))).1
  rw [hplain (List.Subset.refl fs)] at hcompared
  obtain ⟨known, next, -, happly, rfl⟩ := compared?_eq_some hcompared
  have hdedup := (dedup_sublist fs).subset
  have hnext : next ⊆ fs := fun f hf => hdedup (applyKnown_subset (fun g hg => h.isLeaf (hdedup hg)) happly hf)
  rw [hplain hnext]
  have hterms := h.mono fun f hf => hnext ((dedup_sublist next).subset hf)
  exact ⟨hterms.noEquivalents, (hterms.mono fun _ => mem_of_mem_removeRedundant).noNamesakes⟩

theorem pruneBy_of_plain {negations : List Filter} (h : ∀ f ∈ fs, f.isAnd = false) :
    pruneBy negations fs = some fs := by
  induction fs with
  | nil => rfl
  | cons f rest ih =>
    obtain ⟨hf, hrest⟩ := List.forall_mem_cons.mp h
    cases f with
    | and => cases hf
    | leaf | or =>
      rw [pruneBy, ih hrest]
      · rfl
      · simp

theorem branchesToldApart_of_leaves (room : Nat) (h : SimpleLeaves fs) : BranchesToldApart room fs := by
  have hplain : ∀ f ∈ fs, f.isAnd = false ∧ f.isOr = false := fun f hf => plain_of_isLeaf (h.isLeaf hf)
  have hflat : flattenOrs fs = fs := flattenOrs_of_plain fun f hf => (hplain f hf).2
  have hdistinct := (h.mono (dedup_sublist fs).subset).noEquivalents
  have hkept : ∀ {kept}, pruned? fs = some kept → kept ⊆ fs := by
    intro kept hpruned f hf
    have hwidest : widest (dedup fs) ⊆ fs := fun f hf => (dedup_sublist fs).subset (mem_of_mem_removeRedundant hf)
    unfold pruned? pruneKnownFalse at hpruned
    dsimp only at hpruned
    rw [pruneBy_of_plain fun f hf => (hplain f (hwidest hf)).1] at hpruned
    rw [ite_self] at hpruned
    exact hwidest (Option.some.inj hpruned ▸ hf)
  cases room with
  | zero =>
    rw [BranchesToldApart, hflat]
    exact ⟨hdistinct, fun kept hpruned => (h.mono (hkept hpruned)).noNamesakes⟩
  | succ room =>
    rw [BranchesToldApart, hflat]
    refine ⟨hdistinct, fun kept hpruned => ?_⟩
    have hnone : factorCommonConjuncts kept = none := by
      have hlists : kept.filterMap conjunctsOf? = [] := by
        rw [List.filterMap_eq_nil_iff]
        intro f hf
        obtain ⟨l, rfl, -⟩ := h f (hkept hpruned hf)
        rfl
      rw [factorCommonConjuncts_eq, hlists]
      rfl
    refine ⟨fun left hleft => ?_, fun form hform => ?_⟩
    · rw [factorTerms_eq, hnone] at hleft
      exact Option.some.inj hleft ▸ (h.mono (hkept hpruned)).noNamesakes
    · rw [hnone] at hform
      cases hform

theorem simpleLeaves_simplifiedEach (hfs : ∀ f ∈ fs, Within Leaf.Definite 0 f)
    (h : ∀ f ∈ fs, ∃ l, f = leaf l ∧ l.simplified.Writable) : SimpleLeaves (simplifiedEach fs) := by
  intro g hg
  obtain ⟨f, hf, honce⟩ := List.mem_filterMap.mp hg
  obtain ⟨l, rfl, hwritable⟩ := h f hf
  cases hl : optimiseLeaf l with
  | always | never =>
    rw [optimiseOnce, hl] at honce
    cases honce
  | filter g' =>
    rw [optimiseOnce, hl] at honce
    obtain rfl := Option.some.inj honce
    obtain rfl := eq_simplified_of_optimiseLeaf hl
    exact ⟨_, rfl, Leaf.simplified_simplified l, carries_definite (within_leaf.mp (hfs _ hf)) hl, hwritable⟩

/-! ## Any order -/

/-- Terms in another order make the same conjunction and the same alternative, if the first pass can tell apart what
it compares and sorts; and leaves that can be written down make the same ones in any case. Bounds are numbers, and zero
has no sign: the two zeros are equal and have different texts. -/
theorem optimise_perm (hperm : fs.Perm gs) (hbounds : ∀ f ∈ fs, ∀ key op bound,
      leaf (.comparing key op bound) ∈ f.parts → bound ≠ .nan ∧ bound ≠ .finite true 0) :
    ((∀ terms, optimiseConjuncts fs = some terms → ConjunctsToldApart terms) →
      (and fs).optimise = (and gs).optimise) ∧
    ((∀ terms, optimiseBranches fs = some terms → BranchesToldApart maxFactoring terms) →
      (or fs).optimise = (or gs).optimise) ∧
    ((∀ f ∈ fs, ∃ l, f = leaf l ∧ l.simplified.Writable) →
      (and fs).optimise = (and gs).optimise ∧ (or fs).optimise = (or gs).optimise) := by
  have hfs : ∀ f ∈ fs, Within Leaf.Definite 0 f := fun f hf => within_of_parts fun l hl key op bound he =>
    hbounds f hf key op bound (he ▸ hl)
  refine ⟨optimise_and_congr hperm hfs, optimise_or_congr hperm hfs, fun hleaves => ⟨?_, ?_⟩⟩
  · refine optimise_and_congr hperm hfs fun terms hterms => ?_
    obtain ⟨rfl, -⟩ := optimiseConjuncts_eq_some hterms
    exact conjunctsToldApart_of_leaves (simpleLeaves_simplifiedEach hfs hleaves)
  · refine optimise_or_congr hperm hfs fun terms hterms => ?_
    obtain ⟨rfl, -⟩ := optimiseBranches_eq_some hterms
    exact branchesToldApart_of_leaves maxFactoring (simpleLeaves_simplifiedEach hfs hleaves)

theorem noEquivalents_of_independent (h : Independent fs) : NoEquivalents fs := by
  have hsymm : Std.Symm fun f g : Filter => f.implies g = true → g.implies f = true → f = g :=
    ⟨fun _ _ hfg hgf hfg' => (hfg hfg' hgf).symm⟩
  have hpairs : fs.Pairwise fun f g => f.implies g = true → g.implies f = true → f = g :=
    h.imp fun ⟨hnot, _⟩ himp _ => absurd himp (by simp [hnot])
  exact fun f hf g hg => hpairs.forall_of_forall (fun _ _ _ _ => rfl) hf hg

/-- The place of a term in the order, which terms may share. -/
def place (f : Filter) : Nat × String := (f.rank, f.toText)

theorem noNamesakes_of_places (h : fs.Pairwise fun f g => f.place ≠ g.place) : NoNamesakes fs := by
  have hsymm : Std.Symm fun f g : Filter => f.rank = g.rank → f.toText = g.toText → f = g :=
    ⟨fun _ _ hfg hrank htext => (hfg hrank.symm htext.symm).symm⟩
  have hpairs : fs.Pairwise fun f g => f.rank = g.rank → f.toText = g.toText → f = g :=
    h.imp fun hne hrank htext => absurd (Prod.ext hrank htext) hne
  exact fun f hf g hg => hpairs.forall_of_forall (fun _ _ _ _ => rfl) hf hg

/-! ### A bench or a stool -/

def perch : Filter := or [tag "bench" "yes", tag "stool" "yes"]

/-- A pass gives back an alternative of terms that have nothing to do with each other, in order. -/
theorem fixed_or {p : Properties} (hfixed : ∀ f ∈ fs, Fixed f) (hnone : ∀ f ∈ fs, f.holds p = false)
    (hplain : ∀ f ∈ fs, f.isOr = false) (hind : Independent fs) (hlength : 2 ≤ fs.length)
    (hprune : pruneKnownFalse fs = some fs) (hfactor : factorCommonConjuncts fs = none)
    (hsorted : fs.Pairwise fun f g => termLe f g = true) : Fixed (or fs) := by
  have hsort : sort fs = fs := by rw [sort_eq_mergeSort, List.mergeSort_of_pairwise hsorted]
  rw [Fixed, optimiseOnce, optimiseBranches_of_fixed hfixed]
  exact simplifyOr_of_independent hnone hplain hind hlength hprune hfactor hsort

theorem fixed_perch : Fixed perch :=
  fixed_pair (p := .empty) rfl rfl (by decide) (by decide) (by decide) (by decide)

theorem writable_yes {key : String} (hkey : WritableKey key) (hcolon : key.toList.getLast? ≠ some ':') :
    (Leaf.tag key "yes").Writable := ⟨hkey, hcolon, by decide, by decide, by decide⟩

/-- A covered perch, and a covered bench, are the same in both orders. -/
theorem optimise_perm_covered :
    (and [perch, tag "covered" "yes"]).optimise = (and [tag "covered" "yes", perch]).optimise ∧
      (or [perch, tag "covered" "yes"]).optimise = (or [tag "covered" "yes", perch]).optimise ∧
      (and [tag "bench" "yes", tag "covered" "yes"]).optimise =
        (and [tag "covered" "yes", tag "bench" "yes"]).optimise := by
  have hfixed : ∀ f ∈ [perch, tag "covered" "yes"], Fixed f := by
    have htag : Fixed (tag "covered" "yes") := rfl
    simp [fixed_perch, htag]
  have hapart : ConjunctsToldApart [perch, tag "covered" "yes"] := by
    intro compared hcompared
    have he : compared? (flattenAnds [perch, tag "covered" "yes"]) = some [perch, tag "covered" "yes"] := rfl
    obtain rfl := Option.some.inj (he.symm.trans hcompared)
    have hind : Independent [perch, tag "covered" "yes"] :=
      List.pairwise_pair.mpr ⟨by decide, by decide⟩
    have hplaces : [perch, tag "covered" "yes"].Pairwise fun f g => f.place ≠ g.place := by decide
    refine ⟨noEquivalents_of_independent hind, fun f hf g hg => ?_⟩
    exact noNamesakes_of_places hplaces f (mem_of_mem_removeRedundant hf) g (mem_of_mem_removeRedundant hg)
  have hbench : (Leaf.tag "bench" "yes").Writable := writable_yes (by decide) (by decide)
  have hstool : (Leaf.tag "stool" "yes").Writable := writable_yes (by decide) (by decide)
  have hcovered : (Leaf.tag "covered" "yes").Writable := writable_yes (by decide) (by decide)
  have hbranchesApart : BranchesToldApart maxFactoring [perch, tag "covered" "yes"] := by
    have hleaves : SimpleLeaves [tag "bench" "yes", tag "stool" "yes", tag "covered" "yes"] := by
      simp only [SimpleLeaves, List.forall_mem_cons, tag]
      exact ⟨⟨_, rfl, rfl, by simp [Leaf.Definite], hbench⟩, ⟨_, rfl, rfl, by simp [Leaf.Definite], hstool⟩,
        ⟨_, rfl, rfl, by simp [Leaf.Definite], hcovered⟩, by simp⟩
    have hflat : flattenOrs [tag "bench" "yes", tag "stool" "yes", tag "covered" "yes"] =
        flattenOrs [perch, tag "covered" "yes"] := rfl
    exact (branchesToldApart_congr maxFactoring hflat).mp (branchesToldApart_of_leaves maxFactoring hleaves)
  have hperch := optimise_perm (List.Perm.swap (tag "covered" "yes") perch [])
    (by simp [perch, tag, parts, partsOfEach])
  have hpair := optimise_perm (List.Perm.swap (tag "covered" "yes") (tag "bench" "yes") []) (by simp [tag, parts])
  refine ⟨hperch.1 fun terms he => ?_, hperch.2.1 fun terms he => ?_, (hpair.2.2 ?_).1⟩
  · exact Option.some.inj ((optimiseConjuncts_of_fixed hfixed).symm.trans he) ▸ hapart
  · exact Option.some.inj ((optimiseBranches_of_fixed hfixed).symm.trans he) ▸ hbranchesApart
  · simp only [List.forall_mem_cons, tag]
    exact ⟨⟨_, rfl, hbench⟩, ⟨_, rfl, hcovered⟩, by simp⟩

/-! ## Orders that count -/

mutual

/-- Without known values nothing changes. -/
theorem assume_nil {P : Leaf → Prop} : ∀ {f : Filter}, Within P 2 f → assume [] f = .filter f
  | leaf l, _ => by
    rw [assume, assumeLeaf]
    cases l.singleKey? <;> rfl
  | and fs, h => by
    obtain ⟨hlength, hfs⟩ := within_and.mp h
    rw [assume, (assume_nil_each hfs).1]
    exact conjunctionOf_of_two_le hlength
  | or fs, h => by
    obtain ⟨hlength, hfs⟩ := within_or.mp h
    rw [assume, (assume_nil_each hfs).2]
    exact alternativeOf_of_two_le hlength

theorem assume_nil_each {P : Leaf → Prop} : ∀ {fs : List Filter}, (∀ f ∈ fs, Within P 2 f) →
    assumeAll [] fs = some fs ∧ assumeAny [] fs = some fs
  | [], _ => ⟨rfl, rfl⟩
  | f :: fs, h => by
    rw [List.forall_mem_cons] at h
    rw [assumeAll, assumeAny, assume_nil h.1, (assume_nil_each h.2).1, (assume_nil_each h.2).2]
    exact ⟨rfl, rfl⟩

end

section Alternatives

variable (hor : ∀ f ∈ fs, f.isOr = true) (hfixed : ∀ f ∈ fs, Fixed f)
include hor

theorem flattenAnds_of_alternatives : flattenAnds fs = fs := flattenAnds_of_plain fun f hf => by
  have hf := hor f hf
  cases f with
  | leaf | and => cases hf
  | or => rfl

include hfixed

/-- Alternatives fix no value and have no negation; a pass over their conjunction drops what is implied, and sorts. -/
theorem andPass_of_alternatives : andPass fs = some (sort (needed (dedup fs))) := by
  have hmem : ∀ f ∈ dedup fs, f ∈ fs := fun f hf => (dedup_sublist fs).subset hf
  have hwithin : ∀ f ∈ dedup fs, Within Simple 2 f := fun f hf =>
    (optimiseOnce_lighter (carries_simple fun _ => True) (within_of_parts fun _ _ => trivial)
      (hfixed f (hmem f hf))).1
  have htag : ∀ f ∈ dedup fs, ∀ key value, f ≠ tag key value := by
    rintro _ hf key value rfl
    cases hor _ (hmem _ hf)
  have hknown : knownValues (dedup fs) = some [] := by
    obtain ⟨known, hknown⟩ := exists_knownValues fun key v v' hv _ => absurd rfl (htag _ hv key v)
    cases known with
    | nil => exact hknown
    | cons entry known =>
      have hlookup := (knows_of_knownValues hknown entry.1 entry.2).mp (by rw [List.lookup_cons, beq_self_eq_true])
      exact absurd rfl (htag _ hlookup entry.1 entry.2)
  have happly : applyKnown [] (dedup fs) = some (dedup fs) := by
    have hstays := applyKnown_map (s := id) (t := id) fun f hf => .inr ⟨htag f hf, assume_nil (hwithin f hf)⟩
    rwa [List.map_id] at hstays
  have hflat := flattenAnds_of_alternatives fun f hf => hor f (hmem f hf)
  have hfound : hasContradiction (needed (dedup fs)) = false := by
    refine List.any_eq_false.mpr fun ⟨f, others⟩ hentry => ?_
    have hf := hor f (hmem f (mem_of_mem_removeRedundant (mem_withOthers hentry).1))
    cases f with
    | leaf | and => cases hf
    | or => simp [negated?]
  rw [andPass_eq, compared?, hknown, Option.bind_some, happly, Option.map_some, hflat, dedup_of_apart (apart_dedup fs),
    Option.bind_some, hfound]
  rfl

/-- A conjunction of alternatives is what one pass leaves, if the next one finds nothing to drop. -/
theorem optimise_of_alternatives (hleft : sort (needed (dedup fs)) = gs) (hagain : needed gs = gs) :
    (and fs).optimiseOnce = conjunctionOf gs := by
  have hmem : ∀ g ∈ gs, g ∈ fs := fun g hg =>
    (dedup_sublist fs).subset (mem_of_mem_removeRedundant ((perm_sort _).mem_iff.mp (hleft ▸ hg)))
  have hapart : Apart gs := by
    have hneeded : Apart (needed (dedup fs)) := (apart_dedup fs).sublist (removeRedundantAfter_sublist _ [] _)
    refine hleft ▸ ((perm_sort _).pairwise_iff fun {f g} hfg => ?_).mpr hneeded
    rw [Bool.eq_false_iff] at hfg ⊢
    exact fun hgf => hfg (same_symm hgf)
  have hpass := andPass_of_alternatives hor hfixed
  have hpass' := andPass_of_alternatives (fun g hg => hor g (hmem g hg)) (fun g hg => hfixed g (hmem g hg))
  rw [hleft] at hpass
  rw [dedup_of_apart hapart, hagain, ← hleft, sort_sort, hleft] at hpass'
  rw [optimiseOnce, optimiseConjuncts_of_fixed hfixed]
  dsimp only
  rw [simplifyAnd, flattenAnds_of_alternatives hor, maxPasses, settle_of_step _ hpass hpass']

end Alternatives

/-- Two alternatives that have nothing to do with each other stay, the one that comes first in the order in front. -/
theorem optimise_of_pair (hor : ∀ x ∈ fs, x.isOr = true) (hfixed : ∀ x ∈ fs, Fixed x) (hdedup : dedup fs = [f, g])
    (hind : Independent [f, g]) (hsort : sort [f, g] = gs) (hlength : gs.length = 2) :
    (and fs).optimise = .filter (and gs) := by
  have hneeded : needed [f, g] = [f, g] := removeRedundant_implied hind
  have hperm : gs.Perm [f, g] := hsort ▸ perm_sort [f, g]
  have hagain : needed gs = gs := removeRedundant_implied (hind.of_perm hperm)
  have hmem : ∀ x ∈ gs, x ∈ fs := fun x hx => (dedup_sublist fs).subset (hdedup ▸ hperm.mem_iff.mp hx)
  have hconjunction := conjunctionOf_of_two_le (Nat.le_of_eq hlength.symm)
  have honce := optimise_of_alternatives hor hfixed (by rw [hdedup, hneeded, hsort]) hagain
  have hpair : ∀ x ∈ gs, x.isOr = true ∧ Fixed x := fun x hx => ⟨hor x (hmem x hx), hfixed x (hmem x hx)⟩
  have hstays : Fixed (and gs) := by
    have hgs : dedup gs = gs := dedup_of_apart (hind.of_perm hperm).apart
    have hsorted : sort gs = gs := by rw [← hsort, sort_sort]
    rw [Fixed, ← hconjunction]
    exact optimise_of_alternatives (fun x hx => (hpair x hx).1) (fun x hx => (hpair x hx).2)
      (by rw [hgs, hagain, hsorted]) hagain
  rw [optimise, honce, hconjunction]
  exact optimiseMore_of_fixed maxPasses hstays

theorem sort_of_place (hplace : f.place = g.place) : sort [f, g] = [f, g] := by
  obtain ⟨hrank, htext⟩ := Prod.ext_iff.mp hplace
  exact sort_pair_of_le (keyLe_iff.mpr (.inr ⟨hrank, htext ▸ String.le_refl _⟩))

/-- Of two alternatives the first makes way for the second, if that implies it. -/
theorem optimise_of_implied (hor : f.isOr = true ∧ g.isOr = true) (hfixed : Fixed f ∧ Fixed g)
    (hapart : f.same g = false) (himp : g.implies f = true) : (and [f, g]).optimise = .filter g := by
  have hdedup : dedup [f, g] = [f, g] := dedup_of_apart (List.pairwise_pair.mpr hapart)
  have hneeded : needed [f, g] = [g] := by simp [needed, removeRedundant, removeRedundantAfter, himp]
  have hsort : sort [g] = [g] := by rw [sort_eq_mergeSort, List.mergeSort_singleton]
  have honce : (and [f, g]).optimiseOnce = conjunctionOf [g] :=
    optimise_of_alternatives (by simp [hor]) (by simp [hfixed]) (by rw [hdedup, hneeded, hsort]) rfl
  rw [optimise, honce]
  exact optimiseMore_of_fixed maxPasses hfixed.2

/-! ### One text -/

def gravelOrSand : Filter := or [tag "surface" "gravel", tag "surface" "sand", tag "width" "2"]

/-- The first value has a bar in it, so the text is that of the two surfaces above. -/
def gravelBarSand : Filter := or [tag "surface" "gravel|surface=sand", tag "width" "2"]

theorem fixed_gravelOrSand : Fixed gravelOrSand := by
  refine fixed_or (p := .empty) ?_ (by decide) (by decide) ?_ (by decide) rfl rfl (by decide)
  · simp [tag, Fixed, optimiseOnce, optimiseLeaf, Leaf.simplified]
  · simp only [Independent, List.pairwise_cons, List.forall_mem_cons]
    decide

theorem fixed_gravelBarSand : Fixed gravelBarSand :=
  fixed_pair (p := .empty) rfl rfl (by decide) (by decide) (by decide) (by decide)

/-! ### One meaning -/

def coveredPerch : Filter := and [tag "covered" "yes", perch]

/-- A perch, or a covered one: the last branch adds nothing, but no other branch says so. -/
def anyPerch : Filter := or [tag "bench" "yes", tag "stool" "yes", coveredPerch]

theorem fixed_coveredPerch : Fixed coveredPerch := by
  have hind : Independent [tag "covered" "yes", perch] :=
    List.pairwise_pair.mpr ⟨by decide, by decide⟩
  have hstays : ∀ known, Knows [tag "covered" "yes", perch] known →
      ∀ f ∈ [tag "covered" "yes", perch], Becomes known f f := by
    intro known hknows
    have hbench : known.lookup "bench" = none := hknows.lookup_eq_none (by simp [tag, perch])
    have hstool : known.lookup "stool" = none := hknows.lookup_eq_none (by simp [tag, perch])
    simp [Becomes, perch, tag, assume, assumeAny, assumeLeaf, Leaf.singleKey?, hbench, hstool, alternativeOf]
  have hsort : sort [tag "covered" "yes", perch] = [tag "covered" "yes", perch] := sort_pair_of_le (by decide)
  have hand : simplifyAnd [tag "covered" "yes", perch] = .filter coveredPerch := by
    rw [simplifyAnd_of_independent (p := .ofList [("bench", "yes"), ("covered", "yes")]) (by decide) (by decide) hind
      (by simp) hstays, hsort, coveredPerch]
  have htag : Fixed (tag "covered" "yes") := rfl
  rw [Fixed, coveredPerch, optimiseOnce, optimiseConjuncts_of_fixed (by simp [htag, fixed_perch])]
  exact hand

theorem fixed_anyPerch : Fixed anyPerch := by
  have htags : Fixed (tag "bench" "yes") ∧ Fixed (tag "stool" "yes") := ⟨rfl, rfl⟩
  refine fixed_or (p := .empty) (by simp [htags, fixed_coveredPerch]) (by decide) (by decide) ?_ (by decide) rfl rfl
    (by decide)
  simp only [Independent, List.pairwise_cons, List.forall_mem_cons]
  decide

/-! ### One number -/

def above (key : String) (negative : Bool) (magnitude : Nat) : Leaf :=
  .comparing key .greater (.finite negative magnitude)

/-- The zeros are equal, and have different texts: `-0` comes before `-1`, and `0` after it. -/
def overZero (negative : Bool) : Filter :=
  or [leaf (above "seats" negative 0), leaf (above "width" false Binary64.one)]

def overMinusOne : Filter := or [leaf (above "seats" true Binary64.one), leaf (above "zone" false Binary64.one)]

theorem fixed_above {key key' : String} {negative negative' : Bool} {m m' : Nat} (hne : key ≠ key')
    (hle : termLe (leaf (above key negative m)) (leaf (above key' negative' m')) = true) :
    Fixed (or [leaf (above key negative m), leaf (above key' negative' m')]) := by
  refine fixed_pair (p := .empty) rfl rfl ?_ ?_ ⟨rfl, rfl⟩ hle
  · simp [above, Leaf.implies, Leaf.same, Leaf.impliesOther, Leaf.fixes?, hne]
  · simp [above, Leaf.implies, Leaf.same, Leaf.impliesOther, Leaf.fixes?, hne.symm]

/-- What the three say of each other, and where they and their branches stand. -/
theorem overZero_places :
    (∀ negative, (overZero negative).same (overZero !negative) = true ∧
      (overZero negative).implies overMinusOne = false ∧ overMinusOne.implies (overZero negative) = false ∧
      termLe (leaf (above "seats" negative 0)) (leaf (above "width" false Binary64.one)) = true) ∧
    termLe (leaf (above "seats" true Binary64.one)) (leaf (above "zone" false Binary64.one)) = true ∧
    termLe (overZero true) overMinusOne = true ∧ termLe overMinusOne (overZero false) = true ∧
      (overZero false).place ≠ overMinusOne.place := by
  decide +kernel

theorem independent_overZero (negative : Bool) : Independent [overZero negative, overMinusOne] := by
  obtain ⟨-, himp, himp', -⟩ := overZero_places.1 negative
  exact List.pairwise_pair.mpr ⟨himp, himp'⟩

theorem overZero_same_overMinusOne (negative : Bool) : (overZero negative).same overMinusOne = false :=
  List.rel_of_pairwise_cons (independent_overZero negative).apart (.head _)

/-- Of the two zeros the one that comes first stays. -/
theorem optimise_overZero (negative : Bool) (hsort : sort [overZero negative, overMinusOne] = gs)
    (hlength : gs.length = 2) :
    (and [overZero negative, overZero !negative, overMinusOne]).optimise = .filter (and gs) := by
  have hzero : ∀ negative, Fixed (overZero negative) := fun negative =>
    fixed_above (by decide) (overZero_places.1 negative).2.2.2
  have hone : Fixed overMinusOne := fixed_above (by decide) overZero_places.2.1
  have hdedup : dedup [overZero negative, overZero !negative, overMinusOne] = [overZero negative, overMinusOne] := by
    have hsame : (overZero negative).same (overZero !negative) = true := (overZero_places.1 negative).1
    simp [dedup, dedupAfter, memberOf, hsame, overZero_same_overMinusOne]
  refine optimise_of_pair ?_ ?_ hdedup (independent_overZero negative) hsort hlength <;>
    simp only [List.forall_mem_cons]
  · exact ⟨rfl, rfl, rfl, by simp⟩
  · exact ⟨hzero _, hzero _, hone, by simp⟩

/-- Terms in another order make another conjunction: with one text they stay in the order in which they came; of two
that imply each other the last one stays, and of two that are equal the first one. -/
theorem optimise_order_counts :
    (and [gravelOrSand, gravelBarSand]).optimise.same (and [gravelBarSand, gravelOrSand]).optimise = false ∧
      (and [perch, anyPerch]).optimise.same (and [anyPerch, perch]).optimise = false ∧
      (and [overZero true, overZero false, overMinusOne]).optimise.same
        (and [overZero false, overZero true, overMinusOne]).optimise = false := by
  refine ⟨?_, ?_, ?_⟩
  · have hind : Independent [gravelOrSand, gravelBarSand] :=
      List.pairwise_pair.mpr ⟨by decide, by decide⟩
    have hplace : gravelOrSand.place = gravelBarSand.place := by decide
    have hfixed := And.intro fixed_gravelOrSand fixed_gravelBarSand
    have hind' := hind.of_perm (List.Perm.swap gravelOrSand gravelBarSand [])
    have hsort := sort_of_place hplace
    have hsort' := sort_of_place hplace.symm
    rw [optimise_of_pair (by decide) (by simp [hfixed]) (dedup_of_apart hind.apart) hind hsort rfl,
      optimise_of_pair (by decide) (by simp [hfixed]) (dedup_of_apart hind'.apart) hind' hsort' rfl]
    decide
  · rw [optimise_of_implied ⟨rfl, rfl⟩ ⟨fixed_perch, fixed_anyPerch⟩ (by decide) (by decide),
      optimise_of_implied ⟨rfl, rfl⟩ ⟨fixed_anyPerch, fixed_perch⟩ (by decide) (by decide)]
    decide
  · obtain ⟨hfirst, hlast, hplace⟩ := overZero_places.2.2
    have hsort : sort [overZero true, overMinusOne] = [overZero true, overMinusOne] := sort_pair_of_le hfirst
    have hsort' : sort [overZero false, overMinusOne] = [overMinusOne, overZero false] := by
      have hnames : NoNamesakes [overZero false, overMinusOne] :=
        noNamesakes_of_places (List.pairwise_pair.mpr hplace)
      rw [sort_eq_of_perm (List.Perm.swap overMinusOne (overZero false) []) hnames]
      exact sort_pair_of_le hlast
    have hnegative : (and [overZero true, overZero false, overMinusOne]).optimise = _ :=
      optimise_overZero true hsort rfl
    have hpositive : (and [overZero false, overZero true, overMinusOne]).optimise = _ :=
      optimise_overZero false hsort' rfl
    rw [hnegative, hpositive, Optimised.same, same, sameEach, overZero_same_overMinusOne, Bool.false_and]

end Filter

end MapTheme
