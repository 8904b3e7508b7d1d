/-
  MapTheme.Proofs.Filter.Preorder — implication between filters is a preorder.

  The test is incomplete: it takes a conjunction on the right apart first, then what stands on the left, and looks
  into an alternative on the right only from a leaf. So transitivity is no matter of meaning but of the rules, which
  are stated one by one (`implies_and_iff` to `leaf_implies_or_iff`). Filters that are the same can stand for each other on
  both sides (`implies_of_same_left`, `implies_of_same_right`); then the filter in the middle is taken apart until
  it is a leaf (`implies_trans`), where the value of a key, a bound or its presence decides (`Leaf.implies_trans`).

  NaN is not equal to itself, so a bound that is NaN does not imply itself; every filter without one does.
-/

import MapTheme.Proofs.Filter.Fixpoint
import MapTheme.Proofs.Filter.Independent

namespace MapTheme

/-! ## Bounds -/

namespace Comparison

variable {op op' op'' : Comparison} {x y z : Binary64}

theorem implies_of_eq (op : Comparison) (h : x.eq y = true) : op.implies x op y = true := by
  have hle : x.le y = true := by
    obtain ⟨place, hx, hy⟩ := Binary64.eq_iff.mp h
    exact Binary64.le_iff.mpr ⟨place, place, hx, hy, by unfold Binary64.Before; omega⟩
  cases op with
  | less | atMost => exact hle
  | greater | atLeast => rwa [implies, ← Binary64.le_congr_left h, Binary64.le_congr_right (Binary64.eq_symm h)] at *

theorem implies_trans (h : op.implies x op' y = true) (h' : op'.implies y op'' z = true) :
    op.implies x op'' z = true := by
  cases op <;> cases op' <;> simp only [implies, Bool.false_eq_true] at h <;>
    cases op'' <;> simp only [implies, Bool.false_eq_true] at h' ⊢
  all_goals grind -ring -linarith [Binary64.le_trans, Binary64.lt_of_lt_of_le, Binary64.lt_of_le_of_lt, Binary64.le_of_lt]

end Comparison

/-! ## Leaves -/

namespace Leaf

variable {a b c : Leaf} {key value : String}

theorem singleKey?_of_fixes? (h : a.fixes? = some (key, value)) : a.singleKey? = some key := by
  unfold fixes? at h
  split at h <;> cases h <;> rfl

theorem holds_of_fixes? (h : a.fixes? = some (key, value)) : a.holds (.assigned key value) = true := by
  unfold fixes? at h
  split at h <;> cases h <;> simp [holds, Matcher.accepts]

theorem isPresence_iff {value : Matcher} {invert : Bool} :
    (regex (.exact key) value invert).isPresence = true ↔ regex (.exact key) value invert = present key := by
  rw [isPresence, Bool.and_eq_true, decide_eq_true_eq, present, regex.injEq]
  exact ⟨fun h => ⟨rfl, h.2, h.1⟩, fun h => ⟨h.2.2, h.2.1⟩⟩

/-- A literal value implies what is true of it. -/
theorem implies_iff_of_fixes? (h : a.fixes? = some (key, value)) :
    a.implies b = true ↔ b.singleKey? = some key ∧ b.holds (.assigned key value) = true := by
  have hother : a.impliesOther b = true ↔ b.singleKey? = some key ∧ b.holds (.assigned key value) = true := by
    simp only [impliesOther, h, Bool.and_eq_true, beq_iff_eq]
  rw [implies, Bool.or_eq_true, hother]
  refine ⟨?_, .inr⟩
  rintro (hsame | hother)
  · rcases same_iff.mp hsame with ⟨_, _, _, _, rfl, -⟩ | ⟨-, rfl⟩
    · cases h
    · exact ⟨singleKey?_of_fixes? h, holds_of_fixes? h⟩
  · exact hother

/-- A bound implies the looser bounds on its key, and that its key is present. -/
theorem comparing_implies_iff {op : Comparison} {x : Binary64} : (comparing key op x).implies b = true ↔
    (∃ op' y, b = comparing key op' y ∧ op.implies x op' y = true) ∨ b = present key := by
  rw [implies, Bool.or_eq_true]
  constructor
  · rintro (hsame | hother)
    · rcases same_iff.mp hsame with ⟨_, _, _, y, ha, rfl, heq⟩ | ⟨hne, -⟩
      · cases ha
        exact .inl ⟨op, y, rfl, Comparison.implies_of_eq op heq⟩
      · exact absurd rfl (hne key op x)
    · cases b with
      | comparing key' op' y =>
        simp only [impliesOther, fixes?, Bool.and_eq_true, beq_iff_eq] at hother
        obtain ⟨rfl, hop⟩ := hother
        exact .inl ⟨op', y, rfl, hop⟩
      | regex key' value invert =>
        cases key' with
        | exact key' =>
          simp only [impliesOther, fixes?, Bool.and_eq_true, beq_iff_eq] at hother
          obtain ⟨rfl, hpresence⟩ := hother
          exact .inr (isPresence_iff.mp hpresence)
        | pattern => cases hother
      | tag | substituting => cases hother
  · rintro (⟨op', y, rfl, hop⟩ | rfl)
    · exact .inr (by simp [impliesOther, fixes?, hop])
    · exact .inr (by simp [impliesOther, fixes?, present, isPresence])

/-- Any other leaf implies itself; and its key is present, if it refuses the empty value. -/
theorem implies_iff_of_open (hfixes : a.fixes? = none) (hbound : ∀ key op x, a ≠ comparing key op x) :
    a.implies b = true ↔
      a = b ∨ ∃ key value, a = regex (.exact key) value false ∧ value.accepts "" = false ∧ b = present key := by
  have hsame : a.same b = true ↔ a = b := by
    rw [same_iff]
    refine ⟨?_, fun he => .inr ⟨hbound, he⟩⟩
    rintro (⟨key, op, x, _, ha, -⟩ | ⟨-, he⟩)
    · exact absurd ha (hbound key op x)
    · exact he
  rw [implies, Bool.or_eq_true, hsame]
  refine or_congr Iff.rfl ⟨fun hother => ?_, ?_⟩
  · unfold impliesOther at hother
    rw [hfixes] at hother
    dsimp only at hother
    split at hother
    · rename_i key value invert key' value' invert'
      simp only [Bool.and_eq_true, Bool.not_eq_true', beq_iff_eq] at hother
      obtain ⟨⟨⟨rfl, rfl⟩, hempty⟩, hpresence⟩ := hother
      exact ⟨key, value, rfl, hempty, isPresence_iff.mp hpresence⟩
    · exact absurd rfl (hbound _ _ _)
    · exact absurd rfl (hbound _ _ _)
    · cases hother
  · rintro ⟨key, value, rfl, hempty, rfl⟩
    unfold impliesOther
    rw [hfixes]
    simp [present, isPresence, hempty]

theorem present_implies_iff : (present key).implies b = true ↔ b = present key := by
  rw [implies_iff_of_open rfl (by simp [present])]
  constructor
  · rintro (rfl | ⟨_, _, ha, -⟩)
    · rfl
    · cases ha
  · rintro rfl
    exact .inl rfl

/-- What is implied by a leaf with a single key reads that key. -/
theorem singleKey?_of_implies (h : a.implies b = true) (ha : a.singleKey? = some key) : b.singleKey? = some key := by
  cases hfixes : a.fixes? with
  | some fixed =>
    obtain ⟨key', value⟩ := fixed
    rw [singleKey?_of_fixes? hfixes] at ha
    cases ha
    exact ((implies_iff_of_fixes? hfixes).mp h).1
  | none =>
    by_cases hbound : ∃ key op x, a = comparing key op x
    · obtain ⟨key', op, x, rfl⟩ := hbound
      cases ha
      rcases comparing_implies_iff.mp h with ⟨op', y, rfl, -⟩ | rfl <;> rfl
    · rcases (implies_iff_of_open hfixes (by simpa using hbound)).mp h with rfl | ⟨key', value, rfl, -, rfl⟩
      · exact ha
      · exact ha

/-- What implies a leaf with a single key reads that key. -/
theorem singleKey?_of_implied (h : a.implies b = true) (hb : b.singleKey? = some key) : a.singleKey? = some key := by
  cases hfixes : a.fixes? with
  | some fixed =>
    obtain ⟨key', value⟩ := fixed
    rw [singleKey?_of_fixes? hfixes, ← hb]
    exact ((implies_iff_of_fixes? hfixes).mp h).1.symm
  | none =>
    by_cases hbound : ∃ key op x, a = comparing key op x
    · obtain ⟨key', op, x, rfl⟩ := hbound
      rcases comparing_implies_iff.mp h with ⟨op', y, rfl, -⟩ | rfl <;> exact hb
    · rcases (implies_iff_of_open hfixes (by simpa using hbound)).mp h with rfl | ⟨key', value, rfl, -, rfl⟩
      · exact hb
      · exact hb

theorem implies_trans (hab : a.implies b = true) (hbc : b.implies c = true) : a.implies c = true := by
  cases hfixes : a.fixes? with
  | some fixed =>
    -- What is true of the literal value is true of what this implies.
    obtain ⟨key, value⟩ := fixed
    rw [implies_iff_of_fixes? hfixes] at hab ⊢
    exact ⟨singleKey?_of_implies hbc hab.1, holds_of_implies hbc hab.2⟩
  | none =>
    by_cases hbound : ∃ key op x, a = comparing key op x
    · obtain ⟨key, op, x, rfl⟩ := hbound
      rcases comparing_implies_iff.mp hab with ⟨op', y, rfl, hop⟩ | rfl
      · rw [comparing_implies_iff] at hbc ⊢
        refine hbc.imp_left ?_
        rintro ⟨op'', z, rfl, hop'⟩
        exact ⟨op'', z, rfl, Comparison.implies_trans hop hop'⟩
      · rwa [present_implies_iff.mp hbc]
    · rcases (implies_iff_of_open hfixes (by simpa using hbound)).mp hab with rfl | ⟨key, value, rfl, -, rfl⟩
      · exact hbc
      · rwa [present_implies_iff.mp hbc]

end Leaf

/-! ## Rules -/

namespace Filter

variable {a b c : Filter} {as bs cs : List Filter}

theorem implies_leaf (a : Leaf) : (leaf a).implies = impliedByLeaf a := by
  funext b
  rw [implies]

theorem allImpliedByLeaf_eq (a : Leaf) (bs : List Filter) : allImpliedByLeaf a bs = bs.all (impliedByLeaf a) := by
  induction bs with
  | nil => rfl
  | cons b bs ih => rw [allImpliedByLeaf, ih, List.all_cons]

theorem anyImpliedByLeaf_eq (a : Leaf) (bs : List Filter) : anyImpliedByLeaf a bs = bs.any (impliedByLeaf a) := by
  induction bs with
  | nil => rfl
  | cons b bs ih => rw [anyImpliedByLeaf, ih, List.any_cons]

theorem allImpliedByParts_eq (a : Filter) (direct : Filter → Bool) (bs : List Filter) :
    allImpliedByParts a direct bs = bs.all (impliedByParts a direct) := by
  induction bs with
  | nil => rfl
  | cons b bs ih => rw [allImpliedByParts, ih, List.all_cons]

/-- A conjunction is implied part by part. -/
theorem implies_and_iff : a.implies (and bs) = true ↔ a.same (and bs) = true ∨ ∀ b ∈ bs, a.implies b = true := by
  rw [← List.all_eq_true, ← Bool.or_eq_true]
  cases a with
  | leaf a => simp [implies_leaf, impliedByLeaf, allImpliedByLeaf_eq, same]
  | and as | or as => simp only [implies, impliedByParts, allImpliedByParts_eq]

/-- An alternative implies branch by branch. -/
theorem or_implies_iff (hb : b.isAnd = false) :
    (or as).implies b = true ↔ (or as).same b = true ∨ ∀ a ∈ as, a.implies b = true := by
  cases b with
  | leaf b => simp [implies, impliedByParts, impliesOfEach_eq, same]
  | or bs => simp [implies, impliedByParts, impliesOfEach_eq]
  | and bs => cases hb

/-- One part is enough for a conjunction to imply what is none itself. -/
theorem and_implies_iff (hb : b.isAnd = false) :
    (and as).implies b = true ↔ (and as).same b = true ∨ ∃ a ∈ as, a.implies b = true := by
  cases b with
  | leaf b => simp [implies, impliedByParts, impliesOfEach_eq, same]
  | or bs => simp [implies, impliedByParts, impliesOfEach_eq]
  | and bs => cases hb

/-- A leaf implies an alternative through one branch. -/
theorem leaf_implies_or_iff {a : Leaf} : (leaf a).implies (or bs) = true ↔ ∃ b ∈ bs, (leaf a).implies b = true := by
  rw [implies_leaf, impliedByLeaf, anyImpliedByLeaf_eq, List.any_eq_true]

theorem leaf_implies_leaf (a b : Leaf) : (leaf a).implies (leaf b) = a.implies b := by
  rw [implies_leaf, impliedByLeaf]

/-! ## Filters that are the same -/

theorem isAnd_of_same {a b : Filter} (h : a.same b = true) : a.isAnd = b.isAnd := by
  cases a <;> cases b <;> first | rfl | simp only [same, Bool.false_eq_true] at h

theorem exists_same_of_mem (h : sameEach as bs = true) (hb : b ∈ bs) : ∃ a ∈ as, a.same b = true :=
  memberOf_iff.mp (memberOf_of_sameEach h hb)

/-- What a filter implies is implied by every one that is the same. -/
theorem implies_of_same_left {a b c : Filter} (hab : a.same b = true) (hbc : b.implies c = true) :
    a.implies c = true := by
  cases hc : c.isAnd with
  | true =>
    cases c with
    | leaf | or => cases hc
    | and cs =>
      rw [implies_and_iff] at hbc ⊢
      exact hbc.imp (same_trans hab) fun hall c hm => implies_of_same_left hab (hall c hm)
  | false =>
    cases a <;> cases b <;> simp only [same, Bool.false_eq_true] at hab
    case leaf.leaf a b =>
      have hleaf : a.implies b = true := by rw [Leaf.implies, hab, Bool.true_or]
      cases c with
      | leaf c =>
        rw [leaf_implies_leaf] at hbc ⊢
        exact Leaf.implies_trans hleaf hbc
      | or cs =>
        rw [leaf_implies_or_iff] at hbc ⊢
        obtain ⟨c, hm, hbc⟩ := hbc
        exact ⟨c, hm, implies_of_same_left (by rwa [same]) hbc⟩
      | and cs => cases hc
    case and.and as bs =>
      rw [and_implies_iff hc] at hbc ⊢
      refine hbc.imp (same_trans (by rwa [same])) ?_
      rintro ⟨b, hm, hbc⟩
      obtain ⟨a, ha, hab⟩ := exists_same_of_mem hab hm
      exact ⟨a, ha, implies_of_same_left hab hbc⟩
    case or.or as bs =>
      rw [or_implies_iff hc] at hbc ⊢
      refine hbc.imp (same_trans (by rwa [same])) fun hall a ha => ?_
      obtain ⟨b, hm, hba⟩ := exists_same_of_mem (sameEach_symm hab) ha
      exact implies_of_same_left (same_symm hba) (hall b hm)
termination_by sizeOf b + sizeOf c
decreasing_by
  all_goals
    subst_vars
    have := List.sizeOf_lt_of_mem hm
    simp only [and.sizeOf_spec, or.sizeOf_spec]
    omega

/-- What implies a filter implies every one that is the same. -/
theorem implies_of_same_right {a b c : Filter} (hab : a.implies b = true) (hbc : b.same c = true) :
    a.implies c = true := by
  cases hb : b.isAnd with
  | true =>
    cases b <;> cases c <;> simp only [same, isAnd, Bool.false_eq_true] at hbc hb
    case and.and bs cs =>
      rw [implies_and_iff] at hab ⊢
      refine hab.imp (same_trans · (by rwa [same])) fun hall c hc => ?_
      obtain ⟨b, hm, hbc⟩ := exists_same_of_mem hbc hc
      exact implies_of_same_right (hall b hm) hbc
  | false =>
    have hc : c.isAnd = false := isAnd_of_same hbc ▸ hb
    cases a with
    | and as =>
      rw [and_implies_iff hb] at hab
      rw [and_implies_iff hc]
      refine hab.imp (same_trans · hbc) ?_
      rintro ⟨a, hm, hab⟩
      exact ⟨a, hm, implies_of_same_right hab hbc⟩
    | or as =>
      rw [or_implies_iff hb] at hab
      rw [or_implies_iff hc]
      exact hab.imp (same_trans · hbc) fun hall a hm => implies_of_same_right (hall a hm) hbc
    | leaf a =>
      cases b <;> cases c <;> simp only [same, isAnd, Bool.false_eq_true, Bool.true_eq_false] at hbc hb
      case leaf.leaf b c =>
        rw [leaf_implies_leaf] at hab ⊢
        exact Leaf.implies_trans hab (by rw [Leaf.implies, hbc, Bool.true_or])
      case or.or bs cs =>
        rw [leaf_implies_or_iff] at hab ⊢
        obtain ⟨b, hm, hab⟩ := hab
        obtain ⟨c, hc, hcb⟩ := exists_same_of_mem (sameEach_symm hbc) hm
        exact ⟨c, hc, implies_of_same_right hab (same_symm hcb)⟩
termination_by sizeOf a + sizeOf b
decreasing_by
  all_goals
    subst_vars
    have := List.sizeOf_lt_of_mem hm
    simp only [and.sizeOf_spec, or.sizeOf_spec]
    omega

/-! ## Transitivity -/

/-- What the filter in the middle is made of takes its place, until that is a leaf: each part of a conjunction is
implied by what implies the conjunction, and each branch of an alternative implies what the alternative does. -/
theorem implies_trans {a b c : Filter} (hab : a.implies b = true) (hbc : b.implies c = true) :
    a.implies c = true := by
  cases hc : c.isAnd with
  | true =>
    cases c with
    | leaf | or => cases hc
    | and cs =>
      rcases implies_and_iff.mp hbc with hsame | hall
      · exact implies_of_same_right hab hsame
      · exact implies_and_iff.mpr (.inr fun c hm => implies_trans hab (hall c hm))
  | false =>
    -- The rule of the first step is that of its left side, unless its right side is a conjunction.
    cases hb : b.isAnd with
    | true =>
      cases b with
      | leaf | or => cases hb
      | and bs =>
        rcases implies_and_iff.mp hab with hsame | hall
        · exact implies_of_same_left hsame hbc
        · rcases (and_implies_iff hc).mp hbc with hsame | ⟨b, hm, hbc⟩
          · rw [isAnd_of_same hsame, hc] at hb
            cases hb
          · exact implies_trans (hall b hm) hbc
    | false =>
      cases a with
      | and as =>
        rcases (and_implies_iff hb).mp hab with hsame | ⟨a, hm, hab⟩
        · exact implies_of_same_left hsame hbc
        · exact (and_implies_iff hc).mpr (.inr ⟨a, hm, implies_trans hab hbc⟩)
      | or as =>
        rcases (or_implies_iff hb).mp hab with hsame | hall
        · exact implies_of_same_left hsame hbc
        · exact (or_implies_iff hc).mpr (.inr fun a hm => implies_trans (hall a hm) hbc)
      | leaf a =>
        cases b with
        | and bs => cases hb
        | or bs =>
          obtain ⟨b, hm, hbranch⟩ := leaf_implies_or_iff.mp hab
          rcases (or_implies_iff hc).mp hbc with hsame | hall
          · exact implies_of_same_right hab hsame
          · exact implies_trans hbranch (hall b hm)
        | leaf b =>
          cases c with
          | and cs => cases hc
          | or cs =>
            obtain ⟨c, hm, hbc⟩ := leaf_implies_or_iff.mp hbc
            exact leaf_implies_or_iff.mpr ⟨c, hm, implies_trans hab hbc⟩
          | leaf c =>
            rw [leaf_implies_leaf] at hab hbc ⊢
            exact Leaf.implies_trans hab hbc
termination_by sizeOf a + sizeOf b + sizeOf c
decreasing_by
  all_goals
    subst_vars
    have := List.sizeOf_lt_of_mem hm
    simp only [and.sizeOf_spec, or.sizeOf_spec]
    omega

/-- Implication between filters is a preorder: it is transitive, and every filter without NaN implies itself. -/
theorem implies_preorder :
    (∀ a b c : Filter, a.implies b = true → b.implies c = true → a.implies c = true) ∧
      ∀ a : Filter, (∀ key op, leaf (.comparing key op .nan) ∉ a.parts) → a.implies a = true :=
  ⟨fun _ _ _ => implies_trans, fun _ hnan => implies_of_same (same_self id (within_of_ne_nan hnan))⟩

def wideBench : Filter := and [tag "amenity" "bench", leaf (.comparing "width" .greater (.finite false Binary64.one))]

def benchOrSeat : Filter := or [tag "amenity" "bench", tag "amenity" "seat"]

def noHutOrWide : Filter := or [leaf (.regex (.exact "amenity") (.exact "hut") true), leaf (.present "width")]

/-- A part of the conjunction implies a branch of the alternative, each branch of which implies that it is no hut. -/
theorem implies_preorder_bench :
    (wideBench.implies benchOrSeat = true ∧ benchOrSeat.implies noHutOrWide = true) ∧
      wideBench.implies noHutOrWide = true ∧
      (∀ key op, leaf (.comparing key op .nan) ∉ wideBench.parts) ∧ wideBench.implies wideBench = true := by
  have hseat : wideBench.implies benchOrSeat = true := by decide
  have hhut : benchOrSeat.implies noHutOrWide = true := by decide
  have hnan : ∀ key op, leaf (.comparing key op .nan) ∉ wideBench.parts := by
    simp [wideBench, tag, parts, partsOfEach]
  exact ⟨⟨hseat, hhut⟩, implies_preorder.1 _ _ _ hseat hhut, hnan, implies_preorder.2 _ hnan⟩

example : (leaf (.comparing "width" .greater .nan)).implies (leaf (.comparing "width" .greater .nan)) = false := by decide

end Filter

end MapTheme
