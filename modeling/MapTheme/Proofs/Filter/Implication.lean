/-
  MapTheme.Proofs.Filter.Implication — the implication test is sound.

  `holds_of_implies`: a filter holds wherever one holds that implies it. Leaves first: a literal value
  decides every other test of its key, a bound implies the looser bounds on its key, and a leaf that
  refuses the empty value implies that its key is present. The rest is by recursion on both filters,
  as the test itself goes.

  The warning on mappings that are never shown is worth as much: such a mapping has an earlier one that
  holds wherever it does.
-/

import MapTheme.Layer.Validation
import MapTheme.Proofs.Filter.Meaning

namespace MapTheme

/-! ## Leaves -/

theorem Comparison.holds_of_implies {op op' : Comparison} {a b x : Binary64} (h : op.implies a op' b = true)
    (hx : op.holds x a = true) : op'.holds x b = true := by
  cases op <;> cases op' <;> simp only [Comparison.implies, Bool.false_eq_true] at h <;> simp only [holds] at hx ⊢
  case less.less => exact Binary64.lt_of_lt_of_le hx h
  case less.atMost => exact Binary64.le_of_lt (Binary64.lt_of_lt_of_le hx h)
  case atMost.less => exact Binary64.lt_of_le_of_lt hx h
  case atMost.atMost => exact Binary64.le_trans hx h
  case greater.greater => exact Binary64.lt_of_le_of_lt h hx
  case greater.atLeast => exact Binary64.le_of_lt (Binary64.lt_of_le_of_lt h hx)
  case atLeast.greater => exact Binary64.lt_of_lt_of_le h hx
  case atLeast.atLeast => exact Binary64.le_trans h hx

variable [Pattern.Engine]

namespace Leaf

variable {a b : Leaf} {p : Properties}

theorem value_of_fixes? {key value : String} (h : a.fixes? = some (key, value)) (ha : a.holds p = true) :
    p.value key = value := by
  unfold fixes? at h
  split at h
  · cases h; simpa [holds] using ha
  · cases h
    simp only [holds, Matcher.accepts, bne_iff_ne, ne_eq, Bool.not_eq_false, beq_iff_eq] at ha
    exact ha.symm
  · cases h

/-- A presence leaf holds wherever the value of its key is not empty. -/
theorem holds_of_isPresence {key : String} {value : Matcher} {invert : Bool}
    (h : (regex (.exact key) value invert).isPresence = true) (hv : p.value key ≠ "") :
    (regex (.exact key) value invert).holds p = true := by
  simp only [isPresence, Bool.and_eq_true, decide_eq_true_eq] at h
  obtain ⟨rfl, rfl⟩ := h
  simpa [holds, Matcher.accepts] using Ne.symm hv

/-- A value that passes a comparison is not empty. -/
theorem value_ne_empty_of_comparing {key : String} {op : Comparison} {bound : Binary64}
    (h : (comparing key op bound).holds p = true) : p.value key ≠ "" := by
  obtain ⟨x, hx, _⟩ := holds_comparing_iff.mp h
  intro he
  rw [he, Binary64.leadingNumber?_empty] at hx
  cases hx

theorem holds_of_impliesOther (h : a.impliesOther b = true) (ha : a.holds p = true) : b.holds p = true := by
  unfold impliesOther at h
  split at h
  · rename_i key value hf
    simp only [Bool.and_eq_true, beq_iff_eq] at h
    rw [← holds_assigned h.1 (value_of_fixes? hf ha)]
    exact h.2
  · split at h
    · -- a value test against presence
      simp only [Bool.and_eq_true, Bool.not_eq_true', beq_iff_eq] at h
      obtain ⟨⟨⟨rfl, rfl⟩, hempty⟩, hpres⟩ := h
      refine holds_of_isPresence hpres fun he => ?_
      simp [holds, he, hempty] at ha
    · -- two bounds
      simp only [Bool.and_eq_true, beq_iff_eq] at h
      obtain ⟨rfl, hop⟩ := h
      obtain ⟨x, hx, hholds⟩ := holds_comparing_iff.mp ha
      exact holds_comparing_iff.mpr ⟨x, hx, Comparison.holds_of_implies hop hholds⟩
    · -- a bound against presence
      simp only [Bool.and_eq_true, beq_iff_eq] at h
      obtain ⟨rfl, hpres⟩ := h
      exact holds_of_isPresence hpres (value_ne_empty_of_comparing ha)
    · cases h

theorem holds_of_implies (h : a.implies b = true) (ha : a.holds p = true) : b.holds p = true := by
  rcases Bool.or_eq_true _ _ ▸ h with h | h
  · rw [← holds_of_same h p]; exact ha
  · exact holds_of_impliesOther h ha

end Leaf

/-! ## Filters -/

namespace Filter

variable {p : Properties}

mutual

theorem holds_of_impliedByLeaf {a : Leaf} (ha : a.holds p = true) :
    ∀ {b : Filter}, impliedByLeaf a b = true → b.holds p = true
  | leaf b, h => by
    rw [holds_leaf]
    exact Leaf.holds_of_implies (by simpa only [impliedByLeaf] using h) ha
  | and bs, h => by
    rw [holds_and]
    exact all_of_allImpliedByLeaf ha (by simpa only [impliedByLeaf] using h)
  | or bs, h => by
    rw [holds_or]
    exact any_of_anyImpliedByLeaf ha (by simpa only [impliedByLeaf] using h)

theorem all_of_allImpliedByLeaf {a : Leaf} (ha : a.holds p = true) :
    ∀ {bs : List Filter}, allImpliedByLeaf a bs = true → bs.all (holds p) = true
  | [], _ => rfl
  | b :: bs, h => by
    simp only [allImpliedByLeaf, Bool.and_eq_true] at h
    rw [List.all_cons, holds_of_impliedByLeaf ha h.1, all_of_allImpliedByLeaf ha h.2, Bool.and_self]

theorem any_of_anyImpliedByLeaf {a : Leaf} (ha : a.holds p = true) :
    ∀ {bs : List Filter}, anyImpliedByLeaf a bs = true → bs.any (holds p) = true
  | [], h => by simp only [anyImpliedByLeaf, Bool.false_eq_true] at h
  | b :: bs, h => by
    simp only [anyImpliedByLeaf, Bool.or_eq_true] at h
    rw [List.any_cons, Bool.or_eq_true]
    exact h.imp (holds_of_impliedByLeaf ha) (any_of_anyImpliedByLeaf ha)

end

mutual

/-- With a sound test for all that is not a conjunction, the test part by part is sound. -/
theorem holds_of_impliedByParts {a : Filter} {direct : Filter → Bool} (ha : a.holds p = true)
    (hdirect : ∀ b, direct b = true → b.holds p = true) :
    ∀ {b : Filter}, impliedByParts a direct b = true → b.holds p = true
  | leaf b, h => hdirect _ (by simpa only [impliedByParts] using h)
  | or bs, h => by
    simp only [impliedByParts, Bool.or_eq_true] at h
    rcases h with h | h
    · rw [← holds_of_same p h]; exact ha
    · exact hdirect _ h
  | and bs, h => by
    simp only [impliedByParts, Bool.or_eq_true] at h
    rcases h with h | h
    · rw [← holds_of_same p h]; exact ha
    · rw [holds_and]; exact all_of_allImpliedByParts ha hdirect h

theorem all_of_allImpliedByParts {a : Filter} {direct : Filter → Bool} (ha : a.holds p = true)
    (hdirect : ∀ b, direct b = true → b.holds p = true) :
    ∀ {bs : List Filter}, allImpliedByParts a direct bs = true → bs.all (holds p) = true
  | [], _ => rfl
  | b :: bs, h => by
    simp only [allImpliedByParts, Bool.and_eq_true] at h
    rw [List.all_cons, holds_of_impliedByParts ha hdirect h.1, all_of_allImpliedByParts ha hdirect h.2, Bool.and_self]

end

theorem impliesOfEach_eq (as : List Filter) : impliesOfEach as = as.map implies := by
  induction as with
  | nil => rfl
  | cons a as ih => simp only [impliesOfEach, List.map_cons, ih]

/-- A filter holds wherever one holds that implies it. -/
theorem holds_of_implies : ∀ {a b : Filter}, a.implies b = true → a.holds p = true → b.holds p = true
  | leaf a, b, h, ha => holds_of_impliedByLeaf (by simpa only [holds_leaf] using ha) (by simpa only [implies] using h)
  | or as, b, h, ha => by
    simp only [implies, impliesOfEach_eq] at h
    refine holds_of_impliedByParts ha (fun b hb => ?_) h
    -- some branch holds, and every branch implies `b`
    obtain ⟨a, hm, hhold⟩ := List.any_eq_true.mp (holds_or p as ▸ ha)
    rw [List.all_map, List.all_eq_true] at hb
    exact holds_of_implies (hb a hm) hhold
  | and as, b, h, ha => by
    simp only [implies, impliesOfEach_eq] at h
    refine holds_of_impliedByParts ha (fun b hb => ?_) h
    -- every part holds, and some part implies `b`
    rw [List.any_map, List.any_eq_true] at hb
    obtain ⟨a, hm, hab⟩ := hb
    exact holds_of_implies hab (List.all_eq_true.mp (holds_and p as ▸ ha) a hm)

end Filter

/-! ## Mappings that are never shown -/

open Config (Rendering Mapping)

/-- What a filter implies holds wherever the filter does. So of a mapping that is reported as never
shown it is true: wherever it holds, an earlier one does. -/
theorem implied_wherever_holds :
    (∀ a b : Filter, a.implies b = true → ∀ p : Properties, a.holds p = true → b.holds p = true) ∧
    ∀ (r : Rendering) (earlier : List Mapping) (m : Mapping) (place : String),
      (Layer.checkShadowed r earlier m place).notes.warnings ≠ [] →
        ∀ p : Properties, m.holdsIf.holds p = true → ∃ e ∈ earlier, e.holdsIf.holds p = true := by
  refine ⟨fun a b h p ha => Filter.holds_of_implies h ha, fun r earlier m place hw p hm => ?_⟩
  unfold Layer.checkShadowed at hw
  split at hw
  · exact absurd rfl hw
  · split at hw
    · rename_i e i hf
      have hmem := List.mem_of_find?_eq_some hf
      have himp := List.find?_some hf
      exact ⟨e, (List.mem_zipIdx hmem).2.2 ▸ List.getElem_mem _, Filter.holds_of_implies himp hm⟩
    · exact absurd rfl hw

end MapTheme
