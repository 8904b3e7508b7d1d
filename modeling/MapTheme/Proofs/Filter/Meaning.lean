/-
  MapTheme.Proofs.Filter.Meaning — what the meaning of a filter depends on.

  - A leaf with a single key depends on the value of that key only (`Leaf.holds_congr`), and a missing
    key is as good as an empty value; so the properties with nothing but the key decide it
    (`Leaf.holds_assigned`).
  - The negation of a leaf holds exactly when the leaf does not (`Leaf.holds_of_negated?`).
  - Filters that are the same have the same meaning (`Filter.holds_of_same`), although their numbers
    may differ in the sign of zero.
-/

import MapTheme.Filter.Implication
import MapTheme.Proofs.Decimal.Order

namespace MapTheme

/-! ## Properties with a single key -/

theorem Properties.get?_assigned (key value : String) :
    (assigned key value).get? key = if value.isEmpty then none else some value := by
  unfold assigned
  split
  · rfl
  · simp [get?, insert, empty, put]

@[simp] theorem Properties.value_assigned (key value : String) : (assigned key value).value key = value := by
  rw [Properties.value, get?_assigned]
  split
  · rename_i h; simpa using h.symm
  · rfl

theorem Binary64.leadingNumber?_empty : leadingNumber? "" = none := by decide

/-- A missing key spells no number, and neither does the empty value that it reads as. -/
theorem Properties.leadingNumber?_get? (p : Properties) (key : String) :
    (p.get? key).bind Binary64.leadingNumber? = Binary64.leadingNumber? (p.value key) := by
  unfold value
  cases p.get? key with
  | none => exact Binary64.leadingNumber?_empty.symm
  | some v => rfl

/-! ## Comparisons -/

theorem Comparison.holds_of_eq (op : Comparison) (x : Binary64) {a b : Binary64} (h : a.eq b = true) :
    op.holds x a = op.holds x b := by
  cases op with
  | less => exact Binary64.lt_congr_right h x
  | atMost => exact Binary64.le_congr_right h x
  | greater => exact Binary64.lt_congr_left h x
  | atLeast => exact Binary64.le_congr_left h x

variable [Pattern.Engine]

/-! ## Leaves -/

namespace Leaf

theorem holds_comparing_iff {key : String} {op : Comparison} {bound : Binary64} {p : Properties} :
    (comparing key op bound).holds p = true ↔
      ∃ x, Binary64.leadingNumber? (p.value key) = some x ∧ op.holds x bound = true := by
  simp only [holds, p.leadingNumber?_get? key]
  cases Binary64.leadingNumber? (p.value key) <;> simp

/-- A leaf with a single key looks at the value of that key only. -/
theorem holds_congr {l : Leaf} {key : String} (h : l.singleKey? = some key) {p q : Properties}
    (hv : p.value key = q.value key) : l.holds p = l.holds q := by
  cases l with
  | tag k v => cases h; simp only [holds, hv]
  | substituting k t => cases h
  | regex k v i =>
    cases k with
    | exact k => cases h; simp only [holds, hv]
    | pattern k => cases h
  | comparing k op x => cases h; simp only [holds, Properties.leadingNumber?_get?, hv]

/-- The value of its single key decides a leaf. -/
theorem holds_assigned {l : Leaf} {key value : String} (h : l.singleKey? = some key) {p : Properties}
    (hv : p.value key = value) : l.holds (.assigned key value) = l.holds p :=
  holds_congr h (by rw [Properties.value_assigned, hv])

theorem holds_of_same {a b : Leaf} (h : a.same b = true) (p : Properties) : a.holds p = b.holds p := by
  unfold same at h
  split at h
  · rename_i k op x k' op' x'
    simp only [Bool.and_eq_true, beq_iff_eq] at h
    obtain ⟨⟨rfl, rfl⟩, hx⟩ := h
    simp only [holds, Comparison.holds_of_eq _ _ hx]
  · rw [of_decide_eq_true h]

/-! ### Negation -/

theorem holds_simplified (l : Leaf) (p : Properties) : l.simplified.holds p = l.holds p := by
  unfold simplified
  split
  · rename_i key value
    simp [holds, Matcher.accepts, Bool.beq_comm]
  · rfl

theorem holds_inverted (key value : Matcher) (invert : Bool) (p : Properties) :
    (regex key value !invert).holds p = !(regex key value invert).holds p := by
  cases key <;> cases invert <;> simp [holds]

/-- The negation of a leaf holds exactly when the leaf does not. -/
theorem holds_of_negated? {l n : Leaf} (h : l.negated? = some n) (p : Properties) : n.holds p = !l.holds p := by
  cases l with
  | tag key value =>
    cases h
    exact (holds_inverted (.exact key) (.exact value) false p).trans
      (congrArg (!·) (holds_simplified (regex (.exact key) (.exact value) false) p).symm)
  | regex key value invert =>
    cases h
    rw [holds_simplified, holds_inverted]
  | substituting key template => cases h
  | comparing key op bound => cases h

end Leaf

/-! ## Filters -/

namespace Filter

/-- Induction on filters, with what is known of every child. -/
@[elab_as_elim]
theorem induction {motive : Filter → Prop} (leaf : ∀ l, motive (leaf l))
    (and : ∀ fs, (∀ f ∈ fs, motive f) → motive (and fs)) (or : ∀ fs, (∀ f ∈ fs, motive f) → motive (or fs)) :
    ∀ f, motive f
  | .leaf l => leaf l
  | .and fs => and fs fun f _ => induction leaf and or f
  | .or fs => or fs fun f _ => induction leaf and or f

theorem partsOfEach_eq_flatMap (fs : List Filter) : partsOfEach fs = fs.flatMap parts := by
  induction fs with
  | nil => rfl
  | cons f fs ih => rw [partsOfEach, ih, List.flatMap_cons]

/-- The leaves of a child are leaves of the combinations. -/
theorem leaf_mem_parts {fs : List Filter} {f : Filter} (hf : f ∈ fs) {l : Leaf} (hl : leaf l ∈ f.parts) :
    leaf l ∈ (and fs).parts ∧ leaf l ∈ (or fs).parts := by
  have hinside : leaf l ∈ partsOfEach fs := by
    rw [partsOfEach_eq_flatMap, List.mem_flatMap]
    exact ⟨f, hf, hl⟩
  rw [parts, parts]
  exact ⟨List.mem_cons_of_mem _ hinside, List.mem_cons_of_mem _ hinside⟩

variable (p : Properties)

@[simp] theorem allHold_eq (fs : List Filter) : allHold p fs = fs.all (holds p) := by
  induction fs with
  | nil => rfl
  | cons f fs ih => simp only [allHold, List.all_cons, ih]

@[simp] theorem anyHolds_eq (fs : List Filter) : anyHolds p fs = fs.any (holds p) := by
  induction fs with
  | nil => rfl
  | cons f fs ih => simp only [anyHolds, List.any_cons, ih]

@[simp] theorem holds_leaf (l : Leaf) : (leaf l).holds p = l.holds p := by simp only [holds]

@[simp] theorem holds_and (fs : List Filter) : (and fs).holds p = fs.all (holds p) := by
  simp only [holds, allHold_eq]

@[simp] theorem holds_or (fs : List Filter) : (or fs).holds p = fs.any (holds p) := by
  simp only [holds, anyHolds_eq]

mutual

/-- Filters that are the same have the same meaning. -/
theorem holds_of_same : ∀ {a b : Filter}, a.same b = true → a.holds p = b.holds p
  | leaf a, leaf b, h => by
    rw [holds_leaf, holds_leaf]
    exact Leaf.holds_of_same (by simpa only [same] using h) p
  | and as, and bs, h => by
    have hs : sameEach as bs = true := by simpa only [same] using h
    have he := map_holds_of_sameEach hs
    simpa only [holds_and, List.all_map, Function.id_comp] using congrArg (List.all · id) he
  | or as, or bs, h => by
    have hs : sameEach as bs = true := by simpa only [same] using h
    have he := map_holds_of_sameEach hs
    simpa only [holds_or, List.any_map, Function.id_comp] using congrArg (List.any · id) he
  | leaf _, and _, h | leaf _, or _, h | and _, leaf _, h | and _, or _, h | or _, leaf _, h | or _, and _, h => by
    simp only [same, Bool.false_eq_true] at h

/-- Lists of filters that are the same one by one have the same meanings one by one. -/
theorem map_holds_of_sameEach : ∀ {as bs : List Filter}, sameEach as bs = true → as.map (holds p) = bs.map (holds p)
  | [], [], _ => rfl
  | a :: as, b :: bs, h => by
    simp only [sameEach, Bool.and_eq_true] at h
    rw [List.map_cons, List.map_cons, holds_of_same h.1, map_holds_of_sameEach h.2]
  | [], _ :: _, h | _ :: _, [], h => by simp only [sameEach, Bool.false_eq_true] at h

end

theorem holds_of_negated? {f n : Filter} (h : f.negated? = some n) : n.holds p = !f.holds p := by
  cases f with
  | leaf l =>
    obtain ⟨m, hm, rfl⟩ := Option.map_eq_some_iff.mp h
    exact Leaf.holds_of_negated? hm p
  | and fs => cases h
  | or fs => cases h

end Filter

end MapTheme
