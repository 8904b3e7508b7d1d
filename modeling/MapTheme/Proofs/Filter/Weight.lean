/-
  MapTheme.Proofs.Filter.Weight — the weight of a filter, and lists in which no term is there twice.

  A leaf weighs three and a combination one more than its terms: so much that a conjunct that is written
  once instead of twice outweighs the two combinations that factoring puts around it. Filters that are the
  same weigh the same, and terms of which no two are the same weigh at most as much as any list that has each
  of them (`total_le_of_covered`).
-/

import MapTheme.Proofs.Filter.Optimise

namespace MapTheme

/-! ## Sameness -/

theorem Binary64.eq_symm {a b : Binary64} (h : a.eq b = true) : b.eq a = true := by
  obtain ⟨x, ha, hb⟩ := eq_iff.mp h
  exact eq_iff.mpr ⟨x, hb, ha⟩

theorem Binary64.eq_trans {a b c : Binary64} (h : a.eq b = true) (h' : b.eq c = true) : a.eq c = true := by
  obtain ⟨x, ha, hb⟩ := eq_iff.mp h
  obtain ⟨y, hb', hc⟩ := eq_iff.mp h'
  obtain rfl := Option.some.inj (hb.symm.trans hb')
  exact eq_iff.mpr ⟨x, ha, hc⟩

theorem Binary64.eq_self_iff {a : Binary64} : a.eq a = true ↔ a ≠ .nan := by
  cases a <;> simp [eq_iff, position?]

namespace Leaf

variable {a b c : Leaf}

/-- Leaves that are the same are equal, or compare one key in one way with equal numbers. -/
theorem same_iff : a.same b = true ↔
    (∃ key op x y, a = comparing key op x ∧ b = comparing key op y ∧ x.eq y = true) ∨
      ((∀ key op x, a ≠ comparing key op x) ∧ a = b) := by
  unfold same
  split
  · rename_i key op x key' op' y
    simp only [Bool.and_eq_true, beq_iff_eq, comparing.injEq]
    constructor
    · rintro ⟨⟨rfl, rfl⟩, h⟩
      exact .inl ⟨key, op, x, y, ⟨rfl, rfl, rfl⟩, ⟨rfl, rfl, rfl⟩, h⟩
    · rintro (⟨_, _, _, _, ⟨rfl, rfl, rfl⟩, ⟨rfl, rfl, rfl⟩, h⟩ | ⟨hne, -⟩)
      · exact ⟨⟨rfl, rfl⟩, h⟩
      · exact absurd rfl (hne key op x)
  · rename_i hne
    rw [decide_eq_true_eq]
    constructor
    · rintro rfl
      refine .inr ⟨fun key op x he => hne key op x key op x he he, rfl⟩
    · rintro (⟨key, op, x, y, rfl, rfl, -⟩ | ⟨-, h⟩)
      · exact absurd rfl (hne key op x key op y rfl)
      · exact h

theorem same_symm (h : a.same b = true) : b.same a = true := by
  rw [same_iff] at h ⊢
  rcases h with ⟨key, op, x, y, ha, hb, he⟩ | ⟨hne, rfl⟩
  · exact .inl ⟨key, op, y, x, hb, ha, Binary64.eq_symm he⟩
  · exact .inr ⟨hne, rfl⟩

theorem same_trans (h : a.same b = true) (h' : b.same c = true) : a.same c = true := by
  rw [same_iff] at h h' ⊢
  rcases h with ⟨key, op, x, y, rfl, rfl, he⟩ | ⟨hne, rfl⟩
  · rcases h' with ⟨key', op', y', z, hb, rfl, he'⟩ | ⟨hne, -⟩
    · cases hb
      exact .inl ⟨key, op, x, z, rfl, rfl, Binary64.eq_trans he he'⟩
    · exact absurd rfl (hne key op y)
  · rcases h' with ⟨key, op, y, z, ha, -⟩ | ⟨-, rfl⟩
    · exact absurd ha (hne key op y)
    · exact .inr ⟨hne, rfl⟩

end Leaf

namespace Filter

mutual

theorem same_symm : ∀ {a b : Filter}, a.same b = true → b.same a = true
  | leaf a, leaf b, h => by
    rw [same] at h ⊢
    exact Leaf.same_symm h
  | and as, and bs, h => by
    rw [same] at h ⊢
    exact sameEach_symm h
  | or as, or bs, h => by
    rw [same] at h ⊢
    exact sameEach_symm h
  | leaf _, and _, h | leaf _, or _, h | and _, leaf _, h | and _, or _, h | or _, leaf _, h | or _, and _, h => by
    simp only [same, Bool.false_eq_true] at h

theorem sameEach_symm : ∀ {as bs : List Filter}, sameEach as bs = true → sameEach bs as = true
  | [], [], _ => rfl
  | a :: as, b :: bs, h => by
    simp only [sameEach, Bool.and_eq_true] at h ⊢
    exact ⟨same_symm h.1, sameEach_symm h.2⟩
  | [], _ :: _, h | _ :: _, [], h => by simp only [sameEach, Bool.false_eq_true] at h

end

mutual

theorem same_trans : ∀ {a b c : Filter}, a.same b = true → b.same c = true → a.same c = true
  | leaf a, leaf b, leaf c, h, h' => by
    rw [same] at h h' ⊢
    exact Leaf.same_trans h h'
  | and as, and bs, and cs, h, h' => by
    rw [same] at h h' ⊢
    exact sameEach_trans h h'
  | or as, or bs, or cs, h, h' => by
    rw [same] at h h' ⊢
    exact sameEach_trans h h'
  | leaf _, and _, _, h, _ | leaf _, or _, _, h, _ | and _, leaf _, _, h, _ | and _, or _, _, h, _
  | or _, leaf _, _, h, _ | or _, and _, _, h, _ => by simp only [same, Bool.false_eq_true] at h
  | leaf _, leaf _, and _, _, h | leaf _, leaf _, or _, _, h | and _, and _, leaf _, _, h | and _, and _, or _, _, h
  | or _, or _, leaf _, _, h | or _, or _, and _, _, h => by simp only [same, Bool.false_eq_true] at h

theorem sameEach_trans : ∀ {as bs cs : List Filter}, sameEach as bs = true → sameEach bs cs = true →
    sameEach as cs = true
  | [], [], [], _, _ => rfl
  | a :: as, b :: bs, c :: cs, h, h' => by
    simp only [sameEach, Bool.and_eq_true] at h h' ⊢
    exact ⟨same_trans h.1 h'.1, sameEach_trans h.2 h'.2⟩
  | [], _ :: _, _, h, _ | _ :: _, [], _, h, _ => by simp only [sameEach, Bool.false_eq_true] at h
  | [], [], _ :: _, _, h | _ :: _, _ :: _, [], _, h => by simp only [sameEach, Bool.false_eq_true] at h

end

/-! ## Weight -/

mutual

/-- Three for a leaf, one for a combination. -/
def weight : Filter → Nat
  | leaf _ => 3
  | and fs => total fs + 1
  | or fs => total fs + 1

/-- The weight of all terms. -/
def total : List Filter → Nat
  | [] => 0
  | f :: fs => weight f + total fs

end

section

variable {fs gs : List Filter}

theorem total_append (fs gs : List Filter) : total (fs ++ gs) = total fs + total gs := by
  induction fs with
  | nil => simp [total]
  | cons f fs ih =>
    rw [List.cons_append, total, total, ih]
    omega

theorem total_of_perm (h : fs.Perm gs) : total fs = total gs := by
  induction h with
  | nil => rfl
  | cons f _ ih => rw [total, total, ih]
  | swap f g fs =>
    simp only [total]
    omega
  | trans _ _ ih ih' => rw [ih, ih']

theorem weight_pos (f : Filter) : 0 < f.weight := by
  cases f with
  | leaf | and | or => simp [weight]

/-- Without some terms a list is lighter. -/
theorem total_of_sublist (h : fs.Sublist gs) : total fs < total gs ∨ fs = gs := by
  induction h with
  | slnil => exact .inr rfl
  | cons f _ ih =>
    have := weight_pos f
    rw [total]
    rcases ih with h | rfl <;> exact .inl (by omega)
  | cons_cons f _ ih =>
    rw [total, total]
    exact ih.imp (by omega) (by rintro rfl; rfl)

theorem total_le_of_sublist (h : fs.Sublist gs) : total fs ≤ total gs := by
  rcases total_of_sublist h with h | rfl <;> omega

theorem weight_le_total {f : Filter} (h : f ∈ fs) : f.weight ≤ total fs := by
  have := total_le_of_sublist (List.singleton_sublist.mpr h)
  simpa [total] using this

end

mutual

theorem weight_of_same : ∀ {a b : Filter}, a.same b = true → a.weight = b.weight
  | leaf a, leaf b, _ => by rw [weight, weight]
  | and as, and bs, h => by
    rw [same] at h
    rw [weight, weight, total_of_sameEach h]
  | or as, or bs, h => by
    rw [same] at h
    rw [weight, weight, total_of_sameEach h]
  | leaf _, and _, h | leaf _, or _, h | and _, leaf _, h | and _, or _, h | or _, leaf _, h | or _, and _, h => by
    simp only [same, Bool.false_eq_true] at h

theorem total_of_sameEach : ∀ {as bs : List Filter}, sameEach as bs = true → total as = total bs
  | [], [], _ => rfl
  | a :: as, b :: bs, h => by
    simp only [sameEach, Bool.and_eq_true] at h
    rw [total, total, weight_of_same h.1, total_of_sameEach h.2]
  | [], _ :: _, h | _ :: _, [], h => by simp only [sameEach, Bool.false_eq_true] at h

end

/-! ## Filters with enough terms -/

mutual

/-- Every leaf has `P`, and every combination at least `n` terms. -/
def Within (P : Leaf → Prop) (n : Nat) : Filter → Prop
  | leaf l => P l
  | and fs => n ≤ fs.length ∧ WithinEach P n fs
  | or fs => n ≤ fs.length ∧ WithinEach P n fs

def WithinEach (P : Leaf → Prop) (n : Nat) : List Filter → Prop
  | [] => True
  | f :: fs => Within P n f ∧ WithinEach P n fs

end

variable {P : Leaf → Prop} {n : Nat}

theorem withinEach_iff {fs : List Filter} : WithinEach P n fs ↔ ∀ f ∈ fs, Within P n f := by
  induction fs with
  | nil => simp [WithinEach]
  | cons f fs ih => simp [WithinEach, ih]

@[simp] theorem within_leaf {l : Leaf} : Within P n (leaf l) ↔ P l := by rw [Within]

@[simp] theorem within_and {fs : List Filter} : Within P n (and fs) ↔ n ≤ fs.length ∧ ∀ f ∈ fs, Within P n f := by
  rw [Within, withinEach_iff]

@[simp] theorem within_or {fs : List Filter} : Within P n (or fs) ↔ n ≤ fs.length ∧ ∀ f ∈ fs, Within P n f := by
  rw [Within, withinEach_iff]

/-- Where every combination has a term, a filter weighs as much as a leaf at least. -/
theorem three_le_weight : ∀ {f : Filter}, Within P 2 f → 3 ≤ f.weight
  | leaf _, _ => by simp [weight]
  | and (f :: _), h => by
    have := three_le_weight ((within_and.mp h).2 f List.mem_cons_self)
    rw [weight, total]
    omega
  | or (f :: _), h => by
    have := three_le_weight ((within_or.mp h).2 f List.mem_cons_self)
    rw [weight, total]
    omega
  | and [], h => absurd (within_and.mp h).1 (by simp)
  | or [], h => absurd (within_or.mp h).1 (by simp)

/-! ## Terms of which no two are the same -/

/-- No two terms are the same. -/
def Apart (fs : List Filter) : Prop := fs.Pairwise fun f g => f.same g = false

theorem dedupAfter_append (kept fs : List Filter) : ∃ more, dedupAfter kept fs = kept ++ more ∧ more.Sublist fs := by
  fun_induction dedupAfter kept fs with
  | case1 kept => exact ⟨[], (List.append_nil kept).symm, .slnil⟩
  | case2 kept f rest _ ih =>
    obtain ⟨more, he, hs⟩ := ih
    exact ⟨more, he, hs.cons f⟩
  | case3 kept f rest _ ih =>
    obtain ⟨more, he, hs⟩ := ih
    refine ⟨f :: more, ?_, hs.cons_cons f⟩
    rw [he, List.append_assoc, List.singleton_append]

theorem dedup_sublist (fs : List Filter) : (dedup fs).Sublist fs := by
  obtain ⟨more, he, hs⟩ := dedupAfter_append [] fs
  rw [dedup, he]
  exact hs

theorem apart_dedupAfter {kept fs : List Filter} (h : Apart kept) : Apart (dedupAfter kept fs) := by
  fun_induction dedupAfter kept fs with
  | case1 kept => exact h
  | case2 kept f rest _ ih => exact ih h
  | case3 kept f rest hnew ih =>
    refine ih (List.pairwise_append.mpr ⟨h, List.pairwise_singleton _ f, ?_⟩)
    intro g hg f' hf
    rw [List.mem_singleton.mp hf]
    simpa using List.any_eq_false.mp (Bool.eq_false_iff.mpr hnew) g hg

theorem apart_dedup (fs : List Filter) : Apart (dedup fs) := apart_dedupAfter .nil

theorem memberOf_iff {fs : List Filter} {f : Filter} : memberOf fs f = true ↔ ∃ g ∈ fs, g.same f = true := by
  rw [memberOf, List.any_eq_true]

/-- Terms of which no two are the same weigh at most what a list weighs that has each of them. -/
theorem total_le_of_covered {fs gs : List Filter} (hf : Apart fs) (h : ∀ f ∈ fs, memberOf gs f = true) :
    total fs ≤ total gs := by
  induction fs generalizing gs with
  | nil => exact Nat.zero_le _
  | cons f fs ih =>
    obtain ⟨hother, hrest⟩ := List.pairwise_cons.mp hf
    obtain ⟨g, hg, hsame⟩ := memberOf_iff.mp (h f List.mem_cons_self)
    obtain ⟨before, after, rfl⟩ := List.append_of_mem hg
    have hcovered : ∀ f' ∈ fs, memberOf (before ++ after) f' = true := by
      intro f' hf'
      obtain ⟨g', hg', hsame'⟩ := memberOf_iff.mp (h f' (List.mem_cons_of_mem _ hf'))
      rw [List.mem_append, List.mem_cons] at hg'
      rcases hg' with hg' | rfl | hg'
      · exact memberOf_iff.mpr ⟨g', List.mem_append_left _ hg', hsame'⟩
      · have hff := same_trans (same_symm hsame) hsame'
        rw [hother f' hf'] at hff
        cases hff
      · exact memberOf_iff.mpr ⟨g', List.mem_append_right _ hg', hsame'⟩
    have hle := ih hrest hcovered
    have hweight := weight_of_same hsame
    rw [total_append] at hle ⊢
    rw [total, total]
    omega

theorem Apart.eq_of_same {fs : List Filter} (hf : Apart fs) {f g : Filter} (hfm : f ∈ fs) (hgm : g ∈ fs)
    (h : f.same g = true) : f = g := by
  induction fs with
  | nil => cases hfm
  | cons e fs ih =>
    obtain ⟨hother, hrest⟩ := List.pairwise_cons.mp hf
    rcases List.mem_cons.mp hfm with rfl | hfrest
    · rcases List.mem_cons.mp hgm with rfl | hgrest
      · rfl
      · rw [hother g hgrest] at h
        cases h
    · rcases List.mem_cons.mp hgm with rfl | hgrest
      · have hsame := same_symm h
        rw [hother f hfrest] at hsame
        cases hsame
      · exact ih hrest hfrest hgrest

/-- Where no two terms are the same, an order with the same term at each place is the order. -/
theorem eq_of_sameEach_of_perm {fs gs : List Filter} (hf : Apart fs) (hp : gs.Perm fs) (h : sameEach gs fs = true) :
    gs = fs := by
  have hall : ∀ {as bs : List Filter}, (∀ a ∈ as, a ∈ fs) → (∀ b ∈ bs, b ∈ fs) → sameEach as bs = true → as = bs := by
    intro as
    induction as with
    | nil =>
      intro bs _ _ h
      cases bs with
      | nil => rfl
      | cons b bs => simp only [sameEach, Bool.false_eq_true] at h
    | cons a as ih =>
      intro bs ha hb h
      cases bs with
      | nil => simp only [sameEach, Bool.false_eq_true] at h
      | cons b bs =>
        simp only [sameEach, Bool.and_eq_true] at h
        rw [List.forall_mem_cons] at ha hb
        rw [hf.eq_of_same ha.1 hb.1 h.1, ih ha.2 hb.2 h.2]
  exact hall (fun g hg => hp.mem_iff.mp hg) (fun f hf => hf) h

/-! ## Sorted terms -/

/-- The order of terms. -/
def termLe (f g : Filter) : Bool := keyLe (f.rank, f.toText) (g.rank, g.toText)

theorem sort_eq_mergeSort (fs : List Filter) : sort fs = fs.mergeSort termLe := by
  have hkeyed : (fs.map fun f => ((f.rank, f.toText), f)).map (·.2) = fs := by simp [Function.comp_def]
  unfold sort
  rw [List.map_mergeSort (s := termLe), hkeyed]
  intro a ha b hb
  obtain ⟨f, -, rfl⟩ := List.mem_map.mp ha
  obtain ⟨g, -, rfl⟩ := List.mem_map.mp hb
  rfl

theorem keyLe_iff {a b : Nat × String} : keyLe a b = true ↔ a.1 < b.1 ∨ (a.1 = b.1 ∧ a.2 ≤ b.2) := by
  simp [keyLe]

theorem termLe_trans (f g h : Filter) (hfg : termLe f g = true) (hgh : termLe g h = true) : termLe f h = true := by
  rw [termLe, keyLe_iff] at *
  rcases hfg with hfg | ⟨hfg, hle⟩
  · rcases hgh with hgh | ⟨hgh, -⟩ <;> exact .inl (by omega)
  · rcases hgh with hgh | ⟨hgh, hle'⟩
    · exact .inl (by omega)
    · exact .inr ⟨by omega, String.le_trans hle hle'⟩

theorem termLe_total (f g : Filter) : (termLe f g || termLe g f) = true := by
  rw [Bool.or_eq_true, termLe, termLe, keyLe_iff, keyLe_iff]
  rcases Nat.lt_trichotomy f.rank g.rank with hlt | heq | hgt
  · exact .inl (.inl hlt)
  · rcases String.le_total f.toText g.toText with hle | hle
    · exact .inl (.inr ⟨heq, hle⟩)
    · exact .inr (.inr ⟨heq.symm, hle⟩)
  · exact .inr (.inl hgt)

theorem sort_sort (fs : List Filter) : sort (sort fs) = sort fs := by
  rw [sort_eq_mergeSort, sort_eq_mergeSort]
  exact List.mergeSort_of_pairwise (List.pairwise_mergeSort termLe_trans termLe_total fs)

end Filter

end MapTheme
