/-
  MapTheme.Proofs.Filter.Alternatives — the query of a filter is its disjunctive normal form.

  An alternative of a filter is a list of leaves that are enough for it together (`alternatives`). The fragment texts
  of a filter are those of its alternatives, in order (`fragments_eq_map`), and whatever the truth of the leaves, the
  filter is true exactly if some alternative is true in all its leaves (`evaluate_eq_any`). A conjunction starts from
  the single empty alternative and is extended child by child (`fragments_and`); so an empty conjunction changes
  nothing in a conjunction, and an empty disjunction nothing in a disjunction (`fragments_normal_form`).
-/

import MapTheme.Filter.Writing
import MapTheme.Proofs.Filter.Meaning

namespace MapTheme.Filter

/-! ## Alternatives -/

mutual

/-- Leaves that are enough for the filter when all of them are true, one list for each way. -/
def alternatives : Filter → List (List Leaf)
  | leaf l => [[l]]
  | and fs => alternativesOfAll fs
  | or fs => alternativesOfAny fs

def alternativesOfAll : List Filter → List (List Leaf)
  | [] => [[]]
  | f :: fs => (alternatives f).flatMap fun ls => (alternativesOfAll fs).map (ls ++ ·)

def alternativesOfAny : List Filter → List (List Leaf)
  | [] => []
  | f :: fs => alternatives f ++ alternativesOfAny fs

end

/-- The fragments of some leaves, one after the other. -/
def alternativeText (ls : List Leaf) : String := String.join (ls.map Leaf.fragment)

theorem alternativeText_append (ls ms : List Leaf) :
    alternativeText (ls ++ ms) = alternativeText ls ++ alternativeText ms := by
  rw [alternativeText, List.map_append, String.join_append, alternativeText, alternativeText]

mutual

/-- Every text of the query is that of an alternative, in the same order. -/
theorem fragments_eq_map : ∀ f : Filter, f.fragments = f.alternatives.map alternativeText
  | leaf l => by
    rw [fragments, alternatives, List.map_singleton, alternativeText, List.map_singleton, String.join_cons,
      String.join_nil, String.append_empty]
  | and fs => by rw [fragments, alternatives, fragmentsOfAll_eq_map fs]
  | or fs => by rw [fragments, alternatives, fragmentsOfAny_eq_map fs]

theorem fragmentsOfAll_eq_map : ∀ fs : List Filter, fragmentsOfAll fs = (alternativesOfAll fs).map alternativeText
  | [] => rfl
  | f :: fs => by
    rw [fragmentsOfAll, alternativesOfAll, fragments_eq_map f, fragmentsOfAll_eq_map fs, List.flatMap_map,
      List.map_flatMap]
    refine congrArg (List.flatMap · f.alternatives) (funext fun ls => ?_)
    rw [List.map_map, List.map_map]
    exact List.map_congr_left fun ms _ => (alternativeText_append ls ms).symm

theorem fragmentsOfAny_eq_map : ∀ fs : List Filter, fragmentsOfAny fs = (alternativesOfAny fs).map alternativeText
  | [] => rfl
  | f :: fs => by
    rw [fragmentsOfAny, alternativesOfAny, fragments_eq_map f, fragmentsOfAny_eq_map fs, List.map_append]

end

mutual

theorem leaf_mem_of_alternative : ∀ {f : Filter} {ls : List Leaf}, ls ∈ f.alternatives → ∀ l ∈ ls, leaf l ∈ f.parts
  | leaf m, ls, hls, l, hl => by
    obtain rfl := List.mem_singleton.mp hls
    obtain rfl := List.mem_singleton.mp hl
    exact List.mem_singleton.mpr rfl
  | and fs, ls, hls, l, hl => List.mem_cons_of_mem _ (leaf_mem_of_alternativeOfAll hls l hl)
  | or fs, ls, hls, l, hl => List.mem_cons_of_mem _ (leaf_mem_of_alternativeOfAny hls l hl)

theorem leaf_mem_of_alternativeOfAll : ∀ {fs : List Filter} {ls : List Leaf}, ls ∈ alternativesOfAll fs →
    ∀ l ∈ ls, leaf l ∈ partsOfEach fs
  | [], ls, hls, l, hl => by
    obtain rfl := List.mem_singleton.mp hls
    cases hl
  | f :: fs, ls, hls, l, hl => by
    obtain ⟨first, hfirst, hls⟩ := List.mem_flatMap.mp hls
    obtain ⟨others, hothers, rfl⟩ := List.mem_map.mp hls
    rcases List.mem_append.mp hl with hl | hl
    · exact List.mem_append_left _ (leaf_mem_of_alternative hfirst l hl)
    · exact List.mem_append_right _ (leaf_mem_of_alternativeOfAll hothers l hl)

theorem leaf_mem_of_alternativeOfAny : ∀ {fs : List Filter} {ls : List Leaf}, ls ∈ alternativesOfAny fs →
    ∀ l ∈ ls, leaf l ∈ partsOfEach fs
  | [], ls, hls, l, hl => by cases hls
  | f :: fs, ls, hls, l, hl => by
    rcases List.mem_append.mp hls with hls | hls
    · exact List.mem_append_left _ (leaf_mem_of_alternative hls l hl)
    · exact List.mem_append_right _ (leaf_mem_of_alternativeOfAny hls l hl)

end

/-! ## Truth -/

mutual

/-- The truth of a filter from the truth of its leaves. -/
def evaluate (v : Leaf → Bool) : Filter → Bool
  | leaf l => v l
  | and fs => evaluateAll v fs
  | or fs => evaluateAny v fs

def evaluateAll (v : Leaf → Bool) : List Filter → Bool
  | [] => true
  | f :: fs => evaluate v f && evaluateAll v fs

def evaluateAny (v : Leaf → Bool) : List Filter → Bool
  | [] => false
  | f :: fs => evaluate v f || evaluateAny v fs

end

mutual

/-- What holds of a feature is what the leaves that hold of it make true. -/
theorem evaluate_holds (p : Properties) : ∀ f : Filter, f.evaluate (·.holds p) = f.holds p
  | leaf l => by rw [evaluate, holds]
  | and fs => by rw [evaluate, holds, evaluateAll_holds p fs]
  | or fs => by rw [evaluate, holds, evaluateAny_holds p fs]

theorem evaluateAll_holds (p : Properties) : ∀ fs : List Filter, evaluateAll (·.holds p) fs = allHold p fs
  | [] => rfl
  | f :: fs => by rw [evaluateAll, allHold, evaluate_holds p f, evaluateAll_holds p fs]

theorem evaluateAny_holds (p : Properties) : ∀ fs : List Filter, evaluateAny (·.holds p) fs = anyHolds p fs
  | [] => rfl
  | f :: fs => by rw [evaluateAny, anyHolds, evaluate_holds p f, evaluateAny_holds p fs]

end

/-- Some list of each kind is true throughout exactly if some list that joins two of them is. -/
theorem any_flatMap_append (v : Leaf → Bool) (as bs : List (List Leaf)) :
    (as.flatMap fun ls => bs.map (ls ++ ·)).any (·.all v) = (as.any (·.all v) && bs.any (·.all v)) := by
  induction as with
  | nil => rfl
  | cons ls as ih =>
    have hfirst : (bs.map (ls ++ ·)).any (·.all v) = (ls.all v && bs.any (·.all v)) := by
      simp only [List.any_map, Function.comp_def, List.all_append, List.and_any_distrib_left]
    rw [List.flatMap_cons, List.any_append, hfirst, ih, List.any_cons, Bool.and_or_distrib_right]

mutual

/-- A filter is true exactly if some alternative is true in all its leaves. -/
theorem evaluate_eq_any (v : Leaf → Bool) : ∀ f : Filter, f.evaluate v = f.alternatives.any (·.all v)
  | leaf l => by simp [evaluate, alternatives]
  | and fs => by rw [evaluate, alternatives, evaluateAll_eq_any v fs]
  | or fs => by rw [evaluate, alternatives, evaluateAny_eq_any v fs]

theorem evaluateAll_eq_any (v : Leaf → Bool) : ∀ fs : List Filter,
    evaluateAll v fs = (alternativesOfAll fs).any (·.all v)
  | [] => rfl
  | f :: fs => by
    rw [evaluateAll, alternativesOfAll, any_flatMap_append, evaluate_eq_any v f, evaluateAll_eq_any v fs]

theorem evaluateAny_eq_any (v : Leaf → Bool) : ∀ fs : List Filter,
    evaluateAny v fs = (alternativesOfAny fs).any (·.all v)
  | [] => rfl
  | f :: fs => by
    rw [evaluateAny, alternativesOfAny, List.any_append, evaluate_eq_any v f, evaluateAny_eq_any v fs]

end

theorem evaluate_iff {v : Leaf → Bool} {f : Filter} :
    f.evaluate v = true ↔ ∃ ls ∈ f.alternatives, ∀ l ∈ ls, v l = true := by
  simp only [evaluate_eq_any, List.any_eq_true, List.all_eq_true]

/-! ## Empty combinations -/

/-- The texts found so far, each with every text of the next child behind it. -/
def extended (found : List String) (f : Filter) : List String := found.flatMap fun a => f.fragments.map (a ++ ·)

/-- The query of a conjunction grows child by child from the single empty text. -/
theorem fragments_and (fs : List Filter) : (and fs).fragments = fs.foldl extended [""] := by
  have hgrow : ∀ found, fs.foldl extended found = found.flatMap fun a => (fragmentsOfAll fs).map (a ++ ·) := by
    induction fs with
    | nil => simp [fragmentsOfAll]
    | cons f fs ih =>
      intro found
      rw [List.foldl_cons, ih, extended, List.flatMap_assoc]
      simp only [fragmentsOfAll, List.flatMap_map, List.map_flatMap, List.map_map, Function.comp_def,
        String.append_assoc]
  rw [hgrow, fragments, List.flatMap_singleton]
  simp

theorem fragments_or (fs : List Filter) : (or fs).fragments = fs.flatMap fragments := by
  rw [fragments]
  induction fs with
  | nil => rfl
  | cons f fs ih => rw [fragmentsOfAny, ih, List.flatMap_cons]

theorem extended_and_nil (found : List String) : extended found (and []) = found := by
  simp [extended, fragments, fragmentsOfAll]

theorem extended_or_nil (found : List String) : extended found (or []) = [] := by
  simp [extended, fragments, fragmentsOfAny]

theorem foldl_extended_nil (fs : List Filter) : fs.foldl extended [] = [] := by
  induction fs with
  | nil => rfl
  | cons f fs ih => exact ih

/-- The query of a filter is its disjunctive normal form: the texts are those of lists of its leaves, in order, and
the filter is true for some truth of the leaves, or of a feature, exactly if all leaves of some list are. An empty
conjunction gives the single empty text and an empty disjunction none, also as a child at any place of a conjunction
or of a disjunction. -/
theorem fragments_normal_form :
    (∀ f : Filter,
      f.fragments = f.alternatives.map (fun ls => String.join (ls.map Leaf.fragment)) ∧
        (∀ ls ∈ f.alternatives, ∀ l ∈ ls, leaf l ∈ f.parts) ∧
        (∀ v : Leaf → Bool, f.evaluate v = true ↔ ∃ ls ∈ f.alternatives, ∀ l ∈ ls, v l = true) ∧
        ∀ p : Properties, f.holds p = true ↔ ∃ ls ∈ f.alternatives, ∀ l ∈ ls, l.holds p = true) ∧
      ((and []).fragments = [""] ∧ (or []).fragments = []) ∧
      ∀ before after : List Filter,
        (and (before ++ and [] :: after)).fragments = (and (before ++ after)).fragments ∧
          (and (before ++ or [] :: after)).fragments = [] ∧
          (or (before ++ and [] :: after)).fragments = (or before).fragments ++ "" :: (or after).fragments ∧
          (or (before ++ or [] :: after)).fragments = (or (before ++ after)).fragments := by
  refine ⟨fun f => ⟨fragments_eq_map f, fun ls hls => leaf_mem_of_alternative hls, fun v => evaluate_iff, fun p => ?_⟩,
    ⟨by rw [fragments, fragmentsOfAll], by rw [fragments, fragmentsOfAny]⟩, fun before after => ⟨?_, ?_, ?_, ?_⟩⟩
  · rw [← evaluate_holds, evaluate_iff]
  · rw [fragments_and, fragments_and, List.foldl_append, List.foldl_append, List.foldl_cons, extended_and_nil]
  · rw [fragments_and, List.foldl_append, List.foldl_cons, extended_or_nil, foldl_extended_nil]
  · rw [fragments_or, fragments_or, fragments_or, List.flatMap_append, List.flatMap_cons, fragments, fragmentsOfAll]
    rfl
  · rw [fragments_or, fragments_or, List.flatMap_append, List.flatMap_append, List.flatMap_cons, fragments,
      fragmentsOfAny, List.nil_append]

/-- A bench that has a backrest or is as it is. -/
def restingBench : Filter := .and [.tag "amenity" "bench", .or [.tag "backrest" "yes", .or [], .and []]]

/-- A bench without a backrest is found by the second text, as its only leaf holds. -/
theorem fragments_normal_form_bench :
    restingBench.fragments = ["[\"amenity\"=\"bench\"][\"backrest\"=\"yes\"]", "[\"amenity\"=\"bench\"]"] ∧
      [Leaf.tag "amenity" "bench"] ∈ restingBench.alternatives ∧ leaf (.tag "amenity" "bench") ∈ restingBench.parts ∧
      (∀ l ∈ [Leaf.tag "amenity" "bench"], l.holds (.ofList [("amenity", "bench")]) = true) ∧
      restingBench.holds (.ofList [("amenity", "bench")]) = true := by
  obtain ⟨htexts, hleaves, -, hholds⟩ := fragments_normal_form.1 restingBench
  have hmem : [Leaf.tag "amenity" "bench"] ∈ restingBench.alternatives := by decide
  have htrue : ∀ l ∈ [Leaf.tag "amenity" "bench"], l.holds (.ofList [("amenity", "bench")]) = true := by decide
  refine ⟨htexts.trans (by decide), hmem, hleaves _ hmem _ List.mem_cons_self, htrue, ?_⟩
  exact (hholds _).mpr ⟨_, hmem, htrue⟩

end MapTheme.Filter
